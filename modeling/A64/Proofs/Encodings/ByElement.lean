import A64.Proofs.Encodings.Vector

/-!
# Encodings of multiplications by an element

The smaller the element, the more bits of the word its lane takes, so the slot of the element
depends on its size.
-/

namespace A64.Decode

open Encoding Slot

variable {w : Word} {d : Decoded}

def laneOfTwoBits (a : Arrangement) : Slot :=
  laneOf a (·.field rm 5) laneHL [⟨rm, 5⟩, ⟨11, 1⟩, ⟨21, 1⟩] (by
    intro w w' hn hi
    obtain ⟨h11, h21⟩ := Field.append_inj (BitVec.eq_of_toNat_eq hi)
    simp [hn, h11, h21])

/-- A lane that three bits number, of a vector that four bits number. -/
def laneOfThreeBits : Slot :=
  laneOf (.single .h) (fun w => (w.field 16 4).setWidth 5)
    (fun w => (w.field 11 1 ++ w.field 21 1 ++ w.field 20 1).toNat)
    [⟨16, 4⟩, ⟨11, 1⟩, ⟨21, 1⟩, ⟨20, 1⟩] (by
      intro w w' hn hi
      have h16 : w.field 16 4 = w'.field 16 4 := by
        simpa using congrArg (BitVec.setWidth 4) hn
      obtain ⟨hi, h20⟩ := Field.append_inj (BitVec.eq_of_toNat_eq hi)
      obtain ⟨h11, h21⟩ := Field.append_inj hi
      simp [h16, h11, h21, h20])

/-- The size of the element that the field of the size selects. -/
def indexedSize (size : BitVec 2) : ElementSize :=
  match size with
  | 0b00 | 0b01 => .h
  | 0b10 => .s
  | _ => .d

def indexed : ElementSize → Slot
  | .h => laneOfThreeBits
  | .s => laneOfTwoBits (.single .s)
  | e => .lane e rm ⟨11, 1⟩

/-- The bits that the lane of an element leaves free. -/
def indexedFixed : ElementSize → List (Field × Nat)
  | .d => [(⟨21, 1⟩, 0)]
  | _ => []

@[simp] theorem holds_indexed (e : ElementSize) : (indexed e).Holds w := by
  cases e <;> trivial

@[simp] theorem holds_laneOfTwoBits (a : Arrangement) : (laneOfTwoBits a).Holds w := trivial

theorem indexedElement?_eq_some {i : IndexedElement} (h : indexedElement? w = some i) :
    i.size = indexedSize (w.field 22 2) ∧ i.operand = (indexed i.size).operand w ∧
      HasFields (indexedFixed i.size) w := by
  unfold indexedElement? at h
  split at h
  · cases h
    simp_all [indexedSize, indexedFixed]
    rfl
  · cases h
    simp_all [indexedSize, indexedFixed]
    rfl
  · cases h
    simp_all [indexedSize, indexedFixed]
    rfl
  · split at h <;> cases h
    rename_i h0 h1 h2 h21
    refine ⟨?_, rfl, by simpa [indexedFixed, Word.field_eq_zero_iff] using h21⟩
    unfold indexedSize
    split <;> simp_all

/-- The values of the size that an operation of a shape accepts. -/
def ByElementShape.sizes : ByElementShape → List (BitVec 2)
  | float => [0b00, 0b10, 0b11]
  | integer | long _ => [0b01, 0b10]
  | dot => [0b10]
  | complex => []

/-- The encodings of a multiplication by an element, complex ones apart. -/
def ByElementShape.encodings (op : Operation) (e : ElementSize) (fixed : List (Field × Nat)) :
    ByElementShape → List Encoding
  | float | integer => [⟨op, vectorSlots2 e ++ [indexed e], indexedFixed e ++ fixed⟩]
  | long upper =>
    halves op upper [.wide e.double rd, .vector e rn, indexed e] (indexedFixed e ++ fixed)
  | dot => [⟨op, [.vector .s rd, .vector .b rn, laneOfTwoBits ⟨.b, 4⟩], fixed⟩]
  | complex => []

def byElementFixed (u : Bool) (size : BitVec 2) (opcode : BitVec 4) : List (Field × Nat) :=
  VectorClass.byElement.fixed ++
    [(⟨29, 1⟩, u.toNat), (⟨22, 2⟩, size.toNat), (⟨12, 4⟩, opcode.toNat)]

def realByElementEncodings : List Encoding :=
  ofTable (flagged (bitVectors 4)) (fun (u, opcode) => byElement? u opcode)
    fun (u, opcode) (op, shape) => shape.sizes.flatMap fun size =>
      shape.encodings op (indexedSize size) (byElementFixed u size opcode)

theorem described_realByElement (hw : HasFields VectorClass.byElement.fixed w) {op : Operation}
    {shape : ByElementShape} (hrow : byElement? w.u (w.field 12 4) = some (op, shape))
    (hsize : w.field 22 2 ∈ shape.sizes)
    (h : ∀ fixed, HasFields fixed w →
      Described (shape.encodings op (indexedSize (w.field 22 2)) fixed) w d) :
    Described realByElementEncodings w d := by
  refine .ofTable (k := (w.u, w.field 12 4)) (by simp) hrow (.flatMap hsize (h _ ?_))
  simp [byElementFixed, hw]

def complexElementFixed (size : Nat) : List (Field × Nat) :=
  VectorClass.byElement.fixed ++
    [(⟨29, 1⟩, 1), (⟨22, 2⟩, size), (⟨15, 1⟩, 0), (⟨12, 1⟩, 1)]

def halfComplex : Encoding :=
  ⟨.fcmla, vectorSlots2 .h ++ [laneOfTwoBits (.single .h), .quarterTurns 13], complexElementFixed 1⟩

def singleComplex : Encoding :=
  ⟨.fcmla, vectorSlots2 .s ++ [.lane .s rm ⟨11, 1⟩, .quarterTurns 13],
    complexElementFixed 2 ++ [(⟨30, 1⟩, 1), (⟨21, 1⟩, 0)]⟩

def complexByElementEncodings : List Encoding := [halfComplex, singleComplex]

/-- Two bits of the opcode give the rotation of a complex multiplication, the others are fixed. -/
theorem hasFields_of_complex (hw : HasFields VectorClass.byElement.fixed w) {op : Operation}
    (hrow : byElement? w.u (w.field 12 4) = some (op, .complex)) :
    op = .fcmla ∧ HasFields (complexElementFixed (w.field 22 2).toNat) w := by
  have hall : ∀ (u : Bool) (b : BitVec 4), ∀ p ∈ byElement? u b, p.2 = .complex →
      p.1 = .fcmla ∧ u = true ∧ b.extractLsb' 3 1 = 0#1 ∧ b.extractLsb' 0 1 = 1#1 := by decide
  obtain ⟨hop, hu, h15, h12⟩ := hall _ _ _ hrow rfl
  rw [w.field_field (by decide)] at h15 h12
  exact ⟨hop, by simp [complexElementFixed, hw, h15, h12, Word.field_eq_one_iff.2 hu]⟩

theorem described_complexByElement (hw : HasFields VectorClass.byElement.fixed w) {op : Operation}
    (hrow : byElement? w.u (w.field 12 4) = some (op, .complex))
    (h : complexByElement w op = .ok d) : Described complexByElementEncodings w d := by
  obtain ⟨rfl, hfixed⟩ := hasFields_of_complex hw hrow
  simp only [complexByElement] at h
  split at h
  · rename_i hsize
    cases h
    rw [hsize] at hfixed
    exact .of_mem (e := halfComplex) (by simp [complexByElementEncodings])
      ⟨hfixed, by simp [halfComplex], rfl⟩
  · rename_i hsize
    split at h <;> cases h
    rename_i hq
    rw [hsize] at hfixed
    refine .of_mem (e := singleComplex) (by simp [complexByElementEncodings])
      ⟨?_, by simp [singleComplex], rfl⟩
    refine hasFields_append.2 ⟨hfixed, ?_⟩
    simp [Word.field_eq_one_iff.2 hq.1, Word.field_eq_zero_iff.2 hq.2]
  · cases h

def byElementEncodings : List Encoding :=
  [realByElementEncodings, complexByElementEncodings].flatten

theorem mem_sizes_of_mem (h : elementSize w ∈ halfOrSingle) :
    w.field 22 2 ∈ ByElementShape.integer.sizes := by
  have hall : ∀ b : BitVec 2, ElementSize.ofField b ∈ halfOrSingle →
      b ∈ ByElementShape.integer.sizes := by decide
  exact hall _ h

theorem described_byElement (hw : HasFields VectorClass.byElement.fixed w)
    (h : byElement w = .ok d) : Described byElementEncodings w d := by
  simp only [byElement] at h
  split at h
  · cases h
  · rename_i op hrow
    simp only [dotByElement] at h
    split at h <;> cases h
    rename_i hsize
    refine .of_part (by simp) (described_realByElement hw hrow ?_ fun fixed hfixed => ?_)
    · simpa [ByElementShape.sizes] using hsize
    · exact .single ⟨hfixed, by simp, rfl⟩
  · rename_i op hrow
    exact .of_part (by simp) (described_complexByElement hw hrow h)
  · rename_i op hrow
    split at h
    · cases h
    · rename_i he
      have hsize : ∀ b : BitVec 2, ElementSize.ofField b ≠ .h →
          b ∈ ByElementShape.float.sizes := by decide
      refine .of_part (by simp)
        (described_realByElement hw hrow (hsize _ he) fun fixed hfixed => ?_)
      split at h
      · cases h
      · rename_i i hi
        obtain ⟨hisize, hoperand, hbits⟩ := indexedElement?_eq_some hi
        split at h <;> cases h
        rw [hoperand, ← hisize]
        exact .single ⟨hasFields_append.2 ⟨hbits, hfixed⟩, by simp, rfl⟩
  · rename_i op hrow
    split at h
    · cases h
    · rename_i he
      refine .of_part (by simp) (described_realByElement hw hrow
        (mem_sizes_of_mem (not_not.1 he)) fun fixed hfixed => ?_)
      split at h
      · cases h
      · rename_i i hi
        obtain ⟨hisize, hoperand, hbits⟩ := indexedElement?_eq_some hi
        cases h
        rw [hoperand, ← hisize]
        exact .single ⟨hasFields_append.2 ⟨hbits, hfixed⟩, by simp, rfl⟩
  · -- A long product has two operations, one for each half of the sources.
    rename_i op upper hrow
    split at h
    · cases h
    · rename_i he
      refine .of_part (by simp) (described_realByElement hw hrow
        (mem_sizes_of_mem (not_not.1 he)) fun fixed hfixed => ?_)
      split at h
      · cases h
      · rename_i i hi
        obtain ⟨hisize, hoperand, hbits⟩ := indexedElement?_eq_some hi
        cases h
        rw [hoperand, ← hisize]
        exact described_halves (hasFields_append.2 ⟨hbits, hfixed⟩) (by simp)

def ByElementShape.product (e : ElementSize) : ByElementShape → ElementSize
  | long _ => e.double
  | _ => e

def scalarByElementEncodings : List Encoding :=
  ofTable (flagged (bitVectors 4)) (fun (u, opcode) => byElement? u opcode)
    fun (u, opcode) (op, shape) =>
      ((bitVectors 2).filter fun size => hasScalarForm op (.ofField size) shape).map fun size =>
        ⟨op, [.scalar (shape.product (indexedSize size)) rd, .scalar (indexedSize size) rn,
          indexed (indexedSize size)], indexedFixed (indexedSize size) ++
            VectorClass.scalarByElement.fixed ++
              [(⟨29, 1⟩, u.toNat), (⟨22, 2⟩, size.toNat), (⟨12, 4⟩, opcode.toNat)]⟩

theorem described_scalarByElement (hw : HasFields VectorClass.scalarByElement.fixed w)
    (h : scalarByElement w = .ok d) : Described scalarByElementEncodings w d := by
  simp only [scalarByElement] at h
  cases hrow : byElement? w.u (w.field 12 4) with
  | none => simp [hrow, reserved] at h
  | some row =>
    obtain ⟨op, shape⟩ := row
    simp only [hrow] at h
    split at h
    · cases h
    · rename_i hform
      split at h
      · cases h
      · rename_i i hi
        obtain ⟨hisize, hoperand, hbits⟩ := indexedElement?_eq_some hi
        cases h
        rw [hisize] at hbits
        rw [hoperand, hisize]
        refine .ofTable (k := (w.u, w.field 12 4)) (by simp) hrow
          (.map (a := w.field 22 2) ?_ ⟨?_, ?_, ?_⟩)
        · exact List.mem_filter.2 ⟨by simp, eq_true_of_ne_false hform⟩
        · simp [hbits, hw]
        · simp
        · cases shape <;> rfl

end A64.Decode
