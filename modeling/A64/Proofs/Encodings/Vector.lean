import A64.Proofs.Encodings.VectorClass
import A64.Proofs.Slot

/-!
# Encodings of copies and permutations

What the encodings of vector instructions share: sizes, operands of equal shape, and operations that
have a name for each half of a vector. Then the encodings of the classes that move elements, read
off their tables, with the theorem for each decoder that they describe what it accepts.
-/

namespace A64.Decode

open Encoding Slot

variable {w : Word} {d : Decoded}

theorem elementSize_mem (w : Word) : elementSize w ∈ anySize := by
  have hall : ∀ b : BitVec 2, ElementSize.ofField b ∈ anySize := by decide
  exact hall _

@[simp] theorem ofNat_elementSize (w : Word) :
    BitVec.ofNat 2 (elementSize w).log2 = w.field 22 2 := by
  have hall : ∀ b : BitVec 2, BitVec.ofNat 2 (ElementSize.ofField b).log2 = b := by decide
  exact hall _

def singleOrDouble : List ElementSize := [.s, .d]

/-- The low bit of the size in a floating-point word, which only single precision leaves clear. -/
def precisionBit : ElementSize → Nat
  | .s => 0
  | _ => 1

theorem floatSize_mem (w : Word) : floatSize w ∈ singleOrDouble := by
  unfold floatSize
  split <;> decide

theorem field_eq_precisionBit (w : Word) :
    w.field 22 1 = BitVec.ofNat 1 (precisionBit (floatSize w)) := by
  rw [Word.field_eq_bit, floatSize]
  cases w.bit 22 <;> rfl

def vectorSlots2 (e : ElementSize) : List Slot := [.vector e rd, .vector e rn]

def vectorSlots3 (e : ElementSize) : List Slot := [.vector e rd, .vector e rn, .vector e rm]

def scalarSlots2 (e : ElementSize) : List Slot := [.scalar e rd, .scalar e rn]

def scalarSlots3 (e : ElementSize) : List Slot := [.scalar e rd, .scalar e rn, .scalar e rm]

section

variable (e : ElementSize)

@[simp] theorem hold_vectorSlots2 : Hold (vectorSlots2 e) w := by simp [vectorSlots2]

@[simp] theorem hold_vectorSlots3 : Hold (vectorSlots3 e) w := by simp [vectorSlots3]

@[simp] theorem hold_scalarSlots2 : Hold (scalarSlots2 e) w := by simp [scalarSlots2]

@[simp] theorem hold_scalarSlots3 : Hold (scalarSlots3 e) w := by simp [scalarSlots3]

end

/-- The encodings of an operation on the lower half of a vector and of its counterpart on the
upper. -/
def halves (lower upper : Operation) (slots : List Slot) (fixed : List (Field × Nat)) :
    List Encoding :=
  [false, true].map fun q => ⟨if q then upper else lower, slots, (⟨30, 1⟩, q.toNat) :: fixed⟩

theorem described_halves {lower upper : Operation} {slots : List Slot} {fixed : List (Field × Nat)}
    (hfixed : HasFields fixed w) (hslots : Hold slots w) :
    Described (halves lower upper slots fixed) w
      ⟨if w.q then upper else lower, slots.map (·.operand w)⟩ := by
  refine .map (a := w.q) ?_ ⟨?_, hslots, rfl⟩
  · cases w.q <;> simp
  · simp [hfixed]

def copyIndex (e : ElementSize) : Field := ⟨16 + (e.log2 + 1), 4 - e.log2⟩

/-- The bits that tell the element of a copy. -/
def copyMark (e : ElementSize) : Field × Nat := (⟨16, e.log2 + 1⟩, 2 ^ e.log2)

theorem copyLane?_eq_some {e : ElementSize} {index : Nat}
    (h : copyLane? (w.field 16 5) = some (e, index)) :
    e ∈ anySize ∧ HasFields [copyMark e] w ∧
      index = (w.field (copyIndex e).start (copyIndex e).width).toNat := by
  have hall : ∀ b : BitVec 5, ∀ p ∈ copyLane? b, p.1 ∈ anySize ∧
      b.extractLsb' 0 (p.1.log2 + 1) = BitVec.ofNat (p.1.log2 + 1) (2 ^ p.1.log2) ∧
      p.2 = (b.extractLsb' (p.1.log2 + 1) (4 - p.1.log2)).toNat := by decide
  obtain ⟨he, hmark, hindex⟩ := hall _ _ h
  have hlog : e.log2 ≤ 4 := by cases e <;> decide
  dsimp only at hmark hindex
  rw [w.field_field (by omega)] at hmark hindex
  exact ⟨he, by simpa [copyMark] using hmark, hindex⟩

/-- Instructions that do not show all bits of their words: the copy of a lane to another, the copy
of a general-purpose register to all lanes, and comparisons with zero. -/
def LeavesBitsOut (d : Decoded) : Prop :=
  match d.operation, d.operands.map Operand.kind with
  | .mov, [.lane _, .lane _] => True
  | .dup, [.vector _, .general _] => True
  | .fcmp, _ | .fcmpe, _ => floatZero ∈ d.operands
  | _, _ => False

def copyFixed (imm4 : Nat) (e : ElementSize) : List (Field × Nat) :=
  VectorClass.copy.fixed ++ [(⟨29, 1⟩, 0), (⟨11, 4⟩, imm4), copyMark e]

def duplicateEncodings : List Encoding :=
  anySize.map fun e => ⟨.dup, [.vector e rd, .lane e rn (copyIndex e)], copyFixed 0 e⟩

def insertEncodings : List Encoding :=
  anySize.map fun e =>
    ⟨.mov, [.lane e rd (copyIndex e), .gpr (e = .d) rn], (⟨30, 1⟩, 1) :: copyFixed 3 e⟩

def signedMoveEncodings : List Encoding :=
  [(ElementSize.b, false), (.b, true), (.h, false), (.h, true), (.s, true)].map fun (e, q) =>
    ⟨.smov, [.gpr q rd, .lane e rn (copyIndex e)], (⟨30, 1⟩, q.toNat) :: copyFixed 5 e⟩

def unsignedMoveEncodings : List Encoding :=
  anySize.map fun e =>
    ⟨if e = .b ∨ e = .h then .umov else .mov, [.gpr (e = .d) rd, .lane e rn (copyIndex e)],
      (⟨30, 1⟩, (decide (e = .d)).toNat) :: copyFixed 7 e⟩

def copyEncodings : List Encoding :=
  [duplicateEncodings, insertEncodings, signedMoveEncodings, unsignedMoveEncodings].flatten

theorem described_copy (hw : HasFields VectorClass.copy.fixed w) (h : copy w = .ok d)
    (hd : ¬ LeavesBitsOut d) : Described copyEncodings w d := by
  simp only [copy] at h
  cases hlane : copyLane? (w.field 16 5) with
  | none => simp [hlane, reserved] at h
  | some p =>
    obtain ⟨e, index⟩ := p
    obtain ⟨he, hmark, rfl⟩ := copyLane?_eq_some hlane
    simp only [hlane] at h
    split at h
    · split at h <;> cases h
      exact absurd trivial hd
    · rename_i h29
      have hfixed {imm4 : BitVec 4} (himm4 : w.field 11 4 = imm4) :
          HasFields (copyFixed imm4.toNat e) w := by
        simp_all [copyFixed, Word.field_eq_zero_iff]
      split at h <;> rename_i himm4
      · split at h <;> cases h
        refine .of_part (l := duplicateEncodings) (by simp) (.map he ⟨hfixed himm4, ?_, rfl⟩)
        simp
      · -- The copy of a general-purpose register to all lanes ignores bits of the index.
        split at h <;> cases h
        refine absurd ?_ hd
        cases e <;> trivial
      · split at h <;> cases h
        rename_i hq
        refine .of_part (l := insertEncodings) (by simp) (.map he ⟨?_, ?_, rfl⟩)
        · exact hasFields_cons.2 ⟨Word.field_eq_one_iff.2 hq, hfixed himm4⟩
        · simp
      · split at h <;> cases h
        rename_i hsize
        refine .of_part (l := signedMoveEncodings) (by simp)
          (.map (a := (e, w.q)) ?_ ⟨?_, ?_, rfl⟩)
        · rcases hsize with rfl | rfl | ⟨rfl, hq⟩
          · cases w.q <;> decide
          · cases w.q <;> decide
          · rw [hq]; decide
        · exact hasFields_cons.2 ⟨by simp, hfixed himm4⟩
        · simp
      · split at h <;> cases h
        rename_i hq
        rw [← hq]
        refine .of_part (l := unsignedMoveEncodings) (by simp) (.map he ⟨?_, ?_, rfl⟩)
        · exact hasFields_cons.2 ⟨by simp [hq], hfixed himm4⟩
        · simp
      · cases h

def tableLookupEncodings : List Encoding :=
  (flagged (bitVectors 2)).map fun (extend, last) =>
    ⟨if extend then .tbx else .tbl,
      [.vector .b rd, .vectorList (last.toNat + 1) (.full .b true) rn, .vector .b rm],
      VectorClass.tableLookup.fixed ++
        [(⟨22, 2⟩, 0), (⟨13, 2⟩, last.toNat), (⟨12, 1⟩, extend.toNat)]⟩

theorem described_tableLookup (hw : HasFields VectorClass.tableLookup.fixed w)
    (h : tableLookup w = .ok d) : Described tableLookupEncodings w d := by
  simp only [tableLookup] at h
  split at h <;> cases h
  rename_i hsize
  refine .map (a := (w.bit 12, w.field 13 2)) ?_ ⟨?_, ?_, rfl⟩
  · simp
  · simpa [hw] using hsize
  · simp

def permuteEncodings : List Encoding :=
  ofTable (bitVectors 3) permutation? fun opcode op => anySize.map fun e =>
    ⟨op, vectorSlots3 e,
      VectorClass.permute.fixed ++ [(⟨22, 2⟩, e.log2), (⟨12, 3⟩, opcode.toNat)]⟩

theorem described_permute (hw : HasFields VectorClass.permute.fixed w) (h : permute w = .ok d) :
    Described permuteEncodings w d := by
  simp only [permute] at h
  cases hrow : permutation? (w.field 12 3) with
  | none => simp [hrow, reserved] at h
  | some op =>
    simp only [hrow] at h
    split at h <;> cases h
    refine .ofTable (mem_bitVectors _) hrow (.map (elementSize_mem w) ⟨?_, ?_, rfl⟩)
    · simp [hw]
    · simp

def extractEncodings : List Encoding :=
  [⟨.ext, vectorSlots3 .b ++ [.imm 11 4],
    VectorClass.extractVector.fixed ++ [(⟨22, 2⟩, 0)]⟩]

theorem described_extractVector (hw : HasFields VectorClass.extractVector.fixed w)
    (h : extractVector w = .ok d) : Described extractEncodings w d := by
  simp only [extractVector] at h
  split at h <;> cases h
  refine .single ⟨?_, ?_, rfl⟩
  · simp_all
  · simp

def scalarCopyEncodings : List Encoding :=
  anySize.map fun e => ⟨.mov, [.scalar e rd, .lane e rn (copyIndex e)],
    VectorClass.scalarCopy.fixed ++ [(⟨29, 1⟩, 0), (⟨11, 4⟩, 0), copyMark e]⟩

theorem described_scalarCopy (hw : HasFields VectorClass.scalarCopy.fixed w)
    (h : scalarCopy w = .ok d) : Described scalarCopyEncodings w d := by
  simp only [scalarCopy] at h
  cases hlane : copyLane? (w.field 16 5) with
  | none => simp [hlane, reserved] at h
  | some p =>
    obtain ⟨e, index⟩ := p
    obtain ⟨he, hmark, rfl⟩ := copyLane?_eq_some hlane
    simp only [hlane] at h
    split at h <;> cases h
    refine .map he ⟨?_, ?_, rfl⟩
    · simp_all [Word.field_eq_zero_iff]
    · simp

end A64.Decode
