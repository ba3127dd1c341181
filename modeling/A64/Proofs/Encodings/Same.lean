import A64.Proofs.Encodings.Vector

/-!
# Encodings of operations on three registers

The encodings of operations on three vectors or scalars, of one shape or of different shapes, with
the theorem for each decoder that they describe what it accepts.
-/

namespace A64.Decode

open Encoding Slot

variable {w : Word} {d : Decoded}

def ofFloatSame (row? : Bool → Bool → BitVec 3 → Option Operation)
    (slots : ElementSize → List Slot) (sizes : List ElementSize) (fixed : List (Field × Nat)) :
    List Encoding :=
  ofTable (flagged (flagged (bitVectors 3))) (fun (u, a, opcode) => row? u a opcode)
    fun (u, a, opcode) op => sizes.map fun e =>
      ⟨op, slots e, fixed ++ [(⟨29, 1⟩, u.toNat), (⟨23, 1⟩, a.toNat), (⟨22, 1⟩, precisionBit e),
        (⟨11, 3⟩, opcode.toNat)]⟩

theorem described_ofFloatSame {row? : Bool → Bool → BitVec 3 → Option Operation}
    {slots : ElementSize → List Slot} {sizes : List ElementSize} {fixed : List (Field × Nat)}
    {op : Operation} {e : ElementSize} (hfixed : HasFields fixed w)
    (hrow : row? w.u (w.bit 23) (w.field 11 3) = some op) (he : e ∈ sizes)
    (hbit : w.field 22 1 = BitVec.ofNat 1 (precisionBit e)) (hslots : Hold (slots e) w) :
    Described (ofFloatSame row? slots sizes fixed) w ⟨op, (slots e).map (·.operand w)⟩ := by
  refine .ofTable (k := (w.u, w.bit 23, w.field 11 3)) ?_ hrow (.map he ⟨?_, hslots, rfl⟩)
  · simp
  · simp [hfixed, hbit]

def floatSameEncodings : List Encoding :=
  ofFloatSame floatSame? vectorSlots3 singleOrDouble
    (VectorClass.threeSame.fixed ++ [(⟨14, 2⟩, 3)])

theorem described_floatSame (hw : HasFields VectorClass.threeSame.fixed w)
    (h14 : w.field 14 2 = 3#2) (h : floatSame w = .ok d) : Described floatSameEncodings w d := by
  simp only [floatSame] at h
  cases hrow : floatSame? w.u (w.bit 23) (w.field 11 3) with
  | none => simp [hrow, reserved] at h
  | some op =>
    simp only [hrow] at h
    split at h <;> cases h
    refine described_ofFloatSame ?_ hrow (floatSize_mem w) (field_eq_precisionBit w) ?_
    · simp [hw, h14]
    · simp

def scalarFloatSameEncodings : List Encoding :=
  ofFloatSame scalarFloatSame? scalarSlots3 singleOrDouble
    (VectorClass.scalarThreeSame.fixed ++ [(⟨14, 2⟩, 3)])

theorem described_scalarFloatSame (hw : HasFields VectorClass.scalarThreeSame.fixed w)
    (h14 : w.field 14 2 = 3#2) (h : scalarFloatSame w = .ok d) :
    Described scalarFloatSameEncodings w d := by
  simp only [scalarFloatSame] at h
  cases hrow : scalarFloatSame? w.u (w.bit 23) (w.field 11 3) with
  | none => simp [hrow, reserved] at h
  | some op =>
    simp only [hrow] at h
    cases h
    refine described_ofFloatSame ?_ hrow (floatSize_mem w) (field_eq_precisionBit w) ?_
    · simp [hw, h14]
    · simp

def halfSameEncodings : List Encoding :=
  ofFloatSame floatSame? vectorSlots3 [.h] VectorClass.halfSame.fixed

theorem described_halfSame (hw : HasFields VectorClass.halfSame.fixed w)
    (h : halfSame w = .ok d) : Described halfSameEncodings w d := by
  simp only [halfSame] at h
  cases hrow : floatSame? w.u (w.bit 23) (w.field 11 3) with
  | none => simp [hrow, reserved] at h
  | some op =>
    simp only [hrow] at h
    cases h
    have h22 : w.field 22 1 = 1#1 := hw (⟨22, 1⟩, 1) (by decide)
    exact described_ofFloatSame hw hrow List.mem_cons_self h22 (hold_vectorSlots3 .h)

def scalarHalfSameEncodings : List Encoding :=
  ofFloatSame scalarFloatSame? scalarSlots3 [.h] VectorClass.scalarHalfSame.fixed

theorem described_scalarHalfSame (hw : HasFields VectorClass.scalarHalfSame.fixed w)
    (h : scalarHalfSame w = .ok d) : Described scalarHalfSameEncodings w d := by
  simp only [scalarHalfSame] at h
  cases hrow : scalarFloatSame? w.u (w.bit 23) (w.field 11 3) with
  | none => simp [hrow, reserved] at h
  | some op =>
    simp only [hrow] at h
    cases h
    have h22 : w.field 22 1 = 1#1 := hw (⟨22, 1⟩, 1) (by decide)
    exact described_ofFloatSame hw hrow List.mem_cons_self h22 (hold_scalarSlots3 .h)

/-- The encodings of the integer operations, on the sizes that a form of them accepts. -/
def ofIntegerSame (sizes : SameRow → List ElementSize) (slots : ElementSize → List Slot)
    (fixed : List (Field × Nat)) : List Encoding :=
  ofTable (flagged (bitVectors 5)) (fun (u, opcode) => integerSame? u opcode)
    fun (u, opcode) row => (sizes row).map fun e =>
      ⟨row.operation, slots e,
        fixed ++ [(⟨29, 1⟩, u.toNat), (⟨22, 2⟩, e.log2), (⟨11, 5⟩, opcode.toNat)]⟩

theorem described_ofIntegerSame {sizes : SameRow → List ElementSize}
    {slots : ElementSize → List Slot} {fixed : List (Field × Nat)} {row : SameRow}
    (hfixed : HasFields fixed w) (hrow : integerSame? w.u (w.field 11 5) = some row)
    (he : elementSize w ∈ sizes row) (hslots : Hold (slots (elementSize w)) w) :
    Described (ofIntegerSame sizes slots fixed) w
      ⟨row.operation, (slots (elementSize w)).map (·.operand w)⟩ := by
  refine .ofTable (k := (w.u, w.field 11 5)) ?_ hrow (.map he ⟨?_, hslots, rfl⟩)
  · simp
  · simp [hfixed]

def integerSameEncodings : List Encoding :=
  ofIntegerSame SameRow.sizes vectorSlots3 VectorClass.threeSame.fixed

theorem described_integerSame (hw : HasFields VectorClass.threeSame.fixed w)
    (h : integerSame w = .ok d) : Described integerSameEncodings w d := by
  simp only [integerSame] at h
  cases hrow : integerSame? w.u (w.field 11 5) with
  | none => simp [hrow, reserved] at h
  | some row =>
    simp only [hrow] at h
    split at h <;> cases h
    rename_i hsize
    have he : elementSize w ∈ row.sizes := by
      by_contra he
      exact hsize (.inl he)
    exact described_ofIntegerSame hw hrow he (hold_vectorSlots3 _)

def scalarIntegerSameEncodings : List Encoding :=
  ofIntegerSame (·.scalarSizes.getD []) scalarSlots3 VectorClass.scalarThreeSame.fixed

def bitwiseSameEncodings : List Encoding :=
  (flagged (bitVectors 2)).map fun (u, size) =>
    ⟨bitwiseSame u size, vectorSlots3 .b, VectorClass.threeSame.fixed ++
      [(⟨29, 1⟩, u.toNat), (⟨22, 2⟩, size.toNat), (⟨11, 5⟩, 3)]⟩

/-- The move is an inclusive or whose sources are one register. -/
def moveVectorEncodings : List Encoding :=
  [⟨.mov, [.vector .b rd, .twin .b rn rm],
    VectorClass.threeSame.fixed ++ [(⟨29, 1⟩, 0), (⟨22, 2⟩, 2), (⟨11, 5⟩, 3)]⟩]

def bitwiseEncodings : List Encoding := [bitwiseSameEncodings, moveVectorEncodings].flatten

theorem described_bitwise (hw : HasFields VectorClass.threeSame.fixed w)
    (h11 : w.field 11 5 = 3#5) (h : bitwise w = .ok d) : Described bitwiseEncodings w d := by
  simp only [bitwise] at h
  split at h <;> cases h
  · rename_i halias
    have hrow : ∀ (u : Bool) (size : BitVec 2), bitwiseSame u size = .orr →
        u = false ∧ size = 2#2 := by decide
    obtain ⟨hu, hsize⟩ := hrow _ _ halias.1
    refine .of_part (l := moveVectorEncodings) (by simp) (.single ⟨?_, ?_, rfl⟩)
    · simp [hw, h11, hsize, Word.field_eq_zero_iff.2 hu]
    · have heq : w.field 5 5 = w.field 16 5 := halias.2
      simp [heq]
  · refine .of_part (l := bitwiseSameEncodings) (by simp)
      (.map (a := (w.u, w.field 22 2)) ?_ ⟨?_, ?_, rfl⟩)
    · simp
    · simp [hw, h11]
    · simp

def threeSameEncodings : List Encoding :=
  [floatSameEncodings, bitwiseEncodings, integerSameEncodings].flatten

theorem described_threeSame (hw : HasFields VectorClass.threeSame.fixed w)
    (h : threeSame w = .ok d) : Described threeSameEncodings w d := by
  simp only [threeSame] at h
  split at h
  · exact .of_part (by simp) (described_floatSame hw ‹_› h)
  · split at h
    · exact .of_part (by simp) (described_bitwise hw ‹_› h)
    · exact .of_part (by simp) (described_integerSame hw h)

def scalarThreeSameEncodings : List Encoding :=
  [scalarFloatSameEncodings, scalarIntegerSameEncodings].flatten

theorem described_scalarThreeSame (hw : HasFields VectorClass.scalarThreeSame.fixed w)
    (h : scalarThreeSame w = .ok d) : Described scalarThreeSameEncodings w d := by
  simp only [scalarThreeSame] at h
  split at h
  · exact .of_part (by simp) (described_scalarFloatSame hw ‹_› h)
  · split at h
    · cases h
    · cases h
    · rename_i op vectorSizes sizes hrow
      split at h <;> cases h
      rename_i he
      exact .of_part (l := scalarIntegerSameEncodings) (by simp)
        (described_ofIntegerSame hw hrow he (hold_scalarSlots3 _))

def dotEncodings : List Encoding :=
  [false, true].map fun u =>
    ⟨if u then .udot else .sdot, [.vector .s rd, .vector .b rn, .vector .b rm],
      VectorClass.threeSameExtra.fixed ++ [(⟨29, 1⟩, u.toNat), (⟨22, 2⟩, 2), (⟨11, 4⟩, 2)]⟩

/-- The encodings of multiplications that add to their destination or subtract from it. -/
def accumulate (slots : ElementSize → List Slot) (fixed : List (Field × Nat)) : List Encoding :=
  (flagged halfOrSingle).map fun (subtract, e) =>
    ⟨if subtract then .sqrdmlsh else .sqrdmlah, slots e,
      fixed ++ [(⟨29, 1⟩, 1), (⟨22, 2⟩, e.log2), (⟨11, 4⟩, subtract.toNat)]⟩

theorem described_accumulate {slots : ElementSize → List Slot} {fixed : List (Field × Nat)}
    (subtract : Bool) (hfixed : HasFields fixed w) (hu : w.u = true)
    (hopcode : w.field 11 4 = BitVec.ofNat 4 subtract.toNat)
    (he : elementSize w ∈ halfOrSingle) (hslots : Hold (slots (elementSize w)) w) :
    Described (accumulate slots fixed) w
      ⟨if subtract then .sqrdmlsh else .sqrdmlah,
        (slots (elementSize w)).map (·.operand w)⟩ := by
  refine .map (a := (subtract, elementSize w)) (mem_flagged.2 he) ⟨?_, hslots, rfl⟩
  simp [hfixed, hopcode, Word.field_eq_one_iff.2 hu]

def complexFixed (b₁₃ : Nat) (e : ElementSize) : List (Field × Nat) :=
  VectorClass.threeSameExtra.fixed ++
    [(⟨29, 1⟩, 1), (⟨22, 2⟩, e.log2), (⟨14, 1⟩, 1), (⟨13, 1⟩, b₁₃)]

def complexMultiplyEncodings : List Encoding :=
  anySize.map fun e => ⟨.fcmla, vectorSlots3 e ++ [.quarterTurns 11], complexFixed 0 e⟩

def complexAddEncodings : List Encoding :=
  anySize.map fun e =>
    ⟨.fcadd, vectorSlots3 e ++ [.quarterTurn 12], complexFixed 1 e ++ [(⟨11, 1⟩, 0)]⟩

def complexEncodings : List Encoding := [complexMultiplyEncodings, complexAddEncodings].flatten

theorem described_complexSame (hw : HasFields VectorClass.threeSameExtra.fixed w)
    (hu : w.u = true) (h14 : w.bit 14 = true) (h : complexSame w = .ok d) :
    Described complexEncodings w d := by
  have hfixed : HasFields (complexFixed (w.bit 13).toNat (elementSize w)) w := by
    simp [complexFixed, hw, Word.field_eq_one_iff.2 hu, Word.field_eq_one_iff.2 h14]
  simp only [complexSame] at h
  split at h <;> rename_i h13
  · split at h <;> cases h
    rw [h13] at hfixed
    refine .of_part (l := complexMultiplyEncodings) (by simp)
      (.map (elementSize_mem w) ⟨hfixed, ?_, rfl⟩)
    simp
  · split at h
    · cases h
    · rename_i h11
      split at h <;> cases h
      rw [eq_true_of_ne_false h13] at hfixed
      refine .of_part (l := complexAddEncodings) (by simp)
        (.map (elementSize_mem w) ⟨?_, ?_, rfl⟩)
      · refine hasFields_append.2 ⟨hfixed, ?_⟩
        simpa [Word.field_eq_zero_iff] using h11
      · simp

def threeSameExtraEncodings : List Encoding :=
  [dotEncodings, accumulate vectorSlots3 VectorClass.threeSameExtra.fixed, complexEncodings].flatten

theorem described_threeSameExtra (hw : HasFields VectorClass.threeSameExtra.fixed w)
    (h : threeSameExtra w = .ok d) : Described threeSameExtraEncodings w d := by
  simp only [threeSameExtra] at h
  split at h
  · rename_i hopcode
    split at h <;> cases h
    rename_i hsize
    refine .of_part (l := dotEncodings) (by simp) (.map (a := w.u) ?_ ⟨?_, ?_, rfl⟩)
    · cases w.u <;> simp
    · simp [hw, hopcode, ← ofNat_elementSize, hsize, ElementSize.log2]
    · simp
  · rename_i hu hopcode
    split at h <;> cases h
    rename_i hsize
    exact .of_part (by simp) (described_accumulate false hw hu hopcode hsize
      (hold_vectorSlots3 _))
  · rename_i hu hopcode
    split at h <;> cases h
    rename_i hsize
    exact .of_part (by simp) (described_accumulate true hw hu hopcode hsize
      (hold_vectorSlots3 _))
  · split at h
    · rename_i h14
      exact .of_part (by simp) (described_complexSame hw h14.1 h14.2 h)
    · cases h

def scalarThreeSameExtraEncodings : List Encoding :=
  accumulate scalarSlots3 VectorClass.scalarThreeSameExtra.fixed

theorem described_scalarThreeSameExtra (hw : HasFields VectorClass.scalarThreeSameExtra.fixed w)
    (h : scalarThreeSameExtra w = .ok d) : Described scalarThreeSameExtraEncodings w d := by
  simp only [scalarThreeSameExtra] at h
  split at h
  · rename_i hu hopcode
    split at h <;> cases h
    rename_i hsize
    exact described_accumulate false hw hu hopcode hsize (hold_scalarSlots3 _)
  · rename_i hu hopcode
    split at h <;> cases h
    rename_i hsize
    exact described_accumulate true hw hu hopcode hsize (hold_scalarSlots3 _)
  · cases h

def DifferentShape.slots (e : ElementSize) : DifferentShape → List Slot
  | long => [.wide e.double rd, .vector e rn, .vector e rm]
  | wide => [.wide e.double rd, .wide e.double rn, .vector e rm]
  | narrow => [.vector e rd, .wide e.double rn, .wide e.double rm]

@[simp] theorem DifferentShape.hold_slots (shape : DifferentShape) (e : ElementSize) :
    Hold (shape.slots e) w := by
  cases shape <;> simp [slots]

def threeDifferentEncodings : List Encoding :=
  ofTable (flagged (bitVectors 4)) (fun (u, opcode) => different? u opcode)
    fun (u, opcode) row => row.sizes.flatMap fun e =>
      halves row.lower row.upper (row.shape.slots e) (VectorClass.threeDifferent.fixed ++
        [(⟨29, 1⟩, u.toNat), (⟨22, 2⟩, e.log2), (⟨12, 4⟩, opcode.toNat)])

theorem described_threeDifferent (hw : HasFields VectorClass.threeDifferent.fixed w)
    (h : threeDifferent w = .ok d) : Described threeDifferentEncodings w d := by
  simp only [threeDifferent] at h
  cases hrow : different? w.u (w.field 12 4) with
  | none => simp [hrow, reserved] at h
  | some row =>
    simp only [hrow] at h
    split at h
    · cases h
    · rename_i hsize
      have hd : d = ⟨if w.q then row.upper else row.lower,
          (row.shape.slots (elementSize w)).map (·.operand w)⟩ := by
        split at h <;> cases h <;> simp only [*] <;> rfl
      subst hd
      refine .ofTable (k := (w.u, w.field 12 4)) ?_ hrow
        (.flatMap (not_not.1 hsize) (described_halves ?_ (row.shape.hold_slots _)))
      · simp
      · simp [hw]

def scalarThreeDifferentEncodings : List Encoding :=
  ofTable (flagged (bitVectors 4)) (fun (u, opcode) => scalarDifferent? u opcode)
    fun (u, opcode) op => halfOrSingle.map fun e =>
      ⟨op, [.scalar e.double rd, .scalar e rn, .scalar e rm],
        VectorClass.scalarThreeDifferent.fixed ++
          [(⟨29, 1⟩, u.toNat), (⟨22, 2⟩, e.log2), (⟨12, 4⟩, opcode.toNat)]⟩

theorem described_scalarThreeDifferent (hw : HasFields VectorClass.scalarThreeDifferent.fixed w)
    (h : scalarThreeDifferent w = .ok d) : Described scalarThreeDifferentEncodings w d := by
  simp only [scalarThreeDifferent] at h
  cases hrow : scalarDifferent? w.u (w.field 12 4) with
  | none => simp [hrow, reserved] at h
  | some op =>
    simp only [hrow] at h
    split at h <;> cases h
    rename_i hsize
    refine .ofTable (k := (w.u, w.field 12 4)) ?_ hrow (.map hsize ⟨?_, ?_, rfl⟩)
    · simp
    · simp [hw]
    · simp

end A64.Decode
