import A64.Proofs.Encodings.Vector

/-!
# Encodings of operations on one source

The encodings of functions of each element, of changes of width and of reductions, on vectors and
scalars, with the theorem for each decoder that they describe what it accepts.
-/

namespace A64.Decode

open Encoding Slot

variable {w : Word} {d : Decoded}

/-- The operands of a comparison with zero, or of another operation. -/
def FloatMiscRow.slots (row : FloatMiscRow) (registers : List Slot) : List Slot :=
  if row.zero then registers ++ [.const floatZero] else registers

theorem FloatMiscRow.map_slots (row : FloatMiscRow) (registers : List Slot) :
    (row.slots registers).map (·.operand w) = row.operands (registers.map (·.operand w)) := by
  unfold slots operands
  split
  · exact List.map_append
  · rfl

theorem FloatMiscRow.hold_slots (row : FloatMiscRow) {registers : List Slot}
    (h : Hold registers w) : Hold (row.slots registers) w := by
  unfold slots
  split <;> simp [h]

def ofFloatMisc (row? : Bool → Bool → BitVec 5 → Option FloatMiscRow)
    (slots : ElementSize → List Slot) (sizes : List ElementSize) (fixed : List (Field × Nat)) :
    List Encoding :=
  ofTable (flagged (flagged (bitVectors 5))) (fun (u, a, opcode) => row? u a opcode)
    fun (u, a, opcode) row => sizes.map fun e =>
      ⟨row.operation, row.slots (slots e), fixed ++
        [(⟨29, 1⟩, u.toNat), (⟨23, 1⟩, a.toNat), (⟨22, 1⟩, precisionBit e),
          (⟨12, 5⟩, opcode.toNat)]⟩

theorem described_ofFloatMisc {row? : Bool → Bool → BitVec 5 → Option FloatMiscRow}
    {slots : ElementSize → List Slot} {sizes : List ElementSize} {fixed : List (Field × Nat)}
    {row : FloatMiscRow} {e : ElementSize} (hfixed : HasFields fixed w)
    (hrow : row? w.u (w.bit 23) (w.field 12 5) = some row) (he : e ∈ sizes)
    (hbit : w.field 22 1 = BitVec.ofNat 1 (precisionBit e)) (hslots : Hold (slots e) w) :
    Described (ofFloatMisc row? slots sizes fixed) w
      ⟨row.operation, row.operands ((slots e).map (·.operand w))⟩ := by
  rw [← row.map_slots]
  refine .ofTable (k := (w.u, w.bit 23, w.field 12 5)) ?_ hrow
    (.map he ⟨?_, row.hold_slots hslots, rfl⟩)
  · simp
  · simp [hfixed, hbit]

def estimateEncodings : List Encoding :=
  [false, true].map fun u =>
    ⟨if u then .ursqrte else .urecpe, vectorSlots2 .s, VectorClass.twoMisc.fixed ++
      [(⟨29, 1⟩, u.toNat), (⟨22, 2⟩, 2), (⟨12, 5⟩, 0b11100)]⟩

theorem described_integerEstimate (hw : HasFields VectorClass.twoMisc.fixed w)
    (hopcode : w.field 12 5 = 0b11100#5) (h23 : w.bit 23 = true) (h : integerEstimate w = .ok d) :
    Described estimateEncodings w d := by
  simp only [integerEstimate] at h
  split at h <;> cases h
  rename_i h22
  have hsize : w.field 22 2 = 2#2 := by
    rw [← w.field_append (show 23 = 22 + 1 from rfl), Word.field_eq_one_iff.2 h23,
      Word.field_eq_zero_iff.2 (eq_false_of_ne_true h22)]
    rfl
  refine .map (a := w.u) ?_ ⟨?_, ?_, rfl⟩
  · cases w.u <;> simp
  · simp [hw, hopcode, hsize]
  · simp

def floatMiscEncodings : List Encoding :=
  [estimateEncodings,
    ofFloatMisc floatMisc? vectorSlots2 singleOrDouble VectorClass.twoMisc.fixed].flatten

theorem described_floatMisc (hw : HasFields VectorClass.twoMisc.fixed w)
    (h : floatMisc w = .ok d) : Described floatMiscEncodings w d := by
  simp only [floatMisc] at h
  split at h
  · cases h
  · split at h
    · rename_i hestimate
      exact .of_part (by simp) (described_integerEstimate hw hestimate.1 hestimate.2 h)
    · cases hrow : floatMisc? w.u (w.bit 23) (w.field 12 5) with
      | none => simp [hrow, reserved] at h
      | some row =>
        simp only [hrow] at h
        cases h
        exact .of_part (by simp) (described_ofFloatMisc hw hrow (floatSize_mem w)
          (field_eq_precisionBit w) (hold_vectorSlots2 _))

def twoMiscHalfEncodings : List Encoding :=
  ofFloatMisc halfMisc? vectorSlots2 [.h] VectorClass.twoMiscHalf.fixed

theorem described_twoMiscHalf (hw : HasFields VectorClass.twoMiscHalf.fixed w)
    (h : twoMiscHalf w = .ok d) : Described twoMiscHalfEncodings w d := by
  simp only [twoMiscHalf] at h
  cases hrow : halfMisc? w.u (w.bit 23) (w.field 12 5) with
  | none => simp [hrow, reserved] at h
  | some row =>
    simp only [hrow] at h
    cases h
    have h22 : w.field 22 1 = 1#1 := hw (⟨22, 1⟩, 1) (by decide)
    exact described_ofFloatMisc hw hrow List.mem_cons_self h22 (hold_vectorSlots2 .h)

def scalarFloatMiscEncodings : List Encoding :=
  ofFloatMisc scalarFloatMisc? scalarSlots2 singleOrDouble VectorClass.scalarTwoMisc.fixed

theorem described_scalarFloatMisc (hw : HasFields VectorClass.scalarTwoMisc.fixed w)
    (h : scalarFloatMisc w = .ok d) : Described scalarFloatMiscEncodings w d := by
  simp only [scalarFloatMisc] at h
  cases hrow : scalarFloatMisc? w.u (w.bit 23) (w.field 12 5) with
  | none => simp [hrow, reserved] at h
  | some row =>
    simp only [hrow] at h
    cases h
    exact described_ofFloatMisc hw hrow (floatSize_mem w) (field_eq_precisionBit w)
      (hold_scalarSlots2 _)

def scalarTwoMiscHalfEncodings : List Encoding :=
  ofFloatMisc scalarFloatMisc? scalarSlots2 [.h] VectorClass.scalarTwoMiscHalf.fixed

theorem described_scalarTwoMiscHalf (hw : HasFields VectorClass.scalarTwoMiscHalf.fixed w)
    (h : scalarTwoMiscHalf w = .ok d) : Described scalarTwoMiscHalfEncodings w d := by
  simp only [scalarTwoMiscHalf] at h
  cases hrow : scalarFloatMisc? w.u (w.bit 23) (w.field 12 5) with
  | none => simp [hrow, reserved] at h
  | some row =>
    simp only [hrow] at h
    cases h
    have h22 : w.field 22 1 = 1#1 := hw (⟨22, 1⟩, 1) (by decide)
    exact described_ofFloatMisc hw hrow List.mem_cons_self h22 (hold_scalarSlots2 .h)

/-- The elements of half the width of a single or double. -/
def narrower : ElementSize → ElementSize
  | .d => .s
  | _ => .h

def widthFixed (u b₁₂ : Nat) (e : ElementSize) : List (Field × Nat) :=
  VectorClass.twoMisc.fixed ++
    [(⟨29, 1⟩, u), (⟨23, 1⟩, 0), (⟨22, 1⟩, precisionBit e), (⟨13, 4⟩, 0b1011), (⟨12, 1⟩, b₁₂)]

def narrowFloatEncodings : List Encoding :=
  singleOrDouble.flatMap fun e =>
    halves .fcvtn .fcvtn2 [.vector (narrower e) rd, .wide e rn] (widthFixed 0 0 e)

def widenFloatEncodings : List Encoding :=
  singleOrDouble.flatMap fun e =>
    halves .fcvtl .fcvtl2 [.wide e rd, .vector (narrower e) rn] (widthFixed 0 1 e)

def narrowToOddEncodings : List Encoding :=
  halves .fcvtxn .fcvtxn2 [.vector .s rd, .wide .d rn] (widthFixed 1 0 .d)

def widthEncodings : List Encoding :=
  [narrowFloatEncodings, widenFloatEncodings, narrowToOddEncodings].flatten

theorem described_floatWidth (hw : HasFields VectorClass.twoMisc.fixed w)
    (hopcode : w.field 12 5 = 0b10110#5 ∨ w.field 12 5 = 0b10111#5) (h : floatWidth w = .ok d) :
    Described widthEncodings w d := by
  have h13 : w.field 13 4 = 0b1011#4 := by
    rw [← w.field_field (show 1 + 4 ≤ 5 by decide)]
    rcases hopcode with hopcode | hopcode <;> rw [hopcode] <;> rfl
  have hwide : (if w.bit 22 then ElementSize.d else .s) = floatSize w := rfl
  have hnarrow : (if w.bit 22 then ElementSize.s else .h) = narrower (floatSize w) := by
    unfold floatSize
    split <;> rfl
  simp only [floatWidth, hwide, hnarrow] at h
  split at h
  · cases h
  · rename_i h23
    have hfixed : HasFields (widthFixed w.u.toNat (w.bit 12).toNat (floatSize w)) w := by
      simp [widthFixed, hw, h13, Word.field_eq_zero_iff.2 (eq_false_of_ne_true h23),
        field_eq_precisionBit]
    split at h
    · rename_i hu h12
      cases h
      rw [hu, h12] at hfixed
      exact .of_part (l := narrowFloatEncodings) (by simp)
        (.flatMap (floatSize_mem w) (described_halves hfixed (by simp)))
    · rename_i hu h12
      cases h
      rw [hu, h12] at hfixed
      exact .of_part (l := widenFloatEncodings) (by simp)
        (.flatMap (floatSize_mem w) (described_halves hfixed (by simp)))
    · rename_i hu h12
      split at h <;> cases h
      rename_i h22
      have hsize : floatSize w = .d := if_pos h22
      rw [hu, h12, hsize] at hfixed
      rw [hsize]
      exact .of_part (l := narrowToOddEncodings) (by simp) (described_halves hfixed (by simp))
    · cases h

def MiscShape.encodings (op : Operation) (e : ElementSize) (fixed : List (Field × Nat)) :
    MiscShape → List Encoding
  | same => [⟨op, vectorSlots2 e, fixed⟩]
  | zero => [⟨op, vectorSlots2 e ++ [.const (immNat 0)], fixed⟩]
  | pairLong => [⟨op, [.vector e.double rd, .vector e rn], fixed⟩]
  | narrow upper => halves op upper [.vector e rd, .wide e.double rn] fixed
  | shiftLong upper =>
    halves op upper [.wide e.double rd, .vector e rn, .const (immNat e.bits)] fixed

def integerMiscEncodings : List Encoding :=
  ofTable (flagged (bitVectors 5)) (fun (u, opcode) => integerMisc? u opcode)
    fun (u, opcode) row => row.sizes.flatMap fun e =>
      row.shape.encodings row.operation e (VectorClass.twoMisc.fixed ++
        [(⟨29, 1⟩, u.toNat), (⟨22, 2⟩, e.log2), (⟨12, 5⟩, opcode.toNat)])

theorem described_integerMisc (hw : HasFields VectorClass.twoMisc.fixed w)
    (h : integerMisc w = .ok d) : Described integerMiscEncodings w d := by
  simp only [integerMisc] at h
  cases hrow : integerMisc? w.u (w.field 12 5) with
  | none => simp [hrow, reserved] at h
  | some row =>
    obtain ⟨op, sizes, shape⟩ := row
    simp only [hrow] at h
    split at h
    · cases h
    · rename_i hsize
      refine .ofTable (k := (w.u, w.field 12 5)) (by simp) hrow (.flatMap (not_not.1 hsize) ?_)
      have hfixed : HasFields (VectorClass.twoMisc.fixed ++ [(⟨29, 1⟩, w.u.toNat),
          (⟨22, 2⟩, (elementSize w).log2), (⟨12, 5⟩, (w.field 12 5).toNat)]) w := by
        simp [hw]
      cases shape with
      | same =>
        dsimp only at h
        split at h <;> cases h
        exact .single ⟨hfixed, hold_vectorSlots2 _, rfl⟩
      | zero =>
        dsimp only at h
        split at h <;> cases h
        exact .single ⟨hfixed, by simp, rfl⟩
      | pairLong =>
        cases h
        exact .single ⟨hfixed, by simp, rfl⟩
      | narrow upper =>
        cases h
        exact described_halves hfixed (by simp)
      | shiftLong upper =>
        cases h
        exact described_halves hfixed (by simp)

def invertEncodings : List Encoding :=
  [false, true].map fun reverse =>
    ⟨if reverse then .rbit else .mvn, vectorSlots2 .b, VectorClass.twoMisc.fixed ++
      [(⟨29, 1⟩, 1), (⟨22, 2⟩, reverse.toNat), (⟨12, 5⟩, 0b00101)]⟩

theorem described_invertBits (hw : HasFields VectorClass.twoMisc.fixed w) (hu : w.u = true)
    (hopcode : w.field 12 5 = 0b00101#5) (h : invertBits w = .ok d) :
    Described invertEncodings w d := by
  have h29 : w.field 29 1 = 1#1 := Word.field_eq_one_iff.2 hu
  simp only [invertBits] at h
  split at h <;> cases h
  · exact .map (a := false) (by simp) ⟨by simp_all, by simp, rfl⟩
  · exact .map (a := true) (by simp) ⟨by simp_all, by simp, rfl⟩

def twoMiscEncodings : List Encoding :=
  [invertEncodings, widthEncodings, floatMiscEncodings, integerMiscEncodings].flatten

theorem described_twoMisc (hw : HasFields VectorClass.twoMisc.fixed w) (h : twoMisc w = .ok d) :
    Described twoMiscEncodings w d := by
  simp only [twoMisc] at h
  split at h
  · rename_i hinvert
    exact .of_part (by simp) (described_invertBits hw hinvert.1 hinvert.2 h)
  · split at h
    · exact .of_part (by simp) (described_floatWidth hw ‹_› h)
    · split at h
      · exact .of_part (by simp) (described_floatMisc hw h)
      · exact .of_part (by simp) (described_integerMisc hw h)

def MiscShape.scalarSlots (e : ElementSize) : MiscShape → List Slot
  | narrow _ => [.scalar e rd, .scalar e.double rn]
  | zero => scalarSlots2 e ++ [.const (immNat 0)]
  | _ => scalarSlots2 e

def scalarIntegerMiscEncodings : List Encoding :=
  ofTable (flagged (bitVectors 5)) (fun (u, opcode) => scalarMisc? u opcode)
    fun (u, opcode) row => row.sizes.map fun e =>
      ⟨row.operation, row.shape.scalarSlots e, VectorClass.scalarTwoMisc.fixed ++
        [(⟨29, 1⟩, u.toNat), (⟨22, 2⟩, e.log2), (⟨12, 5⟩, opcode.toNat)]⟩

theorem described_scalarIntegerMisc (hw : HasFields VectorClass.scalarTwoMisc.fixed w)
    (h : scalarIntegerMisc w = .ok d) : Described scalarIntegerMiscEncodings w d := by
  simp only [scalarIntegerMisc] at h
  cases hrow : scalarMisc? w.u (w.field 12 5) with
  | none => simp [hrow, reserved] at h
  | some row =>
    obtain ⟨op, sizes, shape⟩ := row
    simp only [hrow] at h
    split at h
    · cases h
    · rename_i hsize
      have hd : d = ⟨op, (shape.scalarSlots (elementSize w)).map (·.operand w)⟩ := by
        cases shape <;> cases h <;> rfl
      subst hd
      refine .ofTable (k := (w.u, w.field 12 5)) (by simp) hrow
        (.map (not_not.1 hsize) ⟨?_, ?_, rfl⟩)
      · simp [hw]
      · cases shape <;> simp [MiscShape.scalarSlots]

def narrowInexactEncodings : List Encoding :=
  [⟨.fcvtxn, [.scalar .s rd, .scalar .d rn], VectorClass.scalarTwoMisc.fixed ++
    [(⟨29, 1⟩, 1), (⟨22, 2⟩, 1), (⟨12, 5⟩, 0b10110)]⟩]

def scalarTwoMiscEncodings : List Encoding :=
  [narrowInexactEncodings, scalarFloatMiscEncodings, scalarIntegerMiscEncodings].flatten

theorem described_scalarTwoMisc (hw : HasFields VectorClass.scalarTwoMisc.fixed w)
    (h : scalarTwoMisc w = .ok d) : Described scalarTwoMiscEncodings w d := by
  simp only [scalarTwoMisc] at h
  split at h
  · rename_i hopcode
    split at h <;> cases h
    rename_i hsize
    refine .of_part (l := narrowInexactEncodings) (by simp) (.single ⟨?_, ?_, rfl⟩)
    · have h29 : w.field 29 1 = 1#1 := Word.field_eq_one_iff.2 hopcode.1
      simp_all
    · simp
  · split at h
    · exact .of_part (by simp) (described_scalarFloatMisc hw h)
    · exact .of_part (by simp) (described_scalarIntegerMisc hw h)

/-! ### Reductions -/

def floatAcrossFixed (u : Nat) (numeric minimum : Bool) : List (Field × Nat) :=
  VectorClass.acrossLanes.fixed ++ [(⟨29, 1⟩, u), (⟨23, 1⟩, minimum.toNat), (⟨22, 1⟩, 0),
    (⟨12, 5⟩, if numeric then 0b01100 else 0b01111)]

def halfAcross (numeric minimum : Bool) : Encoding :=
  ⟨floatAcross numeric minimum, [.scalar .h rd, .vector .h rn], floatAcrossFixed 0 numeric minimum⟩

def singleAcross (numeric minimum : Bool) : Encoding :=
  ⟨floatAcross numeric minimum, [.scalar .s rd, .wide .s rn],
    (⟨30, 1⟩, 1) :: floatAcrossFixed 1 numeric minimum⟩

def floatAcrossEncodings : List Encoding :=
  (flagged [false, true]).flatMap fun (numeric, minimum) =>
    [halfAcross numeric minimum, singleAcross numeric minimum]

def integerAcrossEncodings : List Encoding :=
  ofTable (flagged (bitVectors 5)) (fun (u, opcode) => integerAcross? u opcode)
    fun (u, opcode) (op, long) => anySize.map fun e =>
      ⟨op, [.scalar (if long then e.double else e) rd, .vector e rn],
        VectorClass.acrossLanes.fixed ++
          [(⟨29, 1⟩, u.toNat), (⟨22, 2⟩, e.log2), (⟨12, 5⟩, opcode.toNat)]⟩

def acrossLanesEncodings : List Encoding := [floatAcrossEncodings, integerAcrossEncodings].flatten

theorem described_acrossLanes (hw : HasFields VectorClass.acrossLanes.fixed w)
    (h : acrossLanes w = .ok d) : Described acrossLanesEncodings w d := by
  simp only [acrossLanes] at h
  split at h
  · rename_i hopcode
    split at h
    · cases h
    · rename_i h22
      have hfixed : HasFields
          (floatAcrossFixed w.u.toNat (w.field 12 5 = 0b01100#5) (w.bit 23)) w := by
        rcases hopcode with hopcode | hopcode <;>
          simp [floatAcrossFixed, hw, hopcode,
            Word.field_eq_zero_iff.2 (eq_false_of_ne_true h22)]
      refine .of_part (l := floatAcrossEncodings) (by simp)
        (.flatMap (a := (decide (w.field 12 5 = 0b01100#5), w.bit 23)) (by simp) ?_)
      split at h
      · rename_i hu
        cases h
        rw [hu] at hfixed
        exact .of_mem (e := halfAcross _ _) (by simp) ⟨hfixed, by simp [halfAcross], rfl⟩
      · rename_i hu
        split at h <;> cases h
        rename_i hq
        rw [eq_true_of_ne_false hu] at hfixed
        refine .of_mem (e := singleAcross _ _) (by simp) ⟨?_, by simp [singleAcross], rfl⟩
        exact hasFields_cons.2 ⟨Word.field_eq_one_iff.2 hq, hfixed⟩
  · cases hrow : integerAcross? w.u (w.field 12 5) with
    | none => simp [hrow, reserved] at h
    | some row =>
      obtain ⟨op, long⟩ := row
      simp only [hrow] at h
      split at h <;> cases h
      refine .of_part (l := integerAcrossEncodings) (by simp) ?_
      refine .ofTable (k := (w.u, w.field 12 5)) (by simp) hrow ?_
      refine .map (elementSize_mem w) ⟨?_, ?_, rfl⟩
      · simp [hw]
      · simp

def pairSlots (e : ElementSize) : List Slot := [.scalar e rd, .arranged ⟨e, 2⟩ rn]

def pairFixed (u a : Bool) (b₂₂ : Nat) (opcode : BitVec 5) : List (Field × Nat) :=
  VectorClass.scalarPairwise.fixed ++
    [(⟨29, 1⟩, u.toNat), (⟨23, 1⟩, a.toNat), (⟨22, 1⟩, b₂₂), (⟨12, 5⟩, opcode.toNat)]

def pairAddEncodings : List Encoding :=
  [⟨.addp, pairSlots .d, VectorClass.scalarPairwise.fixed ++
    [(⟨29, 1⟩, 0), (⟨22, 2⟩, 3), (⟨12, 5⟩, 0b11011)]⟩]

def halfPairEncodings : List Encoding :=
  ofTable (flagged (bitVectors 5)) (fun (a, opcode) => floatPairwise? opcode a)
    fun (a, opcode) op => [⟨op, pairSlots .h, pairFixed false a 0 opcode⟩]

def floatPairEncodings : List Encoding :=
  ofTable (flagged (bitVectors 5)) (fun (a, opcode) => floatPairwise? opcode a)
    fun (a, opcode) op =>
      singleOrDouble.map fun e => ⟨op, pairSlots e, pairFixed true a (precisionBit e) opcode⟩

def scalarPairwiseEncodings : List Encoding :=
  [pairAddEncodings, halfPairEncodings, floatPairEncodings].flatten

theorem described_scalarPairwise (hw : HasFields VectorClass.scalarPairwise.fixed w)
    (h : scalarPairwise w = .ok d) : Described scalarPairwiseEncodings w d := by
  simp only [scalarPairwise] at h
  split at h
  · rename_i hopcode
    split at h <;> cases h
    rename_i hsize
    refine .of_part (l := pairAddEncodings) (by simp) (.single ⟨?_, ?_, rfl⟩)
    · simp [hw, hopcode.2, Word.field_eq_zero_iff.2 hopcode.1, ← ofNat_elementSize, hsize,
        ElementSize.log2]
    · simp [pairSlots]
  · cases hrow : floatPairwise? (w.field 12 5) (w.bit 23) with
    | none => simp [hrow, reserved] at h
    | some op =>
      simp only [hrow] at h
      split at h
      · rename_i hu
        cases h
        refine .of_part (l := floatPairEncodings) (by simp) ?_
        refine .ofTable (k := (w.bit 23, w.field 12 5)) (by simp) hrow ?_
        refine .map (floatSize_mem w) ⟨?_, ?_, rfl⟩
        · simp [pairFixed, hw, Word.field_eq_one_iff.2 hu, field_eq_precisionBit]
        · simp [pairSlots]
      · rename_i hu
        split at h <;> cases h
        rename_i h22
        refine .of_part (l := halfPairEncodings) (by simp) ?_
        refine .ofTable (k := (w.bit 23, w.field 12 5)) (by simp) hrow ?_
        refine .single ⟨?_, ?_, rfl⟩
        · simp [pairFixed, hw, Word.field_eq_zero_iff.2 (eq_false_of_ne_true hu),
            Word.field_eq_zero_iff.2 (eq_false_of_ne_true h22)]
        · simp [pairSlots]

end A64.Decode
