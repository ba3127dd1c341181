import A64.Proofs.Encodings.Vector

/-!
# Encodings of scalar floating point

The encodings of conversions, arithmetic, comparison and selection, with the theorem for each
decoder that they describe what it accepts.
-/

namespace A64.Decode

open Encoding Slot

variable {w : Word} {d : Decoded}

def precisions : List ElementSize := [.s, .d, .h]

/-- The type that selects a precision. -/
def precisionField : ElementSize → Nat
  | .s => 0
  | .d => 1
  | _ => 3

theorem precision?_eq_some {b : BitVec 2} {e : ElementSize} (h : precision? b = some e) :
    e ∈ precisions ∧ b = BitVec.ofNat 2 (precisionField e) := by
  have hall : ∀ b : BitVec 2, ∀ e ∈ precision? b,
      e ∈ precisions ∧ b = BitVec.ofNat 2 (precisionField e) := by decide
  exact hall b e h

/-- The fixed fields of a word whose registers have the precision of its type. -/
def precisionFixed (e : ElementSize) : List (Field × Nat) :=
  [(⟨31, 1⟩, 0), (⟨22, 2⟩, precisionField e)]

theorem withPrecision_eq_ok {decode : ElementSize → Decoding}
    (h : withPrecision w decode = .ok d) :
    ∃ e ∈ precisions, HasFields (precisionFixed e) w ∧ decode e = .ok d := by
  unfold withPrecision at h
  split at h
  · cases h
  · rename_i h31
    split at h
    · rename_i e he
      obtain ⟨hmem, hfield⟩ := precision?_eq_some he
      refine ⟨e, hmem, ?_, h⟩
      simp [precisionFixed, hfield, Word.field_eq_zero_iff.2 (eq_false_of_ne_true h31)]
    · cases h

def fractionBits : Slot :=
  ofField 10 .value (fun n : BitVec 6 => immNat (64 - n.toNat)) (fun _ => rfl)
    (eq_of_immediate (fun n => 64 - n.toNat) (fun n => immediate?_immNat (by omega))
      fun n n' h => BitVec.eq_of_toNat_eq (by have := n.isLt; have := n'.isLt; omega))

def upperHalf (start : Nat) : Slot :=
  laneOf (.single .d) (·.field start 5) (fun _ => 1) [⟨start, 5⟩] (by
    intro w w' hn _
    simpa using hn)

@[simp] theorem holds_fractionBits : fractionBits.Holds w := trivial

@[simp] theorem holds_upperHalf (start : Nat) : (upperHalf start).Holds w := trivial

def floatBits : List (Field × Nat) := VectorClass.floatingPoint.fixed ++ [(⟨29, 1⟩, 0)]

/-- The fixed fields of the class that converts from and to fixed point. -/
def fixedPointBits : List (Field × Nat) := floatBits ++ [(⟨24, 1⟩, 0), (⟨21, 1⟩, 0)]

/-- The fixed fields of the other classes, multiplication with addition apart. -/
def arithmeticBits : List (Field × Nat) := floatBits ++ [(⟨24, 1⟩, 0), (⟨21, 1⟩, 1)]

/-- The fixed fields of the class that converts from and to integers. -/
def conversionBits : List (Field × Nat) := arithmeticBits ++ [(⟨10, 6⟩, 0)]

def conversionFixed (sf : Bool) (e : ElementSize) (rmode opcode : Nat) : List (Field × Nat) :=
  [(⟨31, 1⟩, sf.toNat), (⟨22, 2⟩, precisionField e), (⟨19, 2⟩, rmode), (⟨16, 3⟩, opcode)]

def conversionSlots (inward sf : Bool) (e : ElementSize) : List Slot :=
  if inward then [.scalar e rd, .gpr sf rn] else [.gpr sf rd, .scalar e rn]

@[simp] theorem hold_conversionSlots (inward sf : Bool) (e : ElementSize) :
    Hold (conversionSlots inward sf e) w := by
  cases inward <;> simp [conversionSlots]

def conversion (op : Operation) (inward : Bool) (rmode opcode : Nat) (further : List Slot)
    (fixed : List (Field × Nat)) : List Encoding :=
  (flagged precisions).map fun (sf, e) =>
    ⟨op, conversionSlots inward sf e ++ further, fixed ++ conversionFixed sf e rmode opcode⟩

theorem described_conversion (op : Operation) (inward : Bool) {e : ElementSize} {rmode : BitVec 2}
    {opcode : BitVec 3} {further : List Slot} {fixed : List (Field × Nat)}
    (he : precision? (w.field 22 2) = some e) (hrmode : w.field 19 2 = rmode)
    (hopcode : w.field 16 3 = opcode) (hfurther : Hold further w) (hfixed : HasFields fixed w) :
    Described (conversion op inward rmode.toNat opcode.toNat further fixed) w
      ⟨op, (conversionSlots inward w.sf e ++ further).map (·.operand w)⟩ := by
  obtain ⟨hmem, hfield⟩ := precision?_eq_some he
  refine .map (a := (w.sf, e)) (by simpa using hmem) ⟨?_, ?_, rfl⟩
  · simp [conversionFixed, hfixed, hfield, hrmode, hopcode]
  · simp [hfurther]

def ofFixedPoint (op : Operation) (inward : Bool) (rmode opcode : Nat) : List Encoding :=
  conversion op inward rmode opcode [fractionBits] fixedPointBits

def fixedPointEncodings : List Encoding :=
  [ofFixedPoint .scvtf true 0b00 0b010, ofFixedPoint .ucvtf true 0b00 0b011,
    ofFixedPoint .fcvtzs false 0b11 0b000, ofFixedPoint .fcvtzu false 0b11 0b001].flatten

theorem described_fixedPointConversion (hw : HasFields fixedPointBits w)
    (h : fixedPointConversion w = .ok d) : Described fixedPointEncodings w d := by
  simp only [fixedPointConversion] at h
  split at h
  · cases h
  · rename_i e he
    split at h
    · cases h
    · split at h <;> cases h <;> rename_i hrmode hopcode
      · exact .of_part (l := ofFixedPoint .scvtf true 0b00 0b010) (by simp)
          (described_conversion .scvtf true he hrmode hopcode (by simp) hw)
      · exact .of_part (l := ofFixedPoint .ucvtf true 0b00 0b011) (by simp)
          (described_conversion .ucvtf true he hrmode hopcode (by simp) hw)
      · exact .of_part (l := ofFixedPoint .fcvtzs false 0b11 0b000) (by simp)
          (described_conversion .fcvtzs false he hrmode hopcode (by simp) hw)
      · exact .of_part (l := ofFixedPoint .fcvtzu false 0b11 0b001) (by simp)
          (described_conversion .fcvtzu false he hrmode hopcode (by simp) hw)

def upperHalfFixed (opcode : Nat) : List (Field × Nat) :=
  conversionBits ++ [(⟨31, 1⟩, 1), (⟨22, 2⟩, 2), (⟨19, 2⟩, 1), (⟨16, 3⟩, opcode)]

def moveFromUpperHalf : Encoding := ⟨.fmov, [.gpr true rd, upperHalf rn], upperHalfFixed 6⟩

def moveToUpperHalf : Encoding := ⟨.fmov, [upperHalf rd, .gpr true rn], upperHalfFixed 7⟩

def upperHalfEncodings : List Encoding := [moveFromUpperHalf, moveToUpperHalf]

theorem described_moveUpperHalf (hw : HasFields conversionBits w) (hsize : w.field 22 2 = 2#2)
    (h : moveUpperHalf w = .ok d) : Described upperHalfEncodings w d := by
  simp only [moveUpperHalf] at h
  split at h <;> cases h <;> rename_i hsf hrmode hopcode
  · have hfixed : HasFields (upperHalfFixed 6) w := by
      simp [upperHalfFixed, hw, hsize, hrmode, hopcode, Word.field_eq_one_iff.2 hsf]
    exact .of_mem (e := moveFromUpperHalf) (by simp [upperHalfEncodings])
      ⟨hfixed, by simp [moveFromUpperHalf], rfl⟩
  · have hfixed : HasFields (upperHalfFixed 7) w := by
      simp [upperHalfFixed, hw, hsize, hrmode, hopcode, Word.field_eq_one_iff.2 hsf]
    exact .of_mem (e := moveToUpperHalf) (by simp [upperHalfEncodings])
      ⟨hfixed, by simp [moveToUpperHalf], rfl⟩

def toIntegerEncodings : List Encoding :=
  (bitVectors 2).flatMap fun rmode => ofTable (bitVectors 3) (toInteger? rmode) fun opcode op =>
    conversion op false rmode.toNat opcode.toNat [] conversionBits

def ofInteger (op : Operation) (inward : Bool) (rmode opcode : Nat) : List Encoding :=
  conversion op inward rmode opcode [] conversionBits

def integerConversionEncodings : List Encoding :=
  [upperHalfEncodings, toIntegerEncodings, ofInteger .scvtf true 0b00 0b010,
    ofInteger .ucvtf true 0b00 0b011, ofInteger .fmov false 0b00 0b110,
    ofInteger .fmov true 0b00 0b111, ofInteger .fjcvtzs false 0b11 0b110].flatten

theorem described_integerConversion (hw : HasFields conversionBits w)
    (h : integerConversion w = .ok d) : Described integerConversionEncodings w d := by
  simp only [integerConversion] at h
  split at h
  · exact .of_part (by simp) (described_moveUpperHalf hw ‹_› h)
  · split at h
    · cases h
    · rename_i e he
      split at h
      · rename_i op hrow
        cases h
        refine .of_part (l := toIntegerEncodings) (by simp) ?_
        refine .flatMap (mem_bitVectors _) (.ofTable (mem_bitVectors _) hrow ?_)
        exact described_conversion op false he rfl rfl (by simp) hw
      · split at h <;> rename_i hrmode hopcode
        · cases h
          exact .of_part (l := ofInteger .scvtf true 0b00 0b010) (by simp)
            (described_conversion .scvtf true he hrmode hopcode (by simp) hw)
        · cases h
          exact .of_part (l := ofInteger .ucvtf true 0b00 0b011) (by simp)
            (described_conversion .ucvtf true he hrmode hopcode (by simp) hw)
        · split at h <;> cases h
          exact .of_part (l := ofInteger .fmov false 0b00 0b110) (by simp)
            (described_conversion .fmov false he hrmode hopcode (by simp) hw)
        · split at h <;> cases h
          exact .of_part (l := ofInteger .fmov true 0b00 0b111) (by simp)
            (described_conversion .fmov true he hrmode hopcode (by simp) hw)
        · split at h <;> cases h
          rename_i hwidth
          have hjump := described_conversion .fjcvtzs false he hrmode hopcode hold_nil hw
          rw [hwidth.1, hwidth.2] at hjump
          exact .of_part (l := ofInteger .fjcvtzs false 0b11 0b110) (by simp) hjump
        · cases h

def oneSourceBits : List (Field × Nat) := arithmeticBits ++ [(⟨10, 5⟩, 16)]

def convertPrecisionEncodings : List Encoding :=
  precisions.flatMap fun source => precisions.map fun target =>
    ⟨.fcvt, [.scalar target rd, .scalar source rn], oneSourceBits ++ precisionFixed source ++
      [(⟨17, 4⟩, 1), (⟨15, 2⟩, precisionField target)]⟩

def unaryEncodings : List Encoding :=
  precisions.flatMap fun e =>
    ofTable (bitVectors 6) (floatOneSource? · (e = .h)) fun opcode op =>
      [⟨op, scalarSlots2 e, oneSourceBits ++ precisionFixed e ++ [(⟨15, 6⟩, opcode.toNat)]⟩]

def oneSourceEncodings : List Encoding := [convertPrecisionEncodings, unaryEncodings].flatten

theorem described_floatOneSource (hw : HasFields oneSourceBits w)
    (h : floatOneSource w = .ok d) : Described oneSourceEncodings w d := by
  obtain ⟨e, he, hfixed, h⟩ := withPrecision_eq_ok h
  split at h
  · rename_i h17
    simp only [convertPrecision] at h
    split at h
    · cases h
    · rename_i target htarget
      obtain ⟨hmem, h15⟩ := precision?_eq_some htarget
      split at h <;> cases h
      refine .of_part (l := convertPrecisionEncodings) (by simp)
        (.flatMap he (.map hmem ⟨?_, ?_, rfl⟩))
      · simp [hw, hfixed, h15, h17]
      · simp
  · split at h
    · rename_i op hrow
      cases h
      refine .of_part (l := unaryEncodings) (by simp)
        (.flatMap he (.ofTable (mem_bitVectors _) hrow (.single ⟨?_, ?_, rfl⟩)))
      · simp [hw, hfixed]
      · simp
    · cases h

def twoSourceEncodings : List Encoding :=
  ofTable (bitVectors 4) floatTwoSource? fun opcode op => precisions.map fun e =>
    ⟨op, scalarSlots3 e,
      arithmeticBits ++ precisionFixed e ++ [(⟨12, 4⟩, opcode.toNat), (⟨10, 2⟩, 2)]⟩

theorem described_floatTwoSource (hw : HasFields arithmeticBits w) (h10 : w.field 10 2 = 2#2)
    (h : floatTwoSource w = .ok d) : Described twoSourceEncodings w d := by
  obtain ⟨e, he, hfixed, h⟩ := withPrecision_eq_ok h
  split at h
  · rename_i op hrow
    cases h
    refine .ofTable (mem_bitVectors _) hrow (.map he ⟨?_, ?_, rfl⟩)
    · simp [hw, hfixed, h10]
    · simp
  · cases h

def threeSourceEncodings : List Encoding :=
  (flagged (flagged precisions)).map fun (negate, subtract, e) =>
    ⟨fusedMultiply negate subtract, scalarSlots3 e ++ [.scalar e ra],
      floatBits ++ precisionFixed e ++
        [(⟨24, 1⟩, 1), (⟨21, 1⟩, negate.toNat), (⟨15, 1⟩, subtract.toNat)]⟩

theorem described_floatThreeSource (hw : HasFields floatBits w) (h24 : w.bit 24 = true)
    (h : floatThreeSource w = .ok d) : Described threeSourceEncodings w d := by
  obtain ⟨e, he, hfixed, h⟩ := withPrecision_eq_ok h
  cases h
  refine .map (a := (w.bit 21, w.bit 15, e)) (by simpa using he) ⟨?_, ?_, rfl⟩
  · simp [hw, hfixed, Word.field_eq_one_iff.2 h24]
  · simp

def floatImmediateEncodings : List Encoding :=
  precisions.map fun e =>
    ⟨.fmov, [.scalar e rd, .floatImm 13],
      arithmeticBits ++ precisionFixed e ++ [(⟨10, 3⟩, 4), (⟨5, 5⟩, 0)]⟩

theorem described_floatImmediate (hw : HasFields arithmeticBits w) (h10 : w.field 10 3 = 4#3)
    (h : floatImmediate w = .ok d) : Described floatImmediateEncodings w d := by
  obtain ⟨e, he, hfixed, h⟩ := withPrecision_eq_ok h
  split at h <;> cases h
  rename_i h5
  refine .map he ⟨?_, ?_, rfl⟩
  · simp [hw, hfixed, h10, not_not.1 h5]
  · simp

def floatCompareEncodings : List Encoding :=
  precisions.flatMap fun e => [false, true].map fun signal =>
    ⟨if signal then .fcmpe else .fcmp, [.scalar e rn, .scalar e rm],
      arithmeticBits ++ precisionFixed e ++
        [(⟨14, 2⟩, 0), (⟨10, 4⟩, 8), (⟨0, 5⟩, 16 * signal.toNat)]⟩

theorem described_floatCompare (hw : HasFields arithmeticBits w) (h10 : w.field 10 4 = 8#4)
    (h : floatCompare w = .ok d) (hd : ¬ LeavesBitsOut d) :
    Described floatCompareEncodings w d := by
  obtain ⟨e, he, hfixed, h⟩ := withPrecision_eq_ok h
  split at h
  · cases h
  · rename_i h14
    refine .flatMap he ?_
    split at h <;> cases h <;> rename_i h0
    · refine .map (a := false) (by simp) ⟨?_, by simp, rfl⟩
      simp_all
    · exact absurd (by simp [LeavesBitsOut]) hd
    · refine .map (a := true) (by simp) ⟨?_, by simp, rfl⟩
      simp_all
    · exact absurd (by simp [LeavesBitsOut]) hd

def conditionalCompareEncodings : List Encoding :=
  (flagged precisions).map fun (signal, e) =>
    ⟨if signal then .fccmpe else .fccmp,
      [.scalar e rn, .scalar e rm, .imm 0 4, .condition 12],
      arithmeticBits ++ precisionFixed e ++ [(⟨10, 2⟩, 1), (⟨4, 1⟩, signal.toNat)]⟩

theorem described_floatConditionalCompare (hw : HasFields arithmeticBits w)
    (h10 : w.field 10 2 = 1#2) (h : floatConditionalCompare w = .ok d) :
    Described conditionalCompareEncodings w d := by
  obtain ⟨e, he, hfixed, h⟩ := withPrecision_eq_ok h
  cases h
  refine .map (a := (w.bit 4, e)) (by simpa using he) ⟨?_, ?_, rfl⟩
  · simp [hw, hfixed, h10]
  · simp

def conditionalSelectEncodings : List Encoding :=
  precisions.map fun e =>
    ⟨.fcsel, scalarSlots3 e ++ [.condition 12],
      arithmeticBits ++ precisionFixed e ++ [(⟨10, 2⟩, 3)]⟩

theorem described_floatConditionalSelect (hw : HasFields arithmeticBits w)
    (h10 : w.field 10 2 = 3#2) (h : floatConditionalSelect w = .ok d) :
    Described conditionalSelectEncodings w d := by
  obtain ⟨e, he, hfixed, h⟩ := withPrecision_eq_ok h
  cases h
  refine .map he ⟨?_, ?_, rfl⟩
  · simp [hw, hfixed, h10]
  · simp

def arithmeticEncodings : List Encoding :=
  [conditionalCompareEncodings, twoSourceEncodings, conditionalSelectEncodings,
    floatImmediateEncodings, floatCompareEncodings, oneSourceEncodings,
    integerConversionEncodings].flatten

/-- The classes with bit 21 set. -/
theorem described_arithmetic (hw : HasFields arithmeticBits w)
    (h : (match w.field 10 2 with
      | 0b01 => floatConditionalCompare w
      | 0b10 => floatTwoSource w
      | 0b11 => floatConditionalSelect w
      | _ =>
        if w.bit 12 then floatImmediate w
        else if w.bit 13 then floatCompare w
        else if w.bit 14 then floatOneSource w
        else if w.bit 15 then reserved .floatClass
        else integerConversion w) = .ok d)
    (hd : ¬ LeavesBitsOut d) : Described arithmeticEncodings w d := by
  split at h
  · exact .of_part (by simp) (described_floatConditionalCompare hw ‹_› h)
  · exact .of_part (by simp) (described_floatTwoSource hw ‹_› h)
  · exact .of_part (by simp) (described_floatConditionalSelect hw ‹_› h)
  · rename_i h1 h2 h3
    have hall : ∀ b : BitVec 2, (b = 1#2 → False) → (b = 2#2 → False) → (b = 3#2 → False) →
        b = 0#2 := by decide
    have h10 : w.field 10 2 = 0#2 := hall _ h1 h2 h3
    -- Each further test adds a bit to the low fields that are known.
    have hstep {n : Nat} {b : Bool} {low : BitVec n} (hlow : w.field 10 n = low)
        (hbit : w.bit (10 + n) = b) : w.field 10 (1 + n) = BitVec.ofBool b ++ low := by
      rw [← w.field_append (show 10 + n = 10 + n from rfl), hlow, ← hbit, Word.ofBool_bit]
    split at h <;> rename_i h12
    · exact .of_part (by simp) (described_floatImmediate hw (hstep h10 h12) h)
    · replace h12 := hstep h10 (eq_false_of_ne_true h12)
      split at h <;> rename_i h13
      · exact .of_part (by simp) (described_floatCompare hw (hstep h12 h13) h hd)
      · replace h13 := hstep h12 (eq_false_of_ne_true h13)
        split at h <;> rename_i h14
        · refine .of_part (by simp) (described_floatOneSource ?_ h)
          simp [oneSourceBits, hw, hstep h13 h14]
        · replace h14 := hstep h13 (eq_false_of_ne_true h14)
          split at h
          · cases h
          · rename_i h15
            refine .of_part (by simp) (described_integerConversion ?_ h)
            simp [conversionBits, hw, hstep h14 (eq_false_of_ne_true h15)]

def floatingPointEncodings : List Encoding :=
  [threeSourceEncodings, fixedPointEncodings, arithmeticEncodings].flatten

theorem described_floatingPoint (hw : HasFields VectorClass.floatingPoint.fixed w)
    (h : floatingPoint w = .ok d) (hd : ¬ LeavesBitsOut d) :
    Described floatingPointEncodings w d := by
  simp only [floatingPoint] at h
  split at h
  · cases h
  · rename_i h29
    have hbits : HasFields floatBits w := by
      simp [floatBits, hw, Word.field_eq_zero_iff.2 (eq_false_of_ne_true h29)]
    split at h
    · exact .of_part (by simp) (described_floatThreeSource hbits ‹_› h)
    · rename_i h24
      have h24 : w.field 24 1 = 0#1 := Word.field_eq_zero_iff.2 (eq_false_of_ne_true h24)
      split at h
      · rename_i h21
        refine .of_part (by simp) (described_fixedPointConversion ?_ h)
        simp [fixedPointBits, hbits, h24, Word.field_eq_zero_iff.2 h21]
      · rename_i h21
        have harith : HasFields arithmeticBits w := by
          simp [arithmeticBits, hbits, h24, Word.field_eq_one_iff.2 (eq_true_of_ne_false h21)]
        exact .of_part (by simp) (described_arithmetic harith h hd)

end A64.Decode
