import A64.Proofs.ImmediateWord
import A64.Proofs.Strict

/-!
# Strict vector and floating-point instructions

Shifts by an immediate take their element from the highest set bit of a field and their amount from
a difference. The dispatch to these classes has seen a bit set, and then the bits below bound the
field from both sides. Conversions to fixed point subtract as well, a few classes name a condition,
and a move between vectors and an extension are whole rows without the last operand.
-/

namespace A64.Strict

open Decode

def shiftElement (word : Word) : Option ElementSize := do
  let log2 ← highestBit (word.field 19 4)
  ElementSize.ofLog2? log2

def rightAmount (word : Word) : Option Nat := do
  let log2 ← highestBit (word.field 19 4)
  minus (16 <<< log2) (shiftField word)

def leftAmount (word : Word) : Option Nat := do
  let log2 ← highestBit (word.field 19 4)
  minus (shiftField word) (8 <<< log2)

section Amounts

variable {word : Word} {e : ElementSize}

theorem highestBit_of_shiftElement? (h : shiftElement? (word.field 19 4) = some e) :
    highestBit (word.field 19 4) = some e.log2 := by
  have hall : ∀ b : BitVec 4, ∀ e ∈ shiftElement? b, highestBit b = some e.log2 := by decide
  exact hall _ e h

theorem shiftElement_eq (h : shiftElement? (word.field 19 4) = some e) :
    shiftElement word = some e := by
  rw [shiftElement, highestBit_of_shiftElement? h]
  cases e <;> rfl

theorem rightAmount_eq (h : shiftElement? (word.field 19 4) = some e) :
    rightAmount word = some (Decode.rightAmount word e) := by
  have hbits : 16 <<< e.log2 = 2 * e.bits := by cases e <;> rfl
  have hfield : shiftField word ≤ 2 * e.bits := Nat.le_of_lt (shiftsElement h).2.2
  rw [rightAmount, highestBit_of_shiftElement? h, Option.bind_eq_bind, Option.bind_some, hbits,
    minus_of_le hfield]
  rfl

theorem leftAmount_eq (h : shiftElement? (word.field 19 4) = some e) :
    leftAmount word = some (Decode.leftAmount word e) := by
  have hfield : 8 <<< e.log2 ≤ shiftField word := (shiftsElement h).2.1
  rw [leftAmount, highestBit_of_shiftElement? h, Option.bind_eq_bind, Option.bind_some,
    minus_of_le hfield]
  rfl

end Amounts

def shiftedRight (word : Word) (op : Operation) (registers : List Operand) : Leaf := do
  let amount ← rightAmount word
  built op (registers ++ [immNat amount])

def shiftedLeft (word : Word) (op : Operation) (registers : List Operand) : Leaf := do
  let amount ← leftAmount word
  built op (registers ++ [immNat amount])

def shiftImmediate (word : Word) : Leaf :=
  let q := word.q
  match shift? word.u (word.field 11 5) with
  | none => rejected .shiftOpcode
  | some (op, form) => do
    let e ← shiftElement word
    match form with
    | .right =>
      if isLone e q then rejected .shiftDoubles else shiftedRight word op (vectors2 word e)
    | .left =>
      if isLone e q then rejected .shiftDoubles else shiftedLeft word op (vectors2 word e)
    | .fixed =>
      if isLone e q then rejected .shiftDoubles
      else if e = .b then rejected .fixedPointBytes
      else shiftedRight word op (vectors2 word e)
    | .narrow upper =>
      if e = .d then rejected .shiftElement
      else
        shiftedRight word (if q then upper else op)
          [vector word.rd e q, vector word.rn e.double true]
    | .long upper extend extendUpper =>
      if e = .d then rejected .shiftElement
      else accepted do
        let amount ← leftAmount word
        let whole ← Row.build (if q then upper else op)
          [vector word.rd e.double true, vector word.rn e q, immNat amount]
        if amount = 0 then (whole.named (if q then extendUpper else extend)).drop 2
        else some whole

theorem shiftImmediate_eq {word : Word} {e : ElementSize}
    (h : shiftElement? (word.field 19 4) = some e) :
    shiftImmediate word = outcome (Decode.shiftImmediate word e) := by
  simp only [shiftImmediate, Decode.shiftImmediate, shiftElement_eq h]
  cases shift? word.u (word.field 11 5) with
  | none => rfl
  | some row =>
    obtain ⟨op, form⟩ := row
    cases form <;>
      simp [shiftedRight, shiftedLeft, rightAmount_eq h, leftAmount_eq h, built, vectors2]

def scalarShiftImmediate (word : Word) : Leaf :=
  match shift? word.u (word.field 11 5) with
  | none => rejected .scalarShiftOpcode
  | some (op, form) => do
    let e ← shiftElement word
    match form with
    | .long _ _ _ => rejected .scalarWideningShift
    | .narrow _ =>
      if op = .shrn ∨ op = .rshrn then rejected .scalarNarrowShift
      else if e = .d then rejected .scalarNarrowElement
      else shiftedRight word op [scalar e word.rd, scalar e.double word.rn]
    | .fixed =>
      if e = .b then rejected .fixedPointBytes else shiftedRight word op (scalars2 word e)
    | .right =>
      if e ≠ .d ∧ shiftsAnyScalar op = false then rejected .scalarShiftDoubles
      else shiftedRight word op (scalars2 word e)
    | .left =>
      if e ≠ .d ∧ shiftsAnyScalar op = false then rejected .scalarShiftDoubles
      else shiftedLeft word op (scalars2 word e)

theorem scalarShiftImmediate_eq {word : Word} {e : ElementSize}
    (h : shiftElement? (word.field 19 4) = some e) :
    scalarShiftImmediate word = outcome (Decode.scalarShiftImmediate word e) := by
  simp only [scalarShiftImmediate, Decode.scalarShiftImmediate, shiftElement_eq h]
  cases shift? word.u (word.field 11 5) with
  | none => rfl
  | some row =>
    obtain ⟨op, form⟩ := row
    cases form <;>
      simp [shiftedRight, shiftedLeft, rightAmount_eq h, leftAmount_eq h, built, scalars2]

/-- Operations on three vectors; an inclusive or of a vector with itself is a move. -/
def threeSame (word : Word) : Leaf :=
  if word.field 14 2 ≠ 0b11 ∧ word.field 11 5 = 0b00011 then accepted do
    let op := bitwiseSame word.u (word.field 22 2)
    let whole ← Row.build op (vectors3 word .b)
    if op = .orr ∧ word.rn = word.rm then (whole.named .mov).drop 2 else some whole
  else pushed (Decode.threeSame word)

theorem threeSame_eq (word : Word) : threeSame word = outcome (Decode.threeSame word) := by
  unfold threeSame
  split
  · rename_i h
    rw [Decode.threeSame, if_neg h.1, if_pos h.2]
    simp [bitwise, vectors2, vectors3]
  · exact pushed_of_regular (regular_threeSame word)

/-- Decodes a class whose registers all have the precision of the word's type. -/
def withPrecision (word : Word) (decode : ElementSize → Leaf) : Leaf :=
  if word.bit 31 then rejected .floatM
  else
    match precision? (word.field 22 2) with
    | some e => decode e
    | none => rejected .floatType

theorem withPrecision_eq {word : Word} {strict : ElementSize → Leaf}
    {total : ElementSize → Decoding} (h : ∀ e, strict e = outcome (total e)) :
    withPrecision word strict = outcome (Decode.withPrecision word total) := by
  unfold withPrecision Decode.withPrecision
  cases precision? (word.field 22 2) <;> simp [h]

def fixedPointConversion (word : Word) : Leaf :=
  let scale := word.field 10 6
  match precision? (word.field 22 2) with
  | none => rejected .fixedPointType
  | some e =>
    if word.sf = false ∧ scale < 32 then rejected .fixedPointScale
    else do
      let fraction ← minus 64 scale.toNat
      match word.field 19 2, word.field 16 3 with
      | 0b00, 0b010 => built .scvtf [scalar e word.rd, gpr word.sf word.rn, immNat fraction]
      | 0b00, 0b011 => built .ucvtf [scalar e word.rd, gpr word.sf word.rn, immNat fraction]
      | 0b11, 0b000 => built .fcvtzs [gpr word.sf word.rd, scalar e word.rn, immNat fraction]
      | 0b11, 0b001 => built .fcvtzu [gpr word.sf word.rd, scalar e word.rn, immNat fraction]
      | _, _ => rejected .fixedPointOpcode

theorem fixedPointConversion_eq (word : Word) :
    fixedPointConversion word = outcome (Decode.fixedPointConversion word) := by
  have hscale : (word.field 10 6).toNat ≤ 64 := Nat.le_of_lt (word.field 10 6).isLt
  simp only [fixedPointConversion, Decode.fixedPointConversion, minus_of_le hscale]
  cases precision? (word.field 22 2) with
  | none => rfl
  | some e =>
    rcases twoBits_cases (word.field 19 2) with h | h | h | h <;>
      rcases threeBits_cases (word.field 16 3) with h' | h' | h' | h' | h' | h' | h' | h' <;>
      simp [h, h', built]

def floatConditionalCompare (word : Word) : Leaf :=
  withPrecision word fun e => do
    let cond ← condition (word.field 12 4)
    built (if word.bit 4 then .fccmpe else .fccmp)
      [scalar e word.rn, scalar e word.rm, imm (word.field 0 4), .condition cond]

def floatConditionalSelect (word : Word) : Leaf :=
  withPrecision word fun e => do
    let cond ← condition (word.field 12 4)
    built .fcsel [scalar e word.rd, scalar e word.rn, scalar e word.rm, .condition cond]

theorem floatConditionalCompare_eq (word : Word) :
    floatConditionalCompare word = outcome (Decode.floatConditionalCompare word) :=
  withPrecision_eq fun e => by simp [built]

theorem floatConditionalSelect_eq (word : Word) :
    floatConditionalSelect word = outcome (Decode.floatConditionalSelect word) :=
  withPrecision_eq fun e => by simp [built]

def floatingPoint (word : Word) : Leaf :=
  if word.bit 29 = false ∧ word.bit 24 = false then
    if word.bit 21 = false then fixedPointConversion word
    else
      match word.field 10 2 with
      | 0b01 => floatConditionalCompare word
      | 0b11 => floatConditionalSelect word
      | _ => pushed (Decode.floatingPoint word)
  else pushed (Decode.floatingPoint word)

theorem floatingPoint_eq (word : Word) :
    floatingPoint word = outcome (Decode.floatingPoint word) := by
  have hpushed : pushed (Decode.floatingPoint word) = outcome (Decode.floatingPoint word) :=
    pushed_of_regular (regular_floatingPoint word)
  unfold floatingPoint
  split
  · rename_i h
    split
    · rename_i h21
      rw [fixedPointConversion_eq]
      simp [Decode.floatingPoint, h.1, h.2, h21]
    · rename_i h21
      split
      · rename_i hop
        rw [floatConditionalCompare_eq]
        simp [Decode.floatingPoint, h.1, h.2, h21, hop]
      · rename_i hop
        rw [floatConditionalSelect_eq]
        simp [Decode.floatingPoint, h.1, h.2, h21, hop]
      · exact hpushed
  · exact hpushed

def dataProcessingVector (word : Word) : Leaf :=
  match VectorClass.ofWord word with
  | .error reason => rejected reason
  | .ok .floatingPoint => floatingPoint word
  | .ok .threeSame => threeSame word
  | .ok (.shiftImmediate _) => shiftImmediate word
  | .ok (.scalarShiftImmediate _) => scalarShiftImmediate word
  | .ok cls => pushed (cls.meaning word)

theorem dataProcessingVector_eq {word : Word}
    (hgroup : Group.ofWord? word = some .dataProcessingVector) :
    dataProcessingVector word = outcome (Decode.dataProcessingVector word) := by
  unfold dataProcessingVector Decode.dataProcessingVector
  cases hcls : VectorClass.ofWord word with
  | error reason => rfl
  | ok cls =>
    have hw := VectorClass.matches_of_ofWord hgroup hcls
    have hpushed : pushed (cls.meaning word) = outcome (cls.meaning word) :=
      pushed_of_regular (regular_vectorClass word cls)
    cases cls with
    | floatingPoint => exact floatingPoint_eq word
    | threeSame => exact threeSame_eq word
    | shiftImmediate e =>
      exact shiftImmediate_eq (VectorClass.Immediate.shiftElement?_eq ⟨hw, trivial⟩)
    | scalarShiftImmediate e =>
      exact scalarShiftImmediate_eq (VectorClass.Immediate.shiftElement?_eq ⟨hw, trivial⟩)
    | _ => exact hpushed

end A64.Strict
