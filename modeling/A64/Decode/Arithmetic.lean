import A64.Decode.Basic

/-!
Addition and subtraction: of an immediate, of a shifted or extended register, and with carry.

A form that sets the flags and discards its result is a comparison, and a subtraction from the zero
register is a negation. Only the forms that leave the flags alone write the stack pointer.
-/

namespace A64.Decode

/-- Addition or subtraction, setting the flags or not. -/
def addSub (sub flags : Bool) : Operation :=
  match sub, flags with
  | false, false => .add
  | false, true => .adds
  | true, false => .sub
  | true, true => .subs

/-- Addition and subtraction of an immediate. Adding nothing to or from the stack pointer is a
move. -/
def addSubImmediate (word : Word) : Decoding :=
  let shift := word.field 22 2
  let imm12 := word.field 10 12
  let rn := gprOrStack word.sf word.rn
  let value := immLsl imm12 (12 * shift.toNat)
  if 1 < shift then reserved .addSubImmediateShift
  else
    match word.bit 30, word.bit 29 with
    | false, false =>
      let rd := gprOrStack word.sf word.rd
      if shift = 0 ∧ imm12 = 0 ∧ (word.rd = 31 ∨ word.rn = 31) then done .mov [rd, rn]
      else done .add [rd, rn, value]
    | true, false => done .sub [gprOrStack word.sf word.rd, rn, value]
    | false, true =>
      if word.rd = 31 then done .cmn [rn, value] else done .adds [gpr word.sf word.rd, rn, value]
    | true, true =>
      if word.rd = 31 then done .cmp [rn, value] else done .subs [gpr word.sf word.rd, rn, value]

/-- Addition and subtraction of a shifted register. -/
def addSubShifted (word : Word) : Decoding :=
  let shift := word.field 22 2
  let imm6 := word.field 10 6
  let rd := gpr word.sf word.rd
  let rn := gpr word.sf word.rn
  let rm := shiftedGpr word.sf word.rm (.ofShiftBits shift) imm6.toNat
  if shift = 3 then reserved .addSubRotate
  else if word.sf = false ∧ 32 ≤ imm6 then reserved .shiftAmount
  else
    match word.bit 30, word.bit 29 with
    | false, false => done .add [rd, rn, rm]
    | false, true => if word.rd = 31 then done .cmn [rn, rm] else done .adds [rd, rn, rm]
    | true, false => if word.rn = 31 then done .neg [rd, rm] else done .sub [rd, rn, rm]
    | true, true =>
      if word.rd = 31 then done .cmp [rn, rm]
      else if word.rn = 31 then done .negs [rd, rm]
      else done .subs [rd, rn, rm]

/-- The extended operand of an addition. Beside the stack pointer, the extension that keeps the
register's width is written as a shift to the left. -/
def extendedRegister (sf : Bool) (n : BitVec 5) (option : BitVec 3) (amount : Nat)
    (besideStack : Bool) : Operand :=
  let r := Register.gpr (sf && option &&& 3 == 3) n
  let kind := ShiftKind.ofExtendBits option
  if besideStack ∧ option = (if sf then 3 else 2) then
    if amount = 0 then plain r else shifted r (.lsl amount)
  else if amount = 0 then shifted r (.bare kind)
  else shifted r (.ofAmount kind amount)

/-- Addition and subtraction of an extended register. -/
def addSubExtended (word : Word) : Decoding :=
  let amount := word.field 10 3
  let flags := word.bit 29
  let besideStack := decide (word.rn = 31 ∨ (flags = false ∧ word.rd = 31))
  let rn := gprOrStack word.sf word.rn
  let rm := extendedRegister word.sf word.rm (word.field 13 3) amount.toNat besideStack
  if word.field 22 2 ≠ 0 then reserved .addSubExtendedOption
  else if 4 < amount then reserved .addSubExtendedAmount
  else
    match word.bit 30, flags with
    | sub, false => done (addSub sub false) [gprOrStack word.sf word.rd, rn, rm]
    | false, true =>
      if word.rd = 31 then done .cmn [rn, rm] else done .adds [gpr word.sf word.rd, rn, rm]
    | true, true =>
      if word.rd = 31 then done .cmp [rn, rm] else done .subs [gpr word.sf word.rd, rn, rm]

/-- Addition and subtraction with carry. -/
def addSubCarry (word : Word) : Decoding :=
  let rd := gpr word.sf word.rd
  let rn := gpr word.sf word.rn
  let rm := gpr word.sf word.rm
  match word.bit 30, word.bit 29 with
  | false, false => done .adc [rd, rn, rm]
  | false, true => done .adcs [rd, rn, rm]
  | true, false => if word.rn = 31 then done .ngc [rd, rm] else done .sbc [rd, rn, rm]
  | true, true => if word.rn = 31 then done .ngcs [rd, rm] else done .sbcs [rd, rn, rm]

end A64.Decode
