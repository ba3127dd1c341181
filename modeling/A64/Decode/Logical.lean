import A64.Decode.Basic
import A64.Immediate.LogicalMask

/-!
Bitwise operations on an immediate or a shifted register.

An inclusive or with the zero register is a move, unless a wide move is preferred, and a
conjunction that discards its result is a test.
-/

namespace A64.Decode

/-- Bitwise operations on an immediate. -/
def logicalImmediate (word : Word) : Decoding :=
  let n := word.field 22 1
  let imms := word.field 10 6
  let immr := word.field 16 6
  let mask := LogicalMask.expand n imms immr (if word.sf then 64 else 32)
  let rd := gprOrStack word.sf word.rd
  let rn := gpr word.sf word.rn
  let value := if word.sf then imm64 mask else imm mask
  if word.sf = false ∧ n = 1 then reserved .logicalImmediateN
  else if mask = 0 then reserved .logicalImmediateMask
  else
    match word.field 29 2 with
    | 0b00 => done .and [rd, rn, value]
    | 0b01 =>
      if word.rn = 31 ∧ LogicalMask.isWideMove word.sf n.toNat imms immr = false then
        done .mov [rd, value]
      else done .orr [rd, rn, value]
    | 0b10 => done .eor [rd, rn, value]
    | _ =>
      if word.rd = 31 then done .tst [rn, value] else done .ands [gpr word.sf word.rd, rn, value]

/-- Bitwise operations on a shifted register. -/
def logicalShifted (word : Word) : Decoding :=
  let shift := word.field 22 2
  let imm6 := word.field 10 6
  let rd := gpr word.sf word.rd
  let rn := gpr word.sf word.rn
  let rm := shiftedGpr word.sf word.rm (.ofShiftBits shift) imm6.toNat
  if word.sf = false ∧ 32 ≤ imm6 then reserved .shiftAmount
  else
    match word.field 29 2, word.bit 21 with
    | 0b00, false => done .and [rd, rn, rm]
    | 0b00, true => done .bic [rd, rn, rm]
    | 0b01, false =>
      if word.rn = 31 ∧ shift = 0 ∧ imm6 = 0 then done .mov [rd, rm] else done .orr [rd, rn, rm]
    | 0b01, true => if word.rn = 31 then done .mvn [rd, rm] else done .orn [rd, rn, rm]
    | 0b10, false => done .eor [rd, rn, rm]
    | 0b10, true => done .eon [rd, rn, rm]
    | _, false => if word.rd = 31 then done .tst [rn, rm] else done .ands [rd, rn, rm]
    | _, true => done .bics [rd, rn, rm]

end A64.Decode
