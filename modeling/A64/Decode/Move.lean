import A64.Decode.Basic

/-!
Loading a register with a constant or with an address near the instruction.
-/

namespace A64.Decode

/-- Addresses relative to the instruction, or to its page of `2 ^ 12` bytes. -/
def pcRelative (word : Word) (address : Address) : Decoding :=
  let offset := (word.field 5 19 ++ word.field 29 2).toInt
  let rd := x word.rd
  if word.bit 31 then done .adrp [rd, label (address &&& ~~~0xfff) (offset * 4096)]
  else done .adr [rd, label address offset]

/-- Wide moves: sixteen bits put into one of the register's halfwords, the others zero, one or
kept. A move that leaves zeros or ones is written with the value it loads, if that has no shorter
encoding: not for no bits in a higher halfword, nor for all bits of a 32-bit inverted halfword. -/
def moveWide (word : Word) : Decoding :=
  let hw := word.field 21 2
  let imm16 := word.field 5 16
  let rd := gpr word.sf word.rd
  let shift := 16 * hw.toNat
  let halfword := immLsl imm16 shift
  let value : BitVec 64 := imm16.setWidth 64 <<< shift
  let spelled := decide (imm16 ≠ 0 ∨ hw = 0)
  if word.field 29 2 = 0b01 then reserved .moveWideOpcode
  else if word.sf = false ∧ 2 ≤ hw then reserved .moveWideHalfword
  else
    match word.field 29 2 with
    | 0b00 =>
      if spelled ∧ (word.sf ∨ imm16 ≠ 0xffff) then
        done .mov [rd, if word.sf then signed64 (~~~value) else signed32 ((~~~value).setWidth 32)]
      else done .movn [rd, halfword]
    | 0b10 =>
      if spelled then done .mov [rd, if word.sf then imm64 value else imm value]
      else done .movz [rd, halfword]
    | _ => done .movk [rd, halfword]

end A64.Decode
