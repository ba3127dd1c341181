import A64.Decode.Basic

/-!
Moving a field of a register: to bit 0, or from bit 0 to a place of its own, filling the other bits
with zeros, copies of the sign or the bits that were there.

Every such move has a name that tells what it is used for: a shift, an extension, an extraction or
an insertion.
-/

namespace A64.Decode

/-- Whether moving the field from bit `immr` to bit `imms` down is called an extraction: it is
neither a shift to the right nor an extension. -/
def isExtraction (sf unsigned : Bool) (imms immr : BitVec 6) : Bool :=
  if imms < immr then false
  else if imms = (if sf then 63 else 31) then false
  else if immr = 0 ∧ sf = false ∧ (imms = 7 ∨ imms = 15) then false
  else if immr = 0 ∧ sf ∧ unsigned = false ∧ (imms = 7 ∨ imms = 15 ∨ imms = 31) then false
  else true

/-- The same question of fields that are given as whole words. -/
def isExtractionWords (sf unsigned : Bool) (imms immr : Word) : Bool :=
  isExtraction sf unsigned (imms.setWidth 6) (immr.setWidth 6)

/-- Moves of a field that fill with copies of the sign. -/
def signedBitfield (sf : Bool) (rd rn : BitVec 5) (immr imms : BitVec 6) : Decoded :=
  let last : Nat := if sf then 63 else 31
  let d := gpr sf rd
  let n := gpr sf rn
  if imms.toNat = last then ⟨.asr, [d, n, imm immr]⟩
  else if imms < immr then
    ⟨.sbfiz, [d, n, immNat (last + 1 - immr.toNat), immNat (imms.toNat + 1)]⟩
  else if isExtraction sf false imms immr then
    ⟨.sbfx, [d, n, imm immr, immNat (imms.toNat - immr.toNat + 1)]⟩
  else
    match immr, imms with
    | 0, 7 => ⟨.sxtb, [d, w rn]⟩
    | 0, 15 => ⟨.sxth, [d, w rn]⟩
    | 0, 31 => ⟨.sxtw, [d, w rn]⟩
    | _, _ => ⟨.sbfm, [d, n, imm immr, imm imms]⟩

/-- Moves of a field that keep the other bits. -/
def insertedBitfield (sf : Bool) (rd rn : BitVec 5) (immr imms : BitVec 6) : Decoded :=
  let last : Nat := if sf then 63 else 31
  let d := gpr sf rd
  let n := gpr sf rn
  if imms < immr then
    let lsb := immNat (last + 1 - immr.toNat)
    let width := immNat (imms.toNat + 1)
    if rn = 31 then ⟨.bfc, [d, lsb, width]⟩ else ⟨.bfi, [d, n, lsb, width]⟩
  else ⟨.bfxil, [d, n, imm immr, immNat (imms.toNat - immr.toNat + 1)]⟩

/-- Moves of a field that fill with zeros. -/
def unsignedBitfield (sf : Bool) (rd rn : BitVec 5) (immr imms : BitVec 6) : Decoded :=
  let last : Nat := if sf then 63 else 31
  let d := gpr sf rd
  let n := gpr sf rn
  if imms.toNat ≠ last ∧ imms.toNat + 1 = immr.toNat then
    ⟨.lsl, [d, n, immNat (last - imms.toNat)]⟩
  else if imms.toNat = last then ⟨.lsr, [d, n, imm immr]⟩
  else if imms < immr then
    ⟨.ubfiz, [d, n, immNat (last + 1 - immr.toNat), immNat (imms.toNat + 1)]⟩
  else if isExtraction sf true imms immr then
    ⟨.ubfx, [d, n, imm immr, immNat (imms.toNat - immr.toNat + 1)]⟩
  else
    match immr, imms with
    | 0, 7 => ⟨.uxtb, [w rd, w rn]⟩
    | 0, 15 => ⟨.uxth, [w rd, w rn]⟩
    | _, _ => ⟨.ubfm, [d, n, imm immr, imm imms]⟩

/-- Moves of a field of a register. -/
def bitfield (word : Word) : Decoding :=
  let immr := word.field 16 6
  let imms := word.field 10 6
  if word.field 29 2 = 0b11 then reserved .bitfieldOpcode
  else if word.sf ≠ word.bit 22 then reserved .bitfieldN
  else if word.sf = false ∧ (32 ≤ immr ∨ 32 ≤ imms) then reserved .bitfieldRange
  else
    match word.field 29 2 with
    | 0b00 => .ok (signedBitfield word.sf word.rd word.rn immr imms)
    | 0b01 => .ok (insertedBitfield word.sf word.rd word.rn immr imms)
    | _ => .ok (unsignedBitfield word.sf word.rd word.rn immr imms)

/-- The middle of two registers; of one register twice, a rotation. -/
def extract (word : Word) : Decoding :=
  let imms := word.field 10 6
  let rd := gpr word.sf word.rd
  let rn := gpr word.sf word.rn
  if word.field 29 2 ≠ 0 ∨ word.bit 21 then reserved .extractOpcode
  else if word.sf ≠ word.bit 22 then reserved .extractN
  else if word.sf = false ∧ 32 ≤ imms then reserved .extractRange
  else if word.rn = word.rm then done .ror [rd, rn, imm imms]
  else done .extr [rd, rn, gpr word.sf word.rm, imm imms]

end A64.Decode
