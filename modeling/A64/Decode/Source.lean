import A64.Decode.Basic

/-!
Integer operations on one, two or three source registers: reversals and counts, pointer
authentication, division, variable shifts, checksums and multiplication.
-/

namespace A64.Decode

/-- Authentication of a pointer with a modifier register. -/
def authenticate (opcode : BitVec 3) : Operation :=
  match opcode with
  | 0 => .pacia
  | 1 => .pacib
  | 2 => .pacda
  | 3 => .pacdb
  | 4 => .autia
  | 5 => .autib
  | 6 => .autda
  | _ => .autdb

/-- Authentication of a pointer with a modifier of zero. -/
def authenticateZero (opcode : BitVec 3) : Operation :=
  match opcode with
  | 0 => .paciza
  | 1 => .pacizb
  | 2 => .pacdza
  | 3 => .pacdzb
  | 4 => .autiza
  | 5 => .autizb
  | 6 => .autdza
  | _ => .autdzb

/-- Pointer authentication. -/
def pointerAuthentication (opcode : BitVec 6) (rd rn : BitVec 5) : Decoding :=
  let key := opcode.setWidth 3
  if opcode < 8 then done (authenticate key) [x rd, xsp rn]
  else if rn ≠ 31 then reserved .pointerAuthentication
  else if opcode < 16 then done (authenticateZero key) [x rd]
  else if opcode = 16 then done .xpaci [x rd]
  else if opcode = 17 then done .xpacd [x rd]
  else reserved .pointerAuthentication

/-- Reversals and counts of bits. -/
def reversal? (opcode : BitVec 6) (sf : Bool) : Option Operation :=
  match opcode, sf with
  | 0, _ => some .rbit
  | 1, _ => some .rev16
  | 2, false => some .rev
  | 2, true => some .rev32
  | 3, true => some .rev
  | 4, _ => some .clz
  | 5, _ => some .cls
  | _, _ => none

/-- Operations on one source. -/
def oneSource (word : Word) : Decoding :=
  let opcode := word.field 10 6
  let opcode2 := word.field 16 5
  if word.bit 29 then reserved .oneSourceFlags
  else if opcode2 = 0 then
    match reversal? opcode word.sf with
    | some op => done op [gpr word.sf word.rd, gpr word.sf word.rn]
    | none => reserved .oneSourceOpcode
  else if opcode2 = 1 ∧ word.sf then pointerAuthentication opcode word.rd word.rn
  else reserved .oneSourceOpcode2

/-- Checksums of an operand of `2 ^ size` bytes, with one of two polynomials. -/
def checksum (castagnoli : Bool) (size : BitVec 2) : Operation :=
  match castagnoli, size with
  | false, 0 => .crc32b
  | false, 1 => .crc32h
  | false, 2 => .crc32w
  | false, _ => .crc32x
  | true, 0 => .crc32cb
  | true, 1 => .crc32ch
  | true, 2 => .crc32cw
  | true, _ => .crc32cx

/-- Divisions and shifts by a register. -/
def division? (opcode : BitVec 6) : Option Operation :=
  match opcode with
  | 0b000010 => some .udiv
  | 0b000011 => some .sdiv
  | 0b001000 => some .lsl
  | 0b001001 => some .lsr
  | 0b001010 => some .asr
  | 0b001011 => some .ror
  | _ => none

/-- Operations on two sources. -/
def twoSource (word : Word) : Decoding :=
  let opcode := word.field 10 6
  let size := word.field 10 2
  if word.bit 29 then reserved .twoSourceFlags
  else if opcode = 0b001100 ∧ word.sf then done .pacga [x word.rd, x word.rn, xsp word.rm]
  else if word.field 13 3 = 0b010 then
    if decide (size = 3) ≠ word.sf then reserved .checksumSize
    else done (checksum (word.bit 12) size) [w word.rd, w word.rn, gpr word.sf word.rm]
  else
    match division? opcode with
    | some op => done op [gpr word.sf word.rd, gpr word.sf word.rn, gpr word.sf word.rm]
    | none => reserved .twoSourceOpcode

/-- A multiplication. -/
structure Multiplication where
  /-- The form that adds to or subtracts from a third source. -/
  accumulate : Operation
  /-- The form whose third source is the zero register. -/
  alone : Operation
  /-- Whether the product is wider than its factors. -/
  widening : Bool

/-- The multiplications that take a third source. -/
def multiplication? (op31 : BitVec 3) (o0 : Bool) : Option Multiplication :=
  match op31, o0 with
  | 0b000, false => some ⟨.madd, .mul, false⟩
  | 0b000, true => some ⟨.msub, .mneg, false⟩
  | 0b001, false => some ⟨.smaddl, .smull, true⟩
  | 0b001, true => some ⟨.smsubl, .smnegl, true⟩
  | 0b101, false => some ⟨.umaddl, .umull, true⟩
  | 0b101, true => some ⟨.umsubl, .umnegl, true⟩
  | _, _ => none

/-- The multiplications that keep the high half of the product. -/
def highHalf? (op31 : BitVec 3) (o0 : Bool) : Option Operation :=
  match op31, o0 with
  | 0b010, false => some .smulh
  | 0b110, false => some .umulh
  | _, _ => none

/-- Operations on three sources. -/
def threeSource (word : Word) : Decoding :=
  let op31 := word.field 21 3
  let o0 := word.bit 15
  if word.field 29 2 ≠ 0 then reserved .threeSourceOp54
  else
    match multiplication? op31 o0, highHalf? op31 o0 with
    | some m, _ =>
      let rd := gpr word.sf word.rd
      let rn := gpr (word.sf && !m.widening) word.rn
      let rm := gpr (word.sf && !m.widening) word.rm
      if m.widening ∧ word.sf = false then reserved .wideningMultiply
      else if word.ra = 31 then done m.alone [rd, rn, rm]
      else done m.accumulate [rd, rn, rm, gpr word.sf word.ra]
    | none, some op =>
      if word.sf = false then reserved .wideningMultiply
      else done op [x word.rd, x word.rn, x word.rm]
    | none, none => reserved .threeSourceOpcode

end A64.Decode
