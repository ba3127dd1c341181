import A64.Decode.Basic
import A64.Immediate.Vector

/-!
Scalar floating point: conversions, arithmetic, comparison and selection.

A two-bit type selects the precision: single, double or half.
-/

namespace A64.Decode

/-- The precision that a type selects. -/
def precision? (ftype : BitVec 2) : Option ElementSize :=
  match ftype with
  | 0b00 => some .s
  | 0b01 => some .d
  | 0b11 => some .h
  | _ => none

/-- Decodes a class whose registers all have the precision of the word's type. -/
def withPrecision (word : Word) (decode : ElementSize → Decoding) : Decoding :=
  if word.bit 31 then reserved .floatM
  else
    match precision? (word.field 22 2) with
    | some e => decode e
    | none => reserved .floatType

/-- A positive zero. -/
def floatZero : Operand := .float 0

/-- Conversions between floating point and fixed point. -/
def fixedPointConversion (word : Word) : Decoding :=
  let scale := word.field 10 6
  let fractionBits := immNat (64 - scale.toNat)
  match precision? (word.field 22 2) with
  | none => reserved .fixedPointType
  | some e =>
    if word.sf = false ∧ scale < 32 then reserved .fixedPointScale
    else
      match word.field 19 2, word.field 16 3 with
      | 0b00, 0b010 => done .scvtf [scalar e word.rd, gpr word.sf word.rn, fractionBits]
      | 0b00, 0b011 => done .ucvtf [scalar e word.rd, gpr word.sf word.rn, fractionBits]
      | 0b11, 0b000 => done .fcvtzs [gpr word.sf word.rd, scalar e word.rn, fractionBits]
      | 0b11, 0b001 => done .fcvtzu [gpr word.sf word.rd, scalar e word.rn, fractionBits]
      | _, _ => reserved .fixedPointOpcode

/-- Moves between a general-purpose register and the upper half of a vector. -/
def moveUpperHalf (word : Word) : Decoding :=
  match word.sf, word.field 19 2, word.field 16 3 with
  | true, 0b01, 0b110 => done .fmov [x word.rd, lane word.rn .d 1]
  | true, 0b01, 0b111 => done .fmov [lane word.rd .d 1, x word.rn]
  | _, _, _ => reserved .integerConversionType

/-- Conversions to an integer in a general-purpose register. -/
def toInteger? (rmode : BitVec 2) (opcode : BitVec 3) : Option Operation :=
  match rmode, opcode with
  | 0b00, 0b000 => some .fcvtns
  | 0b00, 0b001 => some .fcvtnu
  | 0b01, 0b000 => some .fcvtps
  | 0b01, 0b001 => some .fcvtpu
  | 0b10, 0b000 => some .fcvtms
  | 0b10, 0b001 => some .fcvtmu
  | 0b11, 0b000 => some .fcvtzs
  | 0b11, 0b001 => some .fcvtzu
  | 0b00, 0b100 => some .fcvtas
  | 0b00, 0b101 => some .fcvtau
  | _, _ => none

/-- Conversions between floating point and integers. Moves of the bits need registers of equal
width, half precision apart. -/
def integerConversion (word : Word) : Decoding :=
  let ftype := word.field 22 2
  let rmode := word.field 19 2
  let opcode := word.field 16 3
  if ftype = 0b10 then moveUpperHalf word
  else
    match precision? ftype with
    | none => reserved .integerConversionType
    | some e =>
      let outward := [gpr word.sf word.rd, scalar e word.rn]
      let inward := [scalar e word.rd, gpr word.sf word.rn]
      match toInteger? rmode opcode with
      | some op => done op outward
      | none =>
        match rmode, opcode with
        | 0b00, 0b010 => done .scvtf inward
        | 0b00, 0b011 => done .ucvtf inward
        | 0b00, 0b110 =>
          if e ≠ .h ∧ word.sf ≠ decide (e = .d) then reserved .moveGeneralWidth
          else done .fmov outward
        | 0b00, 0b111 =>
          if e ≠ .h ∧ word.sf ≠ decide (e = .d) then reserved .moveGeneralWidth
          else done .fmov inward
        | 0b11, 0b110 =>
          if word.sf = false ∧ e = .d then done .fjcvtzs [w word.rd, scalar .d word.rn]
          else reserved .integerConversionOpcode
        | _, _ => reserved .integerConversionOpcode

/-- Conversions between precisions. -/
def convertPrecision (word : Word) (source : ElementSize) : Decoding :=
  match precision? (word.field 15 2) with
  | none => reserved .convertTarget
  | some e =>
    if e = source then reserved .convertSame
    else done .fcvt [scalar e word.rd, scalar source word.rn]

/-! ### Arithmetic -/

/-- Operations on one source; half precision is not rounded to a given width. -/
def floatOneSource? (opcode : BitVec 6) (half : Bool) : Option Operation :=
  match opcode, half with
  | 0b000000, _ => some .fmov
  | 0b000001, _ => some .fabs
  | 0b000010, _ => some .fneg
  | 0b000011, _ => some .fsqrt
  | 0b001000, _ => some .frintn
  | 0b001001, _ => some .frintp
  | 0b001010, _ => some .frintm
  | 0b001011, _ => some .frintz
  | 0b001100, _ => some .frinta
  | 0b001110, _ => some .frintx
  | 0b001111, _ => some .frinti
  | 0b010000, false => some .frint32z
  | 0b010001, false => some .frint32x
  | 0b010010, false => some .frint64z
  | 0b010011, false => some .frint64x
  | _, _ => none

/-- Operations on one source. -/
def floatOneSource (word : Word) : Decoding :=
  withPrecision word fun e =>
    if word.field 17 4 = 0b0001 then convertPrecision word e
    else
      match floatOneSource? (word.field 15 6) (e = .h) with
      | some op => done op [scalar e word.rd, scalar e word.rn]
      | none => reserved .floatOneSource

/-- Operations on two sources. -/
def floatTwoSource? (opcode : BitVec 4) : Option Operation :=
  match opcode with
  | 0b0000 => some .fmul
  | 0b0001 => some .fdiv
  | 0b0010 => some .fadd
  | 0b0011 => some .fsub
  | 0b0100 => some .fmax
  | 0b0101 => some .fmin
  | 0b0110 => some .fmaxnm
  | 0b0111 => some .fminnm
  | 0b1000 => some .fnmul
  | _ => none

/-- Operations on two sources. -/
def floatTwoSource (word : Word) : Decoding :=
  withPrecision word fun e =>
    match floatTwoSource? (word.field 12 4) with
    | some op => done op [scalar e word.rd, scalar e word.rn, scalar e word.rm]
    | none => reserved .floatTwoSource

/-- Fused multiplication and addition, either negated or not. -/
def fusedMultiply (negate subtract : Bool) : Operation :=
  match negate, subtract with
  | false, false => .fmadd
  | false, true => .fmsub
  | true, false => .fnmadd
  | true, true => .fnmsub

/-- Operations on three sources. -/
def floatThreeSource (word : Word) : Decoding :=
  withPrecision word fun e =>
    done (fusedMultiply (word.bit 21) (word.bit 15))
      [scalar e word.rd, scalar e word.rn, scalar e word.rm, scalar e word.ra]

/-- Loading an immediate. -/
def floatImmediate (word : Word) : Decoding :=
  withPrecision word fun e =>
    if word.field 5 5 ≠ 0 then reserved .floatImmediate
    else done .fmov [scalar e word.rd, .float (VectorImmediate.single (word.field 13 8))]

/-- Comparison with a register or with zero. -/
def floatCompare (word : Word) : Decoding :=
  withPrecision word fun e =>
    let rn := scalar e word.rn
    let rm := scalar e word.rm
    if word.field 14 2 ≠ 0 then reserved .floatCompareOp
    else
      match word.field 0 5 with
      | 0b00000 => done .fcmp [rn, rm]
      | 0b01000 => done .fcmp [rn, floatZero]
      | 0b10000 => done .fcmpe [rn, rm]
      | 0b11000 => done .fcmpe [rn, floatZero]
      | _ => reserved .floatCompareOpcode2

/-- Comparison under a condition. -/
def floatConditionalCompare (word : Word) : Decoding :=
  withPrecision word fun e =>
    done (if word.bit 4 then .fccmpe else .fccmp)
      [scalar e word.rn, scalar e word.rm, imm (word.field 0 4),
        .condition (.ofBits (word.field 12 4))]

/-- Selection under a condition. -/
def floatConditionalSelect (word : Word) : Decoding :=
  withPrecision word fun e =>
    done .fcsel
      [scalar e word.rd, scalar e word.rn, scalar e word.rm,
        .condition (.ofBits (word.field 12 4))]

/-- Scalar floating point. -/
def floatingPoint (word : Word) : Decoding :=
  if word.bit 29 then reserved .floatFlags
  else if word.bit 24 then floatThreeSource word
  else if word.bit 21 = false then fixedPointConversion word
  else
    match word.field 10 2 with
    | 0b01 => floatConditionalCompare word
    | 0b10 => floatTwoSource word
    | 0b11 => floatConditionalSelect word
    | _ =>
      if word.bit 12 then floatImmediate word
      else if word.bit 13 then floatCompare word
      else if word.bit 14 then floatOneSource word
      else if word.bit 15 then reserved .floatClass
      else integerConversion word

end A64.Decode
