import A64.Decode.Float
import A64.Decode.Vector.Basic

/-!
Operations on one source: integer and floating-point functions of each element, comparisons with
zero, changes of width, and reductions of a whole vector.
-/

namespace A64.Decode

/-- A floating-point operation, and whether it compares with zero. -/
structure FloatMiscRow where
  operation : Operation
  zero : Bool

/-- Floating-point operations; `a` is the high bit of the size. -/
def floatMisc? (u a : Bool) (opcode : BitVec 5) : Option FloatMiscRow :=
  match u, a, opcode with
  | false, false, 0b11000 => some ⟨.frintn, false⟩
  | false, false, 0b11001 => some ⟨.frintm, false⟩
  | false, false, 0b11010 => some ⟨.fcvtns, false⟩
  | false, false, 0b11011 => some ⟨.fcvtms, false⟩
  | false, false, 0b11100 => some ⟨.fcvtas, false⟩
  | false, false, 0b11101 => some ⟨.scvtf, false⟩
  | false, false, 0b11110 => some ⟨.frint32z, false⟩
  | false, false, 0b11111 => some ⟨.frint64z, false⟩
  | false, true, 0b01100 => some ⟨.fcmgt, true⟩
  | false, true, 0b01101 => some ⟨.fcmeq, true⟩
  | false, true, 0b01110 => some ⟨.fcmlt, true⟩
  | false, true, 0b01111 => some ⟨.fabs, false⟩
  | false, true, 0b11000 => some ⟨.frintp, false⟩
  | false, true, 0b11001 => some ⟨.frintz, false⟩
  | false, true, 0b11010 => some ⟨.fcvtps, false⟩
  | false, true, 0b11011 => some ⟨.fcvtzs, false⟩
  | false, true, 0b11101 => some ⟨.frecpe, false⟩
  | true, false, 0b11000 => some ⟨.frinta, false⟩
  | true, false, 0b11001 => some ⟨.frintx, false⟩
  | true, false, 0b11010 => some ⟨.fcvtnu, false⟩
  | true, false, 0b11011 => some ⟨.fcvtmu, false⟩
  | true, false, 0b11100 => some ⟨.fcvtau, false⟩
  | true, false, 0b11101 => some ⟨.ucvtf, false⟩
  | true, false, 0b11110 => some ⟨.frint32x, false⟩
  | true, false, 0b11111 => some ⟨.frint64x, false⟩
  | true, true, 0b01100 => some ⟨.fcmge, true⟩
  | true, true, 0b01101 => some ⟨.fcmle, true⟩
  | true, true, 0b01111 => some ⟨.fneg, false⟩
  | true, true, 0b11001 => some ⟨.frinti, false⟩
  | true, true, 0b11010 => some ⟨.fcvtpu, false⟩
  | true, true, 0b11011 => some ⟨.fcvtzu, false⟩
  | true, true, 0b11101 => some ⟨.frsqrte, false⟩
  | true, true, 0b11111 => some ⟨.fsqrt, false⟩
  | _, _, _ => none

/-- Whether an operation rounds to an integer of a given width. Such operations have neither a
half-precision nor a scalar form. -/
def roundsToWidth : Operation → Bool
  | .frint32z | .frint32x | .frint64z | .frint64x => true
  | _ => false

/-- Half-precision operations. -/
def halfMisc? (u a : Bool) (opcode : BitVec 5) : Option FloatMiscRow :=
  (floatMisc? u a opcode).filter fun row => !roundsToWidth row.operation

/-- Whether an operation works on vectors only. -/
def vectorOnly : Operation → Bool
  | .frintn | .frintm | .frintp | .frintz | .frinta | .frintx | .frinti => true
  | .fabs | .fneg | .fsqrt => true
  | op => roundsToWidth op

/-- Operations on scalars: those on vectors that have a scalar form, and one of their own. -/
def scalarFloatMisc? (u a : Bool) (opcode : BitVec 5) : Option FloatMiscRow :=
  if u = false ∧ a ∧ opcode = 0b11111 then some ⟨.frecpx, false⟩
  else (floatMisc? u a opcode).filter fun row => !vectorOnly row.operation

/-- The operands of a comparison with zero, or of another operation. -/
def FloatMiscRow.operands (row : FloatMiscRow) (registers : List Operand) : List Operand :=
  if row.zero then registers ++ [floatZero] else registers

/-- Estimates of reciprocals of integers, which share an opcode with floating point. -/
def integerEstimate (word : Word) : Decoding :=
  if word.bit 22 then reserved .estimateSize
  else done (if word.u then .ursqrte else .urecpe) (vectors2 word .s)

/-- Floating-point operations on vectors. -/
def floatMisc (word : Word) : Decoding :=
  let e := floatSize word
  let opcode := word.field 12 5
  if isLone e word.q then reserved .miscFloatDoubles
  else if opcode = 0b11100 ∧ word.bit 23 then integerEstimate word
  else
    match floatMisc? word.u (word.bit 23) opcode with
    | none => reserved .miscFloatOpcode
    | some row => done row.operation (row.operands (vectors2 word e))

/-- Floating-point operations on scalars. -/
def scalarFloatMisc (word : Word) : Decoding :=
  match scalarFloatMisc? word.u (word.bit 23) (word.field 12 5) with
  | none => reserved .scalarMiscFloatOpcode
  | some row => done row.operation (row.operands (scalars2 word (floatSize word)))

/-- Half-precision operations on vectors. -/
def twoMiscHalf (word : Word) : Decoding :=
  match halfMisc? word.u (word.bit 23) (word.field 12 5) with
  | none => reserved .miscHalfOpcode
  | some row => done row.operation (row.operands (vectors2 word .h))

/-- Half-precision operations on scalars. -/
def scalarTwoMiscHalf (word : Word) : Decoding :=
  match scalarFloatMisc? word.u (word.bit 23) (word.field 12 5) with
  | none => reserved .scalarMiscHalfOpcode
  | some row => done row.operation (row.operands (scalars2 word .h))

/-- Whether an opcode is one of floating point. -/
def isFloatMisc (opcode : BitVec 5) : Bool :=
  opcode.extractLsb' 3 2 == 0b11 || opcode.extractLsb' 2 3 == 0b011

/-- Conversions to the next narrower or wider precision. -/
def floatWidth (word : Word) : Decoding :=
  let narrow : ElementSize := if word.bit 22 then .s else .h
  let wide : ElementSize := if word.bit 22 then .d else .s
  let narrowing := [vector word.rd narrow word.q, vector word.rn wide true]
  if word.bit 23 then reserved .widthConversionSize
  else
    match word.u, word.bit 12 with
    | false, false => done (if word.q then .fcvtn2 else .fcvtn) narrowing
    | false, true =>
      done (if word.q then .fcvtl2 else .fcvtl)
        [vector word.rd wide true, vector word.rn narrow word.q]
    | true, false =>
      if word.bit 22 then done (if word.q then .fcvtxn2 else .fcvtxn) narrowing
      else reserved .widthConversionOpcode
    | true, true => reserved .widthConversionOpcode

/-! ### Integers -/

/-- The shape of an integer operation. -/
inductive MiscShape where
  /-- Source and destination are alike. -/
  | same
  /-- The source is compared with zero. -/
  | zero
  /-- The destination has half as many elements of twice the width. -/
  | pairLong
  /-- The destination is narrow: its lower half, or its upper under another name. -/
  | narrow (upper : Operation)
  /-- The source is narrow and its elements are shifted to the left by their width. -/
  | shiftLong (upper : Operation)
  deriving DecidableEq

/-- An integer operation, with the narrow elements it accepts and its shape. -/
structure MiscRow where
  operation : Operation
  sizes : List ElementSize
  shape : MiscShape

/-- Integer operations. -/
def integerMisc? (u : Bool) (opcode : BitVec 5) : Option MiscRow :=
  match u, opcode with
  | false, 0b00000 => some ⟨.rev64, belowDouble, .same⟩
  | false, 0b00001 => some ⟨.rev16, [.b], .same⟩
  | false, 0b00010 => some ⟨.saddlp, belowDouble, .pairLong⟩
  | false, 0b00011 => some ⟨.suqadd, anySize, .same⟩
  | false, 0b00100 => some ⟨.cls, belowDouble, .same⟩
  | false, 0b00101 => some ⟨.cnt, [.b], .same⟩
  | false, 0b00110 => some ⟨.sadalp, belowDouble, .pairLong⟩
  | false, 0b00111 => some ⟨.sqabs, anySize, .same⟩
  | false, 0b01000 => some ⟨.cmgt, anySize, .zero⟩
  | false, 0b01001 => some ⟨.cmeq, anySize, .zero⟩
  | false, 0b01010 => some ⟨.cmlt, anySize, .zero⟩
  | false, 0b01011 => some ⟨.abs, anySize, .same⟩
  | false, 0b10010 => some ⟨.xtn, belowDouble, .narrow .xtn2⟩
  | false, 0b10100 => some ⟨.sqxtn, belowDouble, .narrow .sqxtn2⟩
  | true, 0b00000 => some ⟨.rev32, byteOrHalf, .same⟩
  | true, 0b00010 => some ⟨.uaddlp, belowDouble, .pairLong⟩
  | true, 0b00011 => some ⟨.usqadd, anySize, .same⟩
  | true, 0b00100 => some ⟨.clz, belowDouble, .same⟩
  | true, 0b00110 => some ⟨.uadalp, belowDouble, .pairLong⟩
  | true, 0b00111 => some ⟨.sqneg, anySize, .same⟩
  | true, 0b01000 => some ⟨.cmge, anySize, .zero⟩
  | true, 0b01001 => some ⟨.cmle, anySize, .zero⟩
  | true, 0b01011 => some ⟨.neg, anySize, .same⟩
  | true, 0b10010 => some ⟨.sqxtun, belowDouble, .narrow .sqxtun2⟩
  | true, 0b10011 => some ⟨.shll, belowDouble, .shiftLong .shll2⟩
  | true, 0b10100 => some ⟨.uqxtn, belowDouble, .narrow .uqxtn2⟩
  | _, _ => none

/-- Integer operations on vectors. -/
def integerMisc (word : Word) : Decoding :=
  let e := elementSize word
  let q := word.q
  match integerMisc? word.u (word.field 12 5) with
  | none => reserved .miscOpcode
  | some ⟨op, sizes, shape⟩ =>
    if e ∉ sizes then reserved .miscSize
    else
      match shape with
      | .same => if isLone e q then reserved .miscDoubles else done op (vectors2 word e)
      | .zero =>
        if isLone e q then reserved .miscDoubles else done op (vectors2 word e ++ [immNat 0])
      | .pairLong => done op [vector word.rd e.double q, vector word.rn e q]
      | .narrow upper =>
        done (if q then upper else op) [vector word.rd e q, vector word.rn e.double true]
      | .shiftLong upper =>
        done (if q then upper else op)
          [vector word.rd e.double true, vector word.rn e q, immNat e.bits]

/-- Inversion of all bits and reversal of the bits of bytes, which share an opcode. -/
def invertBits (word : Word) : Decoding :=
  match word.field 22 2 with
  | 0b00 => done .mvn (vectors2 word .b)
  | 0b01 => done .rbit (vectors2 word .b)
  | _ => reserved .notSize

/-- Operations on one source vector. -/
def twoMisc (word : Word) : Decoding :=
  let opcode := word.field 12 5
  if word.u ∧ opcode = 0b00101 then invertBits word
  else if opcode = 0b10110 ∨ opcode = 0b10111 then floatWidth word
  else if isFloatMisc opcode then floatMisc word
  else integerMisc word

/-- Integer operations on scalars, with the destination elements they accept. -/
def scalarMisc? (u : Bool) (opcode : BitVec 5) : Option MiscRow :=
  match u, opcode with
  | false, 0b00011 => some ⟨.suqadd, anySize, .same⟩
  | false, 0b00111 => some ⟨.sqabs, anySize, .same⟩
  | false, 0b01000 => some ⟨.cmgt, [.d], .zero⟩
  | false, 0b01001 => some ⟨.cmeq, [.d], .zero⟩
  | false, 0b01010 => some ⟨.cmlt, [.d], .zero⟩
  | false, 0b01011 => some ⟨.abs, [.d], .same⟩
  | false, 0b10100 => some ⟨.sqxtn, belowDouble, .narrow .sqxtn⟩
  | true, 0b00011 => some ⟨.usqadd, anySize, .same⟩
  | true, 0b00111 => some ⟨.sqneg, anySize, .same⟩
  | true, 0b01000 => some ⟨.cmge, [.d], .zero⟩
  | true, 0b01001 => some ⟨.cmle, [.d], .zero⟩
  | true, 0b01011 => some ⟨.neg, [.d], .same⟩
  | true, 0b10010 => some ⟨.sqxtun, belowDouble, .narrow .sqxtun⟩
  | true, 0b10100 => some ⟨.uqxtn, belowDouble, .narrow .uqxtn⟩
  | _, _ => none

/-- Integer operations on scalars. -/
def scalarIntegerMisc (word : Word) : Decoding :=
  let e := elementSize word
  match scalarMisc? word.u (word.field 12 5) with
  | none => reserved .scalarMiscOpcode
  | some ⟨op, sizes, shape⟩ =>
    if e ∉ sizes then reserved .scalarMiscSize
    else
      match shape with
      | .narrow _ => done op [scalar e word.rd, scalar e.double word.rn]
      | .zero => done op (scalars2 word e ++ [immNat 0])
      | _ => done op (scalars2 word e)

/-- Operations on one source scalar. -/
def scalarTwoMisc (word : Word) : Decoding :=
  let opcode := word.field 12 5
  if word.u ∧ opcode = 0b10110 then
    if word.field 22 2 = 0b01 then done .fcvtxn [scalar .s word.rd, scalar .d word.rn]
    else reserved .narrowInexactSize
  else if isFloatMisc opcode then scalarFloatMisc word
  else scalarIntegerMisc word

/-- Largest and smallest elements in floating point. -/
def floatAcross (numeric minimum : Bool) : Operation :=
  match numeric, minimum with
  | true, false => .fmaxnmv
  | true, true => .fminnmv
  | false, false => .fmaxv
  | false, true => .fminv

/-- Reductions of integers, and whether the result is twice as wide. -/
def integerAcross? (u : Bool) (opcode : BitVec 5) : Option (Operation × Bool) :=
  match u, opcode with
  | false, 0b00011 => some (.saddlv, true)
  | false, 0b01010 => some (.smaxv, false)
  | false, 0b11010 => some (.sminv, false)
  | false, 0b11011 => some (.addv, false)
  | true, 0b00011 => some (.uaddlv, true)
  | true, 0b01010 => some (.umaxv, false)
  | true, 0b11010 => some (.uminv, false)
  | _, _ => none

/-- Reductions of a vector to one element. -/
def acrossLanes (word : Word) : Decoding :=
  let e := elementSize word
  let opcode := word.field 12 5
  if opcode = 0b01100 ∨ opcode = 0b01111 then
    let op := floatAcross (opcode = 0b01100) (word.bit 23)
    if word.bit 22 then reserved .acrossFloatOpcode
    else if word.u = false then done op [scalar .h word.rd, vector word.rn .h word.q]
    else if word.q then done op [scalar .s word.rd, vector word.rn .s true]
    else reserved .acrossFloatSize
  else
    match integerAcross? word.u opcode with
    | none => reserved .acrossOpcode
    | some (op, long) =>
      if e = .d ∨ (e = .s ∧ word.q = false) then reserved .acrossSize
      else done op [scalar (if long then e.double else e) word.rd, vector word.rn e word.q]

/-- Reductions of a pair in floating point. -/
def floatPairwise? (opcode : BitVec 5) (a : Bool) : Option Operation :=
  match opcode, a with
  | 0b01100, false => some .fmaxnmp
  | 0b01101, false => some .faddp
  | 0b01111, false => some .fmaxp
  | 0b01100, true => some .fminnmp
  | 0b01111, true => some .fminp
  | _, _ => none

/-- Reductions of a pair of elements to a scalar. -/
def scalarPairwise (word : Word) : Decoding :=
  let opcode := word.field 12 5
  let reduce (op : Operation) (e : ElementSize) : Decoding :=
    done op [scalar e word.rd, arranged word.rn ⟨e, 2⟩]
  if word.u = false ∧ opcode = 0b11011 then
    if elementSize word = .d then reduce .addp .d else reserved .scalarPairwiseAddSize
  else
    match floatPairwise? opcode (word.bit 23) with
    | none => reserved .scalarPairwiseOpcode
    | some op =>
      if word.u then reduce op (floatSize word)
      else if word.bit 22 then reserved .scalarPairwiseHalf
      else reduce op .h

end A64.Decode
