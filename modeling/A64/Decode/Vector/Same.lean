import A64.Decode.Vector.Basic

/-!
Operations on three registers of one shape: integer and bitwise arithmetic, floating point in three
precisions, dot products and complex arithmetic.
-/

namespace A64.Decode

/-- Floating-point operations; `a` is the high bit of the size. -/
def floatSame? (u a : Bool) (opcode : BitVec 3) : Option Operation :=
  match u, a, opcode with
  | false, false, 0b000 => some .fmaxnm
  | false, false, 0b001 => some .fmla
  | false, false, 0b010 => some .fadd
  | false, false, 0b011 => some .fmulx
  | false, false, 0b100 => some .fcmeq
  | false, false, 0b110 => some .fmax
  | false, false, 0b111 => some .frecps
  | false, true, 0b000 => some .fminnm
  | false, true, 0b001 => some .fmls
  | false, true, 0b010 => some .fsub
  | false, true, 0b110 => some .fmin
  | false, true, 0b111 => some .frsqrts
  | true, false, 0b000 => some .fmaxnmp
  | true, false, 0b010 => some .faddp
  | true, false, 0b011 => some .fmul
  | true, false, 0b100 => some .fcmge
  | true, false, 0b101 => some .facge
  | true, false, 0b110 => some .fmaxp
  | true, false, 0b111 => some .fdiv
  | true, true, 0b000 => some .fminnmp
  | true, true, 0b010 => some .fabd
  | true, true, 0b100 => some .fcmgt
  | true, true, 0b101 => some .facgt
  | true, true, 0b110 => some .fminp
  | _, _, _ => none

/-- The floating-point operations that also work on scalars. -/
def scalarFloatSame? (u a : Bool) (opcode : BitVec 3) : Option Operation :=
  match floatSame? u a opcode with
  | some .fmulx => some .fmulx
  | some .fcmeq => some .fcmeq
  | some .frecps => some .frecps
  | some .frsqrts => some .frsqrts
  | some .fcmge => some .fcmge
  | some .facge => some .facge
  | some .fabd => some .fabd
  | some .fcmgt => some .fcmgt
  | some .facgt => some .facgt
  | _ => none

/-- Floating-point operations on vectors. -/
def floatSame (word : Word) : Decoding :=
  let e := floatSize word
  match floatSame? word.u (word.bit 23) (word.field 11 3) with
  | none => reserved .sameFloatOpcode
  | some op => if isLone e word.q then reserved .sameFloatDoubles else done op (vectors3 word e)

/-- Floating-point operations on scalars. -/
def scalarFloatSame (word : Word) : Decoding :=
  match scalarFloatSame? word.u (word.bit 23) (word.field 11 3) with
  | none => reserved .scalarSameFloatOpcode
  | some op => done op (scalars3 word (floatSize word))

/-- Half-precision operations on vectors. -/
def halfSame (word : Word) : Decoding :=
  match floatSame? word.u (word.bit 23) (word.field 11 3) with
  | none => reserved .sameHalfOpcode
  | some op => done op (vectors3 word .h)

/-- Half-precision operations on scalars. -/
def scalarHalfSame (word : Word) : Decoding :=
  match scalarFloatSame? word.u (word.bit 23) (word.field 11 3) with
  | none => reserved .scalarSameHalfOpcode
  | some op => done op (scalars3 word .h)

/-! ### Integers -/

/-- An integer operation, with the elements it accepts. A scalar form may accept others. -/
structure SameRow where
  operation : Operation
  sizes : List ElementSize
  /-- The elements that the scalar form accepts, if there is one. -/
  scalarSizes : Option (List ElementSize)

/-- Integer operations. -/
def integerSame? (u : Bool) (opcode : BitVec 5) : Option SameRow :=
  match opcode, u with
  | 0b00000, false => some ⟨.shadd, belowDouble, none⟩
  | 0b00000, true => some ⟨.uhadd, belowDouble, none⟩
  | 0b00001, false => some ⟨.sqadd, anySize, some anySize⟩
  | 0b00001, true => some ⟨.uqadd, anySize, some anySize⟩
  | 0b00010, false => some ⟨.srhadd, belowDouble, none⟩
  | 0b00010, true => some ⟨.urhadd, belowDouble, none⟩
  | 0b00100, false => some ⟨.shsub, belowDouble, none⟩
  | 0b00100, true => some ⟨.uhsub, belowDouble, none⟩
  | 0b00101, false => some ⟨.sqsub, anySize, some anySize⟩
  | 0b00101, true => some ⟨.uqsub, anySize, some anySize⟩
  | 0b00110, false => some ⟨.cmgt, anySize, some [.d]⟩
  | 0b00110, true => some ⟨.cmhi, anySize, some [.d]⟩
  | 0b00111, false => some ⟨.cmge, anySize, some [.d]⟩
  | 0b00111, true => some ⟨.cmhs, anySize, some [.d]⟩
  | 0b01000, false => some ⟨.sshl, anySize, some [.d]⟩
  | 0b01000, true => some ⟨.ushl, anySize, some [.d]⟩
  | 0b01001, false => some ⟨.sqshl, anySize, some anySize⟩
  | 0b01001, true => some ⟨.uqshl, anySize, some anySize⟩
  | 0b01010, false => some ⟨.srshl, anySize, some [.d]⟩
  | 0b01010, true => some ⟨.urshl, anySize, some [.d]⟩
  | 0b01011, false => some ⟨.sqrshl, anySize, some anySize⟩
  | 0b01011, true => some ⟨.uqrshl, anySize, some anySize⟩
  | 0b01100, false => some ⟨.smax, belowDouble, none⟩
  | 0b01100, true => some ⟨.umax, belowDouble, none⟩
  | 0b01101, false => some ⟨.smin, belowDouble, none⟩
  | 0b01101, true => some ⟨.umin, belowDouble, none⟩
  | 0b01110, false => some ⟨.sabd, belowDouble, none⟩
  | 0b01110, true => some ⟨.uabd, belowDouble, none⟩
  | 0b01111, false => some ⟨.saba, belowDouble, none⟩
  | 0b01111, true => some ⟨.uaba, belowDouble, none⟩
  | 0b10000, false => some ⟨.add, anySize, some [.d]⟩
  | 0b10000, true => some ⟨.sub, anySize, some [.d]⟩
  | 0b10001, false => some ⟨.cmtst, anySize, some [.d]⟩
  | 0b10001, true => some ⟨.cmeq, anySize, some [.d]⟩
  | 0b10010, false => some ⟨.mla, belowDouble, none⟩
  | 0b10010, true => some ⟨.mls, belowDouble, none⟩
  | 0b10011, false => some ⟨.mul, belowDouble, none⟩
  | 0b10011, true => some ⟨.pmul, [.b], none⟩
  | 0b10100, false => some ⟨.smaxp, belowDouble, none⟩
  | 0b10100, true => some ⟨.umaxp, belowDouble, none⟩
  | 0b10101, false => some ⟨.sminp, belowDouble, none⟩
  | 0b10101, true => some ⟨.uminp, belowDouble, none⟩
  | 0b10110, false => some ⟨.sqdmulh, halfOrSingle, some halfOrSingle⟩
  | 0b10110, true => some ⟨.sqrdmulh, halfOrSingle, some halfOrSingle⟩
  | 0b10111, false => some ⟨.addp, anySize, none⟩
  | _, _ => none

/-- Bitwise operations, which the size tells apart. -/
def bitwiseSame (u : Bool) (size : BitVec 2) : Operation :=
  match u, size with
  | false, 0 => .and
  | false, 1 => .bic
  | false, 2 => .orr
  | false, _ => .orn
  | true, 0 => .eor
  | true, 1 => .bsl
  | true, 2 => .bit
  | true, _ => .bif

/-- Bitwise operations; an inclusive or of a vector with itself is a move. -/
def bitwise (word : Word) : Decoding :=
  let op := bitwiseSame word.u (word.field 22 2)
  if op = .orr ∧ word.rn = word.rm then done .mov (vectors2 word .b)
  else done op (vectors3 word .b)

/-- Integer operations on vectors. -/
def integerSame (word : Word) : Decoding :=
  let e := elementSize word
  match integerSame? word.u (word.field 11 5) with
  | none => reserved .sameOpcode
  | some row =>
    if e ∉ row.sizes ∨ isLone e word.q then reserved .sameSize
    else done row.operation (vectors3 word e)

/-- Operations on three vectors. -/
def threeSame (word : Word) : Decoding :=
  if word.field 14 2 = 0b11 then floatSame word
  else if word.field 11 5 = 0b00011 then bitwise word
  else integerSame word

/-- Operations on three scalars. -/
def scalarThreeSame (word : Word) : Decoding :=
  let e := elementSize word
  if word.field 14 2 = 0b11 then scalarFloatSame word
  else
    match integerSame? word.u (word.field 11 5) with
    | none => reserved .scalarSameOpcode
    | some ⟨_, _, none⟩ => reserved .scalarForm
    | some ⟨op, _, some sizes⟩ =>
      if e ∈ sizes then done op (scalars3 word e) else reserved .scalarSameSize

/-- Complex arithmetic: multiplication with a rotation by a multiple of a quarter turn, or addition
with one by a quarter turn either way. -/
def complexSame (word : Word) : Decoding :=
  let e := elementSize word
  let rotated (op : Operation) (angle : Nat) : Decoding :=
    if e = .b ∨ isLone e word.q then reserved .complexSize
    else done op (vectors3 word e ++ [immDecimal angle])
  if word.bit 13 = false then rotated .fcmla ((word.field 11 2).toNat * 90)
  else if word.bit 11 then reserved .complexAdd
  else rotated .fcadd (if word.bit 12 then 270 else 90)

/-- Dot products, accumulating multiplication and complex arithmetic on vectors. -/
def threeSameExtra (word : Word) : Decoding :=
  let e := elementSize word
  match word.u, word.field 11 4 with
  | u, 0b0010 =>
    if e = .s then
      done (if u then .udot else .sdot)
        [vector word.rd .s word.q, vector word.rn .b word.q, vector word.rm .b word.q]
    else reserved .sameExtraOpcode
  | true, 0b0000 =>
    if e ∈ halfOrSingle then done .sqrdmlah (vectors3 word e) else reserved .sameExtraOpcode
  | true, 0b0001 =>
    if e ∈ halfOrSingle then done .sqrdmlsh (vectors3 word e) else reserved .sameExtraOpcode
  | u, _ => if u ∧ word.bit 14 then complexSame word else reserved .sameExtraOpcode

/-- Accumulating multiplication on scalars. -/
def scalarThreeSameExtra (word : Word) : Decoding :=
  let e := elementSize word
  let accumulate (op : Operation) : Decoding :=
    if e ∈ halfOrSingle then done op (scalars3 word e) else reserved .scalarSameExtraSize
  match word.u, word.field 11 4 with
  | true, 0b0000 => accumulate .sqrdmlah
  | true, 0b0001 => accumulate .sqrdmlsh
  | _, _ => reserved .scalarSameExtraOpcode

end A64.Decode
