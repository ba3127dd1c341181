import A64.Decode.Vector.Basic

/-!
Multiplication by one element of a vector.
-/

namespace A64.Decode

/-- The shape of a multiplication by an element. -/
inductive ByElementShape where
  /-- Integers of equal width. -/
  | integer
  /-- Integers whose product is twice as wide, of the lower half or of the upper. -/
  | long (upper : Operation)
  /-- Floating point. -/
  | float
  /-- Dot products of groups of bytes. -/
  | dot
  /-- Complex multiplication with a rotation. -/
  | complex
  deriving DecidableEq

/-- Multiplications by an element. -/
def byElement? (u : Bool) (opcode : BitVec 4) : Option (Operation × ByElementShape) :=
  match u, opcode with
  | false, 0b0001 => some (.fmla, .float)
  | false, 0b0010 => some (.smlal, .long .smlal2)
  | false, 0b0011 => some (.sqdmlal, .long .sqdmlal2)
  | false, 0b0101 => some (.fmls, .float)
  | false, 0b0110 => some (.smlsl, .long .smlsl2)
  | false, 0b0111 => some (.sqdmlsl, .long .sqdmlsl2)
  | false, 0b1000 => some (.mul, .integer)
  | false, 0b1001 => some (.fmul, .float)
  | false, 0b1010 => some (.smull, .long .smull2)
  | false, 0b1011 => some (.sqdmull, .long .sqdmull2)
  | false, 0b1100 => some (.sqdmulh, .integer)
  | false, 0b1101 => some (.sqrdmulh, .integer)
  | false, 0b1110 => some (.sdot, .dot)
  | true, 0b0000 => some (.mla, .integer)
  | true, 0b0001 => some (.fcmla, .complex)
  | true, 0b0010 => some (.umlal, .long .umlal2)
  | true, 0b0011 => some (.fcmla, .complex)
  | true, 0b0100 => some (.mls, .integer)
  | true, 0b0101 => some (.fcmla, .complex)
  | true, 0b0110 => some (.umlsl, .long .umlsl2)
  | true, 0b0111 => some (.fcmla, .complex)
  | true, 0b1001 => some (.fmulx, .float)
  | true, 0b1010 => some (.umull, .long .umull2)
  | true, 0b1101 => some (.sqrdmlah, .integer)
  | true, 0b1110 => some (.udot, .dot)
  | true, 0b1111 => some (.sqrdmlsh, .integer)
  | _, _ => none

/-- An element of a vector: its size, its lane and the vector. -/
structure IndexedElement where
  size : ElementSize
  lane : Nat
  register : BitVec 5

/-- The element as an operand. -/
def IndexedElement.operand (i : IndexedElement) : Operand := Decode.lane i.register i.size i.lane

/-- The lane of two bits. -/
def laneHL (word : Word) : Nat := (word.field 11 1 ++ word.field 21 1).toNat

/-- The element that the fields of a word select. The smaller the element, the more bits its lane
takes; an element of 16 bits takes one from the number of the vector. -/
def indexedElement? (word : Word) : Option IndexedElement :=
  match word.field 22 2 with
  | 0b00 | 0b01 =>
    some ⟨.h, (word.field 11 1 ++ word.field 21 1 ++ word.field 20 1).toNat,
      (word.field 16 4).setWidth 5⟩
  | 0b10 => some ⟨.s, laneHL word, word.rm⟩
  | _ => if word.bit 21 then none else some ⟨.d, (word.field 11 1).toNat, word.rm⟩

/-- Dot products with a group of bytes. -/
def dotByElement (word : Word) (op : Operation) : Decoding :=
  if word.field 22 2 = 0b10 then
    done op
      [vector word.rd .s word.q, vector word.rn .b word.q,
        laneGroup word.rm ⟨.b, 4⟩ (laneHL word)]
  else reserved .elementSize

/-- Complex multiplication by a pair of elements. -/
def complexByElement (word : Word) (op : Operation) : Decoding :=
  let rotation := immDecimal ((word.field 13 2).toNat * 90)
  match word.field 22 2 with
  | 0b01 => done op (vectors2 word .h ++ [lane word.rm .h (laneHL word), rotation])
  | 0b10 =>
    if word.q ∧ word.bit 21 = false then
      done op (vectors2 word .s ++ [lane word.rm .s (word.field 11 1).toNat, rotation])
    else reserved .elementSize
  | _ => reserved .elementSize

/-- Multiplications of vectors by an element. -/
def byElement (word : Word) : Decoding :=
  let e := elementSize word
  match byElement? word.u (word.field 12 4) with
  | none => reserved .elementOpcode
  | some (op, .dot) => dotByElement word op
  | some (op, .complex) => complexByElement word op
  | some (op, .float) =>
    if e = .h then reserved .elementFloatSize
    else
      match indexedElement? word with
      | none => reserved .elementL
      | some i =>
        if isLone i.size word.q then reserved .elementDoubles
        else done op (vectors2 word i.size ++ [i.operand])
  | some (op, .integer) =>
    if e ∉ halfOrSingle then reserved .elementIntegerSize
    else
      match indexedElement? word with
      | none => reserved .elementL
      | some i => done op (vectors2 word i.size ++ [i.operand])
  | some (op, .long upper) =>
    if e ∉ halfOrSingle then reserved .elementIntegerSize
    else
      match indexedElement? word with
      | none => reserved .elementL
      | some i =>
        done (if word.q then upper else op)
          [vector word.rd i.size.double true, vector word.rn i.size word.q, i.operand]

/-- The integer multiplications that also work on scalars. -/
def multipliesScalar : Operation → Bool
  | .sqdmulh | .sqrdmulh | .sqrdmlah | .sqrdmlsh => true
  | .sqdmlal | .sqdmlsl | .sqdmull => true
  | _ => false

/-- Whether a multiplication also works on scalars of a size. -/
def hasScalarForm (op : Operation) (e : ElementSize) : ByElementShape → Bool
  | .float => e ≠ .h
  | .integer | .long _ => multipliesScalar op && e ∈ halfOrSingle
  | .dot | .complex => false

/-- Multiplications of scalars by an element. -/
def scalarByElement (word : Word) : Decoding :=
  match byElement? word.u (word.field 12 4) with
  | none => reserved .scalarElementOpcode
  | some (op, shape) =>
    if hasScalarForm op (elementSize word) shape = false then reserved .scalarElementForm
    else
      match indexedElement? word with
      | none => reserved .scalarElementL
      | some i =>
        let destination :=
          match shape with
          | .long _ => i.size.double
          | _ => i.size
        done op [scalar destination word.rd, scalar i.size word.rn, i.operand]

end A64.Decode
