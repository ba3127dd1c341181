import A64.Decode.Basic

/-!
What the classes of vector instructions share: the element sizes an operation accepts, and
operands of equal shape.

Most classes come in two forms, one on vectors and one on a single scalar. Each module holds both,
and they share the table of operations.
-/

namespace A64.Decode

/-- Elements of every size that a two-bit field selects. -/
def anySize : List ElementSize := [.b, .h, .s, .d]

/-- Elements of less than 64 bits. -/
def belowDouble : List ElementSize := [.b, .h, .s]

/-- Elements of 16 or 32 bits. -/
def halfOrSingle : List ElementSize := [.h, .s]

/-- Elements of 8 or 16 bits. -/
def byteOrHalf : List ElementSize := [.b, .h]

/-- The size of the elements, in the field that most classes use. -/
def elementSize (word : Word) : ElementSize := .ofField (word.field 22 2)

/-- Single or double precision, by the low bit of the size. -/
def floatSize (word : Word) : ElementSize := if word.bit 22 then .d else .s

/-- Whether the elements are so large that only one fits into the vector. -/
def isLone (e : ElementSize) (q : Bool) : Bool := e = .d && !q

/-- Two vectors of one arrangement. -/
def vectors2 (word : Word) (e : ElementSize) : List Operand :=
  [vector word.rd e word.q, vector word.rn e word.q]

/-- Three vectors of one arrangement. -/
def vectors3 (word : Word) (e : ElementSize) : List Operand :=
  [vector word.rd e word.q, vector word.rn e word.q, vector word.rm e word.q]

/-- Two scalars of one size. -/
def scalars2 (word : Word) (e : ElementSize) : List Operand :=
  [scalar e word.rd, scalar e word.rn]

/-- Three scalars of one size. -/
def scalars3 (word : Word) (e : ElementSize) : List Operand :=
  [scalar e word.rd, scalar e word.rn, scalar e word.rm]

end A64.Decode
