import A64.Decode.Vector.Basic

/-!
Operations on three registers of different shapes, whose elements are narrow or twice as wide.

An operation works on the lower half of the narrow vectors, or on the upper half under a name of
its own.
-/

namespace A64.Decode

/-- Which of the three registers have wide elements. -/
inductive DifferentShape where
  /-- The destination. -/
  | long
  /-- The destination and the first source. -/
  | wide
  /-- The sources. -/
  | narrow
  deriving DecidableEq

/-- An operation on the lower half and on the upper half, with the narrow elements it accepts. -/
structure DifferentRow where
  lower : Operation
  upper : Operation
  shape : DifferentShape
  sizes : List ElementSize

/-- Operations on registers of different shapes. -/
def different? (u : Bool) (opcode : BitVec 4) : Option DifferentRow :=
  match u, opcode with
  | false, 0b0000 => some ⟨.saddl, .saddl2, .long, belowDouble⟩
  | false, 0b0001 => some ⟨.saddw, .saddw2, .wide, belowDouble⟩
  | false, 0b0010 => some ⟨.ssubl, .ssubl2, .long, belowDouble⟩
  | false, 0b0011 => some ⟨.ssubw, .ssubw2, .wide, belowDouble⟩
  | false, 0b0100 => some ⟨.addhn, .addhn2, .narrow, belowDouble⟩
  | false, 0b0101 => some ⟨.sabal, .sabal2, .long, belowDouble⟩
  | false, 0b0110 => some ⟨.subhn, .subhn2, .narrow, belowDouble⟩
  | false, 0b0111 => some ⟨.sabdl, .sabdl2, .long, belowDouble⟩
  | false, 0b1000 => some ⟨.smlal, .smlal2, .long, belowDouble⟩
  | false, 0b1001 => some ⟨.sqdmlal, .sqdmlal2, .long, halfOrSingle⟩
  | false, 0b1010 => some ⟨.smlsl, .smlsl2, .long, belowDouble⟩
  | false, 0b1011 => some ⟨.sqdmlsl, .sqdmlsl2, .long, halfOrSingle⟩
  | false, 0b1100 => some ⟨.smull, .smull2, .long, belowDouble⟩
  | false, 0b1101 => some ⟨.sqdmull, .sqdmull2, .long, halfOrSingle⟩
  | false, 0b1110 => some ⟨.pmull, .pmull2, .long, [.b, .d]⟩
  | true, 0b0000 => some ⟨.uaddl, .uaddl2, .long, belowDouble⟩
  | true, 0b0001 => some ⟨.uaddw, .uaddw2, .wide, belowDouble⟩
  | true, 0b0010 => some ⟨.usubl, .usubl2, .long, belowDouble⟩
  | true, 0b0011 => some ⟨.usubw, .usubw2, .wide, belowDouble⟩
  | true, 0b0100 => some ⟨.raddhn, .raddhn2, .narrow, belowDouble⟩
  | true, 0b0101 => some ⟨.uabal, .uabal2, .long, belowDouble⟩
  | true, 0b0110 => some ⟨.rsubhn, .rsubhn2, .narrow, belowDouble⟩
  | true, 0b0111 => some ⟨.uabdl, .uabdl2, .long, belowDouble⟩
  | true, 0b1000 => some ⟨.umlal, .umlal2, .long, belowDouble⟩
  | true, 0b1010 => some ⟨.umlsl, .umlsl2, .long, belowDouble⟩
  | true, 0b1100 => some ⟨.umull, .umull2, .long, belowDouble⟩
  | _, _ => none

/-- Operations on three vectors of different shapes. -/
def threeDifferent (word : Word) : Decoding :=
  let e := elementSize word
  let narrow (n : BitVec 5) := vector n e word.q
  let wide (n : BitVec 5) := vector n e.double true
  match different? word.u (word.field 12 4) with
  | none => reserved .differentOpcode
  | some row =>
    let op := if word.q then row.upper else row.lower
    if e ∉ row.sizes then reserved .differentSize
    else
      match row.shape with
      | .long => done op [wide word.rd, narrow word.rn, narrow word.rm]
      | .wide => done op [wide word.rd, wide word.rn, narrow word.rm]
      | .narrow => done op [narrow word.rd, wide word.rn, wide word.rm]

/-- Saturating multiplications on scalars, whose product is twice as wide. -/
def scalarDifferent? (u : Bool) (opcode : BitVec 4) : Option Operation :=
  match u, opcode with
  | false, 0b1001 => some .sqdmlal
  | false, 0b1011 => some .sqdmlsl
  | false, 0b1101 => some .sqdmull
  | _, _ => none

/-- Saturating multiplications on scalars. -/
def scalarThreeDifferent (word : Word) : Decoding :=
  let e := elementSize word
  match scalarDifferent? word.u (word.field 12 4) with
  | none => reserved .scalarDifferentOpcode
  | some op =>
    if e ∈ halfOrSingle then
      done op [scalar e.double word.rd, scalar e word.rn, scalar e word.rm]
    else reserved .scalarDifferentSize

end A64.Decode
