import A64.Decode.Vector.Basic
import A64.Immediate.Vector

/-!
Filling a vector with an immediate, or combining it with one.
-/

namespace A64.Decode

/-- Moves and bitwise operations of a shifted byte. -/
def constantOperation (combine invert : Bool) : Operation :=
  match combine, invert with
  | false, false => .movi
  | false, true => .mvni
  | true, false => .orr
  | true, true => .bic

/-- Vectors filled from eight bits. -/
def modifiedImmediate (word : Word) : Decoding :=
  let q := word.q
  let op := word.bit 29
  let cmode := word.field 12 4
  let imm8 := word.field 16 3 ++ word.field 5 5
  let shifted := constantOperation (word.bit 12) op
  let float := Operand.float (VectorImmediate.single imm8)
  let pattern := imm64 (VectorImmediate.expand 1 cmode imm8)
  if word.bit 11 then
    if cmode = 0b1111 ∧ op = false then done .fmov [vector word.rd .h q, float]
    else reserved .modifiedImmediate
  else
    match cmode with
    | 0b1100 =>
      done (constantOperation false op) [vector word.rd .s q, immShift imm8 (.ofAmount .msl 8)]
    | 0b1101 =>
      done (constantOperation false op) [vector word.rd .s q, immShift imm8 (.ofAmount .msl 16)]
    | 0b1110 =>
      if op = false then done .movi [vector word.rd .b q, imm imm8]
      else if q then done .movi [vector word.rd .d true, pattern]
      else done .movi [scalar .d word.rd, pattern]
    | 0b1111 =>
      if op = false then done .fmov [vector word.rd .s q, float]
      else if q then done .fmov [vector word.rd .d true, float]
      else reserved .moveFloatDoubles
    | _ =>
      if word.bit 15 then
        done shifted [vector word.rd .h q, immLsl imm8 (8 * (word.field 13 1).toNat)]
      else done shifted [vector word.rd .s q, immLsl imm8 (8 * (word.field 13 2).toNat)]

end A64.Decode
