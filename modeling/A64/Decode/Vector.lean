import A64.Decode.Crypto
import A64.Decode.Float
import A64.Decode.Vector.ByElement
import A64.Decode.Vector.Constant
import A64.Decode.Vector.Copy
import A64.Decode.Vector.Different
import A64.Decode.Vector.Misc
import A64.Decode.Vector.Same
import A64.Decode.Vector.Shift

/-!
The group of vector, scalar floating-point and cryptographic instructions, divided into its
classes.
-/

namespace A64.Decode

/-- The classes of vector, scalar floating-point and cryptographic instructions. -/
inductive VectorClass where
  | floatingPoint | cryptography | aes | shaTwo | shaThree
  | copy | tableLookup | permute | extractVector | modifiedImmediate
  | threeSame | halfSame | threeSameExtra | threeDifferent
  | twoMisc | twoMiscHalf | acrossLanes | byElement
  /-- Shifts of elements of the given size. -/
  | shiftImmediate (e : ElementSize)
  | scalarCopy | scalarThreeSame | scalarHalfSame | scalarThreeSameExtra | scalarThreeDifferent
  | scalarTwoMisc | scalarTwoMiscHalf | scalarPairwise | scalarByElement
  /-- Shifts of scalars of the given size. -/
  | scalarShiftImmediate (e : ElementSize)
  deriving DecidableEq

namespace VectorClass

/-- The class of a vector word with bits 21 and 24 clear. -/
def ofMoveWord (word : Word) : Except Reserved VectorClass :=
  match word.bit 10, word.bit 15 with
  | true, true => .ok threeSameExtra
  | true, false =>
    if word.field 22 2 = 0 then .ok copy
    else if word.bit 22 ∧ word.bit 14 = false then .ok halfSame
    else .error .vectorBit21
  | false, false =>
    if word.bit 29 then .ok extractVector
    else if word.bit 11 then .ok permute
    else .ok tableLookup
  | false, true => .error .vectorBit21

/-- The class of a vector word. -/
def ofVectorWord (word : Word) : Except Reserved VectorClass :=
  if word.bit 24 then
    if word.bit 10 = false then .ok byElement
    else
      match shiftElement? (word.field 19 4) with
      | none => .ok modifiedImmediate
      | some e => .ok (shiftImmediate e)
  else if word.bit 21 = false then ofMoveWord word
  else if word.bit 10 then .ok threeSame
  else if word.bit 11 = false then .ok threeDifferent
  else
    match word.field 17 4 with
    | 0b0000 => .ok twoMisc
    | 0b1000 => .ok acrossLanes
    | 0b1100 => if word.bit 22 then .ok twoMiscHalf else .error .vectorBits17
    | 0b0100 => if word.field 28 4 = 0b0100 then .ok aes else .error .vectorBits17
    | _ => .error .vectorBits17

/-- The class of a scalar word with bits 21 and 24 clear. -/
def ofScalarMoveWord (word : Word) : Except Reserved VectorClass :=
  match word.bit 10, word.bit 15 with
  | true, true => .ok scalarThreeSameExtra
  | true, false =>
    if word.field 22 2 = 0 then .ok scalarCopy
    else if word.bit 22 ∧ word.bit 14 = false then .ok scalarHalfSame
    else .error .scalarBit21
  | false, false =>
    if word.field 28 4 = 0b0101 ∧ word.bit 11 = false then .ok shaThree
    else .error .scalarBit21
  | false, true => .error .scalarBit21

/-- The class of a word on scalars of the vector registers. -/
def ofScalarWord (word : Word) : Except Reserved VectorClass :=
  if word.bit 24 then
    if word.bit 10 = false then .ok scalarByElement
    else
      match shiftElement? (word.field 19 4) with
      | none => .error .scalarShiftElement
      | some e => .ok (scalarShiftImmediate e)
  else if word.bit 21 = false then ofScalarMoveWord word
  else if word.bit 10 then .ok scalarThreeSame
  else if word.bit 11 = false then .ok scalarThreeDifferent
  else
    match word.field 17 4 with
    | 0b0000 => .ok scalarTwoMisc
    | 0b1000 => .ok scalarPairwise
    | 0b1100 => if word.bit 22 then .ok scalarTwoMiscHalf else .error .scalarBits17
    | 0b0100 => if word.field 28 4 = 0b0101 then .ok shaTwo else .error .scalarBits17
    | _ => .error .scalarBits17

/-- The class of a word. -/
def ofWord (word : Word) : Except Reserved VectorClass :=
  match word.bit 31, word.bit 30, word.bit 28 with
  | _, false, true => .ok floatingPoint
  | false, true, true => ofScalarWord word
  | false, _, false => ofVectorWord word
  | true, true, _ => if word.field 28 4 = 0b1100 then .ok cryptography else .error .vectorOp0
  | true, false, false => .error .vectorOp0

/-- The meaning of a word of a class. -/
def meaning (word : Word) : VectorClass → Decoding
  | floatingPoint => Decode.floatingPoint word
  | cryptography => Decode.cryptography word
  | aes => Decode.aes word
  | shaTwo => Decode.shaTwo word
  | shaThree => Decode.shaThree word
  | copy => Decode.copy word
  | tableLookup => Decode.tableLookup word
  | permute => Decode.permute word
  | extractVector => Decode.extractVector word
  | modifiedImmediate => Decode.modifiedImmediate word
  | threeSame => Decode.threeSame word
  | halfSame => Decode.halfSame word
  | threeSameExtra => Decode.threeSameExtra word
  | threeDifferent => Decode.threeDifferent word
  | twoMisc => Decode.twoMisc word
  | twoMiscHalf => Decode.twoMiscHalf word
  | acrossLanes => Decode.acrossLanes word
  | byElement => Decode.byElement word
  | shiftImmediate e => Decode.shiftImmediate word e
  | scalarCopy => Decode.scalarCopy word
  | scalarThreeSame => Decode.scalarThreeSame word
  | scalarHalfSame => Decode.scalarHalfSame word
  | scalarThreeSameExtra => Decode.scalarThreeSameExtra word
  | scalarThreeDifferent => Decode.scalarThreeDifferent word
  | scalarTwoMisc => Decode.scalarTwoMisc word
  | scalarTwoMiscHalf => Decode.scalarTwoMiscHalf word
  | scalarPairwise => Decode.scalarPairwise word
  | scalarByElement => Decode.scalarByElement word
  | scalarShiftImmediate e => Decode.scalarShiftImmediate word e

end VectorClass

/-- Vector, scalar floating-point and cryptographic instructions. -/
def dataProcessingVector (word : Word) : Decoding :=
  match VectorClass.ofWord word with
  | .ok cls => cls.meaning word
  | .error reason => reserved reason

end A64.Decode
