import A64.Decode.Arithmetic
import A64.Decode.Bitfield
import A64.Decode.Conditional
import A64.Decode.Logical
import A64.Decode.Move
import A64.Decode.Source

/-!
The two groups of integer data processing. Each group is divided into classes, and a class decides
which fields a word has.
-/

namespace A64.Decode

/-- The classes of data processing with an immediate. -/
inductive DataImmediateClass where
  | pcRelative | addSub | logical | moveWide | bitfield | extract
  deriving DecidableEq

/-- The class of a word. -/
def DataImmediateClass.ofWord (word : Word) : DataImmediateClass :=
  match word.field 23 3 with
  | 0b000 | 0b001 => pcRelative
  | 0b010 | 0b011 => addSub
  | 0b100 => logical
  | 0b101 => moveWide
  | 0b110 => bitfield
  | _ => extract

/-- The meaning of a word of a class. -/
def DataImmediateClass.meaning (word : Word) (address : Address) : DataImmediateClass → Decoding
  | pcRelative => Decode.pcRelative word address
  | addSub => addSubImmediate word
  | logical => logicalImmediate word
  | moveWide => Decode.moveWide word
  | bitfield => Decode.bitfield word
  | extract => Decode.extract word

/-- Data processing with an immediate. -/
def dataProcessingImmediate (word : Word) (address : Address) : Decoding :=
  (DataImmediateClass.ofWord word).meaning word address

/-! ### Data processing of registers -/

/-- The classes of data processing of registers. -/
inductive DataRegisterClass where
  | logicalShifted | addSubShifted | addSubExtended
  | addSubCarry | rotateIntoFlags | evaluateIntoFlags | conditionalCompare | conditionalSelect
  | oneSource | twoSource | threeSource
  deriving DecidableEq

namespace DataRegisterClass

/-- The class of a word that computes with carry or sets flags. -/
def ofFlagsWord (word : Word) : Except Reserved DataRegisterClass :=
  if word.field 10 6 = 0 then .ok addSubCarry
  else if word.field 10 5 = 0b00001 then .ok rotateIntoFlags
  else if word.field 10 4 = 0b0010 then .ok evaluateIntoFlags
  else .error .dataRegisterOp3

/-- The class of a word. -/
def ofWord (word : Word) : Except Reserved DataRegisterClass :=
  let op2 := word.field 21 4
  if word.bit 28 then
    match op2 with
    | 0b0000 => ofFlagsWord word
    | 0b0010 => .ok conditionalCompare
    | 0b0100 => .ok conditionalSelect
    | 0b0110 => .ok (if word.bit 30 then oneSource else twoSource)
    | _ => if 8 ≤ op2 then .ok threeSource else .error .dataRegisterOp2
  else if op2 < 8 then .ok logicalShifted
  else if word.bit 21 then .ok addSubExtended
  else .ok addSubShifted

/-- The meaning of a word of a class. -/
def meaning (word : Word) : DataRegisterClass → Decoding
  | logicalShifted => Decode.logicalShifted word
  | addSubShifted => Decode.addSubShifted word
  | addSubExtended => Decode.addSubExtended word
  | addSubCarry => Decode.addSubCarry word
  | rotateIntoFlags => Decode.rotateIntoFlags word
  | evaluateIntoFlags => Decode.evaluateIntoFlags word
  | conditionalCompare => Decode.conditionalCompare word
  | conditionalSelect => Decode.conditionalSelect word
  | oneSource => Decode.oneSource word
  | twoSource => Decode.twoSource word
  | threeSource => Decode.threeSource word

end DataRegisterClass

/-- Data processing of registers. -/
def dataProcessingRegister (word : Word) : Decoding :=
  match DataRegisterClass.ofWord word with
  | .ok cls => cls.meaning word
  | .error reason => reserved reason

end A64.Decode
