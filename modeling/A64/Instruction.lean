import A64.Operands
import A64.Operation.Name

/-!
Decoded instructions and the groups into which bits 25 to 28 divide all words.
-/

namespace A64

/-- The groups of encodings. -/
inductive Group where
  | unallocated
  | dataProcessingImmediate
  | branchExceptionSystem
  | loadStore
  | dataProcessingRegister
  | dataProcessingVector
  deriving DecidableEq

namespace Group

/-- The group that bits 25 to 28 select. -/
def ofBits? (b : BitVec 4) : Option Group :=
  match b with
  | 0b0000 | 0b0001 | 0b0010 | 0b0011 => some unallocated
  | 0b1000 | 0b1001 => some dataProcessingImmediate
  | 0b1010 | 0b1011 => some branchExceptionSystem
  | 0b0100 | 0b0110 | 0b1100 | 0b1110 => some loadStore
  | 0b0101 | 0b1101 => some dataProcessingRegister
  | 0b0111 | 0b1111 => some dataProcessingVector
  | _ => none

/-- The group of a word. -/
def ofWord? (w : Word) : Option Group := ofBits? (w.field 25 4)

/-- The symbol under which reports record the group. -/
def symbol : Group → String
  | unallocated => "Unallocated"
  | dataProcessingImmediate => "DataProcessingImmediate"
  | branchExceptionSystem => "BranchExceptionSystem"
  | loadStore => "LoadStore"
  | dataProcessingRegister => "DataProcessingRegister"
  | dataProcessingVector => "DataProcessingSimdFp"

end Group

/-- An instruction: a word, where it was found, and what it means. -/
structure Instruction where
  word : Word
  address : Address
  group : Group
  operation : Operation
  operands : Operands
  deriving DecidableEq

namespace Instruction

/-- Whether the word has no meaning. -/
def isUndefined (i : Instruction) : Bool := i.operation = .undefined

/-- The mnemonic. -/
def mnemonic (i : Instruction) : String := i.operation.name

/-- The bytes of the word, least significant first. -/
def bytes (i : Instruction) : List Byte := i.word.toBytes

/-- The address of the next word. -/
def endAddress (i : Instruction) : Address := i.address + BitVec.ofNat 64 Word.size

end Instruction

end A64
