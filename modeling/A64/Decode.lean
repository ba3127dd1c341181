import A64.Decode.Control
import A64.Decode.Integer
import A64.Decode.Memory
import A64.Decode.Vector
import A64.Instruction

/-!
Decoding of instruction words.

Bits 25 to 28 select the group of a word, and the group decides how the rest is read. The address of
the word matters only to operands that are relative to it.
-/

namespace A64

/-- The meaning of a word of the given group. Words that are not allocated have no meaning, which is
not an error. -/
def Decode.meaning (group : Group) (word : Word) (address : Address) : Decoding :=
  match group with
  | .unallocated => done .undefined []
  | .dataProcessingImmediate => dataProcessingImmediate word address
  | .branchExceptionSystem => branchExceptionSystem word address
  | .loadStore => loadStore word address
  | .dataProcessingRegister => dataProcessingRegister word
  | .dataProcessingVector => dataProcessingVector word

/-- The instruction of a word at an address. -/
def decode (word : Word) (address : Address) : Except DecodeError Instruction :=
  match Group.ofWord? word with
  | none => .error (.undecodable word address)
  | some group =>
    match Decode.meaning group word address with
    | .ok d => .ok ⟨word, address, group, d.operation, .ofList d.operands⟩
    | .error reason => .error (.reserved word address reason)

end A64
