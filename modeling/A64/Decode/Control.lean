import A64.Decode.Branch
import A64.Decode.System

/-!
The group of branches, exceptions and system instructions, divided into its classes.
-/

namespace A64.Decode

/-- The classes of branches, exceptions and system instructions. -/
inductive ControlClass where
  | branchImmediate | compareBranch | testBranch | conditionalBranch | branchRegister
  | exception | system
  deriving DecidableEq

namespace ControlClass

/-- The class of a word. -/
def ofWord (word : Word) : Except Reserved ControlClass :=
  match word.field 29 3, word.bit 25 with
  | 0b000, _ | 0b100, _ => .ok branchImmediate
  | 0b001, false | 0b101, false => .ok compareBranch
  | 0b001, true | 0b101, true => .ok testBranch
  | 0b010, false => .ok conditionalBranch
  | 0b110, true => .ok branchRegister
  | 0b110, false =>
    if word.bit 24 = false then .ok exception
    else if word.field 22 2 = 0 then .ok system
    else .error .branchSystem
  | _, _ => .error .branchSystem

/-- The meaning of a word of a class. -/
def meaning (word : Word) (address : Address) : ControlClass → Decoding
  | branchImmediate => Decode.branchImmediate word address
  | compareBranch => Decode.compareBranch word address
  | testBranch => Decode.testBranch word address
  | conditionalBranch => Decode.conditionalBranch word address
  | branchRegister => Decode.branchRegister word
  | exception => Decode.exception word
  | system => Decode.system word

end ControlClass

/-- Branches, exceptions and system instructions. -/
def branchExceptionSystem (word : Word) (address : Address) : Decoding :=
  match ControlClass.ofWord word with
  | .ok cls => cls.meaning word address
  | .error reason => reserved reason

end A64.Decode
