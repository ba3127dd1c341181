import A64.Decode.Atomic
import A64.Decode.Exclusive
import A64.Decode.Structure
import A64.Decode.Transfer

/-!
The group of loads and stores, divided into its classes.
-/

namespace A64.Decode

/-- The classes of loads and stores. -/
inductive MemoryClass where
  | multipleStructures | singleStructure
  | exclusive | atomic | releaseConsistent
  | literal | pair | unsignedOffset | signedOffset | registerOffset | authenticatedLoad
  deriving DecidableEq

namespace MemoryClass

/-- The class of a word. -/
def ofWord (word : Word) : Except Reserved MemoryClass :=
  match word.field 28 2 with
  | 0b00 =>
    if word.bit 26 then
      if word.bit 31 then .error .structureBit31
      else .ok (if word.bit 24 then singleStructure else multipleStructures)
    else if word.bit 24 then .error .exclusiveSpace
    else .ok exclusive
  | 0b01 =>
    if word.bit 24 = false then .ok literal
    else if word.bit 26 = false ∧ word.bit 21 = false ∧ word.field 10 2 = 0 then
      .ok releaseConsistent
    else .error .releaseConsistentSpace
  | 0b10 => .ok pair
  | _ =>
    if word.bit 24 then .ok unsignedOffset
    else if word.bit 21 = false then .ok signedOffset
    else
      match word.field 10 2 with
      | 0b00 => .ok atomic
      | 0b10 => .ok registerOffset
      | _ => .ok authenticatedLoad

/-- The meaning of a word of a class. -/
def meaning (word : Word) (address : Address) : MemoryClass → Decoding
  | multipleStructures => Decode.multipleStructures word
  | singleStructure => Decode.singleStructure word
  | exclusive => Decode.exclusive word
  | atomic => Decode.atomic word
  | releaseConsistent => Decode.releaseConsistent word
  | literal => Decode.literal word address
  | pair => Decode.pair word
  | unsignedOffset => Decode.unsignedOffset word
  | signedOffset => Decode.signedOffset word
  | registerOffset => Decode.registerOffset word
  | authenticatedLoad => Decode.authenticatedLoad word

end MemoryClass

/-- Loads and stores. -/
def loadStore (word : Word) (address : Address) : Decoding :=
  match MemoryClass.ofWord word with
  | .ok cls => cls.meaning word address
  | .error reason => reserved reason

end A64.Decode
