import A64.Proofs.DecodeContract
import A64.Proofs.Strict.Integer
import A64.Proofs.Strict.Memory
import A64.Proofs.Strict.Vector

/-!
# Decoding stays in the domain of every operation

The strict decoder puts the strict groups together and has no result if one of them has none. It has
the result of the total decoder for every word at every address: no difference is negative, no
highest bit is asked of zero, every table has the entry that is looked up, and no operand is pushed
onto a full row, dropped or replaced where there is none.
-/

namespace A64.Strict

open Decode

/-- The branches under a condition, in the order of the conditions. -/
def conditionalBranches : List Operation := conditions.map Operation.branchIf

theorem conditionalBranches_eq (cond : Condition) :
    conditionalBranches[cond.bits.toNat]? = some (.branchIf cond) := by
  cases cond <;> rfl

def conditionalBranch (word : Word) (address : Address) : Leaf :=
  if word.bit 24 ∨ word.bit 4 then rejected .conditionalBranch
  else do
    let cond ← condition (word.field 0 4)
    let op ← conditionalBranches[cond.bits.toNat]?
    built op [target address (word.field 5 19)]

theorem conditionalBranch_eq (word : Word) (address : Address) :
    conditionalBranch word address = outcome (Decode.conditionalBranch word address) := by
  simp only [conditionalBranch, Decode.conditionalBranch, condition_eq, Option.bind_eq_bind,
    Option.bind_some, conditionalBranches_eq]
  simp [built]

def branchExceptionSystem (word : Word) (address : Address) : Leaf :=
  match ControlClass.ofWord word with
  | .error reason => rejected reason
  | .ok .conditionalBranch => conditionalBranch word address
  | .ok cls => pushed (cls.meaning word address)

theorem branchExceptionSystem_eq (word : Word) (address : Address) :
    branchExceptionSystem word address = outcome (Decode.branchExceptionSystem word address) := by
  unfold branchExceptionSystem Decode.branchExceptionSystem
  cases ControlClass.ofWord word with
  | error reason => rfl
  | ok cls =>
    cases cls with
    | branchImmediate => exact pushed_of_form (exists_form_branchImmediate word) address
    | compareBranch => exact pushed_of_form (exists_form_compareBranch word) address
    | testBranch => exact pushed_of_form (exists_form_testBranch word) address
    | conditionalBranch => exact conditionalBranch_eq word address
    | branchRegister => exact pushed_of_regular (regular_branchRegister word)
    | exception => exact pushed_of_regular (regular_exception word)
    | system => exact pushed_of_regular (regular_system word)

def meaning (group : Group) (word : Word) (address : Address) : Leaf :=
  match group with
  | .unallocated => built .undefined []
  | .dataProcessingImmediate => dataProcessingImmediate word address
  | .branchExceptionSystem => branchExceptionSystem word address
  | .loadStore => loadStore word address
  | .dataProcessingRegister => dataProcessingRegister word
  | .dataProcessingVector => dataProcessingVector word

/-- The instruction of a word at an address, unless an operation of decoding is used outside its
domain. -/
def decode (word : Word) (address : Address) : Option (Except DecodeError Instruction) :=
  match Group.ofWord? word with
  | none => some (.error (.undecodable word address))
  | some group => do
    match ← meaning group word address with
    | .ok r => some (.ok ⟨word, address, group, r.operation, r.operands⟩)
    | .error reason => some (.error (.reserved word address reason))

theorem meaning_eq {group : Group} {word : Word} (hgroup : Group.ofWord? word = some group)
    (address : Address) :
    meaning group word address = outcome (Decode.meaning group word address) := by
  cases group with
  | unallocated => rfl
  | dataProcessingImmediate => exact dataProcessingImmediate_eq word address
  | branchExceptionSystem => exact branchExceptionSystem_eq word address
  | loadStore => exact loadStore_eq word address
  | dataProcessingRegister => exact dataProcessingRegister_eq word
  | dataProcessingVector => exact dataProcessingVector_eq hgroup

/-- Decoding never leaves the domain of an operation: strict decoding has a result for every word
and address, and it is the result of decoding. -/
theorem decode_eq_some_decode (word : Word) (address : Address) :
    Strict.decode word address = some (A64.decode word address) := by
  obtain ⟨group, hgroup⟩ := Group.exists_ofWord? word
  simp only [Strict.decode, A64.decode, hgroup, meaning_eq hgroup]
  cases Decode.meaning group word address <;> rfl

end A64.Strict
