import A64.Proofs.DecodeContract
import Mathlib.Control.Monad.Basic

/-!
# Register number 31 of every word

The meaning of every word is regular in the sense of its class, and with it the operands of a
decoded instruction resolve register number 31 as their places ask.
-/

namespace A64

namespace Decode

variable (word : Word) (address : Address)

theorem DataImmediateClass.kind_ne_vector (cls : DataImmediateClass) : cls.kind ≠ .vector := by
  cases cls <;> nofun

theorem ControlClass.kind_ne_vector (cls : ControlClass) : cls.kind ≠ .vector := by
  cases cls <;> nofun

theorem exists_regular_dataProcessingImmediate :
    ∃ kind, kind ≠ .vector ∧ Regular kind (dataProcessingImmediate word address) :=
  ⟨_, DataImmediateClass.kind_ne_vector _, regular_dataImmediate word address _⟩

theorem exists_regular_branchExceptionSystem :
    ∃ kind, kind ≠ .vector ∧ Regular kind (branchExceptionSystem word address) := by
  unfold branchExceptionSystem
  split
  · exact ⟨_, ControlClass.kind_ne_vector _, regular_controlClass word address _⟩
  · exact ⟨.plain, nofun, yields_reserved _⟩

theorem exists_regular_loadStore : ∃ kind, Regular kind (loadStore word address) := by
  unfold loadStore
  split
  · exact ⟨_, regular_memoryClass word address _⟩
  · exact ⟨.plain, yields_reserved _⟩

theorem exists_regular {group : Group} (hgroup : group ≠ .unallocated) :
    ∃ kind, Regular kind (meaning group word address) := by
  cases group with
  | unallocated => exact absurd rfl hgroup
  | dataProcessingImmediate =>
    obtain ⟨kind, -, h⟩ := exists_regular_dataProcessingImmediate word address
    exact ⟨kind, h⟩
  | branchExceptionSystem =>
    obtain ⟨kind, -, h⟩ := exists_regular_branchExceptionSystem word address
    exact ⟨kind, h⟩
  | loadStore => exact exists_regular_loadStore word address
  | dataProcessingRegister => exact ⟨.plain, regular_dataProcessingRegister word⟩
  | dataProcessingVector => exact ⟨.vector, regular_dataProcessingVector word⟩

theorem resolves_meaning (group : Group) :
    Yields Decoded.Resolves (meaning group word address) := by
  by_cases hgroup : group = .unallocated
  · subst hgroup
    intro k o ho
    cases ho
  · obtain ⟨kind, h⟩ := exists_regular word address hgroup
    exact h.mono fun _ hd => hd.resolves

end Decode

/-- The base of a memory operand is never the zero register and its index never the stack pointer,
and another operand is the stack pointer only in the places of its operation. -/
theorem decode_resolves {word : Word} {address : Address} {i : Instruction}
    (h : decode word address = .ok i) :
    ∀ k (o : Operand), i.operands.toList[k]? = some o → o.Resolves (i.operation.TakesStack k) :=
  holds_of_decode (P := Decoded.Resolves)
    (fun group _ => Decode.resolves_meaning word address group) h

/-- An addition between the stack pointer and itself, where the last register is the zero
register. -/
theorem addStack_resolves :
    ∃ i : Instruction, decode 0x8b3f63ff 0 = .ok i ∧ i.operation = .add ∧
      ∀ k (o : Operand), i.operands.toList[k]? = some o →
        o.Resolves (i.operation.TakesStack k) := by
  have h : decode 0x8b3f63ff 0 = .ok ⟨0x8b3f63ff, 0, .dataProcessingRegister, .add,
      .ofList [Decode.xsp 31, Decode.xsp 31, Decode.x 31]⟩ := by
    decide +kernel
  exact ⟨_, h, rfl, decode_resolves h⟩

end A64
