import A64.Proofs.DecodeContract
import A64.Proofs.ReadBack.Immediate
import A64.Proofs.ReadBack.Register

/-!
# The text of an integer instruction tells its word

Two integer words with the same text at the same address are the same word: the text tells the
operation and the pieces of the operands, and from these the assembler finds the word. The bitwise
operations on an immediate are left out, and so are the multiplications for the high half, which do
not print one of their fields.
-/

namespace A64

/-- The word processes integers in registers, or with an immediate that is no bit mask. -/
def IntegerWord (word : Word) : Prop :=
  Group.ofWord? word = some .dataProcessingRegister ∨
    (Group.ofWord? word = some .dataProcessingImmediate ∧ word.field 23 3 ≠ 0b100)

instance (word : Word) : Decidable (IntegerWord word) := inferInstanceAs (Decidable (_ ∨ _))

variable {word : Word} {address : Address} {i : Instruction}

theorem IntegerWord.group_ne {group : Group} (hw : IntegerWord word)
    (hgroup : Group.ofWord? word = some group) : group ≠ .unallocated := by
  rintro rfl
  rcases hw with hw | ⟨hw, -⟩ <;> rw [hw] at hgroup <;> cases hgroup

theorem IntegerWord.readsBack (hw : IntegerWord word) (h : decode word address = .ok i)
    (hhigh : i.operation ≠ .smulh ∧ i.operation ≠ .umulh) :
    ∃ os, i.operands.Holds os ∧ ReadsBack address word ⟨i.operation, os⟩ := by
  obtain ⟨d, hd, hgroup, hi⟩ := exists_meaning_of_decode h
  obtain ⟨f, hf, hmeaning⟩ := Decode.exists_form word (hw.group_ne hgroup)
  have hlen := (hf.ok ((hmeaning address).symm.trans hd)).2.1
  rw [hi] at hhigh ⊢
  refine ⟨d.operands, Operands.holds_ofList hlen, ?_⟩
  rcases hw with hw | ⟨hw, hclass⟩
  · rw [Option.some.inj (hgroup.symm.trans hw)] at hd
    exact Decode.readsBack_dataProcessingRegister hw hd hhigh
  · rw [Option.some.inj (hgroup.symm.trans hw)] at hd
    exact Decode.readsBack_dataProcessingImmediate hw hclass hd

/-- The text of an integer instruction tells its word. -/
theorem integerWord_eq_of_text_eq {word word' : Word} {address : Address} {decimal : Bool}
    {i i' : Instruction} {text : String} (hw : IntegerWord word) (hw' : IntegerWord word')
    (h : decode word address = .ok i) (h' : decode word' address = .ok i')
    (hhigh : i.operation ≠ .smulh ∧ i.operation ≠ .umulh)
    (hhigh' : i'.operation ≠ .smulh ∧ i'.operation ≠ .umulh)
    (ht : i.render decimal = .ok text) (ht' : i'.render decimal = .ok text) : word = word' := by
  obtain ⟨os, hold, hread⟩ := hw.readsBack h hhigh
  obtain ⟨os', hold', hread'⟩ := hw'.readsBack h' hhigh'
  obtain ⟨hop, hpieces⟩ :=
    Instruction.pieces_eq_of_render_eq hold hold' hread.spelled hread'.spelled ht ht'
  have hassembled : assemble address i.operation (os.flatMap Operand.pieces) = some word' := by
    rw [hop, hpieces]
    exact hread'.assembled
  rw [hread.assembled] at hassembled
  exact Option.some.inj hassembled

/-- The text of a move between registers is that of one word. -/
theorem moveRegister_eq_of_text_eq :
    IntegerWord 0xaa0103e0 ∧ ∃ i : Instruction, decode 0xaa0103e0 0x4000 = .ok i ∧
      i.render false = .ok "mov\tx0, x1" ∧ (0xaa0103e0 : Word) = i.word := by
  have hdecode : decode 0xaa0103e0 0x4000 = .ok ⟨0xaa0103e0, 0x4000, .dataProcessingRegister, .mov,
      .ofList [Decode.x 0, Decode.x 1]⟩ := by decide +kernel
  have htext : Instruction.render ⟨0xaa0103e0, 0x4000, .dataProcessingRegister, .mov,
      .ofList [Decode.x 0, Decode.x 1]⟩ false = .ok "mov\tx0, x1" := by decide +kernel
  have hword : IntegerWord 0xaa0103e0 := by decide
  exact ⟨hword, _, hdecode, htext, integerWord_eq_of_text_eq hword hword hdecode hdecode
    (by decide) (by decide) htext htext⟩

end A64
