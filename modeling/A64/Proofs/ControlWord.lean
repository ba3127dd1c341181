import A64.Proofs.EncodingText
import A64.Proofs.SystemView

/-!
# The text of a branch, exception or system instruction tells its word

The encodings of branches, exceptions and system instructions are readable, the changes of the
format of the flags apart, which do not show all of their fields. So two such words with the same
text at the same address are the same word. Of an instruction that holds the numbers of a system
register or of a maintenance operation, already the operands beside the general-purpose register
tell the numbers.
-/

namespace A64

open Encoding

namespace Decode

namespace ControlClass

variable {w : Word} {d : Decoded} {cls : ControlClass} {address : Address}

def encodings (address : Address) : ControlClass → List Encoding
  | branchImmediate => branchImmediateEncodings address
  | compareBranch => compareBranchEncodings address
  | testBranch => testBranchEncodings address
  | conditionalBranch => conditionalBranchEncodings address
  | branchRegister => branchRegisterEncodings
  | exception => exceptionEncodings
  | system => systemEncodings

theorem described (hw : HasFields cls.fixed w) (h : cls.meaning w address = .ok d)
    (hd : d.operation ∉ flagFormats) : Described (cls.encodings address) w d := by
  cases cls with
  | branchImmediate => exact described_branchImmediate hw h
  | compareBranch => exact described_compareBranch hw h
  | testBranch => exact described_testBranch hw h
  | conditionalBranch => exact described_conditionalBranch hw h
  | branchRegister => exact described_branchRegister hw h
  | exception => exact described_exception hw h
  | system => exact described_system hw h hd

def all : List ControlClass :=
  [branchImmediate, compareBranch, testBranch, conditionalBranch, branchRegister, exception, system]

theorem mem_all (cls : ControlClass) : cls ∈ all := by cases cls <;> decide

/-- The outlines do not depend on the address: only the operands that are relative to it do. -/
theorem outline_encodings (cls : ControlClass) (address : Address) :
    (cls.encodings address).map outline = (cls.encodings 0).map outline := by
  cases cls <;> rfl

/-- Only system instructions hold the numbers of a system register or a maintenance operation. -/
theorem eq_system_of_mem (h : Described (cls.encodings address) w d)
    (hop : d.operation ∈ systemOperations) : cls = system := by
  have hall : ∀ cls ∈ all, ∀ o ∈ (cls.encodings 0).map outline, o.1 ∈ systemOperations →
      cls = system := by decide +kernel
  obtain ⟨e, he, hdescribes⟩ := h
  have houtline : e.outline ∈ (cls.encodings 0).map outline := by
    rw [← outline_encodings cls address]
    exact List.mem_map_of_mem he
  rw [hdescribes.meaning] at hop
  exact hall cls cls.mem_all _ houtline hop

end ControlClass

def controlEncodings (address : Address) : List Encoding :=
  ControlClass.all.flatMap (ControlClass.encodings address)

theorem outline_controlEncodings (address : Address) :
    (controlEncodings address).map outline = (controlEncodings 0).map outline := by
  rw [controlEncodings, controlEncodings, List.map_flatMap, List.map_flatMap]
  exact List.flatMap_congr fun cls _ => cls.outline_encodings address

theorem readable_controlEncodings (address : Address) : Readable (controlEncodings address) := by
  refine readable_of_checkText ?_
  rw [outline_controlEncodings, checkText, distinct_eq]
  decide +kernel

variable {word : Word} {address : Address} {d : Decoded}

theorem described_branchExceptionSystem
    (hgroup : Group.ofWord? word = some .branchExceptionSystem)
    (h : branchExceptionSystem word address = .ok d) (hd : d.operation ∉ flagFormats) :
    Described (controlEncodings address) word d := by
  unfold branchExceptionSystem at h
  split at h
  · rename_i cls hcls
    exact .flatMap cls.mem_all (ControlClass.described (ControlClass.hasFields hgroup hcls) h hd)
  · cases h

theorem exists_shows (hgroup : Group.ofWord? word = some .branchExceptionSystem)
    (h : branchExceptionSystem word address = .ok d) (hop : d.operation ∈ systemOperations) :
    ∃ view : SystemView, view.Shows word d := by
  have hflags : d.operation ∉ flagFormats := by
    have hdisjoint : ∀ op ∈ systemOperations, op ∉ flagFormats := by decide
    exact hdisjoint _ hop
  unfold branchExceptionSystem at h
  split at h
  · rename_i cls hcls
    obtain rfl := ControlClass.eq_system_of_mem
      (ControlClass.described (ControlClass.hasFields hgroup hcls) h hflags) hop
    exact exists_shows_system h hop
  · cases h

end Decode

/-- The text of a branch, exception or system instruction tells its word, changes of the format of
the flags apart. The operands of a system instruction, the general-purpose register apart, tell the
numbers of the system register or maintenance operation, and numbers that are spelled out by one
instruction are not named by another. -/
theorem controlWord_eq_of_text_eq {word word' : Word} {address address' : Address}
    {i i' : Instruction} (hgroup : Group.ofWord? word = some .branchExceptionSystem)
    (hgroup' : Group.ofWord? word' = some .branchExceptionSystem)
    (h : decode word address = .ok i) (h' : decode word' address' = .ok i') :
    (address = address' → i.operation ∉ Decode.flagFormats → i'.operation ∉ Decode.flagFormats →
      ∀ decimal text, i.render decimal = .ok text → i'.render decimal = .ok text →
        word = word') ∧
    (i.operation ∈ systemOperations → i'.operation ∈ systemOperations →
      (∀ decimal, i.decoded.systemOperands.map (Text.operand decimal) =
        i'.decoded.systemOperands.map (Text.operand decimal) →
          Decode.systemEncoding word = Decode.systemEncoding word') ∧
      (i.decoded.ShowsNumbers → i'.decoded.ShowsName →
        Decode.systemEncoding word ≠ Decode.systemEncoding word')) := by
  have hne : Group.branchExceptionSystem ≠ .unallocated := by decide
  have hmeaning := (meaning_of_decode hgroup hne h).2
  have hmeaning' := (meaning_of_decode hgroup' hne h').2
  refine ⟨?_, fun hop hop' => ?_⟩
  · rintro rfl hflags hflags' decimal text ht ht'
    have hdescribed := Decode.described_branchExceptionSystem hgroup hmeaning hflags
    have hdescribed' := Decode.described_branchExceptionSystem hgroup' hmeaning' hflags'
    exact (Decode.readable_controlEncodings address).word_eq hne hgroup hgroup' h h' hdescribed
      hdescribed' ht ht'
  · obtain ⟨view, hview⟩ := Decode.exists_shows hgroup hmeaning hop
    obtain ⟨view', hview'⟩ := Decode.exists_shows hgroup' hmeaning' hop'
    have hprint := printable_of_decode hgroup hne h
    have hprint' := printable_of_decode hgroup' hne h'
    refine ⟨fun decimal ht => ?_, hview.systemEncoding_ne hview'⟩
    exact hview.systemEncoding_eq_of_text_eq hview' hprint hprint' ht

/-- A register without a name next to one with a name. -/
theorem debugTransfer_eq_of_text_eq :
    Group.ofWord? 0xd5330523 = some .branchExceptionSystem ∧
      Group.ofWord? 0xd5130503 = some .branchExceptionSystem ∧
      ∃ i i' : Instruction, decode 0xd5330523 0x4000 = .ok i ∧ decode 0xd5130503 0x4000 = .ok i' ∧
        i.render false = .ok "mrs\tx3, s2_3_c0_c5_1" ∧
        i'.render false = .ok "msr\tdbgdtrtx_el0, x3" ∧
        Decode.systemEncoding 0xd5330523 ≠ Decode.systemEncoding 0xd5130503 := by
  have hgroup : Group.ofWord? 0xd5330523 = some .branchExceptionSystem := by decide
  have hgroup' : Group.ofWord? 0xd5130503 = some .branchExceptionSystem := by decide
  have hdecode : decode 0xd5330523 0x4000 = .ok ⟨0xd5330523, 0x4000, .branchExceptionSystem, .mrs,
      .ofList [Decode.x 3, .systemEncoding ⟨2, 3, 0, 5, 1⟩]⟩ := by decide +kernel
  have hdecode' : decode 0xd5130503 0x4000 = .ok ⟨0xd5130503, 0x4000, .branchExceptionSystem, .msr,
      .ofList [.systemRegister .dbgdtrtxEl0, Decode.x 3]⟩ := by decide +kernel
  refine ⟨hgroup, hgroup', _, _, hdecode, hdecode', by decide +kernel, by decide +kernel, ?_⟩
  have hshown :=
    (controlWord_eq_of_text_eq hgroup hgroup' hdecode hdecode').2 (by decide) (by decide)
  exact hshown.2 (.inr ⟨_, List.mem_of_getElem? (i := 1) rfl⟩)
    ⟨_, List.mem_of_getElem? (i := 0) rfl⟩

end A64
