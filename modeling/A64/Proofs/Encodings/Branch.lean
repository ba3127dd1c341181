import A64.Decode.Control
import A64.Proofs.Slot

/-!
# Encodings of branches

The fields that are the same in all words of a class of branches, exceptions and system
instructions, and the encodings of branches at an address, with the theorem for each decoder that
they describe what it accepts.
-/

namespace A64

open Encoding Slot

namespace Decode

variable {w : Word} {d : Decoded} {address : Address}

namespace ControlClass

def fixed : ControlClass → List (Field × Nat)
  | branchImmediate => [(⟨26, 3⟩, 5), (⟨29, 2⟩, 0)]
  | compareBranch => [(⟨26, 3⟩, 5), (⟨29, 2⟩, 1), (⟨25, 1⟩, 0)]
  | testBranch => [(⟨26, 3⟩, 5), (⟨29, 2⟩, 1), (⟨25, 1⟩, 1)]
  | conditionalBranch => [(⟨26, 3⟩, 5), (⟨29, 3⟩, 2), (⟨25, 1⟩, 0)]
  | branchRegister => [(⟨26, 3⟩, 5), (⟨29, 3⟩, 6), (⟨25, 1⟩, 1)]
  | exception => [(⟨26, 3⟩, 5), (⟨29, 3⟩, 6), (⟨25, 1⟩, 0), (⟨24, 1⟩, 0)]
  | system => [(⟨26, 3⟩, 5), (⟨29, 3⟩, 6), (⟨25, 1⟩, 0), (⟨24, 1⟩, 1), (⟨22, 2⟩, 0)]

theorem field_group (hgroup : Group.ofWord? w = some .branchExceptionSystem) :
    w.field 26 3 = 5 := by
  have hall : ∀ b : BitVec 4, Group.ofBits? b = some .branchExceptionSystem →
      b.extractLsb' 1 3 = 5 := by decide
  have hhigh : (w.field 25 4).extractLsb' 1 3 = w.field 26 3 := w.field_field (by decide)
  exact hhigh ▸ hall _ hgroup

theorem hasFields {cls : ControlClass} (hgroup : Group.ofWord? w = some .branchExceptionSystem)
    (h : ofWord w = .ok cls) : HasFields cls.fixed w := by
  have hbits := field_group hgroup
  have hlow : (w.field 29 3).extractLsb' 0 2 = w.field 29 2 := w.field_field (by decide)
  unfold ofWord at h
  split at h
  case h_1 h29 | h_2 h29 =>
    cases h
    simp [fixed, hbits, ← hlow, h29]
  case h_3 h29 h25 | h_4 h29 h25 =>
    cases h
    simp [fixed, hbits, ← hlow, h29, Word.field_eq_zero_iff.2 h25]
  case h_5 h29 h25 | h_6 h29 h25 =>
    cases h
    simp [fixed, hbits, ← hlow, h29, Word.field_eq_one_iff.2 h25]
  case h_7 h29 h25 =>
    cases h
    simp [fixed, hbits, h29, Word.field_eq_zero_iff.2 h25]
  case h_8 h29 h25 =>
    cases h
    simp [fixed, hbits, h29, Word.field_eq_one_iff.2 h25]
  case h_9 h29 h25 =>
    have h25 := Word.field_eq_zero_iff.2 h25
    split at h <;> rename_i h24
    · cases h
      simp [fixed, hbits, h29, h25, Word.field_eq_zero_iff.2 h24]
    · split at h <;> rename_i h22 <;> cases h
      simp [fixed, hbits, h29, h25, h22, Word.field_eq_one_iff.2 (eq_true_of_ne_false h24)]
  case h_10 => cases h

end ControlClass

def branchImmediateEncodings (address : Address) : List Encoding :=
  [false, true].map fun link =>
    ⟨if link then .bl else .b, [.label address 0 26],
      ControlClass.branchImmediate.fixed ++ [(⟨31, 1⟩, link.toNat)]⟩

theorem described_branchImmediate (hw : HasFields ControlClass.branchImmediate.fixed w)
    (h : branchImmediate w address = .ok d) : Described (branchImmediateEncodings address) w d := by
  cases h
  exact .map (a := w.bit 31) (by simp) ⟨by simp [hw], by simp, rfl⟩

def conditionalBranchEncodings (address : Address) : List Encoding :=
  (bitVectors 4).map fun bits =>
    ⟨.branchIf (.ofBits bits), [.label address 5 19],
      ControlClass.conditionalBranch.fixed ++ [(⟨24, 1⟩, 0), (⟨4, 1⟩, 0), (⟨0, 4⟩, bits.toNat)]⟩

theorem described_conditionalBranch (hw : HasFields ControlClass.conditionalBranch.fixed w)
    (h : conditionalBranch w address = .ok d) :
    Described (conditionalBranchEncodings address) w d := by
  simp only [conditionalBranch] at h
  split at h <;> cases h
  rename_i hbits
  obtain ⟨h24, h4⟩ := not_or.1 hbits
  refine .map (a := w.field 0 4) (by simp) ⟨?_, by simp, rfl⟩
  simp [hw, Word.field_eq_zero_iff.2 (eq_false_of_ne_true h24),
    Word.field_eq_zero_iff.2 (eq_false_of_ne_true h4)]

def compareBranchEncodings (address : Address) : List Encoding :=
  (flagged [false, true]).map fun (sf, nonzero) =>
    ⟨if nonzero then .cbnz else .cbz, [.gpr sf rd, .label address 5 19],
      ControlClass.compareBranch.fixed ++ [(⟨31, 1⟩, sf.toNat), (⟨24, 1⟩, nonzero.toNat)]⟩

theorem described_compareBranch (hw : HasFields ControlClass.compareBranch.fixed w)
    (h : compareBranch w address = .ok d) : Described (compareBranchEncodings address) w d := by
  cases h
  exact .map (a := (w.sf, w.bit 24)) (by simp) ⟨by simp [hw], by simp, rfl⟩

/-- The number of a bit of a register; its highest bit is apart from the others. -/
def bitNumber : Slot where
  kind := .value
  operand := fun w => imm (w.field 31 1 ++ w.field 19 5)
  shown := [⟨31, 1⟩, ⟨19, 5⟩]
  Holds := fun _ => True
  kind_operand := fun _ => rfl
  faithful := by
    intro w w' _ _ h
    have hnumber := eq_of_immediate BitVec.toNat (immediate?_imm (by decide))
      (fun _ _ => BitVec.eq_of_toNat_eq) _ _ h
    obtain ⟨hhigh, hlow⟩ := Field.append_inj hnumber
    simp [hhigh, hlow]

@[simp] theorem holds_bitNumber : bitNumber.Holds w := trivial

def testBranchEncodings (address : Address) : List Encoding :=
  (flagged [false, true]).map fun (sf, nonzero) =>
    ⟨if nonzero then .tbnz else .tbz, [.gpr sf rd, bitNumber, .label address 5 14],
      ControlClass.testBranch.fixed ++ [(⟨31, 1⟩, sf.toNat), (⟨24, 1⟩, nonzero.toNat)]⟩

theorem described_testBranch (hw : HasFields ControlClass.testBranch.fixed w)
    (h : testBranch w address = .ok d) : Described (testBranchEncodings address) w d := by
  cases h
  exact .map (a := (w.sf, w.bit 24)) (by simp) ⟨by simp [hw], by simp, rfl⟩

/-- What the last field holds if it is no register. -/
def branchPadding (op3 : BitVec 2) : BitVec 5 := if op3 = 0 then 0 else 31

/-- The rows of the table by the fields that select them. -/
def branchRow? (opc : BitVec 4) (op3 : BitVec 2) : Option RegisterBranch :=
  registerBranch? opc (op3.setWidth 6) (branchPadding op3)

theorem branchRow?_of_registerBranch? {opc : BitVec 4} {op3 : BitVec 6} {op4 : BitVec 5}
    {row : RegisterBranch} (h : registerBranch? opc op3 op4 = some row) :
    branchRow? opc (op3.setWidth 2) = some row ∧ op3.toNat = (op3.setWidth 2).toNat ∧
      ((∀ op, row ≠ .keyed op) → op4 = branchPadding (op3.setWidth 2)) := by
  unfold registerBranch? at h
  split at h <;> cases h
  iterate 13 exact ⟨rfl, rfl, fun _ => rfl⟩
  iterate 4 exact ⟨rfl, rfl, fun hkeyed => absurd rfl (hkeyed _)⟩

def branchRowFixed (opc : BitVec 4) (op3 : BitVec 2) : List (Field × Nat) :=
  ControlClass.branchRegister.fixed ++
    [(⟨16, 5⟩, 31), (⟨21, 4⟩, opc.toNat), (⟨10, 6⟩, op3.toNat)]

def bareReturn (opc : BitVec 4) (op3 : BitVec 2) : Encoding :=
  ⟨.ret, [], branchRowFixed opc op3 ++ [(⟨0, 5⟩, (branchPadding op3).toNat), (⟨5, 5⟩, 30)]⟩

def returnTo (opc : BitVec 4) (op3 : BitVec 2) : Encoding :=
  ⟨.ret, [.gpr true rn], branchRowFixed opc op3 ++ [(⟨0, 5⟩, (branchPadding op3).toNat)]⟩

def branchRowEncodings (opc : BitVec 4) (op3 : BitVec 2) : RegisterBranch → List Encoding
  | .plain op =>
    [⟨op, [.gpr true rn], branchRowFixed opc op3 ++ [(⟨0, 5⟩, (branchPadding op3).toNat)]⟩]
  | .keyed op => [⟨op, [.gpr true rn, .xsp rd], branchRowFixed opc op3⟩]
  | .ret => [bareReturn opc op3, returnTo opc op3]
  | .implicit op =>
    [⟨op, [], branchRowFixed opc op3 ++ [(⟨0, 5⟩, (branchPadding op3).toNat), (⟨5, 5⟩, 31)]⟩]

theorem bareReturn_mem (opc : BitVec 4) (op3 : BitVec 2) :
    bareReturn opc op3 ∈ branchRowEncodings opc op3 .ret := by
  simp [branchRowEncodings]

theorem returnTo_mem (opc : BitVec 4) (op3 : BitVec 2) :
    returnTo opc op3 ∈ branchRowEncodings opc op3 .ret := by
  simp [branchRowEncodings]

def branchRegisterEncodings : List Encoding :=
  ofTable (bitPairs 4 2) (fun (opc, op3) => branchRow? opc op3)
    fun (opc, op3) row => branchRowEncodings opc op3 row

theorem described_branchRegister (hw : HasFields ControlClass.branchRegister.fixed w)
    (h : branchRegister w = .ok d) : Described branchRegisterEncodings w d := by
  simp only [branchRegister] at h
  split at h
  · cases h
  · rename_i h16
    cases hrow : registerBranch? (w.field 21 4) (w.field 10 6) (w.field 0 5) with
    | none =>
      rw [hrow] at h
      cases h
    | some row =>
      rw [hrow] at h
      obtain ⟨hrow, hop3, hpadding⟩ := branchRow?_of_registerBranch? hrow
      have hfixed : HasFields (branchRowFixed (w.field 21 4) ((w.field 10 6).setWidth 2)) w := by
        simp [branchRowFixed, hw, of_not_not h16, ← hop3]
      refine .ofTable (k := (w.field 21 4, (w.field 10 6).setWidth 2)) (by simp) hrow ?_
      cases row with
      | plain op =>
        cases h
        refine .single ⟨?_, by simp, rfl⟩
        simp [hfixed, ← hpadding (by simp)]
      | keyed op =>
        cases h
        exact .single ⟨hfixed, by simp, rfl⟩
      | ret =>
        dsimp only at h
        split at h <;> cases h
        · rename_i hrn
          have hrn : w.field 5 5 = 30#5 := hrn
          refine .of_mem (bareReturn_mem _ _) ⟨?_, hold_nil, rfl⟩
          exact hasFields_append.2 ⟨hfixed, by simp [← hpadding (by simp), hrn]⟩
        · refine .of_mem (returnTo_mem _ _) ⟨?_, ?_, rfl⟩
          · exact hasFields_append.2 ⟨hfixed, by simp [← hpadding (by simp)]⟩
          · simp [returnTo]
      | implicit op =>
        dsimp only at h
        split at h <;> cases h
        rename_i hrn
        refine .single ⟨?_, by simp, rfl⟩
        have hrn : w.field 5 5 = 31#5 := hrn
        simp [hfixed, ← hpadding (by simp), hrn]

end Decode

end A64
