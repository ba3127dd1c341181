import A64.Decode.System
import A64.Proofs.Token

/-!
# Names of system registers

System instructions name the numbers in them in four ways (`SystemForm`): registers that are read or
written, maintenance operations, and fields of the processor state. The tables lead from numbers to
names. In those of registers and maintenance operations no name occurs twice
(`SystemRegister.nodup_numbered`), so a name tells its numbers whichever way it is used, and so does
the name of a field among fields. Numbers that have a name as a register that is read have one as a
register that is written.
-/

namespace A64

open Decode (systemOperand)

namespace SystemRegister

variable {e e' : SystemEncoding} {r : SystemRegister}

/-- All numbers with the names of registers and maintenance operations, those of the debug data
transfer register once for each direction. -/
def numbered : List (SystemEncoding × SystemRegister) :=
  (⟨2, 3, 0, 5, 0⟩, .dbgdtrtxEl0) :: readable ++ maintained.map fun (e, _, r) => (e, r)

/-- No name stands in two rows of the tables, nor in a row of each. -/
theorem nodup_numbered : (numbered.map (·.2)).Nodup := by
  have hplaces : distinct 10 ((numbered.map (·.2)).map index) = true := by
    rw [distinct_eq]
    decide +kernel
  exact (nodup_of_distinct hplaces).of_map _

theorem eq_of_mem_numbered (h : (e, r) ∈ numbered) (h' : (e', r) ∈ numbered) : e = e' := by
  have hrow : (e, r) = (e', r) := List.inj_on_of_nodup_map nodup_numbered h h' rfl
  exact congrArg Prod.fst hrow

theorem mem_of_lookup_eq_some {α β : Type} [DecidableEq α] {a : α} {b : β} {rows : List (α × β)}
    (h : rows.lookup a = some b) : (a, b) ∈ rows := by
  obtain ⟨front, back, rfl, -⟩ := List.lookup_eq_some_iff.1 h
  exact List.mem_append_right _ List.mem_cons_self

theorem mem_numbered_of_ofEncoding? (h : ofEncoding? e = some r) : (e, r) ∈ numbered := by
  have hrow : (e, r) ∈ readable := mem_of_lookup_eq_some h
  exact List.mem_append_left _ (List.mem_cons_of_mem _ hrow)

/-- Only one row has the register that is read where the debug data transfer register is written. -/
theorem eq_of_ofEncoding?_eq_dbgdtrrxEl0 (h : ofEncoding? e = some .dbgdtrrxEl0) :
    e = ⟨2, 3, 0, 5, 0⟩ := by
  have hread : ofEncoding? ⟨2, 3, 0, 5, 0⟩ = some .dbgdtrrxEl0 := by decide +kernel
  exact eq_of_mem_numbered (mem_numbered_of_ofEncoding? h) (mem_numbered_of_ofEncoding? hread)

theorem mem_numbered_of_ofEncodingForWrite? (h : ofEncodingForWrite? e = some r) :
    (e, r) ∈ numbered := by
  unfold ofEncodingForWrite? at h
  split at h
  · rename_i hread
    cases h
    rw [eq_of_ofEncoding?_eq_dbgdtrrxEl0 hread]
    exact List.mem_append_left _ List.mem_cons_self
  · exact mem_numbered_of_ofEncoding? h

theorem ofEncodingForWrite?_eq_none_iff : ofEncodingForWrite? e = none ↔ ofEncoding? e = none := by
  unfold ofEncodingForWrite?
  split
  · rename_i hread
    simp [hread]
  · exact Iff.rfl

theorem mem_numbered_of_ofMaintenance? {op1 crn crm op2 : Nat} {kind : MaintenanceKind}
    (h : ofMaintenance? op1 crn crm op2 = some (kind, r)) :
    (⟨1, op1, crn, crm, op2⟩, r) ∈ numbered := by
  have hrow : (⟨1, op1, crn, crm, op2⟩, kind, r) ∈ maintained := mem_of_lookup_eq_some h
  exact List.mem_append_right _ (List.mem_map.2 ⟨_, hrow, rfl⟩)

theorem stateField?_injective {op1 op2 op1' op2' : Nat} (h : stateField? op1 op2 = some r)
    (h' : stateField? op1' op2' = some r) : op1 = op1' ∧ op2 = op2' := by
  unfold stateField? at h
  split at h <;> cases h <;> unfold stateField? at h' <;> split at h' <;> cases h' <;>
    exact ⟨rfl, rfl⟩

end SystemRegister

/-- How a system instruction names the numbers in it. -/
inductive SystemForm where
  | read
  | write
  | maintenance
  /-- A field of the processor state to which an immediate is written. -/
  | stateField
  deriving DecidableEq

namespace SystemForm

def name? (form : SystemForm) (e : SystemEncoding) : Option SystemRegister :=
  match form with
  | read => SystemRegister.ofEncoding? e
  | write => SystemRegister.ofEncodingForWrite? e
  | maintenance => (SystemRegister.ofMaintenance? e.op1 e.crn e.crm e.op2).map (·.2)
  | stateField => SystemRegister.stateField? e.op1 e.op2

def Has (form : SystemForm) (e : SystemEncoding) : Prop :=
  match form with
  | read | write => 2 ≤ e.op0
  | maintenance => e.op0 = 1
  | stateField => e.op0 = 0 ∧ e.crn = 4

/-- The numbers that the name stands for: all, but the immediate in one of them, which is printed
apart. -/
def named (form : SystemForm) (e : SystemEncoding) : SystemEncoding :=
  match form with
  | stateField => { e with crm := 0 }
  | _ => e

variable {form form' : SystemForm} {e e' : SystemEncoding} {r : SystemRegister}

theorem mem_numbered_of_name? (hform : form ≠ stateField) (h : form.Has e)
    (hr : form.name? e = some r) : (e, r) ∈ SystemRegister.numbered := by
  unfold name? at hr
  cases form with
  | read => exact SystemRegister.mem_numbered_of_ofEncoding? hr
  | write => exact SystemRegister.mem_numbered_of_ofEncodingForWrite? hr
  | maintenance =>
    obtain ⟨⟨kind, _⟩, hkind, rfl⟩ := Option.map_eq_some_iff.1 hr
    obtain ⟨op0, op1, crn, crm, op2⟩ := e
    obtain rfl : op0 = 1 := h
    exact SystemRegister.mem_numbered_of_ofMaintenance? hkind
  | stateField => exact absurd rfl hform

/-- An operand has a name or shows numbers, and tells either. -/
theorem systemOperand_eq {name name' : Option SystemRegister}
    (h : systemOperand e name = systemOperand e' name') :
    name = name' ∧ (name = none → e = e') := by
  cases name with
  | none =>
    cases name' with
    | none =>
      cases h
      exact ⟨rfl, fun _ => rfl⟩
    | some r' => cases h
  | some r =>
    cases name' with
    | none => cases h
    | some r' =>
      cases h
      exact ⟨rfl, nofun⟩

/-- The operand that shows numbers by a name, or as they are, tells them, whichever form
it is of. -/
theorem eq_of_operand_eq (hform : form ≠ stateField) (hform' : form' ≠ stateField)
    (h : form.Has e) (h' : form'.Has e')
    (ho : systemOperand e (form.name? e) = systemOperand e' (form'.name? e')) : e = e' := by
  obtain ⟨hname, hnumbers⟩ := systemOperand_eq ho
  cases hr : form.name? e with
  | none => exact hnumbers hr
  | some r =>
    have hr' : form'.name? e' = some r := hname.symm.trans hr
    have hmem := mem_numbered_of_name? hform h hr
    have hmem' := mem_numbered_of_name? hform' h' hr'
    exact SystemRegister.eq_of_mem_numbered hmem hmem'

theorem named_eq_of_operand_eq (h : form.Has e) (h' : form.Has e')
    (ho : systemOperand e (form.name? e) = systemOperand e' (form.name? e')) :
    form.named e = form.named e' := by
  by_cases hform : form = stateField
  · subst hform
    obtain ⟨hname, hnumbers⟩ := systemOperand_eq ho
    cases hr : stateField.name? e with
    | none => rw [hnumbers hr]
    | some r =>
      have hr' : stateField.name? e' = some r := hname.symm.trans hr
      obtain ⟨hop1, hop2⟩ := SystemRegister.stateField?_injective hr hr'
      obtain ⟨hop0, hcrn⟩ := h
      obtain ⟨hop0', hcrn'⟩ := h'
      simp [named, hop0, hop0', hop1, hop2, hcrn, hcrn']
  · rw [eq_of_operand_eq hform hform h h' ho]

/-- Numbers of two forms have a name in both or in neither. -/
theorem name?_eq_none_iff (h : form.Has e) (h' : form'.Has e) :
    form.name? e = none ↔ form'.name? e = none := by
  cases form <;> cases form' <;> simp only [Has] at h h' <;> try omega
  all_goals simp only [name?, SystemRegister.ofEncodingForWrite?_eq_none_iff]

end SystemForm

end A64
