import A64.Proofs.Encodings.System
import A64.Proofs.Fragment

/-!
# What system instructions show of their numbers

An instruction that reads or writes a system register or maintains a cache shows the five numbers in
its word by a name, run together, or one by one (`SystemView`), beside a general-purpose register.
In each case what is shown tells the numbers, and numbers that one instruction names are not spelled
out by another.
-/

namespace A64

open Encoding Slot

def Operand.isGeneral (o : Operand) : Bool :=
  o.register?.any fun r => r.file = .w || r.file = .x

/-- The operands that are no general-purpose registers. -/
def Decoded.systemOperands (d : Decoded) : List Operand := d.operands.filter (!·.isGeneral)

/-- The instructions that hold the numbers of a system register or a maintenance operation. -/
def systemOperations : List Operation :=
  [.mrs, .msr, .sys, .sysl, .addressLookup, .dc, .ic, .tlbi]

def Decoded.ShowsName (d : Decoded) : Prop := ∃ r, Operand.systemRegister r ∈ d.operands

/-- The instruction spells out numbers, run together or in place of a maintenance operation. -/
def Decoded.ShowsNumbers (d : Decoded) : Prop :=
  d.operation = .sys ∨ ∃ e, Operand.systemEncoding e ∈ d.operands

@[simp] theorem SystemForm.isGeneral_operand (form : SystemForm) (w : Word) :
    (form.operand w).isGeneral = false := by
  unfold operand
  cases form.name? (Decode.systemEncoding w) <;> rfl

theorem SystemForm.normal_operand (form : SystemForm) (w : Word) :
    (form.operand w).normal = form.operand w := by
  unfold operand
  cases form.name? (Decode.systemEncoding w) <;> rfl

/-- What a system instruction shows of the numbers in it. -/
inductive SystemView where
  /-- The name that they have in a form, or the numbers run together. -/
  | name (form : SystemForm)
  /-- The numbers one by one. -/
  | numbers

namespace SystemView

def slots : SystemView → List Slot
  | name .stateField => [.system .stateField, .imm 8 4]
  | name form => [.system form]
  | numbers => Decode.systemNumbers

def Has (e : SystemEncoding) : SystemView → Prop
  | name form => form.Has e
  | numbers => e.op0 = 1

variable {form form' : SystemForm} {view view' : SystemView} {w w' : Word} {d d' : Decoded}

theorem slots_name (h : form ≠ .stateField) : (name form).slots = [.system form] := by
  cases form with
  | stateField => exact absurd rfl h
  | _ => rfl

theorem hold_slots (h : view.Has (Decode.systemEncoding w)) : Hold view.slots w := by
  cases view with
  | numbers => simp [slots, Decode.systemNumbers]
  | name form => cases form <;> simpa [slots, Has] using h

theorem isLegible_slots : ∀ s ∈ view.slots, s.kind.isLegible = true := by
  cases view with
  | numbers => decide
  | name form => cases form <;> decide

theorem systemEncoding_eq
    (h : ∀ f ∈ [Field.mk 19 2, ⟨16, 3⟩, ⟨12, 4⟩, ⟨8, 4⟩, ⟨5, 3⟩], f.Same w w') :
    Decode.systemEncoding w = Decode.systemEncoding w' := by
  simp only [List.forall_mem_cons, Field.same_mk] at h
  obtain ⟨hop0, hop1, hcrn, hcrm, hop2, -⟩ := h
  simp only [Decode.systemEncoding, hop0, hop1, hcrn, hcrm, hop2]

/-- What is shown tells the numbers, whichever way each of the words shows them. -/
theorem systemEncoding_eq_of_normal_eq (h : view.Has (Decode.systemEncoding w))
    (h' : view'.Has (Decode.systemEncoding w'))
    (ho : (view.slots.map (·.operand w)).map Operand.normal =
      (view'.slots.map (·.operand w')).map Operand.normal) :
    Decode.systemEncoding w = Decode.systemEncoding w' := by
  have hlength := congrArg List.length ho
  simp only [List.length_map] at hlength
  have hsame (view : SystemView) (h : view.Has (Decode.systemEncoding w))
      (h' : view.Has (Decode.systemEncoding w'))
      (ho : (view.slots.map (·.operand w)).map Operand.normal =
        (view.slots.map (·.operand w')).map Operand.normal) :=
    Slot.same_of_normal_eq (hold_slots h) (hold_slots h') ho
  -- The number of operands tells a field of the processor state and single numbers from the rest.
  rcases view with form | _ <;> rcases view' with form' | _
  · by_cases hform : form = .stateField <;> by_cases hform' : form' = .stateField
    · subst hform hform'
      have hfields := hsame _ h h' ho
      refine systemEncoding_eq fun f hf => hfields f ?_
      revert f
      decide
    · subst hform
      rw [slots_name hform'] at hlength
      cases hlength
    · subst hform'
      rw [slots_name hform] at hlength
      cases hlength
    · rw [slots_name hform, slots_name hform'] at ho
      have hoperand := (List.cons.inj ho).1
      dsimp only [Slot.system] at hoperand
      rw [SystemForm.normal_operand, SystemForm.normal_operand] at hoperand
      exact SystemForm.eq_of_operand_eq hform hform' h h' hoperand
  · revert hlength
    cases form <;> simp [slots, Decode.systemNumbers]
  · revert hlength
    cases form' <;> simp [slots, Decode.systemNumbers]
  · have hfields := hsame numbers h h' ho
    have hop0 : w.field 19 2 = w'.field 19 2 := BitVec.eq_of_toNat_eq (h.trans h'.symm)
    refine systemEncoding_eq (List.forall_mem_cons.2 ⟨hop0, fun f hf => hfields f ?_⟩)
    revert f
    decide

/-- The instruction shows the numbers in its word in the way of the view. -/
structure Shows (view : SystemView) (w : Word) (d : Decoded) : Prop where
  has : view.Has (Decode.systemEncoding w)
  operands : d.systemOperands = view.slots.map (·.operand w)
  sys : d.operation = .sys →
    view = numbers ∧ SystemForm.maintenance.name? (Decode.systemEncoding w) = none

namespace Shows

variable {o : Operand}

theorem mem_systemOperands (ho : o ∈ d.operands) (hgeneral : o.isGeneral = false) :
    o ∈ d.systemOperands :=
  List.mem_filter.2 ⟨ho, by simp [hgeneral]⟩

theorem exists_form (h : view.Shows w d) (ho : o ∈ d.operands)
    (hsystem : (∃ r, o = .systemRegister r) ∨ ∃ e, o = .systemEncoding e) :
    ∃ form : SystemForm, form.Has (Decode.systemEncoding w) ∧ o = form.operand w := by
  have hmem : o ∈ view.slots.map (·.operand w) := by
    rw [← h.operands]
    refine mem_systemOperands ho ?_
    rcases hsystem with ⟨r, rfl⟩ | ⟨e, rfl⟩ <;> rfl
  obtain ⟨s, hs, rfl⟩ := List.mem_map.1 hmem
  rcases view with form | _
  · refine ⟨form, h.has, ?_⟩
    by_cases hform : form = .stateField
    · subst hform
      -- The other operand of a write to a state field is a number.
      rcases List.mem_cons.1 hs with rfl | hs
      · rfl
      · rw [List.mem_singleton.1 hs] at hsystem
        rcases hsystem with ⟨r, hr⟩ | ⟨e, he⟩
        · cases hr
        · cases he
    · rw [slots_name hform, List.mem_singleton] at hs
      rw [hs]
      rfl
  · simp only [slots, Decode.systemNumbers, List.mem_cons, List.not_mem_nil, or_false] at hs
    rcases hs with rfl | rfl | rfl | rfl <;> rcases hsystem with ⟨r, hr⟩ | ⟨e, he⟩ <;>
      first | cases hr | cases he

theorem exists_name (h : view.Shows w d) (hname : d.ShowsName) :
    ∃ form : SystemForm, form.Has (Decode.systemEncoding w) ∧
      form.name? (Decode.systemEncoding w) ≠ none := by
  obtain ⟨r, hr⟩ := hname
  obtain ⟨form, hhas, hoperand⟩ := h.exists_form hr (.inl ⟨r, rfl⟩)
  refine ⟨form, hhas, fun hnone => ?_⟩
  rw [SystemForm.operand, hnone] at hoperand
  cases hoperand

theorem exists_no_name (h : view.Shows w d) (hnumbers : d.ShowsNumbers) :
    ∃ form : SystemForm, form.Has (Decode.systemEncoding w) ∧
      form.name? (Decode.systemEncoding w) = none := by
  rcases hnumbers with hsys | ⟨e, he⟩
  · obtain ⟨rfl, hnone⟩ := h.sys hsys
    exact ⟨.maintenance, h.has, hnone⟩
  · obtain ⟨form, hhas, hoperand⟩ := h.exists_form he (.inr ⟨e, rfl⟩)
    refine ⟨form, hhas, ?_⟩
    cases hname : form.name? (Decode.systemEncoding w) with
    | none => rfl
    | some r =>
      rw [SystemForm.operand, hname] at hoperand
      cases hoperand

theorem systemEncoding_ne (h : view.Shows w d) (h' : view'.Shows w' d')
    (hnumbers : d.ShowsNumbers) (hname : d'.ShowsName) :
    Decode.systemEncoding w ≠ Decode.systemEncoding w' := by
  intro he
  obtain ⟨form, hhas, hnone⟩ := h.exists_no_name hnumbers
  obtain ⟨form', hhas', hsome⟩ := h'.exists_name hname
  rw [he] at hhas hnone
  exact hsome ((SystemForm.name?_eq_none_iff hhas hhas').1 hnone)

theorem systemEncoding_eq_of_text_eq (h : view.Shows w d) (h' : view'.Shows w' d')
    (hprint : ∀ o ∈ d.operands, o.Printable) (hprint' : ∀ o ∈ d'.operands, o.Printable)
    {decimal : Bool} (ht : d.systemOperands.map (Text.operand decimal) =
      d'.systemOperands.map (Text.operand decimal)) :
    Decode.systemEncoding w = Decode.systemEncoding w' := by
  have hlegible {view : SystemView} {w : Word} {d : Decoded} (h : view.Shows w d) :
      ∀ o ∈ d.systemOperands, o.kind.isLegible = true := by
    intro o ho
    rw [h.operands] at ho
    obtain ⟨s, hs, rfl⟩ := List.mem_map.1 ho
    rw [s.kind_operand]
    exact isLegible_slots s hs
  have hnormal : d.systemOperands.map Operand.normal = d'.systemOperands.map Operand.normal :=
    Text.map_eq_of_map_eq (fun o ho o' ho' => Operand.normal_eq_of_text_eq
      (hprint o (List.mem_of_mem_filter ho)) (hprint' o' (List.mem_of_mem_filter ho'))
      (hlegible h o ho) (hlegible h' o' ho')) ht
  rw [h.operands, h'.operands] at hnormal
  exact systemEncoding_eq_of_normal_eq h.has h'.has hnormal

end Shows

end SystemView

namespace Decode

variable {w : Word} {d : Decoded} {address : Address}

theorem hint_notMem (n : BitVec 7) : (hint n).operation ∉ systemOperations := by
  revert n
  decide

theorem barrier_notMem {op2 : BitVec 3} {crm : BitVec 4} (h : barrier op2 crm = .ok d) :
    d.operation ∉ systemOperations := by
  unfold barrier at h
  extract_lets option at h
  split at h <;> try split at h
  all_goals
    cases h
    try simp [systemOperations]

theorem exists_shows_processorState (h19 : w.field 19 2 = 0) (h12 : w.field 12 4 = 4)
    (h : processorState (w.field 16 3) (w.field 5 3) (w.field 8 4) = .ok d)
    (hop : d.operation ∈ systemOperations) : ∃ view : SystemView, view.Shows w d := by
  unfold processorState at h
  split at h
  case h_1 | h_2 | h_3 =>
    cases h
    exact absurd hop (by decide)
  case h_4 =>
    split at h <;> cases h
    rename_i field hfield
    have hoperand : SystemForm.stateField.operand w = .systemRegister field := by
      simp [SystemForm.operand, SystemForm.name?, systemEncoding, hfield, systemOperand]
    refine ⟨.name .stateField, ?_, ?_, by simp⟩
    · simp [SystemView.Has, SystemForm.Has, systemEncoding, h19, h12]
    · simp only [SystemView.slots, List.map_cons, List.map_nil, Slot.system, hoperand]
      rfl

theorem exists_shows_systemInstruction (h19 : w.field 19 2 = 1) :
    ∃ view : SystemView, view.Shows w (systemInstruction w) := by
  have hop0 : (systemEncoding w).op0 = 1 := congrArg BitVec.toNat h19
  have hsource : (if w.rt = 31 then [] else [x w.rt]).filter (!·.isGeneral) = [] := by
    split <;> rfl
  simp only [systemInstruction]
  split
  · exact ⟨.numbers, hop0, rfl, by simp⟩
  · split
    · rename_i kind name hname
      have hoperand : SystemForm.maintenance.operand w = .systemRegister name := by
        simp [SystemForm.operand, SystemForm.name?, systemEncoding, hname, systemOperand]
      refine ⟨.name .maintenance, hop0, ?_, by cases kind <;> simp [maintenance]⟩
      simp only [SystemView.slots, List.map_cons, List.map_nil, Slot.system, hoperand,
        Decoded.systemOperands, List.filter_cons, hsource]
      rfl
    · rename_i hname
      refine ⟨.numbers, hop0, ?_, fun _ => ⟨rfl, ?_⟩⟩
      · simp only [Decoded.systemOperands, List.filter_append, hsource, List.append_nil]
        rfl
      · simp only [SystemForm.name?, systemEncoding, hname, Option.map_none]

theorem exists_shows_systemMove (h0 : w.field 19 2 ≠ 0) (h1 : w.field 19 2 ≠ 1) :
    ∃ view : SystemView, view.Shows w (systemMove w) := by
  have hall : ∀ n : BitVec 2, n ≠ 0 → n ≠ 1 → 2 ≤ n.toNat := by decide
  have hop0 : 2 ≤ (systemEncoding w).op0 := hall _ h0 h1
  simp only [systemMove]
  split
  · refine ⟨.name .read, hop0, ?_, by simp⟩
    have hgeneral := SystemForm.read.isGeneral_operand w
    simp only [SystemForm.operand, SystemForm.name?] at hgeneral
    simp only [Decoded.systemOperands, SystemView.slots, List.map_cons, List.map_nil, Slot.system,
      SystemForm.operand, SystemForm.name?, List.filter_cons, List.filter_nil, hgeneral]
    rfl
  · refine ⟨.name .write, hop0, ?_, by simp⟩
    have hgeneral := SystemForm.write.isGeneral_operand w
    simp only [SystemForm.operand, SystemForm.name?] at hgeneral
    simp only [Decoded.systemOperands, SystemView.slots, List.map_cons, List.map_nil, Slot.system,
      SystemForm.operand, SystemForm.name?, List.filter_cons, List.filter_nil, hgeneral]
    rfl

theorem exists_shows_system (h : system w = .ok d) (hop : d.operation ∈ systemOperations) :
    ∃ view : SystemView, view.Shows w d := by
  unfold system at h
  split at h
  · rename_i h19
    split at h
    · cases h
    · simp only [systemImmediate] at h
      split at h
      · cases h
      · split at h
        · cases h
          exact absurd hop (hint_notMem _)
        · exact absurd hop (barrier_notMem h)
        · rename_i h12
          exact exists_shows_processorState h19 h12 h hop
        · cases h
  · rename_i h19
    cases h
    exact exists_shows_systemInstruction h19
  · rename_i h1 h0
    cases h
    exact exists_shows_systemMove h1 h0

end Decode

end A64
