import A64.Proofs.DecodeContract

/-!
# Moving a word to another address

The address of a word matters only to its label: the same word at two addresses is reserved for the
same reason, or has the same operation on the same operands, except that a label moves along with
the word, or with its page. A label is always the last operand, and only branches, address
computations and loads of literals have one.
-/

namespace A64

/-- How far a label moves when its instruction moves from one address to another: as far as the
instruction, or as far as its page of `2 ^ 12` bytes. -/
def displacement (op : Operation) (source target : Address) : BitVec 64 :=
  if op = .adrp then (target &&& ~~~0xfff) - (source &&& ~~~0xfff) else target - source

/-- The operand after a move; only a label changes. -/
def Operand.relocate (distance : BitVec 64) : Operand → Operand
  | label target => label (target + distance)
  | o => o

/-- `j` is `i` moved from one address to another. -/
structure Instruction.Relocates (source target : Address) (i j : Instruction) : Prop where
  group_eq : j.group = i.group
  operation_eq : j.operation = i.operation
  size_eq : j.operands.size = i.operands.size
  operands_eq : j.operands.toList =
    i.operands.toList.map (Operand.relocate (displacement i.operation source target))

/-- A label stands last, and only where the operation of the word takes one. -/
def Instruction.LabelLast (word : Word) (i : Instruction) : Prop :=
  ∀ k target, i.operands.get? k = some (.label target) →
    k + 1 = i.operands.size ∧ Decode.TakesLabel word i.operation

theorem Operand.relocate_of_absolute {o : Operand} (h : o.Absolute) (distance : BitVec 64) :
    o.relocate distance = o := by
  cases o with
  | label target => exact absurd h.isLabel (by simp [Operand.isLabel])
  | _ => rfl

theorem Operand.map_relocate_of_absolute {os : List Operand} (h : ∀ o ∈ os, o.Absolute)
    (distance : BitVec 64) : os.map (relocate distance) = os := by
  have hid : os.map (relocate distance) = os.map id :=
    List.map_congr_left fun o ho => relocate_of_absolute (h o ho) distance
  rw [hid, List.map_id]

namespace Decode

variable {word : Word} {f : Form} {d : Decoded}

theorem origin_sub_origin {op : Operation} {page : Bool} (h : page = true ↔ op = .adrp)
    (source target : Address) :
    origin page target - origin page source = displacement op source target := by
  by_cases hop : op = .adrp
  · simp [origin, displacement, hop, h.2 hop]
  · have hpage : page = false := Bool.eq_false_iff.2 fun hp => hop (h.1 hp)
    simp [origin, displacement, hop, hpage]

theorem relocate_label (source target : Address) (offset : Int) :
    (label source offset).relocate (target - source) = label target offset := by
  simp only [label, Operand.relocate, Operand.label.injEq]
  grind

/-- At another address a form yields the same operation on relocated operands. -/
theorem Form.Valid.relocate (hf : f.Valid word) {source : Address} (target : Address)
    (h : f.meaning source = .ok d) :
    f.meaning target = .ok ⟨d.operation,
      d.operands.map (Operand.relocate (displacement d.operation source target))⟩ := by
  cases f with
  | absolute r =>
    have hr : r = .ok d := h
    have hd : Absolute (.ok d) := hr ▸ hf
    rw [Operand.map_relocate_of_absolute hd.operands]
    exact hr
  | relative op first page offset =>
    obtain ⟨-, hpage, -, hfirst⟩ := hf
    cases h
    rw [List.map_append, Operand.map_relocate_of_absolute hfirst, List.map_singleton,
      ← origin_sub_origin hpage, relocate_label]
    rfl

theorem Form.meaning_error {reason : Reserved} {source : Address} (target : Address)
    (h : f.meaning source = .error reason) : f.meaning target = .error reason := by
  cases f with
  | absolute r => exact h
  | relative op first page offset => cases h

theorem Form.Valid.labelLast (hf : f.Valid word) {address : Address}
    (h : f.meaning address = .ok d) {k : Nat} {target : Address}
    (hk : d.operands[k]? = some (.label target)) :
    k + 1 = d.operands.length ∧ TakesLabel word d.operation := by
  cases f with
  | absolute r =>
    have hr : r = .ok d := h
    have hd : Absolute (.ok d) := hr ▸ hf
    have hlabel := (hd.operands _ (List.mem_of_getElem? hk)).isLabel
    simp [Operand.isLabel] at hlabel
  | relative op first page offset =>
    obtain ⟨hop, -, -, hfirst⟩ := hf
    cases h
    refine ⟨?_, hop⟩
    have hlt : k < (first ++ [label (origin page address) offset]).length := by
      obtain ⟨hlt, -⟩ := List.getElem?_eq_some_iff.1 hk
      exact hlt
    simp only [List.length_append, List.length_singleton] at hlt ⊢
    rcases Nat.lt_or_ge k first.length with hbefore | hlast
    · have hk' : first[k]? = some (.label target) := by
        rw [← hk]
        exact (List.getElem?_append_left hbefore).symm
      have hlabel := (hfirst _ (List.mem_of_getElem? hk')).isLabel
      simp [Operand.isLabel] at hlabel
    · omega

end Decode

variable {word : Word} {group : Group} {d : Decoded}

theorem labelLast_of_meaning {address : Address} (halloc : group ≠ .unallocated)
    (hd : Decode.meaning group word address = .ok d) :
    Instruction.LabelLast word ⟨word, address, group, d.operation, .ofList d.operands⟩ := by
  obtain ⟨f, hf, hmeaning⟩ := Decode.exists_form word halloc
  have hd' := (hmeaning address).symm.trans hd
  have hold := Operands.holds_ofList (hf.ok hd').2.1
  intro k target hk
  simp only [hold.get?, hold.size] at hk ⊢
  exact hf.labelLast hd' hk

theorem exists_relocates {source : Address} (target : Address) (halloc : group ≠ .unallocated)
    (hd : Decode.meaning group word source = .ok d) :
    ∃ d', Decode.meaning group word target = .ok d' ∧
      Instruction.Relocates source target
        ⟨word, source, group, d.operation, .ofList d.operands⟩
        ⟨word, target, group, d'.operation, .ofList d'.operands⟩ := by
  obtain ⟨f, hf, hmeaning⟩ := Decode.exists_form word halloc
  have hs := (hmeaning source).symm.trans hd
  have ht := hf.relocate target hs
  have hold := Operands.holds_ofList (hf.ok hs).2.1
  have hold' := Operands.holds_ofList (hf.ok ht).2.1
  refine ⟨_, (hmeaning target).trans ht, rfl, rfl, ?_, ?_⟩
  · simp only [hold.size, hold'.size, List.length_map]
  · simp only [hold.toList, hold'.toList]

/-- Decoding one word at two addresses gives the same error or instructions that differ only in
their label, which is the last operand and moves with the word or its page. -/
theorem decode_relocate (word : Word) (source target : Address) :
    match decode word source, decode word target with
    | .ok i, .ok j => i.Relocates source target j ∧ i.LabelLast word ∧ j.LabelLast word
    | .error e, .error e' =>
      ∃ reason, e = .reserved word source reason ∧ e' = .reserved word target reason
    | _, _ => False := by
  obtain ⟨group, hgroup⟩ := Group.exists_ofWord? word
  by_cases halloc : group = .unallocated
  · subst halloc
    have hdecode (address : Address) : decode word address =
        .ok ⟨word, address, .unallocated, .undefined, .ofList []⟩ := by
      rw [decode, hgroup]; rfl
    rw [hdecode source, hdecode target]
    refine ⟨⟨rfl, rfl, rfl, rfl⟩, ?_, ?_⟩ <;>
      · intro k t hk
        simp [Operands.holds_empty.get?, Operands.ofList] at hk
  · obtain ⟨f, -, hmeaning⟩ := Decode.exists_form word halloc
    cases hs : Decode.meaning group word source with
    | error reason =>
      have ht : Decode.meaning group word target = .error reason := by
        rw [hmeaning]
        exact Decode.Form.meaning_error target ((hmeaning source).symm.trans hs)
      simp only [decode, hgroup, hs, ht]
      exact ⟨reason, rfl, rfl⟩
    | ok d =>
      obtain ⟨d', ht, hrel⟩ := exists_relocates target halloc hs
      simp only [decode, hgroup, hs, ht]
      exact ⟨hrel, labelLast_of_meaning halloc hs, labelLast_of_meaning halloc ht⟩

end A64
