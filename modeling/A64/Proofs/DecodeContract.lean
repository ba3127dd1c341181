import A64.Proofs.Form
import A64.Proofs.Operands

/-!
# The contract of decoding

Decoding a word either reports it reserved, naming the word and its address, or yields an
instruction for that word and address (`Instruction.WellFormed`): its operands stand in the first
slots, only unallocated words have no operation, and all others have a text in which every register
is named by its own file.
-/

namespace A64

theorem Group.exists_ofWord? (word : Word) : ∃ group, Group.ofWord? word = some group := by
  have hbits : ∀ b : BitVec 4, (Group.ofBits? b).isSome := by decide
  exact Option.isSome_iff_exists.1 (hbits (word.field 25 4))

def Instruction.decoded (i : Instruction) : Decoded := ⟨i.operation, i.operands.toList⟩

theorem exists_meaning_of_decode {word : Word} {address : Address} {i : Instruction}
    (h : decode word address = .ok i) :
    ∃ d, Decode.meaning i.group word address = .ok d ∧ Group.ofWord? word = some i.group ∧
      i = ⟨word, address, i.group, d.operation, .ofList d.operands⟩ := by
  obtain ⟨group, hgroup⟩ := Group.exists_ofWord? word
  simp only [decode, hgroup] at h
  split at h
  · rename_i d hd
    cases h
    exact ⟨d, hd, hgroup, rfl⟩
  · cases h

/-- A decoded instruction holds the operands that the group of the word gives it. -/
theorem meaning_of_decode {word : Word} {address : Address} {group : Group} {i : Instruction}
    (hgroup : Group.ofWord? word = some group) (hne : group ≠ .unallocated)
    (h : decode word address = .ok i) :
    i.operands.Holds i.operands.toList ∧
      Decode.meaning group word address = .ok ⟨i.operation, i.operands.toList⟩ := by
  obtain ⟨d, hd, hgroup', hi⟩ := exists_meaning_of_decode h
  obtain rfl : group = i.group := Option.some.inj (hgroup.symm.trans hgroup')
  obtain ⟨f, hf, hmeaning⟩ := Decode.exists_form word hne
  have hhold : i.operands.Holds d.operands := by
    rw [hi]
    exact Operands.holds_ofList (hf.ok ((hmeaning address).symm.trans hd)).2.1
  have hop : i.operation = d.operation := by rw [hi]
  rw [hhold.toList, hop]
  exact ⟨hhold, hd⟩

theorem holds_of_decode {P : Decoded → Prop} {word : Word} {address : Address} {i : Instruction}
    (hP : ∀ group, Group.ofWord? word = some group →
      Decode.Yields P (Decode.meaning group word address))
    (h : decode word address = .ok i) : P ⟨i.operation, i.operands.toList⟩ := by
  obtain ⟨group, hgroup⟩ := Group.exists_ofWord? word
  by_cases hne : group = .unallocated
  · subst hne
    have hempty := hP .unallocated hgroup
    simp only [decode, hgroup, Decode.meaning, Decode.done] at h
    cases h
    exact hempty
  · have hmeaning := (meaning_of_decode hgroup hne h).2
    exact Decode.yields_iff.1 (hP group hgroup) _ hmeaning

/-- What holds of an instruction decoded from a word at an address. -/
structure Instruction.WellFormed (i : Instruction) (word : Word) (address : Address) : Prop where
  word_eq : i.word = word
  address_eq : i.address = address
  group_eq : Group.ofWord? word = some i.group
  /-- The slots in use are the first ones, as many as are counted. -/
  slots : i.operands.size ≤ 5 ∧
    ∀ k (hk : k < 5), i.operands.slots[k].isSome = true ↔ k < i.operands.size
  undefined : i.operation = .undefined ↔ i.group = .unallocated
  /-- An allocated word has a text, with immediates in either base. -/
  text : i.group ≠ .unallocated → ∀ decimal, ∃ text, i.render decimal = .ok text
  /-- Every register of an allocated word is one of its file and has its name from there. -/
  registers : i.group ≠ .unallocated → ∀ o ∈ i.operands.toList, ∀ r ∈ o.registers,
    r.number < r.file.size ∧ r.name? = r.file.names[r.number]?

variable {word : Word} {address : Address} {group : Group} {d : Decoded}

theorem Operands.Holds.slots_iff {os : Operands} {l : List Operand} (h : os.Holds l) :
    os.size ≤ 5 ∧ ∀ k (hk : k < 5), os.slots[k].isSome = true ↔ k < os.size :=
  ⟨h.size ▸ h.length_le, h.isSome_slot⟩

theorem wellFormed_unallocated (hgroup : Group.ofWord? word = some .unallocated) :
    Instruction.WellFormed ⟨word, address, .unallocated, .undefined, .ofList []⟩ word address where
  word_eq := rfl
  address_eq := rfl
  group_eq := hgroup
  slots := Operands.holds_empty.slots_iff
  undefined := by simp
  text := fun h => absurd rfl h
  registers := fun h => absurd rfl h

theorem wellFormed_of_meaning (hgroup : Group.ofWord? word = some group)
    (halloc : group ≠ .unallocated) (hd : Decode.meaning group word address = .ok d) :
    Instruction.WellFormed ⟨word, address, group, d.operation, .ofList d.operands⟩ word
      address := by
  obtain ⟨f, hf, hmeaning⟩ := Decode.exists_form word halloc
  obtain ⟨hop, hlen, hprint⟩ := hf.ok ((hmeaning address).symm.trans hd)
  have hold : (Operands.ofList d.operands).Holds d.operands := Operands.holds_ofList hlen
  exact {
    word_eq := rfl
    address_eq := rfl
    group_eq := hgroup
    slots := hold.slots_iff
    undefined := iff_of_false hop halloc
    text := fun _ decimal => Instruction.exists_render decimal hop hold.used hprint
    registers := by
      intro _ o ho r hr
      rw [hold.toList] at ho
      have hin : r.InFile := (hprint o ho).inFile r hr
      exact ⟨hin, hin.name?⟩ }

/-- Decoding reports a reserved word or yields a well-formed instruction, whatever the word and the
address are. -/
theorem decode_contract (word : Word) (address : Address) :
    match decode word address with
    | .ok i => i.WellFormed word address
    | .error e => ∃ reason, e = .reserved word address reason := by
  obtain ⟨group, hgroup⟩ := Group.exists_ofWord? word
  by_cases halloc : group = .unallocated
  · subst halloc
    have hdecode : decode word address =
        .ok ⟨word, address, .unallocated, .undefined, .ofList []⟩ := by
      rw [decode, hgroup]; rfl
    rw [hdecode]
    exact wellFormed_unallocated hgroup
  · cases hd : Decode.meaning group word address with
    | error reason =>
      have hdecode : decode word address = .error (.reserved word address reason) := by
        simp only [decode, hgroup, hd]
      rw [hdecode]
      exact ⟨reason, rfl⟩
    | ok d =>
      have hdecode : decode word address =
          .ok ⟨word, address, group, d.operation, .ofList d.operands⟩ := by
        simp only [decode, hgroup, hd]
      rw [hdecode]
      exact wellFormed_of_meaning hgroup halloc hd

end A64
