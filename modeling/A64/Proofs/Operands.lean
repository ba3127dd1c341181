import A64.Operands

/-!
# Rows of operands as lists

`Operands.Holds os l`: the slots of `os` are the operands of `l` followed by empty slots, and the
count is the length of `l`. Pushing an operand onto a row that is not full appends it to the list,
so the row built from a list of at most five operands holds that list, and what is read off the row
(`used`, `toList`, single slots) is read off the list. Removing and replacing an operand in use
removes and replaces it in the list.
-/

namespace A64.Operands

variable {os : Operands} {l : List Operand}

/-- The row holds exactly the operands of `l`, in order and from the first slot on. -/
structure Holds (os : Operands) (l : List Operand) : Prop where
  slots : os.slots.toList = l.map some ++ List.replicate (capacity - l.length) none
  size : os.size = l.length

theorem holds_empty : empty.Holds [] := ⟨rfl, rfl⟩

namespace Holds

theorem length_le (h : os.Holds l) : l.length ≤ capacity := by
  have hl := congrArg List.length h.slots
  simp only [Vector.length_toList, List.length_append, List.length_map, List.length_replicate,
    capacity] at hl
  show l.length ≤ 5
  omega

theorem push (h : os.Holds l) (o : Operand) (hl : l.length < capacity) :
    (os.push (some o)).Holds (l ++ [o]) := by
  have hr : capacity - l.length = capacity - (l ++ [o]).length + 1 := by
    simp only [List.length_append, List.length_singleton]; omega
  have hpush : os.push (some o) = ⟨os.slots.setIfInBounds os.size (some o), os.size + 1⟩ := by
    simp [Operands.push, h.size, hl]
  rw [hpush]
  refine ⟨?_, by simp [h.size]⟩
  rw [Vector.toList_setIfInBounds, h.slots, h.size, List.set_append_right _ _ (by simp), hr,
    List.replicate_succ]
  simp

theorem unique {os' : Operands} (h : os.Holds l) (h' : os'.Holds l) : os = os' := by
  obtain ⟨slots, size⟩ := os
  obtain ⟨slots', size'⟩ := os'
  have hslots : slots = slots' := Vector.toList_inj.1 (h.slots.trans h'.slots.symm)
  have hsize : size = size' := h.size.trans h'.size.symm
  rw [hslots, hsize]

theorem used (h : os.Holds l) : os.used = l.map some := by
  rw [Operands.used, h.slots, h.size]
  simp

theorem toList (h : os.Holds l) : os.toList = l := by
  rw [Operands.toList, h.used]
  simp

theorem slot (h : os.Holds l) (i : Nat) (hi : i < 5) : os.slots[i] = l[i]? := by
  have hs : os.slots.toList[i]? = some os.slots[i] := by simp [hi]
  rw [h.slots, List.getElem?_append] at hs
  split at hs <;> rename_i hlt
  · rw [List.length_map] at hlt
    simp only [List.getElem?_map, List.getElem?_eq_getElem hlt, Option.map_some,
      Option.some.injEq] at hs
    rw [← hs, List.getElem?_eq_getElem hlt]
  · rw [List.length_map] at hlt
    rw [List.getElem?_replicate_of_lt (by simp [capacity]; omega), Option.some.injEq] at hs
    rw [← hs, List.getElem?_eq_none (by omega)]

theorem get? (h : os.Holds l) (i : Nat) : os.get? i = l[i]? := by
  rw [Operands.get?, h.size]
  split <;> rename_i hi
  · have hc := h.length_le
    have h5 : i < 5 := Nat.lt_of_lt_of_le hi hc
    rw [Vector.getElem?_eq_getElem h5, Option.join_some, h.slot i h5]
  · rw [List.getElem?_eq_none (by omega)]

/-- The slots that hold an operand are the first ones, as many as are counted. -/
theorem isSome_slot (h : os.Holds l) (i : Nat) (hi : i < 5) :
    os.slots[i].isSome = true ↔ i < os.size := by
  rw [h.slot i hi, h.size]
  simp

end Holds

theorem Holds.foldl_push (h : os.Holds l) (l' : List Operand) (hl : (l ++ l').length ≤ capacity) :
    (l'.foldl (fun os o => os.push (some o)) os).Holds (l ++ l') := by
  induction l' generalizing os l with
  | nil => simpa using h
  | cons o l' ih =>
    have hpush := h.push o (by simp at hl; omega)
    simpa using ih hpush (by simpa using hl)

theorem holds_ofList (hl : l.length ≤ capacity) : (ofList l).Holds l :=
  holds_empty.foldl_push l hl

theorem holds_of_slot (hl : l.length ≤ capacity) (hsize : os.size = l.length)
    (hslot : ∀ i (hi : i < 5), os.slots[i] = l[i]?) : os.Holds l := by
  have hcap : capacity = 5 := rfl
  refine ⟨List.ext_getElem (by simp; omega) fun i hi hi' => ?_, hsize⟩
  rw [Vector.length_toList] at hi
  rw [Vector.getElem_toList, hslot i hi, List.getElem_append]
  split <;> rename_i hlt
  · rw [List.length_map] at hlt
    rw [List.getElem_map, List.getElem?_eq_getElem hlt]
  · rw [List.length_map] at hlt
    rw [List.getElem_replicate, List.getElem?_eq_none (by omega)]

theorem Holds.remove (h : os.Holds l) {i : Nat} (hi : i < l.length) :
    (os.remove i).Holds (l.eraseIdx i) := by
  have hc := h.length_le
  have hlen := List.length_eraseIdx_of_lt hi
  have hremove : os.remove i = ⟨Vector.ofFn fun j => if j.val < i then os.slots[j] else
      os.slots[j.val + 1]?.join, os.size - 1⟩ := by
    simp [Operands.remove, h.size, hi]
  rw [hremove]
  refine holds_of_slot (by omega) (by rw [hlen, h.size]) fun j hj => ?_
  simp only [Vector.getElem_ofFn, List.getElem?_eraseIdx]
  split
  · exact h.slot j hj
  · by_cases hlast : j + 1 < 5
    · rw [Vector.getElem?_eq_getElem hlast, Option.join_some, h.slot (j + 1) hlast]
    · -- the operand after the last slot is none, in the row and in the list
      have hcap : capacity = 5 := rfl
      rw [Vector.getElem?_eq_none (Nat.le_of_not_lt hlast), List.getElem?_eq_none (by omega),
        Option.join_none]

theorem Holds.set (h : os.Holds l) {i : Nat} (hi : i < l.length) (o : Operand) :
    (os.set i (some o)).Holds (l.set i o) := by
  have hset : os.set i (some o) = { os with slots := os.slots.setIfInBounds i (some o) } := by
    simp [Operands.set, h.size, hi]
  rw [hset]
  refine ⟨?_, by simp [h.size]⟩
  rw [Vector.toList_setIfInBounds, h.slots, List.set_append_left _ _ (by simpa using hi),
    List.length_set, List.map_set]

end A64.Operands
