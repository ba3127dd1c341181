import A64.Proofs.Operands

/-!
# Rows of operands under edits

A row is edited by pushing an operand, taking one out and putting one in the place of another. The
same edits of a plain list (`Edit.onList`) say what they are meant to do. Starting with no operands,
a script of edits that never pushes an operand onto a full row leaves a row that behaves as the list
that the script leaves (`Edit.BehavesAs`), and hands back the same operands on the way.
-/

namespace A64.Operands

variable {os : Operands} {l : List Operand} {i : Nat}

inductive Edit where
  | push (o : Option Operand)
  | takeOut (i : Nat)
  | set (i : Nat) (o : Option Operand)
  deriving DecidableEq

theorem Holds.takeOut_of_le (h : os.Holds l) (hi : l.length ≤ i) : os.takeOut i = (none, os) := by
  have hsize : ¬ i < os.size := by rw [h.size]; omega
  rw [Operands.takeOut, Operands.get?, Operands.remove, if_neg hsize, if_neg hsize]

theorem Holds.set_of_le (h : os.Holds l) (hi : l.length ≤ i) (o : Option Operand) :
    os.set i o = os := by
  have hsize : ¬ i < os.size := by rw [h.size]; omega
  cases o with
  | none => rfl
  | some o => exact if_neg hsize

namespace Edit

/-- What an edit hands back, and the row that it leaves. -/
def onRow : Edit → Operands → Option Operand × Operands
  | push o, os => (none, os.push o)
  | takeOut i, os => os.takeOut i
  | set i o, os => (none, os.set i o)

/-- What the same edit of a list hands back, and the list that it leaves. -/
def onList : Edit → List Operand → Option Operand × List Operand
  | push none, l => (none, l)
  | push (some o), l => (none, l ++ [o])
  | takeOut i, l => if i < l.length then (l[i]?, l.eraseIdx i) else (none, l)
  | set _ none, l => (none, l)
  | set i (some o), l => if i < l.length then (none, l.set i o) else (none, l)

def Fits : Edit → List Operand → Prop
  | push (some _), l => l.length < 5
  | push none, _ | takeOut _, _ | set _ _, _ => True

instance : (e : Edit) → (l : List Operand) → Decidable (e.Fits l)
  | push (some _), l => inferInstanceAs (Decidable (l.length < 5))
  | push none, _ | takeOut _, _ | set _ _, _ => .isTrue trivial

theorem onRow_of_holds (h : os.Holds l) (e : Edit) (hfits : e.Fits l) :
    (e.onRow os).1 = (e.onList l).1 ∧ (e.onRow os).2.Holds (e.onList l).2 := by
  cases e with
  | push o =>
    cases o with
    | none => exact ⟨rfl, h⟩
    | some o => exact ⟨rfl, h.push o hfits⟩
  | takeOut i =>
    by_cases hi : i < l.length
    · simp only [onRow, onList, if_pos hi, Operands.takeOut]
      exact ⟨h.get? i, h.remove hi⟩
    · simp only [onRow, onList, if_neg hi, h.takeOut_of_le (Nat.le_of_not_lt hi)]
      exact ⟨trivial, h⟩
  | set i o =>
    cases o with
    | none => exact ⟨rfl, h⟩
    | some o =>
      by_cases hi : i < l.length
      · simp only [onRow, onList, if_pos hi]
        exact ⟨trivial, h.set hi o⟩
      · simp only [onRow, onList, if_neg hi, h.set_of_le (Nat.le_of_not_lt hi)]
        exact ⟨trivial, h⟩

/-- The edits of a script one after the other, on rows or on lists: what they hand back, and what
the last one leaves. -/
def script {State : Type} (step : Edit → State → Option Operand × State) :
    List Edit → State → List (Option Operand) × State
  | [], s => ([], s)
  | e :: edits, s =>
    let rest := script step edits (step e s).2
    ((step e s).1 :: rest.1, rest.2)

def Fitting : List Edit → List Operand → Prop
  | [], _ => True
  | e :: edits, l => e.Fits l ∧ Fitting edits (e.onList l).2

instance : (edits : List Edit) → (l : List Operand) → Decidable (Fitting edits l)
  | [], _ => .isTrue trivial
  | e :: edits, l =>
    have := instDecidableFitting edits (e.onList l).2
    inferInstanceAs (Decidable (e.Fits l ∧ Fitting edits (e.onList l).2))

theorem script_of_holds (h : os.Holds l) {edits : List Edit} (hfits : Fitting edits l) :
    (script onRow edits os).1 = (script onList edits l).1 ∧
      (script onRow edits os).2.Holds (script onList edits l).2 := by
  induction edits generalizing os l with
  | nil => exact ⟨rfl, h⟩
  | cons e edits ih =>
    obtain ⟨hback, hleft⟩ := onRow_of_holds h e hfits.1
    obtain ⟨hbacks, hlast⟩ := ih hleft hfits.2
    exact ⟨by simp only [script, hback, hbacks], hlast⟩

/-- A row shows the operands of a list and nothing else, and every operation on it does what it
does to the list. -/
structure BehavesAs (os : Operands) (l : List Operand) : Prop where
  length_le : l.length ≤ 5
  slots : os.slots.toList = l.map some ++ List.replicate (5 - l.length) none
  size : os.size = l.length
  get? : ∀ i, os.get? i = l[i]?
  push_none : os.push none = os
  push : ∀ o, l.length < 5 → (os.push (some o)).Holds (l ++ [o])
  takeOut : ∀ i (hi : i < l.length),
    (os.takeOut i).1 = some l[i] ∧ (os.takeOut i).2.Holds (l.eraseIdx i)
  takeOut_of_le : ∀ i, l.length ≤ i → os.takeOut i = (none, os)
  set_none : ∀ i, os.set i none = os
  set : ∀ i o, i < l.length → (os.set i (some o)).Holds (l.set i o)
  set_of_le : ∀ i o, l.length ≤ i → os.set i o = os

theorem behavesAs_of_holds (h : os.Holds l) : BehavesAs os l where
  length_le := h.length_le
  slots := h.slots
  size := h.size
  get? := h.get?
  push_none := rfl
  push o ho := h.push o ho
  takeOut i hi := ⟨(h.get? i).trans (List.getElem?_eq_getElem hi), h.remove hi⟩
  takeOut_of_le _ := h.takeOut_of_le
  set_none _ := rfl
  set _ o hi := h.set hi o
  set_of_le _ o hi := h.set_of_le hi o

/-- From the empty row on, whatever edits are made, the row behaves as the list under the same
edits, and both hand back the same operands. -/
theorem script_behavesAs (edits : List Edit) (hfits : Fitting edits []) :
    (script onRow edits empty).1 = (script onList edits []).1 ∧
      BehavesAs (script onRow edits empty).2 (script onList edits []).2 := by
  obtain ⟨hback, hleft⟩ := script_of_holds holds_empty hfits
  exact ⟨hback, behavesAs_of_holds hleft⟩

/-- A full row: two operands are taken out, one of them from the middle, one is replaced and one is
pushed again. -/
theorem fullRow_behavesAs :
    let edits : List Edit :=
      [push (some (.label 0)), push (some (.label 4)), push none, push (some (.label 8)),
        push (some (.label 12)), push (some (.label 16)), takeOut 1, takeOut 9, set 3 none,
        set 3 (some (.label 20)), takeOut 0, push (some (.label 24))]
    Fitting edits [] ∧ (script onRow edits empty).1[6]? = some (some (.label 4)) ∧
      BehavesAs (script onRow edits empty).2 [.label 8, .label 12, .label 20, .label 24] := by
  intro edits
  have hfits : Fitting edits [] := by decide
  obtain ⟨hback, hleft⟩ := script_behavesAs edits hfits
  exact ⟨hfits, by rw [hback]; decide, hleft⟩

end Edit

end A64.Operands
