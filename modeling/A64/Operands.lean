import A64.Operand

/-!
The operands of an instruction: five slots, of which the first ones are in use.

The slots in use come first and are counted. Dropping an operand moves the later ones down, and an
empty slot is never put between them.
-/

namespace A64

/-- A row of up to five operands. -/
structure Operands where
  slots : Vector (Option Operand) 5
  size : Nat
  deriving DecidableEq

namespace Operands

/-- The number of slots. -/
def capacity : Nat := 5

/-- No operands. -/
def empty : Operands := ⟨Vector.replicate 5 none, 0⟩

/-- Whether no slot is in use. -/
def isEmpty (os : Operands) : Bool := os.size == 0

/-- The slots in use. -/
def used (os : Operands) : List (Option Operand) := os.slots.toList.take os.size

/-- The operands in order. -/
def toList (os : Operands) : List Operand := os.used.filterMap id

/-- Appends an operand; a full row and an empty operand change nothing. -/
def push (os : Operands) (o : Option Operand) : Operands :=
  match o with
  | none => os
  | some _ =>
    if os.size < capacity then ⟨os.slots.setIfInBounds os.size o, os.size + 1⟩ else os

/-- The operand in slot `i`, if that is in use. -/
def get? (os : Operands) (i : Nat) : Option Operand :=
  if i < os.size then os.slots[i]?.join else none

/-- The operands without the one in slot `i`; the later ones move down. -/
def remove (os : Operands) (i : Nat) : Operands :=
  if i < os.size then
    ⟨Vector.ofFn fun j => if j.val < i then os.slots[j] else os.slots[j.val + 1]?.join,
      os.size - 1⟩
  else os

/-- Takes the operand out of slot `i`: the operand, if the slot is in use, and the row without
it. -/
def takeOut (os : Operands) (i : Nat) : Option Operand × Operands := (os.get? i, os.remove i)

/-- Puts an operand into slot `i`, if that is in use; an empty operand changes nothing. -/
def set (os : Operands) (i : Nat) (o : Option Operand) : Operands :=
  match o with
  | none => os
  | some _ => if i < os.size then { os with slots := os.slots.setIfInBounds i o } else os

/-- The row of the given operands. -/
def ofList (l : List Operand) : Operands := l.foldl (fun os o => os.push (some o)) empty

end Operands

end A64
