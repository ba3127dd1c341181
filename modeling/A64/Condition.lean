/-!
Condition codes. The low bit of the encoding negates the condition.
-/

namespace A64

/-- A condition on the flags, in order of its encoding. -/
inductive Condition where
  | eq | ne | cs | cc | mi | pl | vs | vc | hi | ls | ge | lt | gt | le | al | nv
  deriving DecidableEq

namespace Condition

/-- The condition that a four-bit field selects. -/
def ofBits (b : BitVec 4) : Condition :=
  match b with
  | 0 => eq | 1 => ne | 2 => cs | 3 => cc | 4 => mi | 5 => pl | 6 => vs | 7 => vc
  | 8 => hi | 9 => ls | 10 => ge | 11 => lt | 12 => gt | 13 => le | 14 => al | _ => nv

/-- The encoding of a condition. -/
def bits : Condition → BitVec 4
  | eq => 0 | ne => 1 | cs => 2 | cc => 3 | mi => 4 | pl => 5 | vs => 6 | vc => 7
  | hi => 8 | ls => 9 | ge => 10 | lt => 11 | gt => 12 | le => 13 | al => 14 | nv => 15

@[simp] theorem ofBits_bits (c : Condition) : ofBits c.bits = c := by cases c <;> rfl

@[simp] theorem bits_ofBits (b : BitVec 4) : (ofBits b).bits = b := by
  revert b; decide

/-- The negated condition; the two codes that always hold change places. -/
def invert (c : Condition) : Condition := ofBits (c.bits ^^^ 1)

/-- Whether the condition holds whatever the flags are. -/
def isAlways : Condition → Bool
  | al | nv => true
  | _ => false

/-- The printed name; carry set and clear print as unsigned comparisons. -/
def name : Condition → String
  | eq => "eq" | ne => "ne" | cs => "hs" | cc => "lo" | mi => "mi" | pl => "pl"
  | vs => "vs" | vc => "vc" | hi => "hi" | ls => "ls" | ge => "ge" | lt => "lt"
  | gt => "gt" | le => "le" | al => "al" | nv => "nv"

/-- The symbol under which reports record the condition. -/
def symbol : Condition → String
  | eq => "Eq" | ne => "Ne" | cs => "Cs" | cc => "Cc" | mi => "Mi" | pl => "Pl"
  | vs => "Vs" | vc => "Vc" | hi => "Hi" | ls => "Ls" | ge => "Ge" | lt => "Lt"
  | gt => "Gt" | le => "Le" | al => "Al" | nv => "Nv"

end Condition

end A64
