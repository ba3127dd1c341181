import A64.Proofs.Form
import A64.Proofs.Operands

/-!
# Strict results

A strict decoder has no result as soon as it uses an operation outside its domain: it subtracts a
larger number from a smaller one, asks for the highest set bit of zero, looks up an entry that a
table does not have, pushes an operand onto a full row, or drops or replaces one that is not there.
This module has these operations, on numbers and on rows, and says what they do inside their
domains. `outcome` is what a total decoder yields, seen as a strict result, and the strict decoders
of the modules beside this one are compared with it.
-/

namespace A64

namespace Strict

/-- The difference of two numbers, unless it is negative. -/
def minus (a b : Nat) : Option Nat := if b ≤ a then some (a - b) else none

theorem minus_of_le {a b : Nat} (h : b ≤ a) : minus a b = some (a - b) := if_pos h

/-- The place of the highest set bit, unless no bit is set. -/
def highestBit {n : Nat} (b : BitVec n) : Option Nat := if b = 0 then none else some b.toNat.log2

theorem highestBit_of_ne {n : Nat} {b : BitVec n} (h : b ≠ 0) :
    highestBit b = some b.toNat.log2 := if_neg h

/-- The conditions in the order of their encodings. -/
def conditions : List Condition :=
  [.eq, .ne, .cs, .cc, .mi, .pl, .vs, .vc, .hi, .ls, .ge, .lt, .gt, .le, .al, .nv]

def condition (b : BitVec 4) : Option Condition := conditions[b.toNat]?

@[simp] theorem condition_eq (b : BitVec 4) : condition b = some (.ofBits b) := by
  revert b
  decide

/-- An operation and the row of its operands, while they are put together. -/
structure Row where
  operation : Operation
  operands : Operands
  deriving DecidableEq

namespace Row

/-- Appends an operand to a row that is not full. -/
def push (r : Row) (o : Operand) : Option Row :=
  if r.operands.size < Operands.capacity then
    some { r with operands := r.operands.push (some o) }
  else none

/-- Takes an operand that is there out of the row. -/
def drop (r : Row) (i : Nat) : Option Row :=
  if i < r.operands.size then some { r with operands := r.operands.remove i } else none

/-- Puts an operand, which must not be empty, in the place of one that is there. -/
def replace (r : Row) (i : Nat) (o : Option Operand) : Option Row :=
  if i < r.operands.size ∧ o.isSome then some { r with operands := r.operands.set i o } else none

def named (r : Row) (op : Operation) : Row := { r with operation := op }

def build (op : Operation) (os : List Operand) : Option Row := os.foldlM push ⟨op, .empty⟩

def ofList (op : Operation) (os : List Operand) : Row := ⟨op, .ofList os⟩

variable {op : Operation} {os : List Operand}

@[simp] theorem named_ofList (op' : Operation) : (ofList op os).named op' = ofList op' os := rfl

theorem size_ofList (h : os.length ≤ Operands.capacity) :
    (ofList op os).operands.size = os.length :=
  (Operands.holds_ofList h).size

theorem push_ofList (h : os.length < Operands.capacity) (o : Operand) :
    (ofList op os).push o = some (ofList op (os ++ [o])) := by
  have happend : (Operands.ofList os).push (some o) = .ofList (os ++ [o]) := by
    simp [Operands.ofList]
  rw [push, size_ofList (Nat.le_of_lt h), if_pos h]
  simp [ofList, happend]

theorem foldlM_push_ofList (os os' : List Operand) (h : (os ++ os').length ≤ Operands.capacity) :
    os'.foldlM push (ofList op os) = some (ofList op (os ++ os')) := by
  induction os' generalizing os with
  | nil => simp
  | cons o os' ih =>
    have hroom : os.length < Operands.capacity := by simp at h; omega
    simpa [push_ofList hroom] using ih (os ++ [o]) (by simpa using h)

/-- Up to five operands fit into a row. -/
@[simp] theorem build_of_length_le (h : os.length ≤ 5) : build op os = some (ofList op os) :=
  foldlM_push_ofList [] os h

@[simp] theorem drop_ofList {i : Nat} (h : os.length ≤ 5) (hi : i < os.length) :
    (ofList op os).drop i = some (ofList op (os.eraseIdx i)) := by
  have hold := Operands.holds_ofList h
  have hlen : (os.eraseIdx i).length ≤ Operands.capacity :=
    Nat.le_trans (List.length_eraseIdx_le ..) h
  have hremove := (hold.remove hi).unique (Operands.holds_ofList hlen)
  rw [drop, size_ofList h, if_pos hi]
  simp [ofList, hremove]

@[simp] theorem replace_ofList {i : Nat} (h : os.length ≤ 5) (hi : i < os.length) (o : Operand) :
    (ofList op os).replace i (some o) = some (ofList op (os.set i o)) := by
  have hold := Operands.holds_ofList h
  have hlen : (os.set i o).length ≤ Operands.capacity := by rwa [List.length_set]
  have hset := (hold.set hi o).unique (Operands.holds_ofList hlen)
  rw [replace, size_ofList h, if_pos ⟨hi, rfl⟩]
  simp [ofList, hset]

end Row

/-- The result of a strict decoder, if it has one: a row, or the rule that the word breaks. -/
abbrev Leaf := Option (Except Reserved Row)

def rejected (reason : Reserved) : Leaf := some (.error reason)

def accepted (r : Option Row) : Leaf := r.map .ok

def built (op : Operation) (os : List Operand) : Leaf := accepted (Row.build op os)

/-- The strict form of a decoder that only pushes its operands. -/
def pushed : Decoding → Leaf
  | .ok d => built d.operation d.operands
  | .error reason => rejected reason

def outcome (d : Decoding) : Leaf := some (d.map fun d => .ofList d.operation d.operands)

@[simp] theorem outcome_reserved (reason : Reserved) :
    outcome (Decode.reserved reason) = rejected reason := rfl

@[simp] theorem outcome_ok (d : Decoded) :
    outcome (.ok d) = accepted (some (.ofList d.operation d.operands)) := rfl

@[simp] theorem outcome_done (op : Operation) (os : List Operand) :
    outcome (Decode.done op os) = accepted (some (.ofList op os)) := rfl

@[simp] theorem outcome_ite {c : Prop} [Decidable c] (a b : Decoding) :
    outcome (if c then a else b) = if c then outcome a else outcome b := apply_ite outcome c a b

@[simp] theorem accepted_ite {c : Prop} [Decidable c] (a b : Option Row) :
    accepted (if c then a else b) = if c then accepted a else accepted b :=
  apply_ite accepted c a b

/-- A decoder that only pushes its operands stays in the domain of pushing if they are at most
five. -/
theorem pushed_of_length_le {d : Decoding} (h : ∀ e, d = .ok e → e.operands.length ≤ 5) :
    pushed d = outcome d := by
  cases d with
  | error reason => rfl
  | ok e =>
    have hlen : e.operands.length ≤ 5 := h e rfl
    simp [pushed, built, hlen, outcome, accepted, Except.map]

theorem pushed_of_regular {kind : OperandKind} {d : Decoding} (h : Decode.Regular kind d) :
    pushed d = outcome d := by
  refine pushed_of_length_le fun e he => ?_
  subst he
  exact Decoded.Regular.fits h

theorem pushed_of_form {word : Word} {meaning : Address → Decoding}
    (h : ∃ f : Decode.Form, f.Valid word ∧ ∀ address, meaning address = f.meaning address)
    (address : Address) : pushed (meaning address) = outcome (meaning address) := by
  obtain ⟨f, hf, hmeaning⟩ := h
  exact pushed_of_length_le fun e he => (hf.ok ((hmeaning address).symm.trans he)).2.1

end Strict

end A64
