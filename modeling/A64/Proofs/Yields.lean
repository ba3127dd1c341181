import A64.Decode.Float

/-!
# What a decoder yields

`Decode.Yields P`: if a word has a meaning, the meaning satisfies `P`; a reserved word satisfies it
trivially. Decoders branch by `if` and end in `done` or `reserved`, and the `simp` lemmas follow
these.
-/

namespace A64

namespace Decode

variable {P Q : Decoded → Prop} {r : Decoding}

/-- What the decoder yields, if anything, satisfies the predicate. -/
def Yields (P : Decoded → Prop) : Decoding → Prop
  | .ok d => P d
  | .error _ => True

@[simp] theorem yields_ok (d : Decoded) : Yields P (.ok d) ↔ P d := Iff.rfl

@[simp] theorem yields_reserved (reason : Reserved) : Yields P (reserved reason) := trivial

@[simp] theorem yields_done (op : Operation) (os : List Operand) :
    Yields P (done op os) ↔ P ⟨op, os⟩ := Iff.rfl

@[simp] theorem yields_ite {c : Prop} [Decidable c] (a b : Decoding) :
    Yields P (if c then a else b) ↔ (c → Yields P a) ∧ (¬c → Yields P b) := by
  split <;> simp [*]

theorem yields_withPrecision {word : Word} {decode : ElementSize → Decoding}
    (h : ∀ e, Yields P (decode e)) : Yields P (withPrecision word decode) := by
  unfold withPrecision
  repeat' split
  · trivial
  · exact h _
  · trivial

theorem Yields.mono (h : Yields P r) (hpq : ∀ d, P d → Q d) : Yields Q r := by
  cases r with
  | error reason => trivial
  | ok d => exact hpq d h

theorem yields_iff : Yields P r ↔ ∀ d, r = .ok d → P d := by
  constructor
  · rintro h d rfl
    exact h
  · intro h
    cases r with
    | error reason => trivial
    | ok d => exact h d rfl

end Decode

end A64
