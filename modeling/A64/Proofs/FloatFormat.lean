import A64.Immediate.Vector
import Mathlib.Algebra.Order.Field.Rat

/-!
# Values of binary floating-point numbers

A binary format has a sign, a biased exponent and a fraction, and its finite numbers are rationals
(`FloatFormat.value?`). A normal number of single precision has the same value in double precision
if the bias of its exponent is exchanged and its fraction is extended by zeros, and that is how the
two expansions of an eight-bit immediate are related.
-/

namespace A64

/-- A binary format, by the sizes of its fields. -/
structure FloatFormat where
  exponentBits : Nat
  fractionBits : Nat

namespace FloatFormat

def single : FloatFormat := ⟨8, 23⟩

def double : FloatFormat := ⟨11, 52⟩

section

variable (f : FloatFormat) (bits : Nat)

def negative : Bool := bits.testBit (f.exponentBits + f.fractionBits)

def exponent : Nat := bits / 2 ^ f.fractionBits % 2 ^ f.exponentBits

def fraction : Nat := bits % 2 ^ f.fractionBits

def bias : Nat := 2 ^ (f.exponentBits - 1) - 1

/-- The significand as an integer: the fraction, with a leading one unless the exponent is zero. -/
def significand : Nat :=
  if f.exponent bits = 0 then f.fraction bits else 2 ^ f.fractionBits + f.fraction bits

/-- The value of a finite number. Numbers with the exponent zero have the scale of those with the
exponent one. -/
def value? : Option ℚ :=
  if f.exponent bits = 2 ^ f.exponentBits - 1 then none
  else
    some ((if f.negative bits then -1 else 1) * f.significand bits *
      2 ^ ((max 1 (f.exponent bits) : Int) - f.bias - f.fractionBits))

end

/-- A normal number of the wider format with the same fields, but for the bias of the exponent and
zeros below the fraction. -/
structure Widens (wide narrow : FloatFormat) (bits bits' : Nat) : Prop where
  negative : wide.negative bits = narrow.negative bits'
  normal : 0 < narrow.exponent bits' ∧ narrow.exponent bits' < 2 ^ narrow.exponentBits - 1
  exponent : wide.exponent bits + narrow.bias = narrow.exponent bits' + wide.bias
  finite : 0 < wide.exponent bits ∧ wide.exponent bits < 2 ^ wide.exponentBits - 1
  fraction : wide.fraction bits =
    narrow.fraction bits' * 2 ^ (wide.fractionBits - narrow.fractionBits)

theorem Widens.value?_eq {wide narrow : FloatFormat} {bits bits' : Nat}
    (h : Widens wide narrow bits bits') (hwider : narrow.fractionBits ≤ wide.fractionBits) :
    ∃ r, wide.value? bits = some r ∧ narrow.value? bits' = some r := by
  obtain ⟨hnegative, ⟨hpos', hlt'⟩, hexponent, ⟨hpos, hlt⟩, hfraction⟩ := h
  obtain ⟨k, hk⟩ := Nat.exists_eq_add_of_le hwider
  have hzeros : wide.fractionBits - narrow.fractionBits = k := by omega
  have hsignificand : wide.significand bits = narrow.significand bits' * 2 ^ k := by
    rw [significand, if_neg (Nat.ne_of_gt hpos), significand, if_neg (Nat.ne_of_gt hpos'),
      hfraction, hzeros, hk, Nat.pow_add, Nat.add_mul]
  have hscale : (max 1 (wide.exponent bits) : Int) - wide.bias - wide.fractionBits =
      (max 1 (narrow.exponent bits') : Int) - narrow.bias - narrow.fractionBits - k := by
    omega
  have hcancel (z : Int) : (2 : ℚ) ^ k * 2 ^ (z - k) = 2 ^ z := by
    rw [← zpow_natCast, ← zpow_add₀ two_ne_zero, add_sub_cancel]
  refine ⟨_, ?_, if_neg (Nat.ne_of_lt hlt')⟩
  rw [value?, if_neg (Nat.ne_of_lt hlt), hnegative, hsignificand, hscale, Nat.cast_mul,
    Nat.cast_pow, Nat.cast_ofNat, ← mul_assoc, mul_assoc _ _ ((2 : ℚ) ^ (_ : Int)), hcancel]

end FloatFormat

/-- The double-precision number that eight bits stand for is the single-precision one. -/
theorem VectorImmediate.widens_double (imm8 : BitVec 8) :
    FloatFormat.Widens .double .single (double imm8).toNat (single imm8).toNat := by
  have hnegative : ∀ imm8 : BitVec 8, FloatFormat.double.negative (double imm8).toNat =
      FloatFormat.single.negative (single imm8).toNat := by decide
  have hexponent : ∀ imm8 : BitVec 8,
      FloatFormat.double.exponent (double imm8).toNat =
        FloatFormat.single.exponent (single imm8).toNat + 896 := by decide
  have hnormal : ∀ imm8 : BitVec 8,
      0 < FloatFormat.single.exponent (single imm8).toNat ∧
        FloatFormat.single.exponent (single imm8).toNat < 255 := by decide
  have hfraction : ∀ imm8 : BitVec 8,
      FloatFormat.double.fraction (double imm8).toNat =
        FloatFormat.single.fraction (single imm8).toNat * 2 ^ 29 := by decide
  have he := hexponent imm8
  have hn := hnormal imm8
  refine ⟨hnegative imm8, hn, ?_, ?_, hfraction imm8⟩
  · rw [he]
    rfl
  · simp only [FloatFormat.double] at he ⊢
    omega

end A64
