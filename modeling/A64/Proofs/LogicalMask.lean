import A64.Immediate.LogicalMask

/-!
# Bits of logical masks

Bit `i` of a mask is set if `i`, moved on by the rotation and taken modulo the size of the element,
falls into the run of ones (`LogicalMask.getLsbD_expand`). If the element is smaller than the
register, the two halves of the mask are the same; otherwise the ones are a single run around the
register.
-/

namespace A64

theorem getLsbD_spread {n width : Nat} (hn : 0 < n) (hwidth : width ≤ 64) (pattern : BitVec n)
    {i : Nat} (hi : i < width) : (spread pattern width).getLsbD i = pattern.getLsbD (i % n) := by
  have hcopies : i < n * ((width + n - 1) / n) := by
    have hmod := Nat.mod_lt (width + n - 1) hn
    have hdiv := Nat.div_add_mod (width + n - 1) n
    omega
  have h64 : i < 64 := by omega
  rw [spread, BitVec.getLsbD_setWidth, BitVec.getLsbD_setWidth, BitVec.getLsbD_replicate,
    decide_eq_true hi, decide_eq_true h64, decide_eq_true hcopies]
  rfl

theorem getLsbD_rotateRight_mod {n : Nat} (x : BitVec n) (r : Nat) {i : Nat} (hi : i < n) :
    (x.rotateRight r).getLsbD i = x.getLsbD ((i + r) % n) := by
  have hr : r % n < n := Nat.mod_lt r (by omega)
  rw [BitVec.getLsbD_rotateRight, ← Nat.add_mod_mod]
  generalize r % n = k at hr ⊢
  by_cases hwrap : i < n - k
  · rw [decide_eq_true hwrap, cond_true, Nat.mod_eq_of_lt (by omega), Nat.add_comm]
  · have hback : (i + k) % n = i - (n - k) := by
      rw [Nat.mod_eq_sub_mod (by omega), Nat.mod_eq_of_lt (by omega)]
      omega
    rw [decide_eq_false hwrap, cond_false, decide_eq_true hi, Bool.true_and, hback]

namespace LogicalMask

variable {n : BitVec 1} {imms immr : BitVec 6} {width i : Nat}

/-- Around a ring of `width` places, a rotation by `r` brings some place to place `k`. -/
theorem add_position {k r : Nat} (hk : k < width) :
    ((width - r % width + k) % width + r) % width = k := by
  have hr := Nat.div_add_mod r width
  have hlt := Nat.mod_lt r (show 0 < width by omega)
  have hsum : width - r % width + k + r = k + width * (1 + r / width) := by
    rw [Nat.mul_add]
    omega
  rw [Nat.mod_add_mod, hsum, Nat.add_mul_mod_self_left, Nat.mod_eq_of_lt hk]

def elementSize (n : BitVec 1) (imms : BitVec 6) : Nat := 1 <<< elementLog2 n imms

theorem elementSize_pos (n : BitVec 1) (imms : BitVec 6) : 0 < elementSize n imms := by
  rw [elementSize, Nat.one_shiftLeft]
  exact Nat.two_pow_pos _

/-- The fields of a mask: the run does not fill the element, and the element fits. -/
theorem fields_of_expand_ne_zero (h : expand n imms immr width ≠ 0) :
    ¬ (elementLog2 n imms = 0 ∨ imms.toNat % elementSize n imms = elementSize n imms - 1 ∨
      width < elementSize n imms) := by
  intro hfields
  exact h (if_pos hfields)

theorem last_lt_of_expand_ne_zero (h : expand n imms immr width ≠ 0) :
    imms.toNat % elementSize n imms + 1 < elementSize n imms ∧ elementSize n imms ≤ width := by
  have hlt := Nat.mod_lt imms.toNat (elementSize_pos n imms)
  have hfields := fields_of_expand_ne_zero h
  omega

/-- The bits of what the fields stand for, if the run does not fill the element and the element
fits. -/
theorem getLsbD_expand_of_fields (h : ¬ (elementLog2 n imms = 0 ∨
    imms.toNat % elementSize n imms = elementSize n imms - 1 ∨ width < elementSize n imms))
    (hwidth : width ≤ 64) (hi : i < width) :
    (expand n imms immr width).getLsbD i =
      decide ((i + immr.toNat) % elementSize n imms ≤ imms.toNat % elementSize n imms) := by
  have hpos := elementSize_pos n imms
  have hspread : expand n imms immr width =
      spread (((BitVec.allOnes (imms.toNat % elementSize n imms + 1)).setWidth
        (elementSize n imms)).rotateRight (immr.toNat % elementSize n imms)) width := if_neg h
  rw [hspread, getLsbD_spread hpos hwidth _ hi,
    getLsbD_rotateRight_mod _ _ (Nat.mod_lt i hpos), ← Nat.add_mod, BitVec.getLsbD_setWidth,
    BitVec.getLsbD_allOnes, decide_eq_true (Nat.mod_lt _ hpos), Bool.true_and]
  exact decide_eq_decide.2 Nat.lt_succ_iff

theorem getLsbD_expand (h : expand n imms immr width ≠ 0) (hwidth : width ≤ 64) (hi : i < width) :
    (expand n imms immr width).getLsbD i =
      decide ((i + immr.toNat) % elementSize n imms ≤ imms.toNat % elementSize n imms) :=
  getLsbD_expand_of_fields (fields_of_expand_ne_zero h) hwidth hi

def registerWidth (sf : Bool) : Nat := if sf then 64 else 32

def IsWhole (sf : Bool) (n : BitVec 1) (imms : BitVec 6) : Prop :=
  n = BitVec.ofBool sf ∧ (sf = true ∨ imms.toNat < 32)

theorem elementSize_of_isWhole {sf : Bool} (h : IsWhole sf n imms) :
    elementSize n imms = registerWidth sf := by
  have hall : ∀ (sf : Bool) (n : BitVec 1) (imms : BitVec 6), n = BitVec.ofBool sf →
      (sf = true ∨ imms.toNat < 32) → elementSize n imms = registerWidth sf := by decide +kernel
  exact hall sf n imms h.1 h.2

/-- Any other element that fits divides half of the register. -/
theorem elementSize_dvd_of_not_isWhole {sf : Bool} (h : ¬ IsWhole sf n imms)
    (hsize : elementSize n imms ≤ registerWidth sf) :
    elementSize n imms ∣ registerWidth sf / 2 := by
  have hall : ∀ (sf : Bool) (n : BitVec 1) (imms : BitVec 6),
      ¬ (n = BitVec.ofBool sf ∧ (sf = true ∨ imms.toNat < 32)) →
        elementSize n imms ≤ registerWidth sf →
          registerWidth sf / 2 % elementSize n imms = 0 := by decide +kernel
  exact Nat.dvd_of_mod_eq_zero (hall sf n imms h hsize)

end LogicalMask

end A64
