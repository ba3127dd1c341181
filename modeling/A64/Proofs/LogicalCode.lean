import A64.Proofs.DecodeContract
import A64.Proofs.LogicalMask
import Mathlib.Algebra.Group.Nat.Defs

/-!
# The code of logical masks

The fields of a logical immediate stand for a mask unless they are reserved (`Reserved`). The masks
are the values that repeat an element of two to sixty-four bits, which is a rotated run of ones
(`IsRepeatedRun`), and each of them has one code, up to full turns of the rotation
(`IsLogicalCode`). So the zero that stands for reserved fields is never the value of a code.

That a mask tells its code comes down to bits at positions: a bit is set if its position, moved on
by the rotation, falls into the run modulo the size of the element. Such a pattern ends a run once
in each element and nowhere else, so it is not a pattern of a smaller element.
-/

namespace A64.LogicalMask

variable {n n' : BitVec 1} {imms imms' immr immr' : BitVec 6} {sf : Bool}
  {width e e' s s' r r' i k : Nat}

def IsHighestBit {w : Nat} (b : BitVec w) (k : Nat) : Prop :=
  b.getLsbD k = true ∧ ∀ j, k < j → b.getLsbD j = false

/-- The fields do not stand for a mask of the given width. The highest set bit of the size bit and
the inverted `imms` is missing or the lowest one, so there is no element; or `imms` has ones in all
the places that count within the element; or the element does not fit. -/
def Reserved (n : BitVec 1) (imms : BitVec 6) (width : Nat) : Prop :=
  n ++ ~~~imms = 0 ∨ ∃ k, IsHighestBit (n ++ ~~~imms) k ∧
    (k = 0 ∨ imms.toNat % 2 ^ k = 2 ^ k - 1 ∨ width < 2 ^ k)

theorem elementSize_eq (n : BitVec 1) (imms : BitVec 6) :
    elementSize n imms = 2 ^ elementLog2 n imms := Nat.one_shiftLeft _

theorem isHighestBit_iff {w : Nat} {b : BitVec w} (hb : b ≠ 0) :
    IsHighestBit b k ↔ b.toNat.log2 = k := by
  have hne : b.toNat ≠ 0 := fun h => hb (BitVec.eq_of_toNat_eq (by simpa using h))
  constructor
  · rintro ⟨hset, hclear⟩
    refine (Nat.log2_eq_iff hne).2 ⟨Nat.ge_two_pow_of_testBit (b.testBit_toNat.trans hset), ?_⟩
    exact Nat.lt_pow_two_of_testBit _ fun j hj => b.testBit_toNat.trans (hclear j (by omega))
  · rintro rfl
    refine ⟨b.testBit_toNat.symm.trans (Nat.testBit_log2 hne), fun j hj => ?_⟩
    rw [← b.testBit_toNat]
    have hlt := (Nat.log2_lt hne).1 (Nat.lt_succ_of_le (Nat.le_refl _))
    exact Nat.testBit_lt_two_pow (Nat.lt_of_lt_of_le hlt (Nat.pow_le_pow_right (by decide) hj))

theorem isHighestBit_elementLog2 (h : elementLog2 n imms ≠ 0) :
    IsHighestBit (n ++ ~~~imms) k ↔ k = elementLog2 n imms := by
  have hne : n ++ ~~~imms ≠ 0 := by
    intro hzero
    exact h (by rw [elementLog2, hzero]; rfl)
  rw [isHighestBit_iff hne, eq_comm]
  rfl

theorem reserved_iff : Reserved n imms width ↔
    elementLog2 n imms = 0 ∨ imms.toNat % elementSize n imms = elementSize n imms - 1 ∨
      width < elementSize n imms := by
  rw [elementSize_eq]
  by_cases hzero : n ++ ~~~imms = 0
  · have hlog : elementLog2 n imms = 0 := by rw [elementLog2, hzero]; rfl
    exact iff_of_true (.inl hzero) (.inl hlog)
  · constructor
    · rintro (h | ⟨k, hk, h⟩)
      · exact absurd h hzero
      · obtain rfl := (isHighestBit_iff hzero).1 hk
        exact h
    · exact fun h => .inr ⟨_, (isHighestBit_iff hzero).2 rfl, h⟩

/-- Fields that are not reserved stand for a mask that has a one where the run begins. -/
theorem expand_eq_zero_iff (hwidth : width ≤ 64) :
    expand n imms immr width = 0 ↔ Reserved n imms width := by
  rw [reserved_iff]
  refine ⟨fun hzero => Classical.byContradiction fun hfields => ?_, fun hfields => if_pos hfields⟩
  have hpos := elementSize_pos n imms
  have hstart := add_position (r := immr.toNat) hpos
  have hlt := Nat.mod_lt (elementSize n imms - immr.toNat % elementSize n imms + 0) hpos
  generalize (elementSize n imms - immr.toNat % elementSize n imms + 0) % elementSize n imms = i
    at hstart hlt
  have hset : (expand n imms immr width).getLsbD i = _ :=
    getLsbD_expand_of_fields hfields hwidth (by omega)
  rw [hzero, hstart] at hset
  simp at hset

/-- Place `i` falls into a run of `s + 1` places, rotated by `r` in elements of `e` places. -/
def InRun (e s r i : Nat) : Prop := (i + r) % e ≤ s

theorem add_mod_place (j : Nat) : (i + j + r) % e = ((i + r) % e + j) % e := by
  rw [Nat.mod_add_mod, Nat.add_right_comm]

theorem inRun_add_size : InRun e s r (i + e) ↔ InRun e s r i := by
  rw [InRun, add_mod_place, Nat.add_mod_right, Nat.mod_mod]
  rfl

theorem inRun_mod (h : e ∣ width) : InRun e s r (i % width) ↔ InRun e s r i := by
  have hmod : (i % width + r) % e = (i + r) % e := by
    rw [Nat.add_mod, Nat.mod_mod_of_dvd i h, ← Nat.add_mod]
  rw [InRun, hmod]
  rfl

theorem inRun_last (hs : s + 1 < e) : ∃ i, InRun e s r i ∧ ¬ InRun e s r (i + 1) ∧
    (i + r) % e = s := by
  have hlast := add_position (r := r) (show s < e by omega)
  refine ⟨_, Nat.le_of_eq hlast, ?_, hlast⟩
  rw [InRun, add_mod_place, hlast, Nat.mod_eq_of_lt hs]
  omega

/-- Patterns of runs that agree have no smaller element on one side: one run ends in an element, and
a smaller element would make it end twice. -/
theorem size_le_of_inRun (he : 0 < e) (hs' : s' + 1 < e')
    (h : ∀ i, InRun e s r i ↔ InRun e' s' r' i) : e' ≤ e := by
  refine Nat.le_of_not_lt fun hlt => ?_
  obtain ⟨i, hin, hout, hi⟩ := inRun_last (r := r') hs'
  -- A smaller element repeats the end of the run `e` places on, inside the larger element.
  have hin' : InRun e' s' r' (i + e) := (h _).1 (inRun_add_size.2 ((h i).2 hin))
  have hout' : ¬ InRun e' s' r' (i + (e + 1)) := by
    rw [Nat.add_comm e 1, ← Nat.add_assoc, ← h, inRun_add_size, h]
    exact hout
  rw [InRun, add_mod_place, hi] at hin' hout'
  have hwrap : e' ≤ s' + e := by
    refine Nat.le_of_not_lt fun hshort => ?_
    rw [Nat.mod_eq_of_lt hshort] at hin'
    omega
  rw [Nat.mod_eq_sub_mod (by omega), Nat.mod_eq_of_lt (by omega)] at hout'
  omega

theorem eq_of_inRun (hs : s + 1 < e) (hs' : s' + 1 < e')
    (h : ∀ i, InRun e s r i ↔ InRun e' s' r' i) : e = e' ∧ s = s' ∧ r % e = r' % e := by
  obtain rfl : e = e' := Nat.le_antisymm (size_le_of_inRun (by omega) hs fun i => (h i).symm)
    (size_le_of_inRun (by omega) hs' h)
  -- The first place of a run is the one that follows a place outside.
  have hfirst := add_position (r := r) (show 0 < e by omega)
  generalize (e - r % e + 0) % e = i at hfirst
  have hin : InRun e s' r' i := (h i).1 (Nat.le_trans (Nat.le_of_eq hfirst) (Nat.zero_le s))
  have hbefore : ¬ InRun e s' r' (i + (e - 1)) := by
    rw [← h, InRun, add_mod_place, hfirst, Nat.zero_add, Nat.mod_eq_of_lt (by omega)]
    omega
  have hzero : (i + r') % e = 0 := by
    refine Classical.byContradiction fun hpos => ?_
    have hlt := Nat.mod_lt (i + r') (show 0 < e by omega)
    rw [InRun] at hin
    rw [InRun, add_mod_place, Nat.mod_eq_sub_mod (by omega), Nat.mod_eq_of_lt (by omega)] at hbefore
    omega
  have hrun (j : Nat) (hj : j < e) : j ≤ s ↔ j ≤ s' := by
    have hplace := h (i + j)
    rwa [InRun, InRun, add_mod_place, add_mod_place, hfirst, hzero, Nat.zero_add,
      Nat.mod_eq_of_lt hj] at hplace
  have hle := (hrun s (by omega)).1 (Nat.le_refl s)
  have hge := (hrun s' (by omega)).2 (Nat.le_refl s')
  refine ⟨rfl, Nat.le_antisymm hle hge, ?_⟩
  obtain ⟨a, ha⟩ := Nat.dvd_of_mod_eq_zero hfirst
  obtain ⟨b, hb⟩ := Nat.dvd_of_mod_eq_zero hzero
  have hsum : r + e * b = r' + e * a := by omega
  rw [← Nat.add_mul_mod_self_left r e b, hsum, Nat.add_mul_mod_self_left]

def sizes : List Nat := [2, 4, 8, 16, 32, 64]

def sizeBit (e : Nat) : BitVec 1 := if e = 64 then 1 else 0

/-- The field `imms` for elements of `e` bits with a run of `s + 1` ones: below a zero, which marks
the size, it counts the ones. -/
def runField (e s : Nat) : BitVec 6 := BitVec.ofNat 6 ((128 - 2 * e) % 64 + s)

theorem elementSize_fields (he : e ∈ sizes) (hs : s + 1 < e) :
    elementLog2 (sizeBit e) (runField e s) ≠ 0 ∧ elementSize (sizeBit e) (runField e s) = e ∧
      (runField e s).toNat % e = s := by
  have hall : ∀ e ∈ sizes, ∀ s < e - 1, elementLog2 (sizeBit e) (runField e s) ≠ 0 ∧
      elementSize (sizeBit e) (runField e s) = e ∧ (runField e s).toNat % e = s := by
    decide +kernel
  exact hall e he s (by omega)

theorem eq_fields (h : elementLog2 n imms ≠ 0) :
    n = sizeBit (elementSize n imms) ∧
      imms = runField (elementSize n imms) (imms.toNat % elementSize n imms) := by
  have hall : ∀ (n : BitVec 1) (imms : BitVec 6), elementLog2 n imms ≠ 0 →
      n = sizeBit (elementSize n imms) ∧
        imms = runField (elementSize n imms) (imms.toNat % elementSize n imms) := by decide +kernel
  exact hall n imms h

theorem elementSize_mem (h : elementLog2 n imms ≠ 0) : elementSize n imms ∈ sizes := by
  have hall : ∀ (n : BitVec 1) (imms : BitVec 6), elementLog2 n imms ≠ 0 →
      elementSize n imms ∈ sizes := by decide +kernel
  exact hall n imms h

theorem dvd_registerWidth (he : e ∈ sizes) (hle : e ≤ registerWidth sf) : e ∣ registerWidth sf := by
  have hall : ∀ sf, ∀ e ∈ sizes, e ≤ registerWidth sf → registerWidth sf % e = 0 := by decide
  exact Nat.dvd_of_mod_eq_zero (hall sf e he hle)

theorem registerWidth_le (sf : Bool) : registerWidth sf ≤ 64 := by cases sf <;> decide

theorem inRun_of_expand (h : expand n imms immr (registerWidth sf) ≠ 0) :
    elementLog2 n imms ≠ 0 ∧ elementSize n imms ∣ registerWidth sf ∧
      ∀ i < registerWidth sf, (expand n imms immr (registerWidth sf)).getLsbD i = true ↔
        InRun (elementSize n imms) (imms.toNat % elementSize n imms) immr.toNat i := by
  have hlog : elementLog2 n imms ≠ 0 := fun hzero => fields_of_expand_ne_zero h (.inl hzero)
  refine ⟨hlog, dvd_registerWidth (elementSize_mem hlog) (last_lt_of_expand_ne_zero h).2, ?_⟩
  intro i hi
  rw [getLsbD_expand h (registerWidth_le sf) hi, decide_eq_true_iff]
  rfl

theorem getLsbD_expand_of_ge (hi : width ≤ i) : (expand n imms immr width).getLsbD i = false := by
  simp only [expand]
  split
  · simp
  · simp [spread, Nat.not_lt.2 hi]

theorem expand_congr (h : immr'.toNat % elementSize n imms = immr.toNat % elementSize n imms) :
    expand n imms immr' width = expand n imms immr width := by
  have hsize : 1 <<< elementLog2 n imms = elementSize n imms := rfl
  simp only [expand, hsize, h]

theorem expand_eq_iff (h : expand n imms immr (registerWidth sf) ≠ 0) :
    expand n' imms' immr' (registerWidth sf) = expand n imms immr (registerWidth sf) ↔
      n' = n ∧ imms' = imms ∧
        immr'.toNat % elementSize n imms = immr.toNat % elementSize n imms := by
  refine ⟨fun heq => ?_, ?_⟩
  · have h' : expand n' imms' immr' (registerWidth sf) ≠ 0 := heq ▸ h
    obtain ⟨hlog, hdvd, hbits⟩ := inRun_of_expand h
    obtain ⟨hlog', hdvd', hbits'⟩ := inRun_of_expand h'
    have hrun : ∀ i, InRun (elementSize n' imms') (imms'.toNat % elementSize n' imms') immr'.toNat i
        ↔ InRun (elementSize n imms) (imms.toNat % elementSize n imms) immr.toNat i := by
      intro i
      have hlt : i % registerWidth sf < registerWidth sf :=
        Nat.mod_lt i (by cases sf <;> decide)
      rw [← inRun_mod hdvd', ← inRun_mod hdvd, ← hbits' _ hlt, ← hbits _ hlt, heq]
    obtain ⟨hsize, hones, hturn⟩ := eq_of_inRun (last_lt_of_expand_ne_zero h').1
      (last_lt_of_expand_ne_zero h).1 hrun
    obtain ⟨hn, himms⟩ := eq_fields hlog
    obtain ⟨hn', himms'⟩ := eq_fields hlog'
    rw [hsize] at hn' hones hturn
    rw [hsize, hones] at himms'
    exact ⟨hn'.trans hn.symm, himms'.trans himms.symm, hturn⟩
  · rintro ⟨rfl, rfl, hturn⟩
    exact expand_congr hturn

/-! ### Which values are masks -/

/-- The value repeats an element of `e` bits, and the element is a run of ones, neither empty nor
full, that is rotated. -/
def IsRepeatedRun (v : BitVec width) : Prop :=
  ∃ e ∈ sizes, e ≤ width ∧ (∀ i, i + e < width → v.getLsbD (i + e) = v.getLsbD i) ∧
    ∃ k r, 0 < k ∧ k < e ∧ v.setWidth e = ((BitVec.allOnes k).setWidth e).rotateRight r

theorem getLsbD_rotated (hi : i < e) :
    (((BitVec.allOnes k).setWidth e).rotateRight r).getLsbD i = decide ((i + r) % e < k) := by
  have hlt : (i + r) % e < e := Nat.mod_lt _ (by omega)
  rw [getLsbD_rotateRight_mod _ _ hi, BitVec.getLsbD_setWidth, BitVec.getLsbD_allOnes,
    decide_eq_true hlt, Bool.true_and]

theorem getLsbD_of_repeats {v : BitVec width} (he : 0 < e)
    (h : ∀ i, i + e < width → v.getLsbD (i + e) = v.getLsbD i) :
    ∀ i < width, v.getLsbD i = v.getLsbD (i % e) := by
  intro i
  induction i using Nat.strongRecOn with
  | ind i ih =>
    intro hi
    by_cases hlt : i < e
    · rw [Nat.mod_eq_of_lt hlt]
    · have hback : i - e + e = i := by omega
      rw [Nat.mod_eq_sub_mod (by omega), ← ih (i - e) (by omega) (by omega),
        ← h (i - e) (by omega), hback]

theorem isRepeatedRun_of_expand {v : BitVec (registerWidth sf)} (hv : v ≠ 0)
    (h : expand n imms immr (registerWidth sf) = v.setWidth 64) : IsRepeatedRun v := by
  have hwidth := registerWidth_le sf
  have hbit {i : Nat} (hi : i < registerWidth sf) :
      (expand n imms immr (registerWidth sf)).getLsbD i = v.getLsbD i := by
    have h64 : i < 64 := by omega
    rw [h, BitVec.getLsbD_setWidth, decide_eq_true h64, Bool.true_and]
  have hne : expand n imms immr (registerWidth sf) ≠ 0 := by
    intro hzero
    refine hv (BitVec.eq_of_getLsbD_eq fun i hi => ?_)
    rw [← hbit hi, hzero]
    simp
  obtain ⟨hlog, -, hrun⟩ := inRun_of_expand hne
  obtain ⟨hlast, hfits⟩ := last_lt_of_expand_ne_zero hne
  refine ⟨_, elementSize_mem hlog, hfits, fun i hi => ?_, _, immr.toNat, Nat.succ_pos _, hlast,
    BitVec.eq_of_getLsbD_eq fun i hi => ?_⟩
  · rw [← hbit hi, ← hbit (by omega), Bool.eq_iff_iff, hrun _ hi, hrun i (by omega)]
    exact inRun_add_size
  · rw [BitVec.getLsbD_setWidth, decide_eq_true hi, Bool.true_and, getLsbD_rotated hi,
      ← hbit (by omega), Bool.eq_iff_iff, hrun i (by omega), decide_eq_true_iff]
    exact Nat.lt_succ_iff.symm

theorem exists_expand_of_isRepeatedRun {v : BitVec (registerWidth sf)} (h : IsRepeatedRun v) :
    ∃ n imms immr, expand n imms immr (registerWidth sf) = v.setWidth 64 := by
  obtain ⟨e, he, hle, hrepeats, k, r, hk, hke, helement⟩ := h
  have hwidth := registerWidth_le sf
  obtain ⟨hlog, hsize, hones⟩ := elementSize_fields (s := k - 1) he (by omega)
  have hfields : ¬ Reserved (sizeBit e) (runField e (k - 1)) (registerWidth sf) := by
    rw [reserved_iff, hsize, hones]
    omega
  have hturn : (BitVec.ofNat 6 (r % e)).toNat % e = r % e := by
    have hlt := Nat.mod_lt r (show 0 < e by omega)
    rw [BitVec.toNat_ofNat, Nat.mod_eq_of_lt (show r % e < 2 ^ 6 by omega), Nat.mod_mod]
  refine ⟨sizeBit e, runField e (k - 1), BitVec.ofNat 6 (r % e),
    BitVec.eq_of_getLsbD_eq fun i hi => ?_⟩
  rw [BitVec.getLsbD_setWidth, decide_eq_true hi, Bool.true_and]
  by_cases hin : i < registerWidth sf
  · have hmod : i % e < e := Nat.mod_lt i (by omega)
    have hbit := congrArg (·.getLsbD (i % e)) helement
    simp only [BitVec.getLsbD_setWidth, hmod, decide_true, Bool.true_and,
      getLsbD_rotated hmod] at hbit
    rw [getLsbD_of_repeats (by omega) hrepeats i hin, hbit,
      getLsbD_expand_of_fields (mt reserved_iff.2 hfields) hwidth hin, hsize, hones, Nat.add_mod,
      hturn, ← Nat.add_mod, Nat.mod_add_mod, decide_eq_decide]
    omega
  · rw [getLsbD_expand_of_ge (Nat.le_of_not_lt hin),
      BitVec.getLsbD_of_ge _ _ (Nat.le_of_not_lt hin)]

open Decode in
theorem logicalImmediate_eq_ok_iff (w : Word) :
    (∃ d, logicalImmediate w = .ok d) ↔
      expand (w.field 22 1) (w.field 10 6) (w.field 16 6) (registerWidth w.sf) ≠ 0 := by
  have hwidth : (if w.sf = true then 64 else 32) = registerWidth w.sf := rfl
  constructor
  · rintro ⟨d, hd⟩ hzero
    simp only [logicalImmediate, hwidth, hzero, ↓reduceIte] at hd
    split at hd <;> cases hd
  · intro hmask
    -- The size bit of a word of 32 bits would make the element too wide.
    have hnarrow : ¬ (w.sf = false ∧ w.field 22 1 = 1) := by
      rintro ⟨hsf, hn⟩
      have hsize : ∀ imms, elementSize 1 imms = 64 := by decide
      have hfits := (last_lt_of_expand_ne_zero hmask).2
      rw [hn, hsize, hsf] at hfits
      exact absurd hfits (by decide)
    simp only [logicalImmediate, hwidth, if_neg hnarrow, if_neg hmask, done]
    split
    · exact ⟨_, rfl⟩
    · split <;> exact ⟨_, rfl⟩
    · exact ⟨_, rfl⟩
    · split <;> exact ⟨_, rfl⟩

theorem decode_logical_iff {w : Word} (hgroup : Group.ofWord? w = some .dataProcessingImmediate)
    (hcls : Decode.DataImmediateClass.ofWord w = .logical) (address : Address) :
    (∃ i, decode w address = .ok i) ↔
      ¬ Reserved (w.field 22 1) (w.field 10 6) (registerWidth w.sf) := by
  have hmeaning : Decode.meaning .dataProcessingImmediate w address =
      Decode.logicalImmediate w := by
    simp only [Decode.meaning, Decode.dataProcessingImmediate, hcls,
      Decode.DataImmediateClass.meaning]
  have hzero : expand (w.field 22 1) (w.field 10 6) (w.field 16 6) (registerWidth w.sf) = 0 ↔ _ :=
    expand_eq_zero_iff (registerWidth_le w.sf)
  rw [← hzero, ← ne_eq, ← logicalImmediate_eq_ok_iff]
  simp only [decode, hgroup, hmeaning]
  cases Decode.logicalImmediate w <;> simp

/-- The masks of registers of 64 or 32 bits, as `expandWords` gives them for fields in words whose
higher bits do not count, are a code. -/
structure IsLogicalCode (sf : Bool) : Prop where
  /-- Reserved fields, and no others, give zero. -/
  eq_zero_iff : ∀ n imms immr : Word, expandWords n imms immr (registerWidth sf) = 0 ↔
    Reserved (n.setWidth 1) (imms.setWidth 6) (registerWidth sf)
  /-- The other values are the repeated runs. -/
  exists_iff : ∀ v : BitVec (registerWidth sf), v ≠ 0 →
    ((∃ n imms immr : Word, expandWords n imms immr (registerWidth sf) = v.setWidth 64) ↔
      IsRepeatedRun v)
  /-- A mask tells its size bit, its `imms` and, up to full turns of the element, its rotation. -/
  eq_iff : ∀ n imms immr n' imms' immr' : Word, expandWords n imms immr (registerWidth sf) ≠ 0 →
    (expandWords n' imms' immr' (registerWidth sf) = expandWords n imms immr (registerWidth sf) ↔
      n'.toNat % 2 = n.toNat % 2 ∧ imms'.toNat % 64 = imms.toNat % 64 ∧
        ∃ k, IsHighestBit (n.setWidth 1 ++ ~~~imms.setWidth 6) k ∧
          immr'.toNat % 2 ^ k = immr.toNat % 2 ^ k)
  /-- A word of the class of logical immediates decodes if its fields are not reserved. -/
  decode_iff : ∀ (w : Word) (address : Address),
    Group.ofWord? w = some .dataProcessingImmediate →
      Decode.DataImmediateClass.ofWord w = .logical → w.sf = sf →
        ((∃ i, decode w address = .ok i) ↔
          ¬ Reserved (w.field 22 1) (w.field 10 6) (registerWidth sf))

theorem setWidth_eq_iff {m k p : Nat} {x y : BitVec m} (hp : 2 ^ k = p) :
    x.setWidth k = y.setWidth k ↔ x.toNat % p = y.toNat % p := by
  rw [← BitVec.toNat_inj, BitVec.toNat_setWidth, BitVec.toNat_setWidth, hp]

theorem toNat_setWidth_mod (immr : Word) (h : elementLog2 n imms ≠ 0) :
    (immr.setWidth 6).toNat % elementSize n imms = immr.toNat % elementSize n imms := by
  have hdvd : elementSize n imms ∣ 64 := by
    have hall : ∀ e ∈ sizes, 64 % e = 0 := by decide
    exact Nat.dvd_of_mod_eq_zero (hall _ (elementSize_mem h))
  rw [BitVec.toNat_setWidth]
  exact Nat.mod_mod_of_dvd _ hdvd

/-- Expanding logical immediates is exactly the code of repeated runs. -/
theorem isLogicalCode (sf : Bool) : IsLogicalCode sf where
  eq_zero_iff n imms immr := expand_eq_zero_iff (registerWidth_le sf)
  exists_iff v hv := by
    constructor
    · rintro ⟨n, imms, immr, h⟩
      exact isRepeatedRun_of_expand hv h
    · intro h
      obtain ⟨n, imms, immr, hv⟩ := exists_expand_of_isRepeatedRun h
      refine ⟨n.setWidth 32, imms.setWidth 32, immr.setWidth 32, ?_⟩
      simpa [expandWords] using hv
  eq_iff n imms immr n' imms' immr' h := by
    have hlog := (inRun_of_expand h).1
    rw [expandWords, expandWords, expand_eq_iff h, setWidth_eq_iff (show 2 ^ 1 = 2 from rfl),
      setWidth_eq_iff (show 2 ^ 6 = 64 from rfl), toNat_setWidth_mod _ hlog,
      toNat_setWidth_mod _ hlog, elementSize_eq]
    simp only [isHighestBit_elementLog2 hlog, exists_eq_left]
  decode_iff w address hgroup hcls hsf := hsf ▸ decode_logical_iff hgroup hcls address

end A64.LogicalMask
