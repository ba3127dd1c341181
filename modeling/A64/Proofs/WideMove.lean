import A64.Proofs.DecodeContract
import A64.Proofs.Encoding
import A64.Proofs.LogicalMask

/-!
# Wide moves and moves of logical masks

A wide move loads a value whose bits are the same outside one halfword, all zeros or, if it is
inverted, all ones. An inclusive or with the zero register is written as a move unless the test of
the architecture prefers a wide move for the mask. The test finds every mask whose ones lie in one
halfword. Of those whose zeros lie in one halfword it finds the ones whose zeros begin at bit 2 of
the halfword or above it: the others have two words that are written as the same move
(`logicalMove_spellings`).
-/

namespace A64

/-- What a move loads into a register of the given width. -/
def Decoded.loaded? (width : Nat) (d : Decoded) : Option (BitVec width) :=
  d.operands[1]?.bind fun o => o.immediate?.map (·.setWidth width)

/-- Outside one halfword the bits of a register of the given width are all the same. -/
def UniformOutside (width hw : Nat) (b : Bool) (value : BitVec 64) : Prop :=
  ∀ i < width, i / 16 ≠ hw → value.getLsbD i = b

namespace LogicalMask

variable {sf b : Bool} {n : BitVec 1} {imms immr : BitVec 6} {width hw i k s r : Nat}

theorem registerWidth_cases (sf : Bool) : registerWidth sf = 32 ∨ registerWidth sf = 64 := by
  cases sf <;> decide

theorem exists_getLsbD_expand (h : expand n imms immr width ≠ 0) (hwidth : width ≤ 64) (b : Bool) :
    ∃ i < width, (expand n imms immr width).getLsbD i = b := by
  obtain ⟨hlast, hsize⟩ := last_lt_of_expand_ne_zero h
  have hbit {k : Nat} (hk : k < elementSize n imms) : ∃ i < width,
      (expand n imms immr width).getLsbD i = decide (k ≤ imms.toNat % elementSize n imms) := by
    have hlt := Nat.mod_lt (elementSize n imms - immr.toNat % elementSize n imms + k)
      (elementSize_pos n imms)
    refine ⟨_, Nat.lt_of_lt_of_le hlt hsize, ?_⟩
    rw [getLsbD_expand h hwidth (Nat.lt_of_lt_of_le hlt hsize), add_position hk]
  cases b with
  | true =>
    obtain ⟨i, hi, hset⟩ := hbit (k := 0) (by omega)
    exact ⟨i, hi, by rw [hset]; simp⟩
  | false =>
    obtain ⟨i, hi, hclear⟩ := hbit (k := imms.toNat % elementSize n imms + 1) hlast
    exact ⟨i, hi, by rw [hclear]; simp⟩

/-- A mask with two equal halves is not uniform outside a halfword. -/
theorem isWhole_of_uniformOutside (h : expand n imms immr (registerWidth sf) ≠ 0)
    (hu : UniformOutside (registerWidth sf) hw b (expand n imms immr (registerWidth sf))) :
    IsWhole sf n imms := by
  have hcases := registerWidth_cases sf
  have hwidth : registerWidth sf ≤ 64 := by omega
  refine Classical.byContradiction fun hwhole => ?_
  have hdvd := elementSize_dvd_of_not_isWhole hwhole (last_lt_of_expand_ne_zero h).2
  generalize registerWidth sf = width at *
  have hhalf {i : Nat} (hi : i < width / 2) : (expand n imms immr width).getLsbD (i + width / 2) =
      (expand n imms immr width).getLsbD i := by
    obtain ⟨m, hm⟩ := hdvd
    rw [getLsbD_expand h hwidth (by omega), getLsbD_expand h hwidth (by omega)]
    have hmove : i + width / 2 + immr.toNat = i + immr.toNat + elementSize n imms * m := by omega
    rw [hmove, Nat.add_mul_mod_self_left]
  have hall : ∀ i < width, (expand n imms immr width).getLsbD i = b := by
    intro i hi
    by_cases hout : i / 16 = hw
    · by_cases hlow : i < width / 2
      · rw [← hhalf hlow]
        exact hu _ (by omega) (by omega)
      · have hback : i - width / 2 + width / 2 = i := by omega
        rw [← hback, hhalf (by omega)]
        exact hu _ (by omega) (by omega)
    · exact hu i hi hout
  obtain ⟨i, hi, hbit⟩ := exists_getLsbD_expand h hwidth (!b)
  rw [hall i hi] at hbit
  cases b <;> cases hbit

theorem getLsbD_expand_whole (h : expand n imms immr (registerWidth sf) ≠ 0)
    (hwhole : IsWhole sf n imms) (hi : i < registerWidth sf) :
    (expand n imms immr (registerWidth sf)).getLsbD i =
      decide ((i + immr.toNat) % registerWidth sf ≤ imms.toNat) := by
  have himms : imms.toNat % registerWidth sf = imms.toNat := by
    have hlt := imms.isLt
    refine Nat.mod_eq_of_lt ?_
    rcases hwhole.2 with rfl | hsmall
    · exact hlt
    · have hcases := registerWidth_cases sf
      omega
  have hwidth : registerWidth sf ≤ 64 := by have := registerWidth_cases sf; omega
  rw [getLsbD_expand h hwidth hi, elementSize_of_isWhole hwhole, himms]

theorem imms_lt_of_isWhole (h : expand n imms immr (registerWidth sf) ≠ 0)
    (hwhole : IsWhole sf n imms) : imms.toNat + 1 < registerWidth sf := by
  have hcases := registerWidth_cases sf
  have hlast := (last_lt_of_expand_ne_zero h).1
  rw [elementSize_of_isWhole hwhole] at hlast
  have hlt := imms.isLt
  rcases hwhole.2 with rfl | hsmall
  · exact Nat.mod_eq_of_lt hlt ▸ hlast
  · rwa [Nat.mod_eq_of_lt (by omega)] at hlast

theorem ones_of_uniform (hw r : Nat) (hwidth : width = 32 ∨ width = 64) (hs : s + 1 < width)
    (h : ∀ i < width, i / 16 ≠ hw → ¬ (i + r) % width ≤ s) :
    s < 16 ∧ (16 - r % 16) % 16 ≤ 15 - s := by
  have hfirst := h ((width - r % width) % width)
  have hnext := h (16 * (hw + 1) % width)
  rcases hwidth with rfl | rfl <;> omega

theorem zeros_of_uniform (hw r : Nat) (hwidth : width = 32 ∨ width = 64) (hs : s + 1 < width)
    (h : ∀ i < width, i / 16 ≠ hw → (i + r) % width ≤ s) : r % 16 + width ≤ s + 17 := by
  have hfirst := h ((width - r % width + (s + 1)) % width)
  have hnext := h (16 * (hw + 1) % width)
  rcases hwidth with rfl | rfl <;> omega

/-- The first zero of a run that ends behind place `s` and is rotated by `r`. -/
def firstZero (width s r : Nat) : Nat := (width - r % width + (s + 1)) % width

theorem uniform_of_zeros (hwidth : width = 32 ∨ width = 64) (hs : s + 1 < width)
    (h : r % 16 + width ≤ s + 17) (hi : i < width) (hout : i / 16 ≠ firstZero width s r / 16) :
    (i + r) % width ≤ s := by
  unfold firstZero at hout
  rcases hwidth with rfl | rfl <;> omega

/-- If there are less than sixteen zeros, the halfword of the first one has a one. -/
theorem exists_one (hwidth : width = 32 ∨ width = 64) (hs : s + 1 < width)
    (h : r % 16 + width ≤ s + 17) (hless : width < s + 17) :
    ∃ i < width, i / 16 = firstZero width s r / 16 ∧ (i + r) % width ≤ s := by
  unfold firstZero
  by_cases hlow : (width - r % width + (s + 1)) % width % 16 = 0
  · refine ⟨(width - r % width + (s + 1)) % width + (width - 1 - s), ?_⟩
    rcases hwidth with rfl | rfl <;> omega
  · refine ⟨(width - r % width + (s + 1)) % width - 1, ?_⟩
    rcases hwidth with rfl | rfl <;> omega

/-- The zeros of the mask lie in one halfword and begin at its lowest bit or at the next. -/
def ZerosAtEdge (sf : Bool) (n : BitVec 1) (imms immr : BitVec 6) : Prop :=
  n = BitVec.ofBool sf ∧
    (immr.toNat % 16 + registerWidth sf = imms.toNat + 17 ∨
      immr.toNat % 16 + registerWidth sf = imms.toNat + 16)

instance : Decidable (ZerosAtEdge sf n imms immr) := inferInstanceAs (Decidable (_ ∧ _))

theorem isWideMove_of_isWhole (hwhole : IsWhole sf n imms) :
    isWideMove sf n.toNat imms immr = true ↔
      if imms.toNat < 16 then (16 - immr.toNat % 16) % 16 ≤ 15 - imms.toNat
      else registerWidth sf ≤ imms.toNat + 15 ∧
        immr.toNat % 16 + registerWidth sf ≤ imms.toNat + 15 := by
  obtain ⟨rfl, himms⟩ := hwhole
  have hsmall : ¬ (sf = false ∧ 32 ≤ imms.toNat) := by
    rintro ⟨rfl, hlarge⟩
    simp at himms
    omega
  have hn : (BitVec.ofBool sf).toNat = if sf then 1 else 0 := by cases sf <;> rfl
  simp only [isWideMove, registerWidth, if_neg hsmall, hn, ne_eq, not_true_eq_false, if_false]
  by_cases hones : imms.toNat < 16
  · simp [hones]
  · simp only [hones, if_false]
    cases sf <;> simp <;> omega

variable (h : expand n imms immr (registerWidth sf) ≠ 0)

include h

/-- A mask that is uniform outside a halfword and not found by the test has its zeros there, at the
lower edge. -/
theorem zerosAtEdge_of_uniformOutside
    (hu : UniformOutside (registerWidth sf) hw b (expand n imms immr (registerWidth sf)))
    (htest : isWideMove sf n.toNat imms immr = false) : b = true ∧ ZerosAtEdge sf n imms immr := by
  have hwidth := registerWidth_cases sf
  have hwhole := isWhole_of_uniformOutside h hu
  have hs := imms_lt_of_isWhole h hwhole
  have hmissed : ¬ isWideMove sf n.toNat imms immr = true := by simp [htest]
  rw [isWideMove_of_isWhole hwhole] at hmissed
  cases b with
  | false =>
    have hones := ones_of_uniform hw immr.toNat hwidth hs fun i hi hout => by
      have hbit := hu i hi hout
      rw [getLsbD_expand_whole h hwhole hi] at hbit
      exact of_decide_eq_false hbit
    rw [if_pos hones.1] at hmissed
    exact absurd hones.2 hmissed
  | true =>
    have hzeros := zeros_of_uniform hw immr.toNat hwidth hs fun i hi hout => by
      have hbit := hu i hi hout
      rw [getLsbD_expand_whole h hwhole hi] at hbit
      exact of_decide_eq_true hbit
    refine ⟨rfl, hwhole.1, ?_⟩
    split at hmissed <;> omega

/-- A mask with its zeros at the lower edge of a halfword that the test does not find is uniform
outside the halfword, and not all of its bits there are zeros in a register of 32 bits. -/
theorem uniformOutside_of_zerosAtEdge (hedge : ZerosAtEdge sf n imms immr)
    (htest : isWideMove sf n.toNat imms immr = false) :
    ∃ hw < registerWidth sf / 16,
      UniformOutside (registerWidth sf) hw true (expand n imms immr (registerWidth sf)) ∧
        (sf = false → ∃ i < registerWidth sf, i / 16 = hw ∧
          (expand n imms immr (registerWidth sf)).getLsbD i = true) := by
  have hwidth := registerWidth_cases sf
  obtain ⟨hn, hedge⟩ := hedge
  have hwhole : IsWhole sf n imms := by
    refine ⟨hn, ?_⟩
    cases sf
    · have hsmall : registerWidth false = 32 := rfl
      omega
    · exact .inl rfl
  have hs := imms_lt_of_isWhole h hwhole
  have hzeros : immr.toNat % 16 + registerWidth sf ≤ imms.toNat + 17 := by omega
  have hmissed : ¬ isWideMove sf n.toNat imms immr = true := by simp [htest]
  rw [isWideMove_of_isWhole hwhole] at hmissed
  refine ⟨firstZero (registerWidth sf) imms.toNat immr.toNat / 16, ?_, fun i hi hout => ?_, ?_⟩
  · have hlt : firstZero (registerWidth sf) imms.toNat immr.toNat < registerWidth sf :=
      Nat.mod_lt _ (by omega)
    omega
  · rw [getLsbD_expand_whole h hwhole hi]
    exact decide_eq_true (uniform_of_zeros hwidth hs hzeros hi hout)
  · rintro rfl
    have hless : registerWidth false < imms.toNat + 17 := by
      have hsmall : registerWidth false = 32 := rfl
      split at hmissed <;> omega
    obtain ⟨i, hi, hin, hone⟩ := exists_one hwidth hs hzeros hless
    exact ⟨i, hi, hin, by rw [getLsbD_expand_whole h hwhole hi]; exact decide_eq_true hone⟩

end LogicalMask

/-! ### What wide moves load -/

namespace Decode

open LogicalMask (registerWidth registerWidth_cases)

variable {w : Word} {d : Decoded} {sf inverted : Bool} {hw : BitVec 2} {imm16 : BitVec 16}
  {rd : BitVec 5} {i : Nat}

/-- A halfword in its place, the other bits zero or, if it is inverted, one. -/
def wideValue (inverted : Bool) (hw : BitVec 2) (imm16 : BitVec 16) : BitVec 64 :=
  let value := imm16.setWidth 64 <<< (16 * hw.toNat)
  if inverted then ~~~value else value

theorem getLsbD_wideValue (hi : i < 64) :
    (wideValue inverted hw imm16).getLsbD i =
      (inverted ^^ (decide (i / 16 = hw.toNat) && imm16.getLsbD (i % 16))) := by
  have hvalue : (imm16.setWidth 64 <<< (16 * hw.toNat)).getLsbD i =
      (decide (i / 16 = hw.toNat) && imm16.getLsbD (i % 16)) := by
    rw [BitVec.getLsbD_shiftLeft, BitVec.getLsbD_setWidth]
    by_cases hin : i / 16 = hw.toNat
    · have hoffset : i - 16 * hw.toNat = i % 16 := by omega
      have hlow : ¬ i < 16 * hw.toNat := by omega
      have hmod : i % 16 < 64 := by omega
      simp [hi, hin, hoffset, hlow, hmod]
    · by_cases hlow : i < 16 * hw.toNat
      · simp [hin, hlow]
      · have hhigh : 16 ≤ i - 16 * hw.toNat := by omega
        simp [hin, BitVec.getLsbD_of_ge _ _ hhigh]
  unfold wideValue
  cases inverted
  · simpa using hvalue
  · rw [if_pos rfl, BitVec.getLsbD_not, decide_eq_true hi, hvalue, Bool.true_and, Bool.true_xor]

def wideOpcode (inverted : Bool) : BitVec 2 := if inverted then 0 else 2

def wideOperand (sf inverted : Bool) (hw : BitVec 2) (imm16 : BitVec 16) : Operand :=
  let value := wideValue inverted hw imm16
  if inverted then if sf then signed64 value else signed32 (value.setWidth 32)
  else if sf then imm64 value else imm value

theorem loaded?_wideOperand (sf inverted : Bool) (hw : BitVec 2) (imm16 : BitVec 16)
    (r : Operand) :
    Decoded.loaded? (registerWidth sf) ⟨.mov, [r, wideOperand sf inverted hw imm16]⟩ =
      some ((wideValue inverted hw imm16).setWidth (registerWidth sf)) := by
  cases inverted <;> cases sf
  · exact congrArg (fun v => some (BitVec.setWidth 32 v)) (BitVec.setWidth_eq _)
  · rfl
  · exact congrArg some (setWidth_signExtend (by decide) _)
  · rfl

theorem moveWide_cases (h : moveWide w = .ok d) (hop : d.operation = .mov) :
    ∃ inverted, w.field 29 2 = wideOpcode inverted ∧
      16 * (w.field 21 2).toNat < registerWidth w.sf ∧
      d = ⟨.mov, [gpr w.sf w.rd, wideOperand w.sf inverted (w.field 21 2) (w.field 5 16)]⟩ := by
  simp only [moveWide] at h
  split at h
  · cases h
  · split at h
    · cases h
    · rename_i hhalfword
      have hwidth : 16 * (w.field 21 2).toNat < registerWidth w.sf := by
        have hlt := (w.field 21 2).isLt
        cases hsf : w.sf
        · have hsmall : ¬ 2 ≤ (w.field 21 2).toNat := fun hlarge => hhalfword ⟨hsf, hlarge⟩
          simp [registerWidth]
          omega
        · simp [registerWidth]
          omega
      split at h
      · rename_i hopc
        split at h <;> cases h
        · exact ⟨true, hopc, hwidth, by simp [wideOperand, wideValue]⟩
        · cases hop
      · rename_i hopc
        split at h <;> cases h
        · exact ⟨false, hopc, hwidth, by simp [wideOperand, wideValue]⟩
        · cases hop
      · cases h
        cases hop

theorem moveWide_eq_mov (hopc : w.field 29 2 = wideOpcode inverted)
    (hwidth : 16 * (w.field 21 2).toNat < registerWidth w.sf) (himm : w.field 5 16 ≠ 0)
    (hfull : inverted = true → w.sf = false → w.field 5 16 ≠ 0xffff) :
    moveWide w =
      .ok ⟨.mov, [gpr w.sf w.rd, wideOperand w.sf inverted (w.field 21 2) (w.field 5 16)]⟩ := by
  have hhalfword : ¬ (w.sf = false ∧ 2 ≤ w.field 21 2) := by
    rintro ⟨hsf, hlarge⟩
    have hlarge : 2 ≤ (w.field 21 2).toNat := hlarge
    simp only [hsf, registerWidth, Bool.false_eq_true, if_false] at hwidth
    omega
  have himm : ¬ w.field 5 16 = 0#16 := himm
  simp only [moveWide, hopc, hhalfword, if_false]
  cases inverted
  · simp [wideOpcode, himm, wideOperand, wideValue, done]
  · have hsf : w.sf = false → ¬ w.field 5 16 = 65535#16 := hfull rfl
    simpa [wideOpcode, himm, wideOperand, wideValue, done] using hsf

theorem fields_moveWide (sf : Bool) (opc hw : BitVec 2) (imm16 : BitVec 16) (rd : BitVec 5) :
    (Encode.moveWide sf opc hw imm16 rd).sf = sf ∧
      (Encode.moveWide sf opc hw imm16 rd).field 29 2 = opc ∧
      (Encode.moveWide sf opc hw imm16 rd).field 23 6 = 0b100101 ∧
      (Encode.moveWide sf opc hw imm16 rd).field 21 2 = hw ∧
      (Encode.moveWide sf opc hw imm16 rd).field 5 16 = imm16 := by
  have hwhole (w : Word) : w.field 31 1 ++ w.field 29 2 ++ w.field 23 6 ++ w.field 21 2 ++
      w.field 5 16 ++ w.field 0 5 = w := by
    simp (disch := decide) only [Word.field_append]
    exact w.field_whole
  have happend := hwhole (Encode.moveWide sf opc hw imm16 rd)
  conv at happend => rhs; rw [Encode.moveWide]
  obtain ⟨happend, -⟩ := Field.append_inj happend
  obtain ⟨happend, himm⟩ := Field.append_inj happend
  obtain ⟨happend, hhw⟩ := Field.append_inj happend
  obtain ⟨happend, hclass⟩ := Field.append_inj happend
  obtain ⟨hsf, hopc⟩ := Field.append_inj happend
  have hbool : ∀ a b : Bool, BitVec.ofBool a = BitVec.ofBool b → a = b := by decide
  rw [← Word.ofBool_bit] at hsf
  exact ⟨hbool _ _ hsf, hopc, hclass, hhw, himm⟩

theorem ofWord_of_fixed (h : w.field 23 6 = 0b100101) :
    Group.ofWord? w = some .dataProcessingImmediate ∧ DataImmediateClass.ofWord w = .moveWide := by
  have hgroup : w.field 25 4 = 0b1001 := by
    rw [← w.field_field (show 2 + 4 ≤ 6 by decide), h]
    decide
  have hclass : w.field 23 3 = 0b101 := by
    rw [← w.field_field (show 0 + 3 ≤ 6 by decide), h]
    decide
  exact ⟨by rw [Group.ofWord?, hgroup]; rfl, by rw [DataImmediateClass.ofWord, hclass]; rfl⟩

/-- The word is of the class, its registers have the width that `sf` gives, and it is written as a
move of the value. -/
structure IsMove (cls : DataImmediateClass) (sf : Bool) (w : Word)
    (value : BitVec (registerWidth sf)) : Prop where
  group : Group.ofWord? w = some .dataProcessingImmediate
  ofWord : DataImmediateClass.ofWord w = cls
  sf_eq : w.sf = sf
  decoded : ∃ address i, decode w address = .ok i ∧ i.operation = .mov ∧
    i.decoded.loaded? (registerWidth sf) = some value

variable {cls : DataImmediateClass} {value : BitVec (registerWidth sf)}

theorem IsMove.meaning (h : IsMove cls sf w value) :
    ∃ address d, cls.meaning w address = .ok d ∧ d.operation = .mov ∧
      d.loaded? (registerWidth sf) = some value := by
  obtain ⟨hgroup, rfl, -, address, i, hi, hop, hload⟩ := h
  have hmeaning := (meaning_of_decode hgroup (by decide) hi).2
  exact ⟨address, i.decoded, hmeaning, hop, hload⟩

theorem IsMove.of_meaning (address : Address)
    (hgroup : Group.ofWord? w = some .dataProcessingImmediate)
    (hcls : DataImmediateClass.ofWord w = cls) (hsf : w.sf = sf)
    (hd : cls.meaning w address = .ok d) (hop : d.operation = .mov) (hlen : d.operands.length ≤ 5)
    (hload : d.loaded? (registerWidth sf) = some value) : IsMove cls sf w value := by
  subst hcls
  refine ⟨hgroup, rfl, hsf, address, ⟨w, address, .dataProcessingImmediate, d.operation,
    .ofList d.operands⟩, ?_, hop, ?_⟩
  · have hmeaning : Decode.meaning .dataProcessingImmediate w address = .ok d := hd
    simp only [decode, hgroup, hmeaning]
  · have hlist : (Operands.ofList d.operands).toList = d.operands :=
      (Operands.holds_ofList hlen).toList
    simpa only [Instruction.decoded, Decoded.loaded?, hlist] using hload

/-- A mask that is written as a move is none that the test finds. -/
theorem logicalImmediate_cases (h : logicalImmediate w = .ok d) (hop : d.operation = .mov) :
    let mask := LogicalMask.expand (w.field 22 1) (w.field 10 6) (w.field 16 6)
      (registerWidth w.sf)
    mask ≠ 0 ∧
      LogicalMask.isWideMove w.sf (w.field 22 1).toNat (w.field 10 6) (w.field 16 6) = false ∧
      d.loaded? (registerWidth w.sf) = some (mask.setWidth (registerWidth w.sf)) := by
  have hwidth : (if w.sf = true then 64 else 32) = registerWidth w.sf := rfl
  simp only [logicalImmediate, hwidth] at h
  generalize LogicalMask.expand _ _ _ (registerWidth w.sf) = mask at h ⊢
  generalize hvalue : (if w.sf = true then imm64 mask else imm mask) = value at h
  split at h
  · cases h
  · split at h
    · cases h
    · rename_i hmask
      split at h
      · cases h
        cases hop
      · split at h <;> cases h
        · rename_i htest
          refine ⟨hmask, htest.2, ?_⟩
          rw [← hvalue]
          cases w.sf
          · exact congrArg (fun v => some (BitVec.setWidth 32 v)) (BitVec.setWidth_eq _)
          · rfl
        · cases hop
      · cases h
        cases hop
      · split at h <;> cases h <;> cases hop

theorem uniformOutside_wideValue :
    UniformOutside 64 hw.toNat inverted (wideValue inverted hw imm16) := by
  intro i hi hout
  rw [getLsbD_wideValue hi, decide_eq_false hout, Bool.false_and, Bool.xor_false]

/-- A value that is uniform outside a halfword, but not all over, is loaded by a wide move. In a
register of 32 bits, an inverted halfword of ones is left to the move that is not inverted. -/
theorem exists_isMove_of_uniformOutside {v : BitVec 64} {k : Nat} {b : Bool}
    (hk : k < registerWidth sf / 16) (hu : UniformOutside (registerWidth sf) k b v)
    (hne : ∃ i < registerWidth sf, v.getLsbD i = !b)
    (hsome : b = true → sf = false → ∃ i < registerWidth sf, i / 16 = k ∧ v.getLsbD i = true) :
    ∃ w', w'.field 29 2 = wideOpcode b ∧
      IsMove .moveWide sf w' (v.setWidth (registerWidth sf)) := by
  have hwidth := registerWidth_cases sf
  let imm16 : BitVec 16 := (if b then ~~~v else v).extractLsb' (16 * k) 16
  have himm {i : Nat} (hi : i < registerWidth sf) (hin : i / 16 = k) :
      imm16.getLsbD (i % 16) = (b ^^ v.getLsbD i) := by
    have hmod : i % 16 < 16 := by omega
    have hplace : 16 * k + i % 16 = i := by omega
    have h64 : i < 64 := by omega
    rw [BitVec.getLsbD_extractLsb', decide_eq_true hmod, hplace, Bool.true_and]
    cases b <;> simp [h64]
  obtain ⟨hsf, hopc, hclass, hhw, himm16⟩ :=
    fields_moveWide sf (wideOpcode b) (BitVec.ofNat 2 k) imm16 0
  have hhw' : (BitVec.ofNat 2 k).toNat = k := by
    rw [BitVec.toNat_ofNat, Nat.mod_eq_of_lt (by omega)]
  have hmov := moveWide_eq_mov (w := Encode.moveWide sf (wideOpcode b) (BitVec.ofNat 2 k) imm16 0)
    hopc (by rw [hhw, hsf, hhw']; omega) ?_ ?_
  · obtain ⟨hgroup, hcls⟩ := ofWord_of_fixed hclass
    refine ⟨_, hopc, .of_meaning 0 hgroup hcls hsf hmov rfl (by simp) ?_⟩
    rw [hsf, hhw, himm16, loaded?_wideOperand]
    refine congrArg some (BitVec.eq_of_getLsbD_eq fun i hi => ?_)
    have h64 : i < 64 := by omega
    rw [BitVec.getLsbD_setWidth, BitVec.getLsbD_setWidth, getLsbD_wideValue h64, hhw']
    by_cases hin : i / 16 = k
    · rw [himm hi hin, decide_eq_true hin, Bool.true_and, ← Bool.xor_assoc, Bool.xor_self,
        Bool.false_xor]
    · rw [decide_eq_false hin, Bool.false_and, Bool.xor_false, hu i hi hin]
  · -- The bit that differs from the rest lies in the halfword.
    obtain ⟨i, hi, hbit⟩ := hne
    have hin : i / 16 = k := by
      refine Classical.byContradiction fun hout => ?_
      rw [hu i hi hout] at hbit
      cases b <;> cases hbit
    rw [himm16]
    intro hzero
    have hset := himm hi hin
    rw [hzero, hbit] at hset
    cases b <;> simp at hset
  · -- The halfword is not all ones, because one of its bits is set and inverted.
    rw [himm16, hsf]
    intro hb hnarrow hfull
    obtain ⟨i, hi, hin, hbit⟩ := hsome hb hnarrow
    have hclear := himm hi hin
    rw [hfull, hbit, hb] at hclear
    have hones : ∀ j < 16, (0xffff : BitVec 16).getLsbD j = true := by decide
    rw [hones _ (by omega)] at hclear
    cases hclear

end Decode

open Decode LogicalMask in
/-- A move of a mask is never a plain wide move as well. It is an inverted wide move as well if and
only if the zeros of the mask lie at the lower edge of a halfword. -/
theorem logicalMove_spellings {sf : Bool} {w : Word} {value : BitVec (registerWidth sf)}
    (h : IsMove .logical sf w value) (inverted : Bool) :
    (∃ w', w'.field 29 2 = wideOpcode inverted ∧ IsMove .moveWide sf w' value) ↔
      inverted = true ∧ ZerosAtEdge sf (w.field 22 1) (w.field 10 6) (w.field 16 6) := by
  obtain ⟨_, d, hd, hop, hload⟩ := h.meaning
  obtain rfl := h.sf_eq
  obtain ⟨hmask, htest, hvalue⟩ := logicalImmediate_cases hd hop
  obtain rfl := Option.some.inj (hvalue.symm.trans hload)
  have hwidth : registerWidth w.sf ≤ 64 := by have := registerWidth_cases w.sf; omega
  constructor
  · rintro ⟨w', hopc, h'⟩
    obtain ⟨_, d', hd', hop', hload'⟩ := h'.meaning
    obtain ⟨inverted', hopc', -, rfl⟩ := moveWide_cases hd' hop'
    rw [h'.sf_eq, loaded?_wideOperand] at hload'
    have hsame := Option.some.inj hload'
    obtain rfl : inverted = inverted' := by
      rw [hopc] at hopc'
      revert hopc'
      cases inverted <;> cases inverted' <;> decide
    have hu : UniformOutside (registerWidth w.sf) (w'.field 21 2).toNat inverted
        (expand (w.field 22 1) (w.field 10 6) (w.field 16 6) (registerWidth w.sf)) := by
      intro i hi hout
      have hbit := congrArg (·.getLsbD i) hsame
      simp only [BitVec.getLsbD_setWidth, hi, decide_true, Bool.true_and] at hbit
      rw [← hbit]
      exact uniformOutside_wideValue i (by omega) hout
    exact zerosAtEdge_of_uniformOutside hmask hu htest
  · rintro ⟨rfl, hedge⟩
    obtain ⟨k, hk, hu, hsome⟩ := uniformOutside_of_zerosAtEdge hmask hedge htest
    exact exists_isMove_of_uniformOutside hk hu (exists_getLsbD_expand hmask hwidth false)
      fun _ => hsome

open Decode in
/-- Forty-eight ones as a mask: the zeros fill the highest halfword. -/
theorem isMove_fortyEightOnes : IsMove .logical true 0xb240bfe0 0xffffffffffff := by
  have hdecode : decode 0xb240bfe0 0 = .ok ⟨0xb240bfe0, 0, .dataProcessingImmediate, .mov,
      .ofList [x 0, imm64 0xffffffffffff]⟩ := by decide +kernel
  exact ⟨by decide, by decide, by decide, 0, _, hdecode, rfl, by decide⟩

open Decode in
/-- The inverted wide move is the other word for them. -/
theorem fortyEightOnes_spellings :
    IsMove .logical true 0xb240bfe0 0xffffffffffff ∧
      (∃ w', w'.field 29 2 = wideOpcode true ∧ IsMove .moveWide true w' 0xffffffffffff) ∧
      ¬ ∃ w', w'.field 29 2 = wideOpcode false ∧ IsMove .moveWide true w' 0xffffffffffff := by
  refine ⟨isMove_fortyEightOnes, ?_, ?_⟩
  · exact (logicalMove_spellings isMove_fortyEightOnes true).2 ⟨rfl, by decide⟩
  · intro hplain
    exact Bool.noConfusion ((logicalMove_spellings isMove_fortyEightOnes false).1 hplain).1

open Decode in
/-- Two words for one move: a mask, and a halfword of ones that is inverted. -/
theorem logicalMove_not_disjoint :
    ∃ value, IsMove .logical true 0xb240bfe0 value ∧ IsMove .moveWide true 0x92ffffe0 value := by
  have hdecode : decode 0x92ffffe0 0 = .ok ⟨0x92ffffe0, 0, .dataProcessingImmediate, .mov,
      .ofList [x 0, signed64 0xffffffffffff]⟩ := by decide +kernel
  have hwide : IsMove .moveWide true 0x92ffffe0 0xffffffffffff :=
    ⟨by decide, by decide, by decide, 0, _, hdecode, rfl, by decide⟩
  exact ⟨0xffffffffffff, isMove_fortyEightOnes, hwide⟩

end A64
