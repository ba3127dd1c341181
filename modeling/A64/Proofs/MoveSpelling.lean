import A64.Proofs.LogicalCode
import A64.Proofs.WideMove

/-!
# Masks that are left to wide moves

The test for wide moves never finds too much: what it finds is a halfword in its place, or the
inverse of one, and there is a wide move that is written as a move of that value, at every address
(`isWideMoveWords_spec`). It finds all masks whose ones lie in one halfword.
-/

namespace A64

namespace LogicalMask

variable {sf : Bool} {n : BitVec 1} {imms immr : BitVec 6} {width hw i s r : Nat}

/-- The first one of a run that begins at place 0 and is rotated by `r`. -/
def firstOne (width r : Nat) : Nat := (width - r % width) % width

theorem uniform_of_ones (hwidth : width = 32 ∨ width = 64) (hs : s < 16)
    (h : (16 - r % 16) % 16 ≤ 15 - s) (hi : i < width) (hout : i / 16 ≠ firstOne width r / 16) :
    ¬ (i + r) % width ≤ s := by
  unfold firstOne at hout
  rcases hwidth with rfl | rfl <;> omega

theorem isWhole_of_isWideMove (h : isWideMove sf n.toNat imms immr = true) :
    IsWhole sf n imms := by
  have hn : n.toNat = if sf then 1 else 0 := by
    refine Classical.byContradiction fun hne => ?_
    simp [isWideMove, hne] at h
  have hsmall : ¬ (sf = false ∧ 32 ≤ imms.toNat) := by
    rintro ⟨rfl, hlarge⟩
    simp [isWideMove, hlarge] at h
  refine ⟨?_, ?_⟩
  · have hall : ∀ (sf : Bool) (n : BitVec 1), n.toNat = (if sf then 1 else 0) →
        n = BitVec.ofBool sf := by decide
    exact hall sf n hn
  · cases sf
    · exact .inr (Nat.not_le.1 fun hlarge => hsmall ⟨rfl, hlarge⟩)
    · exact .inl rfl

/-- A mask that the test finds is uniform outside a halfword. If the bits outside are ones, the
halfword has a one as well. -/
theorem uniformOutside_of_isWideMove (h : expand n imms immr (registerWidth sf) ≠ 0)
    (htest : isWideMove sf n.toNat imms immr = true) :
    ∃ hw < registerWidth sf / 16, ∃ b,
      UniformOutside (registerWidth sf) hw b (expand n imms immr (registerWidth sf)) ∧
        (b = true → ∃ i < registerWidth sf, i / 16 = hw ∧
          (expand n imms immr (registerWidth sf)).getLsbD i = true) := by
  have hwidth := registerWidth_cases sf
  have hwhole := isWhole_of_isWideMove htest
  have hs := imms_lt_of_isWhole h hwhole
  have hplace {p : Nat} (hp : p < registerWidth sf) : p / 16 < registerWidth sf / 16 := by omega
  rw [isWideMove_of_isWhole hwhole] at htest
  split at htest
  · rename_i hones
    have hfirst : firstOne (registerWidth sf) immr.toNat < registerWidth sf :=
      Nat.mod_lt _ (by omega)
    refine ⟨_, hplace hfirst, false, fun i hi hout => ?_, Bool.noConfusion⟩
    rw [getLsbD_expand_whole h hwhole hi]
    exact decide_eq_false (uniform_of_ones hwidth hones htest hi hout)
  · have hzeros : immr.toNat % 16 + registerWidth sf ≤ imms.toNat + 17 := by omega
    have hfirst : firstZero (registerWidth sf) imms.toNat immr.toNat < registerWidth sf :=
      Nat.mod_lt _ (by omega)
    obtain ⟨k, hk, hin, hone⟩ := exists_one hwidth hs hzeros (by omega)
    refine ⟨_, hplace hfirst, true, fun i hi hout => ?_, fun _ => ⟨k, hk, hin, ?_⟩⟩
    · rw [getLsbD_expand_whole h hwhole hi]
      exact decide_eq_true (uniform_of_zeros hwidth hs hzeros hi hout)
    · rw [getLsbD_expand_whole h hwhole hk]
      exact decide_eq_true hone

theorem isWideMove_of_ones (h : expand n imms immr (registerWidth sf) ≠ 0)
    (hones : ∀ i, (expand n imms immr (registerWidth sf)).getLsbD i = true → i / 16 = hw) :
    isWideMove sf n.toNat imms immr = true := by
  have hu : UniformOutside (registerWidth sf) hw false (expand n imms immr (registerWidth sf)) :=
    fun i _ hout => Bool.eq_false_iff.2 fun hset => hout (hones i hset)
  refine Classical.byContradiction fun hmissed => ?_
  exact Bool.noConfusion
    (zerosAtEdge_of_uniformOutside h hu (Bool.eq_false_iff.2 hmissed)).1

end LogicalMask

/-- The value is a halfword in one of its places in a register of the given width, or the inverse of
that. -/
def IsHalfword (width value : Nat) : Prop :=
  ∃ imm16 < 2 ^ 16, ∃ hw < width / 16,
    value = imm16 * 2 ^ (16 * hw) ∨ value + imm16 * 2 ^ (16 * hw) = 2 ^ width - 1

theorem toNat_of_zeros_outside {width hw : Nat} {x : BitVec width}
    (h : ∀ i < width, i / 16 ≠ hw → x.getLsbD i = false) :
    x.toNat = (x.extractLsb' (16 * hw) 16).toNat * 2 ^ (16 * hw) := by
  refine Nat.eq_of_testBit_eq fun i => ?_
  rw [BitVec.testBit_toNat, Nat.testBit_mul_two_pow, BitVec.testBit_toNat,
    BitVec.getLsbD_extractLsb']
  by_cases hin : i / 16 = hw
  · have hge : 16 * hw ≤ i := by omega
    have hlt : i - 16 * hw < 16 := by omega
    have hplace : 16 * hw + (i - 16 * hw) = i := by omega
    simp [hge, hlt, hplace]
  · have hclear : x.getLsbD i = false := by
      by_cases hi : i < width
      · exact h i hi hin
      · exact BitVec.getLsbD_of_ge x i (Nat.le_of_not_lt hi)
    have hout : 16 * hw ≤ i → ¬ i - 16 * hw < 16 := by omega
    rw [hclear]
    simpa using fun hge hlt => absurd hlt (hout hge)

theorem isHalfword_of_uniformOutside {width hw : Nat} {b : Bool} {v : BitVec 64}
    (hhw : hw < width / 16) (hu : UniformOutside width hw b v) :
    IsHalfword width (v.setWidth width).toNat := by
  have hbit {i : Nat} (hi : i < width) (hout : i / 16 ≠ hw) : (v.setWidth width).getLsbD i = b := by
    rw [BitVec.getLsbD_setWidth, decide_eq_true hi, Bool.true_and, hu i hi hout]
  cases b with
  | false =>
    refine ⟨((v.setWidth width).extractLsb' (16 * hw) 16).toNat, BitVec.isLt _, hw, hhw, .inl ?_⟩
    exact toNat_of_zeros_outside fun i hi hout => hbit hi hout
  | true =>
    have hclear : ∀ i < width, i / 16 ≠ hw → (~~~v.setWidth width).getLsbD i = false := by
      intro i hi hout
      rw [BitVec.getLsbD_not, hbit hi hout, Bool.not_true, Bool.and_false]
    have hnot := toNat_of_zeros_outside hclear
    refine ⟨((~~~v.setWidth width).extractLsb' (16 * hw) 16).toNat, BitVec.isLt _, hw, hhw,
      .inr ?_⟩
    have hlt := (v.setWidth width).isLt
    rw [← hnot, BitVec.toNat_not]
    omega

namespace Decode

open LogicalMask (registerWidth)

/-- What a wide move is written as does not depend on its address. -/
theorem IsMove.decode_moveWide {sf : Bool} {w : Word} {value : BitVec (registerWidth sf)}
    (h : IsMove .moveWide sf w value) (address : Address) :
    ∃ i, decode w address = .ok i ∧ i.operation = .mov ∧
      i.decoded.loaded? (registerWidth sf) = some value := by
  obtain ⟨_, d, hd, hop, hload⟩ := h.meaning
  have hmeaning : Decode.meaning .dataProcessingImmediate w address = .ok d := by
    simp only [Decode.meaning, dataProcessingImmediate, h.ofWord]
    exact hd
  obtain ⟨inverted, -, -, rfl⟩ := moveWide_cases hd hop
  let os := [gpr w.sf w.rd, wideOperand w.sf inverted (w.field 21 2) (w.field 5 16)]
  refine ⟨⟨w, address, .dataProcessingImmediate, .mov, .ofList os⟩, ?_, rfl, ?_⟩
  · simp only [decode, h.group, hmeaning, os]
  · have hlen : os.length ≤ 5 := by simp [os]
    have hlist : (Operands.ofList os).toList = os := (Operands.holds_ofList hlen).toList
    simpa only [Instruction.decoded, Decoded.loaded?, hlist] using hload

end Decode

open Decode LogicalMask in
/-- A mask that the test finds is a halfword or the inverse of one, and a wide move for registers of
the same width is written as a move of it. The test finds every mask whose ones lie in one
halfword. -/
theorem isWideMoveWords_spec {sf : Bool} {n imms immr : Word} (hn : n = 0 ∨ n = 1)
    (hmask : expandWords n imms immr (registerWidth sf) ≠ 0) :
    let mask := expandWords n imms immr (registerWidth sf)
    (isWideMoveWords sf n imms immr = true →
      IsHalfword (registerWidth sf) mask.toNat ∧
      ∃ w inverted, IsMove .moveWide sf w (mask.setWidth (registerWidth sf)) ∧
        w.field 29 2 = wideOpcode inverted ∧
        ∀ address, ∃ i, decode w address = .ok i ∧ i.operation = .mov ∧
          i.decoded.loaded? (registerWidth sf) = some (mask.setWidth (registerWidth sf))) ∧
    ((∃ hw, ∀ i, mask.getLsbD i = true → i / 16 = hw) →
      isWideMoveWords sf n imms immr = true) := by
  have hn' : n.toNat = (n.setWidth 1).toNat := by rcases hn with rfl | rfl <;> rfl
  have hwidth := registerWidth_le sf
  simp only [isWideMoveWords, hn']
  refine ⟨fun htest => ?_, fun ⟨hw, hones⟩ => isWideMove_of_ones hmask hones⟩
  obtain ⟨hw, hhw, b, hu, hsome⟩ := uniformOutside_of_isWideMove hmask htest
  refine ⟨?_, ?_⟩
  · have hlow : ((expandWords n imms immr (registerWidth sf)).setWidth (registerWidth sf)).toNat =
        (expandWords n imms immr (registerWidth sf)).toNat := by
      rw [BitVec.toNat_setWidth, Nat.mod_eq_of_lt]
      refine Nat.lt_pow_two_of_testBit _ fun i hi => ?_
      rw [BitVec.testBit_toNat]
      exact getLsbD_expand_of_ge hi
    exact hlow ▸ isHalfword_of_uniformOutside hhw hu
  · obtain ⟨w, hopc, hmove⟩ := exists_isMove_of_uniformOutside hhw hu
      (exists_getLsbD_expand hmask hwidth (!b)) fun hb _ => hsome hb
    exact ⟨w, b, hmove, hopc, hmove.decode_moveWide⟩

open Decode LogicalMask in
/-- A mask with a single zero, from fields with bits that do not count, is moved by an inverted
halfword. -/
theorem singleZero_isWideMove :
    expandWords 1 0xfffffffe 0xffffffc5 (registerWidth true) = 0xfbffffffffffffff ∧
      isWideMoveWords true 1 0xfffffffe 0xffffffc5 = true ∧
      IsHalfword 64 0xfbffffffffffffff ∧
      ∃ w inverted, IsMove .moveWide true w 0xfbffffffffffffff ∧
        w.field 29 2 = wideOpcode inverted := by
  have hmask : expandWords 1 0xfffffffe 0xffffffc5 (registerWidth true) = 0xfbffffffffffffff := by
    decide +kernel
  have htest : isWideMoveWords true 1 0xfffffffe 0xffffffc5 = true := by decide
  obtain ⟨hhalf, w, inverted, hmove, hopc, -⟩ :=
    (isWideMoveWords_spec (.inr rfl) (hmask ▸ by decide)).1 htest
  rw [hmask] at hhalf hmove
  exact ⟨hmask, htest, hhalf, w, inverted, hmove, hopc⟩

end A64
