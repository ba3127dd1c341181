import A64.Proofs.DecodeContract
import A64.Proofs.FloatFormat
import A64.Proofs.LogicalMask
import A64.Proofs.ShiftAmount

/-!
# The constant that is printed is the one that is loaded

Two functions take apart the fields of a modified immediate: the decoder builds the operands, and
`VectorImmediate.expand` computes the 64 bits that each half of the vector is filled from.
`ShowsConstant` says that the operands show these bits: as a shifted number or the bits of a
floating-point number, repeated over the elements, or as a floating-point number of the same value.
-/

namespace A64

/-- The pattern of an element that an immediate shows: its value, shifted to the left over zeros, or
over ones by the shift that masks. -/
def Immediate.pattern? (i : Immediate) : Option Nat :=
  match i.shift with
  | none => some i.value.toNat
  | some ⟨.lsl, some amount⟩ => some (i.value.toNat <<< amount)
  | some ⟨.msl, some amount⟩ => some (i.value.toNat <<< amount + (2 ^ amount - 1))
  | _ => none

/-- The bits are the pattern of an element of `width` bits, repeated from bit 0 upward. -/
structure Repeats (width pattern : Nat) (bits : BitVec 64) : Prop where
  fits : pattern < 2 ^ width
  bit : ∀ k < 64, bits.getLsbD k = pattern.testBit (k % width)

/-- The operands show the bits that a vector is filled from. -/
inductive ShowsConstant (bits : BitVec 64) : Decoded → Prop
  | integer {op : Operation} {o value : Operand} {i : Immediate} {width pattern : Nat}
    (hop : op ∈ [Operation.movi, .mvni, .orr, .bic]) (hwidth : o.elementBits? = some width)
    (hvalue : value = .imm32 i ∨ value = .imm64 i) (hunsigned : i.signed = false)
    (hpattern : i.pattern? = some pattern) (hbits : Repeats width pattern bits) :
    ShowsConstant bits ⟨op, [o, value]⟩
  | single {o : Operand} {number : BitVec 32} (hwidth : o.elementBits? = some 32)
    (hbits : Repeats 32 number.toNat bits) : ShowsConstant bits ⟨.fmov, [o, .float number]⟩
  | double {o : Operand} {number : BitVec 32} {r : ℚ} (hwidth : o.elementBits? = some 64)
    (hbits : FloatFormat.double.value? bits.toNat = some r)
    (hnumber : FloatFormat.single.value? number.toNat = some r) :
    ShowsConstant bits ⟨.fmov, [o, .float number]⟩

theorem repeats_spread {n : Nat} (hn : 0 < n) (pattern : BitVec n) :
    Repeats n pattern.toNat (spread pattern 64) :=
  ⟨pattern.isLt, fun _ hk => getLsbD_spread hn (Nat.le_refl 64) pattern hk⟩

theorem repeats_whole (bits : BitVec 64) : Repeats 64 bits.toNat bits :=
  ⟨bits.isLt, fun k hk => by rw [Nat.mod_eq_of_lt hk]; rfl⟩

/-- A byte that is shifted within the element keeps all its bits. -/
theorem toNat_shiftLeft_byte (imm8 : BitVec 8) {n amount : Nat} (h : 8 + amount ≤ n) :
    (imm8.setWidth n <<< amount).toNat = imm8.toNat <<< amount := by
  have hlt : imm8.toNat < 2 ^ n :=
    Nat.lt_of_lt_of_le imm8.isLt (Nat.pow_le_pow_right (by decide) (by omega))
  have hshift : imm8.toNat <<< amount < 2 ^ n := by
    rw [Nat.shiftLeft_eq]
    calc imm8.toNat * 2 ^ amount < 2 ^ 8 * 2 ^ amount :=
          Nat.mul_lt_mul_of_pos_right imm8.isLt (Nat.two_pow_pos _)
      _ = 2 ^ (8 + amount) := (Nat.pow_add ..).symm
      _ ≤ 2 ^ n := Nat.pow_le_pow_right (by decide) h
  rw [BitVec.toNat_shiftLeft, BitVec.toNat_setWidth, Nat.mod_eq_of_lt hlt, Nat.mod_eq_of_lt hshift]

namespace VectorImmediate

variable {op : BitVec 1} {cmode : BitVec 4} {imm8 : BitVec 8}

/-- Bits 1 and 2 of the selecting field are the byte of a word that the immediate goes to. -/
theorem expand_word (h : cmode < 8) : expand op cmode imm8 =
    spread (imm8.setWidth 32 <<< (8 * (cmode.extractLsb' 1 2).toNat)) 64 := by
  have hall : ∀ c : BitVec 4, c < 8 →
      c = 0 ∨ c = 1 ∨ c = 2 ∨ c = 3 ∨ c = 4 ∨ c = 5 ∨ c = 6 ∨ c = 7 := by decide
  rcases hall cmode h with rfl | rfl | rfl | rfl | rfl | rfl | rfl | rfl <;> simp [expand]

/-- Bit 1 of the selecting field is the byte of a halfword that the immediate goes to. -/
theorem expand_half (h : 8 ≤ cmode ∧ cmode < 12) : expand op cmode imm8 =
    spread (imm8.setWidth 16 <<< (8 * (cmode.extractLsb' 1 1).toNat)) 64 := by
  have hall : ∀ c : BitVec 4, 8 ≤ c ∧ c < 12 → c = 8 ∨ c = 9 ∨ c = 10 ∨ c = 11 := by decide
  rcases hall cmode h with rfl | rfl | rfl | rfl <;> simp [expand]

theorem expand_ones8 :
    expand op 12#4 imm8 = spread (imm8.setWidth 32 <<< 8 ||| 0xff#32) 64 := rfl

theorem expand_ones16 :
    expand op 13#4 imm8 = spread (imm8.setWidth 32 <<< 16 ||| 0xffff#32) 64 := rfl

theorem expand_bytes : expand 0#1 14#4 imm8 = spread (imm8.setWidth 8 <<< 0) 64 := by
  rw [BitVec.setWidth_eq, BitVec.shiftLeft_zero]
  rfl

theorem expand_single : expand 0#1 15#4 imm8 = spread (single imm8) 64 := rfl

theorem expand_double : expand 1#1 15#4 imm8 = double imm8 := rfl

end VectorImmediate

namespace Decode

variable {op : Operation} {imm8 : BitVec 8} {n : BitVec 5} {e : ElementSize} {q : Bool}
  {amount : Nat}

theorem constantOperation_mem (combine invert : Bool) :
    constantOperation combine invert ∈ [Operation.movi, .mvni, .orr, .bic] := by
  cases combine <;> cases invert <;> decide

theorem toNat_setWidth_byte (imm8 : BitVec 8) : (imm8.setWidth 64).toNat = imm8.toNat :=
  BitVec.toNat_setWidth_of_le (by decide)

theorem pattern?_immLsl (imm8 : BitVec 8) (amount : Nat) :
    ∃ i : Immediate, immLsl imm8 amount = .imm32 i ∧ i.signed = false ∧
      i.pattern? = some (imm8.toNat <<< amount) := by
  unfold immLsl
  split
  · rename_i h
    exact ⟨_, rfl, rfl, by rw [h]; exact congrArg some (toNat_setWidth_byte imm8)⟩
  · exact ⟨_, rfl, rfl, congrArg (fun v => some (v <<< amount)) (toNat_setWidth_byte imm8)⟩

theorem showsConstant_immLsl (hop : op ∈ [Operation.movi, .mvni, .orr, .bic])
    (h : 8 + amount ≤ e.bits) :
    ShowsConstant (spread (imm8.setWidth e.bits <<< amount) 64)
      ⟨op, [vector n e q, immLsl imm8 amount]⟩ := by
  obtain ⟨i, hi, hunsigned, hpattern⟩ := pattern?_immLsl imm8 amount
  refine .integer hop elementBits?_vector (.inl hi) hunsigned hpattern ?_
  rw [← toNat_shiftLeft_byte imm8 h]
  exact repeats_spread (by omega) _

theorem showsConstant_msl (hop : op ∈ [Operation.movi, .mvni, .orr, .bic]) (h : 8 + amount ≤ 32)
    {ones : BitVec 32} (hones : ones.toNat = 2 ^ amount - 1) :
    ShowsConstant (spread (imm8.setWidth 32 <<< amount ||| ones) 64)
      ⟨op, [vector n .s q, immShift imm8 (.ofAmount .msl amount)]⟩ := by
  have hpattern : (imm8.setWidth 32 <<< amount ||| ones).toNat =
      (imm8.setWidth 64).toNat <<< amount + (2 ^ amount - 1) := by
    have hlt : 2 ^ amount - 1 < 2 ^ amount := Nat.sub_lt (Nat.two_pow_pos _) (by decide)
    rw [BitVec.toNat_or, toNat_shiftLeft_byte imm8 h, hones, toNat_setWidth_byte,
      Nat.shiftLeft_add_eq_or_of_lt hlt]
  refine .integer hop elementBits?_vector (.inl rfl) rfl rfl ?_
  rw [← hpattern]
  exact repeats_spread (by decide) _

theorem showsConstant_bytes :
    ShowsConstant (VectorImmediate.expand 0#1 14#4 imm8) ⟨.movi, [vector n .b q, imm imm8]⟩ := by
  have hop : Operation.movi ∈ [Operation.movi, .mvni, .orr, .bic] := by decide
  have hfits : 8 + 0 ≤ ElementSize.b.bits := by decide
  have himm : imm imm8 = immLsl imm8 0 := rfl
  rw [VectorImmediate.expand_bytes, himm]
  exact showsConstant_immLsl (e := .b) hop hfits

theorem showsConstant_imm64 {o : Operand} (bits : BitVec 64) (h : o.elementBits? = some 64) :
    ShowsConstant bits ⟨.movi, [o, imm64 bits]⟩ :=
  .integer (by decide) h (.inr rfl) rfl rfl (repeats_whole bits)

theorem showsConstant_single :
    ShowsConstant (VectorImmediate.expand 0#1 15#4 imm8)
      ⟨.fmov, [vector n .s q, .float (VectorImmediate.single imm8)]⟩ := by
  rw [VectorImmediate.expand_single]
  exact .single elementBits?_vector (repeats_spread (by decide) _)

theorem showsConstant_double :
    ShowsConstant (VectorImmediate.expand 1#1 15#4 imm8)
      ⟨.fmov, [vector n .d q, .float (VectorImmediate.single imm8)]⟩ := by
  obtain ⟨r, hdouble, hsingle⟩ := (VectorImmediate.widens_double imm8).value?_eq (by decide)
  rw [VectorImmediate.expand_double]
  exact .double elementBits?_vector hdouble hsingle

theorem showsConstant_modifiedImmediate {word : Word} (h11 : word.bit 11 = false) :
    Yields (ShowsConstant (VectorImmediate.expand (word.field 29 1) (word.field 12 4)
      (word.field 16 3 ++ word.field 5 5))) (modifiedImmediate word) := by
  simp only [modifiedImmediate, h11, Bool.false_eq_true, if_false]
  generalize word.field 16 3 ++ word.field 5 5 = imm8
  split <;> rename_i hcmode
  · rw [hcmode, VectorImmediate.expand_ones8]
    exact showsConstant_msl (constantOperation_mem _ _) (by decide) rfl
  · rw [hcmode, VectorImmediate.expand_ones16]
    exact showsConstant_msl (constantOperation_mem _ _) (by decide) rfl
  · rw [hcmode]
    split <;> rename_i h29
    · rw [Word.field_eq_zero_iff.2 h29]
      exact showsConstant_bytes
    · rw [Word.field_eq_one_iff.2 (eq_true_of_ne_false h29)]
      split
      · exact showsConstant_imm64 _ elementBits?_vector
      · exact showsConstant_imm64 _ elementBits?_scalar
  · rw [hcmode]
    split <;> rename_i h29
    · rw [Word.field_eq_zero_iff.2 h29]
      exact showsConstant_single
    · rw [Word.field_eq_one_iff.2 (eq_true_of_ne_false h29)]
      split
      · exact showsConstant_double
      · simp
  · rename_i h12 h13 h14
    have hlow : ∀ c : BitVec 4, c ≠ 12 → c ≠ 13 → c ≠ 14 → c ≠ 15 →
        c < 12 ∧ (c.getLsbD 3 = true ↔ 8 ≤ c) ∧ (c.getLsbD 3 = false ↔ c < 8) := by decide
    obtain ⟨hlt, hhalf, hword⟩ := hlow _ h12 h13 h14 hcmode
    rw [Field.getLsbD_field (show 3 < 4 by decide)] at hhalf hword
    split <;> rename_i h15
    · have hshift : 8 + 8 * (word.field 13 1).toNat ≤ ElementSize.h.bits := by
        have hbit := (word.field 13 1).isLt
        simp only [ElementSize.bits, ElementSize.log2]
        omega
      rw [VectorImmediate.expand_half ⟨hhalf.1 h15, hlt⟩,
        word.field_field (show 1 + 1 ≤ 4 by decide)]
      exact showsConstant_immLsl (e := .h) (constantOperation_mem _ _) hshift
    · have hshift : 8 + 8 * (word.field 13 2).toNat ≤ ElementSize.s.bits := by
        have hbits := (word.field 13 2).isLt
        simp only [ElementSize.bits, ElementSize.log2]
        omega
      rw [VectorImmediate.expand_word (hword.1 (eq_false_of_ne_true h15)),
        word.field_field (show 1 + 2 ≤ 4 by decide)]
      exact showsConstant_immLsl (e := .s) (constantOperation_mem _ _) hshift

end Decode

/-- The operands of a modified immediate show the bits that the vector is filled from. -/
theorem decode_showsConstant {word : Word} {address : Address} {i : Instruction}
    (hgroup : Group.ofWord? word = some .dataProcessingVector)
    (hclass : Decode.VectorClass.ofWord word = .ok .modifiedImmediate)
    (h11 : word.bit 11 = false) (h : decode word address = .ok i) :
    ShowsConstant (VectorImmediate.expand (word.field 29 1) (word.field 12 4)
      (word.field 16 3 ++ word.field 5 5)) ⟨i.operation, i.operands.toList⟩ := by
  have hmeaning := (meaning_of_decode hgroup (by decide) h).2
  simp only [Decode.meaning, Decode.dataProcessingVector, hclass] at hmeaning
  exact Decode.yields_iff.1 (Decode.showsConstant_modifiedImmediate h11) _ hmeaning

/-- Doubles of value one, which print as a number of single precision. -/
theorem moveDoubles_showsConstant :
    Group.ofWord? 0x6f03f600 = some .dataProcessingVector ∧
      Decode.VectorClass.ofWord 0x6f03f600 = .ok .modifiedImmediate ∧
      Word.bit 0x6f03f600 11 = false ∧
      ∃ i : Instruction, decode 0x6f03f600 0 = .ok i ∧
        i.operands.toList = [Decode.vector 0 .d true, .float 0x3f800000] ∧
        VectorImmediate.expand (Word.field 0x6f03f600 29 1) (Word.field 0x6f03f600 12 4)
          (Word.field 0x6f03f600 16 3 ++ Word.field 0x6f03f600 5 5) = 0x3ff0000000000000 ∧
        ShowsConstant (VectorImmediate.expand (Word.field 0x6f03f600 29 1)
          (Word.field 0x6f03f600 12 4) (Word.field 0x6f03f600 16 3 ++ Word.field 0x6f03f600 5 5))
          ⟨i.operation, i.operands.toList⟩ := by
  have hgroup : Group.ofWord? 0x6f03f600 = some .dataProcessingVector := by decide
  have hclass : Decode.VectorClass.ofWord 0x6f03f600 = .ok .modifiedImmediate := by decide
  have h11 : Word.bit 0x6f03f600 11 = false := by decide
  have h : decode 0x6f03f600 0 = .ok ⟨0x6f03f600, 0, .dataProcessingVector, .fmov,
      .ofList [Decode.vector 0 .d true, .float 0x3f800000]⟩ := by
    decide +kernel
  exact ⟨hgroup, hclass, h11, _, h, rfl, by decide,
    decode_showsConstant hgroup hclass h11 h⟩

end A64
