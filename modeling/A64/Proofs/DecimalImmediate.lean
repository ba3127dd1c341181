import A64.Proofs.OperandValues

/-!
# Immediates that ask for decimal

An immediate can ask to be written in decimal whatever base its text is in. An unsigned one gets its
way, and has one text. A signed one does not: it is written in the base of the text like all others,
and its two texts differ.
-/

namespace A64

namespace Text

variable {decimal decimal' : Bool} {width : Nat} {i : Immediate}

theorem mark_mem_number_iff (decimal : Bool) (n : Nat) :
    'x' ∈ (number decimal n).toList ↔ decimal = false := by
  have hdigits : 'x' ∉ Nat.toDigits 10 n :=
    Numeral.notMem_toDigits (by decide) (by decide) n (by decide)
  cases decimal <;> simp [toList_number, base, hdigits]

theorem mark_mem_signed_iff (decimal : Bool) (v : Int) :
    'x' ∈ (signed decimal v).toList ↔ decimal = false := by
  have hsign : 'x' ∉ (if v < 0 then "-" else "").toList := by split <;> decide
  rw [signed, String.toList_append, List.mem_append, mark_mem_number_iff]
  exact or_iff_right hsign

theorem signed_eq_signed_iff {v : Int} :
    signed decimal v = signed decimal' v ↔ decimal = decimal' := by
  refine ⟨fun h => ?_, fun h => h ▸ rfl⟩
  have hmark : decimal = false ↔ decimal' = false := by
    rw [← mark_mem_signed_iff decimal v, ← mark_mem_signed_iff decimal' v, h]
  cases decimal <;> cases decimal' <;> simp at hmark ⊢

theorem immediate_eq_immediate_iff :
    immediate decimal width i = immediate decimal' width i ↔
      i.inDecimal decimal = i.inDecimal decimal' := by
  rw [immediate, immediate, immediateValue_eq, immediateValue_eq, String.append_left_inj,
    String.append_right_inj]
  exact signed_eq_signed_iff

/-- The base of the text does not matter to an immediate exactly if it asks for decimal and is
unsigned. -/
theorem immediate_base_iff :
    immediate false width i = immediate true width i ↔ i.decimal = true ∧ i.signed = false := by
  rw [immediate_eq_immediate_iff]
  simp [Immediate.inDecimal]

theorem immediate_unsigned (decimal : Bool) (width : Nat) (h : i.decimal = true)
    (hunsigned : i.signed = false) :
    immediate decimal width i =
      "#" ++ Numeral.decimal i.value.toNat ++ shiftSuffix i.shift := by
  simp [immediate, immediateValue, hunsigned, h, number]

/-- A signed immediate is written in the base of the text, whatever it asks for. -/
theorem immediate_signed (decimal : Bool) (width : Nat) (hsigned : i.signed = true) :
    immediate decimal width i =
      "#" ++ signed decimal (i.value.setWidth width).toInt ++ shiftSuffix i.shift := by
  simp [immediate, immediateValue, hsigned]

/-- An immediate that asks for decimal has the same text in both bases exactly if it is unsigned. It
is then in decimal, and a signed one in the base of the text. -/
theorem operand_of_decimal {o : Operand} (h : i.decimal = true)
    (ho : (o = .imm32 i ∧ width = 32) ∨ (o = .imm64 i ∧ width = 64)) :
    (operand false o = operand true o ↔ i.signed = false) ∧
      ∀ decimal, operand decimal o = .ok
        (if i.signed then
          "#" ++ signed decimal (i.value.setWidth width).toInt ++ shiftSuffix i.shift
        else "#" ++ Numeral.decimal i.value.toNat ++ shiftSuffix i.shift) := by
  have htext (decimal : Bool) : operand decimal o = .ok (immediate decimal width i) := by
    rcases ho with ⟨rfl, rfl⟩ | ⟨rfl, rfl⟩ <;> rfl
  refine ⟨?_, fun decimal => ?_⟩
  · rw [htext, htext, Except.ok.injEq, immediate_base_iff, h]
    exact and_iff_right rfl
  · rw [htext]
    split
    · exact congrArg Except.ok (immediate_signed decimal width ‹_›)
    · rename_i hunsigned
      exact congrArg Except.ok (immediate_unsigned decimal width h (Bool.eq_false_iff.2 hunsigned))

/-- The rotation by three quarters of a turn has one text. -/
theorem operand_of_decimal_rotation :
    ((⟨270, false, none, true⟩ : Immediate).decimal = true) ∧
      (operand false (Decode.immDecimal 270) = operand true (Decode.immDecimal 270) ↔
        (⟨270, false, none, true⟩ : Immediate).signed = false) := by
  have hfits : (⟨270, false, none, true⟩ : Immediate).decimal = true := rfl
  exact ⟨hfits, (operand_of_decimal hfits (.inl ⟨rfl, rfl⟩)).1⟩

/-- A signed immediate that asks for decimal has a hexadecimal text. -/
theorem operand_of_signed_decimal :
    (⟨255, true, none, true⟩ : Immediate).decimal = true ∧
      operand false (.imm32 ⟨255, true, none, true⟩) = .ok "#0xff" ∧
      operand true (.imm32 ⟨255, true, none, true⟩) = .ok "#255" ∧
      operand false (.imm32 ⟨255, true, none, true⟩) ≠
        operand true (.imm32 ⟨255, true, none, true⟩) := by
  have hhex : operand false (.imm32 ⟨255, true, none, true⟩) = .ok "#0xff" := by decide +kernel
  have hdecimal : operand true (.imm32 ⟨255, true, none, true⟩) = .ok "#255" := by decide +kernel
  refine ⟨rfl, hhex, hdecimal, ?_⟩
  rw [hhex, hdecimal]
  decide

end Text

end A64
