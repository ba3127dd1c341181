import A64.Proofs.OperandValues

/-!
# Texts in either base

An instruction is written with its immediates in hexadecimal or in decimal. The two texts differ in
the bases of their integers and in nothing else, and if there is no text then for the same reason
(`Text.valuesOf_operand`, `Text.valuesOf_operands`). The integers in a text are those of the
operands (`Instruction.render_values`).
-/

namespace A64

namespace Text

variable {decimal : Bool}

theorem valuesOf_immediate (width : Nat) (i : Immediate) :
    valuesOf (immediate false width i) = valuesOf (immediate true width i) := by
  have hvalue (decimal : Bool) : valuesOf (immediate decimal width i) =
      [.char '#', .integer (i.shown width)] ++ valuesOf (shiftSuffix i.shift) := by
    rw [immediate, immediateValue_eq, valuesOf_append _ (breaks_shiftSuffix _), valuesOf_signed]
  rw [hvalue, hvalue]

theorem valuesOf_mode (m : AddressingMode) :
    (mode false m).map valuesOf = (mode true m).map valuesOf := by
  rcases m with _ | offset | (offset | r) | offset | ⟨index, shift⟩
  · rfl
  · exact congrArg Except.ok (valuesOf_number ", " (by decide) offset)
  · have hvalue := valuesOf_number "], " (t := "") (by decide) offset
    rw [String.append_empty, String.append_empty] at hvalue
    exact congrArg Except.ok hvalue
  · rfl
  · simp only [mode]
    split
    · rfl
    · exact congrArg Except.ok (valuesOf_number ", " (by decide) offset)
  · rfl

theorem valuesOf_memory (m : MemoryOperand) :
    (memory false m).map valuesOf = (memory true m).map valuesOf := by
  by_cases hbase : m.base.file = .x
  · cases hname : registerName m.base with
    | error e => simp only [memory, hname]; rfl
    | ok name =>
      have hopen : Unmarked ("[" ++ name) :=
        unmarked_append.2 ⟨by decide, unmarked_registerName hname⟩
      have hvalue (decimal : Bool) : (memory decimal m).map valuesOf =
          ((mode decimal m.mode).map valuesOf).map (("[" ++ name).toList.map .char ++ ·) := by
        rw [memory, if_neg (by simp [hbase]), hname]
        cases hmode : mode decimal m.mode with
        | error e => rfl
        | ok rest => exact congrArg Except.ok (valuesOf_append_of_notMem hopen.notMem.1 rest)
      rw [hvalue, hvalue, valuesOf_mode]
  · rw [memory, memory, if_pos hbase, if_pos hbase]
    rfl

/-- An operand has a text in either base or in none, and the texts show the same. -/
theorem valuesOf_operand (o : Operand) :
    (operand false o).map valuesOf = (operand true o).map valuesOf := by
  cases o with
  | imm32 i => exact congrArg Except.ok (valuesOf_immediate 32 i)
  | imm64 i => exact congrArg Except.ok (valuesOf_immediate 64 i)
  | memory m => exact valuesOf_memory m
  | label target =>
    have hvalue (decimal : Bool) :
        valuesOf ("#" ++ number decimal target.toNat) = [.char '#', .integer target.toNat] := by
      rw [← signed_natCast, valuesOf_signed]
    exact congrArg Except.ok ((hvalue false).trans (hvalue true).symm)
  | _ => rfl

theorem valuesOf_slot (o : Option Operand) :
    (slot false o).map valuesOf = (slot true o).map valuesOf := by
  cases o with
  | none => rfl
  | some o => exact valuesOf_operand o

theorem valuesOf_operands (mnemonic : String) (index : Nat) (os : List (Option Operand)) :
    (operands false mnemonic index os).map (List.map valuesOf) =
      (operands true mnemonic index os).map (List.map valuesOf) := by
  induction os generalizing index with
  | nil => rfl
  | cons o os ih =>
    have hstep (decimal : Bool) :
        (operands decimal mnemonic index (o :: os)).map (List.map valuesOf) =
          match (slot decimal o).map valuesOf with
          | .error fault => .error (.invalidOperand mnemonic index fault)
          | .ok vs =>
            ((operands decimal mnemonic (index + 1) os).map (List.map valuesOf)).map (vs :: ·) := by
      rw [operands]
      cases slot decimal o with
      | error fault => rfl
      | ok text => cases operands decimal mnemonic (index + 1) os <;> rfl
    rw [hstep, hstep, ih, valuesOf_slot]

theorem valuesOf_line_cons (mnemonic t : String) (texts : List String) :
    valuesOf (line mnemonic (t :: texts)) =
      valuesOf mnemonic ++ (.char '\t' :: valuesOf (", ".intercalate (t :: texts))) := by
  have htab : Breaks ("\t" ++ ", ".intercalate (t :: texts)).toList :=
    breaks_append (by decide) (by decide) _
  show valuesOf (mnemonic ++ "\t" ++ ", ".intercalate (t :: texts)) = _
  rw [String.append_assoc, valuesOf_append _ htab, valuesOf_append_of_notMem (by decide)]
  rfl

theorem valuesOf_line {mnemonic : String} {texts texts' : List String}
    (h : texts.map valuesOf = texts'.map valuesOf) :
    valuesOf (line mnemonic texts) = valuesOf (line mnemonic texts') := by
  cases texts with
  | nil => rw [List.map_eq_nil_iff.1 h.symm]
  | cons t ts =>
    cases texts' with
    | nil => cases h
    | cons t' ts' =>
      rw [valuesOf_line_cons, valuesOf_line_cons, valuesOf_intercalate, valuesOf_intercalate, h]

theorem integers_line {mnemonic : String} (h : '#' ∉ mnemonic.toList) (texts : List String) :
    integers (line mnemonic texts) = texts.flatMap integers := by
  cases texts with
  | nil => exact integers_of_notMem h
  | cons t texts =>
    have hline : '#' ∉ (mnemonic ++ "\t").toList := by simp [h]
    exact (integers_append_of_notMem hline _).trans (integers_intercalate _)

theorem shows_operands {mnemonic : String} {index : Nat} {os : List (Option Operand)}
    {texts : List String} (h : operands decimal mnemonic index os = .ok texts) :
    List.Forall₂ (fun o t => ∃ o', o = some o' ∧ o'.Shows t) os texts := by
  refine (forall₂_of_operands h).imp fun o t hslot => ?_
  cases o with
  | none => cases hslot
  | some o => exact ⟨o, rfl, shows_operand hslot⟩

end Text

namespace Instruction

/-- The text is the mnemonic and a text for each operand, which shows the value of the operand;
there are no other integers in it. -/
def Shows (i : Instruction) (text : String) : Prop :=
  ∃ texts, text = Text.line i.mnemonic texts ∧
    Text.integers text = texts.flatMap Text.integers ∧
    List.Forall₂ (fun o t => ∃ o', o = some o' ∧ o'.Shows t) i.operands.used texts

theorem valuesOf_render (i : Instruction) :
    (i.render false).map Text.valuesOf = (i.render true).map Text.valuesOf := by
  by_cases hundefined : i.isUndefined
  · rw [render, render, if_pos hundefined, if_pos hundefined]
  · have hoperands := Text.valuesOf_operands i.mnemonic 0 i.operands.used
    rw [render, render, if_neg hundefined, if_neg hundefined]
    cases hhex : Text.operands false i.mnemonic 0 i.operands.used with
    | error e =>
      cases hdec : Text.operands true i.mnemonic 0 i.operands.used with
      | error e' =>
        rw [hhex, hdec] at hoperands
        exact congrArg Except.error (Except.error.inj hoperands)
      | ok texts => rw [hhex, hdec] at hoperands; cases hoperands
    | ok texts =>
      cases hdec : Text.operands true i.mnemonic 0 i.operands.used with
      | error e => rw [hhex, hdec] at hoperands; cases hoperands
      | ok texts' =>
        rw [hhex, hdec] at hoperands
        exact congrArg Except.ok (Text.valuesOf_line (Except.ok.inj hoperands))

theorem shows_of_render {i : Instruction} {decimal : Bool} {text : String}
    (h : i.render decimal = .ok text) : i.Shows text := by
  obtain ⟨texts, htexts, rfl⟩ := exists_texts_of_render h
  exact ⟨texts, rfl, Text.integers_line (Text.numberSign_notMem_name i.operation) texts,
    Text.shows_operands htexts⟩

/-- An instruction has a text in either base, and the texts are the same once their integers are
replaced by their values, or it has none in both for the same reason. In each text the integers are
the values of the operands. -/
theorem render_values (i : Instruction) :
    (i.render false).map Text.valuesOf = (i.render true).map Text.valuesOf ∧
      ∀ decimal text, i.render decimal = .ok text → i.Shows text :=
  ⟨i.valuesOf_render, fun _ _ => shows_of_render⟩

end Instruction

end A64
