import A64.Proofs.ImmediateWord
import A64.Text

/-!
# Shift amounts

A shift by an immediate has one field for the element and the amount. The highest bit of the field
selects the element, and the amount is what the field exceeds the element's width by, for shifts to
the left, or what it lacks to twice the width, for all others. `ShiftAmount` says for each form
which amounts are written and how they give the field back. Words on vectors and on scalars with the
same field agree on the amount (`shiftAmount_of_decode`).
-/

namespace A64

namespace Operation

def rightShifts : List Operation := [sshr, ssra, srshr, srsra, ushr, usra, urshr, ursra, sri]

def fixedPoint : List Operation := [scvtf, ucvtf, fcvtzs, fcvtzu]

def narrowingShifts : List Operation :=
  [shrn, shrn2, rshrn, rshrn2, sqshrn, sqshrn2, sqrshrn, sqrshrn2, sqshrun, sqshrun2, sqrshrun,
    sqrshrun2, uqshrn, uqshrn2, uqrshrn, uqrshrn2]

def leftShifts : List Operation := [shl, sqshl, sli, sqshlu, uqshl]

def wideningShifts : List Operation := [sshll, sshll2, ushll, ushll2]

def extensions : List Operation := [sxtl, sxtl2, uxtl, uxtl2]

end Operation

def Operand.elementBits? : Operand → Option Nat
  | register ⟨_, some a, _, _⟩ => some a.element.bits
  | register ⟨r, none, _, _⟩ => some r.file.bits
  | _ => none

/-- The third operand is written as the number, in either base. -/
def WritesAmount (os : List Operand) (amount : Nat) : Prop :=
  ∃ o, os[2]? = some o ∧
    ∀ decimal, Text.operand decimal o = .ok ("#" ++ Text.number decimal amount)

/-- An operation on elements of `width` bits, its field, and the amount that it writes. Where the
width changes, it is that of the narrow elements. -/
inductive ShiftAmount (width field : Nat) (op : Operation) (os : List Operand) : Prop
  | right {s : Nat} (hop : op ∈ Operation.rightShifts ++ Operation.fixedPoint)
    (helements : os.filterMap Operand.elementBits? = [width, width]) (hs : WritesAmount os s)
    (hrange : 1 ≤ s ∧ s ≤ width) (hfield : field = 2 * width - s)
  | narrow {s : Nat} (hop : op ∈ Operation.narrowingShifts)
    (helements : os.filterMap Operand.elementBits? = [width, 2 * width]) (hs : WritesAmount os s)
    (hrange : 1 ≤ s ∧ s ≤ width) (hfield : field = 2 * width - s)
  | left {s : Nat} (hop : op ∈ Operation.leftShifts)
    (helements : os.filterMap Operand.elementBits? = [width, width]) (hs : WritesAmount os s)
    (hrange : s < width) (hfield : field = width + s)
  | widen {s : Nat} (hop : op ∈ Operation.wideningShifts)
    (helements : os.filterMap Operand.elementBits? = [2 * width, width]) (hs : WritesAmount os s)
    (hrange : 1 ≤ s ∧ s < width) (hfield : field = width + s)
  | extend (hop : op ∈ Operation.extensions)
    (helements : os.filterMap Operand.elementBits? = [2 * width, width]) (hs : os.length = 2)
    (hfield : field = width)

namespace Decode

/-- The width of the element that the highest bit of the field selects. -/
def shiftWidth (word : Word) : Nat := 8 * 2 ^ (word.field 19 4).toNat.log2

/-- The word is a shift by an immediate, of vectors or of scalars. -/
def ShiftWord (word : Word) : Prop :=
  Group.ofWord? word = some .dataProcessingVector ∧
    ∃ e, VectorClass.ofWord word = .ok (.shiftImmediate e) ∨
      VectorClass.ofWord word = .ok (.scalarShiftImmediate e)

variable {w w' : Word} {e : ElementSize} {n : BitVec 5} {q : Bool} {d : Decoded}

theorem bits_eq_shiftWidth (h : shiftElement? (w.field 19 4) = some e) : e.bits = shiftWidth w := by
  have hall : ∀ b : BitVec 4, ∀ e ∈ shiftElement? b, e.bits = 8 * 2 ^ b.toNat.log2 := by decide
  exact hall _ e h

theorem double_bits (he : e ≠ .q) : e.double.bits = 2 * e.bits := by
  cases e <;> first | rfl | exact absurd rfl he

@[simp] theorem elementBits?_vector : (vector n e q).elementBits? = some e.bits := rfl

@[simp] theorem elementBits?_scalar : (scalar e n).elementBits? = some e.bits := by
  cases e <;> rfl

@[simp] theorem elementBits?_immNat {value : Nat} : (immNat value).elementBits? = none := rfl

theorem writesAmount {o₀ o₁ : Operand} {amount : Nat} (h : amount < 2 ^ 32) :
    WritesAmount [o₀, o₁, immNat amount] amount := by
  refine ⟨immNat amount, rfl, fun decimal => ?_⟩
  have hvalue : amount % 4294967296 = amount := Nat.mod_eq_of_lt h
  simp [Text.operand, immNat, imm, Text.immediate, Text.immediateValue, Text.shiftSuffix, hvalue]

/-- What a shift of a form means, of vectors or of scalars. -/
inductive ShiftMeaning (w : Word) (e : ElementSize) (op : Operation) : ShiftForm → Decoded → Prop
  | right {o₀ o₁ : Operand} (h₀ : o₀.elementBits? = some e.bits)
    (h₁ : o₁.elementBits? = some e.bits) :
    ShiftMeaning w e op .right ⟨op, [o₀, o₁, immNat (rightAmount w e)]⟩
  | fixed {o₀ o₁ : Operand} (h₀ : o₀.elementBits? = some e.bits)
    (h₁ : o₁.elementBits? = some e.bits) :
    ShiftMeaning w e op .fixed ⟨op, [o₀, o₁, immNat (rightAmount w e)]⟩
  | left {o₀ o₁ : Operand} (h₀ : o₀.elementBits? = some e.bits)
    (h₁ : o₁.elementBits? = some e.bits) :
    ShiftMeaning w e op .left ⟨op, [o₀, o₁, immNat (leftAmount w e)]⟩
  | narrow {upper op' : Operation} {o₀ o₁ : Operand} (hop : op' = op ∨ op' = upper)
    (h₀ : o₀.elementBits? = some e.bits) (h₁ : o₁.elementBits? = some e.double.bits) :
    ShiftMeaning w e op (.narrow upper) ⟨op', [o₀, o₁, immNat (rightAmount w e)]⟩
  | long {upper extend extendUpper op' : Operation} {o₀ o₁ : Operand} (hop : op' = op ∨ op' = upper)
    (h₀ : o₀.elementBits? = some e.double.bits) (h₁ : o₁.elementBits? = some e.bits)
    (hamount : leftAmount w e ≠ 0) :
    ShiftMeaning w e op (.long upper extend extendUpper) ⟨op', [o₀, o₁, immNat (leftAmount w e)]⟩
  | extend {upper extend extendUpper op' : Operation} {o₀ o₁ : Operand}
    (hop : op' = extend ∨ op' = extendUpper) (h₀ : o₀.elementBits? = some e.double.bits)
    (h₁ : o₁.elementBits? = some e.bits) (hamount : leftAmount w e = 0) :
    ShiftMeaning w e op (.long upper extend extendUpper) ⟨op', [o₀, o₁]⟩

theorem ite_eq_or {α : Type} (c : Bool) (a b : α) :
    (if c then a else b) = b ∨ (if c then a else b) = a := by
  cases c <;> simp

theorem shiftMeaning_of_vectors (h : shiftImmediate w e = .ok d) :
    ∃ op form, shift? w.u (w.field 11 5) = some (op, form) ∧ ShiftMeaning w e op form d := by
  simp only [shiftImmediate] at h
  cases hrow : shift? w.u (w.field 11 5) with
  | none => simp [hrow, reserved] at h
  | some row =>
    obtain ⟨op, form⟩ := row
    refine ⟨op, form, rfl, ?_⟩
    simp only [hrow] at h
    cases form with
    | right =>
      dsimp only at h
      split at h <;> cases h
      exact .right (by simp) (by simp)
    | left =>
      dsimp only at h
      split at h <;> cases h
      exact .left (by simp) (by simp)
    | fixed =>
      dsimp only at h
      split at h
      · cases h
      · split at h <;> cases h
        exact .fixed (by simp) (by simp)
    | narrow upper =>
      dsimp only at h
      split at h <;> cases h
      exact .narrow (ite_eq_or ..) (by simp) (by simp)
    | long upper extend extendUpper =>
      dsimp only at h
      split at h
      · cases h
      · split at h <;> cases h
        · exact .extend (ite_eq_or ..) (by simp) (by simp) ‹_›
        · exact .long (ite_eq_or ..) (by simp) (by simp) ‹_›

theorem shiftMeaning_of_scalars (h : scalarShiftImmediate w e = .ok d) :
    ∃ op form, shift? w.u (w.field 11 5) = some (op, form) ∧ ShiftMeaning w e op form d := by
  simp only [scalarShiftImmediate] at h
  cases hrow : shift? w.u (w.field 11 5) with
  | none => simp [hrow, reserved] at h
  | some row =>
    obtain ⟨op, form⟩ := row
    refine ⟨op, form, rfl, ?_⟩
    simp only [hrow] at h
    cases form with
    | right =>
      dsimp only at h
      split at h <;> cases h
      exact .right (by simp) (by simp)
    | left =>
      dsimp only at h
      split at h <;> cases h
      exact .left (by simp) (by simp)
    | fixed =>
      dsimp only at h
      split at h <;> cases h
      exact .fixed (by simp) (by simp)
    | narrow upper =>
      dsimp only at h
      split at h
      · cases h
      · split at h <;> cases h
        exact .narrow (.inl rfl) (by simp) (by simp)
    | long upper extend extendUpper => cases h

def ShiftForm.Listed (op : Operation) : ShiftForm → Prop
  | right => op ∈ Operation.rightShifts
  | fixed => op ∈ Operation.fixedPoint
  | left => op ∈ Operation.leftShifts
  | narrow upper => op ∈ Operation.narrowingShifts ∧ upper ∈ Operation.narrowingShifts
  | long upper extend extendUpper =>
    (op ∈ Operation.wideningShifts ∧ upper ∈ Operation.wideningShifts) ∧
      extend ∈ Operation.extensions ∧ extendUpper ∈ Operation.extensions

instance (op : Operation) : (form : ShiftForm) → Decidable (form.Listed op)
  | .right | .fixed | .left => inferInstanceAs (Decidable (_ ∈ _))
  | .narrow _ | .long _ _ _ => inferInstanceAs (Decidable (_ ∧ _))

theorem shift?_listed : ∀ (u : Bool) (opcode : BitVec 5), ∀ row ∈ shift? u opcode,
    row.2.Listed row.1 := by
  decide +kernel

def ShiftForm.widens : ShiftForm → Bool
  | long _ _ _ => true
  | right | left | narrow _ | fixed => false

theorem shift?_widens : ∀ (u : Bool) (opcode : BitVec 5), ∀ row ∈ shift? u opcode,
    row.2.widens = true ↔ opcode = 0b10100 := by
  decide +kernel

theorem mem_of_eq_or {op lower upper : Operation} {ops : List Operation}
    (hop : op = lower ∨ op = upper) (hlower : lower ∈ ops) (hupper : upper ∈ ops) : op ∈ ops := by
  rcases hop with rfl | rfl
  · exact hlower
  · exact hupper

theorem rightAmount_bounds (h : ShiftsElement e w) :
    (1 ≤ rightAmount w e ∧ rightAmount w e ≤ e.bits) ∧
      shiftField w = 2 * e.bits - rightAmount w e := by
  obtain ⟨hle, hlt⟩ := h
  unfold rightAmount
  omega

theorem leftAmount_bounds (h : ShiftsElement e w) :
    leftAmount w e < e.bits ∧ shiftField w = e.bits + leftAmount w e := by
  obtain ⟨hle, hlt⟩ := h
  unfold leftAmount
  omega

theorem shiftAmount_of_meaning {op : Operation} {form : ShiftForm}
    (he : shiftElement? (w.field 19 4) = some e) (hform : form.Listed op)
    (h : ShiftMeaning w e op form d) :
    ShiftAmount (shiftWidth w) (shiftField w) d.operation d.operands := by
  obtain ⟨hright, hrightField⟩ := rightAmount_bounds (shiftsElement he).2
  obtain ⟨hleft, hleftField⟩ := leftAmount_bounds (shiftsElement he).2
  have hdouble : e.double.bits = 2 * e.bits := double_bits (ne_q_of_shiftElement? he)
  have hbits := bits_le e
  rw [← bits_eq_shiftWidth he]
  cases h with
  | right h₀ h₁ =>
    exact .right (List.mem_append_left _ hform) (by simp [h₀, h₁]) (writesAmount (by omega))
      hright hrightField
  | fixed h₀ h₁ =>
    exact .right (List.mem_append_right _ hform) (by simp [h₀, h₁]) (writesAmount (by omega))
      hright hrightField
  | left h₀ h₁ =>
    exact .left hform (by simp [h₀, h₁]) (writesAmount (by omega)) hleft hleftField
  | narrow hop h₀ h₁ =>
    exact .narrow (mem_of_eq_or hop hform.1 hform.2) (by simp [h₀, h₁, hdouble])
      (writesAmount (by omega)) hright hrightField
  | long hop h₀ h₁ hamount =>
    exact .widen (mem_of_eq_or hop hform.1.1 hform.1.2) (by simp [h₀, h₁, hdouble])
      (writesAmount (by omega)) ⟨Nat.one_le_iff_ne_zero.2 hamount, hleft⟩ hleftField
  | extend hop h₀ h₁ hamount =>
    exact .extend (mem_of_eq_or hop hform.2.1 hform.2.2) (by simp [h₀, h₁, hdouble]) rfl (by omega)

/-- A shift that widens is an extension if its field is the width itself. -/
theorem extends_iff_of_meaning {op : Operation} {form : ShiftForm}
    (he : shiftElement? (w.field 19 4) = some e) (hform : form.Listed op)
    (h : ShiftMeaning w e op form d) :
    d.operation ∈ Operation.extensions ↔ form.widens = true ∧ shiftField w = shiftWidth w := by
  open Operation in
  have hother : ∀ ops ∈ [rightShifts, fixedPoint, narrowingShifts, leftShifts, wideningShifts],
      ∀ op ∈ ops, op ∉ extensions := by decide
  have hle := (shiftsElement he).2.1
  rw [← bits_eq_shiftWidth he]
  cases h with
  | right => exact iff_of_false (hother Operation.rightShifts (by simp) _ hform) (by nofun)
  | fixed => exact iff_of_false (hother Operation.fixedPoint (by simp) _ hform) (by nofun)
  | left => exact iff_of_false (hother Operation.leftShifts (by simp) _ hform) (by nofun)
  | narrow hop =>
    have hmem := mem_of_eq_or hop hform.1 hform.2
    exact iff_of_false (hother Operation.narrowingShifts (by simp) _ hmem) (by nofun)
  | long hop _ _ hamount =>
    have hmem := mem_of_eq_or hop hform.1.1 hform.1.2
    refine iff_of_false (hother Operation.wideningShifts (by simp) _ hmem) ?_
    rintro ⟨-, hfield⟩
    exact hamount (Nat.sub_eq_zero_of_le (Nat.le_of_eq hfield))
  | extend hop _ _ hamount =>
    have hmem := mem_of_eq_or hop hform.2.1 hform.2.2
    exact iff_of_true hmem ⟨rfl, Nat.le_antisymm (Nat.le_of_sub_eq_zero hamount) hle⟩

/-! ### The amount is a function of the fields -/

def ShiftForm.operand? (w : Word) (e : ElementSize) : ShiftForm → Option Operand
  | right | fixed | narrow _ => some (immNat (rightAmount w e))
  | left => some (immNat (leftAmount w e))
  | long _ _ _ => if leftAmount w e = 0 then none else some (immNat (leftAmount w e))

theorem operand?_of_meaning {op : Operation} {form : ShiftForm}
    (h : ShiftMeaning w e op form d) : d.operands[2]? = form.operand? w e := by
  cases h with
  | right | fixed | left | narrow => rfl
  | long _ _ _ hamount => simp [ShiftForm.operand?, hamount]
  | extend _ _ _ hamount => simp [ShiftForm.operand?, hamount]

structure SameShift (w w' : Word) : Prop where
  u : w.u = w'.u
  opcode : w.field 11 5 = w'.field 11 5
  field : w.field 16 7 = w'.field 16 7

theorem SameShift.element (h : SameShift w w') : w.field 19 4 = w'.field 19 4 := by
  have hpart (w : Word) : w.field 19 4 = (w.field 16 7).extractLsb' 3 4 :=
    (w.field_field (s := 16) (n := 7) (i := 3) (m := 4) (by decide)).symm
  rw [hpart w, hpart w', h.field]

theorem SameShift.operand? (h : SameShift w w') (form : ShiftForm) :
    form.operand? w e = form.operand? w' e := by
  have hfield : shiftField w = shiftField w' := congrArg BitVec.toNat h.field
  unfold ShiftForm.operand? rightAmount leftAmount
  rw [hfield]

theorem ShiftWord.exists_meaning {address : Address} {i : Instruction} (hw : ShiftWord w)
    (h : decode w address = .ok i) :
    ∃ e op form, shiftElement? (w.field 19 4) = some e ∧
      shift? w.u (w.field 11 5) = some (op, form) ∧
        ShiftMeaning w e op form ⟨i.operation, i.operands.toList⟩ := by
  obtain ⟨hgroup, e, hcls⟩ := hw
  have hmeaning := (meaning_of_decode hgroup (by decide) h).2
  simp only [meaning, dataProcessingVector] at hmeaning
  rcases hcls with hcls | hcls
  · have himm : VectorClass.Immediate (.shiftImmediate e) w :=
      ⟨VectorClass.matches_of_ofWord hgroup hcls, trivial⟩
    simp only [hcls] at hmeaning
    obtain ⟨op, form, hrow, hshift⟩ := shiftMeaning_of_vectors hmeaning
    exact ⟨e, op, form, himm.shiftElement?_eq, hrow, hshift⟩
  · have himm : VectorClass.Immediate (.scalarShiftImmediate e) w :=
      ⟨VectorClass.matches_of_ofWord hgroup hcls, trivial⟩
    simp only [hcls] at hmeaning
    obtain ⟨op, form, hrow, hshift⟩ := shiftMeaning_of_scalars hmeaning
    exact ⟨e, op, form, himm.shiftElement?_eq, hrow, hshift⟩

end Decode

/-- A shift by an immediate writes an amount within the range of its form, and the amount gives the
field back. A widening shift by nothing is written as an extension, and words that agree on the
operation and the field agree on the amount. -/
theorem shiftAmount_of_decode {word word' : Word} {address address' : Address}
    {i i' : Instruction} (hw : Decode.ShiftWord word) (hw' : Decode.ShiftWord word')
    (h : decode word address = .ok i) (h' : decode word' address' = .ok i') :
    ShiftAmount (Decode.shiftWidth word) (Decode.shiftField word) i.operation i.operands.toList ∧
      (i.operation ∈ Operation.extensions ↔
        word.field 11 5 = 0b10100 ∧ Decode.shiftField word = Decode.shiftWidth word) ∧
      (Decode.SameShift word word' → i.operands.toList[2]? = i'.operands.toList[2]?) := by
  obtain ⟨e, op, form, he, hrow, hmeaning⟩ := hw.exists_meaning h
  obtain ⟨e', op', form', he', hrow', hmeaning'⟩ := hw'.exists_meaning h'
  have hform := Decode.shift?_listed _ _ _ hrow
  refine ⟨Decode.shiftAmount_of_meaning he hform hmeaning, ?_, ?_⟩
  · rw [Decode.extends_iff_of_meaning he hform hmeaning, Decode.shift?_widens _ _ _ hrow]
  · intro hsame
    rw [← hsame.element, he] at he'
    rw [← hsame.u, ← hsame.opcode, hrow] at hrow'
    obtain rfl := Option.some.inj he'
    obtain ⟨rfl, rfl⟩ := Prod.mk.inj (Option.some.inj hrow')
    rw [Decode.operand?_of_meaning hmeaning, Decode.operand?_of_meaning hmeaning', hsame.operand?]

/-- A shift to the right of vectors, and the one of scalars with the same field. -/
theorem shiftRight_shiftAmount :
    Decode.ShiftWord 0x4f7d0420 ∧ Decode.ShiftWord 0x5f7d0420 ∧
      Decode.SameShift 0x4f7d0420 0x5f7d0420 ∧
      ∃ i i' : Instruction, decode 0x4f7d0420 0 = .ok i ∧ decode 0x5f7d0420 0 = .ok i' ∧
        ShiftAmount 64 125 i.operation i.operands.toList ∧
          i.operands.toList[2]? = i'.operands.toList[2]? := by
  have hw : Decode.ShiftWord 0x4f7d0420 := ⟨by decide, .d, .inl (by decide)⟩
  have hw' : Decode.ShiftWord 0x5f7d0420 := ⟨by decide, .d, .inr (by decide)⟩
  have hsame : Decode.SameShift 0x4f7d0420 0x5f7d0420 := ⟨by decide, by decide, by decide⟩
  have h : decode 0x4f7d0420 0 = .ok ⟨0x4f7d0420, 0, .dataProcessingVector, .sshr,
      .ofList [Decode.vector 0 .d true, Decode.vector 1 .d true, Decode.immNat 3]⟩ := by
    decide +kernel
  have h' : decode 0x5f7d0420 0 = .ok ⟨0x5f7d0420, 0, .dataProcessingVector, .sshr,
      .ofList [Decode.scalar .d 0, Decode.scalar .d 1, Decode.immNat 3]⟩ := by
    decide +kernel
  obtain ⟨hamount, -, hthird⟩ := shiftAmount_of_decode hw hw' h h'
  exact ⟨hw, hw', hsame, _, _, h, h', hamount, hthird hsame⟩

end A64
