import A64.Proofs.Encodings.Vector

/-!
# Encodings of shifts by an immediate and of repeated immediates

One field of seven bits gives both the element and the amount of a shift, and a repeated immediate
has its eight bits in two fields. Bit 23 stands in none of these and no decoder tests it, so the
encodings fix it to zero.
-/

namespace A64.Decode

open Encoding Slot

variable {w : Word} {d : Decoded}

/-- The field of a shift is that of an element: its highest bit is worth the element's width. -/
def ShiftsElement (e : ElementSize) (w : Word) : Prop :=
  e.bits ≤ shiftField w ∧ shiftField w < 2 * e.bits

theorem shiftsElement {e : ElementSize} (h : shiftElement? (w.field 19 4) = some e) :
    e ∈ anySize ∧ ShiftsElement e w := by
  have hall : ∀ b : BitVec 7, ∀ e ∈ shiftElement? (b.extractLsb' 3 4),
      e ∈ anySize ∧ e.bits ≤ b.toNat ∧ b.toNat < 2 * e.bits := by decide
  refine hall (w.field 16 7) e ?_
  rw [w.field_field (by decide)]
  exact h

theorem ne_q_of_shiftElement? {e : ElementSize} (h : shiftElement? (w.field 19 4) = some e) :
    e ≠ .q := by
  rintro rfl
  simpa [anySize] using (shiftsElement h).1

def amount (e : ElementSize) (f : Word → Nat) (hlt : ∀ w, ShiftsElement e w → f w < 2 ^ 32)
    (hf : ∀ w w', ShiftsElement e w → ShiftsElement e w' → f w = f w' →
      shiftField w = shiftField w') : Slot where
  kind := .value
  operand := fun w => immNat (f w)
  shown := [⟨16, 7⟩]
  Holds := ShiftsElement e
  kind_operand := fun _ => rfl
  faithful := by
    intro w w' hw hw' h g hg
    have hmap := congrArg (fun o => o.immediate?.map (·.toNat)) h
    rw [immediate?_immNat (hlt w hw), immediate?_immNat (hlt w' hw')] at hmap
    rw [List.mem_singleton.1 hg]
    exact BitVec.eq_of_toNat_eq (hf w w' hw hw' (Option.some.inj hmap))

theorem bits_le (e : ElementSize) : e.bits ≤ 128 := by cases e <;> decide

def rightShift (e : ElementSize) : Slot :=
  amount e (rightAmount · e)
    (by
      rintro w -
      have := bits_le e
      unfold rightAmount
      omega)
    (by
      rintro w w' ⟨-, hlt⟩ ⟨-, hlt'⟩ h
      unfold rightAmount at h
      omega)

def leftShift (e : ElementSize) : Slot :=
  amount e (leftAmount · e)
    (by
      rintro w ⟨-, hlt⟩
      have := bits_le e
      unfold leftAmount
      omega)
    (by
      rintro w w' ⟨hle, -⟩ ⟨hle', -⟩ h
      unfold leftAmount at h
      omega)

@[simp] theorem holds_rightShift {e : ElementSize} :
    (rightShift e).Holds w ↔ ShiftsElement e w := Iff.rfl

@[simp] theorem holds_leftShift {e : ElementSize} :
    (leftShift e).Holds w ↔ ShiftsElement e w := Iff.rfl

def shiftFixed (u : Bool) (opcode : BitVec 5) : List (Field × Nat) :=
  VectorClass.modifiedImmediate.fixed ++
    [(⟨29, 1⟩, u.toNat), (⟨23, 1⟩, 0), (⟨11, 5⟩, opcode.toNat)]

def longShift (op upper : Operation) (e : ElementSize) (bits : List (Field × Nat)) :
    List Encoding :=
  halves op upper [.wide e.double rd, .vector e rn, leftShift e] bits

/-- The encodings of a shift into wider elements by nothing, which has a name of its own. -/
def extension (op upper : Operation) (e : ElementSize) (bits : List (Field × Nat)) :
    List Encoding :=
  halves op upper [.wide e.double rd, .vector e rn] ((⟨16, 7⟩, e.bits) :: bits)

def ShiftForm.encodings (op : Operation) (e : ElementSize) (bits : List (Field × Nat)) :
    ShiftForm → List Encoding
  | right | fixed => [⟨op, vectorSlots2 e ++ [rightShift e], bits⟩]
  | left => [⟨op, vectorSlots2 e ++ [leftShift e], bits⟩]
  | narrow upper => halves op upper [.vector e rd, .wide e.double rn, rightShift e] bits
  | long upper extend extendUpper =>
    [extension extend extendUpper e bits, longShift op upper e bits].flatten

def shiftEncodings : List Encoding :=
  ofTable (flagged (bitVectors 5)) (fun (u, opcode) => shift? u opcode)
    fun (u, opcode) (op, form) => anySize.flatMap fun e =>
      form.encodings op e (shiftFixed u opcode)

/-- A shift to the left by nothing leaves no choice in its field. -/
theorem field_of_leftAmount_eq_zero {e : ElementSize} (he : ShiftsElement e w)
    (h : leftAmount w e = 0) : w.field 16 7 = BitVec.ofNat 7 e.bits := by
  have hfield : (w.field 16 7).toNat = e.bits := Nat.le_antisymm (Nat.sub_eq_zero_iff_le.1 h) he.1
  rw [← hfield, BitVec.ofNat_toNat, BitVec.setWidth_eq]

theorem described_shiftImmediate {e : ElementSize}
    (hw : HasFields VectorClass.modifiedImmediate.fixed w) (h23 : w.bit 23 = false)
    (helement : shiftElement? (w.field 19 4) = some e) (h : shiftImmediate w e = .ok d) :
    Described shiftEncodings w d := by
  obtain ⟨hmem, he⟩ := shiftsElement helement
  have hfixed : HasFields (shiftFixed w.u (w.field 11 5)) w := by
    simp [shiftFixed, hw, Word.field_eq_zero_iff.2 h23]
  simp only [shiftImmediate] at h
  cases hrow : shift? w.u (w.field 11 5) with
  | none => simp [hrow, reserved] at h
  | some row =>
    obtain ⟨op, form⟩ := row
    simp only [hrow] at h
    refine .ofTable (k := (w.u, w.field 11 5)) (by simp) hrow (.flatMap hmem ?_)
    cases form with
    | right =>
      dsimp only at h
      split at h <;> cases h
      exact .single ⟨hfixed, by simp [he], rfl⟩
    | left =>
      dsimp only at h
      split at h <;> cases h
      exact .single ⟨hfixed, by simp [he], rfl⟩
    | fixed =>
      dsimp only at h
      split at h
      · cases h
      · split at h <;> cases h
        exact .single ⟨hfixed, by simp [he], rfl⟩
    | narrow upper =>
      dsimp only at h
      split at h <;> cases h
      exact described_halves hfixed (by simp [he])
    | long upper extend extendUpper =>
      dsimp only at h
      split at h
      · cases h
      · split at h <;> cases h
        · rename_i hzero
          have hextension : Described (extension extend extendUpper e _) w _ :=
            described_halves (hasFields_cons.2 ⟨field_of_leftAmount_eq_zero he hzero, hfixed⟩)
              (by simp)
          exact .of_part (by simp) hextension
        · have hlong : Described (longShift op upper e _) w _ :=
            described_halves hfixed (by simp [he])
          exact .of_part (by simp) hlong

def ShiftForm.scalarSlots (e : ElementSize) : ShiftForm → List Slot
  | right | fixed => scalarSlots2 e ++ [rightShift e]
  | left => scalarSlots2 e ++ [leftShift e]
  | narrow _ => [.scalar e rd, .scalar e.double rn, rightShift e]
  | long _ _ _ => []

def scalarShiftFixed (u : Bool) (opcode : BitVec 5) : List (Field × Nat) :=
  (VectorClass.scalarShiftImmediate .b).fixed ++
    [(⟨29, 1⟩, u.toNat), (⟨23, 1⟩, 0), (⟨11, 5⟩, opcode.toNat)]

def scalarShiftEncodings : List Encoding :=
  ofTable (flagged (bitVectors 5)) (fun (u, opcode) => shift? u opcode)
    fun (u, opcode) (op, form) =>
      match form with
      | .long _ _ _ => []
      | _ => anySize.map fun e => ⟨op, form.scalarSlots e, scalarShiftFixed u opcode⟩

theorem described_scalarShiftImmediate {e : ElementSize}
    (hw : HasFields (VectorClass.scalarShiftImmediate e).fixed w) (h23 : w.bit 23 = false)
    (helement : shiftElement? (w.field 19 4) = some e) (h : scalarShiftImmediate w e = .ok d) :
    Described scalarShiftEncodings w d := by
  obtain ⟨hmem, he⟩ := shiftsElement helement
  have hfixed : HasFields (scalarShiftFixed w.u (w.field 11 5)) w := by
    have hbits : HasFields (VectorClass.scalarShiftImmediate .b).fixed w := hw
    simp [scalarShiftFixed, hbits, Word.field_eq_zero_iff.2 h23]
  simp only [scalarShiftImmediate] at h
  cases hrow : shift? w.u (w.field 11 5) with
  | none => simp [hrow, reserved] at h
  | some row =>
    obtain ⟨op, form⟩ := row
    simp only [hrow] at h
    refine .ofTable (k := (w.u, w.field 11 5)) (by simp) hrow ?_
    cases form with
    | right =>
      dsimp only at h
      split at h <;> cases h
      exact .map hmem ⟨hfixed, by simp [ShiftForm.scalarSlots, he], rfl⟩
    | left =>
      dsimp only at h
      split at h <;> cases h
      exact .map hmem ⟨hfixed, by simp [ShiftForm.scalarSlots, he], rfl⟩
    | fixed =>
      dsimp only at h
      split at h <;> cases h
      exact .map hmem ⟨hfixed, by simp [ShiftForm.scalarSlots, he], rfl⟩
    | narrow upper =>
      dsimp only at h
      split at h
      · cases h
      · split at h <;> cases h
        exact .map hmem ⟨hfixed, by simp [ShiftForm.scalarSlots, he], rfl⟩
    | long upper extend extendUpper => cases h

/-! ### Repeated immediates -/

/-- The eight bits of a repeated immediate. -/
def imm8 (w : Word) : BitVec 8 := w.field 16 3 ++ w.field 5 5

def ofByte (kind : Kind) (build : BitVec 8 → Operand) (hkind : ∀ n, (build n).kind = kind)
    (hinj : ∀ n n', (build n).normal = (build n').normal → n = n') : Slot where
  kind := kind
  operand := fun w => build (imm8 w)
  shown := [⟨16, 3⟩, ⟨5, 5⟩]
  Holds := fun _ => True
  kind_operand := fun _ => hkind _
  faithful := by
    intro w w' _ _ h
    obtain ⟨h16, h5⟩ := Field.append_inj (hinj _ _ h)
    simp [h16, h5]

def byteImm : Slot :=
  ofByte .value (fun n => imm n) (fun _ => rfl)
    (eq_of_immediate BitVec.toNat (immediate?_imm (by decide)) fun _ _ => BitVec.eq_of_toNat_eq)

def byteFloat : Slot :=
  ofByte .float (fun n => .float (VectorImmediate.single n)) kind_float eq_of_float_eq

theorem getLsbD_of_bitByte {n n' : BitVec 8} {i : Nat}
    (h : VectorImmediate.bitByte n i = VectorImmediate.bitByte n' i) :
    n.getLsbD i = n'.getLsbD i := by
  have hbit := congrArg (fun b => b.getLsbD 0) h
  simp only [VectorImmediate.bitByte, BitVec.getLsbD_replicate, BitVec.getLsbD_extractLsb'] at hbit
  simpa using hbit

theorem byteMask_injective {n n' : BitVec 8}
    (h : VectorImmediate.byteMask n = VectorImmediate.byteMask n') : n = n' := by
  obtain ⟨h, h0⟩ := Field.append_inj h
  obtain ⟨h, h1⟩ := Field.append_inj h
  obtain ⟨h, h2⟩ := Field.append_inj h
  obtain ⟨h, h3⟩ := Field.append_inj h
  obtain ⟨h, h4⟩ := Field.append_inj h
  obtain ⟨h, h5⟩ := Field.append_inj h
  obtain ⟨h7, h6⟩ := Field.append_inj h
  refine BitVec.eq_of_getLsbD_eq fun i hi => ?_
  match i, hi with
  | 0, _ => exact getLsbD_of_bitByte h0
  | 1, _ => exact getLsbD_of_bitByte h1
  | 2, _ => exact getLsbD_of_bitByte h2
  | 3, _ => exact getLsbD_of_bitByte h3
  | 4, _ => exact getLsbD_of_bitByte h4
  | 5, _ => exact getLsbD_of_bitByte h5
  | 6, _ => exact getLsbD_of_bitByte h6
  | 7, _ => exact getLsbD_of_bitByte h7

/-- The bits, each repeated over a byte. -/
def byteMask : Slot :=
  ofByte .value (fun n => imm64 (VectorImmediate.byteMask n)) (fun _ => rfl) (by
    intro n n' h
    exact byteMask_injective (congrArg Immediate.value (Operand.imm64.inj h)))

@[simp] theorem holds_byteImm : byteImm.Holds w := trivial

@[simp] theorem holds_byteFloat : byteFloat.Holds w := trivial

@[simp] theorem holds_byteMask : byteMask.Holds w := trivial

def constantShift (cmode : BitVec 4) : Shift :=
  match cmode with
  | 0b0100 | 0b0101 => .lsl 16
  | 0b0110 | 0b0111 => .lsl 24
  | 0b1100 => .ofAmount .msl 8
  | 0b1101 => .ofAmount .msl 16
  | _ => .lsl 8

/-- The bits as a number that is shifted; among some values of `cmode` the shift tells it. -/
def shiftedByte (cmodes : List (BitVec 4))
    (hinj : ∀ c ∈ cmodes, ∀ c' ∈ cmodes, constantShift c = constantShift c' → c = c') : Slot where
  kind := .other
  operand := fun w =>
    .imm32 ⟨(imm8 w).setWidth 64, false, some (constantShift (w.field 12 4)), false⟩
  shown := [⟨12, 4⟩, ⟨16, 3⟩, ⟨5, 5⟩]
  Holds := fun w => w.field 12 4 ∈ cmodes
  kind_operand := fun _ => rfl
  faithful := by
    intro w w' hw hw' h
    have himmediate := Operand.imm64.inj h
    have hshift : constantShift (w.field 12 4) = constantShift (w'.field 12 4) :=
      Option.some.inj (congrArg Immediate.shift himmediate)
    have hvalue : imm8 w = imm8 w' := by
      simpa using congrArg (fun i => i.value.setWidth 8) himmediate
    obtain ⟨h16, h5⟩ := Field.append_inj hvalue
    simp [hinj _ hw _ hw' hshift, h16, h5]

/-- The values of `cmode` that shift a byte, by whether the byte is combined with the destination
instead of moved to it and by whether the elements have 16 bits instead of 32. -/
def shiftedModes (combine half : Bool) : List (BitVec 4) :=
  match combine, half with
  | false, false => [0b0010, 0b0100, 0b0110, 0b1100, 0b1101]
  | true, false => [0b0011, 0b0101, 0b0111]
  | false, true => [0b1010]
  | true, true => [0b1011]

def unshiftedMode (combine half : Bool) : BitVec 4 :=
  BitVec.ofBool half ++ 0#2 ++ BitVec.ofBool combine

theorem constantShift_injective (combine half : Bool) : ∀ c ∈ shiftedModes combine half,
    ∀ c' ∈ shiftedModes combine half, constantShift c = constantShift c' → c = c' := by
  cases combine <;> cases half <;> decide

def constantFixed (invert : Bool) (b₁₁ : Nat) : List (Field × Nat) :=
  VectorClass.modifiedImmediate.fixed ++
    [(⟨29, 1⟩, invert.toNat), (⟨23, 1⟩, 0), (⟨19, 4⟩, 0), (⟨11, 1⟩, b₁₁)]

def shiftedSize (half : Bool) : ElementSize := if half then .h else .s

def shiftedByteEncodings : List Encoding :=
  (flagged (flagged [false, true])).map fun (invert, combine, half) =>
    ⟨constantOperation combine invert,
      [.vector (shiftedSize half) rd,
        shiftedByte (shiftedModes combine half) (constantShift_injective combine half)],
      constantFixed invert 0⟩

def unshiftedByteEncodings : List Encoding :=
  (flagged (flagged [false, true])).map fun (invert, combine, half) =>
    ⟨constantOperation combine invert, [.vector (shiftedSize half) rd, byteImm],
      constantFixed invert 0 ++ [(⟨12, 4⟩, (unshiftedMode combine half).toNat)]⟩

theorem described_shiftedByte (combine half : Bool)
    (hfixed : HasFields (constantFixed (w.bit 29) 0) w)
    (hmode : w.field 12 4 ∈ shiftedModes combine half) :
    Described shiftedByteEncodings w ⟨constantOperation combine (w.bit 29),
      [vector w.rd (shiftedSize half) w.q,
        .imm32 ⟨(imm8 w).setWidth 64, false, some (constantShift (w.field 12 4)), false⟩]⟩ := by
  refine .map (a := (w.bit 29, combine, half)) ?_ ⟨hfixed, ?_, rfl⟩
  · simp
  · simpa [shiftedByte] using hmode

theorem described_unshiftedByte (combine half : Bool)
    (hfixed : HasFields (constantFixed (w.bit 29) 0) w)
    (hmode : w.field 12 4 = unshiftedMode combine half) :
    Described unshiftedByteEncodings w ⟨constantOperation combine (w.bit 29),
      [vector w.rd (shiftedSize half) w.q, imm (imm8 w)]⟩ := by
  refine .map (a := (w.bit 29, combine, half)) ?_ ⟨?_, by simp, rfl⟩
  · simp
  · simp [hfixed, hmode]

def moveByte : Encoding :=
  ⟨.movi, [.vector .b rd, byteImm], constantFixed false 0 ++ [(⟨12, 4⟩, 14)]⟩

def moveMask : Encoding :=
  ⟨.movi, [.wide .d rd, byteMask], constantFixed true 0 ++ [(⟨12, 4⟩, 14), (⟨30, 1⟩, 1)]⟩

def moveScalarMask : Encoding :=
  ⟨.movi, [.scalar .d rd, byteMask], constantFixed true 0 ++ [(⟨12, 4⟩, 14), (⟨30, 1⟩, 0)]⟩

def byteMaskEncodings : List Encoding := [moveByte, moveMask, moveScalarMask]

def moveHalf : Encoding :=
  ⟨.fmov, [.vector .h rd, byteFloat], constantFixed false 1 ++ [(⟨12, 4⟩, 15)]⟩

def moveSingle : Encoding :=
  ⟨.fmov, [.vector .s rd, byteFloat], constantFixed false 0 ++ [(⟨12, 4⟩, 15)]⟩

def moveDouble : Encoding :=
  ⟨.fmov, [.wide .d rd, byteFloat], constantFixed true 0 ++ [(⟨12, 4⟩, 15), (⟨30, 1⟩, 1)]⟩

def byteFloatEncodings : List Encoding := [moveHalf, moveSingle, moveDouble]

def constantEncodings : List Encoding :=
  [shiftedByteEncodings, unshiftedByteEncodings, byteMaskEncodings, byteFloatEncodings].flatten

/-- The modes that do not end in a pattern or in ones shift the byte to the left, by nothing or
not. -/
theorem leftMode {c : BitVec 4} (h12 : c ≠ 12#4) (h13 : c ≠ 13#4) (h14 : c ≠ 14#4)
    (h15 : c ≠ 15#4) :
    let amount := 8 * (if c.getLsbD 3 then (c.extractLsb' 1 1).toNat else (c.extractLsb' 1 2).toNat)
    (amount = 0 ∧ c = unshiftedMode (c.getLsbD 0) (c.getLsbD 3)) ∨
      (amount ≠ 0 ∧ c ∈ shiftedModes (c.getLsbD 0) (c.getLsbD 3) ∧
        constantShift c = .lsl amount) := by
  revert c
  decide

theorem described_leftByte {amount : Nat} (hfixed : HasFields (constantFixed (w.bit 29) 0) w)
    (hmode : (amount = 0 ∧ w.field 12 4 = unshiftedMode (w.bit 12) (w.bit 15)) ∨
      (amount ≠ 0 ∧ w.field 12 4 ∈ shiftedModes (w.bit 12) (w.bit 15) ∧
        constantShift (w.field 12 4) = .lsl amount)) :
    Described constantEncodings w ⟨constantOperation (w.bit 12) (w.bit 29),
      [vector w.rd (shiftedSize (w.bit 15)) w.q, immLsl (imm8 w) amount]⟩ := by
  rcases hmode with ⟨rfl, hmode⟩ | ⟨hamount, hmode, hshift⟩
  · exact .of_part (by simp) (described_unshiftedByte _ _ hfixed hmode)
  · have hdescribed := described_shiftedByte _ _ hfixed hmode
    rw [hshift] at hdescribed
    rw [immLsl, if_neg hamount]
    exact .of_part (by simp) hdescribed

theorem described_modifiedImmediate (hw : HasFields VectorClass.modifiedImmediate.fixed w)
    (h23 : w.bit 23 = false) (helement : shiftElement? (w.field 19 4) = none)
    (h : modifiedImmediate w = .ok d) : Described constantEncodings w d := by
  have h19 : w.field 19 4 = 0#4 := by
    have hall : ∀ b : BitVec 4, shiftElement? b = none → b = 0#4 := by decide
    exact hall _ helement
  have hfixed : HasFields (constantFixed (w.bit 29) (w.bit 11).toNat) w := by
    simp [constantFixed, hw, h19, Word.field_eq_zero_iff.2 h23]
  simp only [modifiedImmediate] at h
  split at h
  · -- Half precision has a bit of its own, all other constants are told apart by their mode.
    rename_i h11
    split at h <;> cases h
    rename_i hmode
    rw [h11, hmode.2] at hfixed
    refine .of_part (l := byteFloatEncodings) (by simp)
      (.of_mem (e := moveHalf) (by simp [byteFloatEncodings]) ⟨?_, by simp [moveHalf], rfl⟩)
    exact hasFields_append.2 ⟨hfixed, by simpa using hmode.1⟩
  · rename_i h11
    rw [eq_false_of_ne_true h11] at hfixed
    split at h
    · rename_i hmode
      cases h
      have hshift := described_shiftedByte false false hfixed (by rw [hmode]; decide)
      rw [hmode] at hshift
      exact .of_part (by simp) hshift
    · rename_i hmode
      cases h
      have hshift := described_shiftedByte false false hfixed (by rw [hmode]; decide)
      rw [hmode] at hshift
      exact .of_part (by simp) hshift
    · -- Mode 14: the byte as it is, or one bit of it for each byte of the element.
      rename_i hmode
      refine .of_part (l := byteMaskEncodings) (by simp) ?_
      split at h
      · rename_i h29
        cases h
        rw [h29] at hfixed
        refine .of_mem (e := moveByte) (by simp [byteMaskEncodings]) ⟨?_, by simp [moveByte], rfl⟩
        exact hasFields_append.2 ⟨hfixed, by simpa using hmode⟩
      · rename_i h29
        rw [eq_true_of_ne_false h29] at hfixed
        rw [hmode] at h
        split at h <;> rename_i hq <;> cases h
        · refine .of_mem (e := moveMask) (by simp [byteMaskEncodings]) ⟨?_, by simp [moveMask], rfl⟩
          exact hasFields_append.2 ⟨hfixed, by simp [hmode, Word.field_eq_one_iff.2 hq]⟩
        · refine .of_mem (e := moveScalarMask) (by simp [byteMaskEncodings])
            ⟨?_, by simp [moveScalarMask], rfl⟩
          refine hasFields_append.2 ⟨hfixed, ?_⟩
          simp [hmode, Word.field_eq_zero_iff.2 (eq_false_of_ne_true hq)]
    · -- Mode 15: a number of single or double precision.
      rename_i hmode
      refine .of_part (l := byteFloatEncodings) (by simp) ?_
      split at h
      · rename_i h29
        cases h
        rw [h29] at hfixed
        refine .of_mem (e := moveSingle) (by simp [byteFloatEncodings])
          ⟨?_, by simp [moveSingle], rfl⟩
        exact hasFields_append.2 ⟨hfixed, by simpa using hmode⟩
      · rename_i h29
        rw [eq_true_of_ne_false h29] at hfixed
        split at h <;> cases h
        rename_i hq
        refine .of_mem (e := moveDouble) (by simp [byteFloatEncodings])
          ⟨?_, by simp [moveDouble], rfl⟩
        exact hasFields_append.2 ⟨hfixed, by simp [hmode, Word.field_eq_one_iff.2 hq]⟩
    · rename_i h12 h13 h14 h15
      have hleft := leftMode h12 h13 h14 h15
      have hlow : (w.field 12 4).getLsbD 0 = w.bit 12 := Field.getLsbD_field (by decide)
      have hhigh : (w.field 12 4).getLsbD 3 = w.bit 15 := Field.getLsbD_field (by decide)
      rw [hlow, hhigh, w.field_field (by decide), w.field_field (by decide)] at hleft
      have hdescribed := described_leftByte hfixed hleft
      split at h <;> rename_i hhalf <;> cases h
      · rw [if_pos hhalf, hhalf] at hdescribed
        exact hdescribed
      · rw [if_neg hhalf, eq_false_of_ne_true hhalf] at hdescribed
        exact hdescribed

end A64.Decode
