import A64.Proofs.ReadBack

/-!
# Reading back data processing of registers
-/

namespace A64.Decode

variable {address : Address} {w : Word} {d : Decoded}

section Second

variable {sf : Bool} {rd rn : Register} {m : BitVec 5}

theorem shiftBits?_ofShiftBits (shift : BitVec 2) :
    Assemble.shiftBits? (.ofShiftBits shift) = some shift := by
  revert shift
  decide

theorem extendBits?_ofShiftBits (shift : BitVec 2) :
    Assemble.extendBits? (.ofShiftBits shift) = none := by
  revert shift
  decide

theorem extendBits?_ofExtendBits (option : BitVec 3) :
    Assemble.extendBits? (.ofExtendBits option) = some option := by
  revert option
  decide

/-- A shifted register is a register that is not shifted, or one with its shift. -/
theorem pieces_shiftedGpr (sf : Bool) (m : BitVec 5) (shift : BitVec 2) (imm6 : BitVec 6) :
    (shift = 0 ∧ imm6 = 0 ∧
        (shiftedGpr sf m (.ofShiftBits shift) imm6.toNat).pieces = [.register (.gpr sf m)]) ∨
      (shiftedGpr sf m (.ofShiftBits shift) imm6.toNat).pieces =
        [.register (.gpr sf m), .shift ⟨.ofShiftBits shift, some imm6.toNat⟩] := by
  unfold shiftedGpr
  split
  · rename_i hlsl
    have hkind : ∀ shift : BitVec 2, ShiftKind.ofShiftBits shift = .lsl → shift = 0 := by decide
    exact .inl ⟨hkind shift hlsl.1, BitVec.eq_of_toNat_eq hlsl.2, rfl⟩
  · exact .inr rfl

theorem logical_shiftedGpr (opc : BitVec 2) (invert : Bool) (shift : BitVec 2) (imm6 : BitVec 6) :
    Assemble.logical opc invert rd rn (shiftedGpr sf m (.ofShiftBits shift) imm6.toNat).pieces =
      some (Encode.logicalShifted sf opc invert shift m imm6 rn.field rd.field) := by
  rcases pieces_shiftedGpr sf m shift imm6 with ⟨rfl, rfl, h⟩ | h <;> rw [h]
  · simp [Assemble.logical]
  · simp [Assemble.logical, shiftBits?_ofShiftBits]

theorem addSub_shiftedGpr (sub flags : Bool) (shift : BitVec 2) (imm6 : BitVec 6)
    (hrd : rd.isStackPointer = false) (hrn : rn.isStackPointer = false) (hsf : rn.wide = sf) :
    Assemble.addSub sub flags rd rn (shiftedGpr sf m (.ofShiftBits shift) imm6.toNat).pieces =
      some (Encode.addSubShifted sf sub flags shift m imm6 rn.field rd.field) := by
  rcases pieces_shiftedGpr sf m shift imm6 with ⟨rfl, rfl, h⟩ | h <;> rw [h]
  · simp [Assemble.addSub, hrd, hrn, hsf]
  · simp [Assemble.addSub, shiftBits?_ofShiftBits, extendBits?_ofShiftBits, hrd, hrn, hsf]

/-- Beside the stack pointer, the extension that is written as a shift is read as one. -/
theorem addSub_extendedRegister (sub flags : Bool) (option amount : BitVec 3) {besideStack : Bool}
    (hstack : besideStack = (rd.isStackPointer || rn.isStackPointer)) (hsf : rn.wide = sf) :
    Assemble.addSub sub flags rd rn
        (extendedRegister sf m option amount.toNat besideStack).pieces =
      some (Encode.addSubExtended sf sub flags m option amount rn.field rd.field) := by
  simp only [extendedRegister]
  by_cases hwhole : besideStack = true ∧ option = (if sf then 3 else 2)
  · rw [if_pos hwhole]
    obtain ⟨hbeside, hoption⟩ := hwhole
    rw [hbeside] at hstack
    by_cases hamount : amount.toNat = 0
    · have hzero : amount = 0 := BitVec.eq_of_toNat_eq hamount
      rw [if_pos hamount]
      simp [plain, Operand.pieces, Assemble.addSub, Assemble.wholeExtend, ← hstack, hsf, hoption,
        hzero]
    · rw [if_neg hamount]
      simp [shifted, Shift.lsl, Shift.ofAmount, Operand.pieces, Assemble.addSub,
        Assemble.shiftBits?, Assemble.extendBits?, Assemble.wholeExtend, ← hstack, hsf, hoption]
  · rw [if_neg hwhole]
    by_cases hamount : amount.toNat = 0
    · have hzero : amount = 0 := BitVec.eq_of_toNat_eq hamount
      rw [if_pos hamount]
      simp [shifted, Shift.bare, Operand.pieces, Assemble.addSub, extendBits?_ofExtendBits, hsf,
        hzero]
    · rw [if_neg hamount]
      simp [shifted, Shift.ofAmount, Operand.pieces, Assemble.addSub, extendBits?_ofExtendBits, hsf]

end Second

theorem readsBack_logicalRegister {op : Operation} {opc : BitVec 2} {invert : Bool}
    (hop : assemble address op = Assemble.logicalRegister opc invert)
    (hfields : Encode.logicalShifted w.sf opc invert (w.field 22 2) w.rm (w.field 10 6) w.rn w.rd =
      w) :
    ReadsBack address w ⟨op, [gpr w.sf w.rd, gpr w.sf w.rn,
      shiftedGpr w.sf w.rm (.ofShiftBits (w.field 22 2)) (w.field 10 6).toNat]⟩ := by
  refine .of (Assemble.logicalRegister opc invert) hop (by simp) ?_
  simpa [Assemble.logicalRegister, logical_shiftedGpr] using hfields

theorem readsBack_logicalShifted (hw : DataRegisterClass.Fixed w .logicalShifted)
    (h : logicalShifted w = .ok d) : ReadsBack address w d := by
  have hfields := Encode.logicalShifted_fields hw
  simp only [logicalShifted] at h
  split at h
  · cases h
  · rcases twoBits_cases (w.field 29 2) with hopc | hopc | hopc | hopc <;>
      cases hinvert : w.bit 21 <;> simp only [hopc, hinvert] at h hfields
    · cases h
      exact readsBack_logicalRegister rfl hfields
    · cases h
      exact readsBack_logicalRegister rfl hfields
    · split at h <;> cases h
      · rename_i hmove
        obtain ⟨hn, hshift, himm⟩ := hmove
        refine .of Assemble.move rfl (by simp) ?_
        simpa [Assemble.move, shiftedGpr, ShiftKind.ofShiftBits, hn, hshift, himm] using hfields
      · exact readsBack_logicalRegister rfl hfields
    · split at h <;> cases h
      · rename_i hn
        refine .of Assemble.moveInverted rfl (by simp) ?_
        simpa [Assemble.moveInverted, Register.zeroLike, logical_shiftedGpr, hn] using hfields
      · exact readsBack_logicalRegister rfl hfields
    · cases h
      exact readsBack_logicalRegister rfl hfields
    · cases h
      exact readsBack_logicalRegister rfl hfields
    · change (if w.rd = 31 then done .tst _ else done .ands _) = _ at h
      split at h <;> cases h
      · rename_i hd
        refine .of Assemble.test rfl (by simp) ?_
        simpa [Assemble.test, Register.zeroLike, logical_shiftedGpr, hd] using hfields
      · exact readsBack_logicalRegister rfl hfields
    · cases h
      exact readsBack_logicalRegister rfl hfields

theorem readsBack_addSubShifted (hw : DataRegisterClass.Fixed w .addSubShifted)
    (h : addSubShifted w = .ok d) : ReadsBack address w d := by
  have hfields := Encode.addSubShifted_fields hw.1 hw.2
  simp only [addSubShifted] at h
  split at h
  · cases h
  · split at h
    · cases h
    · have hd := Register.isGeneral_gpr w.sf w.rd
      have hn := Register.isGeneral_gpr w.sf w.rn
      cases h30 : w.bit 30 <;> cases h29 : w.bit 29 <;> simp only [h30, h29] at h hfields
      · cases h
        refine readsBack_addSubRegister hd hn (by simp) rfl ?_
        simpa [addSub_shiftedGpr] using hfields
      · split at h <;> rename_i h31 <;> cases h
        · refine readsBack_compare hn (by simp) rfl ?_
          simpa [Register.zeroLike, addSub_shiftedGpr, h31] using hfields
        · refine readsBack_addSubRegister hd hn (by simp) rfl ?_
          simpa [addSub_shiftedGpr] using hfields
      · split at h <;> rename_i h31 <;> cases h
        · refine readsBack_negate hd (by simp) rfl ?_
          simpa [Register.zeroLike, addSub_shiftedGpr, h31] using hfields
        · refine readsBack_addSubRegister hd hn (by simp) rfl ?_
          simpa [addSub_shiftedGpr] using hfields
      · split at h <;> rename_i h31
        · cases h
          refine readsBack_compare hn (by simp) rfl ?_
          simpa [Register.zeroLike, addSub_shiftedGpr, h31] using hfields
        · split at h <;> rename_i hn31 <;> cases h
          · refine readsBack_negate hd (by simp) rfl ?_
            simpa [Register.zeroLike, addSub_shiftedGpr, hn31] using hfields
          · refine readsBack_addSubRegister hd hn (by simp) rfl ?_
            simpa [addSub_shiftedGpr] using hfields

theorem readsBack_addSubExtended (hw : DataRegisterClass.Fixed w .addSubExtended)
    (h : addSubExtended w = .ok d) : ReadsBack address w d := by
  simp only [addSubExtended] at h
  split at h
  · cases h
  · rename_i h22
    have hfields := Encode.addSubExtended_fields hw.1 hw.2 (Decidable.not_not.1 h22)
    split at h
    · cases h
    · have hd := Register.isGeneral_gprOrStack w.sf w.rd
      have hd' := Register.isGeneral_gpr w.sf w.rd
      have hn := Register.isGeneral_gprOrStack w.sf w.rn
      cases h29 : w.bit 29 <;> cases h30 : w.bit 30 <;> simp only [h30, h29] at h hfields
      · cases h
        refine readsBack_addSubRegister hd hn (by simp) rfl ?_
        rw [addSub_extendedRegister] <;> simp [hfields, or_comm]
      · cases h
        refine readsBack_addSubRegister hd hn (by simp) rfl ?_
        rw [addSub_extendedRegister] <;> simp [hfields, or_comm]
      · split at h <;> rename_i h31 <;> cases h
        · refine readsBack_compare hn (by simp) rfl ?_
          rw [addSub_extendedRegister] <;> simp [Register.zeroLike, ← h31, hfields]
        · refine readsBack_addSubRegister hd' hn (by simp) rfl ?_
          rw [addSub_extendedRegister] <;> simp [hfields]
      · split at h <;> rename_i h31 <;> cases h
        · refine readsBack_compare hn (by simp) rfl ?_
          rw [addSub_extendedRegister] <;> simp [Register.zeroLike, ← h31, hfields]
        · refine readsBack_addSubRegister hd' hn (by simp) rfl ?_
          rw [addSub_extendedRegister] <;> simp [hfields]

section Carry

variable {op : Operation} {sub flags : Bool}

theorem readsBack_carry (hop : assemble address op = Assemble.addSubCarry sub flags)
    (hfields : Encode.addSubCarry w.sf sub flags w.rm w.rn w.rd = w) :
    ReadsBack address w ⟨op, [gpr w.sf w.rd, gpr w.sf w.rn, gpr w.sf w.rm]⟩ := by
  refine .of _ hop (by simp) ?_
  simpa [Assemble.addSubCarry] using hfields

/-- A subtraction from zero leaves out its first source. -/
theorem readsBack_carryNegate (hn : w.rn = 31)
    (hop : assemble address op = Assemble.addSubCarry sub flags)
    (hfields : Encode.addSubCarry w.sf sub flags w.rm w.rn w.rd = w) :
    ReadsBack address w ⟨op, [gpr w.sf w.rd, gpr w.sf w.rm]⟩ := by
  refine .of _ hop (by simp) ?_
  simpa [Assemble.addSubCarry, hn] using hfields

end Carry

theorem readsBack_addSubCarry (hw : DataRegisterClass.Fixed w .addSubCarry)
    (h : addSubCarry w = .ok d) : ReadsBack address w d := by
  have hfields := Encode.addSubCarry_fields hw.1 hw.2
  unfold addSubCarry at h
  cases h30 : w.bit 30 <;> cases h29 : w.bit 29 <;> simp only [h30, h29] at h hfields
  · cases h
    exact readsBack_carry rfl hfields
  · cases h
    exact readsBack_carry rfl hfields
  · split at h <;> cases h
    · exact readsBack_carryNegate ‹_› rfl hfields
    · exact readsBack_carry rfl hfields
  · split at h <;> cases h
    · exact readsBack_carryNegate ‹_› rfl hfields
    · exact readsBack_carry rfl hfields

theorem readsBack_rotateIntoFlags (hw : DataRegisterClass.Fixed w .rotateIntoFlags)
    (h : rotateIntoFlags w = .ok d) : ReadsBack address w d := by
  unfold rotateIntoFlags at h
  split at h
  · cases h
  · rename_i hbits
    simp only [not_or, Bool.not_eq_false, Bool.not_eq_true] at hbits
    obtain ⟨hsf, h30, h29, h4⟩ := hbits
    have hfields := Encode.rotateIntoFlags_fields hw.1 hw.2 hsf h30 h29 h4
    cases h
    refine .of Assemble.rotateIntoFlags rfl (by simp) ?_
    simpa [Assemble.rotateIntoFlags] using hfields

theorem readsBack_evaluateIntoFlags (hw : DataRegisterClass.Fixed w .evaluateIntoFlags)
    (h : evaluateIntoFlags w = .ok d) : ReadsBack address w d := by
  unfold evaluateIntoFlags at h
  split at h
  · cases h
  · rename_i hbits
    simp only [not_or, Bool.not_eq_false, Bool.not_eq_true, ne_eq, Decidable.not_not] at hbits
    obtain ⟨hsf, h30, h29, h15, h4, h0⟩ := hbits
    have hfields := Encode.evaluateIntoFlags_fields hw.1 hw.2 hsf h30 h29 h15 h4 h0
    cases h14 : w.bit 14 <;> rw [h14] at h hfields <;> cases h
    · refine .of (Assemble.evaluateIntoFlags false) rfl (by simp) ?_
      simpa [Assemble.evaluateIntoFlags] using hfields
    · refine .of (Assemble.evaluateIntoFlags true) rfl (by simp) ?_
      simpa [Assemble.evaluateIntoFlags] using hfields

theorem readsBack_conditionalCompare (hw : DataRegisterClass.Fixed w .conditionalCompare)
    (h : conditionalCompare w = .ok d) : ReadsBack address w d := by
  simp only [conditionalCompare] at h
  split at h
  · cases h
  · rename_i hbits
    simp only [not_or, Bool.not_eq_false, Bool.not_eq_true] at hbits
    obtain ⟨h29, h10, h4⟩ := hbits
    have hfields := Encode.conditionalCompare_fields hw h29 h10 h4
    cases h30 : w.bit 30 <;> cases h11 : w.bit 11 <;> rw [h30, h11] at h hfields <;> cases h
    · refine .of (Assemble.conditionalCompare false) rfl (by simp) ?_
      simpa [Assemble.conditionalCompare] using hfields
    · refine .of (Assemble.conditionalCompare false) rfl (by simp) ?_
      simpa [Assemble.conditionalCompare] using hfields
    · refine .of (Assemble.conditionalCompare true) rfl (by simp) ?_
      simpa [Assemble.conditionalCompare] using hfields
    · refine .of (Assemble.conditionalCompare true) rfl (by simp) ?_
      simpa [Assemble.conditionalCompare] using hfields

@[simp] theorem invert_invert (c : Condition) : c.invert.invert = c := by
  cases c <;> rfl

section Select

variable {op : Operation} {invert increment : Bool}

/-- Selection between two registers, of one register or of a constant; which of the three is written
does not matter to the word. -/
theorem readsBack_select (hop : assemble address op = Assemble.conditionalSelect invert increment)
    (hfields : Encode.conditionalSelect w.sf invert increment w.rm (w.field 12 4) w.rn w.rd = w) :
    ReadsBack address w ⟨op, [gpr w.sf w.rd, gpr w.sf w.rn, gpr w.sf w.rm,
      .condition (.ofBits (w.field 12 4))]⟩ := by
  refine .of _ hop (by simp) ?_
  simpa [Assemble.conditionalSelect] using hfields

theorem readsBack_selectEqual (hequal : w.rn = w.rm)
    (hop : assemble address op = Assemble.conditionalSelect invert increment)
    (hfields : Encode.conditionalSelect w.sf invert increment w.rm (w.field 12 4) w.rn w.rd = w) :
    ReadsBack address w ⟨op, [gpr w.sf w.rd, gpr w.sf w.rn,
      .condition (Condition.ofBits (w.field 12 4)).invert]⟩ := by
  refine .of _ hop (by simp) ?_
  simpa [Assemble.conditionalSelect, hequal] using hfields

theorem readsBack_selectZeros (hzeros : w.rn = 31 ∧ w.rm = 31)
    (hop : assemble address op = Assemble.conditionalSelect invert increment)
    (hfields : Encode.conditionalSelect w.sf invert increment w.rm (w.field 12 4) w.rn w.rd = w) :
    ReadsBack address w ⟨op, [gpr w.sf w.rd,
      .condition (Condition.ofBits (w.field 12 4)).invert]⟩ := by
  refine .of _ hop (by simp) ?_
  simpa [Assemble.conditionalSelect, hzeros] using hfields

end Select

theorem readsBack_conditionalSelect (hw : DataRegisterClass.Fixed w .conditionalSelect)
    (h : conditionalSelect w = .ok d) : ReadsBack address w d := by
  simp only [conditionalSelect, decide_eq_true_eq] at h
  split at h
  · cases h
  · rename_i h29
    split at h
    · cases h
    · rename_i h11
      have hfields := Encode.conditionalSelect_fields hw (Bool.eq_false_iff.2 h29)
        (Bool.eq_false_iff.2 h11)
      cases h30 : w.bit 30 <;> cases h10 : w.bit 10 <;> simp only [h30, h10] at h hfields
      · cases h
        exact readsBack_select rfl hfields
      · split at h
        · cases h
          exact readsBack_select rfl hfields
        · split at h
          · cases h
            exact readsBack_selectZeros ‹_› rfl hfields
          · split at h <;> cases h
            · exact readsBack_selectEqual ‹_› rfl hfields
            · exact readsBack_select rfl hfields
      · split at h
        · cases h
          exact readsBack_select rfl hfields
        · split at h
          · cases h
            exact readsBack_selectZeros ‹_› rfl hfields
          · split at h <;> cases h
            · exact readsBack_selectEqual ‹_› rfl hfields
            · exact readsBack_select rfl hfields
      · split at h
        · cases h
          exact readsBack_select rfl hfields
        · split at h <;> cases h
          · exact readsBack_selectEqual ‹_› rfl hfields
          · exact readsBack_select rfl hfields

/-! ### One source -/

theorem assemble_authenticate (address : Address) (key : BitVec 3) :
    assemble address (authenticate key) = Assemble.oneSource 1 (key.setWidth 6) := by
  rcases threeBits_cases key with rfl | rfl | rfl | rfl | rfl | rfl | rfl | rfl <;> rfl

theorem assemble_authenticateZero (address : Address) (key : BitVec 3) :
    assemble address (authenticateZero key) = Assemble.oneSource 1 (8 ||| key.setWidth 6) := by
  rcases threeBits_cases key with rfl | rfl | rfl | rfl | rfl | rfl | rfl | rfl <;> rfl

theorem readsBack_pointerAuthentication (hsf : w.sf = true) (h16 : w.field 16 5 = 1)
    (hfields : Encode.oneSource w.sf (w.field 16 5) (w.field 10 6) w.rn w.rd = w)
    (h : pointerAuthentication (w.field 10 6) w.rd w.rn = .ok d) : ReadsBack address w d := by
  rw [hsf, h16] at hfields
  simp only [pointerAuthentication] at h
  split at h
  · rename_i hlow
    have hopcode : ∀ b : BitVec 6, b < 8 → (b.setWidth 3).setWidth 6 = b := by decide
    cases h
    refine .of _ (assemble_authenticate address _) (by simp) ?_
    simpa [Assemble.oneSource, hopcode _ hlow] using hfields
  · rename_i hlow
    split at h
    · cases h
    · rename_i hrn
      rw [Decidable.not_not.1 hrn] at hfields
      split at h
      · rename_i hhigh
        have hopcode : ∀ b : BitVec 6, ¬ b < 8 → b < 16 →
            8#6 ||| (b.setWidth 3).setWidth 6 = b := by decide
        cases h
        refine .of _ (assemble_authenticateZero address _) (by simp) ?_
        simpa [Assemble.oneSource, hopcode _ hlow hhigh] using hfields
      · split at h
        · rename_i hstrip
          rw [hstrip] at hfields
          cases h
          refine .of (Assemble.oneSource 1 16) rfl (by simp) ?_
          simpa [Assemble.oneSource] using hfields
        · split at h
          · rename_i hstrip
            rw [hstrip] at hfields
            cases h
            refine .of (Assemble.oneSource 1 17) rfl (by simp) ?_
            simpa [Assemble.oneSource] using hfields
          · cases h

theorem assemble_reversal {opcode : BitVec 6} {sf : Bool} {op : Operation}
    (h : reversal? opcode sf = some op) (address : Address) (rd rn : BitVec 5) :
    assemble address op [.register (.gpr sf rd), .register (.gpr sf rn)] =
      some (Encode.oneSource sf 0 opcode rn rd) := by
  have hone {op : Operation} {opcode : BitVec 6} {sf : Bool}
      (hop : assemble address op = Assemble.oneSource 0 opcode) :
      assemble address op [.register (.gpr sf rd), .register (.gpr sf rn)] =
        some (Encode.oneSource sf 0 opcode rn rd) := by
    rw [hop]
    simp [Assemble.oneSource]
  have hrev : assemble address .rev = Assemble.reverse := rfl
  unfold reversal? at h
  split at h <;> cases h
  · exact hone rfl
  · exact hone rfl
  · simp [hrev, Assemble.reverse]
  · exact hone rfl
  · simp [hrev, Assemble.reverse]
  · exact hone rfl
  · exact hone rfl

theorem readsBack_oneSource (hw : DataRegisterClass.Fixed w .oneSource)
    (h : oneSource w = .ok d) : ReadsBack address w d := by
  simp only [oneSource] at h
  split at h
  · cases h
  · rename_i h29
    have hfields := Encode.oneSource_fields hw.1 hw.2 (Bool.eq_false_iff.2 h29)
    split at h
    · rename_i h16
      split at h
      · rename_i op hop
        cases h
        refine ⟨by simp, ?_⟩
        rw [h16] at hfields
        simpa using (assemble_reversal hop address w.rd w.rn).trans (congrArg some hfields)
      · cases h
    · split at h
      · rename_i hauth
        exact readsBack_pointerAuthentication hauth.2 hauth.1 hfields h
      · cases h

theorem assemble_checksum (address : Address) (castagnoli : Bool) (size : BitVec 2) :
    assemble address (checksum castagnoli size) =
      Assemble.twoSource (0b010#3 ++ BitVec.ofBool castagnoli ++ size) := by
  cases castagnoli <;> rcases twoBits_cases size with rfl | rfl | rfl | rfl <;> rfl

theorem assemble_division {opcode : BitVec 6} {op : Operation} (h : division? opcode = some op)
    (address : Address) (sf : Bool) (rd rn rm : BitVec 5) :
    assemble address op [.register (.gpr sf rd), .register (.gpr sf rn), .register (.gpr sf rm)] =
      some (Encode.twoSource sf rm opcode rn rd) := by
  have htwo {op : Operation} {opcode : BitVec 6}
      (hop : assemble address op = Assemble.twoSource opcode) :
      assemble address op [.register (.gpr sf rd), .register (.gpr sf rn),
        .register (.gpr sf rm)] = some (Encode.twoSource sf rm opcode rn rd) := by
    rw [hop]
    simp [Assemble.twoSource]
  have hlsl : assemble address .lsl = Assemble.shiftLeft := rfl
  have hlsr : assemble address .lsr = Assemble.shiftRight 2 0b001001 := rfl
  have hasr : assemble address .asr = Assemble.shiftRight 0 0b001010 := rfl
  have hror : assemble address .ror = Assemble.rotate := rfl
  unfold division? at h
  split at h <;> cases h
  · exact htwo rfl
  · exact htwo rfl
  · simp [hlsl, Assemble.shiftLeft, Assemble.twoSource]
  · simp [hlsr, Assemble.shiftRight, Assemble.twoSource]
  · simp [hasr, Assemble.shiftRight, Assemble.twoSource]
  · simp [hror, Assemble.rotate, Assemble.twoSource]

theorem readsBack_twoSource (hw : DataRegisterClass.Fixed w .twoSource)
    (h : twoSource w = .ok d) : ReadsBack address w d := by
  simp only [twoSource] at h
  split at h
  · cases h
  · rename_i h29
    have hfields := Encode.twoSource_fields hw.1 hw.2 (Bool.eq_false_iff.2 h29)
    split at h
    · rename_i hpacga
      obtain ⟨hopcode, hsf⟩ := hpacga
      cases h
      refine .of (Assemble.twoSource 0b001100) rfl (by simp) ?_
      simpa [Assemble.twoSource, hopcode, hsf] using hfields
    · split at h
      · rename_i h13
        have hopcode : w.field 10 6 = 0b010#3 ++ BitVec.ofBool (w.bit 12) ++ w.field 10 2 := by
          have h13' : w.field 13 3 = 0b010#3 := h13
          rw [← h13', w.ofBool_bit]
          simp (disch := decide) only [w.field_append]
        split at h
        · cases h
        · cases h
          refine .of _ (assemble_checksum address _ _) (by simp) ?_
          simpa [Assemble.twoSource, hopcode] using hfields
      · split at h
        · rename_i op hop
          cases h
          refine ⟨by simp, ?_⟩
          simpa using
            (assemble_division hop address w.sf w.rd w.rn w.rm).trans (congrArg some hfields)
        · cases h

theorem assemble_multiplication {op31 : BitVec 3} {o0 : Bool} {m : Multiplication}
    (h : multiplication? op31 o0 = some m) (address : Address) :
    assemble address m.accumulate = Assemble.threeSource op31 o0 ∧
      assemble address m.alone = Assemble.threeSource op31 o0 := by
  unfold multiplication? at h
  split at h <;> cases h <;> exact ⟨rfl, rfl⟩

theorem highHalf?_eq {op31 : BitVec 3} {o0 : Bool} {op : Operation}
    (h : highHalf? op31 o0 = some op) : op = .smulh ∨ op = .umulh := by
  unfold highHalf? at h
  split at h <;> cases h
  · exact .inl rfl
  · exact .inr rfl

/-- The high half of a product has a field that is not written, all other multiplications read
back. -/
theorem readsBack_threeSource (hw : DataRegisterClass.Fixed w .threeSource)
    (h : threeSource w = .ok d) (hhigh : d.operation ≠ .smulh ∧ d.operation ≠ .umulh) :
    ReadsBack address w d := by
  simp only [threeSource] at h
  split at h
  · cases h
  · rename_i h29
    have hfields := Encode.threeSource_fields hw (Decidable.not_not.1 h29)
    split at h
    · rename_i m hm
      obtain ⟨haccumulate, halone⟩ := assemble_multiplication hm address
      split at h
      · cases h
      · split at h <;> cases h
        · rename_i hra
          refine .of _ halone (by simp) ?_
          simpa [Assemble.threeSource, hra] using hfields
        · refine .of _ haccumulate (by simp) ?_
          simpa [Assemble.threeSource] using hfields
    · rename_i op hnone hop
      split at h
      · cases h
      · cases h
        rcases highHalf?_eq hop with rfl | rfl
        · exact absurd rfl hhigh.1
        · exact absurd rfl hhigh.2
    · cases h

/-- Every word that processes registers reads back, except those that compute the high half of a
product. -/
theorem readsBack_dataProcessingRegister
    (hgroup : Group.ofWord? w = some .dataProcessingRegister)
    (h : dataProcessingRegister w = .ok d)
    (hhigh : d.operation ≠ .smulh ∧ d.operation ≠ .umulh) : ReadsBack address w d := by
  unfold dataProcessingRegister at h
  cases hcls : DataRegisterClass.ofWord w with
  | error reason =>
    rw [hcls] at h
    cases h
  | ok cls =>
    rw [hcls] at h
    have hw := DataRegisterClass.fixed hgroup hcls
    cases cls with
    | logicalShifted => exact readsBack_logicalShifted hw h
    | addSubShifted => exact readsBack_addSubShifted hw h
    | addSubExtended => exact readsBack_addSubExtended hw h
    | addSubCarry => exact readsBack_addSubCarry hw h
    | rotateIntoFlags => exact readsBack_rotateIntoFlags hw h
    | evaluateIntoFlags => exact readsBack_evaluateIntoFlags hw h
    | conditionalCompare => exact readsBack_conditionalCompare hw h
    | conditionalSelect => exact readsBack_conditionalSelect hw h
    | oneSource => exact readsBack_oneSource hw h
    | twoSource => exact readsBack_twoSource hw h
    | threeSource => exact readsBack_threeSource hw h hhigh

end A64.Decode
