import A64.Proofs.ReadBack

/-!
# Reading back data processing with an immediate

All classes but the bitwise operations read back. A move of a constant shows only the constant: it
is a halfword or the inverse of one, never both, and the rules by which the shorter name is given up
leave one encoding for each constant.
-/

namespace A64.Decode

variable {address : Address} {w : Word} {d : Decoded}

theorem addSub_immLsl {sf : Bool} {rd rn : Register} (sub flags : Bool) {shift : BitVec 2}
    (imm12 : BitVec 12) (hshift : ¬ 1 < shift) (hsf : rn.wide = sf) :
    Assemble.addSub sub flags rd rn (immLsl imm12 (12 * shift.toNat)).pieces =
      some (Encode.addSubImmediate sf sub flags shift imm12 rn.field rd.field) := by
  have hcases : ∀ shift : BitVec 2, ¬ 1 < shift → shift = 0 ∨ shift = 1 := by decide
  rw [pieces_immLsl (by decide)]
  rcases hcases shift hshift with rfl | rfl <;> simp [Assemble.addSub, hsf]

theorem readsBack_addSubImmediate (hw : DataImmediateClass.Fixed w .addSub)
    (h : addSubImmediate w = .ok d) : ReadsBack address w d := by
  have hfields := Encode.addSubImmediate_fields hw
  simp only [addSubImmediate] at h
  split at h
  · cases h
  · rename_i hshift
    have hd := Register.isGeneral_gprOrStack w.sf w.rd
    have hd' := Register.isGeneral_gpr w.sf w.rd
    have hn := Register.isGeneral_gprOrStack w.sf w.rn
    cases h30 : w.bit 30 <;> cases h29 : w.bit 29 <;> simp only [h30, h29] at h hfields
    · split at h <;> cases h
      · rename_i hmove
        obtain ⟨hzero, himm, hstack⟩ := hmove
        have hstack : w.rd = 31#5 ∨ w.rn = 31#5 := hstack
        refine .of Assemble.move rfl (by simp) ?_
        simpa [Assemble.move, hstack, hzero, himm] using hfields
      · refine readsBack_addSubRegister hd hn (by simp) rfl ?_
        simpa [addSub_immLsl _ _ _ hshift] using hfields
    · split at h <;> rename_i h31 <;> cases h
      · refine readsBack_compare hn (by simp) rfl ?_
        simpa [Register.zeroLike, addSub_immLsl _ _ _ hshift, h31] using hfields
      · refine readsBack_addSubRegister hd' hn (by simp) rfl ?_
        simpa [addSub_immLsl _ _ _ hshift] using hfields
    · cases h
      refine readsBack_addSubRegister hd hn (by simp) rfl ?_
      simpa [addSub_immLsl _ _ _ hshift] using hfields
    · split at h <;> rename_i h31 <;> cases h
      · refine readsBack_compare hn (by simp) rfl ?_
        simpa [Register.zeroLike, addSub_immLsl _ _ _ hshift, h31] using hfields
      · refine readsBack_addSubRegister hd' hn (by simp) rfl ?_
        simpa [addSub_immLsl _ _ _ hshift] using hfields

theorem setWidth_offset (origin : Address) (offset : BitVec 21) :
    (origin + BitVec.ofInt 64 offset.toInt - origin).setWidth 21 = offset := by
  rw [BitVec.add_comm, BitVec.add_sub_cancel]
  exact setWidth_signExtend (by decide) offset

theorem extract_pageOffset (origin : Address) (offset : BitVec 21) :
    (origin + BitVec.ofInt 64 (offset.toInt * 4096) - origin).extractLsb' 12 21 = offset := by
  rw [BitVec.add_comm, BitVec.add_sub_cancel]
  have hoffset := BitVec.toInt_eq_toNat_cond offset
  have hlt := offset.isLt
  apply BitVec.eq_of_toNat_eq
  simp only [BitVec.extractLsb'_toNat, BitVec.toNat_ofInt, Nat.shiftRight_eq_div_pow]
  split at hoffset <;> omega

theorem readsBack_pcRelative (hw : DataImmediateClass.Fixed w .pcRelative)
    (h : pcRelative w address = .ok d) : ReadsBack address w d := by
  have hfields := Encode.pcRelative_fields hw
  simp only [pcRelative] at h
  cases h31 : w.bit 31 <;> simp only [h31, Bool.false_eq_true, ↓reduceIte] at h hfields <;> cases h
  · refine .of (Assemble.pcRelative false address) rfl (by simp) ?_
    show Assemble.pcRelative false address [.register (.gpr true w.rd),
      .number (address + BitVec.ofInt 64 _).toNat] = some w
    simp only [Assemble.pcRelative, Assemble.bits_toNat, Bool.false_eq_true, ↓reduceIte,
      setWidth_offset, Register.field_gpr, hfields]
  · refine .of (Assemble.pcRelative true address) rfl (by simp) ?_
    show Assemble.pcRelative true address [.register (.gpr true w.rd),
      .number ((address &&& ~~~0xfff) + BitVec.ofInt 64 _).toNat] = some w
    simp only [Assemble.pcRelative, Assemble.bits_toNat, ↓reduceIte, extract_pageOffset,
      Register.field_gpr, hfields]

section Constants

variable {hw : BitVec 2} {imm16 : BitVec 16}

/-- The number that a halfword at its place stands for. -/
def placed (hw : BitVec 2) (imm16 : BitVec 16) : Nat := imm16.toNat * 2 ^ (16 * hw.toNat)

theorem placed_cases (hw : BitVec 2) (imm16 : BitVec 16) :
    placed hw imm16 = imm16.toNat ∨ placed hw imm16 = imm16.toNat * 2 ^ 16 ∨
      placed hw imm16 = imm16.toNat * 2 ^ 32 ∨ placed hw imm16 = imm16.toNat * 2 ^ 48 := by
  rcases twoBits_cases hw with rfl | rfl | rfl | rfl <;> simp [placed]

theorem placed_cases_word (hhw : ¬ 2 ≤ hw) (imm16 : BitVec 16) :
    placed hw imm16 = imm16.toNat ∨ placed hw imm16 = imm16.toNat * 2 ^ 16 := by
  rcases twoBits_cases hw with rfl | rfl | rfl | rfl
  · simp [placed]
  · simp [placed]
  · exact absurd (by decide) hhw
  · exact absurd (by decide) hhw

theorem placed_lt (hw : BitVec 2) (imm16 : BitVec 16) : placed hw imm16 < 2 ^ 64 := by
  have hlt := imm16.isLt
  rcases placed_cases hw imm16 with h | h | h | h <;> omega

theorem placed_lt_word (hhw : ¬ 2 ≤ hw) (imm16 : BitVec 16) : placed hw imm16 < 2 ^ 32 := by
  have hlt := imm16.isLt
  rcases placed_cases_word hhw imm16 with h | h <;> omega

/-- A halfword is found at its place, if zero is not put into a higher one. -/
theorem halfword?_placed (h : imm16 ≠ 0 ∨ hw = 0) :
    Assemble.halfword? (placed hw imm16) = some (hw, imm16) := by
  have hlt := imm16.isLt
  have hnat : BitVec.ofNat 16 imm16.toNat = imm16 := by simp
  have hpos (hne : hw ≠ 0) : 0 < imm16.toNat := by
    have himm : imm16 ≠ 0 := h.resolve_right hne
    exact Nat.pos_of_ne_zero fun h0 => himm (BitVec.eq_of_toNat_eq h0)
  unfold Assemble.halfword? placed
  rcases twoBits_cases hw with rfl | rfl | rfl | rfl
  · rw [if_pos (by simpa using hlt)]
    simp
  · have hpos := hpos (by decide)
    rw [show 2 ^ (16 * (1#2).toNat) = 2 ^ 16 from rfl, if_neg (by omega), if_pos (by omega),
      Nat.mul_div_cancel _ (by decide), hnat]
    rfl
  · have hpos := hpos (by decide)
    rw [show 2 ^ (16 * (2#2).toNat) = 2 ^ 32 from rfl, if_neg (by omega), if_neg (by omega),
      if_pos (by omega), Nat.mul_div_cancel _ (by decide), hnat]
    rfl
  · have hpos := hpos (by decide)
    rw [show 2 ^ (16 * (3#2).toNat) = 2 ^ 48 from rfl, if_neg (by omega), if_neg (by omega),
      if_neg (by omega), if_pos (by omega), Nat.mul_div_cancel _ (by decide), hnat]
    rfl

theorem halfword?_inverse (hw : BitVec 2) (imm16 : BitVec 16) :
    Assemble.halfword? (2 ^ 64 - 1 - placed hw imm16) = none := by
  have hlt := imm16.isLt
  have hplaced := placed_cases hw imm16
  unfold Assemble.halfword?
  rw [if_neg (by omega), if_neg (by omega), if_neg (by omega), if_neg (by omega)]

theorem halfword?_inverse_word (hhw : ¬ 2 ≤ hw) (himm : imm16 ≠ 0xffff) :
    Assemble.halfword? (2 ^ 32 - 1 - placed hw imm16) = none := by
  have hlt := imm16.isLt
  have hne : imm16.toNat ≠ 0xffff := fun h => himm (BitVec.eq_of_toNat_eq h)
  have hplaced := placed_cases_word hhw imm16
  unfold Assemble.halfword?
  rw [if_neg (by omega), if_neg (by omega), if_neg (by omega), if_neg (by omega)]

theorem toNat_value (hw : BitVec 2) (imm16 : BitVec 16) :
    (imm16.setWidth 64 <<< (16 * hw.toNat)).toNat = placed hw imm16 := by
  have himm : imm16.toNat < 2 ^ 64 := Nat.lt_trans imm16.isLt (by decide)
  have hlt := placed_lt hw imm16
  rw [BitVec.toNat_shiftLeft, BitVec.toNat_setWidth, Nat.shiftLeft_eq, Nat.mod_eq_of_lt himm]
  exact Nat.mod_eq_of_lt hlt

theorem toNat_inverse (hw : BitVec 2) (imm16 : BitVec 16) :
    (~~~(imm16.setWidth 64 <<< (16 * hw.toNat))).toNat = 2 ^ 64 - 1 - placed hw imm16 := by
  rw [BitVec.toNat_not, toNat_value]

theorem toNat_value_word (hhw : ¬ 2 ≤ hw) (imm16 : BitVec 16) :
    ((imm16.setWidth 64 <<< (16 * hw.toNat)).setWidth 32).toNat = placed hw imm16 := by
  rw [BitVec.toNat_setWidth, toNat_value]
  exact Nat.mod_eq_of_lt (placed_lt_word hhw imm16)

theorem toNat_inverse_word (hhw : ¬ 2 ≤ hw) (imm16 : BitVec 16) :
    ((~~~(imm16.setWidth 64 <<< (16 * hw.toNat))).setWidth 32).toNat =
      2 ^ 32 - 1 - placed hw imm16 := by
  have hlt := placed_lt_word hhw imm16
  rw [BitVec.toNat_setWidth, toNat_inverse]
  omega

variable {sf : Bool} {width : Nat} {value : BitVec width}

theorem constant?_halfword (h : Assemble.halfword? value.toNat = some (hw, imm16)) (rd : BitVec 5) :
    Assemble.constant? sf value rd = some (Encode.moveWide sf 2 hw imm16 rd) := by
  simp [Assemble.constant?, h]

theorem constant?_inverse (hnone : Assemble.halfword? value.toNat = none)
    (h : Assemble.halfword? (~~~value).toNat = some (hw, imm16)) (rd : BitVec 5) :
    Assemble.constant? sf value rd = some (Encode.moveWide sf 0 hw imm16 rd) := by
  simp only [Assemble.constant?, hnone, h]

theorem moveWide_immLsl (sf : Bool) (opc hw : BitVec 2) (imm16 : BitVec 16) (rd : BitVec 5) :
    Assemble.moveWide opc (.register (.gpr sf rd) :: (immLsl imm16 (16 * hw.toNat)).pieces) =
      some (Encode.moveWide sf opc hw imm16 rd) := by
  rw [pieces_immLsl (by decide)]
  split
  · rename_i hzero
    have hplace : hw.toNat = 0 := by omega
    have hhw : hw = 0 := BitVec.eq_of_toNat_eq hplace
    simp [Assemble.moveWide, hhw]
  · simp [Assemble.moveWide, Shift.lsl, Shift.ofAmount]

/-! A constant is read from the number that its operand prints. -/

theorem move_imm64 (rd : BitVec 5) (value : BitVec 64) :
    Assemble.move ([gpr true rd, imm64 value].flatMap Operand.pieces) =
      Assemble.constant? true value rd := by
  have hpieces : (imm64 value).pieces = [.number value.toNat] := by
    simp [imm64, Operand.pieces, Immediate.pieces]
  simp [Assemble.move, hpieces]

theorem move_signed64 (rd : BitVec 5) (value : BitVec 64) :
    Assemble.move ([gpr true rd, signed64 value].flatMap Operand.pieces) =
      Assemble.constant? true value rd := by
  have hpieces : (signed64 value).pieces = [.number value.toInt] := by
    simp [signed64, Operand.pieces, Immediate.pieces]
  simp [Assemble.move, hpieces]

theorem move_imm32 (rd : BitVec 5) (value : BitVec 64) :
    Assemble.move ([gpr false rd, imm value].flatMap Operand.pieces) =
      Assemble.constant? false (value.setWidth 32) rd := by
  have hpieces : (imm value).pieces = [.number (value.setWidth 32).toNat] := by
    simp [imm, Operand.pieces, Immediate.pieces]
  simp only [List.flatMap_cons, List.flatMap_nil, pieces_gpr, hpieces, List.append_nil,
    List.cons_append, List.nil_append, Assemble.move, Register.wide_gpr, Bool.false_eq_true,
    ↓reduceIte, Assemble.bits_toNat, Register.field_gpr]

theorem move_signed32 (rd : BitVec 5) (value : BitVec 32) :
    Assemble.move ([gpr false rd, signed32 value].flatMap Operand.pieces) =
      Assemble.constant? false value rd := by
  have hpieces : (signed32 value).pieces = [.number value.toInt] := by
    simp [signed32, Operand.pieces, Immediate.pieces, setWidth_signExtend]
  simp [Assemble.move, hpieces]

theorem move_halfword (rd : BitVec 5) (hhalf : ¬(sf = false ∧ 2 ≤ hw))
    (hplace : imm16 ≠ 0 ∨ hw = 0) :
    Assemble.move ([gpr sf rd, if sf then imm64 (imm16.setWidth 64 <<< (16 * hw.toNat))
        else imm (imm16.setWidth 64 <<< (16 * hw.toNat))].flatMap Operand.pieces) =
      some (Encode.moveWide sf 2 hw imm16 rd) := by
  have hfound := halfword?_placed hplace
  cases sf with
  | true =>
    rw [if_pos rfl, move_imm64, constant?_halfword]
    rw [toNat_value, hfound]
  | false =>
    have hhw : ¬ 2 ≤ hw := fun hle => hhalf ⟨rfl, hle⟩
    rw [if_neg (by decide), move_imm32, constant?_halfword]
    rw [toNat_value_word hhw, hfound]

theorem move_inverse (rd : BitVec 5) (hhalf : ¬(sf = false ∧ 2 ≤ hw))
    (hplace : imm16 ≠ 0 ∨ hw = 0) (hones : sf = true ∨ imm16 ≠ 0xffff) :
    Assemble.move ([gpr sf rd, if sf then signed64 (~~~(imm16.setWidth 64 <<< (16 * hw.toNat)))
        else signed32 ((~~~(imm16.setWidth 64 <<< (16 * hw.toNat))).setWidth 32)].flatMap
          Operand.pieces) =
      some (Encode.moveWide sf 0 hw imm16 rd) := by
  have hfound := halfword?_placed hplace
  cases sf with
  | true =>
    rw [if_pos rfl, move_signed64, constant?_inverse]
    · rw [toNat_inverse, halfword?_inverse]
    · rw [BitVec.not_not, toNat_value, hfound]
  | false =>
    have hhw : ¬ 2 ≤ hw := fun hle => hhalf ⟨rfl, hle⟩
    have hlt := placed_lt_word hhw imm16
    rw [if_neg (by decide), move_signed32, constant?_inverse]
    · rw [toNat_inverse_word hhw, halfword?_inverse_word hhw (hones.resolve_left (by decide))]
    · rw [BitVec.toNat_not, toNat_inverse_word hhw, ← hfound]
      congr 1
      omega

end Constants

theorem readsBack_moveWide (hw : DataImmediateClass.Fixed w .moveWide)
    (h : moveWide w = .ok d) : ReadsBack address w d := by
  have hfields := Encode.moveWide_fields hw
  have hspell {op : Operation} {opc : BitVec 2}
      (hop : assemble address op = Assemble.moveWide opc)
      (hfields : Encode.moveWide w.sf opc (w.field 21 2) (w.field 5 16) w.rd = w) :
      ReadsBack address w ⟨op, [gpr w.sf w.rd,
        immLsl (w.field 5 16) (16 * (w.field 21 2).toNat)]⟩ :=
    .of (Assemble.moveWide opc) hop (by simp) (by simp [moveWide_immLsl, hfields])
  simp only [moveWide, decide_eq_true_eq] at h
  split at h
  · cases h
  · rename_i hopc
    split at h
    · cases h
    · rename_i hhalf
      rcases twoBits_cases (w.field 29 2) with hbits | hbits | hbits | hbits <;>
        simp only [hbits] at h hfields hopc
      · split at h <;> cases h
        · rename_i hspelled
          exact .of Assemble.move rfl (by cases w.sf <;> simp)
            ((move_inverse _ hhalf hspelled.1 hspelled.2).trans (congrArg some hfields))
        · exact hspell rfl hfields
      · exact absurd rfl hopc
      · split at h <;> cases h
        · rename_i hplace
          exact .of Assemble.move rfl (by cases w.sf <;> simp)
            ((move_halfword _ hhalf hplace).trans (congrArg some hfields))
        · exact hspell rfl hfields
      · cases h
        exact hspell rfl hfields

/-! ### Moves of a field -/

section Bitfield

variable {op : Operation} {sf : Bool} {rd rn : BitVec 5} {immr imms : BitVec 6} {opc : BitVec 2}

/-- The fields of the instruction fit the width of its registers. -/
structure InRange (sf : Bool) (immr imms : BitVec 6) : Prop where
  immr_lt : immr.toNat < Assemble.size sf
  imms_lt : imms.toNat < Assemble.size sf

theorem readsBack_extraction (hle : ¬ imms < immr)
    (hop : assemble address op = Assemble.extraction opc)
    (hfields : Encode.bitfield sf opc immr imms rn rd = w) :
    ReadsBack address w
      ⟨op, [gpr sf rd, gpr sf rn, imm immr, immNat (imms.toNat - immr.toNat + 1)]⟩ := by
  have himms := imms.isLt
  have hle : immr.toNat ≤ imms.toNat := Nat.not_lt.1 hle
  have hwidth : (immr.toNat : Int) + ((imms.toNat - immr.toNat + 1 : Nat) : Int) - 1 =
      (imms.toNat : Int) := by omega
  have hlsb : (imm immr).pieces = [.number immr.toNat] := pieces_imm (by decide) immr
  have hcount : (immNat (imms.toNat - immr.toNat + 1)).pieces =
      [.number (imms.toNat - immr.toNat + 1 : Nat)] := pieces_immNat (by omega)
  refine .of _ hop (by simp) ?_
  rw [← hfields]
  simp only [List.flatMap_cons, List.flatMap_nil, pieces_gpr, hlsb, hcount, List.cons_append,
    List.nil_append, Assemble.extraction, hwidth, Assemble.bits_toNat, Register.wide_gpr,
    Register.field_gpr]

theorem insertion_numbers (hrange : InRange sf immr imms) :
    (Assemble.size sf : Int) - ((Assemble.size sf - immr.toNat : Nat) : Int) = immr.toNat ∧
      ((imms.toNat + 1 : Nat) : Int) - 1 = imms.toNat ∧
      Assemble.size sf - immr.toNat < 2 ^ 32 ∧ imms.toNat + 1 < 2 ^ 32 := by
  have himms := imms.isLt
  have himmr := hrange.immr_lt
  have hsize : Assemble.size sf ≤ 64 := by cases sf <;> decide
  omega

theorem readsBack_insertion (hrange : InRange sf immr imms)
    (hop : assemble address op = Assemble.insertion opc)
    (hfields : Encode.bitfield sf opc immr imms rn rd = w) :
    ReadsBack address w ⟨op, [gpr sf rd, gpr sf rn,
      immNat (Assemble.size sf - immr.toNat), immNat (imms.toNat + 1)]⟩ := by
  obtain ⟨hlsb, hwidth, hlsbLt, hwidthLt⟩ := insertion_numbers hrange
  refine .of _ hop (by simp) ?_
  rw [← hfields]
  simp only [List.flatMap_cons, List.flatMap_nil, pieces_gpr, pieces_immNat hlsbLt,
    pieces_immNat hwidthLt, List.cons_append, List.nil_append, Assemble.insertion,
    Register.wide_gpr, hlsb, hwidth, Assemble.bits_toNat, Register.field_gpr]

theorem readsBack_clear (hrange : InRange sf immr imms) (hrn : rn = 31)
    (hop : assemble address op = Assemble.insertion opc)
    (hfields : Encode.bitfield sf opc immr imms rn rd = w) :
    ReadsBack address w ⟨op, [gpr sf rd,
      immNat (Assemble.size sf - immr.toNat), immNat (imms.toNat + 1)]⟩ := by
  obtain ⟨hlsb, hwidth, hlsbLt, hwidthLt⟩ := insertion_numbers hrange
  refine .of _ hop (by simp) ?_
  rw [← hfields, hrn]
  simp only [List.flatMap_cons, List.flatMap_nil, pieces_gpr, pieces_immNat hlsbLt,
    pieces_immNat hwidthLt, List.cons_append, List.nil_append, Assemble.insertion,
    Register.wide_gpr, hlsb, hwidth, Assemble.bits_toNat, Register.field_gpr]

theorem readsBack_shiftRight {opcode : BitVec 6} (hlast : imms.toNat + 1 = Assemble.size sf)
    (hop : assemble address op = Assemble.shiftRight opc opcode)
    (hfields : Encode.bitfield sf opc immr imms rn rd = w) :
    ReadsBack address w ⟨op, [gpr sf rd, gpr sf rn, imm immr]⟩ := by
  have himms : BitVec.ofNat 6 (Assemble.size sf - 1) = imms := by
    rw [← hlast]
    simp
  refine .of _ hop (by simp) ?_
  simpa [Assemble.shiftRight, himms] using hfields

theorem readsBack_shiftLeft (hrange : InRange sf immr imms) (hnext : imms.toNat + 1 = immr.toNat)
    (hfields : Encode.bitfield sf 2 immr imms rn rd = w) :
    ReadsBack address w ⟨.lsl, [gpr sf rd, gpr sf rn,
      immNat (Assemble.size sf - 1 - imms.toNat)]⟩ := by
  have himms := hrange.imms_lt
  have hsize : Assemble.size sf ≤ 64 := by cases sf <;> decide
  have hr : (Assemble.size sf : Int) - ((Assemble.size sf - 1 - imms.toNat : Nat) : Int) =
      immr.toNat := by omega
  have hs : (Assemble.size sf : Int) - 1 - ((Assemble.size sf - 1 - imms.toNat : Nat) : Int) =
      imms.toNat := by omega
  have hamount : Assemble.size sf - 1 - imms.toNat < 2 ^ 32 := by omega
  refine .of Assemble.shiftLeft rfl (by simp) ?_
  rw [← hfields]
  simp only [List.flatMap_cons, List.flatMap_nil, pieces_gpr, pieces_immNat hamount,
    List.cons_append, List.nil_append, Assemble.shiftLeft, Register.wide_gpr, hr, hs,
    Assemble.bits_toNat, Register.field_gpr]

theorem readsBack_bitfieldMove (hop : assemble address op = Assemble.bitfield opc)
    (hfields : Encode.bitfield sf opc immr imms rn rd = w) :
    ReadsBack address w ⟨op, [gpr sf rd, gpr sf rn, imm immr, imm imms]⟩ := by
  refine .of _ hop (by simp) ?_
  simpa [Assemble.bitfield] using hfields

theorem last_eq (sf : Bool) : (if sf then 63 else 31) = Assemble.size sf - 1 := by
  cases sf <;> rfl

theorem last_add_one (sf : Bool) : Assemble.size sf - 1 + 1 = Assemble.size sf := by
  cases sf <;> rfl

theorem readsBack_extension (hop : assemble address op = Assemble.extension opc imms)
    (hfields : Encode.bitfield sf opc 0 imms rn rd = w) :
    ReadsBack address w ⟨op, [gpr sf rd, Decode.w rn]⟩ := by
  refine .of _ hop (by simp) ?_
  simpa [Assemble.extension] using hfields

theorem readsBack_signedBitfield (hrange : InRange sf immr imms)
    (hfields : Encode.bitfield sf 0 immr imms rn rd = w) :
    ReadsBack address w (signedBitfield sf rd rn immr imms) := by
  have himms := hrange.imms_lt
  simp only [signedBitfield, last_eq, last_add_one]
  split
  · exact readsBack_shiftRight (by omega) rfl hfields
  · split
    · exact readsBack_insertion hrange rfl hfields
    · rename_i hle
      split
      · exact readsBack_extraction hle rfl hfields
      · split
        · exact readsBack_extension rfl hfields
        · exact readsBack_extension rfl hfields
        · exact readsBack_extension rfl hfields
        · exact readsBack_bitfieldMove rfl hfields

theorem readsBack_insertedBitfield (hrange : InRange sf immr imms)
    (hfields : Encode.bitfield sf 1 immr imms rn rd = w) :
    ReadsBack address w (insertedBitfield sf rd rn immr imms) := by
  simp only [insertedBitfield, last_eq, last_add_one]
  split
  · split
    · exact readsBack_clear hrange ‹_› rfl hfields
    · exact readsBack_insertion hrange rfl hfields
  · exact readsBack_extraction ‹_› rfl hfields

/-- Bytes and halfwords are extended without signs only in 32 bits; in 64 bits that is an
extraction. -/
theorem sf_of_isExtraction (h : ¬ isExtraction sf true imms immr = true) (hle : ¬ imms < immr)
    (hlast : imms.toNat ≠ Assemble.size sf - 1) : sf = false := by
  cases sf with
  | false => rfl
  | true =>
    have hne : imms ≠ 63#6 := fun himms => hlast (by rw [himms]; rfl)
    exact absurd (by simp [isExtraction, hle, hne]) h

theorem readsBack_unsignedBitfield (hrange : InRange sf immr imms)
    (hfields : Encode.bitfield sf 2 immr imms rn rd = w) :
    ReadsBack address w (unsignedBitfield sf rd rn immr imms) := by
  have himms := hrange.imms_lt
  simp only [unsignedBitfield, last_eq, last_add_one]
  split
  · rename_i hlsl
    exact readsBack_shiftLeft hrange hlsl.2 hfields
  · split
    · exact readsBack_shiftRight (by omega) rfl hfields
    · rename_i hlast
      split
      · exact readsBack_insertion hrange rfl hfields
      · rename_i hle
        split
        · exact readsBack_extraction hle rfl hfields
        · rename_i hext
          obtain rfl := sf_of_isExtraction hext hle hlast
          split
          · exact readsBack_extension rfl hfields
          · exact readsBack_extension rfl hfields
          · exact readsBack_bitfieldMove rfl hfields

end Bitfield

theorem bitfield_cases (h : bitfield w = .ok d) :
    w.sf = w.bit 22 ∧ InRange w.sf (w.field 16 6) (w.field 10 6) ∧
      (w.field 29 2 = 0 ∧ d = signedBitfield w.sf w.rd w.rn (w.field 16 6) (w.field 10 6) ∨
        w.field 29 2 = 1 ∧ d = insertedBitfield w.sf w.rd w.rn (w.field 16 6) (w.field 10 6) ∨
        w.field 29 2 = 2 ∧ d = unsignedBitfield w.sf w.rd w.rn (w.field 16 6) (w.field 10 6)) := by
  simp only [bitfield] at h
  split at h
  · cases h
  · rename_i hopc
    split at h
    · cases h
    · rename_i hn
      split at h
      · cases h
      · rename_i hout
        have hrange : InRange w.sf (w.field 16 6) (w.field 10 6) := by
          have himmr := (w.field 16 6).isLt
          have himms := (w.field 10 6).isLt
          cases hsf : w.sf with
          | true => exact ⟨himmr, himms⟩
          | false =>
            simp only [hsf, true_and, not_or] at hout
            exact ⟨Nat.not_le.1 hout.1, Nat.not_le.1 hout.2⟩
        refine ⟨Decidable.not_not.1 hn, hrange, ?_⟩
        rcases twoBits_cases (w.field 29 2) with hbits | hbits | hbits | hbits <;>
          simp only [hbits] at h hopc <;> cases h
        · exact .inl ⟨hbits, rfl⟩
        · exact .inr (.inl ⟨hbits, rfl⟩)
        · exact .inr (.inr ⟨hbits, rfl⟩)
        · exact absurd rfl hopc

theorem readsBack_bitfield (hw : DataImmediateClass.Fixed w .bitfield)
    (h : bitfield w = .ok d) : ReadsBack address w d := by
  obtain ⟨hn, hrange, hmeaning⟩ := bitfield_cases h
  have hfields := Encode.bitfield_fields hw hn
  rcases hmeaning with ⟨hbits, rfl⟩ | ⟨hbits, rfl⟩ | ⟨hbits, rfl⟩ <;> rw [hbits] at hfields
  · exact readsBack_signedBitfield hrange hfields
  · exact readsBack_insertedBitfield hrange hfields
  · exact readsBack_unsignedBitfield hrange hfields

theorem readsBack_extract (hw : DataImmediateClass.Fixed w .extract)
    (h : extract w = .ok d) : ReadsBack address w d := by
  simp only [extract] at h
  split at h
  · cases h
  · rename_i hopc
    simp only [not_or, ne_eq, Decidable.not_not, Bool.not_eq_true] at hopc
    split at h
    · cases h
    · rename_i hn
      have hfields := Encode.extract_fields hw hopc.1 hopc.2 (Decidable.not_not.1 hn)
      split at h
      · cases h
      · split at h <;> rename_i hequal <;> cases h
        · refine .of Assemble.rotate rfl (by simp) ?_
          simpa [Assemble.rotate, hequal] using hfields
        · refine .of Assemble.extract rfl (by simp) ?_
          simpa [Assemble.extract] using hfields

/-- Every word that processes an immediate reads back, except bitwise operations. -/
theorem readsBack_dataProcessingImmediate
    (hgroup : Group.ofWord? w = some .dataProcessingImmediate) (hclass : w.field 23 3 ≠ 0b100)
    (h : dataProcessingImmediate w address = .ok d) : ReadsBack address w d := by
  have hw := DataImmediateClass.fixed hgroup
  unfold dataProcessingImmediate at h
  cases hcls : DataImmediateClass.ofWord w with
  | logical =>
    unfold DataImmediateClass.ofWord at hcls
    split at hcls <;> cases hcls
    exact absurd ‹w.field 23 3 = 4#3› hclass
  | pcRelative =>
    rw [hcls] at h hw
    exact readsBack_pcRelative hw h
  | addSub =>
    rw [hcls] at h hw
    exact readsBack_addSubImmediate hw h
  | moveWide =>
    rw [hcls] at h hw
    exact readsBack_moveWide hw h
  | bitfield =>
    rw [hcls] at h hw
    exact readsBack_bitfield hw h
  | extract =>
    rw [hcls] at h hw
    exact readsBack_extract hw h

end A64.Decode
