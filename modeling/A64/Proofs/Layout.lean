import A64.Decode

/-!
# The layout of integer encodings

For each class of integer data processing, the word that given fields make up (`Encode`), and the
theorem that a word of the class is made up of its own fields. What is fixed in a class follows from
its group and class (`Fixed`), the rest from the rules that its decoder checks.
-/

namespace A64

theorem twoBits_cases (b : BitVec 2) : b = 0#2 ∨ b = 1#2 ∨ b = 2#2 ∨ b = 3#2 := by
  revert b
  decide

theorem threeBits_cases (b : BitVec 3) :
    b = 0#3 ∨ b = 1#3 ∨ b = 2#3 ∨ b = 3#3 ∨ b = 4#3 ∨ b = 5#3 ∨ b = 6#3 ∨ b = 7#3 := by
  revert b
  decide

theorem setWidth_signExtend {n : Nat} (hn : n ≤ 64) (b : BitVec n) :
    (b.signExtend 64).setWidth n = b := by
  apply BitVec.eq_of_getLsbD_eq
  intro i hi
  have hi64 : i < 64 := by omega
  rw [BitVec.getLsbD_setWidth, BitVec.getLsbD_signExtend]
  simp [hi, hi64]

namespace Word

variable (w : Word)

theorem field_append {s t m n : Nat} (h : s = t + n) :
    w.field s m ++ w.field t n = w.field t (m + n) :=
  BitVec.extractLsb'_append_extractLsb'_eq_extractLsb' h

theorem field_field {s n i m : Nat} (h : i + m ≤ n) :
    (w.field s n).extractLsb' i m = w.field (s + i) m := by
  ext j hj
  have hij : i + j < n := by omega
  simp [field, hij, Nat.add_assoc]

theorem field_whole : w.field 0 32 = w := BitVec.extractLsb'_eq_self

theorem ofBool_bit (i : Nat) : BitVec.ofBool (w.bit i) = w.field i 1 := by
  ext j hj
  have hzero : j = 0 := by omega
  subst hzero
  simp [bit, field]

theorem field_one_of_bit {i : Nat} {b : Bool} (h : w.bit i = b) :
    w.field i 1 = BitVec.ofBool b := by
  rw [← h, ofBool_bit]

end Word

namespace Decode

variable {w : Word}

/-- The bits that are the same in all words of a class. -/
def DataImmediateClass.Fixed (w : Word) : DataImmediateClass → Prop
  | pcRelative => w.field 24 5 = 0b10000#5
  | addSub => w.field 24 5 = 0b10001#5
  | logical => w.field 23 6 = 0b100100#6
  | moveWide => w.field 23 6 = 0b100101#6
  | bitfield => w.field 23 6 = 0b100110#6
  | extract => w.field 23 6 = 0b100111#6

theorem DataImmediateClass.fixed (hgroup : Group.ofWord? w = some .dataProcessingImmediate) :
    (ofWord w).Fixed w := by
  have hbits : w.field 26 3 = 0b100#3 := by
    have hall : ∀ b : BitVec 4, Group.ofBits? b = some .dataProcessingImmediate →
        b.extractLsb' 1 3 = 0b100#3 := by decide
    rw [← w.field_field (show 1 + 3 ≤ 4 by decide)]
    exact hall _ hgroup
  have hsix : w.field 23 6 = 0b100#3 ++ w.field 23 3 := by
    rw [← hbits]
    exact (w.field_append (show 26 = 23 + 3 by decide)).symm
  have hfive : w.field 24 5 = 0b100#3 ++ (w.field 23 3).extractLsb' 1 2 := by
    rw [← hbits, w.field_field (by decide)]
    exact (w.field_append (show 26 = 24 + 2 by decide)).symm
  unfold ofWord
  generalize w.field 23 3 = b at hsix hfive
  rcases threeBits_cases b with rfl | rfl | rfl | rfl | rfl | rfl | rfl | rfl <;>
    first | exact hfive | exact hsix

def DataRegisterClass.Fixed (w : Word) : DataRegisterClass → Prop
  | logicalShifted => w.field 24 5 = 0b01010#5
  | addSubShifted => w.field 24 5 = 0b01011#5 ∧ w.field 21 1 = 0b0#1
  | addSubExtended => w.field 24 5 = 0b01011#5 ∧ w.field 21 1 = 0b1#1
  | addSubCarry => w.field 21 8 = 0b11010000#8 ∧ w.field 10 6 = 0b000000#6
  | rotateIntoFlags => w.field 21 8 = 0b11010000#8 ∧ w.field 10 5 = 0b00001#5
  | evaluateIntoFlags => w.field 21 8 = 0b11010000#8 ∧ w.field 10 4 = 0b0010#4
  | conditionalCompare => w.field 21 8 = 0b11010010#8
  | conditionalSelect => w.field 21 8 = 0b11010100#8
  | oneSource => w.field 21 8 = 0b11010110#8 ∧ w.field 30 1 = 0b1#1
  | twoSource => w.field 21 8 = 0b11010110#8 ∧ w.field 30 1 = 0b0#1
  | threeSource => w.field 24 5 = 0b11011#5

theorem DataRegisterClass.fixed {cls : DataRegisterClass}
    (hgroup : Group.ofWord? w = some .dataProcessingRegister) (hcls : ofWord w = .ok cls) :
    cls.Fixed w := by
  have hbits : w.field 25 3 = 0b101#3 := by
    have hall : ∀ b : BitVec 4, Group.ofBits? b = some .dataProcessingRegister →
        b.extractLsb' 0 3 = 0b101#3 := by decide
    rw [← w.field_field (show 0 + 3 ≤ 4 by decide)]
    exact hall _ hgroup
  have height : w.field 21 8 = BitVec.ofBool (w.bit 28) ++ 0b101#3 ++ w.field 21 4 := by
    rw [← hbits, w.ofBool_bit]
    simp (disch := decide) only [w.field_append]
  -- The arms that an inequality sorts out know only the highest of the four bits.
  have hfive : w.field 24 5 =
      BitVec.ofBool (w.bit 28) ++ 0b101#3 ++ (w.field 21 4).extractLsb' 3 1 := by
    rw [← hbits, w.ofBool_bit, w.field_field (by decide)]
    simp (disch := decide) only [w.field_append]
  unfold ofWord at hcls
  cases hb : w.bit 28 with
  | true =>
    rw [hb] at height hfive
    simp only [hb, ↓reduceIte] at hcls
    split at hcls <;> rename_i hop
    · rw [hop] at height
      unfold ofFlagsWord at hcls
      split at hcls
      · cases hcls; exact ⟨height, ‹_›⟩
      · split at hcls
        · cases hcls; exact ⟨height, ‹_›⟩
        · split at hcls
          · cases hcls; exact ⟨height, ‹_›⟩
          · cases hcls
    · rw [hop] at height
      cases hcls; exact height
    · rw [hop] at height
      cases hcls; exact height
    · rw [hop] at height
      cases h30 : w.bit 30 <;> rw [h30] at hcls <;> cases hcls <;>
        exact ⟨height, w.field_one_of_bit h30⟩
    · split at hcls
      · cases hcls
        have hall : ∀ b : BitVec 4, 8 ≤ b → b.extractLsb' 3 1 = 0b1#1 := by decide
        rw [hall _ ‹_›] at hfive
        exact hfive
      · cases hcls
  | false =>
    rw [hb] at hfive
    simp only [hb, Bool.false_eq_true, ↓reduceIte] at hcls
    split at hcls
    · cases hcls
      have hall : ∀ b : BitVec 4, b < 8 → b.extractLsb' 3 1 = 0b0#1 := by decide
      rw [hall _ ‹_›] at hfive
      exact hfive
    · have hall : ∀ b : BitVec 4, ¬ b < 8 → b.extractLsb' 3 1 = 0b1#1 := by decide
      rw [hall _ ‹_›] at hfive
      split at hcls <;> rename_i h21 <;> cases hcls
      · exact ⟨hfive, w.field_one_of_bit h21⟩
      · exact ⟨hfive, w.field_one_of_bit (Bool.eq_false_iff.2 h21)⟩

end Decode

namespace Encode

open BitVec (ofBool)
open Decode

def pcRelative (page : Bool) (offset : BitVec 21) (d : BitVec 5) : Word :=
  ofBool page ++ offset.extractLsb' 0 2 ++ 0b10000#5 ++ offset.extractLsb' 2 19 ++ d

def addSubImmediate (sf sub flags : Bool) (shift : BitVec 2) (imm12 : BitVec 12)
    (n d : BitVec 5) : Word :=
  ofBool sf ++ ofBool sub ++ ofBool flags ++ 0b10001#5 ++ shift ++ imm12 ++ n ++ d

def moveWide (sf : Bool) (opc hw : BitVec 2) (imm16 : BitVec 16) (d : BitVec 5) : Word :=
  ofBool sf ++ opc ++ 0b100101#6 ++ hw ++ imm16 ++ d

def bitfield (sf : Bool) (opc : BitVec 2) (immr imms : BitVec 6) (n d : BitVec 5) : Word :=
  ofBool sf ++ opc ++ 0b100110#6 ++ ofBool sf ++ immr ++ imms ++ n ++ d

def extract (sf : Bool) (m : BitVec 5) (imms : BitVec 6) (n d : BitVec 5) : Word :=
  ofBool sf ++ 0b00#2 ++ 0b100111#6 ++ ofBool sf ++ 0b0#1 ++ m ++ imms ++ n ++ d

def logicalShifted (sf : Bool) (opc : BitVec 2) (invert : Bool) (shift : BitVec 2) (m : BitVec 5)
    (imm6 : BitVec 6) (n d : BitVec 5) : Word :=
  ofBool sf ++ opc ++ 0b01010#5 ++ shift ++ ofBool invert ++ m ++ imm6 ++ n ++ d

def addSubShifted (sf sub flags : Bool) (shift : BitVec 2) (m : BitVec 5) (imm6 : BitVec 6)
    (n d : BitVec 5) : Word :=
  ofBool sf ++ ofBool sub ++ ofBool flags ++ 0b01011#5 ++ shift ++ 0b0#1 ++ m ++ imm6 ++ n ++ d

def addSubExtended (sf sub flags : Bool) (m : BitVec 5) (option amount : BitVec 3)
    (n d : BitVec 5) : Word :=
  ofBool sf ++ ofBool sub ++ ofBool flags ++ 0b01011#5 ++ 0b00#2 ++ 0b1#1 ++ m ++ option ++
    amount ++ n ++ d

def addSubCarry (sf sub flags : Bool) (m n d : BitVec 5) : Word :=
  ofBool sf ++ ofBool sub ++ ofBool flags ++ 0b11010000#8 ++ m ++ 0b000000#6 ++ n ++ d

def rotateIntoFlags (imm6 : BitVec 6) (n : BitVec 5) (mask : BitVec 4) : Word :=
  ofBool true ++ ofBool false ++ ofBool true ++ 0b11010000#8 ++ imm6 ++ 0b00001#5 ++ n ++
    ofBool false ++ mask

def evaluateIntoFlags (half : Bool) (n : BitVec 5) : Word :=
  ofBool false ++ ofBool false ++ ofBool true ++ 0b11010000#8 ++ 0b000000#6 ++ ofBool half ++
    0b0010#4 ++ n ++ ofBool false ++ 0b1101#4

def conditionalCompare (sf sub : Bool) (m : BitVec 5) (cond : BitVec 4) (immediate : Bool)
    (n : BitVec 5) (nzcv : BitVec 4) : Word :=
  ofBool sf ++ ofBool sub ++ ofBool true ++ 0b11010010#8 ++ m ++ cond ++ ofBool immediate ++
    ofBool false ++ n ++ ofBool false ++ nzcv

def conditionalSelect (sf invert increment : Bool) (m : BitVec 5) (cond : BitVec 4)
    (n d : BitVec 5) : Word :=
  ofBool sf ++ ofBool invert ++ ofBool false ++ 0b11010100#8 ++ m ++ cond ++ ofBool false ++
    ofBool increment ++ n ++ d

def oneSource (sf : Bool) (opcode2 : BitVec 5) (opcode : BitVec 6) (n d : BitVec 5) : Word :=
  ofBool sf ++ 0b1#1 ++ ofBool false ++ 0b11010110#8 ++ opcode2 ++ opcode ++ n ++ d

def twoSource (sf : Bool) (m : BitVec 5) (opcode : BitVec 6) (n d : BitVec 5) : Word :=
  ofBool sf ++ 0b0#1 ++ ofBool false ++ 0b11010110#8 ++ m ++ opcode ++ n ++ d

def threeSource (sf : Bool) (op31 : BitVec 3) (m : BitVec 5) (o0 : Bool) (a n d : BitVec 5) :
    Word :=
  ofBool sf ++ 0b00#2 ++ 0b11011#5 ++ op31 ++ m ++ ofBool o0 ++ a ++ n ++ d

variable {w : Word}

theorem pcRelative_fields (h : w.field 24 5 = 0b10000#5) :
    pcRelative (w.bit 31) (w.field 5 19 ++ w.field 29 2) w.rd = w := by
  rw [pcRelative, ← h, w.ofBool_bit, BitVec.extractLsb'_append_eq_right,
    BitVec.extractLsb'_append_eq_left]
  simp (disch := decide) only [Word.rd, Word.field_append]
  exact w.field_whole

theorem addSubImmediate_fields (h : w.field 24 5 = 0b10001#5) :
    addSubImmediate w.sf (w.bit 30) (w.bit 29) (w.field 22 2) (w.field 10 12) w.rn w.rd = w := by
  rw [addSubImmediate, ← h]
  simp (disch := decide) only [Word.sf, Word.rn, Word.rd, Word.ofBool_bit, Word.field_append]
  exact w.field_whole

theorem moveWide_fields (h : w.field 23 6 = 0b100101#6) :
    moveWide w.sf (w.field 29 2) (w.field 21 2) (w.field 5 16) w.rd = w := by
  rw [moveWide, ← h]
  simp (disch := decide) only [Word.sf, Word.rd, Word.ofBool_bit, Word.field_append]
  exact w.field_whole

theorem bitfield_fields (h : w.field 23 6 = 0b100110#6) (hn : w.sf = w.bit 22) :
    bitfield w.sf (w.field 29 2) (w.field 16 6) (w.field 10 6) w.rn w.rd = w := by
  have hjoin : w.field 31 1 ++ w.field 29 2 ++ w.field 23 6 ++ w.field 22 1 ++ w.field 16 6 ++
      w.field 10 6 ++ w.rn ++ w.rd = w := by
    simp (disch := decide) only [Word.rn, Word.rd, Word.field_append]
    exact w.field_whole
  rw [h, w.field_one_of_bit hn.symm, ← w.ofBool_bit 31] at hjoin
  exact hjoin

theorem extract_fields (h : w.field 23 6 = 0b100111#6) (hopc : w.field 29 2 = 0b00#2)
    (h21 : w.bit 21 = false) (hn : w.sf = w.bit 22) :
    extract w.sf w.rm (w.field 10 6) w.rn w.rd = w := by
  have hjoin : w.field 31 1 ++ w.field 29 2 ++ w.field 23 6 ++ w.field 22 1 ++ w.field 21 1 ++
      w.rm ++ w.field 10 6 ++ w.rn ++ w.rd = w := by
    simp (disch := decide) only [Word.rn, Word.rd, Word.rm, Word.field_append]
    exact w.field_whole
  rw [h, hopc, w.field_one_of_bit h21, w.field_one_of_bit hn.symm, ← w.ofBool_bit 31] at hjoin
  exact hjoin

theorem logicalShifted_fields (h : w.field 24 5 = 0b01010#5) :
    logicalShifted w.sf (w.field 29 2) (w.bit 21) (w.field 22 2) w.rm (w.field 10 6) w.rn w.rd =
      w := by
  rw [logicalShifted, ← h]
  simp (disch := decide) only [Word.sf, Word.rm, Word.rn, Word.rd, Word.ofBool_bit,
    Word.field_append]
  exact w.field_whole

theorem addSubShifted_fields (h : w.field 24 5 = 0b01011#5) (h21 : w.field 21 1 = 0b0#1) :
    addSubShifted w.sf (w.bit 30) (w.bit 29) (w.field 22 2) w.rm (w.field 10 6) w.rn w.rd = w := by
  rw [addSubShifted, ← h, ← h21]
  simp (disch := decide) only [Word.sf, Word.rm, Word.rn, Word.rd, Word.ofBool_bit,
    Word.field_append]
  exact w.field_whole

theorem addSubExtended_fields (h : w.field 24 5 = 0b01011#5) (h21 : w.field 21 1 = 0b1#1)
    (h22 : w.field 22 2 = 0b00#2) :
    addSubExtended w.sf (w.bit 30) (w.bit 29) w.rm (w.field 13 3) (w.field 10 3) w.rn w.rd =
      w := by
  rw [addSubExtended, ← h, ← h21, ← h22]
  simp (disch := decide) only [Word.sf, Word.rm, Word.rn, Word.rd, Word.ofBool_bit,
    Word.field_append]
  exact w.field_whole

theorem addSubCarry_fields (h : w.field 21 8 = 0b11010000#8) (h10 : w.field 10 6 = 0b000000#6) :
    addSubCarry w.sf (w.bit 30) (w.bit 29) w.rm w.rn w.rd = w := by
  rw [addSubCarry, ← h, ← h10]
  simp (disch := decide) only [Word.sf, Word.rm, Word.rn, Word.rd, Word.ofBool_bit,
    Word.field_append]
  exact w.field_whole

theorem rotateIntoFlags_fields (h : w.field 21 8 = 0b11010000#8) (h10 : w.field 10 5 = 0b00001#5)
    (hsf : w.sf = true) (h30 : w.bit 30 = false) (h29 : w.bit 29 = true) (h4 : w.bit 4 = false) :
    rotateIntoFlags (w.field 15 6) w.rn (w.field 0 4) = w := by
  have hjoin : w.field 31 1 ++ w.field 30 1 ++ w.field 29 1 ++ w.field 21 8 ++ w.field 15 6 ++
      w.field 10 5 ++ w.rn ++ w.field 4 1 ++ w.field 0 4 = w := by
    simp (disch := decide) only [Word.rn, Word.field_append]
    exact w.field_whole
  rw [h, h10, w.field_one_of_bit hsf, w.field_one_of_bit h30, w.field_one_of_bit h29,
    w.field_one_of_bit h4] at hjoin
  exact hjoin

theorem evaluateIntoFlags_fields (h : w.field 21 8 = 0b11010000#8)
    (h10 : w.field 10 4 = 0b0010#4) (hsf : w.sf = false) (h30 : w.bit 30 = false)
    (h29 : w.bit 29 = true) (h15 : w.field 15 6 = 0b000000#6) (h4 : w.bit 4 = false)
    (h0 : w.field 0 4 = 0b1101#4) : evaluateIntoFlags (w.bit 14) w.rn = w := by
  have hjoin : w.field 31 1 ++ w.field 30 1 ++ w.field 29 1 ++ w.field 21 8 ++ w.field 15 6 ++
      w.field 14 1 ++ w.field 10 4 ++ w.rn ++ w.field 4 1 ++ w.field 0 4 = w := by
    simp (disch := decide) only [Word.rn, Word.field_append]
    exact w.field_whole
  rw [h, h10, w.field_one_of_bit hsf, w.field_one_of_bit h30, w.field_one_of_bit h29, h15,
    w.field_one_of_bit h4, h0, ← w.ofBool_bit 14] at hjoin
  exact hjoin

theorem conditionalCompare_fields (h : w.field 21 8 = 0b11010010#8) (h29 : w.bit 29 = true)
    (h10 : w.bit 10 = false) (h4 : w.bit 4 = false) :
    conditionalCompare w.sf (w.bit 30) w.rm (w.field 12 4) (w.bit 11) w.rn (w.field 0 4) = w := by
  have hjoin : w.field 31 1 ++ w.field 30 1 ++ w.field 29 1 ++ w.field 21 8 ++ w.rm ++
      w.field 12 4 ++ w.field 11 1 ++ w.field 10 1 ++ w.rn ++ w.field 4 1 ++ w.field 0 4 = w := by
    simp (disch := decide) only [Word.rm, Word.rn, Word.field_append]
    exact w.field_whole
  rw [h, w.field_one_of_bit h29, w.field_one_of_bit h10, w.field_one_of_bit h4,
    ← w.ofBool_bit 31, ← w.ofBool_bit 30, ← w.ofBool_bit 11] at hjoin
  exact hjoin

theorem conditionalSelect_fields (h : w.field 21 8 = 0b11010100#8) (h29 : w.bit 29 = false)
    (h11 : w.bit 11 = false) :
    conditionalSelect w.sf (w.bit 30) (w.bit 10) w.rm (w.field 12 4) w.rn w.rd = w := by
  have hjoin : w.field 31 1 ++ w.field 30 1 ++ w.field 29 1 ++ w.field 21 8 ++ w.rm ++
      w.field 12 4 ++ w.field 11 1 ++ w.field 10 1 ++ w.rn ++ w.rd = w := by
    simp (disch := decide) only [Word.rm, Word.rn, Word.rd, Word.field_append]
    exact w.field_whole
  rw [h, w.field_one_of_bit h29, w.field_one_of_bit h11, ← w.ofBool_bit 31, ← w.ofBool_bit 30,
    ← w.ofBool_bit 10] at hjoin
  exact hjoin

theorem oneSource_fields (h : w.field 21 8 = 0b11010110#8) (h30 : w.field 30 1 = 0b1#1)
    (h29 : w.bit 29 = false) :
    oneSource w.sf (w.field 16 5) (w.field 10 6) w.rn w.rd = w := by
  have hjoin : w.field 31 1 ++ w.field 30 1 ++ w.field 29 1 ++ w.field 21 8 ++ w.field 16 5 ++
      w.field 10 6 ++ w.rn ++ w.rd = w := by
    simp (disch := decide) only [Word.rn, Word.rd, Word.field_append]
    exact w.field_whole
  rw [h, h30, w.field_one_of_bit h29, ← w.ofBool_bit 31] at hjoin
  exact hjoin

theorem twoSource_fields (h : w.field 21 8 = 0b11010110#8) (h30 : w.field 30 1 = 0b0#1)
    (h29 : w.bit 29 = false) :
    twoSource w.sf w.rm (w.field 10 6) w.rn w.rd = w := by
  have hjoin : w.field 31 1 ++ w.field 30 1 ++ w.field 29 1 ++ w.field 21 8 ++ w.rm ++
      w.field 10 6 ++ w.rn ++ w.rd = w := by
    simp (disch := decide) only [Word.rm, Word.rn, Word.rd, Word.field_append]
    exact w.field_whole
  rw [h, h30, w.field_one_of_bit h29, ← w.ofBool_bit 31] at hjoin
  exact hjoin

theorem threeSource_fields (h : w.field 24 5 = 0b11011#5) (h29 : w.field 29 2 = 0b00#2) :
    threeSource w.sf (w.field 21 3) w.rm (w.bit 15) w.ra w.rn w.rd = w := by
  rw [threeSource, ← h, ← h29]
  simp (disch := decide) only [Word.sf, Word.rm, Word.ra, Word.rn, Word.rd, Word.ofBool_bit,
    Word.field_append]
  exact w.field_whole

end Encode

end A64
