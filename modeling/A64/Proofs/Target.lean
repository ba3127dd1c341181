import A64.Proofs.DecodeContract
import A64.Proofs.Layout
import Mathlib.Algebra.Group.Nat.Defs

/-!
# Words that name an address by its distance

A branch, a load of a literal and a computation of an address carry the distance to their target
in a signed field (`RelativeForm`): in words, in bytes or in pages. `RelativeForm.word` puts such a
word together from its fields. Over the whole range of the field, and whatever the other fields
hold, the word decodes to an instruction whose last operand is the label at exactly that distance,
wrapping around at either end of the address space (`decode_target`).
-/

namespace A64

theorem Word.bit_of_field {w : Word} {i : Nat} {b : Bool} (h : w.field i 1 = BitVec.ofBool b) :
    w.bit i = b := by
  have hbool : ∀ b b' : Bool, BitVec.ofBool b = BitVec.ofBool b' → b = b' := by decide
  rw [← w.ofBool_bit] at h
  exact hbool _ _ h

namespace Encode

open BitVec (ofBool)

def branchImmediate (link : Bool) (words : BitVec 26) : Word :=
  ofBool link ++ 0b00101#5 ++ words

def conditionalBranch (words : BitVec 19) (cond : BitVec 4) : Word :=
  0b01010100#8 ++ words ++ 0b0#1 ++ cond

def compareBranch (sf nonzero : Bool) (words : BitVec 19) (t : BitVec 5) : Word :=
  ofBool sf ++ 0b011010#6 ++ ofBool nonzero ++ words ++ t

def testBranch (bit : BitVec 6) (nonzero : Bool) (words : BitVec 14) (t : BitVec 5) : Word :=
  bit.extractLsb' 5 1 ++ 0b011011#6 ++ ofBool nonzero ++ bit.extractLsb' 0 5 ++ words ++ t

def literal (opc : BitVec 2) (vector : Bool) (words : BitVec 19) (t : BitVec 5) : Word :=
  opc ++ 0b011#3 ++ ofBool vector ++ 0b00#2 ++ words ++ t

end Encode

/-- A word that carries a distance, with the fields that it has beside the distance. -/
inductive RelativeForm where
  | branch (link : Bool)
  | conditionalBranch (cond : BitVec 4)
  | compareBranch (sf nonzero : Bool) (rt : BitVec 5)
  | testBranch (bit : BitVec 6) (nonzero : Bool) (rt : BitVec 5)
  /-- The last code of a vector load is not allocated. -/
  | literal (opc : BitVec 2) (vector : Bool) (rt : BitVec 5) (allocated : vector = true → opc ≠ 3)
  | adr (rd : BitVec 5)
  | adrp (rd : BitVec 5)

namespace RelativeForm

open Decode

def width : RelativeForm → Nat
  | branch _ => 26
  | conditionalBranch _ | compareBranch .. | literal .. => 19
  | testBranch .. => 14
  | adr _ | adrp _ => 21

/-- The part of the distance that one step of the field counts: four bytes, or one byte or page. -/
def unit : RelativeForm → Nat
  | adr _ | adrp _ => 1
  | _ => 4

/-- The distances that the field can carry are those from `-reach` up to, but not including,
`reach`. -/
def reach : RelativeForm → Nat
  | branch _ => 2 ^ 27
  | testBranch .. => 2 ^ 15
  | _ => 2 ^ 20

def word : (f : RelativeForm) → BitVec f.width → Word
  | branch link, n => Encode.branchImmediate link n
  | conditionalBranch cond, n => Encode.conditionalBranch n cond
  | compareBranch sf nonzero rt, n => Encode.compareBranch sf nonzero n rt
  | testBranch bit nonzero rt, n => Encode.testBranch bit nonzero n rt
  | literal opc vector rt _, n => Encode.literal opc vector n rt
  | adr rd, n => Encode.pcRelative false n rd
  | adrp rd, n => Encode.pcRelative true n rd

/-- The word that carries a distance. -/
def wordAt (f : RelativeForm) (distance : Int) : Word :=
  f.word (BitVec.ofInt f.width (distance / f.unit))

/-- The address at a distance from a word: in bytes from the word, or in pages of `2 ^ 12` bytes
from the word's own page. -/
def target (address : Address) (distance : Int) : RelativeForm → Address
  | adrp _ => (address &&& ~~~0xfff) + BitVec.ofInt 64 (4096 * distance)
  | _ => address + BitVec.ofInt 64 distance

def operation : RelativeForm → Operation
  | branch link => if link then .bl else .b
  | conditionalBranch cond => .branchIf (.ofBits cond)
  | compareBranch _ nonzero _ => if nonzero then .cbnz else .cbz
  | testBranch _ nonzero _ => if nonzero then .tbnz else .tbz
  | literal opc vector _ _ =>
    if vector then .ldr else if opc = 2 then .ldrsw else if opc = 3 then .prfm else .ldr
  | adr _ => .adr
  | adrp _ => .adrp

def operands : RelativeForm → List Operand
  | branch _ | conditionalBranch _ => []
  | compareBranch sf _ rt => [gpr sf rt]
  | testBranch bit _ rt => [gpr (bit.getLsbD 5) rt, imm bit]
  | literal opc vector rt _ =>
    if vector then [scalar (if opc = 0 then .s else if opc = 1 then .d else .q) rt]
    else if opc = 0 then [w rt]
    else if opc = 3 then [prefetch rt]
    else [x rt]
  | adr rd | adrp rd => [x rd]

def group : RelativeForm → Group
  | literal .. => .loadStore
  | adr _ | adrp _ => .dataProcessingImmediate
  | _ => .branchExceptionSystem

def scale : RelativeForm → Int
  | adr _ => 1
  | adrp _ => 4096
  | _ => 4

def fromPage : RelativeForm → Bool
  | adrp _ => true
  | _ => false

variable {address : Address}

/-! ### The fields of the words -/

open BitVec (extractLsb'_append_eq_of_le extractLsb'_append_eq_of_add_le extractLsb'_eq_self
  extractLsb'_append_extractLsb'_eq_extractLsb' ofBool)

theorem fields_branchImmediate (link : Bool) (n : BitVec 26) :
    let w := Encode.branchImmediate link n
    w.field 26 3 = 0b101#3 ∧ w.field 29 3 = ofBool link ++ 0b00#2 ∧ w.bit 31 = link ∧
      w.field 0 26 = n := by
  refine ⟨?_, ?_, Word.bit_of_field ?_, ?_⟩ <;>
    simp (disch := decide) only [Encode.branchImmediate, Word.field,
      extractLsb'_append_eq_of_add_le, extractLsb'_append_eq_of_le, Nat.reduceSub,
      extractLsb'_eq_self]
  · rfl
  · cases link <;> rfl

theorem fields_conditionalBranch (n : BitVec 19) (cond : BitVec 4) :
    let w := Encode.conditionalBranch n cond
    w.field 26 3 = 0b101#3 ∧ w.field 29 3 = 0b010#3 ∧ w.bit 25 = false ∧ w.bit 24 = false ∧
      w.bit 4 = false ∧ w.field 0 4 = cond ∧ w.field 5 19 = n := by
  refine ⟨?_, ?_, Word.bit_of_field ?_, Word.bit_of_field ?_, Word.bit_of_field ?_, ?_, ?_⟩ <;>
    simp (disch := decide) only [Encode.conditionalBranch, Word.field,
      extractLsb'_append_eq_of_add_le, extractLsb'_append_eq_of_le, Nat.reduceSub,
      extractLsb'_eq_self]
  all_goals rfl

theorem fields_compareBranch (sf nonzero : Bool) (n : BitVec 19) (rt : BitVec 5) :
    let w := Encode.compareBranch sf nonzero n rt
    w.field 26 3 = 0b101#3 ∧ w.field 29 3 = ofBool sf ++ 0b01#2 ∧ w.bit 25 = false ∧ w.sf = sf ∧
      w.bit 24 = nonzero ∧ w.rt = rt ∧ w.field 5 19 = n := by
  refine ⟨?_, ?_, Word.bit_of_field ?_, Word.bit_of_field ?_, Word.bit_of_field ?_, ?_, ?_⟩ <;>
    simp (disch := decide) only [Encode.compareBranch, Word.rt, Word.field,
      extractLsb'_append_eq_of_add_le, extractLsb'_append_eq_of_le, Nat.reduceSub,
      extractLsb'_eq_self]
  · rfl
  · cases sf <;> rfl
  · rfl

theorem fields_testBranch (bit : BitVec 6) (nonzero : Bool) (n : BitVec 14) (rt : BitVec 5) :
    let w := Encode.testBranch bit nonzero n rt
    w.field 26 3 = 0b101#3 ∧ w.field 29 3 = bit.extractLsb' 5 1 ++ 0b01#2 ∧ w.bit 25 = true ∧
      w.sf = bit.getLsbD 5 ∧ w.bit 24 = nonzero ∧ w.rt = rt ∧
      w.field 31 1 ++ w.field 19 5 = bit ∧ w.field 5 14 = n := by
  have hall : ∀ bit : BitVec 6,
      (bit.extractLsb' 5 1 ++ 0b011011#6).extractLsb' 4 3 = bit.extractLsb' 5 1 ++ 0b01#2 ∧
        bit.extractLsb' 5 1 = ofBool (bit.getLsbD 5) := by decide
  refine ⟨?_, ?_, Word.bit_of_field ?_, Word.bit_of_field ?_, Word.bit_of_field ?_, ?_, ?_, ?_⟩ <;>
    simp (disch := decide) only [Encode.testBranch, Word.rt, Word.field,
      extractLsb'_append_eq_of_add_le, extractLsb'_append_eq_of_le, Nat.reduceSub,
      extractLsb'_eq_self]
  · rfl
  · exact (hall bit).1
  · rfl
  · exact (hall bit).2
  · exact (extractLsb'_append_extractLsb'_eq_extractLsb' rfl).trans extractLsb'_eq_self

theorem fields_literal (opc : BitVec 2) (vector : Bool) (n : BitVec 19) (rt : BitVec 5) :
    let w := Encode.literal opc vector n rt
    w.field 25 1 = 0#1 ∧ w.field 27 1 = 1#1 ∧ w.field 28 2 = 0b01#2 ∧ w.bit 24 = false ∧
      w.field 30 2 = opc ∧ w.bit 26 = vector ∧ w.rt = rt ∧ w.field 5 19 = n := by
  refine ⟨?_, ?_, ?_, Word.bit_of_field ?_, ?_, Word.bit_of_field ?_, ?_, ?_⟩ <;>
    simp (disch := decide) only [Encode.literal, Word.rt, Word.field,
      extractLsb'_append_eq_of_add_le, extractLsb'_append_eq_of_le, Nat.reduceSub,
      extractLsb'_eq_self]
  all_goals rfl

theorem fields_pcRelative (page : Bool) (n : BitVec 21) (rd : BitVec 5) :
    let w := Encode.pcRelative page n rd
    w.field 24 5 = 0b10000#5 ∧ w.bit 31 = page ∧ w.rd = rd ∧ w.field 5 19 ++ w.field 29 2 = n := by
  refine ⟨?_, Word.bit_of_field ?_, ?_, ?_⟩ <;>
    simp (disch := decide) only [Encode.pcRelative, Word.rd, Word.field,
      extractLsb'_append_eq_of_add_le, extractLsb'_append_eq_of_le, Nat.reduceSub,
      extractLsb'_eq_self]
  exact (extractLsb'_append_extractLsb'_eq_extractLsb' rfl).trans extractLsb'_eq_self

theorem group_of_control {w : Word} (h : w.field 26 3 = 0b101#3) :
    Group.ofWord? w = some .branchExceptionSystem := by
  have hall : ∀ b : BitVec 4, b.extractLsb' 1 3 = 0b101#3 →
      Group.ofBits? b = some .branchExceptionSystem := by decide
  refine hall _ ?_
  rw [Word.field_field _ (by decide)]
  exact h

theorem group_of_literal {w : Word} (h25 : w.field 25 1 = 0#1) (h27 : w.field 27 1 = 1#1) :
    Group.ofWord? w = some .loadStore := by
  have hall : ∀ b : BitVec 4, b.extractLsb' 0 1 = 0#1 → b.extractLsb' 2 1 = 1#1 →
      Group.ofBits? b = some .loadStore := by decide
  refine hall _ ?_ ?_ <;> rw [Word.field_field _ (by decide)]
  · exact h25
  · exact h27

theorem class_of_pcRelative {w : Word} (h : w.field 24 5 = 0b10000#5) :
    Group.ofWord? w = some .dataProcessingImmediate ∧
      DataImmediateClass.ofWord w = .pcRelative := by
  have hgroup : w.field 25 4 = 0b1000#4 := by
    rw [← w.field_field (show 1 + 4 ≤ 5 by decide), h]
    rfl
  have hclass : (w.field 23 3).extractLsb' 1 2 = 0b00#2 := by
    rw [w.field_field (by decide), ← w.field_field (show 0 + 2 ≤ 5 by decide), h]
    rfl
  have hall : ∀ b : BitVec 3, b.extractLsb' 1 2 = 0b00#2 → b = 0b000#3 ∨ b = 0b001#3 := by decide
  refine ⟨by rw [Group.ofWord?, hgroup]; rfl, ?_⟩
  rcases hall _ hclass with hzero | hone
  · rw [DataImmediateClass.ofWord, hzero]
    rfl
  · rw [DataImmediateClass.ofWord, hone]
    rfl

/-- A label at the distance that a field of the given scale carries. -/
def labelled (f : RelativeForm) (address : Address) (n : BitVec f.width) : Operand :=
  label (origin f.fromPage address) (n.toInt * f.scale)

/-- A word of a form has the form's group, and there it means the form's operation on its operands
and a label. -/
def MeansLabel (f : RelativeForm) : Prop :=
  ∀ (address : Address) (n : BitVec f.width), Group.ofWord? (f.word n) = some f.group ∧
    Decode.meaning f.group (f.word n) address =
      done f.operation (f.operands ++ [f.labelled address n])

theorem meansLabel_branch (link : Bool) : (branch link).MeansLabel := by
  intro address n
  obtain ⟨hfixed, h29, hlink, hn⟩ := fields_branchImmediate link n
  refine ⟨group_of_control hfixed, ?_⟩
  have hcls : ControlClass.ofWord (Encode.branchImmediate link n) = .ok .branchImmediate := by
    rw [ControlClass.ofWord, h29]
    cases link <;> rfl
  show Decode.branchExceptionSystem (Encode.branchImmediate link n) address = _
  simp only [Decode.branchExceptionSystem, hcls, ControlClass.meaning, Decode.branchImmediate,
    hlink, hn]
  rfl

theorem meansLabel_conditionalBranch (cond : BitVec 4) : (conditionalBranch cond).MeansLabel := by
  intro address n
  obtain ⟨hfixed, h29, h25, h24, h4, hcond, hn⟩ := fields_conditionalBranch n cond
  refine ⟨group_of_control hfixed, ?_⟩
  have hcls : ControlClass.ofWord (Encode.conditionalBranch n cond) = .ok .conditionalBranch := by
    rw [ControlClass.ofWord, h29, h25]
    rfl
  show Decode.branchExceptionSystem (Encode.conditionalBranch n cond) address = _
  simp only [Decode.branchExceptionSystem, hcls, ControlClass.meaning, Decode.conditionalBranch,
    h24, h4, hcond, hn]
  rfl

theorem meansLabel_compareBranch (sf nonzero : Bool) (rt : BitVec 5) :
    (compareBranch sf nonzero rt).MeansLabel := by
  intro address n
  obtain ⟨hfixed, h29, h25, hsf, hnonzero, hrt, hn⟩ := fields_compareBranch sf nonzero n rt
  refine ⟨group_of_control hfixed, ?_⟩
  have hcls : ControlClass.ofWord (Encode.compareBranch sf nonzero n rt) = .ok .compareBranch := by
    rw [ControlClass.ofWord, h29, h25]
    cases sf <;> rfl
  show Decode.branchExceptionSystem (Encode.compareBranch sf nonzero n rt) address = _
  simp only [Decode.branchExceptionSystem, hcls, ControlClass.meaning, Decode.compareBranch, hsf,
    hnonzero, hrt, hn]
  rfl

theorem meansLabel_testBranch (bit : BitVec 6) (nonzero : Bool) (rt : BitVec 5) :
    (testBranch bit nonzero rt).MeansLabel := by
  intro address n
  obtain ⟨hfixed, h29, h25, hsf, hnonzero, hrt, hbit, hn⟩ := fields_testBranch bit nonzero n rt
  refine ⟨group_of_control hfixed, ?_⟩
  have hcls : ControlClass.ofWord (Encode.testBranch bit nonzero n rt) = .ok .testBranch := by
    have hall : ∀ b : BitVec 1, b ++ 0b01#2 = 0b001#3 ∨ b ++ 0b01#2 = 0b101#3 := by decide
    rw [ControlClass.ofWord, h29, h25]
    rcases hall (bit.extractLsb' 5 1) with hlow | hhigh
    · rw [hlow]
      rfl
    · rw [hhigh]
      rfl
  show Decode.branchExceptionSystem (Encode.testBranch bit nonzero n rt) address = _
  simp only [Decode.branchExceptionSystem, hcls, ControlClass.meaning, Decode.testBranch, hsf,
    hnonzero, hrt, hbit, hn]
  rfl

theorem meansLabel_literal (opc : BitVec 2) (vector : Bool) (rt : BitVec 5)
    (allocated : vector = true → opc ≠ 3) : (literal opc vector rt allocated).MeansLabel := by
  intro address n
  obtain ⟨h25, h27, h28, h24, hopc, hvector, hrt, hn⟩ := fields_literal opc vector n rt
  refine ⟨group_of_literal h25 h27, ?_⟩
  have hcls : MemoryClass.ofWord (Encode.literal opc vector n rt) = .ok .literal := by
    rw [MemoryClass.ofWord, h28]
    simp only [h24, ↓reduceIte]
  show Decode.loadStore (Encode.literal opc vector n rt) address = _
  simp only [Decode.loadStore, hcls, MemoryClass.meaning, Decode.literal, hopc, hvector, hrt, hn]
  rcases twoBits_cases opc with rfl | rfl | rfl | rfl <;> cases vector
  case inr.inr.inr.true => exact absurd rfl (allocated rfl)
  all_goals rfl

theorem meansLabel_adr (rd : BitVec 5) : (adr rd).MeansLabel := by
  intro address n
  obtain ⟨hfixed, hpage, hrd, hn⟩ := fields_pcRelative false n rd
  obtain ⟨hgroup, hcls⟩ := class_of_pcRelative hfixed
  refine ⟨hgroup, ?_⟩
  show Decode.dataProcessingImmediate (Encode.pcRelative false n rd) address = _
  simp only [Decode.dataProcessingImmediate, hcls, DataImmediateClass.meaning, Decode.pcRelative,
    hpage, hrd, hn, labelled, scale, Int.mul_one]
  rfl

theorem meansLabel_adrp (rd : BitVec 5) : (adrp rd).MeansLabel := by
  intro address n
  obtain ⟨hfixed, hpage, hrd, hn⟩ := fields_pcRelative true n rd
  obtain ⟨hgroup, hcls⟩ := class_of_pcRelative hfixed
  refine ⟨hgroup, ?_⟩
  show Decode.dataProcessingImmediate (Encode.pcRelative true n rd) address = _
  simp only [Decode.dataProcessingImmediate, hcls, DataImmediateClass.meaning, Decode.pcRelative,
    hpage, hrd, hn]
  rfl

theorem meansLabel (f : RelativeForm) : f.MeansLabel := by
  cases f with
  | branch link => exact meansLabel_branch link
  | conditionalBranch cond => exact meansLabel_conditionalBranch cond
  | compareBranch sf nonzero rt => exact meansLabel_compareBranch sf nonzero rt
  | testBranch bit nonzero rt => exact meansLabel_testBranch bit nonzero rt
  | literal opc vector rt allocated => exact meansLabel_literal opc vector rt allocated
  | adr rd => exact meansLabel_adr rd
  | adrp rd => exact meansLabel_adrp rd

variable {f : RelativeForm} {distance : Int}

theorem reach_eq (f : RelativeForm) : f.reach = 2 ^ (f.width - 1) * f.unit := by
  cases f with
  | branch link => exact show 2 ^ 27 = 2 ^ 25 * 4 by decide
  | testBranch bit nonzero rt => exact show 2 ^ 15 = 2 ^ 13 * 4 by decide
  | conditionalBranch cond | compareBranch sf nonzero rt | literal opc vector rt allocated =>
    exact show 2 ^ 20 = 2 ^ 18 * 4 by decide
  | adr rd | adrp rd => exact show 2 ^ 20 = 2 ^ 20 * 1 by decide

theorem toInt_distance (hunit : (f.unit : Int) ∣ distance) (hlow : -(f.reach : Int) ≤ distance)
    (hhigh : distance < f.reach) :
    (BitVec.ofInt f.width (distance / f.unit)).toInt * f.unit = distance := by
  have hwidth : 0 < f.width := by cases f <;> simp [width]
  have hpos : (0 : Int) < f.unit := by cases f <;> simp [unit]
  obtain ⟨k, rfl⟩ := hunit
  have hreach : (f.reach : Int) = 2 ^ (f.width - 1) * f.unit := by
    rw [reach_eq, Int.natCast_mul, Int.natCast_pow]
    rfl
  rw [hreach] at hlow hhigh
  rw [Int.mul_ediv_cancel_left _ (Int.ne_of_gt hpos), BitVec.toInt_ofInt_eq_self hwidth,
    Int.mul_comm]
  · rw [← Int.neg_mul, Int.mul_comm f.unit] at hlow
    exact Int.le_of_mul_le_mul_right hlow hpos
  · rw [Int.mul_comm f.unit] at hhigh
    exact Int.lt_of_mul_lt_mul_right hhigh (Int.le_of_lt hpos)

theorem labelled_distance (hunit : (f.unit : Int) ∣ distance)
    (hlow : -(f.reach : Int) ≤ distance) (hhigh : distance < f.reach) (address : Address) :
    f.labelled address (BitVec.ofInt f.width (distance / f.unit)) =
      .label (f.target address distance) := by
  have hint := toInt_distance hunit hlow hhigh
  cases f with
  | adrp rd =>
    have hpages : (BitVec.ofInt 21 (distance / (1 : Nat))).toInt = distance :=
      (Int.mul_one _).symm.trans hint
    simp only [labelled, width, unit, hpages, scale, Int.mul_comm distance]
    rfl
  | adr rd | branch link | conditionalBranch cond | compareBranch sf nonzero rt
  | testBranch bit nonzero rt | literal opc vector rt allocated =>
    exact congrArg (label address) hint

theorem length_operands (f : RelativeForm) : f.operands.length ≤ 2 := by
  cases f with
  | literal opc vector rt allocated =>
    simp only [operands]
    repeat' split
    all_goals simp
  | _ => simp [operands]

/-- A word that carries a distance decodes to its operation, and its last operand is the label at
that distance, for all addresses, all distances in the range of its field and all other fields. -/
theorem decode_target (f : RelativeForm) (address : Address) (distance : Int)
    (hunit : (f.unit : Int) ∣ distance) (hlow : -(f.reach : Int) ≤ distance)
    (hhigh : distance < f.reach) :
    ∃ i, decode (f.wordAt distance) address = .ok i ∧ i.operation = f.operation ∧
      i.operands.toList = f.operands ++ [.label (f.target address distance)] := by
  obtain ⟨hgroup, hmeaning⟩ :=
    f.meansLabel address (BitVec.ofInt f.width (distance / f.unit))
  rw [labelled_distance hunit hlow hhigh] at hmeaning
  have hlength : (f.operands ++ [Operand.label (f.target address distance)]).length ≤ 5 := by
    have hle := f.length_operands
    simp only [List.length_append, List.length_singleton]
    omega
  refine ⟨⟨f.wordAt distance, address, f.group, f.operation, .ofList (f.operands ++ [_])⟩, ?_, rfl,
    (Operands.holds_ofList hlength).toList⟩
  simp only [decode, wordAt, hgroup, hmeaning, done]

/-- A branch as far back as its field reaches, from an address below the distance: the target
wraps around to the end of the address space. -/
theorem branchBack_target :
    ((branch true).unit : Int) ∣ -0x8000000 ∧ -((branch true).reach : Int) ≤ -0x8000000 ∧
      -0x8000000 < ((branch true).reach : Int) ∧
      (branch true).wordAt (-0x8000000) = 0x96000000 ∧
        ∃ i, decode 0x96000000 0x1000 = .ok i ∧ i.operation = .bl ∧
          i.operands.toList = [.label 0xfffffffff8001000] := by
  have hunit : ((branch true).unit : Int) ∣ -0x8000000 := by decide
  have hlow : -((branch true).reach : Int) ≤ -0x8000000 := by decide
  have hhigh : -0x8000000 < ((branch true).reach : Int) := by decide
  have hword : (branch true).wordAt (-0x8000000) = 0x96000000 := by decide
  obtain ⟨i, hi, hop, hos⟩ := decode_target (branch true) 0x1000 (-0x8000000) hunit hlow hhigh
  exact ⟨hunit, hlow, hhigh, hword, i, hword ▸ hi, hop, hos⟩

end RelativeForm

end A64
