import A64.Proofs.BitfieldMove

/-!
# Conditional selection

The fields of a conditional selection name two sources, a condition and what becomes of the second
source if the condition fails (`Word.selected?`). With equal sources the word is written as a change
of one register, or as a constant, under the opposite condition. `Decoded.selected?` says what the
written instruction computes from the operands that are left, and it is the same value for all
flags and registers (`Decode.decode_selects`).
-/

namespace A64

structure Flags where
  negative : Bool
  zero : Bool
  carry : Bool
  overflow : Bool

/-- Whether the flags pass the test that a four-bit field selects. The high bits select the test and
the low bit negates it, but the last two codes always pass. -/
def Flags.pass (f : Flags) (code : BitVec 4) : Bool :=
  let test :=
    match code.extractLsb' 1 3 with
    | 0b000 => f.zero
    | 0b001 => f.carry
    | 0b010 => f.negative
    | 0b011 => f.overflow
    | 0b100 => f.carry && !f.zero
    | 0b101 => f.negative == f.overflow
    | 0b110 => f.negative == f.overflow && !f.zero
    | _ => true
  if code.getLsbD 0 = true ∧ code ≠ 0b1111 then !test else test

namespace Condition

/-- Whether a condition holds: what its name says of the comparison that set the flags. -/
def holds (f : Flags) : Condition → Bool
  | eq => f.zero
  | ne => !f.zero
  | cs => f.carry
  | cc => !f.carry
  | mi => f.negative
  | pl => !f.negative
  | vs => f.overflow
  | vc => !f.overflow
  | hi => f.carry && !f.zero
  | ls => !f.carry || f.zero
  | ge => f.negative == f.overflow
  | lt => f.negative != f.overflow
  | gt => !f.zero && f.negative == f.overflow
  | le => f.zero || f.negative != f.overflow
  | al | nv => true

theorem holds_ofBits (f : Flags) (code : BitVec 4) : (ofBits code).holds f = f.pass code := by
  obtain ⟨negative, zero, carry, overflow⟩ := f
  revert code
  cases negative <;> cases zero <;> cases carry <;> cases overflow <;> decide

/-- The inverse of a condition is its negation, unless it always holds. -/
theorem holds_invert {c : Condition} (h : c.isAlways = false) (f : Flags) :
    c.invert.holds f = !c.holds f := by
  obtain ⟨negative, zero, carry, overflow⟩ := f
  cases c
  case al | nv => cases h
  all_goals cases negative <;> cases zero <;> cases carry <;> cases overflow <;> rfl

theorem isAlways_ofBits (code : BitVec 4) :
    (ofBits code).isAlways = true ↔ code.extractLsb' 1 3 = 0b111 := by
  revert code
  decide

end Condition

/-- What is selected if the condition fails, by the bits of the opcode: the second source as it is,
incremented, inverted or negated. -/
def alternative? {width : Nat} (op : Bool) (op2 : BitVec 2) (x : BitVec width) :
    Option (BitVec width) :=
  match op, op2 with
  | false, 0b00 => some x
  | false, 0b01 => some (x + 1)
  | true, 0b00 => some (~~~x)
  | true, 0b01 => some (-x)
  | _, _ => none

/-- What the fields of a conditional selection select. -/
def Word.selected? (word : Word) (contents : Nat → BitVec 64) (f : Flags) :
    Option (BitVec (Assemble.size word.sf)) := do
  let other ← alternative? (word.bit 30) (word.field 10 2)
    (Register.fieldValue contents (Assemble.size word.sf) word.rm)
  return if f.pass (word.field 12 4) then
    Register.fieldValue contents (Assemble.size word.sf) word.rn else other

namespace Operation

variable {width : Nat}

/-- The first source if the condition holds, otherwise the second one, which may be changed. -/
def selection? (holds : Bool) (x y : BitVec width) : Operation → Option (BitVec width)
  | csel => some (if holds then x else y)
  | csinc => some (if holds then x else y + 1)
  | csinv => some (if holds then x else ~~~y)
  | csneg => some (if holds then x else -y)
  | _ => none

/-- A register that is changed if the condition holds. -/
def changed? (holds : Bool) (x : BitVec width) : Operation → Option (BitVec width)
  | cinc => some (if holds then x + 1 else x)
  | cinv => some (if holds then ~~~x else x)
  | cneg => some (if holds then -x else x)
  | _ => none

/-- One, or all ones, if the condition holds, otherwise zero. -/
def constant? (holds : Bool) : Operation → Option (BitVec width)
  | cset => some (if holds then 1 else 0)
  | csetm => some (if holds then BitVec.allOnes width else 0)
  | _ => none

/-- The names of selections from equal sources. -/
def selectionAliases : List Operation := [cset, csetm, cinc, cinv, cneg]

end Operation

/-- What a conditional selection leaves in a register of the given width. -/
def Decoded.selected? (contents : Nat → BitVec 64) (f : Flags) (width : Nat) (d : Decoded) :
    Option (BitVec width) :=
  match d.operands with
  | [_, n, m, .condition c] => do
    d.operation.selection? (c.holds f) (← n.read? contents width) (← m.read? contents width)
  | [_, n, .condition c] => do d.operation.changed? (c.holds f) (← n.read? contents width)
  | [_, .condition c] => d.operation.constant? (c.holds f)
  | _ => none

/-- The instruction, as it is written, selects what the fields of the word say. -/
structure Decoded.Selects (d : Decoded) (word : Word) : Prop where
  destination : d.operands.head? = some (Decode.gpr word.sf word.rd)
  /-- Whatever the registers and the flags are, both give the same value. -/
  value (contents : Nat → BitVec 64) (f : Flags) :
    ∃ value, word.selected? contents f = some value ∧
      d.selected? contents f (Assemble.size word.sf) = some value
  /-- It has another name exactly if the sources are equal, the second one is changed, and the
  condition can fail. -/
  renamed : d.operation ∈ Operation.selectionAliases ↔
    word.field 13 3 ≠ 0b111 ∧ (word.bit 30 = true ∨ word.field 10 2 ≠ 0) ∧ word.rn = word.rm

/-! ### The three ways to write a selection -/

/-- The opcode of the word makes `g x` of a second source `x`. -/
def Word.Makes (word : Word)
    (g : BitVec (Assemble.size word.sf) → BitVec (Assemble.size word.sf)) : Prop :=
  ∀ x, alternative? (word.bit 30) (word.field 10 2) x = some (g x)

namespace Decode

variable {word : Word} {d : Decoded} {op : Operation}
  {g : BitVec (Assemble.size word.sf) → BitVec (Assemble.size word.sf)}

def wordCondition (word : Word) : Condition := .ofBits (word.field 12 4)

theorem isAlways_wordCondition (word : Word) :
    (wordCondition word).isAlways = true ↔ word.field 13 3 = 0b111 := by
  rw [wordCondition, Condition.isAlways_ofBits, word.field_field (by decide)]

theorem selected?_of_makes (hg : word.Makes g) (contents : Nat → BitVec 64) (f : Flags) :
    word.selected? contents f =
      some (if (wordCondition word).holds f then Register.fieldValue contents _ word.rn
        else g (Register.fieldValue contents _ word.rm)) := by
  rw [Word.selected?, hg, wordCondition, Condition.holds_ofBits]
  rfl

theorem selects_whole (hg : word.Makes g)
    (hop : ∀ holds x y, op.selection? holds x y = some (if holds then x else g y))
    (hname : op ∉ Operation.selectionAliases)
    (hkept : (wordCondition word).isAlways = true ∨
      (word.bit 30 = false ∧ word.field 10 2 = 0) ∨ word.rn ≠ word.rm) :
    Decoded.Selects ⟨op, [gpr word.sf word.rd, gpr word.sf word.rn, gpr word.sf word.rm,
      .condition (wordCondition word)]⟩ word where
  destination := rfl
  value contents f := by
    refine ⟨_, selected?_of_makes hg contents f, ?_⟩
    simp [Decoded.selected?, hop]
  renamed := by
    refine iff_of_false hname ?_
    rintro ⟨hcond, hchange, hequal⟩
    rcases hkept with halways | ⟨h30, hop2⟩ | hne
    · exact hcond ((isAlways_wordCondition word).1 halways)
    · simp [h30, hop2] at hchange
    · exact hne hequal

/-- With equal sources, the one that is not selected if the condition holds is what is made of it if
the opposite condition fails. -/
theorem selects_changed (hg : word.Makes g)
    (hop : ∀ holds x, op.changed? holds x = some (if holds then g x else x))
    (hname : op ∈ Operation.selectionAliases) (hcond : (wordCondition word).isAlways = false)
    (hchange : word.bit 30 = true ∨ word.field 10 2 ≠ 0) (hequal : word.rn = word.rm) :
    Decoded.Selects ⟨op, [gpr word.sf word.rd, gpr word.sf word.rn,
      .condition (wordCondition word).invert]⟩ word where
  destination := rfl
  value contents f := by
    refine ⟨_, selected?_of_makes hg contents f, ?_⟩
    rw [← hequal]
    simp only [Decoded.selected?, Operand.read?_gpr, Condition.holds_invert hcond, hop,
      Option.bind_eq_bind, Option.bind_some]
    cases (wordCondition word).holds f <;> rfl
  renamed := by
    refine iff_of_true hname ⟨fun halways => ?_, hchange, hequal⟩
    rw [(isAlways_wordCondition word).2 halways] at hcond
    cases hcond

theorem selects_constant (hg : word.Makes g)
    (hop : ∀ holds, op.constant? holds = some (if holds then g 0 else 0))
    (hname : op ∈ Operation.selectionAliases) (hcond : (wordCondition word).isAlways = false)
    (hchange : word.bit 30 = true ∨ word.field 10 2 ≠ 0) (hzeros : word.rn = 31 ∧ word.rm = 31) :
    Decoded.Selects ⟨op, [gpr word.sf word.rd, .condition (wordCondition word).invert]⟩ word where
  destination := rfl
  value contents f := by
    have hzero : Register.fieldValue contents (Assemble.size word.sf) 31 = 0 := rfl
    refine ⟨_, selected?_of_makes hg contents f, ?_⟩
    rw [hzeros.1, hzeros.2, hzero]
    simp only [Decoded.selected?, Condition.holds_invert hcond, hop]
    cases (wordCondition word).holds f <;> rfl
  renamed := by
    refine iff_of_true hname ⟨fun halways => ?_, hchange, hzeros.1.trans hzeros.2.symm⟩
    rw [(isAlways_wordCondition word).2 halways] at hcond
    cases hcond

theorem selects_unlessAlways {rest : Decoding} (hg : word.Makes g)
    (hop : ∀ holds x y, op.selection? holds x y = some (if holds then x else g y))
    (hname : op ∉ Operation.selectionAliases)
    (hrest : (wordCondition word).isAlways = false → rest = .ok d → d.Selects word)
    (h : (if (wordCondition word).isAlways = true then
        done op [gpr word.sf word.rd, gpr word.sf word.rn, gpr word.sf word.rm,
          .condition (wordCondition word)]
      else rest) = .ok d) : d.Selects word := by
  split at h
  · rename_i halways
    cases h
    exact selects_whole hg hop hname (.inl halways)
  · rename_i hcan
    exact hrest (Bool.eq_false_iff.2 hcan) h

theorem selects_unlessZeros {rest : Decoding} (hg : word.Makes g)
    (hop : ∀ holds, op.constant? holds = some (if holds then g 0 else 0))
    (hname : op ∈ Operation.selectionAliases) (hcond : (wordCondition word).isAlways = false)
    (hchange : word.bit 30 = true ∨ word.field 10 2 ≠ 0)
    (hrest : rest = .ok d → d.Selects word)
    (h : (if word.rn = 31 ∧ word.rm = 31 then
        done op [gpr word.sf word.rd, .condition (wordCondition word).invert]
      else rest) = .ok d) : d.Selects word := by
  split at h
  · rename_i hzeros
    cases h
    exact selects_constant hg hop hname hcond hchange hzeros
  · exact hrest h

theorem selects_sources {select change : Operation} (hg : word.Makes g)
    (hselect : ∀ holds x y, select.selection? holds x y = some (if holds then x else g y))
    (hchange : ∀ holds x, change.changed? holds x = some (if holds then g x else x))
    (hnames : select ∉ Operation.selectionAliases ∧ change ∈ Operation.selectionAliases)
    (hcond : (wordCondition word).isAlways = false)
    (hop : word.bit 30 = true ∨ word.field 10 2 ≠ 0)
    (h : (if word.rn = word.rm then
        done change [gpr word.sf word.rd, gpr word.sf word.rn,
          .condition (wordCondition word).invert]
      else
        done select [gpr word.sf word.rd, gpr word.sf word.rn, gpr word.sf word.rm,
          .condition (wordCondition word)]) = .ok d) : d.Selects word := by
  split at h
  · rename_i hequal
    cases h
    exact selects_changed hg hchange hnames.2 hcond hop hequal
  · rename_i hne
    cases h
    exact selects_whole hg hselect hnames.1 (.inr (.inr hne))

theorem field_op2 (h : word.bit 11 = false) :
    word.field 10 2 = if word.bit 10 then 0b01 else 0b00 := by
  have happend : word.field 11 1 ++ word.field 10 1 = word.field 10 2 := word.field_append rfl
  rw [← happend, ← word.ofBool_bit, ← word.ofBool_bit, h]
  cases word.bit 10 <;> decide

theorem selects_conditionalSelect (h : conditionalSelect word = .ok d) : d.Selects word := by
  have hcond : Condition.ofBits (word.field 12 4) = wordCondition word := rfl
  simp only [conditionalSelect, decide_eq_true_eq, hcond] at h
  split at h
  · cases h
  split at h
  · cases h
  rename_i h11
  have hop2 := field_op2 (Bool.eq_false_iff.2 h11)
  split at h <;> rename_i h30 h10 <;> rw [h10] at hop2
  · have hg : word.Makes fun y => y := by intro y; rw [h30, hop2]; rfl
    cases h
    exact selects_whole hg (fun _ _ _ => rfl) (by decide) (.inr (.inl ⟨h30, hop2⟩))
  · have hg : word.Makes fun y => y + 1 := by intro y; rw [h30, hop2]; rfl
    have hop : word.bit 30 = true ∨ word.field 10 2 ≠ 0 := .inr (by rw [hop2]; decide)
    refine selects_unlessAlways hg (fun _ _ _ => rfl) (by decide) (fun hcan => ?_) h
    refine selects_unlessZeros hg (by simp [Operation.constant?]) (by decide) hcan hop ?_
    exact selects_sources hg (fun _ _ _ => rfl) (fun _ _ => rfl) (by decide) hcan hop
  · have hg : word.Makes fun y => ~~~y := by intro y; rw [h30, hop2]; rfl
    refine selects_unlessAlways hg (fun _ _ _ => rfl) (by decide) (fun hcan => ?_) h
    refine selects_unlessZeros hg (by simp [Operation.constant?]) (by decide) hcan (.inl h30) ?_
    exact selects_sources hg (fun _ _ _ => rfl) (fun _ _ => rfl) (by decide) hcan (.inl h30)
  · have hg : word.Makes fun y => -y := by intro y; rw [h30, hop2]; rfl
    refine selects_unlessAlways hg (fun _ _ _ => rfl) (by decide) (fun hcan => ?_) h
    exact selects_sources hg (fun _ _ _ => rfl) (fun _ _ => rfl) (by decide) hcan (.inl h30)

/-- A word of the class of conditional selections that decodes is written as an instruction that
selects what its fields say. -/
theorem decode_selects {address : Address} {i : Instruction}
    (hgroup : Group.ofWord? word = some .dataProcessingRegister)
    (hclass : DataRegisterClass.ofWord word = .ok .conditionalSelect)
    (h : decode word address = .ok i) : i.decoded.Selects word := by
  have hmeaning := (meaning_of_decode hgroup (by decide) h).2
  simp only [meaning, dataProcessingRegister, hclass] at hmeaning
  exact selects_conditionalSelect hmeaning

/-- A selection from equal sources under `lt` is written as an increment under `ge`. -/
theorem increment_selects :
    Group.ofWord? 0x9a81b420 = some .dataProcessingRegister ∧
      DataRegisterClass.ofWord 0x9a81b420 = .ok .conditionalSelect ∧
      ∃ i, decode 0x9a81b420 0 = .ok i ∧
        i.decoded = ⟨.cinc, [gpr true 0, gpr true 1, .condition .ge]⟩ ∧
        i.decoded.Selects 0x9a81b420 := by
  have hgroup : Group.ofWord? 0x9a81b420 = some .dataProcessingRegister := by decide
  have hclass : DataRegisterClass.ofWord 0x9a81b420 = .ok .conditionalSelect := by rfl
  have hdecode : decode 0x9a81b420 0 = .ok ⟨0x9a81b420, 0, .dataProcessingRegister, .cinc,
      .ofList [gpr true 0, gpr true 1, .condition .ge]⟩ := by rfl
  exact ⟨hgroup, hclass, _, hdecode, rfl, decode_selects hgroup hclass hdecode⟩

end Decode

end A64
