import A64.Proofs.Encodings.Immediate
import A64.Proofs.VectorWord

/-!
# Shifts by an immediate and repeated immediates tell their words up to one bit

No decoder of these classes reads bit 23: a word and the word with that bit cleared are of the same
class and mean the same. All other bits are fixed by the class or shown by the operands, so two such
words mean the same exactly if they agree outside bit 23.
-/

namespace A64

open Encoding

namespace Word

def clear (w : Word) (i : Nat) : Word := w &&& ~~~BitVec.twoPow 32 i

variable {w w' : Word} {i j start width : Nat}

theorem bit_clear_self : (w.clear i).bit i = false := by
  by_cases hi : i < 32
  · simp [clear, bit, hi]
  · exact BitVec.getLsbD_of_ge _ _ (Nat.le_of_not_lt hi)

theorem bit_clear (h : j ≠ i) : (w.clear i).bit j = w.bit j := by
  by_cases hj : j < 32
  · simp [clear, bit, hj, h]
  · simp [bit, BitVec.getLsbD_of_ge _ _ (Nat.le_of_not_lt hj)]

theorem field_clear (h : i < start ∨ start + width ≤ i) :
    (w.clear i).field start width = w.field start width := by
  refine BitVec.eq_of_getLsbD_eq fun k hk => ?_
  rw [Field.getLsbD_field hk, Field.getLsbD_field hk]
  exact bit_clear (by omega)

theorem clear_eq_iff : w.clear i = w'.clear i ↔ ∀ j, j ≠ i → w.bit j = w'.bit j := by
  constructor
  · intro h j hj
    rw [← bit_clear hj, h, bit_clear hj]
  · intro h
    refine BitVec.eq_of_getLsbD_eq fun j _ => ?_
    by_cases hj : j = i
    · subst hj
      exact bit_clear_self.trans bit_clear_self.symm
    · exact (bit_clear hj).trans ((h j hj).trans (bit_clear hj).symm)

end Word

namespace Decode

variable {w : Word} {cls : VectorClass} {d : Decoded}

/-- The word is of the class, which takes an immediate. -/
structure VectorClass.Immediate (cls : VectorClass) (w : Word) : Prop extends cls.Matches w where
  takes : cls.TakesImmediate

theorem ImmediateWord.exists_class (hw : ImmediateWord w) :
    ∃ cls : VectorClass, cls.Immediate w := by
  obtain ⟨hgroup, cls, hcls, himm⟩ := hw
  exact ⟨cls, VectorClass.matches_of_ofWord hgroup hcls, himm⟩

theorem modifiedImmediate_clear : modifiedImmediate (w.clear 23) = modifiedImmediate w := by
  simp (disch := decide) only [modifiedImmediate, Word.q, Word.rd, Word.bit_clear,
    Word.field_clear]
  rfl

theorem shiftImmediate_clear (e : ElementSize) :
    shiftImmediate (w.clear 23) e = shiftImmediate w e := by
  simp (disch := decide) only [shiftImmediate, rightAmount, leftAmount, shiftField, vectors2,
    Word.q, Word.u, Word.rd, Word.rn, Word.bit_clear, Word.field_clear]
  rfl

theorem scalarShiftImmediate_clear (e : ElementSize) :
    scalarShiftImmediate (w.clear 23) e = scalarShiftImmediate w e := by
  simp (disch := decide) only [scalarShiftImmediate, rightAmount, leftAmount, shiftField, scalars2,
    Word.u, Word.rd, Word.rn, Word.bit_clear, Word.field_clear]

namespace VectorClass

theorem meaning_clear (himm : cls.TakesImmediate) :
    cls.meaning (w.clear 23) = cls.meaning w := by
  cases cls with
  | modifiedImmediate => exact modifiedImmediate_clear
  | shiftImmediate e => exact shiftImmediate_clear e
  | scalarShiftImmediate e => exact scalarShiftImmediate_clear e
  | _ => exact absurd himm id

namespace Immediate

theorem bits (hw : cls.Immediate w) : w.bit 24 = true ∧ w.bit 10 = true := by
  obtain ⟨⟨-, hw⟩, himm⟩ := hw
  cases cls with
  | modifiedImmediate | shiftImmediate e | scalarShiftImmediate e =>
    simp only [fixed, hasFields_append, hasFields_cons] at hw
    exact ⟨Word.field_eq_one_iff.1 hw.2.1, Word.field_eq_one_iff.1 hw.2.2.1⟩
  | _ => exact absurd himm id

theorem ofWord_clear (hw : cls.Immediate w) : VectorClass.ofWord (w.clear 23) = .ok cls := by
  rw [← hw.ofWord]
  simp (disch := decide) only [VectorClass.ofWord, ofVectorWord, ofScalarWord, Word.bit_clear,
    Word.field_clear, hw.bits.1, if_true]

theorem fields_clear (hw : cls.Immediate w) : HasFields cls.fixed (w.clear 23) := by
  obtain ⟨⟨-, hw⟩, himm⟩ := hw
  intro p hp
  have hbit : 23 < p.1.start ∨ p.1.start + p.1.width ≤ 23 := by
    cases cls with
    | modifiedImmediate =>
      revert p
      decide
    | shiftImmediate e | scalarShiftImmediate e =>
      revert p
      cases e <;> decide
    | _ => exact absurd himm id
  rw [Word.field_clear hbit]
  exact hw p hp

end Immediate

def element? : VectorClass → Option ElementSize
  | shiftImmediate e | scalarShiftImmediate e => some e
  | _ => none

theorem Immediate.shiftElement?_eq (hw : cls.Immediate w) :
    shiftElement? (w.field 19 4) = cls.element? := by
  obtain ⟨h24, h10⟩ := hw.bits
  obtain ⟨⟨h, -⟩, himm⟩ := hw
  simp only [VectorClass.ofWord, ofVectorWord, ofScalarWord, h24, h10, if_true,
    Bool.true_eq_false, if_false] at h
  split at h
  · cases h
    exact absurd himm id
  · split at h <;> cases h
    assumption
  · split at h <;> cases h <;> assumption
  · split at h <;> cases h
    exact absurd himm id
  · cases h

end VectorClass

theorem dataProcessingVector_clear (hw : ImmediateWord w) :
    dataProcessingVector (w.clear 23) = dataProcessingVector w := by
  obtain ⟨cls, hcls⟩ := hw.exists_class
  simp only [dataProcessingVector, hcls.ofWord_clear, hcls.ofWord]
  exact VectorClass.meaning_clear hcls.takes

def immediateEncodings : List Encoding :=
  [constantEncodings, shiftEncodings, scalarShiftEncodings].flatten

theorem faithful_immediateEncodings : Faithful immediateEncodings :=
  faithful_of_check (by decide +kernel)

/-- The encodings describe a word of these classes with bit 23 cleared. -/
theorem described_clear (hw : ImmediateWord w) (h : dataProcessingVector w = .ok d) :
    Described immediateEncodings (w.clear 23) d := by
  obtain ⟨cls, hcls⟩ := hw.exists_class
  simp only [dataProcessingVector, hcls.ofWord] at h
  rw [← VectorClass.meaning_clear hcls.takes] at h
  have helement := hcls.shiftElement?_eq
  rw [← Word.field_clear (i := 23) (by decide)] at helement
  have hfields := hcls.fields_clear
  have himm := hcls.takes
  cases cls with
  | modifiedImmediate =>
    exact .of_part (by simp) (described_modifiedImmediate hfields Word.bit_clear_self helement h)
  | shiftImmediate e =>
    exact .of_part (by simp) (described_shiftImmediate hfields Word.bit_clear_self helement h)
  | scalarShiftImmediate e =>
    exact .of_part (by simp)
      (described_scalarShiftImmediate hfields Word.bit_clear_self helement h)
  | _ => exact absurd himm id

end Decode

/-- Two words with a shift amount or a repeated immediate mean the same exactly if they agree
outside bit 23, which nothing checks. -/
theorem immediateWord_operands_eq_iff {word word' : Word} {address address' : Address}
    {i i' : Instruction} (hw : Decode.ImmediateWord word) (hw' : Decode.ImmediateWord word')
    (h : decode word address = .ok i) (h' : decode word' address' = .ok i') :
    (i.operation = i'.operation ∧ i.operands = i'.operands) ↔
      ∀ k, k ≠ 23 → word.bit k = word'.bit k := by
  obtain ⟨hhold, hmeaning⟩ := meaning_of_decode hw.1 (by decide) h
  obtain ⟨hhold', hmeaning'⟩ := meaning_of_decode hw'.1 (by decide) h'
  rw [← Word.clear_eq_iff]
  constructor
  · rintro ⟨hop, hos⟩
    exact Decode.faithful_immediateEncodings.word_eq (Decode.described_clear hw hmeaning)
      (Decode.described_clear hw' hmeaning') hop (by rw [hos])
  · intro hclear
    have hsame : Decode.dataProcessingVector word = Decode.dataProcessingVector word' := by
      rw [← Decode.dataProcessingVector_clear hw, hclear, Decode.dataProcessingVector_clear hw']
    have hok := hmeaning.symm.trans (hsame.trans hmeaning')
    injection hok with hd
    injection hd with hop hos
    rw [← hos] at hhold'
    exact ⟨hop, hhold.unique hhold'⟩

theorem Decode.ImmediateWord.of_class {word : Word} (cls : VectorClass)
    (hgroup : Group.ofWord? word = some .dataProcessingVector)
    (hcls : VectorClass.ofWord word = .ok cls) (himm : cls.TakesImmediate) : ImmediateWord word :=
  ⟨hgroup, cls, hcls, himm⟩

/-- A shift to the right and the word that differs in bit 23. -/
theorem shiftRight_operands_eq_iff :
    Decode.ImmediateWord 0x4f3d0420 ∧ Decode.ImmediateWord 0x4fbd0420 ∧
      ∃ i i' : Instruction, decode 0x4f3d0420 0 = .ok i ∧ decode 0x4fbd0420 4 = .ok i' ∧
        ((i.operation = i'.operation ∧ i.operands = i'.operands) ↔
          ∀ k, k ≠ 23 → (0x4f3d0420 : Word).bit k = (0x4fbd0420 : Word).bit k) := by
  have hw : Decode.ImmediateWord 0x4f3d0420 :=
    .of_class (.shiftImmediate .s) (by decide) (by decide) trivial
  have hw' : Decode.ImmediateWord 0x4fbd0420 :=
    .of_class (.shiftImmediate .s) (by decide) (by decide) trivial
  have h : decode 0x4f3d0420 0 = .ok ⟨0x4f3d0420, 0, .dataProcessingVector, .sshr,
      .ofList [Decode.vector 0 .s true, Decode.vector 1 .s true, Decode.immNat 3]⟩ := by
    decide +kernel
  have h' : decode 0x4fbd0420 4 = .ok ⟨0x4fbd0420, 4, .dataProcessingVector, .sshr,
      .ofList [Decode.vector 0 .s true, Decode.vector 1 .s true, Decode.immNat 3]⟩ := by
    decide +kernel
  exact ⟨hw, hw', _, _, h, h', immediateWord_operands_eq_iff hw hw' h h'⟩

/-- Two words for one move of zeros: bit 23 of the second is set. -/
theorem immediateWord_not_injective :
    Decode.ImmediateWord 0x0f000400 ∧ Decode.ImmediateWord 0x0f800400 ∧
      ∃ i i' : Instruction, decode 0x0f000400 0 = .ok i ∧ decode 0x0f800400 0 = .ok i' ∧
        i.operation = i'.operation ∧ i.operands = i'.operands ∧
          (0x0f000400 : Word) ≠ 0x0f800400 := by
  have hclass : Decode.ImmediateWord 0x0f000400 :=
    .of_class .modifiedImmediate (by decide) (by decide) trivial
  have hclass' : Decode.ImmediateWord 0x0f800400 :=
    .of_class .modifiedImmediate (by decide) (by decide) trivial
  have h : decode 0x0f000400 0 = .ok ⟨0x0f000400, 0, .dataProcessingVector, .movi,
      .ofList [Decode.vector 0 .s false, Decode.imm 0#8]⟩ := by decide +kernel
  have h' : decode 0x0f800400 0 = .ok ⟨0x0f800400, 0, .dataProcessingVector, .movi,
      .ofList [Decode.vector 0 .s false, Decode.imm 0#8]⟩ := by decide +kernel
  exact ⟨hclass, hclass', _, _, h, h', rfl, rfl, by decide⟩

end A64
