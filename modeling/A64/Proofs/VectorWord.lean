import A64.Proofs.DecodeContract
import A64.Proofs.Encodings.ByElement
import A64.Proofs.Encodings.Crypto
import A64.Proofs.Encodings.Float
import A64.Proofs.Encodings.Misc
import A64.Proofs.Encodings.Same

/-!
# A vector instruction tells its word

The encodings of vector, scalar floating-point and cryptographic instructions are faithful: each bit
of a word that decodes is fixed by its class or shown by its operands, and no operation has the same
kinds of operands in two encodings. Left out are the classes with a shifted or repeated immediate
and the few instructions that do not show all their bits (`Decode.LeavesBitsOut`).
-/

namespace A64

open Encoding

namespace Decode

namespace VectorClass

def TakesImmediate : VectorClass → Prop
  | modifiedImmediate | shiftImmediate _ | scalarShiftImmediate _ => True
  | _ => False

/-- The classes that take neither. -/
def plainClasses : List VectorClass :=
  [floatingPoint, cryptography, aes, shaTwo, shaThree, copy, tableLookup, permute, extractVector,
    threeSame, halfSame, threeSameExtra, threeDifferent, twoMisc, twoMiscHalf, acrossLanes,
    byElement, scalarCopy, scalarThreeSame, scalarHalfSame, scalarThreeSameExtra,
    scalarThreeDifferent, scalarTwoMisc, scalarTwoMiscHalf, scalarPairwise, scalarByElement]

theorem mem_plainClasses {cls : VectorClass} (h : ¬ cls.TakesImmediate) : cls ∈ plainClasses := by
  cases cls with
  | modifiedImmediate | shiftImmediate | scalarShiftImmediate => exact absurd trivial h
  | _ => decide

def encodings : VectorClass → List Encoding
  | floatingPoint => floatingPointEncodings
  | cryptography => cryptographyEncodings
  | aes => aesEncodings
  | shaTwo => shaTwoEncodings
  | shaThree => shaThreeEncodings
  | copy => copyEncodings
  | tableLookup => tableLookupEncodings
  | permute => permuteEncodings
  | extractVector => extractEncodings
  | threeSame => threeSameEncodings
  | halfSame => halfSameEncodings
  | threeSameExtra => threeSameExtraEncodings
  | threeDifferent => threeDifferentEncodings
  | twoMisc => twoMiscEncodings
  | twoMiscHalf => twoMiscHalfEncodings
  | acrossLanes => acrossLanesEncodings
  | byElement => byElementEncodings
  | scalarCopy => scalarCopyEncodings
  | scalarThreeSame => scalarThreeSameEncodings
  | scalarHalfSame => scalarHalfSameEncodings
  | scalarThreeSameExtra => scalarThreeSameExtraEncodings
  | scalarThreeDifferent => scalarThreeDifferentEncodings
  | scalarTwoMisc => scalarTwoMiscEncodings
  | scalarTwoMiscHalf => scalarTwoMiscHalfEncodings
  | scalarPairwise => scalarPairwiseEncodings
  | scalarByElement => scalarByElementEncodings
  | modifiedImmediate | shiftImmediate _ | scalarShiftImmediate _ => []

variable {w : Word} {d : Decoded} {cls : VectorClass}

structure Matches (cls : VectorClass) (w : Word) : Prop where
  ofWord : VectorClass.ofWord w = .ok cls
  fields : HasFields cls.fixed w

theorem matches_of_ofWord (hgroup : Group.ofWord? w = some .dataProcessingVector)
    (hcls : ofWord w = .ok cls) : cls.Matches w :=
  ⟨hcls, hasFields hgroup hcls⟩

theorem described (hw : cls.Matches w) (himm : ¬ cls.TakesImmediate)
    (h : cls.meaning w = .ok d) (hd : ¬ LeavesBitsOut d) : Described cls.encodings w d := by
  obtain ⟨-, hw⟩ := hw
  cases cls with
  | floatingPoint => exact described_floatingPoint hw h hd
  | cryptography => exact described_cryptography hw h
  | aes => exact described_aes hw h
  | shaTwo => exact described_shaTwo hw h
  | shaThree => exact described_shaThree hw h
  | copy => exact described_copy hw h hd
  | tableLookup => exact described_tableLookup hw h
  | permute => exact described_permute hw h
  | extractVector => exact described_extractVector hw h
  | threeSame => exact described_threeSame hw h
  | halfSame => exact described_halfSame hw h
  | threeSameExtra => exact described_threeSameExtra hw h
  | threeDifferent => exact described_threeDifferent hw h
  | twoMisc => exact described_twoMisc hw h
  | twoMiscHalf => exact described_twoMiscHalf hw h
  | acrossLanes => exact described_acrossLanes hw h
  | byElement => exact described_byElement hw h
  | scalarCopy => exact described_scalarCopy hw h
  | scalarThreeSame => exact described_scalarThreeSame hw h
  | scalarHalfSame => exact described_scalarHalfSame hw h
  | scalarThreeSameExtra => exact described_scalarThreeSameExtra hw h
  | scalarThreeDifferent => exact described_scalarThreeDifferent hw h
  | scalarTwoMisc => exact described_scalarTwoMisc hw h
  | scalarTwoMiscHalf => exact described_scalarTwoMiscHalf hw h
  | scalarPairwise => exact described_scalarPairwise hw h
  | scalarByElement => exact described_scalarByElement hw h
  | modifiedImmediate | shiftImmediate | scalarShiftImmediate => exact absurd trivial himm

end VectorClass

def vectorEncodings : List Encoding := VectorClass.plainClasses.flatMap VectorClass.encodings

theorem faithful_vectorEncodings : Faithful vectorEncodings := by
  refine faithful_of_check ?_
  rw [check, distinct_eq]
  decide +kernel

/-- The word is a vector word of a class that takes a shift amount or a repeated immediate. -/
def ImmediateWord (word : Word) : Prop :=
  Group.ofWord? word = some .dataProcessingVector ∧
    ∃ cls, VectorClass.ofWord word = .ok cls ∧ cls.TakesImmediate

theorem described_dataProcessingVector {w : Word} {d : Decoded}
    (hgroup : Group.ofWord? w = some .dataProcessingVector) (himm : ¬ ImmediateWord w)
    (h : dataProcessingVector w = .ok d) (hd : ¬ LeavesBitsOut d) :
    Described vectorEncodings w d := by
  unfold dataProcessingVector at h
  split at h
  · rename_i cls hcls
    have hplain : ¬ cls.TakesImmediate := fun hcls' => himm ⟨hgroup, cls, hcls, hcls'⟩
    exact .flatMap (VectorClass.mem_plainClasses hplain)
      (VectorClass.described (VectorClass.matches_of_ofWord hgroup hcls) hplain h hd)
  · cases h

end Decode

/-- A vector instruction tells its word. -/
theorem vectorWord_eq_of_operands_eq {word word' : Word} {address address' : Address}
    {i i' : Instruction} (hgroup : Group.ofWord? word = some .dataProcessingVector)
    (hgroup' : Group.ofWord? word' = some .dataProcessingVector)
    (h : decode word address = .ok i) (h' : decode word' address' = .ok i')
    (himm : ¬ Decode.ImmediateWord word) (himm' : ¬ Decode.ImmediateWord word')
    (hout : ¬ Decode.LeavesBitsOut ⟨i.operation, i.operands.toList⟩)
    (hout' : ¬ Decode.LeavesBitsOut ⟨i'.operation, i'.operands.toList⟩)
    (hop : i.operation = i'.operation) (hos : i.operands = i'.operands) : word = word' := by
  have hd := Decode.described_dataProcessingVector hgroup himm
    (meaning_of_decode hgroup (by decide) h).2 hout
  have hd' := Decode.described_dataProcessingVector hgroup' himm'
    (meaning_of_decode hgroup' (by decide) h').2 hout'
  exact Decode.faithful_vectorEncodings.word_eq hd hd' hop (by rw [hos])

/-- The move of a vector is one word, although two of its fields name the source. -/
theorem moveVector_eq_of_operands_eq :
    Group.ofWord? 0x4ea11c20 = some .dataProcessingVector ∧ ¬ Decode.ImmediateWord 0x4ea11c20 ∧
      ∃ i : Instruction, decode 0x4ea11c20 0x4000 = .ok i ∧
        ¬ Decode.LeavesBitsOut ⟨i.operation, i.operands.toList⟩ ∧ (0x4ea11c20 : Word) = i.word := by
  have hgroup : Group.ofWord? 0x4ea11c20 = some .dataProcessingVector := by decide
  have himm : ¬ Decode.ImmediateWord 0x4ea11c20 := by
    rintro ⟨-, cls, hcls, himm⟩
    have hsame : Decode.VectorClass.ofWord 0x4ea11c20 = .ok .threeSame := by decide
    cases hsame.symm.trans hcls
    exact himm
  have hdecode : decode 0x4ea11c20 0x4000 = .ok ⟨0x4ea11c20, 0x4000, .dataProcessingVector, .mov,
      .ofList [Decode.vector 0 .b true, Decode.vector 1 .b true]⟩ := by decide +kernel
  exact ⟨hgroup, himm, _, hdecode, id,
    vectorWord_eq_of_operands_eq hgroup hgroup hdecode hdecode himm himm id id rfl rfl⟩

end A64
