import A64.Decode.Vector
import A64.Proofs.Encoding

/-!
# Fixed fields of the vector classes

What the dispatch of vector, floating-point and cryptographic words tests: the fields that are the
same in all words of a class.
-/

namespace A64.Decode.VectorClass

/-- The fixed fields of a word on vectors, besides those that divide the classes. -/
def vectorBits : List (Field × Nat) := [(⟨31, 1⟩, 0), (⟨25, 4⟩, 7)]

def scalarBits : List (Field × Nat) := [(⟨30, 2⟩, 1), (⟨25, 4⟩, 15)]

/-- Bits 10, 21 and 24. -/
def sameBits (b₁₀ b₂₁ b₂₄ : Nat) : List (Field × Nat) :=
  [(⟨24, 1⟩, b₂₄), (⟨21, 1⟩, b₂₁), (⟨10, 1⟩, b₁₀)]

/-- The bits of moves, which leave bits 21 and 24 clear. -/
def moveBits (b₁₀ b₁₅ : Nat) : List (Field × Nat) := (⟨15, 1⟩, b₁₅) :: sameBits b₁₀ 0 0

def miscBits (b₁₇ : Nat) : List (Field × Nat) :=
  (⟨17, 4⟩, b₁₇) :: (⟨11, 1⟩, 1) :: sameBits 0 1 0

def fixed : VectorClass → List (Field × Nat)
  | floatingPoint => [(⟨30, 1⟩, 0), (⟨25, 4⟩, 15)]
  | cryptography => [(⟨28, 4⟩, 12), (⟨25, 3⟩, 7)]
  | copy => vectorBits ++ (⟨22, 2⟩, 0) :: moveBits 1 0
  | halfSame => vectorBits ++ (⟨22, 1⟩, 1) :: (⟨14, 1⟩, 0) :: moveBits 1 0
  | threeSameExtra => vectorBits ++ moveBits 1 1
  | extractVector => vectorBits ++ (⟨29, 1⟩, 1) :: moveBits 0 0
  | permute => vectorBits ++ (⟨29, 1⟩, 0) :: (⟨11, 1⟩, 1) :: moveBits 0 0
  | tableLookup => vectorBits ++ (⟨29, 1⟩, 0) :: (⟨11, 1⟩, 0) :: moveBits 0 0
  | threeSame => vectorBits ++ sameBits 1 1 0
  | threeDifferent => vectorBits ++ (⟨11, 1⟩, 0) :: sameBits 0 1 0
  | twoMisc => vectorBits ++ miscBits 0
  | acrossLanes => vectorBits ++ miscBits 8
  | twoMiscHalf => vectorBits ++ (⟨22, 1⟩, 1) :: miscBits 12
  | aes => vectorBits ++ (⟨28, 4⟩, 4) :: miscBits 4
  | byElement => vectorBits ++ [(⟨24, 1⟩, 1), (⟨10, 1⟩, 0)]
  | modifiedImmediate | shiftImmediate _ => vectorBits ++ [(⟨24, 1⟩, 1), (⟨10, 1⟩, 1)]
  | scalarCopy => scalarBits ++ (⟨22, 2⟩, 0) :: moveBits 1 0
  | scalarHalfSame => scalarBits ++ (⟨22, 1⟩, 1) :: (⟨14, 1⟩, 0) :: moveBits 1 0
  | scalarThreeSameExtra => scalarBits ++ moveBits 1 1
  | shaThree => scalarBits ++ (⟨28, 4⟩, 5) :: (⟨11, 1⟩, 0) :: moveBits 0 0
  | scalarThreeSame => scalarBits ++ sameBits 1 1 0
  | scalarThreeDifferent => scalarBits ++ (⟨11, 1⟩, 0) :: sameBits 0 1 0
  | scalarTwoMisc => scalarBits ++ miscBits 0
  | scalarPairwise => scalarBits ++ miscBits 8
  | scalarTwoMiscHalf => scalarBits ++ (⟨22, 1⟩, 1) :: miscBits 12
  | shaTwo => scalarBits ++ (⟨28, 4⟩, 5) :: miscBits 4
  | scalarByElement => scalarBits ++ [(⟨24, 1⟩, 1), (⟨10, 1⟩, 0)]
  | scalarShiftImmediate _ => scalarBits ++ [(⟨24, 1⟩, 1), (⟨10, 1⟩, 1)]

variable {w : Word} {cls : VectorClass}

theorem hasFields_ofMoveWord (hbits : HasFields vectorBits w) (h24 : w.bit 24 = false)
    (h21 : w.bit 21 = false) (h : ofMoveWord w = .ok cls) : HasFields cls.fixed w := by
  unfold ofMoveWord at h
  repeat' split at h
  all_goals cases h
  all_goals simp_all [fixed, moveBits, sameBits, Word.field_eq_zero_iff, Word.field_eq_one_iff]

theorem hasFields_ofVectorWord (hbits : HasFields vectorBits w) (h : ofVectorWord w = .ok cls) :
    HasFields cls.fixed w := by
  unfold ofVectorWord at h
  split at h <;> rename_i h24
  · repeat' split at h
    all_goals cases h
    all_goals simp_all [fixed, Word.field_eq_zero_iff, Word.field_eq_one_iff]
  · split at h <;> rename_i h21
    · exact hasFields_ofMoveWord hbits (Bool.eq_false_iff.2 h24) h21 h
    · repeat' split at h
      all_goals cases h
      all_goals
        simp_all [fixed, miscBits, sameBits, Word.field_eq_zero_iff, Word.field_eq_one_iff]

theorem hasFields_ofScalarMoveWord (hbits : HasFields scalarBits w) (h24 : w.bit 24 = false)
    (h21 : w.bit 21 = false) (h : ofScalarMoveWord w = .ok cls) : HasFields cls.fixed w := by
  unfold ofScalarMoveWord at h
  repeat' split at h
  all_goals cases h
  all_goals simp_all [fixed, moveBits, sameBits, Word.field_eq_zero_iff, Word.field_eq_one_iff]

theorem hasFields_ofScalarWord (hbits : HasFields scalarBits w) (h : ofScalarWord w = .ok cls) :
    HasFields cls.fixed w := by
  unfold ofScalarWord at h
  split at h <;> rename_i h24
  · repeat' split at h
    all_goals cases h
    all_goals simp_all [fixed, Word.field_eq_zero_iff, Word.field_eq_one_iff]
  · split at h <;> rename_i h21
    · exact hasFields_ofScalarMoveWord hbits (Bool.eq_false_iff.2 h24) h21 h
    · repeat' split at h
      all_goals cases h
      all_goals
        simp_all [fixed, miscBits, sameBits, Word.field_eq_zero_iff, Word.field_eq_one_iff]

theorem hasFields (hgroup : Group.ofWord? w = some .dataProcessingVector)
    (h : ofWord w = .ok cls) : HasFields cls.fixed w := by
  have hbits : (w.bit 28 = false ∧ w.field 25 4 = 7) ∨ (w.bit 28 = true ∧ w.field 25 4 = 15) := by
    have hall : ∀ b : BitVec 4, Group.ofBits? b = some .dataProcessingVector →
        (b.getLsbD 3 = false ∧ b = 7) ∨ (b.getLsbD 3 = true ∧ b = 15) := by decide
    have hbit : (w.field 25 4).getLsbD 3 = w.bit 28 := Field.getLsbD_field (by decide)
    rw [← hbit]
    exact hall _ hgroup
  have hlow : w.field 25 3 = (w.field 25 4).extractLsb' 0 3 :=
    (w.field_field (show 0 + 3 ≤ 4 by decide)).symm
  have htop : w.field 30 2 = w.field 31 1 ++ w.field 30 1 :=
    (w.field_append (show 31 = 30 + 1 from rfl)).symm
  unfold ofWord at h
  split at h
  · cases h
    simp_all [fixed, Word.field_eq_zero_iff]
  · refine hasFields_ofScalarWord ?_ h
    simp_all [scalarBits, Word.field_eq_bit]
  · refine hasFields_ofVectorWord ?_ h
    simp_all [vectorBits, Word.field_eq_zero_iff]
  · split at h
    · cases h
      rcases hbits with ⟨-, hb⟩ | ⟨-, hb⟩ <;> simp_all [fixed]
    · cases h
  · cases h

end A64.Decode.VectorClass
