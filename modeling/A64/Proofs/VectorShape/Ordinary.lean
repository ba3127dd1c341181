import A64.Decode.Vector
import A64.Proofs.VectorShape

/-!
# Classes with ordinary vectors

The classes of vector, floating-point and cryptographic instructions whose operands all have shapes
without exceptions. Where a class takes elements of 64 bits, it has sorted out the vectors that hold
only one, and the lanes that the classes compute from different fields all lie within 128 bits.
-/

namespace A64.Decode

variable (word : Word)

@[simp] theorem elementSize_ne_q : elementSize word ≠ .q := by
  unfold elementSize ElementSize.ofField
  split <;> simp

@[simp] theorem floatSize_ne_q : floatSize word ≠ .q := by
  unfold floatSize
  split <;> simp

@[simp] theorem isLone_true (e : ElementSize) : isLone e true = false := by simp [isLone]

theorem isLone_of_ne {e : ElementSize} (h : e ≠ .d) (q : Bool) : isLone e q = false := by
  simp [isLone, h]

theorem lane_le {e : ElementSize} {index : Nat} (h : index < 16 >>> e.log2) :
    (index + 1) * e.bits ≤ 128 := by
  cases e <;> simp only [ElementSize.bits, ElementSize.log2] at h ⊢ <;> omega

/-- The element of a copy has its lane within 128 bits. -/
theorem copyLane?_bounds {imm5 : BitVec 5} {e : ElementSize} {index : Nat}
    (h : copyLane? imm5 = some (e, index)) : (index + 1) * e.bits ≤ 128 ∧ e ≠ .q := by
  have hall : ∀ imm5, ∀ p ∈ copyLane? imm5, (p.2 + 1) * p.1.bits ≤ 128 ∧ p.1 ≠ .q := by decide
  exact hall imm5 _ h

/-- A lane of four bits is cut down to what the element leaves. -/
theorem insertLane_bounds (imm4 : BitVec 4) (e : ElementSize) :
    (imm4.toNat / bytes e.log2 + 1) * e.bits ≤ 128 := by
  refine lane_le (Nat.div_lt_of_lt_mul ?_)
  have hlanes : bytes e.log2 * (16 >>> e.log2) = 16 := by cases e <;> rfl
  rw [hlanes]
  exact imm4.isLt

theorem indexedElement?_bounds {i : IndexedElement} (h : indexedElement? word = some i) :
    (i.lane + 1) * i.size.bits ≤ 128 ∧ i.size ≠ .q := by
  unfold indexedElement? at h
  repeat' split at h
  all_goals cases h
  all_goals exact ⟨lane_le (BitVec.isLt _), nofun⟩

theorem laneHL_lt : laneHL word < 4 := BitVec.isLt _

theorem ordinary_moveUpperHalf : Ordinary (moveUpperHalf word) := by
  unfold moveUpperHalf
  split <;> simp [ElementSize.bits, ElementSize.log2]

theorem ordinary_integerConversion : Ordinary (integerConversion word) := by
  simp only [integerConversion]
  split
  · exact ordinary_moveUpperHalf word
  · repeat' split
    all_goals simp

theorem ordinary_floatingPoint : Ordinary (floatingPoint word) := by
  unfold floatingPoint
  repeat' split
  · simp
  · exact ordinary_of_plain (regular_floatThreeSource word)
  · exact ordinary_of_plain (regular_fixedPointConversion word)
  · exact ordinary_of_plain (regular_floatConditionalCompare word)
  · exact ordinary_of_plain (regular_floatTwoSource word)
  · exact ordinary_of_plain (regular_floatConditionalSelect word)
  · exact ordinary_of_plain (regular_floatImmediate word)
  · exact ordinary_of_plain (regular_floatCompare word)
  · exact ordinary_of_plain (regular_floatOneSource word)
  · simp
  · exact ordinary_integerConversion word

@[simp] theorem ordinary_wide {n : BitVec 5} {e : ElementSize} :
    (wide n e).Ordinary ↔ e ≠ .q := by simp [wide]

theorem ordinary_aes : Ordinary (aes word) := by
  unfold aes
  repeat' split
  all_goals simp

theorem ordinary_shaThree : Ordinary (shaThree word) := by
  simp only [shaThree]
  repeat' split
  all_goals simp

theorem ordinary_shaTwo : Ordinary (shaTwo word) := by
  simp only [shaTwo]
  repeat' split
  all_goals simp

theorem ordinary_cryptoFour : Ordinary (cryptoFour word) := by
  simp only [cryptoFour]
  split <;> simp

theorem ordinary_cryptoThreeLane : Ordinary (cryptoThreeLane word) := by
  have hlane : ((word.field 12 2).toNat + 1) * ElementSize.s.bits ≤ 128 := lane_le (BitVec.isLt _)
  simp [cryptoThreeLane, hlane]

theorem ordinary_cryptoThree : Ordinary (cryptoThree word) := by
  simp only [cryptoThree]
  split <;> simp

theorem ordinary_cryptoTwo : Ordinary (cryptoTwo word) := by
  unfold cryptoTwo
  split <;> simp

theorem ordinary_cryptography : Ordinary (cryptography word) := by
  simp [cryptography, exclusiveOrRotate, ordinary_cryptoTwo, ordinary_cryptoFour,
    ordinary_cryptoThreeLane, ordinary_cryptoThree]

theorem ordinary_copy : Ordinary (copy word) := by
  simp only [copy]
  split
  · simp
  · obtain ⟨hlane, hquad⟩ := copyLane?_bounds ‹_›
    split
    · simp [hlane, hquad, insertLane_bounds]
    · split <;> simp [hlane, hquad]

theorem ordinary_scalarCopy : Ordinary (scalarCopy word) := by
  unfold scalarCopy
  split
  · simp
  · simp [copyLane?_bounds ‹_›]

theorem ordinary_tableLookup : Ordinary (tableLookup word) := by
  have htable : (vectorList word.rn ((word.field 13 2).toNat + 1) (.full .b true) none).Ordinary :=
    shaped_vectorList (proper_full (by simp) nofun)
  simp [tableLookup, htable, isLone_of_ne]

theorem ordinary_permute : Ordinary (permute word) := by
  simp only [permute]
  split
  · simp
  · simp [vectors3]

theorem ordinary_extractVector : Ordinary (extractVector word) := by
  simp [extractVector, vectors3, isLone_of_ne]

theorem ordinary_floatSame : Ordinary (floatSame word) := by
  simp only [floatSame]
  split <;> simp [vectors3]

theorem ordinary_halfSame : Ordinary (halfSame word) := by
  unfold halfSame
  split <;> simp [vectors3, isLone_of_ne]

theorem ordinary_bitwise : Ordinary (bitwise word) := by
  simp [bitwise, vectors2, vectors3, isLone_of_ne]

theorem ordinary_integerSame : Ordinary (integerSame word) := by
  simp only [integerSame]
  split <;> simp [vectors3]

theorem ordinary_threeSame : Ordinary (threeSame word) := by
  simp [threeSame, ordinary_floatSame, ordinary_bitwise, ordinary_integerSame]

theorem ordinary_complexSame : Ordinary (complexSame word) := by
  simp [complexSame, vectors3]

theorem ordinary_threeSameExtra : Ordinary (threeSameExtra word) := by
  have hlone (h : elementSize word ∈ halfOrSingle) : isLone (elementSize word) word.q = false :=
    isLone_of_ne (by rintro he; simp [he, halfOrSingle] at h) _
  simp only [threeSameExtra]
  split
  · simp [isLone_of_ne]
  · simpa [vectors3] using hlone
  · simpa [vectors3] using hlone
  · simp [ordinary_complexSame]

theorem ordinary_floatMiscRow (row : FloatMiscRow) {registers : List Operand}
    (h : ∀ o ∈ registers, o.Ordinary) : Ordinary (done row.operation (row.operands registers)) := by
  intro o ho
  rcases FloatMiscRow.mem_operands ho with ho | rfl
  · exact h o ho
  · exact ordinary_of_regular (regular_float 0)

theorem ordinary_floatMisc : Ordinary (floatMisc word) := by
  simp only [floatMisc]
  repeat' split
  · simp
  · simp [integerEstimate, vectors2, isLone_of_ne]
  · simp
  · exact ordinary_floatMiscRow _ (by simp_all [vectors2])

theorem ordinary_twoMiscHalf : Ordinary (twoMiscHalf word) := by
  unfold twoMiscHalf
  split
  · simp
  · exact ordinary_floatMiscRow _ (by simp [vectors2, isLone_of_ne])

theorem ordinary_floatWidth : Ordinary (floatWidth word) := by
  simp only [floatWidth]
  cases word.bit 22 <;> repeat' split
  all_goals simp [isLone_of_ne]

theorem ordinary_invertBits : Ordinary (invertBits word) := by
  unfold invertBits
  split <;> simp [vectors2, isLone_of_ne]

theorem ordinary_acrossLanes : Ordinary (acrossLanes word) := by
  simp only [acrossLanes]
  split
  · simp [isLone_of_ne]
  · split
    · simp
    · simp +contextual [isLone_of_ne]

theorem ordinary_modifiedImmediate : Ordinary (modifiedImmediate word) := by
  simp only [modifiedImmediate]
  split
  · simp [isLone_of_ne]
  · split <;> simp [isLone_of_ne]

theorem ordinary_complexByElement (op : Operation) : Ordinary (complexByElement word op) := by
  have hhalf : (laneHL word + 1) * ElementSize.h.bits ≤ 128 :=
    lane_le (Nat.lt_trans (laneHL_lt word) (by decide))
  have hsingle : ((word.field 11 1).toNat + 1) * ElementSize.s.bits ≤ 128 :=
    lane_le (Nat.lt_trans (BitVec.isLt _) (by decide))
  simp only [complexByElement]
  split
  · simp [vectors2, isLone_of_ne, hhalf]
  · simp [vectors2, isLone_of_ne, hsingle]
  · simp

theorem ordinary_scalarByElement : Ordinary (scalarByElement word) := by
  simp only [scalarByElement]
  split
  · simp
  · split
    · simp
    · split
      · simp
      · have hbounds := indexedElement?_bounds word ‹_›
        simpa [IndexedElement.operand] using hbounds

end A64.Decode
