import A64.Decode.Vector
import A64.Proofs.Regular

/-!
# Vector, floating-point and cryptographic instructions are regular

One statement for each class of the group, after the tables of operations that the class uses: none
of their rows is undefined. The classes take general-purpose registers only for conversions and
copies, and there number 31 is the zero register.
-/

namespace A64.Decode

variable {stack : Prop} (word : Word)

@[simp ↓] theorem regular_floatZero {kind : OperandKind} : floatZero.Regular stack kind :=
  regular_float 0

theorem regular_fixedPointConversion : Regular .plain (fixedPointConversion word) := by
  simp only [fixedPointConversion]
  split
  · simp
  · split
    · simp
    · split <;> simp

theorem regular_moveUpperHalf : Regular .vector (moveUpperHalf word) := by
  unfold moveUpperHalf
  split <;> simp

theorem toInteger?_defined {rmode : BitVec 2} {opcode : BitVec 3} {op : Operation}
    (h : toInteger? rmode opcode = some op) : op ≠ .undefined := by
  unfold toInteger? at h
  split at h <;> cases h <;> simp

theorem regular_integerConversion : Regular .vector (integerConversion word) := by
  simp only [integerConversion]
  split
  · exact regular_moveUpperHalf word
  · split
    · simp
    · split
      · simp [toInteger?_defined ‹_›]
      · split <;> simp

theorem regular_convertPrecision (source : ElementSize) :
    Regular .plain (convertPrecision word source) := by
  unfold convertPrecision
  split <;> simp

theorem floatOneSource?_defined {opcode : BitVec 6} {half : Bool} {op : Operation}
    (h : floatOneSource? opcode half = some op) : op ≠ .undefined := by
  unfold floatOneSource? at h
  split at h <;> cases h <;> simp

theorem regular_floatOneSource : Regular .plain (floatOneSource word) := by
  refine yields_withPrecision fun e => ?_
  split
  · exact regular_convertPrecision word e
  · split
    · simp [floatOneSource?_defined ‹_›]
    · simp

theorem floatTwoSource?_defined {opcode : BitVec 4} {op : Operation}
    (h : floatTwoSource? opcode = some op) : op ≠ .undefined := by
  unfold floatTwoSource? at h
  split at h <;> cases h <;> simp

theorem regular_floatTwoSource : Regular .plain (floatTwoSource word) := by
  refine yields_withPrecision fun e => ?_
  split
  · simp [floatTwoSource?_defined ‹_›]
  · simp

theorem fusedMultiply_defined (negate subtract : Bool) :
    fusedMultiply negate subtract ≠ .undefined := by
  cases negate <;> cases subtract <;> simp [fusedMultiply]

theorem regular_floatThreeSource : Regular .plain (floatThreeSource word) :=
  yields_withPrecision fun e => by simp [fusedMultiply_defined]

theorem regular_floatImmediate : Regular .plain (floatImmediate word) :=
  yields_withPrecision fun e => by simp

theorem regular_floatCompare : Regular .plain (floatCompare word) := by
  refine yields_withPrecision fun e => ?_
  simp only
  split
  · simp
  · split <;> simp

theorem regular_floatConditionalCompare : Regular .plain (floatConditionalCompare word) :=
  yields_withPrecision fun e => by split <;> simp

theorem regular_floatConditionalSelect : Regular .plain (floatConditionalSelect word) :=
  yields_withPrecision fun e => by simp

theorem regular_floatingPoint : Regular .vector (floatingPoint word) := by
  unfold floatingPoint
  repeat' split
  · simp
  · exact regular_of_plain (regular_floatThreeSource word)
  · exact regular_of_plain (regular_fixedPointConversion word)
  · exact regular_of_plain (regular_floatConditionalCompare word)
  · exact regular_of_plain (regular_floatTwoSource word)
  · exact regular_of_plain (regular_floatConditionalSelect word)
  · exact regular_of_plain (regular_floatImmediate word)
  · exact regular_of_plain (regular_floatCompare word)
  · exact regular_of_plain (regular_floatOneSource word)
  · simp
  · exact regular_integerConversion word

@[simp ↓] theorem regular_wide (n : BitVec 5) (e : ElementSize) :
    (wide n e).Regular stack .vector :=
  regular_vector e true

theorem aesRound?_defined {opcode : BitVec 5} {op : Operation} (h : aesRound? opcode = some op) :
    op ≠ .undefined := by
  unfold aesRound? at h
  split at h <;> cases h <;> simp

theorem regular_aes : Regular .vector (aes word) := by
  unfold aes
  split
  · simp
  · split
    · simp [aesRound?_defined ‹_›]
    · simp

theorem regular_shaThree : Regular .vector (shaThree word) := by
  simp only [shaThree]
  split
  · simp
  · split <;> simp

theorem regular_shaTwo : Regular .vector (shaTwo word) := by
  simp only [shaTwo]
  split
  · simp
  · split <;> simp

theorem regular_cryptoFour : Regular .vector (cryptoFour word) := by
  simp only [cryptoFour]
  split <;> simp

theorem sm3Round_defined (opcode : BitVec 2) : sm3Round opcode ≠ .undefined := by
  unfold sm3Round
  split <;> simp

theorem regular_cryptoThreeLane : Regular .vector (cryptoThreeLane word) := by
  simp [cryptoThreeLane, sm3Round_defined]

theorem regular_cryptoThree : Regular .vector (cryptoThree word) := by
  simp only [cryptoThree]
  split <;> simp

theorem regular_cryptoTwo : Regular .vector (cryptoTwo word) := by
  unfold cryptoTwo
  split <;> simp

theorem regular_exclusiveOrRotate : Regular .vector (exclusiveOrRotate word) := by
  simp [exclusiveOrRotate]

theorem regular_cryptography : Regular .vector (cryptography word) := by
  simp [cryptography, regular_exclusiveOrRotate, regular_cryptoTwo, regular_cryptoFour,
    regular_cryptoThreeLane, regular_cryptoThree]

theorem regular_copy : Regular .vector (copy word) := by
  simp only [copy]
  split
  · simp
  · split
    · simp
    · split <;> try simp
      split <;> simp

theorem regular_scalarCopy : Regular .vector (scalarCopy word) := by
  unfold scalarCopy
  split <;> simp

theorem regular_tableLookup : Regular .vector (tableLookup word) := by
  have hcount : 1 ≤ (word.field 13 2).toNat + 1 ∧ (word.field 13 2).toNat + 1 ≤ 4 := by
    have := (word.field 13 2).isLt
    omega
  simp only [tableLookup]
  split
  · simp
  · split <;> simp [regular_vectorList _ _ hcount]

theorem permutation?_defined {opcode : BitVec 3} {op : Operation}
    (h : permutation? opcode = some op) : op ≠ .undefined := by
  unfold permutation? at h
  split at h <;> cases h <;> simp

theorem regular_permute : Regular .vector (permute word) := by
  simp only [permute]
  split
  · simp
  · simp [permutation?_defined ‹_›, vectors3]

theorem regular_extractVector : Regular .vector (extractVector word) := by
  simp [extractVector, vectors3]

/-! ### Three registers of one shape -/

theorem floatSame?_defined : ∀ (u a : Bool) (opcode : BitVec 3), ∀ op ∈ floatSame? u a opcode,
    op ≠ .undefined := by
  decide

theorem scalarFloatSame?_defined : ∀ (u a : Bool) (opcode : BitVec 3),
    ∀ op ∈ scalarFloatSame? u a opcode, op ≠ .undefined := by
  decide

theorem regular_floatSame : Regular .vector (floatSame word) := by
  simp only [floatSame]
  split
  · simp
  · simp [floatSame?_defined _ _ _ _ ‹_›, vectors3]

theorem regular_scalarFloatSame : Regular .plain (scalarFloatSame word) := by
  unfold scalarFloatSame
  split
  · simp
  · simp [scalarFloatSame?_defined _ _ _ _ ‹_›, scalars3]

theorem regular_halfSame : Regular .vector (halfSame word) := by
  unfold halfSame
  split
  · simp
  · simp [floatSame?_defined _ _ _ _ ‹_›, vectors3]

theorem regular_scalarHalfSame : Regular .plain (scalarHalfSame word) := by
  unfold scalarHalfSame
  split
  · simp
  · simp [scalarFloatSame?_defined _ _ _ _ ‹_›, scalars3]

theorem integerSame?_defined : ∀ (u : Bool) (opcode : BitVec 5), ∀ row ∈ integerSame? u opcode,
    row.operation ≠ .undefined := by
  decide

theorem bitwiseSame_defined (u : Bool) (size : BitVec 2) : bitwiseSame u size ≠ .undefined := by
  unfold bitwiseSame
  split <;> simp

theorem regular_bitwise : Regular .vector (bitwise word) := by
  simp [bitwise, bitwiseSame_defined, vectors2, vectors3]

theorem regular_integerSame : Regular .vector (integerSame word) := by
  simp only [integerSame]
  split
  · simp
  · simp [integerSame?_defined _ _ _ ‹_›, vectors3]

theorem regular_threeSame : Regular .vector (threeSame word) := by
  simp [threeSame, regular_floatSame, regular_bitwise, regular_integerSame]

theorem regular_scalarThreeSame : Regular .plain (scalarThreeSame word) := by
  simp only [scalarThreeSame]
  split
  · exact regular_scalarFloatSame word
  · split
    · simp
    · simp
    · have hop := integerSame?_defined _ _ _ ‹_›
      simp at hop
      simp [hop, scalars3]

theorem regular_complexSame : Regular .vector (complexSame word) := by
  simp [complexSame, vectors3]

theorem regular_threeSameExtra : Regular .vector (threeSameExtra word) := by
  simp only [threeSameExtra]
  split
  · split
    · split <;> simp
    · simp
  · simp [vectors3]
  · simp [vectors3]
  · simp [regular_complexSame]

theorem regular_scalarThreeSameExtra : Regular .plain (scalarThreeSameExtra word) := by
  simp only [scalarThreeSameExtra]
  split <;> simp [scalars3]

theorem different?_defined : ∀ (u : Bool) (opcode : BitVec 4), ∀ row ∈ different? u opcode,
    row.lower ≠ .undefined ∧ row.upper ≠ .undefined := by
  decide

theorem regular_threeDifferent : Regular .vector (threeDifferent word) := by
  simp only [threeDifferent]
  split
  · simp
  · obtain ⟨hlower, hupper⟩ := different?_defined _ _ _ ‹_›
    split
    · simp
    · split <;> split <;> simp [hlower, hupper]

theorem scalarDifferent?_defined {u : Bool} {opcode : BitVec 4} {op : Operation}
    (h : scalarDifferent? u opcode = some op) : op ≠ .undefined := by
  unfold scalarDifferent? at h
  split at h <;> cases h <;> simp

theorem regular_scalarThreeDifferent : Regular .plain (scalarThreeDifferent word) := by
  simp only [scalarThreeDifferent]
  split
  · simp
  · simp [scalarDifferent?_defined ‹_›]

theorem floatMisc?_defined : ∀ (u a : Bool) (opcode : BitVec 5), ∀ row ∈ floatMisc? u a opcode,
    row.operation ≠ .undefined := by
  decide

theorem halfMisc?_defined {u a : Bool} {opcode : BitVec 5} {row : FloatMiscRow}
    (h : halfMisc? u a opcode = some row) : row.operation ≠ .undefined :=
  floatMisc?_defined _ _ _ _ (Option.filter_eq_some_iff.1 h).1

theorem scalarFloatMisc?_defined {u a : Bool} {opcode : BitVec 5} {row : FloatMiscRow}
    (h : scalarFloatMisc? u a opcode = some row) : row.operation ≠ .undefined := by
  unfold scalarFloatMisc? at h
  split at h
  · cases h
    simp
  · exact floatMisc?_defined _ _ _ _ (Option.filter_eq_some_iff.1 h).1

theorem FloatMiscRow.mem_operands {row : FloatMiscRow} {registers : List Operand} {o : Operand}
    (h : o ∈ row.operands registers) : o ∈ registers ∨ o = floatZero := by
  unfold FloatMiscRow.operands at h
  split at h
  · exact (List.mem_append.1 h).imp_right List.mem_singleton.1
  · exact .inl h

theorem regular_floatMiscRow {kind : OperandKind} {row : FloatMiscRow}
    (hop : row.operation ≠ .undefined) {registers : List Operand} (hlen : registers.length ≤ 4)
    (h : ∀ o ∈ registers, o.Regular False kind) :
    Regular kind (done row.operation (row.operands registers)) := by
  rw [regular_done]
  refine ⟨hop, ?_, Operation.regularFrom_of_stackless fun o ho => ?_⟩
  · unfold FloatMiscRow.operands
    split
    · rw [List.length_append, List.length_singleton]
      omega
    · omega
  · rcases FloatMiscRow.mem_operands ho with ho | rfl
    · exact h o ho
    · exact regular_floatZero

theorem regular_floatMisc : Regular .vector (floatMisc word) := by
  simp only [floatMisc]
  split
  · simp
  · split
    · simp only [integerEstimate]
      split
      · simp
      · split <;> simp [vectors2]
    · split
      · simp
      · exact regular_floatMiscRow (floatMisc?_defined _ _ _ _ ‹_›) (by simp [vectors2])
          (by simp [vectors2])

theorem regular_scalarFloatMisc : Regular .plain (scalarFloatMisc word) := by
  unfold scalarFloatMisc
  split
  · simp
  · exact regular_floatMiscRow (scalarFloatMisc?_defined ‹_›) (by simp [scalars2])
      (by simp [scalars2])

theorem regular_twoMiscHalf : Regular .vector (twoMiscHalf word) := by
  unfold twoMiscHalf
  split
  · simp
  · exact regular_floatMiscRow (halfMisc?_defined ‹_›) (by simp [vectors2]) (by simp [vectors2])

theorem regular_scalarTwoMiscHalf : Regular .plain (scalarTwoMiscHalf word) := by
  unfold scalarTwoMiscHalf
  split
  · simp
  · exact regular_floatMiscRow (scalarFloatMisc?_defined ‹_›) (by simp [scalars2])
      (by simp [scalars2])

theorem regular_floatWidth : Regular .vector (floatWidth word) := by
  simp only [floatWidth]
  split
  · simp
  · repeat' split
    all_goals simp

/-- The operation that a shape uses on the upper half has a text. -/
def MiscShape.Defined : MiscShape → Prop
  | narrow upper | shiftLong upper => upper ≠ .undefined
  | _ => True

instance : (shape : MiscShape) → Decidable shape.Defined
  | .narrow _ | .shiftLong _ => inferInstanceAs (Decidable (_ ≠ _))
  | .same | .zero | .pairLong => inferInstanceAs (Decidable True)

theorem integerMisc?_defined : ∀ (u : Bool) (opcode : BitVec 5), ∀ row ∈ integerMisc? u opcode,
    row.operation ≠ .undefined ∧ row.shape.Defined := by
  decide

theorem regular_integerMisc : Regular .vector (integerMisc word) := by
  simp only [integerMisc]
  split
  · simp
  · obtain ⟨hop, hshape⟩ := integerMisc?_defined _ _ _ ‹_›
    split
    · simp
    · split
      · simp [hop, vectors2]
      · simp [hop, vectors2]
      · simp [hop]
      · simp only [MiscShape.Defined] at hshape
        split <;> simp [hop, hshape]
      · simp only [MiscShape.Defined] at hshape
        split <;> simp [hop, hshape]

theorem regular_invertBits : Regular .vector (invertBits word) := by
  unfold invertBits
  split <;> simp [vectors2]

theorem regular_twoMisc : Regular .vector (twoMisc word) := by
  simp [twoMisc, regular_invertBits, regular_floatWidth, regular_floatMisc, regular_integerMisc]

theorem scalarMisc?_defined : ∀ (u : Bool) (opcode : BitVec 5), ∀ row ∈ scalarMisc? u opcode,
    row.operation ≠ .undefined := by
  decide

theorem regular_scalarIntegerMisc : Regular .plain (scalarIntegerMisc word) := by
  simp only [scalarIntegerMisc]
  split
  · simp
  · have hop := scalarMisc?_defined _ _ _ ‹_›
    split
    · simp
    · split <;> simp [hop, scalars2]

theorem regular_scalarTwoMisc : Regular .plain (scalarTwoMisc word) := by
  simp [scalarTwoMisc, regular_scalarFloatMisc, regular_scalarIntegerMisc]

theorem floatAcross_defined (numeric minimum : Bool) :
    floatAcross numeric minimum ≠ .undefined := by
  cases numeric <;> cases minimum <;> simp [floatAcross]

theorem integerAcross?_defined {u long : Bool} {opcode : BitVec 5} {op : Operation}
    (h : integerAcross? u opcode = some (op, long)) : op ≠ .undefined := by
  unfold integerAcross? at h
  split at h <;> cases h <;> simp

theorem regular_acrossLanes : Regular .vector (acrossLanes word) := by
  simp only [acrossLanes]
  split
  · simp [floatAcross_defined]
  · split
    · simp
    · simp [integerAcross?_defined ‹_›]

theorem floatPairwise?_defined {opcode : BitVec 5} {a : Bool} {op : Operation}
    (h : floatPairwise? opcode a = some op) : op ≠ .undefined := by
  unfold floatPairwise? at h
  split at h <;> cases h <;> simp

theorem regular_scalarPairwise : Regular .vector (scalarPairwise word) := by
  have hsource (e : ElementSize) {stack : Prop} :
      (arranged word.rn ⟨e, 2⟩).Regular stack .vector :=
    regular_arranged (by simp)
  simp only [scalarPairwise]
  split
  · simp [hsource]
  · split
    · simp
    · simp [floatPairwise?_defined ‹_›, hsource]

theorem constantOperation_defined (combine invert : Bool) :
    constantOperation combine invert ≠ .undefined := by
  cases combine <;> cases invert <;> simp [constantOperation]

theorem regular_modifiedImmediate : Regular .vector (modifiedImmediate word) := by
  simp only [modifiedImmediate]
  split
  · simp
  · split <;> simp [constantOperation_defined]

def ShiftForm.Defined : ShiftForm → Prop
  | narrow upper => upper ≠ .undefined
  | long upper extend extendUpper =>
    upper ≠ .undefined ∧ extend ≠ .undefined ∧ extendUpper ≠ .undefined
  | _ => True

instance : (form : ShiftForm) → Decidable form.Defined
  | .narrow _ => inferInstanceAs (Decidable (_ ≠ _))
  | .long _ _ _ => inferInstanceAs (Decidable (_ ∧ _ ∧ _))
  | .right | .left | .fixed => inferInstanceAs (Decidable True)

theorem shift?_defined : ∀ (u : Bool) (opcode : BitVec 5), ∀ row ∈ shift? u opcode,
    row.1 ≠ .undefined ∧ row.2.Defined := by
  decide

theorem regular_shiftImmediate (e : ElementSize) :
    Regular .vector (shiftImmediate word e) := by
  simp only [shiftImmediate]
  split
  · simp
  · simp [(shift?_defined _ _ _ ‹_›).1, vectors2]
  · simp [(shift?_defined _ _ _ ‹_›).1, vectors2]
  · simp [(shift?_defined _ _ _ ‹_›).1, vectors2]
  · obtain ⟨hop, hupper⟩ := shift?_defined _ _ _ ‹_›
    simp only [ShiftForm.Defined] at hupper
    split
    · simp
    · split <;> simp [hop, hupper]
  · obtain ⟨hop, hupper, hextend, hextendUpper⟩ := shift?_defined _ _ _ ‹_›
    simp only [regular_ite]
    refine ⟨by simp, fun _ => ⟨fun _ => ?_, fun _ => ?_⟩⟩
    · split <;> simp [hextend, hextendUpper]
    · split <;> simp [hop, hupper]

theorem regular_scalarShiftImmediate (e : ElementSize) :
    Regular .plain (scalarShiftImmediate word e) := by
  simp only [scalarShiftImmediate]
  split
  · simp
  · simp
  · simp [(shift?_defined _ _ _ ‹_›).1]
  · simp [(shift?_defined _ _ _ ‹_›).1, scalars2]
  · simp [(shift?_defined _ _ _ ‹_›).1, scalars2]
  · simp [(shift?_defined _ _ _ ‹_›).1, scalars2]

def ByElementShape.Defined : ByElementShape → Prop
  | long upper => upper ≠ .undefined
  | _ => True

instance : (shape : ByElementShape) → Decidable shape.Defined
  | .long _ => inferInstanceAs (Decidable (_ ≠ _))
  | .integer | .float | .dot | .complex => inferInstanceAs (Decidable True)

theorem byElement?_defined : ∀ (u : Bool) (opcode : BitVec 4), ∀ row ∈ byElement? u opcode,
    row.1 ≠ .undefined ∧ row.2.Defined := by
  decide

@[simp ↓] theorem regular_indexedElement (i : IndexedElement) :
    i.operand.Regular stack .vector :=
  regular_lane _ _

theorem regular_complexByElement {op : Operation} (h : op ≠ .undefined) :
    Regular .vector (complexByElement word op) := by
  simp only [complexByElement]
  split <;> simp [h, vectors2]

theorem regular_byElement : Regular .vector (byElement word) := by
  simp only [byElement]
  split
  · simp
  · simp [dotByElement, (byElement?_defined _ _ _ ‹_›).1]
  · exact regular_complexByElement word (byElement?_defined _ _ _ ‹_›).1
  · have hop := (byElement?_defined _ _ _ ‹_›).1
    split
    · simp
    · split <;> simp [hop, vectors2]
  · have hop := (byElement?_defined _ _ _ ‹_›).1
    split
    · simp
    · split <;> simp [hop, vectors2]
  · obtain ⟨hop, hupper⟩ := byElement?_defined _ _ _ ‹_›
    simp only [ByElementShape.Defined] at hupper
    split
    · simp
    · split
      · simp
      · split <;> simp [hop, hupper]

theorem regular_scalarByElement : Regular .vector (scalarByElement word) := by
  unfold scalarByElement
  split
  · simp
  · have hop := (byElement?_defined _ _ _ ‹_›).1
    split
    · simp
    · split <;> simp [hop]

/-- What the class has as operands. A scalar class names vectors only by their lanes, pairs or
elements. -/
def VectorClass.kind : VectorClass → OperandKind
  | scalarThreeSame | scalarHalfSame | scalarThreeSameExtra | scalarThreeDifferent | scalarTwoMisc
  | scalarTwoMiscHalf | scalarShiftImmediate _ => .plain
  | _ => .vector

theorem VectorClass.kind_cases (cls : VectorClass) : cls.kind = .vector ∨ cls.kind = .plain := by
  cases cls <;> simp [kind]

theorem regular_vectorClass (cls : VectorClass) : Regular cls.kind (cls.meaning word) := by
  cases cls with
  | floatingPoint => exact regular_floatingPoint word
  | cryptography => exact regular_cryptography word
  | aes => exact regular_aes word
  | shaTwo => exact regular_shaTwo word
  | shaThree => exact regular_shaThree word
  | copy => exact regular_copy word
  | tableLookup => exact regular_tableLookup word
  | permute => exact regular_permute word
  | extractVector => exact regular_extractVector word
  | modifiedImmediate => exact regular_modifiedImmediate word
  | threeSame => exact regular_threeSame word
  | halfSame => exact regular_halfSame word
  | threeSameExtra => exact regular_threeSameExtra word
  | threeDifferent => exact regular_threeDifferent word
  | twoMisc => exact regular_twoMisc word
  | twoMiscHalf => exact regular_twoMiscHalf word
  | acrossLanes => exact regular_acrossLanes word
  | byElement => exact regular_byElement word
  | shiftImmediate e => exact regular_shiftImmediate word e
  | scalarCopy => exact regular_scalarCopy word
  | scalarThreeSame => exact regular_scalarThreeSame word
  | scalarHalfSame => exact regular_scalarHalfSame word
  | scalarThreeSameExtra => exact regular_scalarThreeSameExtra word
  | scalarThreeDifferent => exact regular_scalarThreeDifferent word
  | scalarTwoMisc => exact regular_scalarTwoMisc word
  | scalarTwoMiscHalf => exact regular_scalarTwoMiscHalf word
  | scalarPairwise => exact regular_scalarPairwise word
  | scalarByElement => exact regular_scalarByElement word
  | scalarShiftImmediate e => exact regular_scalarShiftImmediate word e

theorem regular_dataProcessingVector : Regular .vector (dataProcessingVector word) := by
  unfold dataProcessingVector
  split
  · exact regular_mono (regular_vectorClass word _) (VectorClass.kind_cases _)
  · simp

end A64.Decode
