import A64.Decode.Integer
import A64.Proofs.Regular

/-!
# Integer data processing is regular

Every class of the two groups of integer data processing yields an operation with a text on regular
operands. The classes with a place for the stack pointer are the additions, the operations on a
bitwise immediate and the authentication of pointers.
-/

namespace A64.Decode

theorem authenticate_defined (opcode : BitVec 3) : authenticate opcode ≠ .undefined := by
  unfold authenticate
  split <;> simp

theorem takesStack_authenticate (key : BitVec 3) : (authenticate key).TakesStack 1 := by
  unfold authenticate
  split <;> simp [Operation.TakesStack]

theorem authenticateZero_defined (opcode : BitVec 3) : authenticateZero opcode ≠ .undefined := by
  unfold authenticateZero
  split <;> simp

theorem reversal?_defined {opcode : BitVec 6} {sf : Bool} {op : Operation}
    (h : reversal? opcode sf = some op) : op ≠ .undefined := by
  unfold reversal? at h
  split at h <;> cases h <;> simp

theorem checksum_defined (castagnoli : Bool) (size : BitVec 2) :
    checksum castagnoli size ≠ .undefined := by
  unfold checksum
  split <;> simp

theorem division?_defined {opcode : BitVec 6} {op : Operation} (h : division? opcode = some op) :
    op ≠ .undefined := by
  unfold division? at h
  split at h <;> cases h <;> simp

theorem multiplication?_defined {op31 : BitVec 3} {o0 : Bool} {m : Multiplication}
    (h : multiplication? op31 o0 = some m) :
    m.accumulate ≠ .undefined ∧ m.alone ≠ .undefined := by
  unfold multiplication? at h
  split at h <;> cases h <;> simp

theorem highHalf?_defined {op31 : BitVec 3} {o0 : Bool} {op : Operation}
    (h : highHalf? op31 o0 = some op) : op ≠ .undefined := by
  unfold highHalf? at h
  split at h <;> cases h <;> simp

variable (word : Word)

theorem regular_pcRelative (address : Address) : Regular .label (pcRelative word address) := by
  simp [pcRelative]

/-- Both operands may be the stack pointer, unless the flags are set. -/
theorem regular_addSubImmediate : Regular .plain (addSubImmediate word) := by
  simp only [addSubImmediate]
  repeat' split
  all_goals simp [Operation.TakesStack]

/-- The destination may be the stack pointer, and what is combined may not. -/
theorem regular_logicalImmediate : Regular .plain (logicalImmediate word) := by
  simp only [logicalImmediate]
  generalize LogicalMask.expand _ _ _ _ = mask
  repeat' split
  all_goals simp [Operation.TakesStack]

theorem regular_moveWide : Regular .plain (moveWide word) := by
  simp only [moveWide]
  repeat' split
  all_goals simp

section

variable (sf : Bool) (rd rn : BitVec 5) (immr imms : BitVec 6)

theorem regular_signedBitfield : (signedBitfield sf rd rn immr imms).Regular .plain := by
  simp only [signedBitfield]
  repeat' split
  all_goals simp

theorem regular_insertedBitfield : (insertedBitfield sf rd rn immr imms).Regular .plain := by
  simp only [insertedBitfield]
  repeat' split
  all_goals simp

theorem regular_unsignedBitfield : (unsignedBitfield sf rd rn immr imms).Regular .plain := by
  simp only [unsignedBitfield]
  repeat' split
  all_goals simp

end

theorem regular_bitfield : Regular .plain (bitfield word) := by
  simp only [bitfield]
  repeat' split
  · simp
  · simp
  · simp
  · exact regular_signedBitfield ..
  · exact regular_insertedBitfield ..
  · exact regular_unsignedBitfield ..

theorem regular_extract : Regular .plain (extract word) := by
  simp [extract]

theorem regular_logicalShifted : Regular .plain (logicalShifted word) := by
  simp only [logicalShifted]
  split
  · simp
  · split <;> simp

theorem regular_addSubShifted : Regular .plain (addSubShifted word) := by
  simp only [addSubShifted]
  split
  · simp
  · split
    · simp
    · split <;> simp

@[simp ↓] theorem regular_extendedRegister {stack : Prop} {kind : OperandKind} (sf : Bool)
    (n : BitVec 5) (option : BitVec 3) (amount : Nat) (besideStack : Bool) :
    (extendedRegister sf n option amount besideStack).Regular stack kind := by
  simp only [extendedRegister]
  repeat' split
  all_goals exact regular_gpr_shift _

/-- As with an immediate, but the last operand is never the stack pointer. -/
theorem regular_addSubExtended : Regular .plain (addSubExtended word) := by
  simp only [addSubExtended]
  repeat' split
  · simp
  · simp
  · -- Without flags, one arm stands for the sum and the difference.
    cases word.bit 30 <;> simp [addSub, Operation.TakesStack]
  all_goals simp [Operation.TakesStack]

theorem regular_addSubCarry : Regular .plain (addSubCarry word) := by
  simp only [addSubCarry]
  split <;> simp

theorem regular_rotateIntoFlags : Regular .plain (rotateIntoFlags word) := by
  simp [rotateIntoFlags]

theorem regular_evaluateIntoFlags : Regular .plain (evaluateIntoFlags word) := by
  simp only [evaluateIntoFlags]
  split
  · simp
  · split <;> simp

theorem regular_conditionalCompare : Regular .plain (conditionalCompare word) := by
  simp only [conditionalCompare]
  split
  · simp
  · split <;> simp

theorem regular_conditionalSelect : Regular .plain (conditionalSelect word) := by
  simp only [conditionalSelect]
  split
  · simp
  · split
    · simp
    · split <;> simp

theorem regular_pointerAuthentication (opcode : BitVec 6) (rd rn : BitVec 5) :
    Regular .plain (pointerAuthentication opcode rd rn) := by
  simp [pointerAuthentication, authenticate_defined, authenticateZero_defined,
    takesStack_authenticate]

theorem regular_oneSource : Regular .plain (oneSource word) := by
  simp only [oneSource]
  split
  · simp
  · split
    · split
      · simp [reversal?_defined ‹_›]
      · simp
    · simp [regular_pointerAuthentication]

theorem regular_twoSource : Regular .plain (twoSource word) := by
  simp only [twoSource, regular_ite]
  refine ⟨by simp, fun _ => ⟨by simp [Operation.TakesStack], fun _ =>
    ⟨by simp [checksum_defined], fun _ => ?_⟩⟩⟩
  split
  · simp [division?_defined ‹_›]
  · simp

theorem regular_threeSource : Regular .plain (threeSource word) := by
  simp only [threeSource]
  split
  · simp
  · split
    · obtain ⟨haccumulate, halone⟩ := multiplication?_defined ‹_›
      simp [haccumulate, halone]
    · simp [highHalf?_defined ‹_›]
    · simp

def DataImmediateClass.kind : DataImmediateClass → OperandKind
  | pcRelative => .label
  | addSub | logical | moveWide | bitfield | extract => .plain

theorem regular_dataImmediate (address : Address) (cls : DataImmediateClass) :
    Regular cls.kind (cls.meaning word address) := by
  cases cls with
  | pcRelative => exact regular_pcRelative word address
  | addSub => exact regular_addSubImmediate word
  | logical => exact regular_logicalImmediate word
  | moveWide => exact regular_moveWide word
  | bitfield => exact regular_bitfield word
  | extract => exact regular_extract word

theorem regular_dataRegister (cls : DataRegisterClass) : Regular .plain (cls.meaning word) := by
  cases cls with
  | logicalShifted => exact regular_logicalShifted word
  | addSubShifted => exact regular_addSubShifted word
  | addSubExtended => exact regular_addSubExtended word
  | addSubCarry => exact regular_addSubCarry word
  | rotateIntoFlags => exact regular_rotateIntoFlags word
  | evaluateIntoFlags => exact regular_evaluateIntoFlags word
  | conditionalCompare => exact regular_conditionalCompare word
  | conditionalSelect => exact regular_conditionalSelect word
  | oneSource => exact regular_oneSource word
  | twoSource => exact regular_twoSource word
  | threeSource => exact regular_threeSource word

theorem regular_dataProcessingRegister : Regular .plain (dataProcessingRegister word) := by
  unfold dataProcessingRegister
  split
  · exact regular_dataRegister word _
  · simp

end A64.Decode
