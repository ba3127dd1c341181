import A64.Decode.Control
import A64.Proofs.Regular

/-!
# Branches and system instructions are regular

The classes of branches, exceptions and system instructions. Only the modifier of an authenticated
target may be the stack pointer.
-/

namespace A64.Decode

variable (word : Word)

theorem branchIf_defined (c : Condition) : Operation.branchIf c ≠ .undefined := by
  cases c <;> simp [Operation.branchIf]

section

variable (address : Address)

theorem regular_branchImmediate : Regular .label (branchImmediate word address) := by
  simp only [branchImmediate, target]
  split <;> simp

theorem regular_conditionalBranch : Regular .label (conditionalBranch word address) := by
  simp [conditionalBranch, target, branchIf_defined]

theorem regular_compareBranch : Regular .label (compareBranch word address) := by
  simp only [compareBranch, target]
  split <;> simp

theorem regular_testBranch : Regular .label (testBranch word address) := by
  simp only [testBranch, target]
  split <;> simp

end

def RegisterBranch.Defined : RegisterBranch → Prop
  | plain op | keyed op | implicit op => op ≠ .undefined
  | ret => True

theorem registerBranch?_defined {opc : BitVec 4} {op3 : BitVec 6} {op4 : BitVec 5}
    {b : RegisterBranch} (h : registerBranch? opc op3 op4 = some b) : b.Defined := by
  unfold registerBranch? at h
  split at h <;> cases h <;> simp [RegisterBranch.Defined]

theorem takesStack_keyed {opc : BitVec 4} {op3 : BitVec 6} {op4 : BitVec 5} {op : Operation}
    (h : registerBranch? opc op3 op4 = some (.keyed op)) : op.TakesStack 1 := by
  unfold registerBranch? at h
  split at h <;> cases h <;> simp [Operation.TakesStack]

theorem regular_branchRegister : Regular .plain (branchRegister word) := by
  simp only [branchRegister]
  split
  · simp
  · split
    · have hop := registerBranch?_defined ‹_›
      simpa [RegisterBranch.Defined] using hop
    · have hop := registerBranch?_defined ‹_›
      have hstack := takesStack_keyed ‹_›
      simpa [RegisterBranch.Defined, hstack] using hop
    · split <;> simp
    · have hop := registerBranch?_defined ‹_›
      simpa [RegisterBranch.Defined] using fun _ => hop
    · simp

theorem exception?_defined {opc : BitVec 3} {level : BitVec 2} {op : Operation}
    (h : exception? opc level = some op) : op ≠ .undefined := by
  unfold exception? at h
  split at h <;> cases h <;> simp

theorem regular_exception : Regular .plain (exception word) := by
  simp only [exception]
  split
  · simp
  · split
    · have hop := exception?_defined ‹_›
      split <;> simp [hop]
    · simp

theorem regular_hint (n : BitVec 7) : (hint n).Regular .plain := by
  have hnamed : ∀ d, namedHint? n = some d → d.Regular .plain := by
    intro d h
    unfold namedHint? at h
    split at h <;> cases h <;> simp
  cases h : namedHint? n with
  | none => simp [hint, h]
  | some d => simpa [hint, h] using hnamed d h

@[simp ↓] theorem regular_barrierOption {stack : Prop} {kind : OperandKind} (crm : BitVec 4) :
    (barrierOption crm).Regular stack kind := by
  unfold barrierOption
  split <;> simp

theorem regular_barrier (op2 : BitVec 3) (crm : BitVec 4) : Regular .plain (barrier op2 crm) := by
  simp only [barrier]
  repeat' split
  all_goals simp

theorem regular_processorState (op1 op2 : BitVec 3) (crm : BitVec 4) :
    Regular .plain (processorState op1 op2 crm) := by
  unfold processorState
  repeat' split
  all_goals simp

theorem maintenance_defined (kind : MaintenanceKind) : maintenance kind ≠ .undefined := by
  cases kind <;> simp [maintenance]

@[simp ↓] theorem regular_control {stack : Prop} {kind : OperandKind} (n : BitVec 4) :
    (plain (.control n)).Regular stack kind := by
  have hstack : (Register.control n).isStackPointer = false :=
    decide_eq_false (Nat.ne_of_lt (Nat.lt_trans n.isLt (by decide)))
  exact regular_plain (by simp) nofun (by simp [hstack])

theorem regular_systemInstruction : (systemInstruction word).Regular .plain := by
  simp only [systemInstruction]
  repeat' split
  all_goals simp [maintenance_defined]

@[simp ↓] theorem regular_systemOperand {stack : Prop} {kind : OperandKind} (e : SystemEncoding)
    (r : Option SystemRegister) : (systemOperand e r).Regular stack kind := by
  cases r <;> simp [systemOperand]

theorem regular_systemMove : (systemMove word).Regular .plain := by
  simp only [systemMove]
  split <;> simp

theorem regular_systemImmediate : Regular .plain (systemImmediate word) := by
  simp only [systemImmediate]
  split
  · simp
  · split
    · exact regular_hint _
    · exact regular_barrier _ _
    · exact regular_processorState _ _ _
    · simp

theorem regular_system : Regular .plain (system word) := by
  unfold system
  split
  · simp [regular_systemImmediate]
  · exact regular_systemInstruction word
  · exact regular_systemMove word

/-- What the class has as operands. -/
def ControlClass.kind : ControlClass → OperandKind
  | branchImmediate | compareBranch | testBranch | conditionalBranch => .label
  | branchRegister | exception | system => .plain

theorem regular_controlClass (address : Address) (cls : ControlClass) :
    Regular cls.kind (cls.meaning word address) := by
  cases cls with
  | branchImmediate => exact regular_branchImmediate word address
  | compareBranch => exact regular_compareBranch word address
  | testBranch => exact regular_testBranch word address
  | conditionalBranch => exact regular_conditionalBranch word address
  | branchRegister => exact regular_branchRegister word
  | exception => exact regular_exception word
  | system => exact regular_system word

end A64.Decode
