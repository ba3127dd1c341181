import A64.Decode.Memory
import A64.Proofs.Regular

/-!
# Loads and stores are regular

Every class of loads and stores. The stack pointer stands only in the base of a memory operand, and
vectors only in the accesses to structures.
-/

namespace A64.Decode

variable (word : Word)

theorem bySize_defined (size : BitVec 2) {byte half whole : Operation} (hb : byte ≠ .undefined)
    (hh : half ≠ .undefined) (hw : whole ≠ .undefined) :
    bySize size byte half whole ≠ .undefined := by
  unfold bySize
  split <;> assumption

theorem exclusiveSingle_defined (size : BitVec 2) (load ordered : Bool) :
    exclusiveSingle size load ordered ≠ .undefined := by
  unfold exclusiveSingle
  split <;> exact bySize_defined size (by simp) (by simp) (by simp)

theorem orderedSingle_defined (size : BitVec 2) (load ordered : Bool) :
    orderedSingle size load ordered ≠ .undefined := by
  unfold orderedSingle
  split <;> exact bySize_defined size (by simp) (by simp) (by simp)

theorem compareSwapSingle_defined (size : BitVec 2) (acquire release : Bool) :
    compareSwapSingle size acquire release ≠ .undefined := by
  unfold compareSwapSingle
  split <;> exact bySize_defined size (by simp) (by simp) (by simp)

theorem regular_compareSwapPair : Regular .plain (compareSwapPair word) := by
  simp only [compareSwapPair]
  split
  · simp
  · split <;> simp

theorem regular_exclusive : Regular .plain (exclusive word) := by
  simp only [exclusive]
  split
  · split <;> simp [exclusiveSingle_defined]
  · simp only [regular_ite]
    refine ⟨fun _ => regular_compareSwapPair word, fun _ => ⟨fun _ => ?_, fun _ => ?_⟩⟩
    · split <;> simp
    · split <;> simp
  · simp [orderedSingle_defined]
  · simp [compareSwapSingle_defined]

theorem regular_releaseConsistent : Regular .plain (releaseConsistent word) := by
  unfold releaseConsistent releaseConsistent?
  split <;> rename_i h
  · split at h <;> cases h <;> simp
  · simp

theorem atomicLoad_defined (kind : AtomicKind) (acquire release : Bool) (size : AtomicSize) :
    atomicLoad kind acquire release size ≠ .undefined := by
  cases kind <;> cases acquire <;> cases release <;> cases size <;> simp [atomicLoad]

theorem atomicStore_defined (kind : AtomicKind) (release : Bool) (size : AtomicSize) :
    atomicStore kind release size ≠ .undefined := by
  cases kind <;> cases release <;> cases size <;> simp [atomicStore]

theorem atomicSwap_defined (acquire release : Bool) (size : AtomicSize) :
    atomicSwap acquire release size ≠ .undefined := by
  cases acquire <;> cases release <;> cases size <;> simp [atomicSwap]

theorem loadAcquire_defined (size : AtomicSize) : loadAcquire size ≠ .undefined := by
  cases size <;> simp [loadAcquire]

theorem regular_atomic : Regular .plain (atomic word) := by
  simp only [atomic]
  split
  · simp
  · split
    · simp [atomicLoad_defined, atomicStore_defined]
    · simp [atomicSwap_defined]
    · simp [loadAcquire_defined]
    · simp

theorem mnemonic?_defined {cls : AddressingClass} {access : Access} {op : Operation}
    (h : mnemonic? cls access = some op) : op ≠ .undefined := by
  cases cls <;> cases access <;> cases h <;> simp

@[simp ↓] theorem regular_prefetch {stack : Prop} {kind : OperandKind} (n : BitVec 5) :
    (prefetch n).Regular stack kind := by
  unfold prefetch
  split
  · rename_i r h
    have hfile := Register.inFile_prefetch? h
    simp only [Register.prefetch?, Option.ite_none_left_eq_some, Option.some.injEq] at h
    obtain ⟨-, rfl⟩ := h
    have hlt : _ < Register.stackNumber := Nat.lt_trans hfile (show 18 < 32 by decide)
    have hstack : Register.isStackPointer _ = false := decide_eq_false (Nat.ne_of_lt hlt)
    exact regular_plain hfile (by simp) (by simp [hstack])
  · simp

@[simp ↓] theorem regular_target {stack : Prop} {kind : OperandKind} (n : BitVec 5)
    (t : Target) : (t.operand n).Regular stack kind := by
  cases t <;> simp [Target.operand]

theorem regular_singleTransfer (cls : AddressingClass) {mode : Nat → AddressingMode}
    (h : ∀ log2, ∀ r ∈ (mode log2).registers, r.InFile ∧ r.isStackPointer = false) :
    Regular .plain (singleTransfer word cls mode) := by
  unfold singleTransfer
  split
  · simp
  · split
    · simp
    · split
      · have hop := mnemonic?_defined ‹_›
        simp [hop, regular_memory (h _)]
      · simp

theorem regular_signedOffset : Regular .plain (signedOffset word) := by
  simp only [signedOffset]
  split <;> exact regular_singleTransfer word _ (by simp [AddressingMode.registers])

theorem regular_unsignedOffset : Regular .plain (unsignedOffset word) :=
  regular_singleTransfer word _ (by simp [AddressingMode.registers])

theorem regular_registerOffset : Regular .plain (registerOffset word) := by
  have hindex : (if word.bit 13 then Register.x word.rm else Register.w word.rm).InFile ∧
      (if word.bit 13 then Register.x word.rm else Register.w word.rm).isStackPointer = false := by
    split <;> simp
  simp only [registerOffset, regular_ite]
  refine ⟨by simp, fun _ => regular_singleTransfer word _ fun log2 r hr => ?_⟩
  rw [List.mem_singleton.1 hr]
  exact hindex

theorem regular_authenticatedLoad : Regular .plain (authenticatedLoad word) := by
  simp only [authenticatedLoad]
  repeat' split
  all_goals simp

theorem regular_literal (address : Address) : Regular .label (literal word address) := by
  simp only [literal]
  split <;> simp

theorem regular_pair : Regular .plain (pair word) := by
  simp only [pair]
  repeat' split
  all_goals simp

@[simp ↓] theorem regular_structureMemory {stack : Prop} {kind : OperandKind} (count : Nat) :
    (memory word.rn (structureMode word count)).Regular stack kind := by
  refine regular_memory ?_
  unfold structureMode
  repeat' split
  all_goals simp [AddressingMode.registers]

theorem structureOperation_defined (load : Bool) (elements : BitVec 2) :
    structureOperation load elements ≠ .undefined := by
  unfold structureOperation
  split <;> simp

theorem replicateOperation_defined (elements : BitVec 2) :
    replicateOperation elements ≠ .undefined := by
  unfold replicateOperation
  split <;> simp

theorem structureShape?_count {opcode : BitVec 4} {count : Nat} {elements : BitVec 2}
    (h : structureShape? opcode = some (count, elements)) : 1 ≤ count ∧ count ≤ 4 := by
  unfold structureShape? at h
  split at h <;> cases h <;> simp

theorem regular_multipleStructures : Regular .vector (multipleStructures word) := by
  simp only [multipleStructures, regular_ite]
  refine ⟨by simp, fun _ => ⟨by simp, fun _ => ?_⟩⟩
  split
  · simp
  · have hcount := structureShape?_count ‹_›
    simp [structureOperation_defined, regular_vectorList _ _ hcount]

theorem regular_singleStructure : Regular .vector (singleStructure word) := by
  have hcount : 1 ≤ (word.field 13 1 ++ word.field 21 1).toNat + 1 ∧
      (word.field 13 1 ++ word.field 21 1).toNat + 1 ≤ 4 := by
    have := (word.field 13 1 ++ word.field 21 1).isLt
    omega
  simp only [singleStructure, regular_ite]
  refine ⟨by simp, fun _ => ⟨fun _ => ⟨by simp, fun _ => ?_⟩, fun _ => ?_⟩⟩
  · simp [replicateOperation_defined, regular_vectorList _ _ hcount]
  · split
    · simp
    · simp [structureOperation_defined, regular_vectorList _ _ hcount]

def MemoryClass.kind : MemoryClass → OperandKind
  | multipleStructures | singleStructure => .vector
  | literal => .label
  | exclusive | atomic | releaseConsistent | pair | unsignedOffset | signedOffset
  | registerOffset | authenticatedLoad => .plain

theorem regular_memoryClass (address : Address) (cls : MemoryClass) :
    Regular cls.kind (cls.meaning word address) := by
  cases cls with
  | multipleStructures => exact regular_multipleStructures word
  | singleStructure => exact regular_singleStructure word
  | exclusive => exact regular_exclusive word
  | atomic => exact regular_atomic word
  | releaseConsistent => exact regular_releaseConsistent word
  | literal => exact regular_literal word address
  | pair => exact regular_pair word
  | unsignedOffset => exact regular_unsignedOffset word
  | signedOffset => exact regular_signedOffset word
  | registerOffset => exact regular_registerOffset word
  | authenticatedLoad => exact regular_authenticatedLoad word

end A64.Decode
