import A64.Proofs.ControlWord
import A64.Proofs.ImmediateWord
import A64.Proofs.IntegerText
import A64.Proofs.MemoryWord
import A64.Proofs.Regular.Decode

/-!
# Transfers of structures

An access to structures names consecutive vectors, which wrap from number 31 to 0, and a lane of
each or none. Two decoders compute the number of vectors, the size of a structure, the lane and the
amount by which the base advances from different fields; `StructureTransfer` says how these belong
together. No other decoder yields an operation of these (`Decode.isStructure_of_structure?`).
-/

namespace A64

open Encoding

/-- The vectors that an operation on structures takes for each structure, and whether it replicates
one structure to all lanes. -/
def Operation.structure? : Operation → Option (Nat × Bool)
  | ld1 | st1 => some (1, false)
  | ld2 | st2 => some (2, false)
  | ld3 | st3 => some (3, false)
  | ld4 | st4 => some (4, false)
  | ld1r => some (1, true)
  | ld2r => some (2, true)
  | ld3r => some (3, true)
  | ld4r => some (4, true)
  | _ => none

namespace Decode

variable {word : Word} {address : Address} {d : Decoded}

def MemoryClass.IsStructure (cls : MemoryClass) : Prop :=
  cls = multipleStructures ∨ cls = singleStructure

instance (cls : MemoryClass) : Decidable cls.IsStructure := inferInstanceAs (Decidable (_ ∨ _))

theorem exists_operation {es : List Encoding} (h : Described es word d) :
    ∃ e ∈ es, e.operation = d.operation := by
  obtain ⟨e, he, hdescribes⟩ := h
  exact ⟨e, he, by rw [hdescribes.meaning]⟩

theorem mem_of_structure? {op : Operation} (h : op.structure? ≠ none) :
    op ∈ [Operation.ld1, .st1, .ld2, .st2, .ld3, .st3, .ld4, .st4, .ld1r, .ld2r, .ld3r, .ld4r] := by
  unfold Operation.structure? at h
  split at h
  case h_13 => exact absurd rfl h
  all_goals decide

/-- The assembler knows no operation on structures. -/
theorem assemble_structure {op : Operation} (h : op.structure? ≠ none) :
    assemble address op = fun _ => none := by
  have hmem := mem_of_structure? h
  simp only [List.mem_cons, List.not_mem_nil, or_false] at hmem
  rcases hmem with rfl | rfl | rfl | rfl | rfl | rfl | rfl | rfl | rfl | rfl | rfl | rfl
  all_goals rfl

theorem not_leavesBitsOut_structure {op : Operation} {os : List Operand}
    (h : op.structure? ≠ none) : ¬ LeavesBitsOut ⟨op, os⟩ := by
  have hmem := mem_of_structure? h
  simp only [List.mem_cons, List.not_mem_nil, or_false] at hmem
  rcases hmem with rfl | rfl | rfl | rfl | rfl | rfl | rfl | rfl | rfl | rfl | rfl | rfl
  all_goals exact id

theorem structure?_of_readsBack (h : ReadsBack address word d) : d.operation.structure? = none := by
  by_contra hne
  have hassembled := h.assembled
  rw [assemble_structure hne] at hassembled
  cases hassembled

theorem structure?_dataProcessingRegister
    (hgroup : Group.ofWord? word = some .dataProcessingRegister)
    (h : dataProcessingRegister word = .ok d) : d.operation.structure? = none := by
  by_cases hhigh : d.operation = .smulh ∨ d.operation = .umulh
  · rcases hhigh with hop | hop <;> rw [hop] <;> rfl
  · rw [not_or] at hhigh
    have hread : ReadsBack 0 word d := readsBack_dataProcessingRegister hgroup h hhigh
    exact structure?_of_readsBack hread

theorem structure?_logicalImmediate :
    Yields (fun d => d.operation.structure? = none) (logicalImmediate word) := by
  simp only [logicalImmediate, yields_ite]
  refine ⟨by simp, fun _ => ⟨by simp, fun _ => ?_⟩⟩
  repeat' split
  all_goals exact rfl

theorem structure?_dataProcessingImmediate
    (hgroup : Group.ofWord? word = some .dataProcessingImmediate)
    (h : dataProcessingImmediate word address = .ok d) : d.operation.structure? = none := by
  by_cases hclass : word.field 23 3 = 0b100
  · have hlogical : DataImmediateClass.ofWord word = .logical := by
      simp [DataImmediateClass.ofWord, hclass]
    simp only [dataProcessingImmediate, hlogical] at h
    exact yields_iff.1 structure?_logicalImmediate d h
  · exact structure?_of_readsBack (readsBack_dataProcessingImmediate hgroup hclass h)

theorem structure?_branchExceptionSystem
    (hgroup : Group.ofWord? word = some .branchExceptionSystem)
    (h : branchExceptionSystem word address = .ok d) : d.operation.structure? = none := by
  by_cases hflags : d.operation ∈ flagFormats
  · have hall : ∀ op ∈ flagFormats, op.structure? = none := by decide
    exact hall _ hflags
  · have hall : ∀ o ∈ (controlEncodings 0).map outline, o.1.structure? = none := by decide +kernel
    obtain ⟨e, he, hop⟩ := exists_operation (described_branchExceptionSystem hgroup h hflags)
    have houtline : e.outline ∈ (controlEncodings 0).map outline := by
      rw [← outline_controlEncodings address]
      exact List.mem_map_of_mem he
    rw [← hop]
    exact hall _ houtline

theorem structure?_dataProcessingVector (hgroup : Group.ofWord? word = some .dataProcessingVector)
    (h : dataProcessingVector word = .ok d) : d.operation.structure? = none := by
  by_cases himm : ImmediateWord word
  · have hall : ∀ e ∈ immediateEncodings, e.operation.structure? = none := by decide +kernel
    obtain ⟨e, he, hop⟩ := exists_operation (described_clear himm h)
    rw [← hop]
    exact hall e he
  · by_contra hne
    have hout : ¬ LeavesBitsOut d := not_leavesBitsOut_structure hne
    have hall : ∀ e ∈ vectorEncodings, e.operation.structure? = none := by decide +kernel
    obtain ⟨e, he, hop⟩ := exists_operation (described_dataProcessingVector hgroup himm h hout)
    rw [← hop] at hne
    exact hne (hall e he)

theorem structure?_exclusive :
    Yields (fun d => d.operation.structure? = none) (exclusive word) := by
  have hexclusive : ∀ size load ordered, (exclusiveSingle size load ordered).structure? = none := by
    decide
  have hordered : ∀ size load ordered, (orderedSingle size load ordered).structure? = none := by
    decide
  have hswap : ∀ size acquire release,
      (compareSwapSingle size acquire release).structure? = none := by
    decide
  simp only [exclusive]
  split
  · exact hexclusive _ _ _
  · simp only [compareSwapPair]
    repeat' split
    · exact yields_reserved _
    all_goals exact rfl
  · exact hordered _ _ _
  · exact hswap _ _ _

theorem structure?_memoryClass {cls : MemoryClass} (hw : HasFields cls.fixed word)
    (hcls : ¬ cls.IsStructure) (h : cls.meaning word address = .ok d) :
    d.operation.structure? = none := by
  by_cases hexclusive : cls = .exclusive
  · subst hexclusive
    exact yields_iff.1 structure?_exclusive d h
  · have hall : ∀ cls ∈ MemoryClass.readableClasses, ¬ cls.IsStructure →
        ∀ o ∈ (cls.encodings 0).map outline, o.1.structure? = none := by decide +kernel
    obtain ⟨e, he, hop⟩ := exists_operation (MemoryClass.described hw hexclusive h)
    have houtline : e.outline ∈ (cls.encodings 0).map outline := by
      rw [← cls.outline_encodings address]
      exact List.mem_map_of_mem he
    have hmem := MemoryClass.mem_readableClasses hexclusive
    rw [← hop]
    exact hall cls hmem hcls _ houtline

theorem isStructure_of_structure? {group : Group} (hgroup : Group.ofWord? word = some group)
    (h : meaning group word address = .ok d) (hop : d.operation.structure? ≠ none) :
    ∃ cls : MemoryClass, cls.IsStructure ∧ cls.meaning word address = .ok d := by
  cases group with
  | unallocated =>
    cases h
    exact absurd rfl hop
  | dataProcessingImmediate =>
    exact absurd (structure?_dataProcessingImmediate hgroup h) hop
  | branchExceptionSystem => exact absurd (structure?_branchExceptionSystem hgroup h) hop
  | dataProcessingRegister => exact absurd (structure?_dataProcessingRegister hgroup h) hop
  | dataProcessingVector => exact absurd (structure?_dataProcessingVector hgroup h) hop
  | loadStore =>
    simp only [meaning, loadStore] at h
    split at h
    · rename_i cls hcls
      by_contra hne
      have hstructure : ¬ cls.IsStructure := fun hs => hne ⟨cls, hs, h⟩
      exact hop (structure?_memoryClass (MemoryClass.hasFields hgroup hcls) hstructure h)
    · cases h

end Decode

/-! ### What belongs together -/

/-- The bytes that an access to the vectors transfers: all of each vector, or one element of each if
a lane is meant or one element is replicated. -/
def RegisterList.transferred (l : RegisterList) (replicate : Bool) : Nat :=
  if l.lane = none ∧ replicate = false then l.count * l.arrangement.bits / 8
  else l.count * l.arrangement.element.bits / 8

/-- The lane that the bits `Q`, `S` and `size` number, as far as the element leaves them. -/
inductive Word.SelectsLane (word : Word) : ElementSize → Nat → Prop
  | b : word.SelectsLane .b
      (8 * (word.field 30 1).toNat + 4 * (word.field 12 1).toNat + (word.field 10 2).toNat)
  | h : word.SelectsLane .h
      (4 * (word.field 30 1).toNat + 2 * (word.field 12 1).toNat + (word.field 11 1).toNat)
  | s : word.SelectsLane .s (2 * (word.field 30 1).toNat + (word.field 12 1).toNat)
  | d : word.SelectsLane .d (word.field 30 1).toNat

/-- The base advances by the bytes transferred or by a register, as the word says. -/
structure Advances (word : Word) (transferred : Nat) (mode : AddressingMode) : Prop where
  base : word.bit 23 = false → mode = .base
  postIndex : word.bit 23 = true → ∃ amount, mode = .postIndex amount ∧
    ((∃ offset, amount = .immediate offset) ↔ word.rm = 31)
  immediate : ∀ offset, mode = .postIndex (.immediate offset) → offset = transferred
  register : ∀ r, mode = .postIndex (.register r) →
    r = .x word.rm ∧ r.isZero = false ∧ r.isStackPointer = false

/-- The vectors, the lane and the addressing mode of an access to structures of `size` elements. -/
structure StructureTransfer (word : Word) (size : Nat) (replicate : Bool) (l : RegisterList)
    (mode : AddressingMode) : Prop where
  count : 1 ≤ l.count ∧ l.count ≤ 4
  registers : l.registers =
    (List.range l.count).map fun step => ⟨.v, (word.rt.toNat + step) % 32⟩
  whole : replicate = true ∨ l.lane ≠ none ∨ 1 < size → l.count = size
  lane : ∀ index, l.lane = some index → word.SelectsLane l.arrangement.element index
  advances : Advances word (l.transferred replicate) mode

/-- The operation accesses structures, and its operands are the vectors and the memory of a
transfer. -/
def Decoded.TransfersStructure (word : Word) (d : Decoded) : Prop :=
  ∃ size replicate l mode, d.operation.structure? = some (size, replicate) ∧
    d.operands = [.registerList l, .memory ⟨.xsp word.rn, mode⟩] ∧
    StructureTransfer word size replicate l mode

namespace Decode

variable (word : Word)

theorem registers_vectorList (n : BitVec 5) (count : Nat) (a : Arrangement) (lane : Option Nat) :
    RegisterList.registers ⟨.v n, count, a, lane⟩ =
      (List.range count).map fun step => ⟨.v, (n.toNat + step) % 32⟩ := by
  have hnumber : (Register.v n).encodedNumber = n.toNat :=
    if_neg (Nat.ne_of_lt n.isLt)
  refine List.map_congr_left fun step _ => ?_
  rw [Register.successor, hnumber]
  rfl

theorem advances_structureMode {bytes transferred : Nat} (h : bytes = transferred) :
    Advances word transferred (structureMode word bytes) := by
  subst h
  unfold structureMode
  split
  · rename_i h23
    exact ⟨fun _ => rfl, fun h => absurd (h23.symm.trans h) (by decide), nofun, nofun⟩
  · rename_i h23
    split
    · rename_i hrm
      refine ⟨fun h => absurd h h23, fun _ => ⟨_, rfl, by simp [hrm]⟩, ?_, nofun⟩
      rintro _ ⟨⟩
      rfl
    · rename_i hrm
      refine ⟨fun h => absurd h h23, fun _ => ⟨_, rfl, iff_of_false nofun hrm⟩, nofun, ?_⟩
      rintro _ ⟨⟩
      have hnumber : word.rm.toNat ≠ Register.zeroNumber :=
        fun h => hrm (BitVec.eq_of_toNat_eq h)
      exact ⟨rfl, by simp [Register.isZero, Register.x, Register.ofField, hnumber], by simp⟩

theorem structure?_structureOperation : ∀ (load : Bool) (elements : BitVec 2),
    (structureOperation load elements).structure? = some (elements.toNat + 1, false) := by
  decide

theorem structure?_replicateOperation : ∀ elements : BitVec 2,
    (replicateOperation elements).structure? = some (elements.toNat + 1, true) := by
  decide

/-- Structures of more than one element fill all vectors of an access. -/
theorem structureShape?_bounds : ∀ opcode : BitVec 4, ∀ shape ∈ structureShape? opcode,
    1 ≤ shape.1 ∧ shape.1 ≤ 4 ∧ (1 < shape.2.toNat + 1 → shape.1 = shape.2.toNat + 1) := by
  decide

theorem bits_full_ofField : ∀ (size : BitVec 2) (q : Bool),
    (Arrangement.full (.ofField size) q).bits = if q then 128 else 64 := by
  decide

theorem transfersStructure_multiple :
    Yields (Decoded.TransfersStructure word) (multipleStructures word) := by
  simp only [multipleStructures, yields_ite]
  refine ⟨by simp, fun _ => ⟨by simp, fun _ => ?_⟩⟩
  split
  · simp
  · rename_i count elements hshape
    obtain ⟨hpos, hle, hwhole⟩ := structureShape?_bounds _ _ hshape
    rw [yields_ite]
    refine ⟨by simp, fun _ => ?_⟩
    have hop := structure?_structureOperation (word.bit 22) elements
    refine ⟨_, _, _, _, hop, rfl, ⟨hpos, hle⟩, registers_vectorList .., ?_, nofun,
      advances_structureMode word ?_⟩
    · rintro (h | h | h)
      · cases h
      · exact absurd rfl h
      · exact hwhole h
    · simp only [RegisterList.transferred, bits_full_ofField, and_self, if_true]
      split <;> omega

theorem selectsLane_structureLane {e : ElementSize} {index : Nat}
    (h : structureLane word = .ok (e, index)) : word.SelectsLane e index := by
  have hone : ∀ (q s : BitVec 1) (size : BitVec 2),
      (q ++ s ++ size).toNat = 8 * q.toNat + 4 * s.toNat + size.toNat := by decide
  have htwo : ∀ q s size : BitVec 1,
      (q ++ s ++ size).toNat = 4 * q.toNat + 2 * s.toNat + size.toNat := by decide
  have hfour : ∀ q s : BitVec 1, (q ++ s).toNat = 2 * q.toNat + s.toNat := by decide
  simp only [structureLane, hone, htwo, hfour] at h
  repeat' split at h
  all_goals cases h
  · exact .b
  · exact .h
  · exact .s
  · exact .d

theorem bits_eq_bytes (e : ElementSize) (count : Nat) :
    count * bytes e.log2 = count * e.bits / 8 := by
  cases e <;> simp only [bytes, ElementSize.log2, ElementSize.bits] <;> omega

theorem transfersStructure_single :
    Yields (Decoded.TransfersStructure word) (singleStructure word) := by
  have hcount : 1 ≤ (word.field 13 1 ++ word.field 21 1).toNat + 1 ∧
      (word.field 13 1 ++ word.field 21 1).toNat + 1 ≤ 4 :=
    ⟨Nat.le_add_left .., (word.field 13 1 ++ word.field 21 1).isLt⟩
  have hlog2 : ∀ size : BitVec 2, size.toNat = (ElementSize.ofField size).log2 := by decide
  simp only [singleStructure]
  repeat' split
  · simp
  · simp
  · have hop := structure?_replicateOperation (word.field 13 1 ++ word.field 21 1)
    refine ⟨_, _, _, _, hop, rfl, hcount, registers_vectorList .., fun _ => rfl, ?_,
      advances_structureMode word ?_⟩
    · intro _ hlane
      exact absurd hlane.symm (Option.some_ne_none _)
    · rw [hlog2 (word.field 10 2)]
      exact bits_eq_bytes _ _
  · simp
  · refine ⟨_, _, _, _, structure?_structureOperation _ _, rfl, hcount, registers_vectorList ..,
      fun _ => rfl, ?_, advances_structureMode word (bits_eq_bytes _ _)⟩
    rintro _ ⟨⟩
    exact selectsLane_structureLane word ‹_›

end Decode

/-- An access to structures names consecutive vectors, as many as a structure has elements where the
elements are interleaved, its lane is the one that the word numbers, and its base advances by the
bytes transferred or by a register that is neither the zero register nor the stack pointer. -/
theorem decode_transfersStructure {word : Word} {address : Address} {i : Instruction}
    (h : decode word address = .ok i) (hop : i.operation.structure? ≠ none) :
    Decoded.TransfersStructure word ⟨i.operation, i.operands.toList⟩ := by
  refine holds_of_decode (P := fun d => d.operation.structure? ≠ none → d.TransfersStructure word)
    (fun group hgroup => Decode.yields_iff.2 fun d hd hop => ?_) h hop
  obtain ⟨cls, hcls, hmeaning⟩ := Decode.isStructure_of_structure? hgroup hd hop
  rcases hcls with rfl | rfl
  · exact Decode.yields_iff.1 (Decode.transfersStructure_multiple word) d hmeaning
  · exact Decode.yields_iff.1 (Decode.transfersStructure_single word) d hmeaning

/-- A load of one lane of four vectors, which wrap from number 31 to 0, and which advances its base
by the four bytes that it transfers. -/
theorem loadLanes_transfersStructure :
    ∃ i : Instruction, decode 0x4dff3c3e 0 = .ok i ∧ i.operation.structure? ≠ none ∧
      i.operands.toList = [Decode.vectorList 30 4 (.single .b) (some 15),
        Decode.memory 1 (.postIndex (.immediate 4))] ∧
      Decoded.TransfersStructure 0x4dff3c3e ⟨i.operation, i.operands.toList⟩ := by
  have h : decode 0x4dff3c3e 0 = .ok ⟨0x4dff3c3e, 0, .loadStore, .ld4,
      .ofList [Decode.vectorList 30 4 (.single .b) (some 15),
        Decode.memory 1 (.postIndex (.immediate 4))]⟩ := by
    decide +kernel
  exact ⟨_, h, by decide, rfl, decode_transfersStructure h (by decide)⟩

end A64
