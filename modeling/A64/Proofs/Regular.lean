import A64.Decode.Vector.Basic
import A64.Proofs.StackPointer
import A64.Proofs.Yields

/-!
# Regular meanings

`Operand.Regular` collects what holds of all operands that decoders build: they have a text, they
resolve register number 31 as their place asks, and they name vectors or an address only in the
classes that have such operands (`OperandKind`). `Decode.Regular` asks this of the operands that a
decoder yields, that they fit into a row, and that the operation has a text. The facts about the
operands are `simp` lemmas, so a decoder is regular as soon as its operations are defined and the
stack pointer stands where they take it; one lemma for each decoder, in the modules beside this one,
is what the properties of all words are read off.
-/

namespace A64

/-- What a class of instructions has as operands beside registers, immediates and memory. -/
inductive OperandKind where
  /-- Nothing else; the registers are general-purpose ones and scalars. -/
  | plain
  | vector
  | label

namespace Operand

def isLabel : Operand → Bool
  | label _ => true
  | _ => false

/-- The operand has a text, and it is no address. -/
structure Absolute (o : Operand) : Prop where
  printable : o.Printable
  isLabel : o.isLabel = false

def Undivided : Operand → Prop
  | register r => r.register.file ≠ .v ∧ r.arrangement = none ∧ r.lane = none
  | registerList _ => False
  | _ => True

/-- The operand has a text, is the stack pointer only if that is allowed, and is a vector or an
address only if its kind says so. -/
structure Regular (stack : Prop) (kind : OperandKind) (o : Operand) : Prop where
  printable : o.Printable
  resolves : o.Resolves stack
  undivided : kind ≠ .vector → o.Undivided
  isLabel : kind ≠ .label → o.isLabel = false

variable {stack stack' : Prop} {kind kind' : OperandKind} {o : Operand}

theorem Regular.absolute (h : o.Regular stack kind) (hkind : kind ≠ .label) : o.Absolute :=
  ⟨h.printable, h.isLabel hkind⟩

/-- An operand that is no stack pointer may stand where one is allowed, and a plain one in every
class. -/
theorem Regular.mono (h : o.Regular stack kind) (hstack : stack → stack')
    (hkind : kind = kind' ∨ kind = .plain) : o.Regular stack' kind' where
  printable := h.printable
  resolves := h.resolves.mono hstack
  undivided := fun hne => by
    rcases hkind with rfl | rfl
    · exact h.undivided hne
    · exact h.undivided nofun
  isLabel := fun hne => by
    rcases hkind with rfl | rfl
    · exact h.isLabel hne
    · exact h.isLabel nofun

end Operand

/-- An operation with a text on at most five absolute operands. -/
structure Decoded.Absolute (d : Decoded) : Prop where
  defined : d.operation ≠ .undefined
  fits : d.operands.length ≤ Operands.capacity
  operands : ∀ o ∈ d.operands, o.Absolute

def Decoded.Undivided (d : Decoded) : Prop := ∀ o ∈ d.operands, o.Undivided

/-- The operands are regular in the places of the operation from number `k` on. -/
def Operation.RegularFrom (op : Operation) (kind : OperandKind) : Nat → List Operand → Prop
  | _, [] => True
  | k, o :: os => o.Regular (op.TakesStack k) kind ∧ op.RegularFrom kind (k + 1) os

structure Decoded.Regular (kind : OperandKind) (d : Decoded) : Prop where
  defined : d.operation ≠ .undefined
  fits : d.operands.length ≤ Operands.capacity
  operands : d.operation.RegularFrom kind 0 d.operands

section

variable {op : Operation} {kind kind' : OperandKind} {k : Nat} {o : Operand} {os : List Operand}

theorem Operation.RegularFrom.getElem (h : op.RegularFrom kind k os) {i : Nat}
    (ho : os[i]? = some o) : o.Regular (op.TakesStack (k + i)) kind := by
  induction os generalizing k i with
  | nil => cases ho
  | cons o' os ih =>
    obtain ⟨ho', hos⟩ := h
    cases i with
    | zero =>
      cases ho
      exact ho'
    | succ i =>
      -- The tail begins one place further on, so the place of the operand is the same.
      have hplace : k + (i + 1) = k + 1 + i := by omega
      rw [hplace]
      exact ih hos ho

theorem Operation.regularFrom_of_stackless (h : ∀ o ∈ os, o.Regular False kind) :
    op.RegularFrom kind k os := by
  induction os generalizing k with
  | nil => trivial
  | cons o os ih =>
    obtain ⟨ho, hos⟩ := List.forall_mem_cons.1 h
    exact ⟨ho.mono False.elim (.inl rfl), ih hos⟩

theorem Operation.RegularFrom.mono (h : op.RegularFrom kind k os)
    (hkind : kind = kind' ∨ kind = .plain) : op.RegularFrom kind' k os := by
  induction os generalizing k with
  | nil => trivial
  | cons o os ih =>
    obtain ⟨ho, hos⟩ := h
    exact ⟨ho.mono id hkind, ih hos⟩

end

namespace Decoded.Regular

variable {kind : OperandKind} {d : Decoded} (h : d.Regular kind)

include h

theorem mono {kind' : OperandKind} (hkind : kind = kind' ∨ kind = .plain) : d.Regular kind' where
  defined := h.defined
  fits := h.fits
  operands := h.operands.mono hkind

theorem exists_regular {o : Operand} (ho : o ∈ d.operands) : ∃ stack, o.Regular stack kind := by
  obtain ⟨k, hk⟩ := List.getElem?_of_mem ho
  exact ⟨_, h.operands.getElem hk⟩

theorem absolute (hkind : kind ≠ .label) : d.Absolute where
  defined := h.defined
  fits := h.fits
  operands := fun _ ho => (h.exists_regular ho).elim fun _ hregular => hregular.absolute hkind

theorem undivided (hkind : kind ≠ .vector) : d.Undivided :=
  fun _ ho => (h.exists_regular ho).elim fun _ hregular => hregular.undivided hkind

theorem resolves : d.Resolves := by
  intro k o ho
  simpa using (h.operands.getElem ho).resolves

end Decoded.Regular

namespace Decode

/-- What the decoder yields, if anything, is absolute. -/
def Absolute : Decoding → Prop
  | .ok d => d.Absolute
  | .error _ => True

abbrev Regular (kind : OperandKind) : Decoding → Prop := Yields (Decoded.Regular kind)

variable {stack : Prop} {kind : OperandKind} {n : BitVec 5} {sf : Bool}

theorem regular_mono {kind' : OperandKind} {r : Decoding} (h : Regular kind r)
    (hkind : kind = kind' ∨ kind = .plain) : Regular kind' r :=
  h.mono fun _ hd => hd.mono hkind

theorem regular_of_plain {r : Decoding} (h : Regular .plain r) : Regular kind r :=
  regular_mono h (.inr rfl)

theorem absolute_reserved (reason : Reserved) : Absolute (reserved reason) := trivial

theorem absolute_of_regular {r : Decoding} (h : Regular kind r) (hkind : kind ≠ .label) :
    Absolute r := by
  cases r with
  | error reason => trivial
  | ok d => exact Decoded.Regular.absolute h hkind

section

variable {op : Operation} {k : Nat} {o : Operand} {os : List Operand}

@[simp ↓] theorem regular_mk : Decoded.Regular kind ⟨op, os⟩ ↔
    op ≠ .undefined ∧ os.length ≤ 5 ∧ op.RegularFrom kind 0 os :=
  ⟨fun h => ⟨h.defined, h.fits, h.operands⟩, fun ⟨h₁, h₂, h₃⟩ => ⟨h₁, h₂, h₃⟩⟩

@[simp ↓] theorem regular_done : Regular kind (done op os) ↔
    op ≠ .undefined ∧ os.length ≤ 5 ∧ op.RegularFrom kind 0 os :=
  regular_mk

@[simp ↓] theorem regular_ite {c : Prop} [Decidable c] (a b : Decoding) :
    Regular kind (if c then a else b) ↔ (c → Regular kind a) ∧ (¬c → Regular kind b) :=
  yields_ite a b

@[simp ↓] theorem regularFrom_nil : op.RegularFrom kind k [] := trivial

@[simp ↓] theorem regularFrom_cons : op.RegularFrom kind k (o :: os) ↔
    o.Regular (op.TakesStack k) kind ∧ op.RegularFrom kind (k + 1) os := Iff.rfl

@[simp ↓] theorem regular_forall_cons :
    (∀ o' ∈ o :: os, o'.Regular stack kind) ↔
      o.Regular stack kind ∧ ∀ o' ∈ os, o'.Regular stack kind :=
  List.forall_mem_cons

@[simp ↓] theorem regular_ite_operand {c : Prop} [Decidable c] (o o' : Operand) :
    (if c then o else o').Regular stack kind ↔
      (c → o.Regular stack kind) ∧ (¬c → o'.Regular stack kind) := by
  split <;> simp [*]

end

theorem regular_register {r : Register} (hfile : r.InFile) (hv : r.file ≠ .v)
    (hstack : r.isStackPointer = true → stack) (shift : Option Shift) :
    (Operand.register ⟨r, none, none, shift⟩).Regular stack kind where
  printable := ⟨by simpa [Operand.registers] using hfile, rfl⟩
  resolves := by
    rintro _ hr hsp
    obtain rfl := List.mem_singleton.1 hr
    exact hstack hsp
  undivided := fun _ => ⟨hv, rfl, rfl⟩
  isLabel := fun _ => rfl

theorem regular_plain {r : Register} (hfile : r.InFile) (hv : r.file ≠ .v)
    (hstack : r.isStackPointer = true → stack) : (plain r).Regular stack kind :=
  regular_register hfile hv hstack none

theorem file_gpr : (Register.gpr sf n).file ≠ .v := by cases sf <;> nofun

theorem regular_gpr_shift (shift : Option Shift) :
    (Operand.register ⟨.gpr sf n, none, none, shift⟩).Regular stack kind :=
  regular_register (by simp) file_gpr (by simp) shift

@[simp ↓] theorem regular_gpr : (gpr sf n).Regular stack kind := regular_gpr_shift none

@[simp ↓] theorem regular_w : (w n).Regular stack kind := regular_plain (by simp) nofun (by simp)

@[simp ↓] theorem regular_x : (x n).Regular stack kind := regular_plain (by simp) nofun (by simp)

@[simp ↓] theorem regular_shiftedGpr (shiftKind : ShiftKind) (amount : Nat) :
    (shiftedGpr sf n shiftKind amount).Regular stack kind := by
  unfold shiftedGpr
  split
  · exact regular_gpr
  · exact regular_gpr_shift _

@[simp ↓] theorem regular_gprOrStack (h : stack) : (gprOrStack sf n).Regular stack kind :=
  regular_plain (by simp) (by cases sf <;> nofun) fun _ => h

@[simp ↓] theorem regular_xsp (h : stack) : (xsp n).Regular stack kind :=
  regular_plain (by simp) nofun fun _ => h

@[simp ↓] theorem regular_scalar (e : ElementSize) : (scalar e n).Regular stack kind :=
  regular_plain (by simp) (by cases e <;> nofun) (by simp)

theorem regular_vectorRegister {a : Arrangement} {index : Option Nat}
    (h : a.lanes = 0 → index ≠ none) :
    (Operand.register ⟨.v n, some a, index, none⟩).Regular stack .vector where
  printable := ⟨by simp [Operand.registers], rfl, h⟩
  resolves := by
    rintro _ hr hsp
    obtain rfl := List.mem_singleton.1 hr
    simp at hsp
  undivided := nofun
  isLabel := fun _ => rfl

theorem lanes_full (e : ElementSize) (q : Bool) : (Arrangement.full e q).lanes ≠ 0 :=
  Nat.ne_of_gt (Nat.le_max_left ..)

theorem regular_arranged {a : Arrangement} (h : a.lanes ≠ 0) :
    (arranged n a).Regular stack .vector :=
  regular_vectorRegister fun h0 => absurd h0 h

@[simp ↓] theorem regular_vector (e : ElementSize) (q : Bool) :
    (vector n e q).Regular stack .vector :=
  regular_arranged (lanes_full e q)

@[simp ↓] theorem regular_lane (e : ElementSize) (index : Nat) :
    (lane n e index).Regular stack .vector :=
  regular_vectorRegister (by simp)

@[simp ↓] theorem regular_laneGroup (a : Arrangement) (index : Nat) :
    (laneGroup n a index).Regular stack .vector :=
  regular_vectorRegister (by simp)

theorem regular_vectorList {count : Nat} (a : Arrangement) (index : Option Nat)
    (h : 1 ≤ count ∧ count ≤ 4) : (vectorList n count a index).Regular stack .vector := by
  have hregisters : ∀ r ∈ (vectorList n count a index).registers,
      r.InFile ∧ r.isStackPointer = false := by
    intro r hr
    obtain ⟨step, -, rfl⟩ := List.mem_map.1 hr
    exact ⟨Register.inFile_successor (r := .v n) (Nat.le_refl 32) step,
      isStackPointer_successor _ step⟩
  exact ⟨⟨fun r hr => (hregisters r hr).1, h⟩,
    fun r hr hsp => absurd hsp (by simp [hregisters r hr]), nofun, fun _ => rfl⟩

theorem regular_of_registers_nil {o : Operand} (hr : o.registers = []) (hf : o.Fits)
    (hu : o.Undivided) (hl : o.isLabel = false) : o.Regular stack kind where
  printable := ⟨by simp [hr], hf⟩
  resolves := resolves_of_registers_nil hr
  undivided := fun _ => hu
  isLabel := fun _ => hl

section Immediates

variable {m : Nat} (value : BitVec m)

@[simp ↓] theorem regular_imm : (imm value).Regular stack kind :=
  regular_of_registers_nil rfl trivial trivial rfl

@[simp ↓] theorem regular_immNat (value : Nat) : (immNat value).Regular stack kind :=
  regular_imm _

@[simp ↓] theorem regular_immDecimal (value : Nat) : (immDecimal value).Regular stack kind :=
  regular_of_registers_nil rfl trivial trivial rfl

@[simp ↓] theorem regular_imm64 (value : BitVec 64) : (imm64 value).Regular stack kind :=
  regular_of_registers_nil rfl trivial trivial rfl

@[simp ↓] theorem regular_immShift (shift : Shift) : (immShift value shift).Regular stack kind :=
  regular_of_registers_nil rfl trivial trivial rfl

@[simp ↓] theorem regular_immLsl (amount : Nat) : (immLsl value amount).Regular stack kind := by
  unfold immLsl
  split
  · exact regular_imm value
  · exact regular_immShift value _

@[simp ↓] theorem regular_signed32 (value : BitVec 32) : (signed32 value).Regular stack kind :=
  regular_of_registers_nil rfl trivial trivial rfl

@[simp ↓] theorem regular_signed64 (value : BitVec 64) : (signed64 value).Regular stack kind :=
  regular_of_registers_nil rfl trivial trivial rfl

@[simp ↓] theorem regular_float (bits : BitVec 32) : (Operand.float bits).Regular stack kind :=
  regular_of_registers_nil rfl trivial trivial rfl

end Immediates

@[simp ↓] theorem regular_condition (c : Condition) :
    (Operand.condition c).Regular stack kind :=
  regular_of_registers_nil rfl trivial trivial rfl

@[simp ↓] theorem regular_systemRegister (r : SystemRegister) :
    (Operand.systemRegister r).Regular stack kind :=
  regular_of_registers_nil rfl trivial trivial rfl

@[simp ↓] theorem regular_systemEncoding (e : SystemEncoding) :
    (Operand.systemEncoding e).Regular stack kind :=
  regular_of_registers_nil rfl trivial trivial rfl

@[simp ↓] theorem regular_label (address : Address) (offset : Int) :
    (label address offset).Regular stack .label where
  printable := ⟨nofun, trivial⟩
  resolves := resolves_of_registers_nil rfl
  undivided := fun _ => trivial
  isLabel := fun h => absurd rfl h

theorem regular_memory {mode : AddressingMode}
    (h : ∀ r ∈ mode.registers, r.InFile ∧ r.isStackPointer = false) :
    (memory n mode).Regular stack kind where
  printable := by
    refine ⟨fun r hr => ?_, rfl⟩
    rcases List.mem_cons.1 hr with rfl | hr
    · exact Register.inFile_xsp n
    · exact (h r hr).1
  resolves := ⟨rfl, isZero_xsp n, fun r hr => (h r hr).2⟩
  undivided := fun _ => trivial
  isLabel := fun _ => rfl

@[simp ↓] theorem regular_offset (offset : Int) :
    (memory n (.offset offset)).Regular stack kind :=
  regular_memory nofun

@[simp ↓] theorem regular_preIndex (offset : Int) :
    (memory n (.preIndex offset)).Regular stack kind :=
  regular_memory nofun

@[simp ↓] theorem regular_postIndex (offset : Int) :
    (memory n (.postIndex (.immediate offset))).Regular stack kind :=
  regular_memory nofun

@[simp ↓] theorem regular_memoryBase : (memoryBase n).Regular stack kind := regular_memory nofun

@[simp ↓] theorem regular_memoryOffset (offset : Int) :
    (memoryOffset n offset).Regular stack kind :=
  regular_memory nofun

end Decode

end A64
