import A64.Proofs.RegisterName
import A64.Text

/-!
# Operands that have a text

`Operand.Printable`: every register that the operand mentions is one of its file, and the parts of
the operand fit together. These are the conditions under which rendering does not fail, whatever
base its numbers are printed in.
-/

namespace A64

/-- The registers of an addressing mode, the base apart. -/
def AddressingMode.registers : AddressingMode → List Register
  | .postIndex (.register r) => [r]
  | .extended index _ => [index]
  | _ => []

namespace Operand

def registers : Operand → List Register
  | register r => [r.register]
  | registerList l => l.registers
  | memory m => m.base :: m.mode.registers
  | _ => []

/-- The parts of the operand fit together: only vectors have an arrangement, a lane needs an
element and a single element a lane, a list has one to four members, and a memory operand has a
64-bit base. -/
def Fits : Operand → Prop
  | register ⟨_, none, lane, _⟩ => lane = none
  | register ⟨r, some a, lane, _⟩ => r.file = .v ∧ (a.lanes = 0 → lane ≠ none)
  | registerList l => 1 ≤ l.count ∧ l.count ≤ 4
  | memory m => m.base.file = .x
  | _ => True

/-- The conditions under which an operand has a text. -/
structure Printable (o : Operand) : Prop where
  inFile : ∀ r ∈ o.registers, r.InFile
  fits : o.Fits

end Operand

namespace Text

theorem exists_registerName {r : Register} (h : r.InFile) : ∃ name, registerName r = .ok name := by
  obtain ⟨name, hname⟩ := h.exists_name
  exact ⟨name, by rw [registerName, hname]⟩

theorem exists_mapM_registerName {rs : List Register} (h : ∀ r ∈ rs, r.InFile) :
    ∃ names, rs.mapM registerName = .ok names := by
  induction rs with
  | nil => exact ⟨[], rfl⟩
  | cons r rs ih =>
    obtain ⟨name, hname⟩ := exists_registerName (h r (by simp))
    obtain ⟨names, hnames⟩ := ih fun r' hr' => h r' (by simp [hr'])
    exact ⟨name :: names, by rw [List.mapM_cons, hname, hnames]; rfl⟩

theorem exists_register {r : RegisterOperand} (h : (Operand.register r).Printable) :
    ∃ text, register r = .ok text := by
  obtain ⟨name, hname⟩ := exists_registerName (h.inFile r.register (by simp [Operand.registers]))
  have hsuffix : ∃ suffix, vectorSuffix r = .ok suffix := by
    obtain ⟨reg, arrangement, lane, shift⟩ := r
    cases arrangement with
    | none =>
      have hlane : lane = none := h.fits
      exact ⟨"", by simp [vectorSuffix, hlane]⟩
    | some a =>
      obtain ⟨hfile, hlane⟩ := h.fits
      have hlone : ¬(a.lanes = 0 ∧ lane = none) := fun ⟨h0, hn⟩ => hlane h0 hn
      exact ⟨"." ++ arrangement a ++ laneSuffix lane, by simp [vectorSuffix, hfile, hlone]⟩
  obtain ⟨suffix, hsuffix⟩ := hsuffix
  exact ⟨_, by rw [register, hname, hsuffix]; rfl⟩

theorem exists_registerList {l : RegisterList} (h : (Operand.registerList l).Printable) :
    ∃ text, registerList l = .ok text := by
  obtain ⟨names, hnames⟩ := exists_mapM_registerName h.inFile
  have hcount : ¬(l.count = 0 ∨ 4 < l.count) := by
    have hfit : 1 ≤ l.count ∧ l.count ≤ 4 := h.fits
    omega
  have hregs : l.registers.mapM registerName = .ok names := hnames
  exact ⟨_, by rw [registerList, if_neg hcount, hregs]; rfl⟩

theorem exists_mode {m : AddressingMode} (decimal : Bool) (h : ∀ r ∈ m.registers, r.InFile) :
    ∃ text, mode decimal m = .ok text := by
  rcases m with _ | offset | (offset | r) | offset | ⟨index, shift⟩
  · exact ⟨_, rfl⟩
  · exact ⟨_, rfl⟩
  · exact ⟨_, rfl⟩
  · obtain ⟨name, hname⟩ := exists_registerName (h r (by simp [AddressingMode.registers]))
    exact ⟨_, by rw [mode, hname]; rfl⟩
  · exact ⟨_, rfl⟩
  · obtain ⟨name, hname⟩ := exists_registerName (h index (by simp [AddressingMode.registers]))
    exact ⟨_, by rw [mode, hname]; rfl⟩

theorem exists_memory {m : MemoryOperand} (decimal : Bool) (h : (Operand.memory m).Printable) :
    ∃ text, memory decimal m = .ok text := by
  have hbase : m.base.file = .x := h.fits
  obtain ⟨name, hname⟩ := exists_registerName (h.inFile m.base (by simp [Operand.registers]))
  obtain ⟨text, htext⟩ := exists_mode (m := m.mode) decimal fun r hr =>
    h.inFile r (by simp [Operand.registers, hr])
  exact ⟨_, by rw [memory, if_neg (by simp [hbase]), hname, htext]; rfl⟩

theorem exists_operand {o : Operand} (decimal : Bool) (h : o.Printable) :
    ∃ text, operand decimal o = .ok text := by
  cases o with
  | register r => exact exists_register h
  | registerList l => exact exists_registerList h
  | memory m => exact exists_memory decimal h
  | _ => exact ⟨_, rfl⟩

theorem exists_operands {os : List Operand} (decimal : Bool) (mnemonic : String) (index : Nat)
    (h : ∀ o ∈ os, o.Printable) :
    ∃ texts, operands decimal mnemonic index (os.map some) = .ok texts := by
  induction os generalizing index with
  | nil => exact ⟨[], rfl⟩
  | cons o os ih =>
    obtain ⟨text, htext⟩ := exists_operand decimal (h o (by simp))
    obtain ⟨texts, htexts⟩ := ih (index + 1) fun o' ho' => h o' (by simp [ho'])
    exact ⟨text :: texts, by simp only [List.map_cons, operands, slot, htext, htexts]; rfl⟩

end Text

/-- An instruction with a meaning and printable operands has a text. -/
theorem Instruction.exists_render {i : Instruction} {os : List Operand} (decimal : Bool)
    (hop : i.operation ≠ .undefined) (hos : i.operands.used = os.map some)
    (h : ∀ o ∈ os, o.Printable) : ∃ text, i.render decimal = .ok text := by
  obtain ⟨texts, htexts⟩ := Text.exists_operands decimal i.mnemonic 0 h
  have hdef : i.isUndefined = false := by simp [isUndefined, hop]
  exact ⟨Text.line i.mnemonic texts, by rw [render, hdef, hos, htexts]; rfl⟩

end A64
