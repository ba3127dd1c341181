import A64.Decode.Basic
import A64.Proofs.Printable

/-!
# Where an operand is the stack pointer

A field of value 31 is the zero register or the stack pointer, and the instruction decides.
`Operand.Resolves` says how the decision shows in an operand: the base of a memory operand is never
the zero register, its index never the stack pointer, and any other operand is the stack pointer
only where that is allowed. `Operation.TakesStack` lists the places where it is. Aliases drop
operands, so the places are those of the operands as they are printed.
-/

namespace A64

/-- The operation may have the stack pointer as its operand number `k`. -/
def Operation.TakesStack (op : Operation) (k : Nat) : Prop :=
  (op ∈ [add, sub, mov] ∧ k ≤ 1) ∨
  (op ∈ [adds, subs, braa, brab, blraa, blrab, pacia, pacib, pacda, pacdb, autia, autib, autda,
    autdb] ∧ k = 1) ∨
  (op ∈ [cmp, cmn, and, orr, eor] ∧ k = 0) ∨
  (op = pacga ∧ k = 2)

/-- Register number 31 is resolved as it should be: the base of a memory operand is a 64-bit
register or the stack pointer, its index is not the stack pointer, and another operand is the stack
pointer only if that is allowed. -/
def Operand.Resolves (allowed : Prop) : Operand → Prop
  | memory m =>
    m.base.file = .x ∧ m.base.isZero = false ∧ ∀ r ∈ m.mode.registers, r.isStackPointer = false
  | o => ∀ r ∈ o.registers, r.isStackPointer = true → allowed

/-- Register number 31 is resolved as the places of the operands ask. -/
def Decoded.Resolves (d : Decoded) : Prop :=
  ∀ k (o : Operand), d.operands[k]? = some o → o.Resolves (d.operation.TakesStack k)

theorem Operand.Resolves.mono {allowed allowed' : Prop} {o : Operand} (h : o.Resolves allowed)
    (himp : allowed → allowed') : o.Resolves allowed' := by
  cases o with
  | memory m => exact h
  | _ => exact fun r hr hsp => himp (h r hr hsp)

namespace Decode

@[simp] theorem isStackPointer_ofField (file : RegisterFile) (n : BitVec 5) :
    (Register.ofField file n).isStackPointer = false :=
  decide_eq_false (Nat.ne_of_lt n.isLt)

@[simp] theorem isStackPointer_x (n : BitVec 5) : (Register.x n).isStackPointer = false :=
  isStackPointer_ofField .x n

@[simp] theorem isStackPointer_w (n : BitVec 5) : (Register.w n).isStackPointer = false :=
  isStackPointer_ofField .w n

@[simp] theorem isStackPointer_v (n : BitVec 5) : (Register.v n).isStackPointer = false :=
  isStackPointer_ofField .v n

@[simp] theorem isStackPointer_gpr (sf : Bool) (n : BitVec 5) :
    (Register.gpr sf n).isStackPointer = false := by
  cases sf
  · exact isStackPointer_w n
  · exact isStackPointer_x n

@[simp] theorem isStackPointer_successor (r : Register) (step : Nat) :
    (r.successor step).isStackPointer = false :=
  decide_eq_false (Nat.ne_of_lt (Nat.mod_lt _ (by decide)))

@[simp] theorem isZero_xsp (n : BitVec 5) : (Register.xsp n).isZero = false := by
  have hnumber : (Register.xsp n).number ≠ Register.zeroNumber := by
    simp only [Register.xsp, Register.ofFieldOrStack]
    split
    · decide
    · rename_i h
      exact fun heq => h (BitVec.eq_of_toNat_eq heq)
  simp [Register.isZero, hnumber]

theorem resolves_of_registers_nil {allowed : Prop} {o : Operand} (hr : o.registers = []) :
    o.Resolves allowed := by
  cases o with
  | memory m => cases hr
  | _ => exact fun r hmem => absurd (hr ▸ hmem) List.not_mem_nil

end Decode

end A64
