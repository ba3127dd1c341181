import A64.DecodeError
import A64.Operand
import A64.Operation.Basic

/-!
What decoding an encoding class yields, and the operands that the classes build from their fields.
-/

namespace A64

/-- The meaning of a word: an operation and its operands. -/
structure Decoded where
  operation : Operation
  operands : List Operand
  deriving DecidableEq

/-- The meaning of a word, or the rule that the word breaks. -/
abbrev Decoding := Except Reserved Decoded

namespace Decode

/-- A word that means the given operation on the given operands. -/
def done (operation : Operation) (operands : List Operand) : Decoding :=
  .ok ⟨operation, operands⟩

/-- A word that breaks a rule. -/
def reserved (reason : Reserved) : Decoding := .error reason

/-- A register as an operand. -/
def plain (r : Register) : Operand := .register ⟨r, none, none, none⟩

/-- A register with a shift or an extension. -/
def shifted (r : Register) (shift : Shift) : Operand := .register ⟨r, none, none, some shift⟩

/-- A register of the width that `sf` selects, or the zero register. -/
def gpr (sf : Bool) (n : BitVec 5) : Operand := plain (.gpr sf n)

/-- A register of the width that `sf` selects, or the stack pointer. -/
def gprOrStack (sf : Bool) (n : BitVec 5) : Operand := plain (.gprOrStack sf n)

/-- A 32-bit register or the zero register. -/
def w (n : BitVec 5) : Operand := plain (.w n)

/-- A 64-bit register or the zero register. -/
def x (n : BitVec 5) : Operand := plain (.x n)

/-- A 64-bit register or the stack pointer. -/
def xsp (n : BitVec 5) : Operand := plain (.xsp n)

/-- A shifted register; a shift to the left by nothing is not written. -/
def shiftedGpr (sf : Bool) (n : BitVec 5) (kind : ShiftKind) (amount : Nat) : Operand :=
  if kind = .lsl ∧ amount = 0 then gpr sf n else shifted (.gpr sf n) (.ofAmount kind amount)

/-! ### Vector registers -/

/-- A scalar of the given size. -/
def scalar (e : ElementSize) (n : BitVec 5) : Operand := plain (.ofField e.file n)

/-- A vector with an arrangement. -/
def arranged (n : BitVec 5) (a : Arrangement) : Operand := .register ⟨.v n, some a, none, none⟩

/-- A vector whose elements fill 64 bits, or 128 if `q` is set. -/
def vector (n : BitVec 5) (e : ElementSize) (q : Bool) : Operand := arranged n (.full e q)

/-- A lane of a vector. -/
def lane (n : BitVec 5) (e : ElementSize) (index : Nat) : Operand :=
  .register ⟨.v n, some (.single e), some index, none⟩

/-- A lane of a vector that is divided into groups. -/
def laneGroup (n : BitVec 5) (a : Arrangement) (index : Nat) : Operand :=
  .register ⟨.v n, some a, some index, none⟩

/-- Consecutive vectors. -/
def vectorList (first : BitVec 5) (count : Nat) (a : Arrangement) (lane : Option Nat) : Operand :=
  .registerList ⟨.v first, count, a, lane⟩

/-- The number of bytes with the given logarithm. -/
def bytes (log2 : Nat) : Nat := 1 <<< log2

/-- An unsigned immediate. -/
def imm {n : Nat} (value : BitVec n) : Operand := .imm32 ⟨value.setWidth 64, false, none, false⟩

/-- An unsigned immediate that is computed. -/
def immNat (value : Nat) : Operand := imm (BitVec.ofNat 64 value)

/-- An unsigned immediate that is always printed in decimal. -/
def immDecimal (value : Nat) : Operand := .imm32 ⟨BitVec.ofNat 64 value, false, none, true⟩

/-- An unsigned immediate of 64 bits. -/
def imm64 (value : BitVec 64) : Operand := .imm64 ⟨value, false, none, false⟩

/-- An unsigned immediate with a shift. -/
def immShift {n : Nat} (value : BitVec n) (shift : Shift) : Operand :=
  .imm32 ⟨value.setWidth 64, false, some shift, false⟩

/-- An unsigned immediate shifted to the left; a shift by nothing is not written. -/
def immLsl {n : Nat} (value : BitVec n) (amount : Nat) : Operand :=
  if amount = 0 then imm value else immShift value (.lsl amount)

/-- A signed immediate of 32 bits. -/
def signed32 (value : BitVec 32) : Operand := .imm32 ⟨value.signExtend 64, true, none, false⟩

/-- A signed immediate of 64 bits. -/
def signed64 (value : BitVec 64) : Operand := .imm64 ⟨value, true, none, false⟩

/-- The address at an offset. -/
def label (address : Address) (offset : Int) : Operand := .label (address + BitVec.ofInt 64 offset)

/-- A memory operand whose base may be the stack pointer. -/
def memory (base : BitVec 5) (mode : AddressingMode) : Operand := .memory ⟨.xsp base, mode⟩

/-- The memory at a base register. -/
def memoryBase (base : BitVec 5) : Operand := memory base .base

/-- The memory at an offset from a base register. -/
def memoryOffset (base : BitVec 5) (offset : Int) : Operand := memory base (.offset offset)

end Decode

end A64
