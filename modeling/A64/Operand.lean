import A64.Condition
import A64.Register
import A64.SystemRegister.Encoding
import A64.Word

/-!
Operands of instructions: immediates, registers with their arrangement, lane or shift, lists of
registers, memory operands, addresses, conditions and system registers.
-/

namespace A64

/-- How a register or an immediate is shifted or extended. -/
inductive ShiftKind where
  | none | lsl | lsr | asr | ror | uxtw | sxtw | sxtx | uxtx | sxtb | sxth | uxth | uxtb | msl
  deriving DecidableEq

namespace ShiftKind

/-- Every kind, in order. -/
def all : List ShiftKind :=
  [none, lsl, lsr, asr, ror, uxtw, sxtw, sxtx, uxtx, sxtb, sxth, uxth, uxtb, msl]

/-- The kind that the field of a shifted register selects. -/
def ofShiftBits (b : BitVec 2) : ShiftKind :=
  match b with
  | 0 => lsl
  | 1 => lsr
  | 2 => asr
  | _ => ror

/-- The kind that the field of an extended register selects. -/
def ofExtendBits (b : BitVec 3) : ShiftKind :=
  match b with
  | 0 => uxtb
  | 1 => uxth
  | 2 => uxtw
  | 3 => uxtx
  | 4 => sxtb
  | 5 => sxth
  | 6 => sxtw
  | _ => sxtx

/-- The printed name. -/
def name : ShiftKind → String
  | none => "" | lsl => "lsl" | lsr => "lsr" | asr => "asr" | ror => "ror" | uxtw => "uxtw"
  | sxtw => "sxtw" | sxtx => "sxtx" | uxtx => "uxtx" | sxtb => "sxtb" | sxth => "sxth"
  | uxth => "uxth" | uxtb => "uxtb" | msl => "msl"

/-- The symbol under which reports record the kind. -/
def symbol : ShiftKind → String
  | none => "None"
  | k => k.name.capitalize

end ShiftKind

/-- A shift or extension; without an amount only its kind is printed. -/
structure Shift where
  kind : ShiftKind
  amount : Option Nat
  deriving DecidableEq

namespace Shift

/-- A shift by an amount. -/
def ofAmount (kind : ShiftKind) (amount : Nat) : Shift := ⟨kind, some amount⟩

/-- An extension without an amount. -/
def bare (kind : ShiftKind) : Shift := ⟨kind, none⟩

/-- A shift to the left. -/
def lsl (amount : Nat) : Shift := ofAmount .lsl amount

end Shift

/-! ### Vectors -/

/-- The size of a vector's elements. -/
inductive ElementSize where
  | b | h | s | d | q
  deriving DecidableEq

namespace ElementSize

/-- Elements of `2 ^ n` bytes. -/
def ofLog2? : Nat → Option ElementSize
  | 0 => some b
  | 1 => some h
  | 2 => some s
  | 3 => some d
  | 4 => some q
  | _ => none

/-- Elements of the size that a two-bit field selects. -/
def ofField (size : BitVec 2) : ElementSize :=
  match size with
  | 0 => b
  | 1 => h
  | 2 => s
  | _ => d

/-- The logarithm of the size in bytes. -/
def log2 : ElementSize → Nat
  | b => 0
  | h => 1
  | s => 2
  | d => 3
  | q => 4

/-- The size in bits. -/
def bits (e : ElementSize) : Nat := 8 <<< e.log2

/-- Elements of twice the size; nothing is wider than the last. -/
def double : ElementSize → ElementSize
  | b => h
  | h => s
  | s => d
  | d | q => q

/-- The file of scalars of the element's size. -/
def file : ElementSize → RegisterFile
  | b => .b
  | h => .h
  | s => .s
  | d => .d
  | q => .q

/-- The letter that is printed for an element. -/
def suffix : ElementSize → String
  | b => "b" | h => "h" | s => "s" | d => "d" | q => "q"

/-- The symbol under which reports record the size. -/
def symbol (e : ElementSize) : String := e.suffix.capitalize

end ElementSize

/-- How a vector is divided: the size of its elements and their number, zero when a single element
is meant. -/
structure Arrangement where
  element : ElementSize
  lanes : Nat
  deriving DecidableEq

namespace Arrangement

/-- A single element. -/
def single (e : ElementSize) : Arrangement := ⟨e, 0⟩

/-- The elements that fill 64 bits, or 128 if `q` is set; at least one. -/
def full (e : ElementSize) (q : Bool) : Arrangement :=
  ⟨e, max 1 ((if q then 128 else 64) / e.bits)⟩

/-- The width in bits, zero for a single element. -/
def bits (a : Arrangement) : Nat := a.element.bits * a.lanes

end Arrangement

/-! ### Operands -/

/-- An immediate value. -/
structure Immediate where
  /-- The bits of the value, in two's complement if it is signed. -/
  value : BitVec 64
  /-- Whether the value is printed as a signed number. -/
  signed : Bool
  /-- The shift printed after the value. -/
  shift : Option Shift
  /-- Whether an unsigned value is printed in decimal whatever the options say. -/
  decimal : Bool
  deriving DecidableEq

/-- A register with what is printed after its name. -/
structure RegisterOperand where
  register : Register
  arrangement : Option Arrangement
  lane : Option Nat
  shift : Option Shift
  deriving DecidableEq

/-- Consecutive vector registers. -/
structure RegisterList where
  first : Register
  count : Nat
  arrangement : Arrangement
  lane : Option Nat
  deriving DecidableEq

/-- The registers of a list in order, wrapping from number 31 to 0. -/
def RegisterList.registers (l : RegisterList) : List Register :=
  (List.range l.count).map l.first.successor

/-- What is added to a base register after the access. -/
inductive PostIndex where
  | immediate (offset : Int)
  | register (r : Register)
  deriving DecidableEq

/-- How a memory operand forms its address. -/
inductive AddressingMode where
  /-- The base register alone. -/
  | base
  /-- The base plus an offset, which is written back. -/
  | preIndex (offset : Int)
  /-- The base, to which an amount is added afterwards. -/
  | postIndex (amount : PostIndex)
  /-- The base plus an offset; an offset of zero is not printed. -/
  | offset (offset : Int)
  /-- The base plus a register, shifted or extended. -/
  | extended (index : Register) (shift : Option Shift)
  deriving DecidableEq

/-- An operand in memory. -/
structure MemoryOperand where
  base : Register
  mode : AddressingMode
  deriving DecidableEq

/-- An operand of an instruction. -/
inductive Operand where
  /-- An immediate of 32 bits. -/
  | imm32 (i : Immediate)
  /-- An immediate of 64 bits. -/
  | imm64 (i : Immediate)
  /-- A floating-point immediate, as the bits of its single-precision form. -/
  | float (bits : BitVec 32)
  | register (r : RegisterOperand)
  | registerList (l : RegisterList)
  | systemRegister (r : SystemRegister)
  | memory (m : MemoryOperand)
  /-- The address that a relative operand stands for. -/
  | label (target : Address)
  | condition (c : Condition)
  /-- A system register without a name. -/
  | systemEncoding (e : SystemEncoding)
  deriving DecidableEq

namespace Operand

/-- The class of an operand, which tells the addressing modes of memory operands apart. -/
inductive Class where
  | imm32 | imm64 | float | register | registerList | systemRegister
  | memoryBase | memoryPreIndex | memoryPostIndex | memoryOffset | memoryExtended
  | label | condition | systemEncoding
  deriving DecidableEq

/-- The symbol under which reports record the class. -/
def Class.symbol : Class → String
  | imm32 => "Imm32"
  | imm64 => "Imm64"
  | float => "FloatImm"
  | register => "Register"
  | registerList => "MultiRegister"
  | systemRegister => "SystemRegister"
  | memoryBase => "MemoryBase"
  | memoryPreIndex => "MemoryPreIndex"
  | memoryPostIndex => "MemoryPostIndex"
  | memoryOffset => "MemoryOffset"
  | memoryExtended => "MemoryExtended"
  | label => "Label"
  | condition => "Condition"
  | systemEncoding => "ImplementationSpecific"

/-- The class of an operand. -/
def cls : Operand → Class
  | imm32 _ => .imm32
  | imm64 _ => .imm64
  | float _ => .float
  | register _ => .register
  | registerList _ => .registerList
  | systemRegister _ => .systemRegister
  | memory ⟨_, .base⟩ => .memoryBase
  | memory ⟨_, .preIndex _⟩ => .memoryPreIndex
  | memory ⟨_, .postIndex _⟩ => .memoryPostIndex
  | memory ⟨_, .offset _⟩ => .memoryOffset
  | memory ⟨_, .extended _ _⟩ => .memoryExtended
  | label _ => .label
  | condition _ => .condition
  | systemEncoding _ => .systemEncoding

/-- The register of a register operand. -/
def register? : Operand → Option Register
  | register r => some r.register
  | _ => none

/-- The bits of an immediate. -/
def immediate? : Operand → Option (BitVec 64)
  | imm32 i | imm64 i => some i.value
  | _ => none

end Operand

end A64
