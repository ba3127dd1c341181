import A64.Binary32
import A64.Instruction
import A64.Numeral
import A64.SystemRegister.Name

/-!
Instructions as text: the mnemonic, a tab, and the operands joined by commas.

Immediates, labels and offsets are printed in hexadecimal, or in decimal if that is asked for;
shift amounts, lanes and register numbers are always decimal. An operand whose parts do not fit
together has no text, and the reason says what is wrong with it.
-/

namespace A64

/-- What is wrong with an operand that has no text. -/
inductive OperandFault where
  | unusedSlot
  | laneWithoutElement
  | arrangementOfScalar
  | elementWithoutLane
  | listLength
  | memoryBase
  /-- The register's index is past the end of the table of names. -/
  | unnamedRegister
  deriving DecidableEq

/-- The description of a fault. -/
def OperandFault.message : OperandFault → String
  | unusedSlot => "unused slot in operand prefix"
  | laneWithoutElement => "lane index without element size"
  | arrangementOfScalar => "arrangement on a non-vector register"
  | elementWithoutLane => "element-only arrangement without lane index"
  | listLength => "register list length out of range"
  | memoryBase => "memory base is not a 64-bit register"
  | unnamedRegister => "register without a name"

/-- Why an instruction has no text. -/
inductive RenderError where
  /-- The word has no meaning. -/
  | undefinedOperation (word : Word)
  /-- An operand has no text. -/
  | invalidOperand (mnemonic : String) (index : Nat) (fault : OperandFault)
  deriving DecidableEq

/-- The description of an error. -/
def RenderError.message : RenderError → String
  | undefinedOperation word => "undefined operation for word 0x" ++ Numeral.hex8 word.toNat
  | invalidOperand mnemonic index fault =>
    "invalid operand " ++ Numeral.decimal index ++ " of " ++ mnemonic ++ ": " ++ fault.message

namespace Text

/-- A natural number in the base that is asked for. -/
def number (decimal : Bool) (n : Nat) : String :=
  if decimal then Numeral.decimal n else Numeral.hex n

/-- An integer in the base that is asked for. -/
def signed (decimal : Bool) (i : Int) : String :=
  (if i < 0 then "-" else "") ++ number decimal i.natAbs

/-- A shift or extension and its amount. -/
def shift (s : Shift) : String :=
  match s.amount with
  | some amount => s.kind.name ++ " #" ++ Numeral.decimal amount
  | none => s.kind.name

/-- The part of an operand that a shift adds. -/
def shiftSuffix : Option Shift → String
  | some s => ", " ++ shift s
  | none => ""

/-- The part of an operand that a lane adds. -/
def laneSuffix : Option Nat → String
  | some lane => "[" ++ Numeral.decimal lane ++ "]"
  | none => ""

/-- The lanes and elements of a vector. -/
def arrangement (a : Arrangement) : String :=
  (if a.lanes = 0 then "" else Numeral.decimal a.lanes) ++ a.element.suffix

/-- The name of a register. -/
def registerName (r : Register) : Except OperandFault String :=
  match r.name? with
  | some name => .ok name
  | none => .error .unnamedRegister

/-- The value of an immediate of the given width. An unsigned value that asks for decimal is
printed whole, whatever the width. -/
def immediateValue (decimal : Bool) (width : Nat) (i : Immediate) : String :=
  if i.signed then signed decimal (i.value.setWidth width).toInt
  else if i.decimal then number true i.value.toNat
  else number decimal (i.value.setWidth width).toNat

/-- An immediate of the given width. -/
def immediate (decimal : Bool) (width : Nat) (i : Immediate) : String :=
  "#" ++ immediateValue decimal width i ++ shiftSuffix i.shift

/-- The part of a register operand between its name and its shift. -/
def vectorSuffix (r : RegisterOperand) : Except OperandFault String :=
  match r.arrangement, r.lane with
  | none, none => .ok ""
  | none, some _ => .error .laneWithoutElement
  | some a, lane =>
    if r.register.file ≠ .v then .error .arrangementOfScalar
    else if a.lanes = 0 ∧ lane = none then .error .elementWithoutLane
    else .ok ("." ++ arrangement a ++ laneSuffix lane)

/-- A register with its arrangement, lane and shift. -/
def register (r : RegisterOperand) : Except OperandFault String := do
  let name ← registerName r.register
  let suffix ← vectorSuffix r
  return name ++ suffix ++ shiftSuffix r.shift

/-- A list of registers in braces. -/
def registerList (l : RegisterList) : Except OperandFault String := do
  if l.count = 0 ∨ 4 < l.count then throw .listLength
  let names ← l.registers.mapM registerName
  let members := names.map fun name => name ++ "." ++ arrangement l.arrangement
  return "\x7b" ++ ", ".intercalate members ++ "\x7d" ++ laneSuffix l.lane

/-- What a memory operand prints after its base. -/
def mode (decimal : Bool) : AddressingMode → Except OperandFault String
  | .base => .ok "]"
  | .preIndex offset => .ok (", #" ++ signed decimal offset ++ "]!")
  | .postIndex (.immediate offset) => .ok ("], #" ++ signed decimal offset)
  | .postIndex (.register r) => do return "], " ++ (← registerName r)
  | .offset offset => .ok (if offset = 0 then "]" else ", #" ++ signed decimal offset ++ "]")
  | .extended index shift => do return ", " ++ (← registerName index) ++ shiftSuffix shift ++ "]"

/-- A memory operand in brackets. -/
def memory (decimal : Bool) (m : MemoryOperand) : Except OperandFault String := do
  if m.base.file ≠ .x then throw .memoryBase
  return "[" ++ (← registerName m.base) ++ (← mode decimal m.mode)

/-- The numbers of a system register without a name. -/
def systemEncoding (e : SystemEncoding) : String :=
  "s" ++ Numeral.decimal e.op0 ++ "_" ++ Numeral.decimal e.op1 ++ "_c" ++ Numeral.decimal e.crn ++
    "_c" ++ Numeral.decimal e.crm ++ "_" ++ Numeral.decimal e.op2

/-- An operand. -/
def operand (decimal : Bool) : Operand → Except OperandFault String
  | .imm32 i => .ok (immediate decimal 32 i)
  | .imm64 i => .ok (immediate decimal 64 i)
  | .float bits => .ok ("#" ++ Binary32.text bits)
  | .register r => register r
  | .registerList l => registerList l
  | .systemRegister r => .ok r.name
  | .memory m => memory decimal m
  | .label target => .ok ("#" ++ number decimal target.toNat)
  | .condition c => .ok c.name
  | .systemEncoding e => .ok (systemEncoding e)

/-- A slot in use, which must hold an operand. -/
def slot (decimal : Bool) : Option Operand → Except OperandFault String
  | some o => operand decimal o
  | none => .error .unusedSlot

/-- The texts of operands, the first of which has the given index. The first operand without a text
is the one that is reported. -/
def operands (decimal : Bool) (mnemonic : String) :
    Nat → List (Option Operand) → Except RenderError (List String)
  | _, [] => .ok []
  | index, o :: rest =>
    match slot decimal o with
    | .error fault => .error (.invalidOperand mnemonic index fault)
    | .ok text => (operands decimal mnemonic (index + 1) rest).map (text :: ·)

/-- A mnemonic and the texts of its operands. -/
def line (mnemonic : String) : List String → String
  | [] => mnemonic
  | texts => mnemonic ++ "\t" ++ ", ".intercalate texts

/-- The text that stands for a word without one. -/
def placeholder (w : Word) : String := ".inst 0x" ++ Numeral.hex8 w.toNat

end Text

namespace Instruction

/-- The text of an instruction, with immediates in decimal if that is asked for. -/
def render (i : Instruction) (decimal : Bool) : Except RenderError String :=
  if i.isUndefined then .error (.undefinedOperation i.word)
  else (Text.operands decimal i.mnemonic 0 i.operands.used).map (Text.line i.mnemonic)

/-- The text of an instruction, or the placeholder of its word. -/
def display (i : Instruction) : String :=
  match i.render false with
  | .ok text => text
  | .error _ => Text.placeholder i.word

end Instruction

end A64
