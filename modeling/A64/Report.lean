import A64.Json
import A64.Stream
import A64.SystemRegister.Name

/-!
Operands, instructions and lines as JSON.

An operand is an object with one field, named for its kind. Numbers of 64 bits are written as the
caller asks, since not every reader of JSON takes integers of that size.
-/

namespace A64.Report

/-- A register: its file and its number there. -/
def register (r : Register) : Json :=
  .obj [("class", .str r.file.symbol), ("number", .nat r.number)]

/-- A shift or extension. -/
def shift (s : Shift) : Json :=
  .obj [("kind", .str s.kind.symbol), ("amount", .ofOption .nat s.amount)]

/-- The division of a vector. -/
def arrangement (a : Arrangement) : Json :=
  .obj [("element", .str a.element.symbol), ("lanes", .nat a.lanes)]

/-- An immediate. -/
def immediate (wide : Int → Json) (i : Immediate) : Json :=
  .obj
    [("value", wide i.value.toNat), ("signed", .bool i.signed), ("shift", .ofOption shift i.shift),
      ("decimal", .bool i.decimal)]

/-- A register operand. -/
def registerOperand (r : RegisterOperand) : Json :=
  .obj
    [("reg", register r.register), ("arrangement", .ofOption arrangement r.arrangement),
      ("lane", .ofOption .nat r.lane), ("shift", .ofOption shift r.shift)]

/-- A list of registers. -/
def registerList (l : RegisterList) : Json :=
  .obj
    [("first", register l.first), ("count", .nat l.count),
      ("arrangement", arrangement l.arrangement), ("lane", .ofOption .nat l.lane)]

/-- The amount added to a base register. -/
def postIndex (wide : Int → Json) : PostIndex → Json
  | .immediate offset => .tagged "Immediate" (wide offset)
  | .register r => .tagged "Register" (register r)

/-- An addressing mode. -/
def mode (wide : Int → Json) : AddressingMode → Json
  | .base => .str "Base"
  | .preIndex offset => .tagged "PreIndex" (wide offset)
  | .postIndex amount => .tagged "PostIndex" (postIndex wide amount)
  | .offset offset => .tagged "Offset" (wide offset)
  | .extended index s =>
    .tagged "Extended" (.obj [("index", register index), ("shift", .ofOption shift s)])

/-- The numbers of a system register. -/
def systemEncoding (e : SystemEncoding) : Json :=
  .obj
    [("op0", .nat e.op0), ("op1", .nat e.op1), ("crn", .nat e.crn), ("crm", .nat e.crm),
      ("op2", .nat e.op2)]

/-- An operand. -/
def operand (wide : Int → Json) : Operand → Json
  | .imm32 i => .tagged "Imm32" (immediate wide i)
  | .imm64 i => .tagged "Imm64" (immediate wide i)
  | .float bits => .tagged "FloatImm" (.nat bits.toNat)
  | .register r => .tagged "Register" (registerOperand r)
  | .registerList l => .tagged "MultiRegister" (registerList l)
  | .systemRegister r => .tagged "SystemRegister" (.str r.symbol)
  | .memory m =>
    .tagged "Memory" (.obj [("base", register m.base), ("mode", mode wide m.mode)])
  | .label target => .tagged "Label" (wide target.toNat)
  | .condition c => .tagged "Condition" (.str c.symbol)
  | .systemEncoding e => .tagged "ImplementationSpecific" (systemEncoding e)

/-- A slot for an operand. -/
def slot (wide : Int → Json) : Option Operand → Json
  | some o => operand wide o
  | none => .str "None"

/-- A row of operands. -/
def operands (wide : Int → Json) (os : Operands) : Json :=
  .obj [("slots", .arr (os.slots.toList.map (slot wide))), ("len", .nat os.size)]

/-- An instruction. -/
def instruction (wide : Int → Json) (i : Instruction) : Json :=
  .obj
    [("word", .nat i.word.toNat), ("address", wide i.address.toNat),
      ("group", .str i.group.symbol), ("operation", .str i.operation.symbol),
      ("operands", operands wide i.operands)]

/-- A disassembled word, with its instruction or what is wrong with it. -/
def line (l : Line) : Json :=
  .obj
    [("address", .nat l.address.toNat), ("word", .nat l.word.toNat), ("text", .str l.text),
      match l.result with
      | .ok i => ("instruction", instruction .num i)
      | .error e => ("error", .str e.message)]

end A64.Report
