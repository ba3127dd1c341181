import A64.Proofs.Symbol
import A64.Report

/-!
# Reading reports

A reader for the JSON that reports hold: the fields of each object by name and in order, null for
what an operand leaves out, and symbols for the members of enumerations. Whatever is reported is
read back, so a report tells the instruction, with all five slots for operands.
-/

namespace A64

namespace Json

variable {α : Type}

def asBool? : Json → Option Bool
  | bool b => some b
  | _ => none

def asInt? : Json → Option Int
  | num n => some n
  | _ => none

def asNat? : Json → Option Nat
  | num (.ofNat n) => some n
  | _ => none

def asBits? (width : Nat) (j : Json) : Option (BitVec width) :=
  j.asNat?.bind fun n => if n < 2 ^ width then some (BitVec.ofNat width n) else none

def asSymbol? (all : List α) (symbol : α → String) : Json → Option α
  | str s => all.find? (symbol · == s)
  | _ => none

def asOption? (read : Json → Option α) : Json → Option (Option α)
  | null => some none
  | j => (read j).map some

@[simp] theorem asBool?_bool (b : Bool) : (bool b).asBool? = some b := rfl

@[simp] theorem asInt?_num (n : Int) : (num n).asInt? = some n := rfl

@[simp] theorem asNat?_nat (n : Nat) : (nat n).asNat? = some n := rfl

@[simp] theorem asBits?_nat {width : Nat} (b : BitVec width) :
    (nat b.toNat).asBits? width = some b := by
  simp [asBits?, b.isLt]

theorem asSymbol?_str {all : List α} {symbol : α → String} (hmem : ∀ a, a ∈ all)
    (hinj : ∀ a b, symbol a = symbol b → a = b) (a : α) :
    (str (symbol a)).asSymbol? all symbol = some a :=
  Symbol.find?_symbol hmem hinj a

/-- What is left out is read as such if null is no value. -/
theorem asOption?_ofOption {read : Json → Option α} {write : α → Json} (hnull : read null = none)
    (hread : ∀ a, read (write a) = some a) (o : Option α) :
    (ofOption write o).asOption? read = some o := by
  cases o with
  | none => rfl
  | some a =>
    have ha := hread a
    rw [ofOption]
    cases hj : write a with
    | null => rw [hj, hnull] at ha; cases ha
    | _ => rw [hj] at ha; simp only [asOption?, ha, Option.map_some]

@[simp] theorem asOption?_nat (o : Option Nat) : (ofOption nat o).asOption? asNat? = some o :=
  asOption?_ofOption rfl asNat?_nat o

end Json

namespace Report

open Json

def registerFile? : Json → Option RegisterFile := asSymbol? RegisterFile.all RegisterFile.symbol

def shiftKind? : Json → Option ShiftKind := asSymbol? ShiftKind.all ShiftKind.symbol

def elementSize? : Json → Option ElementSize := asSymbol? [.b, .h, .s, .d, .q] ElementSize.symbol

def condition? : Json → Option Condition :=
  asSymbol? ((List.range 16).map fun n => .ofBits (BitVec.ofNat 4 n)) Condition.symbol

def systemRegister? : Json → Option SystemRegister :=
  asSymbol? SystemRegister.all SystemRegister.symbol

def operation? : Json → Option Operation := asSymbol? Operation.all Operation.symbol

def group? : Json → Option Group :=
  asSymbol? [.unallocated, .dataProcessingImmediate, .branchExceptionSystem, .loadStore,
    .dataProcessingRegister, .dataProcessingVector] Group.symbol

@[simp] theorem registerFile?_symbol (f : RegisterFile) :
    registerFile? (.str f.symbol) = some f := by
  cases f <;> decide

@[simp] theorem shiftKind?_symbol (k : ShiftKind) : shiftKind? (.str k.symbol) = some k := by
  cases k <;> decide +kernel

@[simp] theorem elementSize?_symbol (e : ElementSize) : elementSize? (.str e.symbol) = some e := by
  cases e <;> decide +kernel

@[simp] theorem condition?_symbol (c : Condition) : condition? (.str c.symbol) = some c := by
  cases c <;> decide +kernel

@[simp] theorem systemRegister?_symbol (r : SystemRegister) :
    systemRegister? (.str r.symbol) = some r :=
  asSymbol?_str SystemRegister.mem_all (fun _ _ => SystemRegister.symbol_injective) r

@[simp] theorem operation?_symbol (op : Operation) : operation? (.str op.symbol) = some op :=
  asSymbol?_str Operation.mem_all (fun _ _ => Operation.symbol_injective) op

@[simp] theorem group?_symbol (g : Group) : group? (.str g.symbol) = some g := by
  cases g <;> decide

def register? : Json → Option Register
  | .obj [("class", file), ("number", number)] =>
    return ⟨← registerFile? file, ← number.asNat?⟩
  | _ => none

def shift? : Json → Option Shift
  | .obj [("kind", kind), ("amount", amount)] =>
    return ⟨← shiftKind? kind, ← amount.asOption? asNat?⟩
  | _ => none

def arrangement? : Json → Option Arrangement
  | .obj [("element", element), ("lanes", lanes)] =>
    return ⟨← elementSize? element, ← lanes.asNat?⟩
  | _ => none

def immediate? : Json → Option Immediate
  | .obj [("value", value), ("signed", signed), ("shift", shift), ("decimal", decimal)] =>
    return ⟨← value.asBits? 64, ← signed.asBool?, ← shift.asOption? shift?, ← decimal.asBool?⟩
  | _ => none

def registerOperand? : Json → Option RegisterOperand
  | .obj [("reg", reg), ("arrangement", arrangement), ("lane", lane), ("shift", shift)] =>
    return ⟨← register? reg, ← arrangement.asOption? arrangement?, ← lane.asOption? asNat?,
      ← shift.asOption? shift?⟩
  | _ => none

def registerList? : Json → Option RegisterList
  | .obj [("first", first), ("count", count), ("arrangement", arrangement), ("lane", lane)] =>
    return ⟨← register? first, ← count.asNat?, ← arrangement? arrangement,
      ← lane.asOption? asNat?⟩
  | _ => none

def postIndex? : Json → Option PostIndex
  | .obj [("Immediate", offset)] => return .immediate (← offset.asInt?)
  | .obj [("Register", r)] => return .register (← register? r)
  | _ => none

def mode? : Json → Option AddressingMode
  | .str "Base" => some .base
  | .obj [("PreIndex", offset)] => return .preIndex (← offset.asInt?)
  | .obj [("PostIndex", amount)] => return .postIndex (← postIndex? amount)
  | .obj [("Offset", offset)] => return .offset (← offset.asInt?)
  | .obj [("Extended", .obj [("index", index), ("shift", shift)])] =>
    return .extended (← register? index) (← shift.asOption? shift?)
  | _ => none

def memory? : Json → Option MemoryOperand
  | .obj [("base", base), ("mode", mode)] => return ⟨← register? base, ← mode? mode⟩
  | _ => none

def systemEncoding? : Json → Option SystemEncoding
  | .obj [("op0", op0), ("op1", op1), ("crn", crn), ("crm", crm), ("op2", op2)] =>
    return ⟨← op0.asNat?, ← op1.asNat?, ← crn.asNat?, ← crm.asNat?, ← op2.asNat?⟩
  | _ => none

/-- The operand in an object, whose one field is named for the kind of operand. -/
def operand? : Json → Option Operand
  | .obj [("Imm32", i)] => return .imm32 (← immediate? i)
  | .obj [("Imm64", i)] => return .imm64 (← immediate? i)
  | .obj [("FloatImm", bits)] => return .float (← bits.asBits? 32)
  | .obj [("Register", r)] => return .register (← registerOperand? r)
  | .obj [("MultiRegister", l)] => return .registerList (← registerList? l)
  | .obj [("SystemRegister", r)] => return .systemRegister (← systemRegister? r)
  | .obj [("Memory", m)] => return .memory (← memory? m)
  | .obj [("Label", target)] => return .label (← target.asBits? 64)
  | .obj [("Condition", c)] => return .condition (← condition? c)
  | .obj [("ImplementationSpecific", e)] => return .systemEncoding (← systemEncoding? e)
  | _ => none

def slot? : Json → Option (Option Operand)
  | .str "None" => some none
  | j => (operand? j).map some

@[simp] theorem register?_register (r : Register) : register? (register r) = some r := by
  simp [register, register?]

@[simp] theorem shift?_shift (s : Shift) : shift? (shift s) = some s := by
  simp [shift, shift?]

@[simp] theorem asOption?_shift (o : Option Shift) :
    (ofOption shift o).asOption? shift? = some o :=
  asOption?_ofOption rfl shift?_shift o

@[simp] theorem arrangement?_arrangement (a : Arrangement) :
    arrangement? (arrangement a) = some a := by
  simp [arrangement, arrangement?]

@[simp] theorem asOption?_arrangement (o : Option Arrangement) :
    (ofOption arrangement o).asOption? arrangement? = some o :=
  asOption?_ofOption rfl arrangement?_arrangement o

@[simp] theorem immediate?_immediate (i : Immediate) :
    immediate? (immediate .num i) = some i := by
  have hvalue : (Json.num i.value.toNat).asBits? 64 = some i.value := asBits?_nat i.value
  simp [immediate, immediate?, hvalue]

@[simp] theorem registerOperand?_registerOperand (r : RegisterOperand) :
    registerOperand? (registerOperand r) = some r := by
  simp [registerOperand, registerOperand?]

@[simp] theorem registerList?_registerList (l : RegisterList) :
    registerList? (registerList l) = some l := by
  simp [registerList, registerList?]

@[simp] theorem postIndex?_postIndex (p : PostIndex) : postIndex? (postIndex .num p) = some p := by
  cases p <;> simp [postIndex, postIndex?, tagged]

@[simp] theorem mode?_mode (m : AddressingMode) : mode? (mode .num m) = some m := by
  cases m <;> simp [mode, mode?, tagged]

@[simp] theorem systemEncoding?_systemEncoding (e : SystemEncoding) :
    systemEncoding? (systemEncoding e) = some e := by
  simp [systemEncoding, systemEncoding?]

theorem operand?_operand (o : Operand) : operand? (operand .num o) = some o := by
  cases o with
  | label target =>
    have htarget : (Json.num target.toNat).asBits? 64 = some target := asBits?_nat target
    simp [operand, operand?, tagged, htarget]
  | memory m => simp [operand, operand?, memory?, tagged]
  | _ => simp [operand, operand?, tagged]

theorem slot?_slot (s : Option Operand) : slot? (slot .num s) = some s := by
  cases s with
  | none => rfl
  | some o =>
    have ho := operand?_operand o
    rw [slot]
    cases hj : operand .num o with
    | str t => rw [hj] at ho; cases ho
    | _ => rw [hj] at ho; simp only [slot?, ho, Option.map_some]

def operands? : Json → Option Operands
  | .obj [("slots", .arr slots), ("len", size)] => do
    let slots ← slots.mapM slot?
    if h : slots.length = 5 then return ⟨⟨slots.toArray, h⟩, ← size.asNat?⟩ else none
  | _ => none

def instruction? : Json → Option Instruction
  | .obj [("word", word), ("address", address), ("group", group), ("operation", operation),
      ("operands", operands)] =>
    return ⟨← word.asBits? 32, ← address.asBits? 64, ← group? group, ← operation? operation,
      ← operands? operands⟩
  | _ => none

theorem mapM_map_eq_some {α β : Type} {read : β → Option α} {write : α → β}
    (h : ∀ a, read (write a) = some a) (l : List α) : (l.map write).mapM read = some l := by
  induction l with
  | nil => rfl
  | cons a l ih => simp [h, ih]

@[simp] theorem operands?_operands (os : Operands) : operands? (operands .num os) = some os := by
  obtain ⟨⟨⟨slots⟩, hsize⟩, size⟩ := os
  have hslots : (slots.map (slot .num)).mapM slot? = some slots := mapM_map_eq_some slot?_slot slots
  have hlength : slots.length = 5 := hsize
  simp [operands, operands?, hslots, hlength]

/-- A report of an instruction tells the instruction. -/
theorem instruction?_instruction (i : Instruction) :
    instruction? (instruction .num i) = some i := by
  have haddress : (Json.num i.address.toNat).asBits? 64 = some i.address := asBits?_nat i.address
  simp [instruction, instruction?, haddress]

end Report

end A64
