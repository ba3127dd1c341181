import A64.Decode.Basic

/-!
Exceptions, hints, barriers, the processor state, maintenance operations and system registers.
-/

namespace A64.Decode

/-- The instruction that raises an exception. -/
def exception? (opc : BitVec 3) (level : BitVec 2) : Option Operation :=
  match opc, level with
  | 0b000, 1 => some .svc
  | 0b000, 2 => some .hvc
  | 0b000, 3 => some .smc
  | 0b001, 0 => some .brk
  | 0b010, 0 => some .hlt
  | 0b101, 1 => some .dcps1
  | 0b101, 2 => some .dcps2
  | 0b101, 3 => some .dcps3
  | _, _ => none

/-- Exceptions. Only a change of debug state leaves an immediate of zero out. -/
def exception (word : Word) : Decoding :=
  let opc := word.field 21 3
  let imm16 := word.field 5 16
  if word.field 2 3 ≠ 0 then reserved .exceptionOp2
  else
    match exception? opc (word.field 0 2) with
    | some op => done op (if opc = 0b101 ∧ imm16 = 0 then [] else [imm imm16])
    | none => reserved .exceptionOpcode

/-- The hints with a name. -/
def namedHint? (n : BitVec 7) : Option Decoded :=
  match n with
  | 0 => some ⟨.nop, []⟩
  | 1 => some ⟨.yield, []⟩
  | 2 => some ⟨.wfe, []⟩
  | 3 => some ⟨.wfi, []⟩
  | 4 => some ⟨.sev, []⟩
  | 5 => some ⟨.sevl, []⟩
  | 6 => some ⟨.dgh, []⟩
  | 7 => some ⟨.xpaclri, []⟩
  | 8 => some ⟨.pacia1716, []⟩
  | 10 => some ⟨.pacib1716, []⟩
  | 12 => some ⟨.autia1716, []⟩
  | 14 => some ⟨.autib1716, []⟩
  | 16 => some ⟨.esb, []⟩
  | 17 => some ⟨.psb, [.systemRegister .csync]⟩
  | 18 => some ⟨.tsb, [.systemRegister .csync]⟩
  | 20 => some ⟨.csdb, []⟩
  | 24 => some ⟨.paciaz, []⟩
  | 25 => some ⟨.paciasp, []⟩
  | 26 => some ⟨.pacibz, []⟩
  | 27 => some ⟨.pacibsp, []⟩
  | 28 => some ⟨.autiaz, []⟩
  | 29 => some ⟨.autiasp, []⟩
  | 30 => some ⟨.autibz, []⟩
  | 31 => some ⟨.autibsp, []⟩
  | 32 => some ⟨.bti, []⟩
  | 34 => some ⟨.bti, [.systemRegister .c]⟩
  | 36 => some ⟨.bti, [.systemRegister .j]⟩
  | 38 => some ⟨.bti, [.systemRegister .jc]⟩
  | _ => none

/-- Hints. -/
def hint (n : BitVec 7) : Decoded := (namedHint? n).getD ⟨.hint, [imm n]⟩

/-- The option of a barrier, as a number if it has no name. -/
def barrierOption (crm : BitVec 4) : Operand :=
  match SystemRegister.barrierOption? crm.toNat with
  | some option => .systemRegister option
  | none => imm crm

/-- Barriers and the end of an exclusive access. -/
def barrier (op2 : BitVec 3) (crm : BitVec 4) : Decoding :=
  let option := if crm = 15 then [] else [imm crm]
  match op2 with
  | 0b010 => done .clrex option
  | 0b100 =>
    match crm with
    | 0b0000 => done .ssbb []
    | 0b0100 => done .pssbb []
    | _ => done .dsb [barrierOption crm]
  | 0b101 => done .dmb [barrierOption crm]
  | 0b110 => done .isb option
  | 0b111 => if crm = 0 then done .sb [] else reserved .barrierOp2
  | _ => reserved .barrierOp2

/-- Writing a field of the processor state, or changing the format of the flags. -/
def processorState (op1 op2 : BitVec 3) (crm : BitVec 4) : Decoding :=
  match op1, op2 with
  | 0, 0 => done .cfinv []
  | 0, 1 => done .xaflag []
  | 0, 2 => done .axflag []
  | _, _ =>
    match SystemRegister.stateField? op1.toNat op2.toNat with
    | some field => done .msr [.systemRegister field, imm crm]
    | none => reserved .stateField

/-- The mnemonic of a kind of maintenance operation. -/
def maintenance : MaintenanceKind → Operation
  | .addressLookup => .addressLookup
  | .dataCache => .dc
  | .instructionCache => .ic
  | .lookasideBuffer => .tlbi

/-- System instructions that read or write a general-purpose register. A maintenance operation has a
name of its own, and a zero register that is written is left out. -/
def systemInstruction (word : Word) : Decoded :=
  let op1 := word.field 16 3
  let crn := word.field 12 4
  let crm := word.field 8 4
  let op2 := word.field 5 3
  let numbers := [imm op1, plain (.control crn), plain (.control crm), imm op2]
  let source := if word.rt = 31 then [] else [x word.rt]
  if word.bit 21 then ⟨.sysl, x word.rt :: numbers⟩
  else
    match SystemRegister.ofMaintenance? op1.toNat crn.toNat crm.toNat op2.toNat with
    | some (kind, name) => ⟨maintenance kind, .systemRegister name :: source⟩
    | none => ⟨.sys, numbers ++ source⟩

/-- The encoding of the system register that a word names. -/
def systemEncoding (word : Word) : SystemEncoding :=
  ⟨(word.field 19 2).toNat, (word.field 16 3).toNat, (word.field 12 4).toNat,
    (word.field 8 4).toNat, (word.field 5 3).toNat⟩

/-- A system register, by its numbers if it has no name. -/
def systemOperand (e : SystemEncoding) : Option SystemRegister → Operand
  | some r => .systemRegister r
  | none => .systemEncoding e

/-- Moves between a system register and a general-purpose register. -/
def systemMove (word : Word) : Decoded :=
  let e := systemEncoding word
  if word.bit 21 then ⟨.mrs, [x word.rt, systemOperand e (SystemRegister.ofEncoding? e)]⟩
  else ⟨.msr, [systemOperand e (SystemRegister.ofEncodingForWrite? e), x word.rt]⟩

/-- Hints, barriers and writes to the processor state, which name no register. -/
def systemImmediate (word : Word) : Decoding :=
  let op1 := word.field 16 3
  let crm := word.field 8 4
  let op2 := word.field 5 3
  if word.rt ≠ 31 then reserved .systemClass
  else
    match word.field 12 4, op1 with
    | 0b0010, 3 => .ok (hint (crm ++ op2))
    | 0b0011, 3 => barrier op2 crm
    | 0b0100, _ => processorState op1 op2 crm
    | _, _ => reserved .systemClass

/-- System instructions. -/
def system (word : Word) : Decoding :=
  match word.field 19 2 with
  | 0b00 => if word.bit 21 then reserved .systemRead else systemImmediate word
  | 0b01 => .ok (systemInstruction word)
  | _ => .ok (systemMove word)

end A64.Decode
