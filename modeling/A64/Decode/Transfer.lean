import A64.Decode.Basic

/-!
Loads and stores of one register or a pair.

The fields of an access say which register is transferred and how many bytes; the addressing class
then picks the mnemonic. Offsets count in units of the access, those of nine bits apart.
-/

namespace A64.Decode

/-- What an access does, before the addressing class picks the mnemonic. -/
inductive Access where
  | str | ldr | strb | ldrb | ldrsb | strh | ldrh | ldrsh | ldrsw | prfm
  deriving DecidableEq

/-- The register that an access transfers. -/
inductive Target where
  /-- A general-purpose register, of 64 bits or not. -/
  | general (sf : Bool)
  /-- A scalar of the vector registers. -/
  | vector (e : ElementSize)
  /-- No register, but a prefetch operation. -/
  | prefetch
  deriving DecidableEq

/-- An access, the register it transfers and the logarithm of its size in bytes. -/
structure Transfer where
  access : Access
  target : Target
  log2 : Nat
  deriving DecidableEq

/-- Addressing classes, which differ in their mnemonics. -/
inductive AddressingClass where
  /-- An unsigned offset or a register. -/
  | scaled
  /-- Before or after the access the base changes. -/
  | indexed
  /-- A signed offset in bytes. -/
  | unscaled
  /-- The access is made as by an unprivileged program. -/
  | unprivileged
  deriving DecidableEq

/-- The transfer of a scalar of the vector registers. -/
def vectorTransfer? (size opc : BitVec 2) : Option Transfer :=
  let e := ElementSize.ofField size
  match size, opc with
  | _, 0 => some ⟨.str, .vector e, e.log2⟩
  | _, 1 => some ⟨.ldr, .vector e, e.log2⟩
  | 0, 2 => some ⟨.str, .vector .q, 4⟩
  | 0, _ => some ⟨.ldr, .vector .q, 4⟩
  | _, _ => none

/-- The transfer of a general-purpose register. -/
def generalTransfer? (size opc : BitVec 2) : Option Transfer :=
  match size, opc with
  | 0, 0 => some ⟨.strb, .general false, 0⟩
  | 0, 1 => some ⟨.ldrb, .general false, 0⟩
  | 0, 2 => some ⟨.ldrsb, .general true, 0⟩
  | 0, _ => some ⟨.ldrsb, .general false, 0⟩
  | 1, 0 => some ⟨.strh, .general false, 1⟩
  | 1, 1 => some ⟨.ldrh, .general false, 1⟩
  | 1, 2 => some ⟨.ldrsh, .general true, 1⟩
  | 1, _ => some ⟨.ldrsh, .general false, 1⟩
  | 2, 0 => some ⟨.str, .general false, 2⟩
  | 2, 1 => some ⟨.ldr, .general false, 2⟩
  | 2, 2 => some ⟨.ldrsw, .general true, 2⟩
  | 3, 0 => some ⟨.str, .general true, 3⟩
  | 3, 1 => some ⟨.ldr, .general true, 3⟩
  | 3, 2 => some ⟨.prfm, .prefetch, 3⟩
  | _, _ => none

/-- The transfer that the fields of a word select. -/
def transfer? (word : Word) : Option Transfer :=
  if word.bit 26 then vectorTransfer? (word.field 30 2) (word.field 22 2)
  else generalTransfer? (word.field 30 2) (word.field 22 2)

/-- The mnemonic of an access in an addressing class. -/
def mnemonic? : AddressingClass → Access → Option Operation
  | .scaled, .prfm => some .prfm
  | .indexed, .prfm => none
  | .scaled, .str | .indexed, .str => some .str
  | .scaled, .ldr | .indexed, .ldr => some .ldr
  | .scaled, .strb | .indexed, .strb => some .strb
  | .scaled, .ldrb | .indexed, .ldrb => some .ldrb
  | .scaled, .ldrsb | .indexed, .ldrsb => some .ldrsb
  | .scaled, .strh | .indexed, .strh => some .strh
  | .scaled, .ldrh | .indexed, .ldrh => some .ldrh
  | .scaled, .ldrsh | .indexed, .ldrsh => some .ldrsh
  | .scaled, .ldrsw | .indexed, .ldrsw => some .ldrsw
  | .unscaled, .str => some .stur
  | .unscaled, .ldr => some .ldur
  | .unscaled, .strb => some .sturb
  | .unscaled, .ldrb => some .ldurb
  | .unscaled, .ldrsb => some .ldursb
  | .unscaled, .strh => some .sturh
  | .unscaled, .ldrh => some .ldurh
  | .unscaled, .ldrsh => some .ldursh
  | .unscaled, .ldrsw => some .ldursw
  | .unscaled, .prfm => some .prfum
  | .unprivileged, .str => some .sttr
  | .unprivileged, .ldr => some .ldtr
  | .unprivileged, .strb => some .sttrb
  | .unprivileged, .ldrb => some .ldtrb
  | .unprivileged, .ldrsb => some .ldtrsb
  | .unprivileged, .strh => some .sttrh
  | .unprivileged, .ldrh => some .ldtrh
  | .unprivileged, .ldrsh => some .ldtrsh
  | .unprivileged, .ldrsw => some .ldtrsw
  | .unprivileged, .prfm => none

/-- A prefetch operation, as a number if it is not allocated. -/
def prefetch (n : BitVec 5) : Operand :=
  match Register.prefetch? n.toNat with
  | some r => plain r
  | none => imm n

/-- The transferred register as an operand. -/
def Target.operand (n : BitVec 5) : Target → Operand
  | general sf => gpr sf n
  | vector e => scalar e n
  | prefetch => Decode.prefetch n

/-- A transfer of one register in an addressing class, whose mode may depend on the size of the
access. -/
def singleTransfer (word : Word) (cls : AddressingClass) (mode : Nat → AddressingMode) :
    Decoding :=
  match transfer? word with
  | none => reserved .accessSize
  | some t =>
    if cls = .unprivileged ∧ word.bit 26 then reserved .unprivilegedVector
    else
      match mnemonic? cls t.access with
      | some op => done op [t.target.operand word.rt, memory word.rn (mode t.log2)]
      | none => reserved .prefetchMode

/-- Transfers at a signed offset of nine bits. -/
def signedOffset (word : Word) : Decoding :=
  let offset := (word.field 12 9).toInt
  match word.field 10 2 with
  | 0b00 => singleTransfer word .unscaled fun _ => .offset offset
  | 0b01 => singleTransfer word .indexed fun _ => .postIndex (.immediate offset)
  | 0b10 => singleTransfer word .unprivileged fun _ => .offset offset
  | _ => singleTransfer word .indexed fun _ => .preIndex offset

/-- Transfers at an unsigned offset, in units of the access. -/
def unsignedOffset (word : Word) : Decoding :=
  singleTransfer word .scaled fun log2 => .offset ((word.field 10 12).toNat * bytes log2)

/-- The extension of an index register; one that keeps all bits is a shift to the left, and is left
out without an amount. -/
def indexShift (option : BitVec 3) (amount : Option Nat) : Option Shift :=
  if option = 0b011 then amount.map Shift.lsl else some ⟨.ofExtendBits option, amount⟩

/-- Transfers at an offset in a register, which may be shifted by the size of the access. -/
def registerOffset (word : Word) : Decoding :=
  let option := word.field 13 3
  let index := if word.bit 13 then Register.x word.rm else Register.w word.rm
  if word.bit 14 = false then reserved .extendOption
  else
    singleTransfer word .scaled fun log2 =>
      .extended index (indexShift option (if word.bit 12 then some log2 else none))

/-- Loads of an authenticated pointer. -/
def authenticatedLoad (word : Word) : Decoding :=
  let offset := (word.field 22 1 ++ word.field 12 9).toInt * 8
  if word.field 30 2 ≠ 3 ∨ word.bit 26 then reserved .authenticatedLoad
  else
    done (if word.bit 23 then .ldrab else .ldraa)
      [x word.rt, memory word.rn (if word.bit 11 then .preIndex offset else .offset offset)]

/-- Loads from an address relative to the instruction. -/
def literal (word : Word) (address : Address) : Decoding :=
  let target := label address ((word.field 5 19).toInt * 4)
  match word.bit 26, word.field 30 2 with
  | false, 0 => done .ldr [w word.rt, target]
  | false, 1 => done .ldr [x word.rt, target]
  | false, 2 => done .ldrsw [x word.rt, target]
  | false, _ => done .prfm [prefetch word.rt, target]
  | true, 0 => done .ldr [scalar .s word.rt, target]
  | true, 1 => done .ldr [scalar .d word.rt, target]
  | true, 2 => done .ldr [scalar .q word.rt, target]
  | true, _ => reserved .vectorLiteral

/-- The registers that a pair transfers, and the logarithm of the size of each in bytes. -/
def pairTarget? (vector : Bool) (opc : BitVec 2) : Option (Target × Nat) :=
  match vector, opc with
  | false, 0 => some (.general false, 2)
  | false, 1 => some (.general true, 2)
  | false, 2 => some (.general true, 3)
  | true, 0 => some (.vector .s, 2)
  | true, 1 => some (.vector .d, 3)
  | true, 2 => some (.vector .q, 4)
  | _, _ => none

/-- Transfers of a pair of registers. -/
def pair (word : Word) : Decoding :=
  let index := word.field 23 2
  let opc := word.field 30 2
  let load := word.bit 22
  match pairTarget? (word.bit 26) opc with
  | none => reserved .pairOpcode
  | some (target, log2) =>
    let offset := (word.field 15 7).toInt * bytes log2
    let mode : AddressingMode :=
      match index with
      | 0b01 => .postIndex (.immediate offset)
      | 0b11 => .preIndex offset
      | _ => .offset offset
    let operands := [target.operand word.rt, target.operand word.rt2, memory word.rn mode]
    let half := decide (word.bit 26 = false ∧ opc = 1)
    if index = 0 then
      if half then reserved .noAllocatePair
      else done (if load then .ldnp else .stnp) operands
    else if half then
      if load then done .ldpsw operands else reserved .storeTagPair
    else done (if load then .ldp else .stp) operands

end A64.Decode
