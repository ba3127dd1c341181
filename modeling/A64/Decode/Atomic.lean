import A64.Decode.Basic

/-!
Atomic operations on memory. A load that acquires nothing and discards what it loads is a store.
-/

namespace A64.Decode

/-- The operations that combine a register with memory. -/
inductive AtomicKind where
  | add | clr | eor | set | smax | smin | umax | umin
  deriving DecidableEq

/-- The kind that a three-bit field selects. -/
def AtomicKind.ofBits (b : BitVec 3) : AtomicKind :=
  match b with
  | 0 => add
  | 1 => clr
  | 2 => eor
  | 3 => set
  | 4 => smax
  | 5 => smin
  | 6 => umax
  | _ => umin

/-- The size of an atomic access. -/
inductive AtomicSize where
  | byte | half | whole
  deriving DecidableEq

/-- The size that a two-bit field selects; words and doublewords differ only in the register. -/
def AtomicSize.ofBits (b : BitVec 2) : AtomicSize :=
  match b with
  | 0 => byte
  | 1 => half
  | _ => whole

/-- The operation that also loads, by kind, acquire, release and size. -/
def atomicLoad : AtomicKind → Bool → Bool → AtomicSize → Operation
  | .add, false, false, .byte => .ldaddb | .add, false, false, .half => .ldaddh
  | .add, false, false, .whole => .ldadd
  | .add, false, true, .byte => .ldaddlb | .add, false, true, .half => .ldaddlh
  | .add, false, true, .whole => .ldaddl
  | .add, true, false, .byte => .ldaddab | .add, true, false, .half => .ldaddah
  | .add, true, false, .whole => .ldadda
  | .add, true, true, .byte => .ldaddalb | .add, true, true, .half => .ldaddalh
  | .add, true, true, .whole => .ldaddal
  | .clr, false, false, .byte => .ldclrb | .clr, false, false, .half => .ldclrh
  | .clr, false, false, .whole => .ldclr
  | .clr, false, true, .byte => .ldclrlb | .clr, false, true, .half => .ldclrlh
  | .clr, false, true, .whole => .ldclrl
  | .clr, true, false, .byte => .ldclrab | .clr, true, false, .half => .ldclrah
  | .clr, true, false, .whole => .ldclra
  | .clr, true, true, .byte => .ldclralb | .clr, true, true, .half => .ldclralh
  | .clr, true, true, .whole => .ldclral
  | .eor, false, false, .byte => .ldeorb | .eor, false, false, .half => .ldeorh
  | .eor, false, false, .whole => .ldeor
  | .eor, false, true, .byte => .ldeorlb | .eor, false, true, .half => .ldeorlh
  | .eor, false, true, .whole => .ldeorl
  | .eor, true, false, .byte => .ldeorab | .eor, true, false, .half => .ldeorah
  | .eor, true, false, .whole => .ldeora
  | .eor, true, true, .byte => .ldeoralb | .eor, true, true, .half => .ldeoralh
  | .eor, true, true, .whole => .ldeoral
  | .set, false, false, .byte => .ldsetb | .set, false, false, .half => .ldseth
  | .set, false, false, .whole => .ldset
  | .set, false, true, .byte => .ldsetlb | .set, false, true, .half => .ldsetlh
  | .set, false, true, .whole => .ldsetl
  | .set, true, false, .byte => .ldsetab | .set, true, false, .half => .ldsetah
  | .set, true, false, .whole => .ldseta
  | .set, true, true, .byte => .ldsetalb | .set, true, true, .half => .ldsetalh
  | .set, true, true, .whole => .ldsetal
  | .smax, false, false, .byte => .ldsmaxb | .smax, false, false, .half => .ldsmaxh
  | .smax, false, false, .whole => .ldsmax
  | .smax, false, true, .byte => .ldsmaxlb | .smax, false, true, .half => .ldsmaxlh
  | .smax, false, true, .whole => .ldsmaxl
  | .smax, true, false, .byte => .ldsmaxab | .smax, true, false, .half => .ldsmaxah
  | .smax, true, false, .whole => .ldsmaxa
  | .smax, true, true, .byte => .ldsmaxalb | .smax, true, true, .half => .ldsmaxalh
  | .smax, true, true, .whole => .ldsmaxal
  | .smin, false, false, .byte => .ldsminb | .smin, false, false, .half => .ldsminh
  | .smin, false, false, .whole => .ldsmin
  | .smin, false, true, .byte => .ldsminlb | .smin, false, true, .half => .ldsminlh
  | .smin, false, true, .whole => .ldsminl
  | .smin, true, false, .byte => .ldsminab | .smin, true, false, .half => .ldsminah
  | .smin, true, false, .whole => .ldsmina
  | .smin, true, true, .byte => .ldsminalb | .smin, true, true, .half => .ldsminalh
  | .smin, true, true, .whole => .ldsminal
  | .umax, false, false, .byte => .ldumaxb | .umax, false, false, .half => .ldumaxh
  | .umax, false, false, .whole => .ldumax
  | .umax, false, true, .byte => .ldumaxlb | .umax, false, true, .half => .ldumaxlh
  | .umax, false, true, .whole => .ldumaxl
  | .umax, true, false, .byte => .ldumaxab | .umax, true, false, .half => .ldumaxah
  | .umax, true, false, .whole => .ldumaxa
  | .umax, true, true, .byte => .ldumaxalb | .umax, true, true, .half => .ldumaxalh
  | .umax, true, true, .whole => .ldumaxal
  | .umin, false, false, .byte => .lduminb | .umin, false, false, .half => .lduminh
  | .umin, false, false, .whole => .ldumin
  | .umin, false, true, .byte => .lduminlb | .umin, false, true, .half => .lduminlh
  | .umin, false, true, .whole => .lduminl
  | .umin, true, false, .byte => .lduminab | .umin, true, false, .half => .lduminah
  | .umin, true, false, .whole => .ldumina
  | .umin, true, true, .byte => .lduminalb | .umin, true, true, .half => .lduminalh
  | .umin, true, true, .whole => .lduminal

/-- The operation that only stores, by kind, release and size. -/
def atomicStore : AtomicKind → Bool → AtomicSize → Operation
  | .add, false, .byte => .staddb | .add, false, .half => .staddh | .add, false, .whole => .stadd
  | .add, true, .byte => .staddlb | .add, true, .half => .staddlh | .add, true, .whole => .staddl
  | .clr, false, .byte => .stclrb | .clr, false, .half => .stclrh | .clr, false, .whole => .stclr
  | .clr, true, .byte => .stclrlb | .clr, true, .half => .stclrlh | .clr, true, .whole => .stclrl
  | .eor, false, .byte => .steorb | .eor, false, .half => .steorh | .eor, false, .whole => .steor
  | .eor, true, .byte => .steorlb | .eor, true, .half => .steorlh | .eor, true, .whole => .steorl
  | .set, false, .byte => .stsetb | .set, false, .half => .stseth | .set, false, .whole => .stset
  | .set, true, .byte => .stsetlb | .set, true, .half => .stsetlh | .set, true, .whole => .stsetl
  | .smax, false, .byte => .stsmaxb | .smax, false, .half => .stsmaxh
  | .smax, false, .whole => .stsmax
  | .smax, true, .byte => .stsmaxlb | .smax, true, .half => .stsmaxlh
  | .smax, true, .whole => .stsmaxl
  | .smin, false, .byte => .stsminb | .smin, false, .half => .stsminh
  | .smin, false, .whole => .stsmin
  | .smin, true, .byte => .stsminlb | .smin, true, .half => .stsminlh
  | .smin, true, .whole => .stsminl
  | .umax, false, .byte => .stumaxb | .umax, false, .half => .stumaxh
  | .umax, false, .whole => .stumax
  | .umax, true, .byte => .stumaxlb | .umax, true, .half => .stumaxlh
  | .umax, true, .whole => .stumaxl
  | .umin, false, .byte => .stuminb | .umin, false, .half => .stuminh
  | .umin, false, .whole => .stumin
  | .umin, true, .byte => .stuminlb | .umin, true, .half => .stuminlh
  | .umin, true, .whole => .stuminl

/-- The exchange of a register with memory, by acquire, release and size. -/
def atomicSwap : Bool → Bool → AtomicSize → Operation
  | false, false, .byte => .swpb | false, false, .half => .swph | false, false, .whole => .swp
  | false, true, .byte => .swplb | false, true, .half => .swplh | false, true, .whole => .swpl
  | true, false, .byte => .swpab | true, false, .half => .swpah | true, false, .whole => .swpa
  | true, true, .byte => .swpalb | true, true, .half => .swpalh | true, true, .whole => .swpal

/-- A load with acquire semantics, by size. -/
def loadAcquire : AtomicSize → Operation
  | .byte => .ldaprb
  | .half => .ldaprh
  | .whole => .ldapr

/-- Atomic operations on memory. -/
def atomic (word : Word) : Decoding :=
  let opc := word.field 12 3
  let acquire := word.bit 23
  let release := word.bit 22
  let size := AtomicSize.ofBits (word.field 30 2)
  let sf := decide (word.field 30 2 = 3)
  let rs := gpr sf word.rs
  let rt := gpr sf word.rt
  let base := memoryBase word.rn
  if word.bit 26 then reserved .atomicVector
  else
    match word.bit 15, opc with
    | false, _ =>
      let kind := AtomicKind.ofBits opc
      if acquire = false ∧ word.rt = 31 then done (atomicStore kind release size) [rs, base]
      else done (atomicLoad kind acquire release size) [rs, rt, base]
    | true, 0b000 => done (atomicSwap acquire release size) [rs, rt, base]
    | true, 0b100 =>
      if acquire ∧ release = false ∧ word.rs = 31 then done (loadAcquire size) [rt, base]
      else reserved .loadAcquireFields
    | true, _ => reserved .atomicOpcode

end A64.Decode
