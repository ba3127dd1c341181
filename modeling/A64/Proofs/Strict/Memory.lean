import A64.Proofs.Layout
import A64.Proofs.Strict

/-!
# Strict loads and stores

The classes of loads and stores that look up their operation in a table: atomic operations,
exclusive accesses and the loads that replicate a structure. An atomic operation that only stores
is the whole row without the register that is loaded.
-/

namespace A64.Strict

open Decode

/-- The index of a size in a table: words and doublewords share the last entry. -/
def sizeIndex (size : BitVec 2) : Nat := min size.toNat 2

def bySizes (op : AtomicSize → Operation) : List Operation := [op .byte, op .half, op .whole]

def byOrders (op : Bool → Bool → AtomicSize → Operation) : List (List Operation) :=
  [bySizes (op false false), bySizes (op false true), bySizes (op true false),
    bySizes (op true true)]

/-- The kinds in the order of their encodings. -/
def atomicKinds : List AtomicKind := [.add, .clr, .eor, .set, .smax, .smin, .umax, .umin]

/-- The operations that load, by kind, order and size; the exchange comes last. -/
def atomicLoads : List (List (List Operation)) :=
  atomicKinds.map (fun kind => byOrders (atomicLoad kind)) ++ [byOrders atomicSwap]

/-- The operations that only store, by kind, release and size. -/
def atomicStores : List (List (List Operation)) :=
  atomicKinds.map fun kind => [bySizes (atomicStore kind false), bySizes (atomicStore kind true)]

/-- The entry of a table with three indices. -/
def entry (table : List (List (List Operation))) (i j k : Nat) : Option Operation := do
  let rows ← table[i]?
  let row ← rows[j]?
  row[k]?

/-- The place of a kind in the tables; the exchange has the place after the kinds. -/
def atomicIndex? (exchange : Bool) (opc : BitVec 3) : Option Nat :=
  match exchange, opc with
  | false, _ => some opc.toNat
  | true, 0 => some 8
  | true, _ => none

def atomic (word : Word) : Leaf :=
  let opc := word.field 12 3
  let acquire := word.bit 23
  let release := word.bit 22
  let size := sizeIndex (word.field 30 2)
  let sf := decide (word.field 30 2 = 3)
  let rt := gpr sf word.rt
  let base := memoryBase word.rn
  if word.bit 26 then rejected .atomicVector
  else if word.bit 15 ∧ opc = 0b100 then
    if acquire ∧ release = false ∧ word.rs = 31 then do
      let op ← (bySizes loadAcquire)[size]?
      built op [rt, base]
    else rejected .loadAcquireFields
  else
    match atomicIndex? (word.bit 15) opc with
    | none => rejected .atomicOpcode
    | some i => accepted do
      let op ← entry atomicLoads i (2 * acquire.toNat + release.toNat) size
      let whole ← Row.build op [gpr sf word.rs, rt, base]
      if i < 8 ∧ acquire = false ∧ word.rt = 31 then do
        let op ← entry atomicStores i release.toNat size
        (whole.named op).drop 1
      else some whole

theorem entry_atomicLoads (opc : BitVec 3) (acquire release : Bool) (size : BitVec 2) :
    entry atomicLoads opc.toNat (2 * acquire.toNat + release.toNat) (sizeIndex size) =
      some (atomicLoad (.ofBits opc) acquire release (.ofBits size)) := by
  revert opc acquire release size
  decide

theorem entry_atomicLoads_exchange (acquire release : Bool) (size : BitVec 2) :
    entry atomicLoads 8 (2 * acquire.toNat + release.toNat) (sizeIndex size) =
      some (atomicSwap acquire release (.ofBits size)) := by
  revert acquire release size
  decide

theorem entry_atomicStores (opc : BitVec 3) (release : Bool) (size : BitVec 2) :
    entry atomicStores opc.toNat release.toNat (sizeIndex size) =
      some (atomicStore (.ofBits opc) release (.ofBits size)) := by
  revert opc release size
  decide

theorem loadAcquire_eq (size : BitVec 2) :
    (bySizes loadAcquire)[sizeIndex size]? = some (loadAcquire (.ofBits size)) := by
  revert size
  decide

theorem atomic_eq (word : Word) : atomic word = outcome (Decode.atomic word) := by
  simp only [atomic, Decode.atomic, loadAcquire_eq]
  cases word.bit 15 with
  | false =>
    have hkind : (word.field 12 3).toNat < 8 := (word.field 12 3).isLt
    simp [atomicIndex?, entry_atomicLoads, entry_atomicStores, hkind]
  | true =>
    rcases threeBits_cases (word.field 12 3) with h | h | h | h | h | h | h | h <;>
      simp [h, atomicIndex?, entry_atomicLoads_exchange, built]

/-- The byte, halfword and whole-register forms of an exclusive access. -/
def exclusiveForms (load ordered : Bool) : List Operation :=
  match load, ordered with
  | false, false => [.stxrb, .stxrh, .stxr]
  | false, true => [.stlxrb, .stlxrh, .stlxr]
  | true, false => [.ldxrb, .ldxrh, .ldxr]
  | true, true => [.ldaxrb, .ldaxrh, .ldaxr]

def orderedForms (load ordered : Bool) : List Operation :=
  match load, ordered with
  | false, false => [.stllrb, .stllrh, .stllr]
  | false, true => [.stlrb, .stlrh, .stlr]
  | true, false => [.ldlarb, .ldlarh, .ldlar]
  | true, true => [.ldarb, .ldarh, .ldar]

def compareSwapForms (acquire release : Bool) : List Operation :=
  match acquire, release with
  | false, false => [.casb, .cash, .cas]
  | false, true => [.caslb, .caslh, .casl]
  | true, false => [.casab, .casah, .casa]
  | true, true => [.casalb, .casalh, .casal]

def exclusive (word : Word) : Leaf :=
  let size := word.field 30 2
  let sf := decide (size = 3)
  let load := word.bit 22
  let o0 := word.bit 15
  let rt := gpr sf word.rt
  let base := memoryBase word.rn
  match word.bit 23, word.bit 21 with
  | false, false => do
    let op ← (exclusiveForms load o0)[sizeIndex size]?
    built op (if load then [rt, base] else [gpr false word.rs, rt, base])
  | false, true => pushed (Decode.exclusive word)
  | true, false => do
    let op ← (orderedForms load o0)[sizeIndex size]?
    built op [rt, base]
  | true, true => do
    let op ← (compareSwapForms load o0)[sizeIndex size]?
    built op [gpr sf word.rs, rt, base]

theorem exclusiveForms_eq (load ordered : Bool) (size : BitVec 2) :
    (exclusiveForms load ordered)[sizeIndex size]? = some (exclusiveSingle size load ordered) := by
  revert load ordered size
  decide

theorem orderedForms_eq (load ordered : Bool) (size : BitVec 2) :
    (orderedForms load ordered)[sizeIndex size]? = some (orderedSingle size load ordered) := by
  revert load ordered size
  decide

theorem compareSwapForms_eq (acquire release : Bool) (size : BitVec 2) :
    (compareSwapForms acquire release)[sizeIndex size]? =
      some (compareSwapSingle size acquire release) := by
  revert acquire release size
  decide

theorem exclusive_eq (word : Word) : exclusive word = outcome (Decode.exclusive word) := by
  have hpushed : pushed (Decode.exclusive word) = outcome (Decode.exclusive word) :=
    pushed_of_regular (regular_exclusive word)
  simp only [exclusive, exclusiveForms_eq, orderedForms_eq, compareSwapForms_eq]
  cases hbit23 : word.bit 23 <;> cases hbit21 : word.bit 21
  · cases hload : word.bit 22 <;> simp [Decode.exclusive, hbit23, hbit21, hload, built]
  · exact hpushed
  · simp [Decode.exclusive, hbit23, hbit21, built]
  · simp [Decode.exclusive, hbit23, hbit21, built]

def replications : List Operation := [.ld1r, .ld2r, .ld3r, .ld4r]

def singleStructure (word : Word) : Leaf :=
  let count := (word.field 13 1 ++ word.field 21 1).toNat + 1
  let size := word.field 10 2
  if word.bit 23 = false ∧ word.rm ≠ 0 then rejected .structureIndex
  else if word.field 14 2 = 0b11 then
    if word.bit 22 = false ∨ word.bit 12 then rejected .replicate
    else do
      let i ← minus count 1
      let op ← replications[i]?
      built op
        [vectorList word.rt count (.full (.ofField size) word.q) none,
          memory word.rn (structureMode word (count * bytes size.toNat))]
  else pushed (Decode.singleStructure word)

theorem replications_eq (elements : BitVec 2) :
    replications[elements.toNat]? = some (replicateOperation elements) := by
  revert elements
  decide

theorem singleStructure_eq (word : Word) :
    singleStructure word = outcome (Decode.singleStructure word) := by
  simp only [singleStructure]
  split
  · rename_i hindex
    simp only [Decode.singleStructure, if_pos hindex, outcome_reserved]
  · split
    · rename_i hindex hall
      have hop := replications_eq (word.field 13 1 ++ word.field 21 1)
      rw [minus_of_le (Nat.le_add_left 1 _), Nat.add_sub_cancel]
      simp only [Option.bind_eq_bind, Option.bind_some]
      rw [hop, Option.bind_some]
      simp only [Decode.singleStructure, if_neg hindex, if_pos hall]
      simp [built]
    · exact pushed_of_regular (regular_singleStructure word)

def loadStore (word : Word) (address : Address) : Leaf :=
  match MemoryClass.ofWord word with
  | .error reason => rejected reason
  | .ok .singleStructure => singleStructure word
  | .ok .exclusive => exclusive word
  | .ok .atomic => atomic word
  | .ok cls => pushed (cls.meaning word address)

theorem loadStore_eq (word : Word) (address : Address) :
    loadStore word address = outcome (Decode.loadStore word address) := by
  unfold loadStore Decode.loadStore
  cases hcls : MemoryClass.ofWord word with
  | error reason => rfl
  | ok cls =>
    cases cls with
    | multipleStructures => exact pushed_of_regular (regular_multipleStructures word)
    | singleStructure => exact singleStructure_eq word
    | exclusive => exact exclusive_eq word
    | atomic => exact atomic_eq word
    | releaseConsistent => exact pushed_of_regular (regular_releaseConsistent word)
    | literal => exact pushed_of_form (exists_form_literal word hcls) address
    | pair => exact pushed_of_regular (regular_pair word)
    | unsignedOffset => exact pushed_of_regular (regular_unsignedOffset word)
    | signedOffset => exact pushed_of_regular (regular_signedOffset word)
    | registerOffset => exact pushed_of_regular (regular_registerOffset word)
    | authenticatedLoad => exact pushed_of_regular (regular_authenticatedLoad word)

end A64.Strict
