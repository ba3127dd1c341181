import A64.Decode.Basic

/-!
Exclusive, ordered and compare-and-swap accesses to memory.
-/

namespace A64.Decode

/-- The byte, halfword or whole-register form of an operation. -/
def bySize (size : BitVec 2) (byte half whole : Operation) : Operation :=
  match size with
  | 0 => byte
  | 1 => half
  | _ => whole

/-- Compare and swap of two registers each; pairs start at an even register. -/
def compareSwapPair (word : Word) : Decoding :=
  let op : Operation :=
    match word.bit 22, word.bit 15 with
    | false, false => .casp
    | false, true => .caspl
    | true, false => .caspa
    | true, true => .caspal
  let sf := word.bit 30
  if word.bit 16 ∨ word.bit 0 then reserved .oddRegisterPair
  else
    done op
      [gpr sf word.rs, gpr sf (word.rs + 1), gpr sf word.rt, gpr sf (word.rt + 1),
        memoryBase word.rn]

/-- Exclusive accesses of one register, with acquire or release semantics if `ordered`. -/
def exclusiveSingle (size : BitVec 2) (load ordered : Bool) : Operation :=
  match load, ordered with
  | false, false => bySize size .stxrb .stxrh .stxr
  | false, true => bySize size .stlxrb .stlxrh .stlxr
  | true, false => bySize size .ldxrb .ldxrh .ldxr
  | true, true => bySize size .ldaxrb .ldaxrh .ldaxr

/-- Accesses with acquire or release semantics, limited to a region unless `ordered`. -/
def orderedSingle (size : BitVec 2) (load ordered : Bool) : Operation :=
  match load, ordered with
  | false, false => bySize size .stllrb .stllrh .stllr
  | false, true => bySize size .stlrb .stlrh .stlr
  | true, false => bySize size .ldlarb .ldlarh .ldlar
  | true, true => bySize size .ldarb .ldarh .ldar

/-- Compare and swap of one register. -/
def compareSwapSingle (size : BitVec 2) (acquire release : Bool) : Operation :=
  match acquire, release with
  | false, false => bySize size .casb .cash .cas
  | false, true => bySize size .caslb .caslh .casl
  | true, false => bySize size .casab .casah .casa
  | true, true => bySize size .casalb .casalh .casal

/-- Exclusive, ordered and compare-and-swap accesses. -/
def exclusive (word : Word) : Decoding :=
  let size := word.field 30 2
  let sf := decide (size = 3)
  let load := word.bit 22
  let o0 := word.bit 15
  let status := gpr false word.rs
  let rt := gpr sf word.rt
  let rt2 := gpr sf word.rt2
  let base := memoryBase word.rn
  match word.bit 23, word.bit 21 with
  | false, false =>
    done (exclusiveSingle size load o0) (if load then [rt, base] else [status, rt, base])
  | false, true =>
    if word.bit 31 = false then compareSwapPair word
    else if load then done (if o0 then .ldaxp else .ldxp) [rt, rt2, base]
    else done (if o0 then .stlxp else .stxp) [status, rt, rt2, base]
  | true, false => done (orderedSingle size load o0) [rt, base]
  | true, true => done (compareSwapSingle size load o0) [gpr sf word.rs, rt, base]

/-- Accesses with release consistency at an offset, and the width of their register. -/
def releaseConsistent? (size opc : BitVec 2) : Option (Operation × Bool) :=
  match size, opc with
  | 0, 0 => some (.stlurb, false)
  | 0, 1 => some (.ldapurb, false)
  | 0, 2 => some (.ldapursb, true)
  | 0, _ => some (.ldapursb, false)
  | 1, 0 => some (.stlurh, false)
  | 1, 1 => some (.ldapurh, false)
  | 1, 2 => some (.ldapursh, true)
  | 1, _ => some (.ldapursh, false)
  | 2, 0 => some (.stlur, false)
  | 2, 1 => some (.ldapur, false)
  | 2, 2 => some (.ldapursw, true)
  | 3, 0 => some (.stlur, true)
  | 3, 1 => some (.ldapur, true)
  | _, _ => none

/-- Accesses with release consistency at an offset. -/
def releaseConsistent (word : Word) : Decoding :=
  match releaseConsistent? (word.field 30 2) (word.field 22 2) with
  | some (op, sf) => done op [gpr sf word.rt, memoryOffset word.rn (word.field 12 9).toInt]
  | none => reserved .releaseConsistentSize

end A64.Decode
