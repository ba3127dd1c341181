import A64.Decode.Basic

/-!
Loads and stores of structures: consecutive vectors whose elements are interleaved in memory, one
lane of each, or one element replicated to all lanes.
-/

namespace A64.Decode

/-- The addressing mode of a structure access. After the access the base may advance by a register
or, if the field has the zero register's number, by the bytes transferred. -/
def structureMode (word : Word) (bytes : Nat) : AddressingMode :=
  if word.bit 23 = false then .base
  else if word.rm = 31 then .postIndex (.immediate bytes)
  else .postIndex (.register (.x word.rm))

/-- The access to structures of one to four elements. -/
def structureOperation (load : Bool) (elements : BitVec 2) : Operation :=
  match load, elements with
  | false, 0 => .st1
  | false, 1 => .st2
  | false, 2 => .st3
  | false, _ => .st4
  | true, 0 => .ld1
  | true, 1 => .ld2
  | true, 2 => .ld3
  | true, _ => .ld4

/-- The load that replicates structures of one to four elements. -/
def replicateOperation (elements : BitVec 2) : Operation :=
  match elements with
  | 0 => .ld1r
  | 1 => .ld2r
  | 2 => .ld3r
  | _ => .ld4r

/-- The number of registers and the size of a structure, less one, of a whole access. -/
def structureShape? (opcode : BitVec 4) : Option (Nat × BitVec 2) :=
  match opcode with
  | 0b0000 => some (4, 3)
  | 0b0010 => some (4, 0)
  | 0b0100 => some (3, 2)
  | 0b0110 => some (3, 0)
  | 0b0111 => some (1, 0)
  | 0b1000 => some (2, 1)
  | 0b1010 => some (2, 0)
  | _ => none

/-- Accesses to whole vectors. -/
def multipleStructures (word : Word) : Decoding :=
  let size := word.field 10 2
  if word.bit 21 then reserved .structuresBit21
  else if word.bit 23 = false ∧ word.rm ≠ 0 then reserved .structuresIndex
  else
    match structureShape? (word.field 12 4) with
    | none => reserved .structuresOpcode
    | some (count, elements) =>
      if size = 3 ∧ word.q = false ∧ elements ≠ 0 then reserved .structureOfDoubles
      else
        done (structureOperation (word.bit 22) elements)
          [vectorList word.rt count (.full (.ofField size) word.q) none,
            memory word.rn (structureMode word (count * if word.q then 16 else 8))]

/-- The element and the lane that a single access selects: the lane's bits are the ones of `Q`, `S`
and `size` that the element leaves. -/
def structureLane (word : Word) : Except Reserved (ElementSize × Nat) :=
  let size := word.field 10 2
  match word.field 14 2 with
  | 0b00 => .ok (.b, (word.field 30 1 ++ word.field 12 1 ++ size).toNat)
  | 0b01 =>
    if word.bit 10 then .error .structureHalfword
    else .ok (.h, (word.field 30 1 ++ word.field 12 1 ++ word.field 11 1).toNat)
  | _ =>
    if size = 0 then .ok (.s, (word.field 30 1 ++ word.field 12 1).toNat)
    else if size = 1 ∧ word.bit 12 = false then .ok (.d, (word.field 30 1).toNat)
    else .error .structureWord

/-- Accesses to one lane or to all lanes alike. -/
def singleStructure (word : Word) : Decoding :=
  let elements := word.field 13 1 ++ word.field 21 1
  let count := elements.toNat + 1
  let size := word.field 10 2
  if word.bit 23 = false ∧ word.rm ≠ 0 then reserved .structureIndex
  else if word.field 14 2 = 0b11 then
    if word.bit 22 = false ∨ word.bit 12 then reserved .replicate
    else
      done (replicateOperation elements)
        [vectorList word.rt count (.full (.ofField size) word.q) none,
          memory word.rn (structureMode word (count * bytes size.toNat))]
  else
    match structureLane word with
    | .error reason => reserved reason
    | .ok (e, lane) =>
      done (structureOperation (word.bit 22) elements)
        [vectorList word.rt count (.single e) (some lane),
          memory word.rn (structureMode word (count * bytes e.log2))]

end A64.Decode
