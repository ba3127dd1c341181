import A64.Decode.Vector.Basic

/-!
Moving elements: copies between lanes and registers, table lookup, permutation and extraction.
-/

namespace A64.Decode

/-- The element and the lane that a copy names: the lowest set bit of the field gives the size of
the element, and the bits above it the lane. -/
def copyLane? (imm5 : BitVec 5) : Option (ElementSize × Nat) :=
  if imm5.getLsbD 0 then some (.b, imm5.toNat / 2)
  else if imm5.getLsbD 1 then some (.h, imm5.toNat / 4)
  else if imm5.getLsbD 2 then some (.s, imm5.toNat / 8)
  else if imm5.getLsbD 3 then some (.d, imm5.toNat / 16)
  else none

/-- Copies between lanes, and between a lane and a register. -/
def copy (word : Word) : Decoding :=
  let q := word.q
  let imm4 := word.field 11 4
  match copyLane? (word.field 16 5) with
  | none => reserved .copyElement
  | some (e, index) =>
    let destination := lane word.rd e index
    let source := lane word.rn e index
    let general := gpr (e = .d) word.rn
    if word.bit 29 then
      if q then done .mov [destination, lane word.rn e (imm4.toNat / bytes e.log2)]
      else reserved .insertElement
    else
      match imm4 with
      | 0b0000 =>
        if isLone e q then reserved .duplicateElement
        else done .dup [vector word.rd e q, source]
      | 0b0001 =>
        if isLone e q then reserved .duplicateGeneral
        else done .dup [vector word.rd e q, general]
      | 0b0011 => if q then done .mov [destination, general] else reserved .copyOpcode
      | 0b0101 =>
        if e = .b ∨ e = .h ∨ (e = .s ∧ q) then done .smov [gpr q word.rd, source]
        else reserved .copyOpcode
      | 0b0111 =>
        if decide (e = .d) = q then
          done (if e = .b ∨ e = .h then .umov else .mov) [gpr q word.rd, source]
        else reserved .copyOpcode
      | _ => reserved .copyOpcode

/-- The copy of a lane to a scalar. -/
def scalarCopy (word : Word) : Decoding :=
  match copyLane? (word.field 16 5) with
  | none => reserved .scalarCopy
  | some (e, index) =>
    if word.bit 29 ∨ word.field 11 4 ≠ 0 then reserved .scalarCopy
    else done .mov [scalar e word.rd, lane word.rn e index]

/-- Lookup of bytes in a table of up to four vectors. -/
def tableLookup (word : Word) : Decoding :=
  let table := vectorList word.rn ((word.field 13 2).toNat + 1) (.full .b true) none
  if word.field 22 2 ≠ 0 then reserved .tableLookup
  else
    done (if word.bit 12 then .tbx else .tbl)
      [vector word.rd .b word.q, table, vector word.rm .b word.q]

/-- Permutations of the elements of two vectors. -/
def permutation? (opcode : BitVec 3) : Option Operation :=
  match opcode with
  | 0b001 => some .uzp1
  | 0b010 => some .trn1
  | 0b011 => some .zip1
  | 0b101 => some .uzp2
  | 0b110 => some .trn2
  | 0b111 => some .zip2
  | _ => none

/-- Permutations of the elements of two vectors. -/
def permute (word : Word) : Decoding :=
  let e := elementSize word
  match permutation? (word.field 12 3) with
  | none => reserved .permuteOpcode
  | some op => if isLone e word.q then reserved .permuteDoubles else done op (vectors3 word e)

/-- The middle of two vectors. -/
def extractVector (word : Word) : Decoding :=
  let index := word.field 11 4
  if word.field 22 2 ≠ 0 ∨ (word.q = false ∧ 8 ≤ index) then reserved .extractVector
  else done .ext (vectors3 word .b ++ [imm index])

end A64.Decode
