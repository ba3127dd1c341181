import A64.Immediate.Spread
import A64.Word

/-!
Immediates of logical instructions: a run of ones, rotated in an element and repeated over the
register.

The field `N` and the complement of `imms` give the size of the element by their highest set bit.
The low bits of `imms` count the ones, less one, and those of `immr` the places of the rotation.
-/

namespace A64.LogicalMask

/-- The logarithm of the size of the element; zero if there is no element. -/
def elementLog2 (n : BitVec 1) (imms : BitVec 6) : Nat := (n ++ ~~~imms).toNat.log2

/-- The mask of `width` bits that the fields stand for. An encoding without a mask gives zero,
which is not a mask. -/
def expand (n : BitVec 1) (imms immr : BitVec 6) (width : Nat) : BitVec 64 :=
  let log2 := elementLog2 n imms
  let size := 1 <<< log2
  let last := imms.toNat % size
  if log2 = 0 ∨ last = size - 1 ∨ width < size then 0
  else
    let run := (BitVec.allOnes (last + 1)).setWidth size
    spread (run.rotateRight (immr.toNat % size)) width

/-- The mask of fields that are given as whole words, whose higher bits do not count. -/
def expandWords (n imms immr : Word) (width : Nat) : BitVec 64 :=
  expand (n.setWidth 1) (imms.setWidth 6) (immr.setWidth 6) width

/-- The test of the architecture by which an inclusive or of the mask with the zero register keeps
its own name, since a wide move is preferred. It finds ones that lie in one halfword, and zeros that
lie in one halfword and begin at its bit 2 or above. -/
def isWideMove (sf : Bool) (n : Nat) (imms immr : BitVec 6) : Bool :=
  let width := if sf then 64 else 32
  let s := imms.toNat
  let r := immr.toNat
  if n ≠ (if sf then 1 else 0) then false
  else if sf = false ∧ 32 ≤ s then false
  else if s < 16 then (16 - r % 16) % 16 ≤ 15 - s
  else if width - 15 ≤ s then r % 16 ≤ s - (width - 15)
  else false

/-- The same question of fields that are given as whole words. -/
def isWideMoveWords (sf : Bool) (n imms immr : Word) : Bool :=
  isWideMove sf n.toNat (imms.setWidth 6) (immr.setWidth 6)

end A64.LogicalMask
