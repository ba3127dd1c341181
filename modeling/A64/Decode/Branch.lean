import A64.Decode.Basic
import A64.Operation.Name

/-!
Branches. A target is encoded as a signed number of words from the branch.
-/

namespace A64.Decode

/-- The address a signed number of words away. -/
def target {n : Nat} (address : Address) (words : BitVec n) : Operand :=
  label address (words.toInt * 4)

/-- Branches to a target, with or without a link. -/
def branchImmediate (word : Word) (address : Address) : Decoding :=
  done (if word.bit 31 then .bl else .b) [target address (word.field 0 26)]

/-- Branches under a condition on the flags. -/
def conditionalBranch (word : Word) (address : Address) : Decoding :=
  if word.bit 24 ∨ word.bit 4 then reserved .conditionalBranch
  else done (.branchIf (.ofBits (word.field 0 4))) [target address (word.field 5 19)]

/-- Branches on a register being zero or not. -/
def compareBranch (word : Word) (address : Address) : Decoding :=
  done (if word.bit 24 then .cbnz else .cbz)
    [gpr word.sf word.rt, target address (word.field 5 19)]

/-- Branches on a bit of a register. The highest bit of the bit's number is also the width of the
register. -/
def testBranch (word : Word) (address : Address) : Decoding :=
  done (if word.bit 24 then .tbnz else .tbz)
    [gpr word.sf word.rt, imm (word.field 31 1 ++ word.field 19 5),
      target address (word.field 5 14)]

/-- How a branch to a register is made. -/
inductive RegisterBranch where
  /-- The register holds the target. -/
  | plain (op : Operation)
  /-- The register holds the target, which is authenticated with a modifier register. -/
  | keyed (op : Operation)
  /-- Return from a call; the link register is not written. -/
  | ret
  /-- The target is not in a register. -/
  | implicit (op : Operation)

/-- Branches to a register that carry their other operand in the last field. -/
def registerBranch? (opc : BitVec 4) (op3 : BitVec 6) (op4 : BitVec 5) : Option RegisterBranch :=
  match opc, op3, op4 with
  | 0b0000, 0, 0 => some (.plain .br)
  | 0b0000, 2, 31 => some (.plain .braaz)
  | 0b0000, 3, 31 => some (.plain .brabz)
  | 0b0001, 0, 0 => some (.plain .blr)
  | 0b0001, 2, 31 => some (.plain .blraaz)
  | 0b0001, 3, 31 => some (.plain .blrabz)
  | 0b0010, 0, 0 => some .ret
  | 0b0010, 2, 31 => some (.implicit .retaa)
  | 0b0010, 3, 31 => some (.implicit .retab)
  | 0b0100, 0, 0 => some (.implicit .eret)
  | 0b0100, 2, 31 => some (.implicit .eretaa)
  | 0b0100, 3, 31 => some (.implicit .eretab)
  | 0b0101, 0, 0 => some (.implicit .drps)
  | 0b1000, 2, _ => some (.keyed .braa)
  | 0b1000, 3, _ => some (.keyed .brab)
  | 0b1001, 2, _ => some (.keyed .blraa)
  | 0b1001, 3, _ => some (.keyed .blrab)
  | _, _, _ => none

/-- Branches to a register. -/
def branchRegister (word : Word) : Decoding :=
  let op4 := word.field 0 5
  if word.field 16 5 ≠ 31 then reserved .branchRegisterOp2
  else
    match registerBranch? (word.field 21 4) (word.field 10 6) op4 with
    | some (.plain op) => done op [x word.rn]
    | some (.keyed op) => done op [x word.rn, xsp op4]
    | some .ret => done .ret (if word.rn = 30 then [] else [x word.rn])
    | some (.implicit op) =>
      if word.rn = 31 then done op [] else reserved .branchRegisterOpcode
    | none => reserved .branchRegisterOpcode

end A64.Decode
