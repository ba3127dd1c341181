import A64.Decode.Basic

/-!
Instructions that depend on the flags or set them directly: conditional comparison and selection,
rotation and evaluation into flags.
-/

namespace A64.Decode

/-- Rotation of a register into flags. -/
def rotateIntoFlags (word : Word) : Decoding :=
  if word.sf = false ∨ word.bit 30 ∨ word.bit 29 = false ∨ word.bit 4 then
    reserved .rotateIntoFlags
  else done .rmif [x word.rn, imm (word.field 15 6), imm (word.field 0 4)]

/-- Evaluation of a byte or halfword into flags. -/
def evaluateIntoFlags (word : Word) : Decoding :=
  if word.sf ∨ word.bit 30 ∨ word.bit 29 = false ∨ word.field 15 6 ≠ 0 ∨ word.bit 4 ∨
      word.field 0 4 ≠ 0b1101 then
    reserved .evaluateIntoFlags
  else done (if word.bit 14 then .setf16 else .setf8) [w word.rn]

/-- Comparison under a condition, with a register or an immediate. -/
def conditionalCompare (word : Word) : Decoding :=
  let second := if word.bit 11 then imm word.rm else gpr word.sf word.rm
  if word.bit 29 = false ∨ word.bit 10 ∨ word.bit 4 then reserved .conditionalCompare
  else
    done (if word.bit 30 then .ccmp else .ccmn)
      [gpr word.sf word.rn, second, imm (word.field 0 4), .condition (.ofBits (word.field 12 4))]

/-- Selection under a condition. With equal sources the selection changes one register or sets it
to a constant, under the opposite condition. -/
def conditionalSelect (word : Word) : Decoding :=
  let rd := gpr word.sf word.rd
  let rn := gpr word.sf word.rn
  let rm := gpr word.sf word.rm
  let cond := Condition.ofBits (word.field 12 4)
  let whole := [rd, rn, rm, .condition cond]
  let changed := [rd, rn, .condition cond.invert]
  let constant := [rd, .condition cond.invert]
  let zeros := decide (word.rn = 31 ∧ word.rm = 31)
  let equal := decide (word.rn = word.rm)
  if word.bit 29 then reserved .conditionalSelectFlags
  else if word.bit 11 then reserved .conditionalSelectOp2
  else
    match word.bit 30, word.bit 10 with
    | false, false => done .csel whole
    | false, true =>
      if cond.isAlways then done .csinc whole
      else if zeros then done .cset constant
      else if equal then done .cinc changed
      else done .csinc whole
    | true, false =>
      if cond.isAlways then done .csinv whole
      else if zeros then done .csetm constant
      else if equal then done .cinv changed
      else done .csinv whole
    | true, true =>
      if cond.isAlways then done .csneg whole
      else if equal then done .cneg changed
      else done .csneg whole

end A64.Decode
