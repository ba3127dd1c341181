import A64.Proofs.Layout
import A64.Proofs.Strict

/-!
# Strict integer data processing

The classes of integer data processing with their partial operations: a short form is the whole
row with operands dropped or replaced, an amount is a difference, and a condition or a keyed
operation is an entry of a table. Each has the outcome of the total class.
-/

namespace A64.Strict

open Decode

/-- A pattern rotated to the right. -/
def rotated {n : Nat} (pattern : BitVec n) (r : Nat) : Option (BitVec n) := do
  let rest ← minus n (r % n)
  some (pattern >>> (r % n) ||| pattern <<< rest)

theorem rotated_eq {n : Nat} (pattern : BitVec n) (r : Nat) (hn : 0 < n) :
    rotated pattern r = some (pattern.rotateRight r) := by
  have hr : r % n ≤ n := Nat.le_of_lt (Nat.mod_lt r hn)
  simp [rotated, minus_of_le hr, BitVec.rotateRight, BitVec.rotateRightAux]

def mask (n : BitVec 1) (imms immr : BitVec 6) (width : Nat) : Option (BitVec 64) :=
  if n ++ ~~~imms = 0 then some 0
  else do
    let log2 ← highestBit (n ++ ~~~imms)
    let size := 1 <<< log2
    let all ← minus size 1
    let last := imms.toNat % size
    if log2 = 0 ∨ last = all ∨ width < size then some 0
    else do
      let pattern ← rotated ((BitVec.allOnes (last + 1)).setWidth size) (immr.toNat % size)
      some (spread pattern width)

theorem mask_eq (n : BitVec 1) (imms immr : BitVec 6) (width : Nat) :
    mask n imms immr width = some (LogicalMask.expand n imms immr width) := by
  have hlog2 : LogicalMask.elementLog2 n imms = (n ++ ~~~imms).toNat.log2 := rfl
  unfold mask LogicalMask.expand
  rw [hlog2]
  split
  · rename_i h
    simp [h]
  · rename_i h
    rw [highestBit_of_ne h]
    simp only [Option.bind_eq_bind, Option.bind_some]
    generalize (n ++ ~~~imms).toNat.log2 = log2
    have hsize : 1 ≤ 1 <<< log2 := by
      rw [Nat.one_shiftLeft]
      exact Nat.one_le_two_pow
    rw [minus_of_le hsize, Option.bind_some]
    split
    · rfl
    · rw [rotated_eq _ _ hsize, Option.bind_some]

/-- Whether a wide move is preferred for a mask. -/
def wideMove (sf : Bool) (n : Nat) (imms immr : BitVec 6) : Option Bool :=
  let s := imms.toNat
  let r := immr.toNat
  if n ≠ (if sf then 1 else 0) then some false
  else if sf = false ∧ 32 ≤ s then some false
  else if s < 16 then do
    let left ← minus 16 (r % 16)
    let room ← minus 15 s
    some (left % 16 ≤ room)
  else do
    let first ← minus (if sf then 64 else 32) 15
    if first ≤ s then do
      let room ← minus s first
      some (r % 16 ≤ room)
    else some false

theorem wideMove_eq (sf : Bool) (n : Nat) (imms immr : BitVec 6) :
    wideMove sf n imms immr = some (LogicalMask.isWideMove sf n imms immr) := by
  have hr : immr.toNat % 16 ≤ 16 := by omega
  have hwidth : 15 ≤ if sf then 64 else 32 := by split <;> omega
  simp only [wideMove, LogicalMask.isWideMove, apply_ite some]
  generalize (if sf then 64 else 32) = width at hwidth ⊢
  generalize (if sf then 1 else 0) = whole
  split
  · rfl
  · split
    · rfl
    · split
      · rename_i hs
        rw [minus_of_le hr, minus_of_le (by omega : imms.toNat ≤ 15)]
        rfl
      · rw [minus_of_le hwidth, Option.bind_eq_bind, Option.bind_some]
        split
        · rename_i hs
          rw [minus_of_le hs]
          rfl
        · rfl

def addSubImmediate (word : Word) : Leaf :=
  let shift := word.field 22 2
  let imm12 := word.field 10 12
  let rd := if word.bit 29 then gpr word.sf word.rd else gprOrStack word.sf word.rd
  if 1 < shift then rejected .addSubImmediateShift
  else accepted do
    let whole ← Row.build (addSub (word.bit 30) (word.bit 29))
      [rd, gprOrStack word.sf word.rn, immLsl imm12 (12 * shift.toNat)]
    match word.bit 30, word.bit 29 with
    | false, false =>
      if shift = 0 ∧ imm12 = 0 ∧ (word.rd = 31 ∨ word.rn = 31) then (whole.named .mov).drop 2
      else some whole
    | false, true => if word.rd = 31 then (whole.named .cmn).drop 0 else some whole
    | true, true => if word.rd = 31 then (whole.named .cmp).drop 0 else some whole
    | true, false => some whole

theorem addSubImmediate_eq (word : Word) :
    addSubImmediate word = outcome (Decode.addSubImmediate word) := by
  unfold addSubImmediate Decode.addSubImmediate
  cases word.bit 30 <;> cases word.bit 29 <;> simp [addSub]

def logicalImmediate (word : Word) : Leaf :=
  let n := word.field 22 1
  let imms := word.field 10 6
  let immr := word.field 16 6
  let opc := word.field 29 2
  let rd := if opc = 3 then gpr word.sf word.rd else gprOrStack word.sf word.rd
  if word.sf = false ∧ n = 1 then rejected .logicalImmediateN
  else do
    let mask ← mask n imms immr (if word.sf then 64 else 32)
    if mask = 0 then rejected .logicalImmediateMask
    else accepted do
      let whole ← Row.build
        (match opc with
          | 0b00 => .and
          | 0b01 => .orr
          | 0b10 => .eor
          | _ => .ands)
        [rd, gpr word.sf word.rn, if word.sf then imm64 mask else imm mask]
      match opc with
      | 0b01 =>
        if word.rn = 31 then do
          let wide ← wideMove word.sf n.toNat imms immr
          if wide = false then (whole.named .mov).drop 1 else some whole
        else some whole
      | 0b11 => if word.rd = 31 then (whole.named .tst).drop 0 else some whole
      | _ => some whole

theorem logicalImmediate_eq (word : Word) :
    logicalImmediate word = outcome (Decode.logicalImmediate word) := by
  simp only [logicalImmediate, Decode.logicalImmediate, mask_eq, wideMove_eq]
  generalize LogicalMask.expand _ _ _ _ = mask
  generalize LogicalMask.isWideMove _ _ _ _ = wide
  rcases twoBits_cases (word.field 29 2) with h | h | h | h <;> by_cases hrn : word.rn = 31#5 <;>
    simp [h, hrn]

def moveWide (word : Word) : Leaf :=
  let hw := word.field 21 2
  let imm16 := word.field 5 16
  let shift := 16 * hw.toNat
  let value : BitVec 64 := imm16.setWidth 64 <<< shift
  let spelled := decide (imm16 ≠ 0 ∨ hw = 0)
  let opc := word.field 29 2
  if opc = 0b01 then rejected .moveWideOpcode
  else if word.sf = false ∧ 2 ≤ hw then rejected .moveWideHalfword
  else accepted do
    let whole ← Row.build
      (match opc with
        | 0b00 => .movn
        | 0b10 => .movz
        | _ => .movk)
      [gpr word.sf word.rd, immLsl imm16 shift]
    match opc with
    | 0b00 =>
      if spelled ∧ (word.sf ∨ imm16 ≠ 0xffff) then
        (whole.named .mov).replace 1 (some
          (if word.sf then signed64 (~~~value) else signed32 ((~~~value).setWidth 32)))
      else some whole
    | 0b10 =>
      if spelled then
        (whole.named .mov).replace 1 (some (if word.sf then imm64 value else imm value))
      else some whole
    | _ => some whole

theorem moveWide_eq (word : Word) : moveWide word = outcome (Decode.moveWide word) := by
  simp only [moveWide, Decode.moveWide]
  rcases twoBits_cases (word.field 29 2) with h | h | h | h <;> simp [h]

/-- Moves of a field that fill with copies of the sign; `lsb` is where an inserted field goes. -/
def signedBitfield (sf : Bool) (rd rn : BitVec 5) (immr imms : BitVec 6) (lsb : Operand) : Leaf :=
  if imms.toNat ≠ (if sf then 63 else 31) ∧ imms < immr then
    built .sbfiz [gpr sf rd, gpr sf rn, lsb, immNat (imms.toNat + 1)]
  else pushed (.ok (Decode.signedBitfield sf rd rn immr imms))

def insertedBitfield (sf : Bool) (rd rn : BitVec 5) (immr imms : BitVec 6) (lsb : Operand) :
    Leaf :=
  if imms < immr then
    if rn = 31 then built .bfc [gpr sf rd, lsb, immNat (imms.toNat + 1)]
    else built .bfi [gpr sf rd, gpr sf rn, lsb, immNat (imms.toNat + 1)]
  else pushed (.ok (Decode.insertedBitfield sf rd rn immr imms))

def unsignedBitfield (sf : Bool) (rd rn : BitVec 5) (immr imms : BitVec 6) (lsb : Operand) :
    Leaf :=
  let last : Nat := if sf then 63 else 31
  if imms.toNat ≠ last ∧ imms.toNat + 1 = immr.toNat then do
    let amount ← minus last imms.toNat
    built .lsl [gpr sf rd, gpr sf rn, immNat amount]
  else if imms.toNat ≠ last ∧ imms < immr then
    built .ubfiz [gpr sf rd, gpr sf rn, lsb, immNat (imms.toNat + 1)]
  else pushed (.ok (Decode.unsignedBitfield sf rd rn immr imms))

/-- Moves of a field of a register. The field that is inserted goes to the bit that the rotation
leaves of the register's width. -/
def bitfield (word : Word) : Leaf :=
  let immr := word.field 16 6
  let imms := word.field 10 6
  let last : Nat := if word.sf then 63 else 31
  if word.field 29 2 = 0b11 then rejected .bitfieldOpcode
  else if word.sf ≠ word.bit 22 then rejected .bitfieldN
  else if word.sf = false ∧ (32 ≤ immr ∨ 32 ≤ imms) then rejected .bitfieldRange
  else do
    let rest ← minus (last + 1) immr.toNat
    let lsb := immNat (rest % (last + 1))
    match word.field 29 2 with
    | 0b00 => signedBitfield word.sf word.rd word.rn immr imms lsb
    | 0b01 => insertedBitfield word.sf word.rd word.rn immr imms lsb
    | _ => unsignedBitfield word.sf word.rd word.rn immr imms lsb

section Bitfield

variable {sf : Bool} {rd rn : BitVec 5} {immr imms : BitVec 6} {lsb : Operand}

theorem signedBitfield_eq
    (h : imms < immr → lsb = immNat ((if sf then 63 else 31) + 1 - immr.toNat)) :
    signedBitfield sf rd rn immr imms lsb =
      outcome (.ok (Decode.signedBitfield sf rd rn immr imms)) := by
  unfold signedBitfield
  by_cases hins : imms.toNat ≠ (if sf then 63 else 31) ∧ imms < immr
  · rw [if_pos hins, h hins.2]
    simp [Decode.signedBitfield, hins, built]
  · rw [if_neg hins]
    exact pushed_of_regular (regular_signedBitfield sf rd rn immr imms)

theorem insertedBitfield_eq
    (h : imms < immr → lsb = immNat ((if sf then 63 else 31) + 1 - immr.toNat)) :
    insertedBitfield sf rd rn immr imms lsb =
      outcome (.ok (Decode.insertedBitfield sf rd rn immr imms)) := by
  unfold insertedBitfield
  by_cases hins : imms < immr
  · rw [if_pos hins, h hins]
    by_cases hrn : rn = 31#5 <;> simp [Decode.insertedBitfield, hins, hrn, built]
  · rw [if_neg hins]
    exact pushed_of_regular (regular_insertedBitfield sf rd rn immr imms)

theorem unsignedBitfield_eq (hlast : imms.toNat ≤ if sf then 63 else 31)
    (h : imms < immr → lsb = immNat ((if sf then 63 else 31) + 1 - immr.toNat)) :
    unsignedBitfield sf rd rn immr imms lsb =
      outcome (.ok (Decode.unsignedBitfield sf rd rn immr imms)) := by
  simp only [unsignedBitfield]
  by_cases hlsl : imms.toNat ≠ (if sf then 63 else 31) ∧ imms.toNat + 1 = immr.toNat
  · rw [if_pos hlsl, minus_of_le hlast]
    simp [Decode.unsignedBitfield, hlsl, built]
  · rw [if_neg hlsl]
    by_cases hins : imms.toNat ≠ (if sf then 63 else 31) ∧ imms < immr
    · rw [if_pos hins, h hins.2]
      have hne : imms.toNat + 1 ≠ immr.toNat := fun heq => hlsl ⟨hins.1, heq⟩
      simp [Decode.unsignedBitfield, hins, hne, built]
    · rw [if_neg hins]
      exact pushed_of_regular (regular_unsignedBitfield sf rd rn immr imms)

end Bitfield

theorem bitfield_eq (word : Word) : bitfield word = outcome (Decode.bitfield word) := by
  simp only [bitfield, Decode.bitfield, outcome_ite, outcome_reserved]
  split
  · rfl
  split
  · rfl
  split
  · rfl
  rename_i hopc hn hrange
  generalize word.field 16 6 = immr at hrange ⊢
  generalize word.field 10 6 = imms at hrange ⊢
  -- in the 32-bit form the check above bounds the fields, in the 64-bit form their width does
  have hlast : immr.toNat ≤ (if word.sf then 63 else 31) ∧
      imms.toNat ≤ (if word.sf then 63 else 31) := by
    have hr := immr.isLt
    have hs := imms.isLt
    cases hsf : word.sf with
    | true => simp; omega
    | false =>
      simp [hsf, BitVec.le_def] at hrange ⊢
      omega
  have hlsb (last : Nat) (hlt : imms < immr) :
      immNat ((last + 1 - immr.toNat) % (last + 1)) = immNat (last + 1 - immr.toNat) := by
    have hpos : imms.toNat < immr.toNat := hlt
    rw [Nat.mod_eq_of_lt (by omega)]
  rw [minus_of_le (Nat.le_succ_of_le hlast.1), Option.bind_eq_bind, Option.bind_some]
  rcases twoBits_cases (word.field 29 2) with h | h | h | h <;> simp only [h]
  · exact signedBitfield_eq (hlsb _)
  · exact insertedBitfield_eq (hlsb _)
  · exact unsignedBitfield_eq hlast.2 (hlsb _)
  · exact absurd h hopc

def extract (word : Word) : Leaf :=
  let imms := word.field 10 6
  if word.field 29 2 ≠ 0 ∨ word.bit 21 then rejected .extractOpcode
  else if word.sf ≠ word.bit 22 then rejected .extractN
  else if word.sf = false ∧ 32 ≤ imms then rejected .extractRange
  else accepted do
    let whole ← Row.build .extr
      [gpr word.sf word.rd, gpr word.sf word.rn, gpr word.sf word.rm, imm imms]
    if word.rn = word.rm then (whole.named .ror).drop 2 else some whole

theorem extract_eq (word : Word) : extract word = outcome (Decode.extract word) := by
  simp [extract, Decode.extract]

/-! ### Data processing of registers -/

def logicalShifted (word : Word) : Leaf :=
  let shift := word.field 22 2
  let imm6 := word.field 10 6
  let opc := word.field 29 2
  if word.sf = false ∧ 32 ≤ imm6 then rejected .shiftAmount
  else accepted do
    let whole ← Row.build
      (match opc, word.bit 21 with
        | 0b00, false => .and
        | 0b00, true => .bic
        | 0b01, false => .orr
        | 0b01, true => .orn
        | 0b10, false => .eor
        | 0b10, true => .eon
        | _, false => .ands
        | _, true => .bics)
      [gpr word.sf word.rd, gpr word.sf word.rn,
        shiftedGpr word.sf word.rm (.ofShiftBits shift) imm6.toNat]
    match opc, word.bit 21 with
    | 0b01, false =>
      if word.rn = 31 ∧ shift = 0 ∧ imm6 = 0 then (whole.named .mov).drop 1 else some whole
    | 0b01, true => if word.rn = 31 then (whole.named .mvn).drop 1 else some whole
    | 0b11, false => if word.rd = 31 then (whole.named .tst).drop 0 else some whole
    | _, _ => some whole

theorem logicalShifted_eq (word : Word) :
    logicalShifted word = outcome (Decode.logicalShifted word) := by
  simp only [logicalShifted, Decode.logicalShifted]
  rcases twoBits_cases (word.field 29 2) with h | h | h | h <;> cases word.bit 21 <;> simp [h]

def addSubShifted (word : Word) : Leaf :=
  let shift := word.field 22 2
  let imm6 := word.field 10 6
  if shift = 3 then rejected .addSubRotate
  else if word.sf = false ∧ 32 ≤ imm6 then rejected .shiftAmount
  else accepted do
    let whole ← Row.build (addSub (word.bit 30) (word.bit 29))
      [gpr word.sf word.rd, gpr word.sf word.rn,
        shiftedGpr word.sf word.rm (.ofShiftBits shift) imm6.toNat]
    match word.bit 30, word.bit 29 with
    | false, false => some whole
    | false, true => if word.rd = 31 then (whole.named .cmn).drop 0 else some whole
    | true, false => if word.rn = 31 then (whole.named .neg).drop 1 else some whole
    | true, true =>
      if word.rd = 31 then (whole.named .cmp).drop 0
      else if word.rn = 31 then (whole.named .negs).drop 1
      else some whole

theorem addSubShifted_eq (word : Word) :
    addSubShifted word = outcome (Decode.addSubShifted word) := by
  simp only [addSubShifted, Decode.addSubShifted]
  cases word.bit 30 <;> cases word.bit 29 <;> simp [addSub]

def addSubExtended (word : Word) : Leaf :=
  let amount := word.field 10 3
  let flags := word.bit 29
  let besideStack := decide (word.rn = 31 ∨ (flags = false ∧ word.rd = 31))
  let rd := if flags then gpr word.sf word.rd else gprOrStack word.sf word.rd
  if word.field 22 2 ≠ 0 then rejected .addSubExtendedOption
  else if 4 < amount then rejected .addSubExtendedAmount
  else accepted do
    let whole ← Row.build (addSub (word.bit 30) flags)
      [rd, gprOrStack word.sf word.rn,
        extendedRegister word.sf word.rm (word.field 13 3) amount.toNat besideStack]
    match word.bit 30, flags with
    | false, true => if word.rd = 31 then (whole.named .cmn).drop 0 else some whole
    | true, true => if word.rd = 31 then (whole.named .cmp).drop 0 else some whole
    | _, false => some whole

theorem addSubExtended_eq (word : Word) :
    addSubExtended word = outcome (Decode.addSubExtended word) := by
  simp only [addSubExtended, Decode.addSubExtended]
  cases word.bit 30 <;> cases word.bit 29 <;> simp [addSub]

def addSubCarry (word : Word) : Leaf :=
  accepted do
    let whole ← Row.build
      (match word.bit 30, word.bit 29 with
        | false, false => .adc
        | false, true => .adcs
        | true, false => .sbc
        | true, true => .sbcs)
      [gpr word.sf word.rd, gpr word.sf word.rn, gpr word.sf word.rm]
    match word.bit 30, word.bit 29 with
    | true, false => if word.rn = 31 then (whole.named .ngc).drop 1 else some whole
    | true, true => if word.rn = 31 then (whole.named .ngcs).drop 1 else some whole
    | false, _ => some whole

theorem addSubCarry_eq (word : Word) : addSubCarry word = outcome (Decode.addSubCarry word) := by
  simp only [addSubCarry, Decode.addSubCarry]
  cases word.bit 30 <;> cases word.bit 29 <;> simp

def conditionalCompare (word : Word) : Leaf :=
  let second := if word.bit 11 then imm word.rm else gpr word.sf word.rm
  if word.bit 29 = false ∨ word.bit 10 ∨ word.bit 4 then rejected .conditionalCompare
  else do
    let cond ← condition (word.field 12 4)
    built (if word.bit 30 then .ccmp else .ccmn)
      [gpr word.sf word.rn, second, imm (word.field 0 4), .condition cond]

theorem conditionalCompare_eq (word : Word) :
    conditionalCompare word = outcome (Decode.conditionalCompare word) := by
  simp [conditionalCompare, Decode.conditionalCompare, built]

/-- A selection that changes its first source under the opposite condition. -/
def changed (whole : Row) (op : Operation) (cond : Condition) : Option Row := do
  let opposite ← condition (cond.bits ^^^ 1)
  let selected ← (whole.named op).replace 3 (some (.condition opposite))
  selected.drop 2

/-- A selection of a constant under the opposite condition. -/
def constant (whole : Row) (op : Operation) (cond : Condition) : Option Row := do
  let selected ← changed whole op cond
  selected.drop 1

def conditionalSelect (word : Word) : Leaf :=
  let zeros := decide (word.rn = 31 ∧ word.rm = 31)
  let equal := decide (word.rn = word.rm)
  if word.bit 29 then rejected .conditionalSelectFlags
  else if word.bit 11 then rejected .conditionalSelectOp2
  else accepted do
    let cond ← condition (word.field 12 4)
    let whole ← Row.build
      (match word.bit 30, word.bit 10 with
        | false, false => .csel
        | false, true => .csinc
        | true, false => .csinv
        | true, true => .csneg)
      [gpr word.sf word.rd, gpr word.sf word.rn, gpr word.sf word.rm, .condition cond]
    if cond.isAlways then some whole
    else
      match word.bit 30, word.bit 10 with
      | false, false => some whole
      | false, true =>
        if zeros then constant whole .cset cond
        else if equal ∧ word.rn ≠ 31 then changed whole .cinc cond
        else some whole
      | true, false =>
        if zeros then constant whole .csetm cond
        else if equal ∧ word.rn ≠ 31 then changed whole .cinv cond
        else some whole
      | true, true => if equal then changed whole .cneg cond else some whole

theorem changed_eq (op op' : Operation) (cond : Condition) (rd rn rm : Operand) :
    changed (.ofList op [rd, rn, rm, .condition cond]) op' cond =
      some (.ofList op' [rd, rn, .condition cond.invert]) := by
  simp [changed, Condition.invert]

theorem constant_eq (op op' : Operation) (cond : Condition) (rd rn rm : Operand) :
    constant (.ofList op [rd, rn, rm, .condition cond]) op' cond =
      some (.ofList op' [rd, .condition cond.invert]) := by
  simp [constant, changed_eq]

theorem conditionalSelect_eq (word : Word) :
    conditionalSelect word = outcome (Decode.conditionalSelect word) := by
  simp only [conditionalSelect, Decode.conditionalSelect]
  by_cases hzeros : word.rn = 31#5 ∧ word.rm = 31#5
  · cases word.bit 30 <;> cases word.bit 10 <;> simp [hzeros, changed_eq, constant_eq]
  · have hequal : word.rn = word.rm ∧ word.rn ≠ 31#5 ↔ word.rn = word.rm :=
      and_iff_left_of_imp fun heq hrn => hzeros ⟨hrn, heq ▸ hrn⟩
    cases word.bit 30 <;> cases word.bit 10 <;> simp [hzeros, hequal, changed_eq]

/-- The operations that authenticate with a modifier register. -/
def keyedOperations : List Operation :=
  [.pacia, .pacib, .pacda, .pacdb, .autia, .autib, .autda, .autdb]

/-- The operations that authenticate with a modifier of zero. -/
def zeroOperations : List Operation :=
  [.paciza, .pacizb, .pacdza, .pacdzb, .autiza, .autizb, .autdza, .autdzb]

def pointerAuthentication (opcode : BitVec 6) (rd rn : BitVec 5) : Leaf :=
  if opcode < 8 then do
    let op ← keyedOperations[opcode.toNat]?
    built op [x rd, xsp rn]
  else if rn ≠ 31 then rejected .pointerAuthentication
  else if opcode < 16 then do
    let op ← zeroOperations[(opcode &&& 7).toNat]?
    built op [x rd]
  else if opcode = 16 then built .xpaci [x rd]
  else if opcode = 17 then built .xpacd [x rd]
  else rejected .pointerAuthentication

theorem keyedOperations_eq (opcode : BitVec 6) (h : opcode < 8) :
    keyedOperations[opcode.toNat]? = some (authenticate (opcode.setWidth 3)) := by
  revert opcode
  decide

theorem zeroOperations_eq (opcode : BitVec 6) :
    zeroOperations[(opcode &&& 7).toNat]? = some (authenticateZero (opcode.setWidth 3)) := by
  revert opcode
  decide

theorem pointerAuthentication_eq (opcode : BitVec 6) (rd rn : BitVec 5) :
    pointerAuthentication opcode rd rn = outcome (Decode.pointerAuthentication opcode rd rn) := by
  simp only [pointerAuthentication, Decode.pointerAuthentication, zeroOperations_eq]
  split
  · rename_i h
    simp [keyedOperations_eq opcode h, built]
  · simp [built]

def oneSource (word : Word) : Leaf :=
  if word.bit 29 = false ∧ word.field 16 5 = 1 ∧ word.sf then
    pointerAuthentication (word.field 10 6) word.rd word.rn
  else pushed (Decode.oneSource word)

theorem oneSource_eq (word : Word) : oneSource word = outcome (Decode.oneSource word) := by
  unfold oneSource
  split
  · rename_i h
    obtain ⟨hflags, hopcode2, hsf⟩ := h
    rw [pointerAuthentication_eq]
    simp [Decode.oneSource, hflags, hopcode2, hsf]
  · exact pushed_of_regular (regular_oneSource word)

/-- Operations on three sources; without a third source the last operand is dropped. -/
def threeSource (word : Word) : Leaf :=
  let op31 := word.field 21 3
  let o0 := word.bit 15
  if word.field 29 2 ≠ 0 then rejected .threeSourceOp54
  else
    match multiplication? op31 o0, highHalf? op31 o0 with
    | some m, _ =>
      if m.widening ∧ word.sf = false then rejected .wideningMultiply
      else accepted do
        let whole ← Row.build m.accumulate
          [gpr word.sf word.rd, gpr (word.sf && !m.widening) word.rn,
            gpr (word.sf && !m.widening) word.rm, gpr word.sf word.ra]
        if word.ra = 31 then (whole.named m.alone).drop 3 else some whole
    | none, some op =>
      if word.sf = false then rejected .wideningMultiply
      else built op [x word.rd, x word.rn, x word.rm]
    | none, none => rejected .threeSourceOpcode

theorem threeSource_eq (word : Word) : threeSource word = outcome (Decode.threeSource word) := by
  simp only [threeSource, Decode.threeSource]
  cases multiplication? (word.field 21 3) (word.bit 15) with
  | some m => simp
  | none => cases highHalf? (word.field 21 3) (word.bit 15) <;> simp [built]

def dataProcessingImmediate (word : Word) (address : Address) : Leaf :=
  match DataImmediateClass.ofWord word with
  | .pcRelative => pushed (pcRelative word address)
  | .addSub => addSubImmediate word
  | .logical => logicalImmediate word
  | .moveWide => moveWide word
  | .bitfield => bitfield word
  | .extract => extract word

theorem dataProcessingImmediate_eq (word : Word) (address : Address) :
    dataProcessingImmediate word address =
      outcome (Decode.dataProcessingImmediate word address) := by
  unfold dataProcessingImmediate Decode.dataProcessingImmediate
  cases DataImmediateClass.ofWord word with
  | pcRelative => exact pushed_of_form (exists_form_pcRelative word) address
  | addSub => exact addSubImmediate_eq word
  | logical => exact logicalImmediate_eq word
  | moveWide => exact moveWide_eq word
  | bitfield => exact bitfield_eq word
  | extract => exact extract_eq word

def dataProcessingRegister (word : Word) : Leaf :=
  match DataRegisterClass.ofWord word with
  | .error reason => rejected reason
  | .ok .logicalShifted => logicalShifted word
  | .ok .addSubShifted => addSubShifted word
  | .ok .addSubExtended => addSubExtended word
  | .ok .addSubCarry => addSubCarry word
  | .ok .conditionalCompare => conditionalCompare word
  | .ok .conditionalSelect => conditionalSelect word
  | .ok .oneSource => oneSource word
  | .ok .threeSource => threeSource word
  | .ok cls => pushed (cls.meaning word)

theorem dataProcessingRegister_eq (word : Word) :
    dataProcessingRegister word = outcome (Decode.dataProcessingRegister word) := by
  unfold dataProcessingRegister Decode.dataProcessingRegister
  cases DataRegisterClass.ofWord word with
  | error reason => rfl
  | ok cls =>
    cases cls with
    | logicalShifted => exact logicalShifted_eq word
    | addSubShifted => exact addSubShifted_eq word
    | addSubExtended => exact addSubExtended_eq word
    | addSubCarry => exact addSubCarry_eq word
    | rotateIntoFlags => exact pushed_of_regular (regular_rotateIntoFlags word)
    | evaluateIntoFlags => exact pushed_of_regular (regular_evaluateIntoFlags word)
    | conditionalCompare => exact conditionalCompare_eq word
    | conditionalSelect => exact conditionalSelect_eq word
    | oneSource => exact oneSource_eq word
    | twoSource => exact pushed_of_regular (regular_twoSource word)
    | threeSource => exact threeSource_eq word

end A64.Strict
