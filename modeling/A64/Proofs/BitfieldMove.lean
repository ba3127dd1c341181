import A64.Proofs.DecodeContract
import A64.Proofs.ReadBack.Immediate

/-!
# Moves of a field

A word of the bitfield class takes a field out of one register, sets it down in another one and
fills the bits around it (`FieldMove`, `Fill`). It is written as a shift, an extension, an
extraction or an insertion, with numbers of its own, and `Decoded.moved?` says what these compute
from the operands that are written. Both leave the same bits in the register
(`Decode.decode_movesField`).
-/

namespace A64

/-- What a five-bit field reads from registers with the given contents: zero for the zero
register. -/
def Register.fieldValue (contents : Nat → BitVec 64) (width : Nat) (n : BitVec 5) : BitVec width :=
  if n = 31 then 0 else (contents n.toNat).setWidth width

/-- What a general-purpose register of the given width reads as. The stack pointer is not read. -/
def Register.read? (contents : Nat → BitVec 64) (width : Nat) (r : Register) :
    Option (BitVec width) :=
  if (r.file = .w ∨ r.file = .x) ∧ r.file.bits = width ∧ r.number ≤ zeroNumber then
    some (if r.number = zeroNumber then 0 else (contents r.number).setWidth width)
  else none

namespace Operand

/-- What an operand reads as that is a register and nothing else. -/
def read? (contents : Nat → BitVec 64) (width : Nat) : Operand → Option (BitVec width)
  | register ⟨r, none, none, none⟩ => r.read? contents width
  | _ => none

/-- The number that an operand is, without a sign and a shift. -/
def number? : Operand → Option Nat
  | imm32 ⟨value, false, none, _⟩ => some value.toNat
  | _ => none

end Operand

section Reading

variable (contents : Nat → BitVec 64) (n : BitVec 5)

theorem Register.read?_ofField {file : RegisterFile} (h : file = .w ∨ file = .x) :
    (ofField file n).read? contents file.bits = some (fieldValue contents file.bits n) := by
  have hlt := n.isLt
  have hzero : n.toNat = 31 ↔ n = 31 := BitVec.toNat_inj (y := 31#5)
  rw [read?, if_pos ⟨h, rfl, Nat.le_of_lt_succ hlt⟩]
  simp [fieldValue, ofField, zeroNumber, hzero]

@[simp] theorem Operand.read?_gpr (sf : Bool) :
    (Decode.gpr sf n).read? contents (Assemble.size sf) =
      some (Register.fieldValue contents (Assemble.size sf) n) := by
  cases sf with
  | false => exact Register.read?_ofField contents n (.inl rfl)
  | true => exact Register.read?_ofField contents n (.inr rfl)

@[simp] theorem Operand.read?_w :
    (Decode.w n).read? contents 32 = some (Register.fieldValue contents 32 n) :=
  Register.read?_ofField contents n (.inl rfl)

theorem Register.setWidth_fieldValue {width : Nat} (h : 32 ≤ width) :
    (fieldValue contents width n).setWidth 32 = fieldValue contents 32 n := by
  unfold fieldValue
  split
  · simp
  · rw [BitVec.setWidth_setWidth_of_le _ h]

@[simp] theorem Operand.number?_imm {k : Nat} (value : BitVec k) (hk : k ≤ 64) :
    (Decode.imm value).number? = some value.toNat := by
  simp [Decode.imm, number?, BitVec.toNat_setWidth_of_le hk]

@[simp] theorem Operand.number?_immNat {value : Nat} (h : value < 2 ^ 64) :
    (Decode.immNat value).number? = some value := by
  rw [Decode.immNat, number?_imm _ (Nat.le_refl 64), BitVec.toNat_ofNat, Nat.mod_eq_of_lt h]

end Reading

/-- A register that held `old` after a field is inserted from bit `lsb` on. -/
def inserted {width count : Nat} (old : BitVec width) (lsb : Nat) (field : BitVec count) :
    BitVec width :=
  old &&& ~~~((BitVec.allOnes count).setWidth width <<< lsb) ||| field.setWidth width <<< lsb

namespace Operation

def extended? (width : Nat) (x : BitVec 32) : Operation → Option (BitVec width)
  | uxtb => some ((x.extractLsb' 0 8).setWidth width)
  | uxth => some ((x.extractLsb' 0 16).setWidth width)
  | sxtb => some ((x.extractLsb' 0 8).signExtend width)
  | sxth => some ((x.extractLsb' 0 16).signExtend width)
  | sxtw => some (x.signExtend width)
  | _ => none

variable {width : Nat}

def shifted? (x : BitVec width) (amount : Nat) : Operation → Option (BitVec width)
  | lsl => some (x <<< amount)
  | lsr => some (x >>> amount)
  | asr => some (x.sshiftRight amount)
  | _ => none

/-- The extraction of a field that has `count` bits from bit `lsb` on, or the insertion of the low
`count` bits there, into a register that held `old`. -/
def fieldMoved? (x old : BitVec width) (lsb count : Nat) : Operation → Option (BitVec width)
  | ubfx => some ((x.extractLsb' lsb count).setWidth width)
  | sbfx => some ((x.extractLsb' lsb count).signExtend width)
  | bfxil => some (inserted old 0 (x.extractLsb' lsb count))
  | ubfiz => some ((x.extractLsb' 0 count).setWidth width <<< lsb)
  | sbfiz => some ((x.extractLsb' 0 count).signExtend width <<< lsb)
  | bfi => some (inserted old lsb (x.extractLsb' 0 count))
  | _ => none

/-- The operations that are written with the first bit and the width of a field. -/
def TakesField (op : Operation) : Prop :=
  op ∈ [ubfx, sbfx, bfxil, ubfiz, sbfiz, bfi, bfc]

theorem TakesField.eq_none {op : Operation} (h : op.TakesField) :
    (∀ x, op.extended? width x = none) ∧
      ∀ (x : BitVec width) amount, op.shifted? x amount = none := by
  simp only [TakesField, List.mem_cons, List.not_mem_nil, or_false] at h
  rcases h with rfl | rfl | rfl | rfl | rfl | rfl | rfl <;> exact ⟨fun _ => rfl, fun _ _ => rfl⟩

end Operation

namespace Decoded

variable {width : Nat}

/-- What an instruction that moves a field leaves in its destination, a register of the given width
that held `old`. -/
def moved? (contents : Nat → BitVec 64) (old : BitVec width) (d : Decoded) :
    Option (BitVec width) :=
  match d.operands with
  | [_, n] => do d.operation.extended? width (← n.read? contents 32)
  | [_, lsb, count] =>
    if d.operation = .bfc then do return inserted old (← lsb.number?) (0#(← count.number?))
    else do d.operation.shifted? (← lsb.read? contents width) (← count.number?)
  | [_, n, lsb, count] => do
    d.operation.fieldMoved? (← n.read? contents width) old (← lsb.number?) (← count.number?)
  | _ => none

/-- A generic name says nothing about what is computed. -/
theorem operation_of_moved? {contents : Nat → BitVec 64} {old result : BitVec width} {d : Decoded}
    (h : d.moved? contents old = some result) : d.operation ≠ .sbfm ∧ d.operation ≠ .ubfm := by
  rw [← not_or]
  intro hop
  have hnone : (∀ x, d.operation.extended? width x = none) ∧
      (∀ (x : BitVec width) amount, d.operation.shifted? x amount = none) ∧
      (∀ (x : BitVec width) lsb count, d.operation.fieldMoved? x old lsb count = none) ∧
      d.operation ≠ .bfc := by
    rcases hop with hop | hop <;> rw [hop] <;>
      exact ⟨fun _ => rfl, fun _ _ => rfl, fun _ _ _ => rfl, by decide⟩
  unfold moved? at h
  split at h <;> simp [hnone] at h

/-- The numbers that are written last: the first bit of a field and its width. -/
def field? (d : Decoded) : Option (Nat × Nat) :=
  match d.operands.reverse with
  | count :: lsb :: _ => do return (← lsb.number?, ← count.number?)
  | _ => none

end Decoded

/-- What the bits around a field become. -/
inductive Fill where
  | zeros
  /-- Zeros below the field and copies of its highest bit above it. -/
  | sign
  /-- The bits that were there. -/
  | kept
  deriving DecidableEq

def Fill.ofOpcode? : BitVec 2 → Option Fill
  | 0b00 => some sign
  | 0b01 => some kept
  | 0b10 => some zeros
  | _ => none

/-- A field that begins at bit `start` of the source and at bit `place` of the destination. -/
structure FieldMove where
  start : Nat
  place : Nat
  count : Nat
  deriving DecidableEq

namespace FieldMove

/-- The field from bit `immr` to bit `imms` moves to bit 0. If they are out of order, the field from
bit 0 to bit `imms` moves up, by what `immr` lacks to the width of the register. -/
def ofFields (width : Nat) (immr imms : BitVec 6) : FieldMove :=
  if immr.toNat ≤ imms.toNat then ⟨immr.toNat, 0, imms.toNat - immr.toNat + 1⟩
  else ⟨0, width - immr.toNat, imms.toNat + 1⟩

variable {width : Nat}

/-- The bit of the destination after the move, which held `old`. -/
def bit (m : FieldMove) (fill : Fill) (x old : BitVec width) (i : Nat) : Bool :=
  if m.place ≤ i ∧ i < m.place + m.count then x.getLsbD (m.start + (i - m.place))
  else
    match fill with
    | .zeros => false
    | .sign => if i < m.place then false else x.getLsbD (m.start + m.count - 1)
    | .kept => old.getLsbD i

/-- All bits of `result` are those that the move leaves in a register that held `old`. -/
def Leaves (m : FieldMove) (fill : Fill) (x old result : BitVec width) : Prop :=
  ∀ i < width, result.getLsbD i = m.bit fill x old i

variable {m : FieldMove} {x : BitVec width} (old : BitVec width) {start place count amount : Nat}

theorem leaves_unsigned (hfits : place + count ≤ width) : Leaves ⟨start, place, count⟩ .zeros x old
    ((x.extractLsb' start count).setWidth width <<< place) := by
  intro i hi
  simp only [bit, BitVec.getLsbD_shiftLeft, BitVec.getLsbD_setWidth, BitVec.getLsbD_extractLsb']
  by_cases hlow : i < place
  · simp [hlow, Nat.not_le.2 hlow]
  · have hle := Nat.not_lt.1 hlow
    by_cases hin : i < place + count
    · have hcount : i - place < count := by omega
      have hwidth : i - place < width := by omega
      simp [hi, hlow, hin, hle, hcount, hwidth]
    · have hcount : ¬ i - place < count := by omega
      simp [hi, hlow, hin, hcount]

theorem leaves_signed (hcount : 0 < count) :
    Leaves ⟨start, place, count⟩ .sign x old
      ((x.extractLsb' start count).signExtend width <<< place) := by
  intro i hi
  simp only [bit, BitVec.getLsbD_shiftLeft, BitVec.getLsbD_signExtend,
    BitVec.getLsbD_extractLsb', BitVec.msb_eq_getLsbD_last]
  by_cases hlow : i < place
  · simp [hlow, Nat.not_le.2 hlow]
  · have hle := Nat.not_lt.1 hlow
    have hwidth : i - place < width := by omega
    by_cases hin : i < place + count
    · have hbit : i - place < count := by omega
      simp [hi, hlow, hin, hle, hbit, hwidth]
    · have hbit : ¬ i - place < count := by omega
      have hsign : count - 1 < count := by omega
      simp [hi, hlow, hin, hbit, hwidth, hsign, Nat.add_sub_assoc hcount]

theorem leaves_zeroExtended (hfits : count ≤ width) :
    Leaves ⟨start, 0, count⟩ .zeros x old ((x.extractLsb' start count).setWidth width) := by
  rw [← BitVec.shiftLeft_zero ((x.extractLsb' start count).setWidth width)]
  exact leaves_unsigned old (by omega)

theorem leaves_signExtended (hcount : 0 < count) :
    Leaves ⟨start, 0, count⟩ .sign x old ((x.extractLsb' start count).signExtend width) := by
  rw [← BitVec.shiftLeft_zero ((x.extractLsb' start count).signExtend width)]
  exact leaves_signed old hcount

theorem leaves_zeroExtended_low (hcount : count ≤ 32) (hwidth : 32 ≤ width) :
    Leaves ⟨0, 0, count⟩ .zeros x old (((x.setWidth 32).extractLsb' 0 count).setWidth width) := by
  rw [BitVec.extractLsb'_setWidth_of_le (by omega)]
  exact leaves_zeroExtended old (by omega)

theorem leaves_signExtended_low (hpos : 0 < count) (hcount : count ≤ 32) :
    Leaves ⟨0, 0, count⟩ .sign x old (((x.setWidth 32).extractLsb' 0 count).signExtend width) := by
  rw [BitVec.extractLsb'_setWidth_of_le (by omega)]
  exact leaves_signExtended old hpos

theorem leaves_inserted (hfits : place + count ≤ width) :
    Leaves ⟨start, place, count⟩ .kept x old (inserted old place (x.extractLsb' start count)) := by
  intro i hi
  simp only [bit, inserted, BitVec.getLsbD_or, BitVec.getLsbD_and, BitVec.getLsbD_not,
    BitVec.getLsbD_shiftLeft, BitVec.getLsbD_setWidth, BitVec.getLsbD_extractLsb',
    BitVec.getLsbD_allOnes]
  by_cases hlow : i < place
  · simp [hi, hlow, Nat.not_le.2 hlow]
  · have hle := Nat.not_lt.1 hlow
    by_cases hin : i < place + count
    · have hcount : i - place < count := by omega
      have hwidth : i - place < width := by omega
      simp [hi, hlow, hin, hle, hcount, hwidth]
    · have hcount : ¬ i - place < count := by omega
      simp [hi, hlow, hin, hcount]

theorem leaves_shiftLeft : Leaves ⟨0, amount, width - amount⟩ .zeros x old (x <<< amount) := by
  intro i hi
  simp only [bit, BitVec.getLsbD_shiftLeft]
  by_cases hlow : i < amount
  · simp [hlow, Nat.not_le.2 hlow]
  · have hle := Nat.not_lt.1 hlow
    have hin : i < amount + (width - amount) := by omega
    simp [hi, hlow, hle, hin]

theorem leaves_shiftRight : Leaves ⟨amount, 0, width - amount⟩ .zeros x old (x >>> amount) := by
  intro i hi
  simp only [bit, BitVec.getLsbD_ushiftRight]
  by_cases hin : i < width - amount
  · simp [hin]
  · have hzero : x.getLsbD (amount + i) = false := BitVec.getLsbD_of_ge x _ (by omega)
    simp [hin, hzero]

theorem leaves_arithmeticShift (h : amount < width) :
    Leaves ⟨amount, 0, width - amount⟩ .sign x old (x.sshiftRight amount) := by
  intro i hi
  simp only [bit, BitVec.getLsbD_sshiftRight, BitVec.msb_eq_getLsbD_last]
  by_cases hin : i < width - amount
  · have hbit : amount + i < width := by omega
    simp [hi, hin, hbit]
  · have hbit : ¬ amount + i < width := by omega
    have hsign : amount + (width - amount) - 1 = width - 1 := by omega
    simp [hi, hin, hbit, hsign]

theorem ofFields_of_le {immr imms : BitVec 6} (h : ¬ imms < immr) :
    ofFields width immr imms = ⟨immr.toNat, 0, imms.toNat - immr.toNat + 1⟩ :=
  if_pos (Nat.not_lt.1 h)

theorem ofFields_of_lt {immr imms : BitVec 6} (h : imms < immr) :
    ofFields width immr imms = ⟨0, width - immr.toNat, imms.toNat + 1⟩ :=
  if_neg (Nat.not_le.2 h)

end FieldMove

/-! ### Instructions that move a field -/

/-- The instruction, as it is written, moves a field of register `rn` to register `rd`. -/
structure Decoded.MovesField (d : Decoded) (sf : Bool) (rd rn : BitVec 5) (fill : Fill)
    (m : FieldMove) : Prop where
  destination : d.operands.head? = some (Decode.gpr sf rd)
  /-- Whatever the registers hold, the destination is left with the bits of the move. -/
  leaves (contents : Nat → BitVec 64) (old : BitVec (Assemble.size sf)) :
    ∃ result, d.moved? contents old = some result ∧
      m.Leaves fill (Register.fieldValue contents (Assemble.size sf) rn) old result
  /-- A field that is written lies in the register. -/
  field : d.operation.TakesField → ∃ lsb count, d.field? = some (lsb, count) ∧
    1 ≤ count ∧ lsb + count ≤ Assemble.size sf

namespace Decode

variable {op : Operation} {sf unsigned : Bool} {rd rn : BitVec 5} {immr imms : BitVec 6}
  {fill : Fill} {m : FieldMove}

theorem movesField_field {lsb count : Operand} {l c : Nat} (hl : lsb.number? = some l)
    (hc : count.number? = some c) (hpos : 1 ≤ c) (hfits : l + c ≤ Assemble.size sf)
    (hop : ∀ x old : BitVec (Assemble.size sf), ∃ result,
      op.fieldMoved? x old l c = some result ∧ m.Leaves fill x old result) :
    Decoded.MovesField ⟨op, [gpr sf rd, gpr sf rn, lsb, count]⟩ sf rd rn fill m where
  destination := rfl
  leaves contents old := by
    obtain ⟨result, hresult, hleaves⟩ := hop (Register.fieldValue contents _ rn) old
    exact ⟨result, by simp [Decoded.moved?, hl, hc, hresult], hleaves⟩
  field _ := ⟨l, c, by simp [Decoded.field?, hl, hc], hpos, hfits⟩

theorem movesField_shift {amount : Operand} {a : Nat} (ha : amount.number? = some a)
    (hop : ∀ x old : BitVec (Assemble.size sf), ∃ result,
      op.shifted? x a = some result ∧ m.Leaves fill x old result) :
    Decoded.MovesField ⟨op, [gpr sf rd, gpr sf rn, amount]⟩ sf rd rn fill m := by
  have hnot : ¬ op.TakesField := by
    intro htakes
    obtain ⟨result, hresult, -⟩ := hop 0 0
    rw [htakes.eq_none.2] at hresult
    cases hresult
  have hne : op ≠ .bfc := fun h => hnot (by simp [h, Operation.TakesField])
  refine ⟨rfl, fun contents old => ?_, fun h => absurd h hnot⟩
  obtain ⟨result, hresult, hleaves⟩ := hop (Register.fieldValue contents _ rn) old
  exact ⟨result, by simp [Decoded.moved?, hne, ha, hresult], hleaves⟩

theorem movesField_extension
    (hop : ∀ x old : BitVec (Assemble.size sf), ∃ result,
      op.extended? (Assemble.size sf) (x.setWidth 32) = some result ∧ m.Leaves fill x old result) :
    Decoded.MovesField ⟨op, [gpr sf rd, w rn]⟩ sf rd rn fill m := by
  have hnot : ¬ op.TakesField := by
    intro htakes
    obtain ⟨result, hresult, -⟩ := hop 0 0
    rw [htakes.eq_none.1] at hresult
    cases hresult
  have hsize : 32 ≤ Assemble.size sf := by cases sf <;> decide
  refine ⟨rfl, fun contents old => ?_, fun h => absurd h hnot⟩
  obtain ⟨result, hresult, hleaves⟩ := hop (Register.fieldValue contents _ rn) old
  rw [Register.setWidth_fieldValue contents rn hsize] at hresult
  exact ⟨result, by simp [Decoded.moved?, hresult], hleaves⟩

theorem movesField_clear {lsb count : Operand} {l c : Nat} (hl : lsb.number? = some l)
    (hc : count.number? = some c) (hpos : 1 ≤ c) (hfits : l + c ≤ Assemble.size sf) :
    Decoded.MovesField ⟨.bfc, [gpr sf rd, lsb, count]⟩ sf rd 31 .kept ⟨0, l, c⟩ where
  destination := rfl
  leaves contents old := by
    refine ⟨inserted old l (0#c), by simp [Decoded.moved?, hl, hc], ?_⟩
    rw [← BitVec.extractLsb'_zero]
    exact FieldMove.leaves_inserted old hfits
  field _ := ⟨l, c, by simp [Decoded.field?, hl, hc], hpos, hfits⟩

theorem movesField_extraction (hrange : InRange sf immr imms) (hle : ¬ imms < immr)
    (hop : ∀ x old : BitVec (Assemble.size sf), ∃ result,
      op.fieldMoved? x old immr.toNat (imms.toNat - immr.toNat + 1) = some result ∧
        FieldMove.Leaves ⟨immr.toNat, 0, imms.toNat - immr.toNat + 1⟩ fill x old result) :
    Decoded.MovesField
      ⟨op, [gpr sf rd, gpr sf rn, imm immr, immNat (imms.toNat - immr.toNat + 1)]⟩ sf rd rn fill
      (.ofFields (Assemble.size sf) immr imms) := by
  have hle' : immr.toNat ≤ imms.toNat := Nat.not_lt.1 hle
  have himms := hrange.imms_lt
  have hlt := imms.isLt
  rw [FieldMove.ofFields_of_le hle]
  exact movesField_field (Operand.number?_imm _ (by decide))
    (Operand.number?_immNat (by omega)) (by omega) (by omega) hop

theorem movesField_insertion (hrange : InRange sf immr imms) (hlt : imms < immr)
    (hop : ∀ x old : BitVec (Assemble.size sf), ∃ result,
      op.fieldMoved? x old (Assemble.size sf - immr.toNat) (imms.toNat + 1) = some result ∧
        FieldMove.Leaves ⟨0, Assemble.size sf - immr.toNat, imms.toNat + 1⟩ fill x old result) :
    Decoded.MovesField ⟨op, [gpr sf rd, gpr sf rn, immNat (Assemble.size sf - immr.toNat),
      immNat (imms.toNat + 1)]⟩ sf rd rn fill (.ofFields (Assemble.size sf) immr imms) := by
  obtain ⟨-, -, hlsb, hwidth⟩ := insertion_numbers hrange
  have hlt' : imms.toNat < immr.toNat := hlt
  have himmr := hrange.immr_lt
  rw [FieldMove.ofFields_of_lt hlt]
  exact movesField_field (Operand.number?_immNat (by omega))
    (Operand.number?_immNat (by omega)) (by omega) (by omega) hop

theorem movesField_shiftRight (hrange : InRange sf immr imms)
    (hlast : imms.toNat = Assemble.size sf - 1)
    (hop : ∀ x old : BitVec (Assemble.size sf), ∃ result,
      op.shifted? x immr.toNat = some result ∧
        FieldMove.Leaves ⟨immr.toNat, 0, Assemble.size sf - immr.toNat⟩ fill x old result) :
    Decoded.MovesField ⟨op, [gpr sf rd, gpr sf rn, imm immr]⟩ sf rd rn fill
      (.ofFields (Assemble.size sf) immr imms) := by
  have himmr := hrange.immr_lt
  have hfits : immr.toNat ≤ imms.toNat := by omega
  have hle : ¬ imms < immr := Nat.not_lt.2 hfits
  have hcount : imms.toNat - immr.toNat + 1 = Assemble.size sf - immr.toNat := by omega
  rw [FieldMove.ofFields_of_le hle, hcount]
  exact movesField_shift (Operand.number?_imm _ (by decide)) hop

/-- A field that is neither shifted nor extracted is extended: it begins at bit 0 and is a byte, a
halfword or, with its sign to 64 bits, a word. -/
theorem extension_of_not_isExtraction (h : ¬ isExtraction sf unsigned imms immr = true)
    (hle : ¬ imms < immr) (hlast : imms.toNat ≠ Assemble.size sf - 1) :
    immr = 0 ∧ ((imms = 7 ∨ imms = 15) ∨ sf = true ∧ unsigned = false ∧ imms = 31) := by
  have hlast' : imms ≠ if sf then 63 else 31 := by
    intro himms
    cases sf <;> exact hlast (congrArg BitVec.toNat himms)
  rw [isExtraction, if_neg hle, if_neg hlast'] at h
  split at h
  · rename_i hshort
    exact ⟨hshort.1, .inl hshort.2.2⟩
  · split at h
    · rename_i hlong
      obtain ⟨hzero, hsf, hsigned, himms⟩ := hlong
      exact ⟨hzero, (or_assoc.2 himms).imp_right fun himms => ⟨hsf, hsigned, himms⟩⟩
    · exact absurd rfl h

theorem movesField_signedBitfield (hrange : InRange sf immr imms) :
    (signedBitfield sf rd rn immr imms).MovesField sf rd rn .sign
      (.ofFields (Assemble.size sf) immr imms) := by
  have himmr := hrange.immr_lt
  have himms := hrange.imms_lt
  simp only [signedBitfield, last_eq, last_add_one]
  split
  · rename_i hlast
    exact movesField_shiftRight hrange hlast fun x old =>
      ⟨_, rfl, FieldMove.leaves_arithmeticShift old himmr⟩
  · rename_i hlast
    split
    · rename_i hlt
      have hlt' : imms.toNat < immr.toNat := hlt
      exact movesField_insertion hrange hlt fun x old =>
        ⟨_, rfl, FieldMove.leaves_signed old (by omega)⟩
    · rename_i hle
      split
      · exact movesField_extraction hrange hle fun x old =>
          ⟨_, rfl, FieldMove.leaves_signExtended old (by omega)⟩
      · rename_i hext
        have hsize : 32 ≤ Assemble.size sf := by cases sf <;> decide
        obtain ⟨rfl, (rfl | rfl) | ⟨-, -, rfl⟩⟩ := extension_of_not_isExtraction hext hle hlast
        · exact movesField_extension fun x old =>
            ⟨_, rfl, FieldMove.leaves_signExtended_low old (by decide) (by decide)⟩
        · exact movesField_extension fun x old =>
            ⟨_, rfl, FieldMove.leaves_signExtended_low old (by decide) (by decide)⟩
        · refine movesField_extension fun x old => ⟨_, rfl, ?_⟩
          rw [BitVec.setWidth_eq_extractLsb' hsize]
          exact FieldMove.leaves_signExtended old (by decide)

theorem movesField_insertedBitfield (hrange : InRange sf immr imms) :
    (insertedBitfield sf rd rn immr imms).MovesField sf rd rn .kept
      (.ofFields (Assemble.size sf) immr imms) := by
  have himmr := hrange.immr_lt
  have himms := hrange.imms_lt
  simp only [insertedBitfield, last_eq, last_add_one]
  split
  · rename_i hlt
    have hlt' : imms.toNat < immr.toNat := hlt
    obtain ⟨-, -, hlsb, hwidth⟩ := insertion_numbers hrange
    split
    · rename_i hzero
      rw [hzero, FieldMove.ofFields_of_lt hlt]
      exact movesField_clear (Operand.number?_immNat (by omega))
        (Operand.number?_immNat (by omega)) (by omega) (by omega)
    · exact movesField_insertion hrange hlt fun x old =>
        ⟨_, rfl, FieldMove.leaves_inserted old (by omega)⟩
  · rename_i hle
    exact movesField_extraction hrange hle fun x old =>
      ⟨_, rfl, FieldMove.leaves_inserted old (by omega)⟩

theorem movesField_unsignedBitfield (hrange : InRange sf immr imms) :
    (unsignedBitfield sf rd rn immr imms).MovesField sf rd rn .zeros
      (.ofFields (Assemble.size sf) immr imms) := by
  have himmr := hrange.immr_lt
  have himms := hrange.imms_lt
  have hsize : Assemble.size sf ≤ 64 := by cases sf <;> decide
  simp only [unsignedBitfield, last_eq, last_add_one]
  split
  · rename_i hnext
    have hlt' : imms.toNat < immr.toNat := by omega
    have hlt : imms < immr := hlt'
    have hplace : Assemble.size sf - immr.toNat = Assemble.size sf - 1 - imms.toNat := by omega
    have hcount : imms.toNat + 1 = Assemble.size sf - (Assemble.size sf - 1 - imms.toNat) := by
      omega
    rw [FieldMove.ofFields_of_lt hlt, hplace, hcount]
    exact movesField_shift (Operand.number?_immNat (by omega)) fun x old =>
      ⟨_, rfl, FieldMove.leaves_shiftLeft old⟩
  · split
    · rename_i hlast
      exact movesField_shiftRight hrange hlast fun x old =>
        ⟨_, rfl, FieldMove.leaves_shiftRight old⟩
    · rename_i hlast
      split
      · rename_i hlt
        have hlt' : imms.toNat < immr.toNat := hlt
        exact movesField_insertion hrange hlt fun x old =>
          ⟨_, rfl, FieldMove.leaves_unsigned old (by omega)⟩
      · rename_i hle
        split
        · exact movesField_extraction hrange hle fun x old =>
            ⟨_, rfl, FieldMove.leaves_zeroExtended old (by omega)⟩
        · rename_i hext
          obtain rfl := sf_of_isExtraction hext hle hlast
          obtain ⟨rfl, (rfl | rfl) | ⟨-, hsigned, -⟩⟩ :=
            extension_of_not_isExtraction hext hle hlast
          · change Decoded.MovesField ⟨.uxtb, [gpr false rd, w rn]⟩ _ _ _ _ _
            exact movesField_extension fun x old =>
              ⟨_, rfl, FieldMove.leaves_zeroExtended_low old (by decide) (by decide)⟩
          · change Decoded.MovesField ⟨.uxth, [gpr false rd, w rn]⟩ _ _ _ _ _
            exact movesField_extension fun x old =>
              ⟨_, rfl, FieldMove.leaves_zeroExtended_low old (by decide) (by decide)⟩
          · cases hsigned

theorem exists_movesField {word : Word} {d : Decoded} (h : bitfield word = .ok d) :
    ∃ fill, Fill.ofOpcode? (word.field 29 2) = some fill ∧
      d.MovesField word.sf word.rd word.rn fill
        (.ofFields (Assemble.size word.sf) (word.field 16 6) (word.field 10 6)) := by
  obtain ⟨-, hrange, hcases⟩ := bitfield_cases h
  rcases hcases with ⟨hopc, rfl⟩ | ⟨hopc, rfl⟩ | ⟨hopc, rfl⟩ <;> rw [hopc]
  · exact ⟨.sign, rfl, movesField_signedBitfield hrange⟩
  · exact ⟨.kept, rfl, movesField_insertedBitfield hrange⟩
  · exact ⟨.zeros, rfl, movesField_unsignedBitfield hrange⟩

/-- A word of the bitfield class that decodes moves the field that `immr` and `imms` select, and its
opcode says how the bits around it are filled: so does the instruction that it is written as, which
is never one with a generic name. -/
theorem decode_movesField {word : Word} {address : Address} {i : Instruction}
    (hgroup : Group.ofWord? word = some .dataProcessingImmediate)
    (hclass : DataImmediateClass.ofWord word = .bitfield) (h : decode word address = .ok i) :
    (∃ fill, Fill.ofOpcode? (word.field 29 2) = some fill ∧
      i.decoded.MovesField word.sf word.rd word.rn fill
        (.ofFields (Assemble.size word.sf) (word.field 16 6) (word.field 10 6))) ∧
      i.operation ≠ .sbfm ∧ i.operation ≠ .ubfm := by
  have hmeaning := (meaning_of_decode hgroup (by decide) h).2
  simp only [meaning, dataProcessingImmediate, hclass] at hmeaning
  obtain ⟨fill, hfill, hmove⟩ := exists_movesField hmeaning
  obtain ⟨result, hresult, -⟩ := hmove.leaves (fun _ => 0) 0
  exact ⟨⟨fill, hfill, hmove⟩, Decoded.operation_of_moved? hresult⟩

/-- The field that bits 60 and 7 select out of order is written as one of eight bits from bit 4
on. -/
theorem signedInsertion_movesField :
    Group.ofWord? 0x937c1c20 = some .dataProcessingImmediate ∧
      DataImmediateClass.ofWord 0x937c1c20 = .bitfield ∧
      ∃ i, decode 0x937c1c20 0 = .ok i ∧
        i.decoded = ⟨.sbfiz, [gpr true 0, gpr true 1, immNat 4, immNat 8]⟩ ∧
        i.decoded.MovesField true 0 1 .sign ⟨0, 4, 8⟩ := by
  have hgroup : Group.ofWord? 0x937c1c20 = some .dataProcessingImmediate := by decide
  have hclass : DataImmediateClass.ofWord 0x937c1c20 = .bitfield := by decide
  have hdecode : decode 0x937c1c20 0 = .ok ⟨0x937c1c20, 0, .dataProcessingImmediate, .sbfiz,
      .ofList [gpr true 0, gpr true 1, immNat 4, immNat 8]⟩ := by rfl
  obtain ⟨⟨fill, hfill, hmove⟩, -⟩ := decode_movesField hgroup hclass hdecode
  obtain rfl : Fill.sign = fill := Option.some.inj hfill
  exact ⟨hgroup, hclass, _, hdecode, rfl, hmove⟩

end Decode

end A64
