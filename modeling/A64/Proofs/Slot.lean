import A64.Decode.Vector
import A64.Proofs.Encoding

/-!
# Slots for registers, immediates and addresses

The operands that decoders build from fields, each with the fields that it shows.
-/

namespace A64

namespace Slot

open Decode

/-- Destination register. -/
abbrev rd : Nat := 0

/-- First source register. -/
abbrev rn : Nat := 5

/-- Second source register. -/
abbrev rm : Nat := 16

/-- Third source register. -/
abbrev ra : Nat := 10

/-- An operand whose register has the number of a field shows the field. -/
theorem eq_of_number {build : BitVec 5 → Operand}
    (hnumber : ∀ n, (build n).normal.register?.map (·.number) = some n.toNat) (n n' : BitVec 5)
    (h : (build n).normal = (build n').normal) : n = n' := by
  have hmap := congrArg (fun o => o.register?.map (·.number)) h
  rw [hnumber, hnumber] at hmap
  exact BitVec.eq_of_toNat_eq (Option.some.inj hmap)

/-- A general-purpose register or the zero register. -/
def gpr (sf : Bool) (start : Nat) : Slot :=
  ofField start (.general sf) (Decode.gpr sf) (by cases sf <;> exact fun _ => rfl)
    (eq_of_number (by cases sf <;> exact fun _ => rfl))

theorem xsp_injective {n n' : BitVec 5} (h : Register.xsp n = Register.xsp n') : n = n' := by
  have hread : ∀ n : BitVec 5, (Register.xsp n).encodedNumber = n.toNat := by decide
  refine BitVec.eq_of_toNat_eq ?_
  rw [← hread n, h, hread]

/-- A 64-bit register or the stack pointer. -/
def xsp (start : Nat) : Slot :=
  ofField start (.general true) Decode.xsp (fun _ => rfl) fun _ _ h =>
    xsp_injective (congrArg RegisterOperand.register (Operand.register.inj h))

def control (start : Nat) : Slot :=
  ofField start .control (fun n : BitVec 4 => plain (.control n)) (fun _ => rfl) fun _ _ h =>
    BitVec.eq_of_toNat_eq
      (congrArg (fun r => r.register.number) (Operand.register.inj h))

def scalar (e : ElementSize) (start : Nat) : Slot :=
  ofField start (.scalar e) (Decode.scalar e) (by cases e <;> exact fun _ => rfl)
    (eq_of_number fun _ => rfl)

def arranged (a : Arrangement) (start : Nat) : Slot :=
  ofField start (.vector a.element) (Decode.arranged · a) (fun _ => rfl) (eq_of_number fun _ => rfl)

def wide (e : ElementSize) (start : Nat) : Slot := arranged (.full e true) start

/-- The number of lanes tells the width of a vector, unless its elements fill it. -/
theorem full_injective {e : ElementSize} (he : e ≠ .q) {q q' : Bool}
    (h : (Arrangement.full e q).lanes = (Arrangement.full e q').lanes) : q = q' := by
  revert h
  cases e with
  | q => exact absurd rfl he
  | _ => revert q q'; decide

/-- A vector of 64 bits, or of 128 by bit 30. -/
def vector (e : ElementSize) (start : Nat) : Slot where
  kind := .vector e
  operand := fun w => Decode.vector (w.field start 5) e w.q
  shown := if e = .q then [⟨start, 5⟩] else [⟨start, 5⟩, ⟨30, 1⟩]
  Holds := fun _ => True
  kind_operand := fun _ => rfl
  faithful := by
    intro w w' _ _ h
    have hoperand := Operand.register.inj h
    simp only [RegisterOperand.mk.injEq, Option.some.injEq, Arrangement.mk.injEq, Register.v,
      Register.ofField, Register.mk.injEq, true_and, and_true, Arrangement.full] at hoperand
    obtain ⟨hnumber, hlanes⟩ := hoperand
    split
    · simp [BitVec.eq_of_toNat_eq hnumber]
    · rename_i he
      have hq : w.bit 30 = w'.bit 30 := full_injective he hlanes
      have hfield : w.field 30 1 = w'.field 30 1 := by
        rw [Word.field_eq_bit, hq, Word.ofNat_bit]
      simp [BitVec.eq_of_toNat_eq hnumber, hfield]

def twin (e : ElementSize) (start start' : Nat) : Slot where
  kind := .vector e
  operand := (vector e start).operand
  shown := [⟨start, 5⟩, ⟨start', 5⟩]
  Holds := fun w => w.field start 5 = w.field start' 5
  kind_operand := fun _ => rfl
  faithful := by
    intro w w' hw hw' h f hf
    have hstart : w.field start 5 = w'.field start 5 := by
      refine (vector e start).faithful w w' trivial trivial h ⟨start, 5⟩ ?_
      unfold vector
      split <;> exact List.mem_cons_self
    rcases List.mem_cons.1 hf with rfl | hf
    · exact hstart
    · obtain rfl := List.mem_singleton.1 hf
      exact hw.symm.trans (hstart.trans hw')

/-- A lane of a vector, both computed from the word. -/
def laneOf (a : Arrangement) (number : Word → BitVec 5) (index : Word → Nat) (shown : List Field)
    (hshown : ∀ w w', number w = number w' → index w = index w' → ∀ f ∈ shown, f.Same w w') :
    Slot where
  kind := .lane a.element
  operand := fun w => laneGroup (number w) a (index w)
  shown := shown
  Holds := fun _ => True
  kind_operand := fun _ => rfl
  faithful := by
    intro w w' _ _ h
    have hoperand := Operand.register.inj h
    simp only [RegisterOperand.mk.injEq, Option.some.injEq, Register.v, Register.ofField,
      Register.mk.injEq, true_and, and_true] at hoperand
    exact hshown w w' (BitVec.eq_of_toNat_eq hoperand.1) hoperand.2

def lane (e : ElementSize) (start : Nat) (index : Field) : Slot :=
  laneOf (.single e) (·.field start 5) (fun w => (w.field index.start index.width).toNat)
    [⟨start, 5⟩, index] (by
      intro w w' hn hi
      simpa [Field.Same, hn] using BitVec.eq_of_toNat_eq hi)

def vectorList (count : Nat) (a : Arrangement) (start : Nat) : Slot :=
  ofField start (.list a.element count false) (Decode.vectorList · count a none)
    (fun n => if_pos ⟨rfl, n.isLt⟩) (by
      intro n n' h
      have hlist := congrArg RegisterList.first (Operand.registerList.inj h)
      exact BitVec.eq_of_toNat_eq (congrArg Register.number hlist))

/-- The value of an immediate tells the number it was built from. -/
theorem eq_of_immediate {width : Nat} {build : BitVec width → Operand} (f : BitVec width → Nat)
    (hbuild : ∀ n, (build n).normal.immediate?.map (·.toNat) = some (f n))
    (hf : ∀ n n', f n = f n' → n = n') (n n' : BitVec width)
    (h : (build n).normal = (build n').normal) : n = n' := by
  have hmap := congrArg (fun o => o.immediate?.map (·.toNat)) h
  rw [hbuild, hbuild] at hmap
  exact hf n n' (Option.some.inj hmap)

theorem toNat_normal {value : Nat} (h : value < 2 ^ 32) :
    (((BitVec.ofNat 64 value).setWidth 32).setWidth 64).toNat = value := by
  have hlt : value < 2 ^ 64 := by omega
  rw [BitVec.toNat_setWidth, BitVec.toNat_setWidth, BitVec.toNat_ofNat, Nat.mod_eq_of_lt hlt,
    Nat.mod_eq_of_lt h, Nat.mod_eq_of_lt hlt]

theorem immediate?_immNat {value : Nat} (h : value < 2 ^ 32) :
    (immNat value).normal.immediate?.map (·.toNat) = some value := by
  have hset : ((BitVec.ofNat 64 value).setWidth 64) = BitVec.ofNat 64 value := BitVec.setWidth_eq _
  show some ((((BitVec.ofNat 64 value).setWidth 64).setWidth 32).setWidth 64).toNat = some value
  rw [hset, toNat_normal h]

theorem immediate?_immDecimal {value : Nat} (h : value < 2 ^ 32) :
    (immDecimal value).normal.immediate?.map (·.toNat) = some value :=
  congrArg some (toNat_normal h)

theorem immediate?_imm {width : Nat} (hwidth : width ≤ 32) (n : BitVec width) :
    (Decode.imm n).normal.immediate?.map (·.toNat) = some n.toNat := by
  have hlt : n.toNat < 2 ^ 32 :=
    Nat.lt_of_lt_of_le n.isLt (Nat.pow_le_pow_right (by decide) hwidth)
  have hset : n.setWidth 64 = BitVec.ofNat 64 n.toNat := by simp
  show some (((n.setWidth 64).setWidth 32).setWidth 64).toNat = some n.toNat
  rw [hset, toNat_normal hlt]

def imm (start width : Nat) : Slot where
  kind := .value
  operand := fun w => Decode.imm (w.field start width)
  shown := [⟨start, width⟩]
  Holds := fun _ => width ≤ 32
  kind_operand := fun _ => rfl
  faithful := by
    intro w w' hwidth _ h f hf
    rw [List.mem_singleton.1 hf]
    exact eq_of_immediate BitVec.toNat (immediate?_imm hwidth) (fun _ _ => BitVec.eq_of_toNat_eq)
      _ _ h

def quarterTurns (start : Nat) : Slot :=
  ofField start .other (fun n : BitVec 2 => immDecimal (n.toNat * 90)) (fun _ => rfl)
    (eq_of_immediate (fun n => n.toNat * 90)
      (fun n => immediate?_immDecimal (by have := n.isLt; omega))
      fun n n' h => BitVec.eq_of_toNat_eq (by omega))

def quarterTurn (i : Nat) : Slot :=
  ofBit i .other (fun b => immDecimal (if b then 270 else 90)) (fun _ => rfl) (by decide)

theorem single_injective {n n' : BitVec 8}
    (h : VectorImmediate.single n = VectorImmediate.single n') : n = n' := by
  have hread : ∀ n : BitVec 8, (VectorImmediate.single n).extractLsb' 31 1 ++
      (VectorImmediate.single n).extractLsb' 19 7 = n := by decide
  rw [← hread n, h, hread]

theorem eq_of_float_eq (n n' : BitVec 8)
    (h : (Operand.float (VectorImmediate.single n)).normal =
      (Operand.float (VectorImmediate.single n')).normal) : n = n' :=
  single_injective (Operand.float.inj h)

theorem kind_float (n : BitVec 8) : (Operand.float (VectorImmediate.single n)).kind = .float := rfl

def floatImm (start : Nat) : Slot :=
  ofField start .float (fun n : BitVec 8 => .float (VectorImmediate.single n)) kind_float
    eq_of_float_eq

def condition (start : Nat) : Slot :=
  ofField start .condition (fun n : BitVec 4 => .condition (.ofBits n)) (fun _ => rfl) (by
    intro n n' h
    rw [← Condition.bits_ofBits n, Operand.condition.inj h, Condition.bits_ofBits])

theorem toInt_ofInt_words {width : Nat} (hwidth : width ≤ 32) (n : BitVec width) :
    (BitVec.ofInt 64 (n.toInt * 4)).toInt = n.toInt * 4 := by
  have hpow : (2 : Int) ^ width ≤ 2 ^ 32 := by
    exact_mod_cast Nat.pow_le_pow_right (by decide) hwidth
  have hlt := n.two_mul_toInt_lt
  have hle := n.le_two_mul_toInt
  exact BitVec.toInt_ofInt_eq_self (by decide) (by omega) (by omega)

theorem label_injective {width : Nat} (hwidth : width ≤ 32) {address : Address}
    {n n' : BitVec width} (h : (Decode.label address (n.toInt * 4)).normal =
      (Decode.label address (n'.toInt * 4)).normal) : n = n' := by
  have htarget := (BitVec.add_right_inj address).1
    (congrArg Immediate.value (Operand.imm64.inj h))
  have hwords := congrArg BitVec.toInt htarget
  rw [toInt_ofInt_words hwidth, toInt_ofInt_words hwidth] at hwords
  exact BitVec.eq_of_toInt_eq (by omega)

/-- An address a signed number of words away. -/
def label (address : Address) (start width : Nat) : Slot where
  kind := .value
  operand := fun w => Decode.label address ((w.field start width).toInt * 4)
  shown := [⟨start, width⟩]
  Holds := fun _ => width ≤ 32
  kind_operand := fun _ => rfl
  faithful := by
    intro w w' hwidth _ h f hf
    rw [List.mem_singleton.1 hf]
    exact label_injective hwidth h

section

variable {w : Word} (e : ElementSize) (start start' : Nat)

@[simp] theorem holds_const (o : Operand) : (const o).Holds w := trivial

@[simp] theorem holds_gpr (sf : Bool) : (gpr sf start).Holds w := trivial

@[simp] theorem holds_xsp : (xsp start).Holds w := trivial

@[simp] theorem holds_control : (control start).Holds w := trivial

@[simp] theorem holds_scalar : (scalar e start).Holds w := trivial

@[simp] theorem holds_arranged (a : Arrangement) : (arranged a start).Holds w := trivial

@[simp] theorem holds_wide : (wide e start).Holds w := trivial

@[simp] theorem holds_vector : (vector e start).Holds w := trivial

@[simp] theorem holds_twin :
    (twin e start start').Holds w ↔ w.field start 5 = w.field start' 5 := Iff.rfl

@[simp] theorem holds_laneOf {a : Arrangement} {number : Word → BitVec 5} {index : Word → Nat}
    {shown : List Field} {h : ∀ w w', number w = number w' → index w = index w' →
      ∀ f ∈ shown, f.Same w w'} : (laneOf a number index shown h).Holds w := trivial

@[simp] theorem holds_lane (index : Field) : (lane e start index).Holds w := trivial

@[simp] theorem holds_vectorList (count : Nat) (a : Arrangement) :
    (vectorList count a start).Holds w := trivial

@[simp] theorem holds_imm (width : Nat) : (imm start width).Holds w ↔ width ≤ 32 := Iff.rfl

@[simp] theorem holds_quarterTurns : (quarterTurns start).Holds w := trivial

@[simp] theorem holds_quarterTurn : (quarterTurn start).Holds w := trivial

@[simp] theorem holds_floatImm : (floatImm start).Holds w := trivial

@[simp] theorem holds_condition : (condition start).Holds w := trivial

@[simp] theorem holds_label (address : Address) (width : Nat) :
    (label address start width).Holds w ↔ width ≤ 32 := Iff.rfl

end

end Slot

end A64
