import A64.Decode.Vector.Basic
import A64.Proofs.Layout
import Mathlib.Algebra.Group.Nat.Defs
import Mathlib.Data.List.Nodup
import Mathlib.Data.List.Pairwise
import Mathlib.Data.List.ProdSigma

/-!
# Encodings

An encoding says how the words of one instruction are made up: some fields are fixed, and the
operands show the others. A `Slot` is an operand as a function of the word, together with the fields
that can be read off it, and an `Encoding` is an operation with its slots and its fixed fields. If
these leave no bit of the word out, two words of one encoding with the same operands are the same
word. If moreover all encodings of a list differ in their operations or in the kinds of their
operands, an instruction also tells its encoding (`Encoding.Faithful`). Both are finite checks.

Operands are compared in a normal form (`Operand.normal`), which forgets what a text does not show.
-/

namespace A64

/-- A run of bits of a word. -/
structure Field where
  start : Nat
  width : Nat
  deriving DecidableEq

namespace Field

def Covers (f : Field) (i : Nat) : Prop := f.start ≤ i ∧ i < f.start + f.width

instance (f : Field) (i : Nat) : Decidable (f.Covers i) := inferInstanceAs (Decidable (_ ∧ _))

/-- The word with ones in the fields and zeros around them. -/
def mask (fields : List Field) : Word :=
  fields.foldr (fun f m => (BitVec.allOnes f.width).setWidth 32 <<< f.start ||| m) 0

def Same (f : Field) (w w' : Word) : Prop := w.field f.start f.width = w'.field f.start f.width

@[simp] theorem same_mk {start width : Nat} {w w' : Word} :
    Same ⟨start, width⟩ w w' ↔ w.field start width = w'.field start width := Iff.rfl

variable {f : Field} {fields : List Field} {w w' : Word} {i : Nat}

theorem exists_covers_of_mask (h : (mask fields).getLsbD i = true) :
    ∃ f ∈ fields, f.Covers i := by
  induction fields with
  | nil => simp [mask] at h
  | cons f fields ih =>
    have hcons : mask (f :: fields) =
        (BitVec.allOnes f.width).setWidth 32 <<< f.start ||| mask fields := rfl
    rw [hcons, BitVec.getLsbD_or, Bool.or_eq_true] at h
    rcases h with h | h
    · simp only [BitVec.getLsbD_shiftLeft, BitVec.getLsbD_setWidth, BitVec.getLsbD_allOnes,
        Bool.and_eq_true, decide_eq_true_eq, Bool.not_eq_true', decide_eq_false_iff_not] at h
      exact ⟨f, List.mem_cons_self, by omega, by omega⟩
    · obtain ⟨f', hf', hc⟩ := ih h
      exact ⟨f', List.mem_cons_of_mem _ hf', hc⟩

theorem getLsbD_field {start n j : Nat} (hj : j < n) :
    (w.field start n).getLsbD j = w.getLsbD (start + j) := by
  simp [Word.field, hj]

/-- Words that agree in fields without a gap are the same. -/
theorem eq_of_same (hmask : mask fields = BitVec.allOnes 32) (h : ∀ f ∈ fields, f.Same w w') :
    w = w' := by
  refine BitVec.eq_of_getLsbD_eq fun i hi => ?_
  obtain ⟨f, hf, hstart, hend⟩ :=
    exists_covers_of_mask (by rw [hmask, BitVec.getLsbD_allOnes]; exact decide_eq_true hi)
  have hbit := congrArg (fun b => b.getLsbD (i - f.start)) (h f hf)
  simp only [getLsbD_field (show i - f.start < f.width by omega)] at hbit
  rwa [Nat.add_sub_cancel' hstart] at hbit

/-- Fields can be read off their concatenation. -/
theorem append_inj {m n : Nat} {x x' : BitVec m} {y y' : BitVec n} (h : x ++ y = x' ++ y') :
    x = x' ∧ y = y' := by
  have hleft := congrArg (BitVec.extractLsb' n m) h
  have hright := congrArg (BitVec.extractLsb' 0 n) h
  simp only [BitVec.extractLsb'_append_eq_left, BitVec.extractLsb'_append_eq_right] at hleft hright
  exact ⟨hleft, hright⟩

end Field

def HasFields (fixed : List (Field × Nat)) (w : Word) : Prop :=
  ∀ p ∈ fixed, w.field p.1.start p.1.width = BitVec.ofNat p.1.width p.2

section

variable {fixed fixed' : List (Field × Nat)} {w : Word}

@[simp] theorem hasFields_nil : HasFields [] w := by
  intro p hp
  cases hp

@[simp] theorem hasFields_cons {start width value : Nat} :
    HasFields ((⟨start, width⟩, value) :: fixed) w ↔
      w.field start width = BitVec.ofNat width value ∧ HasFields fixed w :=
  List.forall_mem_cons

@[simp] theorem hasFields_append :
    HasFields (fixed ++ fixed') w ↔ HasFields fixed w ∧ HasFields fixed' w :=
  List.forall_mem_append

theorem Word.field_eq_zero_iff {i : Nat} : w.field i 1 = 0#1 ↔ w.bit i = false := by
  rw [← w.ofBool_bit]
  cases w.bit i <;> decide

theorem Word.field_eq_one_iff {i : Nat} : w.field i 1 = 1#1 ↔ w.bit i = true := by
  rw [← w.ofBool_bit]
  cases w.bit i <;> decide

theorem Word.field_eq_bit {i : Nat} :
    w.field i 1 = BitVec.ofNat 1 (w.bit i).toNat := by
  rw [← w.ofBool_bit]
  cases w.bit i <;> rfl

@[simp] theorem Word.ofNat_bit (i : Nat) : BitVec.ofNat 1 (w.bit i).toNat = w.field i 1 :=
  Word.field_eq_bit.symm

@[simp] theorem Word.ofNat_u : BitVec.ofNat 1 w.u.toNat = w.field 29 1 := Word.field_eq_bit.symm

@[simp] theorem Word.ofNat_q : BitVec.ofNat 1 w.q.toNat = w.field 30 1 := Word.field_eq_bit.symm

@[simp] theorem Word.ofNat_sf : BitVec.ofNat 1 w.sf.toNat = w.field 31 1 := Word.field_eq_bit.symm

end

/-- How a memory operand forms its address, apart from its numbers. -/
inductive ModeKind where
  | offset | preIndex | postImmediate | postRegister | extended
  deriving DecidableEq

/-- The kind of a mode; a base alone is a base plus nothing. -/
def AddressingMode.kind : AddressingMode → ModeKind
  | base | offset _ => .offset
  | preIndex _ => .preIndex
  | postIndex (.immediate _) => .postImmediate
  | postIndex (.register _) => .postRegister
  | extended _ _ => .extended

/-- What an operand is, apart from its numbers. -/
inductive Kind where
  /-- A number, an address, or a name that stands for a number. -/
  | value
  | float
  | condition
  | control
  | general (sf : Bool)
  | scalar (e : ElementSize)
  | vector (e : ElementSize)
  | lane (e : ElementSize)
  /-- Consecutive vectors, or one lane of each. -/
  | list (e : ElementSize) (count : Nat) (single : Bool)
  | memory (mode : ModeKind)
  /-- A number that is signed, shifted or always in decimal, or a shifted register. -/
  | other
  deriving DecidableEq

def RegisterFile.kind : RegisterFile → Kind
  | w => .general false
  | x => .general true
  | v => .vector .q
  | b => .scalar .b
  | h => .scalar .h
  | s => .scalar .s
  | d => .scalar .d
  | q => .scalar .q
  | prefetch => .value
  | control => .control

namespace Operand

def kind : Operand → Kind
  | imm32 ⟨_, false, none, false⟩ | imm64 ⟨_, false, none, false⟩ => .value
  | label _ | systemRegister _ | systemEncoding _ => .value
  | float _ => .float
  | register ⟨r, none, none, none⟩ => r.file.kind
  | register ⟨_, some a, none, none⟩ => .vector a.element
  | register ⟨_, some a, some _, none⟩ => .lane a.element
  | registerList l =>
    if l.first.file = .v ∧ l.first.number < 32 then
      .list l.arrangement.element l.count l.lane.isSome
    else .other
  | memory m => .memory m.mode.kind
  | condition _ => .condition
  | imm32 _ | imm64 _ | register _ => .other

/-- The operand that stands for all that print alike: an immediate of 32 bits is one of 64, an
address is a number, and a base alone is a base plus nothing. -/
def normal : Operand → Operand
  | imm32 i => imm64 { i with value := (i.value.setWidth 32).setWidth 64 }
  | label target => imm64 ⟨target, false, none, false⟩
  | memory ⟨base, .base⟩ => memory ⟨base, .offset 0⟩
  | o => o

@[simp] theorem kind_normal (o : Operand) : o.normal.kind = o.kind := by
  cases o with
  | imm32 i =>
    obtain ⟨value, signed, shift, decimal⟩ := i
    cases signed <;> cases shift <;> cases decimal <;> rfl
  | memory m =>
    obtain ⟨base, mode⟩ := m
    cases mode <;> rfl
  | _ => rfl

end Operand

/-- An operand as a function of the word, with the fields that it shows. -/
structure Slot where
  kind : Kind
  operand : Word → Operand
  shown : List Field
  /-- What the word satisfies for the operand to show the fields. -/
  Holds : Word → Prop
  kind_operand : ∀ w, (operand w).kind = kind
  faithful : ∀ w w', Holds w → Holds w' → (operand w).normal = (operand w').normal →
    ∀ f ∈ shown, f.Same w w'

namespace Slot

def ofField (start : Nat) {width : Nat} (kind : Kind) (build : BitVec width → Operand)
    (hkind : ∀ n, (build n).kind = kind)
    (hinj : ∀ n n', (build n).normal = (build n').normal → n = n') : Slot where
  kind := kind
  operand := fun w => build (w.field start width)
  shown := [⟨start, width⟩]
  Holds := fun _ => True
  kind_operand := fun w => hkind _
  faithful := by
    intro w w' _ _ h f hf
    rw [List.mem_singleton.1 hf]
    exact hinj _ _ h

def ofBit (i : Nat) (kind : Kind) (build : Bool → Operand) (hkind : ∀ b, (build b).kind = kind)
    (hinj : ∀ b b', (build b).normal = (build b').normal → b = b') : Slot where
  kind := kind
  operand := fun w => build (w.bit i)
  shown := [⟨i, 1⟩]
  Holds := fun _ => True
  kind_operand := fun w => hkind _
  faithful := by
    intro w w' _ _ h f hf
    rw [List.mem_singleton.1 hf]
    exact Word.field_eq_bit.trans ((hinj _ _ h) ▸ Word.field_eq_bit.symm)

/-- The slot that shows nothing, since its operand is always the same. -/
def const (o : Operand) : Slot where
  kind := o.kind
  operand := fun _ => o
  shown := []
  Holds := fun _ => True
  kind_operand := fun _ => rfl
  faithful := fun _ _ _ _ _ _ hf => absurd hf List.not_mem_nil

def Hold (slots : List Slot) (w : Word) : Prop := ∀ s ∈ slots, s.Holds w

section

variable {s : Slot} {slots slots' : List Slot} {w : Word}

@[simp] theorem hold_nil : Hold [] w := by
  intro s hs
  cases hs

@[simp] theorem hold_cons : Hold (s :: slots) w ↔ s.Holds w ∧ Hold slots w := List.forall_mem_cons

@[simp] theorem hold_append : Hold (slots ++ slots') w ↔ Hold slots w ∧ Hold slots' w :=
  List.forall_mem_append

end

def fields (slots : List Slot) : List Field := slots.flatMap shown

theorem map_kind {slots : List Slot} {w : Word} :
    (slots.map (·.operand w)).map Operand.kind = slots.map (·.kind) := by
  simp [kind_operand]

theorem same_of_normal_eq {slots : List Slot} {w w' : Word} (hw : Hold slots w)
    (hw' : Hold slots w')
    (h : (slots.map (·.operand w)).map Operand.normal =
      (slots.map (·.operand w')).map Operand.normal) :
    ∀ f ∈ fields slots, f.Same w w' := by
  intro f hf
  obtain ⟨s, hs, hfs⟩ := List.mem_flatMap.1 hf
  rw [List.map_map, List.map_map] at h
  exact s.faithful w w' (hw s hs) (hw' s hs) (List.map_inj_left.1 h s hs) f hfs

end Slot

/-! ### Encodings -/

/-- An operation, its operands and the fields that are fixed. -/
structure Encoding where
  operation : Operation
  slots : List Slot
  fixed : List (Field × Nat)

namespace Encoding

/-- Every bit is fixed or shown. -/
def Covered (e : Encoding) : Prop :=
  Field.mask (e.fixed.map (·.1) ++ Slot.fields e.slots) = BitVec.allOnes 32

instance (e : Encoding) : Decidable e.Covered := inferInstanceAs (Decidable (_ = _))

variable {e e' : Encoding} {es : List Encoding} {w w' : Word} {d d' : Decoded}

/-- The word is one of the encoding and has the meaning that its operands give it. -/
structure Describes (e : Encoding) (w : Word) (d : Decoded) : Prop where
  fixed : HasFields e.fixed w
  holds : Slot.Hold e.slots w
  meaning : d = ⟨e.operation, e.slots.map (·.operand w)⟩

theorem Describes.word_eq (hc : e.Covered) (h : e.Describes w d) (h' : e.Describes w' d')
    (ho : d.operands.map Operand.normal = d'.operands.map Operand.normal) : w = w' := by
  rw [h.meaning, h'.meaning] at ho
  refine Field.eq_of_same hc fun f hf => ?_
  rcases List.mem_append.1 hf with hf | hf
  · obtain ⟨p, hp, rfl⟩ := List.mem_map.1 hf
    exact (h.fixed p hp).trans (h'.fixed p hp).symm
  · exact Slot.same_of_normal_eq h.holds h'.holds ho f hf

/-- One of the encodings describes the word. -/
def Described (es : List Encoding) (w : Word) (d : Decoded) : Prop := ∃ e ∈ es, e.Describes w d

theorem Described.single (h : e.Describes w d) : Described [e] w d :=
  ⟨e, List.mem_singleton_self e, h⟩

theorem Described.of_mem (he : e ∈ es) (h : e.Describes w d) : Described es w d := ⟨e, he, h⟩

theorem Described.of_part {l : List Encoding} {parts : List (List Encoding)} (hl : l ∈ parts)
    (h : Described l w d) : Described parts.flatten w d := by
  obtain ⟨e, he, hd⟩ := h
  exact ⟨e, List.mem_flatten.2 ⟨l, hl, he⟩, hd⟩

theorem Described.map {α : Type} {l : List α} {encoding : α → Encoding} {a : α} (ha : a ∈ l)
    (h : (encoding a).Describes w d) : Described (l.map encoding) w d :=
  ⟨_, List.mem_map_of_mem ha, h⟩

theorem Described.flatMap {α : Type} {l : List α} {encodings : α → List Encoding} {a : α}
    (ha : a ∈ l) (h : Described (encodings a) w d) : Described (l.flatMap encodings) w d := by
  obtain ⟨e, he, hd⟩ := h
  exact ⟨e, List.mem_flatMap.2 ⟨a, ha, he⟩, hd⟩

/-- The encodings of the rows of a table. -/
def ofTable {κ ρ : Type} (keys : List κ) (row? : κ → Option ρ)
    (encodings : κ → ρ → List Encoding) : List Encoding :=
  keys.flatMap fun k =>
    match row? k with
    | some row => encodings k row
    | none => []

theorem Described.ofTable {κ ρ : Type} {keys : List κ} {row? : κ → Option ρ}
    {encodings : κ → ρ → List Encoding} {k : κ} {row : ρ} (hk : k ∈ keys)
    (hrow : row? k = some row) (h : Described (encodings k row) w d) :
    Described (ofTable keys row? encodings) w d := by
  refine .flatMap hk ?_
  rw [hrow]
  exact h

end Encoding

def bitVectors (n : Nat) : List (BitVec n) := (List.range (2 ^ n)).map (BitVec.ofNat n)

@[simp] theorem mem_bitVectors {n : Nat} (b : BitVec n) : b ∈ bitVectors n :=
  List.mem_map.2 ⟨b.toNat, List.mem_range.2 b.isLt, by simp⟩

def bitPairs (m n : Nat) : List (BitVec m × BitVec n) := (bitVectors m).product (bitVectors n)

@[simp] theorem mem_bitPairs {m n : Nat} (a : BitVec m) (b : BitVec n) :
    (a, b) ∈ bitPairs m n := by
  simp [bitPairs, List.pair_mem_product]

/-- Keys with a further bit. -/
def flagged {κ : Type} (keys : List κ) : List (Bool × κ) :=
  keys.map (false, ·) ++ keys.map (true, ·)

@[simp] theorem mem_flagged {κ : Type} {keys : List κ} {b : Bool} {k : κ} :
    (b, k) ∈ flagged keys ↔ k ∈ keys := by
  cases b <;> simp [flagged]

/-! ### Telling encodings apart -/

namespace Kind

def code : Kind → Nat
  | other => 0
  | value => 1
  | float => 2
  | condition => 3
  | control => 4
  | general sf => 5 + sf.toNat
  | memory mode => 8 + mode.ctorIdx
  | scalar e => 16 + e.ctorIdx
  | vector e => 24 + e.ctorIdx
  | lane e => 32 + e.ctorIdx
  | list e count single => 64 + e.ctorIdx + 8 * count + 128 * single.toNat

end Kind

/-- Splits numbers by one bit after the other, down to parts of at most one number. -/
def distinct : Nat → List Nat → Bool
  | _, [] => true
  | _, [_] => true
  | 0, _ => false
  | n + 1, l => distinct n (l.filter (·.testBit n)) && distinct n (l.filter (!·.testBit n))

theorem nodup_of_distinct {n : Nat} {l : List Nat} (h : distinct n l = true) : l.Nodup := by
  fun_induction distinct n l with
  | case1 => exact List.nodup_nil
  | case2 n a => exact List.nodup_singleton a
  | case3 l => cases h
  | case4 n l _ _ ihset ihclear =>
    rw [Bool.and_eq_true] at h
    have hperm := List.filter_append_perm (·.testBit n) l
    refine hperm.nodup_iff.1 ((ihset h.1).append (ihclear h.2) ?_)
    intro a ha ha'
    have := (List.mem_filter.1 ha).2
    simp [this] at ha'

/-- Hands on the numbers with a bit and those without it. -/
def splitBit (n : Nat) : List Nat → (List Nat → List Nat → Bool) → Bool
  | [], next => next [] []
  | a :: l, next => splitBit n l fun set clear =>
    bif Nat.beq (Nat.land 1 (Nat.shiftRight a n)) 1 then next (a :: set) clear
    else next set (a :: clear)

theorem splitBit_eq {n : Nat} {l : List Nat} {next : List Nat → List Nat → Bool} :
    splitBit n l next = next (l.filter (·.testBit n)) (l.filter (!·.testBit n)) := by
  induction l generalizing next with
  | nil => rfl
  | cons a l ih =>
    have hbit : Nat.land 1 (Nat.shiftRight a n) = (a.testBit n).toNat := by
      rw [Nat.toNat_testBit, ← Nat.shiftRight_eq_div_pow]
      exact Nat.one_and_eq_mod_two _
    rw [splitBit, ih, hbit, List.filter_cons, List.filter_cons]
    cases a.testBit n <;> rfl

/-- The splits of `distinct`, each with one look at a number and by functions that the kernel
computes itself. -/
def distinctBits : Nat → List Nat → Bool
  | _, [] => true
  | _, [_] => true
  | 0, _ => false
  | n + 1, l => splitBit n l fun set clear => distinctBits n set && distinctBits n clear

theorem distinct_eq (n : Nat) (l : List Nat) : distinct n l = distinctBits n l := by
  fun_induction distinct n l with
  | case1 n => cases n <;> rfl
  | case2 n a => cases n <;> rfl
  | case3 l hnil hsingle =>
    rw [distinctBits]
    · exact hnil
    · exact hsingle
  | case4 n l hnil hsingle ihset ihclear =>
    rw [ihset, ihclear, distinctBits, splitBit_eq]
    · exact hnil
    · exact hsingle

namespace Encoding

variable {e e' : Encoding} {es : List Encoding} {w w' : Word} {d d' : Decoded}

def code (op : Operation) (kinds : List Kind) : Nat :=
  kinds.foldl (fun k kind => (k * 1021 + kind.code) % 16777213) op.ctorIdx

def signature (e : Encoding) : Nat := code e.operation (e.slots.map (·.kind))

/-- Every bit of every word is fixed or shown, and the instructions of different encodings differ in
their operations or the kinds of their operands. -/
structure Faithful (es : List Encoding) : Prop where
  covered : ∀ e ∈ es, e.Covered
  apart : (es.map signature).Nodup

def check (es : List Encoding) : Bool :=
  es.all (fun e => decide e.Covered) && distinct 24 (es.map signature)

theorem faithful_of_check (h : check es = true) : Faithful es := by
  rw [check, Bool.and_eq_true, List.all_eq_true] at h
  exact ⟨fun e he => of_decide_eq_true (h.1 e he), nodup_of_distinct h.2⟩

theorem Describes.signature_eq (h : e.Describes w d) :
    e.signature = code d.operation (d.operands.map Operand.kind) := by
  rw [signature, h.meaning, Slot.map_kind]

/-- An instruction tells its word. -/
theorem Faithful.word_eq (h : Faithful es) (hw : Described es w d) (hw' : Described es w' d')
    (hop : d.operation = d'.operation)
    (ho : d.operands.map Operand.normal = d'.operands.map Operand.normal) : w = w' := by
  obtain ⟨e, he, hd⟩ := hw
  obtain ⟨e', he', hd'⟩ := hw'
  have hkinds : d.operands.map Operand.kind = d'.operands.map Operand.kind := by
    simpa [Function.comp_def] using congrArg (List.map Operand.kind) ho
  have hsignature : e.signature = e'.signature := by
    rw [hd.signature_eq, hd'.signature_eq, hop, hkinds]
  obtain rfl : e = e' := List.inj_on_of_nodup_map h.apart he he' hsignature
  exact hd.word_eq (h.covered e he) hd' ho

end Encoding

end A64
