import A64.Decode.Memory
import A64.Proofs.Slot

/-!
# Memory operands and classes of loads and stores

Operands in memory with the fields that they show: the base, and the offset, the index register or
what is added to the base afterwards. An offset is a displacement that its fields determine
(`Displacement`); of an index register also the extension shows its fields. Then the fields that are
the same in all words of a class of loads and stores.
-/

namespace A64

/-- A number as a function of the word, with the fields that it shows. -/
structure Displacement where
  value : Word → Int
  shown : List Field
  faithful : ∀ w w', value w = value w' → ∀ f ∈ shown, f.Same w w'

namespace Displacement

def blank (value : Word → Int) : Displacement where
  value := value
  shown := []
  faithful := fun _ _ _ _ hf => absurd hf List.not_mem_nil

def ofField (start : Nat) {width : Nat} (value : BitVec width → Int)
    (hinj : ∀ n n', value n = value n' → n = n') : Displacement where
  value := fun w => value (w.field start width)
  shown := [⟨start, width⟩]
  faithful := by
    intro w w' h f hf
    rw [List.mem_singleton.1 hf]
    exact hinj _ _ h

theorem bytes_pos (log2 : Nat) : 0 < Decode.bytes log2 := by
  rw [Decode.bytes, Nat.one_shiftLeft]
  exact Nat.two_pow_pos log2

theorem toInt_mul_injective {width scale : Nat} (hscale : 0 < scale) (n n' : BitVec width)
    (h : n.toInt * scale = n'.toInt * scale) : n = n' := by
  have hne : (scale : Int) ≠ 0 := by omega
  exact BitVec.eq_of_toInt_eq (Int.eq_of_mul_eq_mul_right hne h)

theorem toNat_mul_injective {width scale : Nat} (hscale : 0 < scale) (n n' : BitVec width)
    (h : (n.toNat * scale : Int) = n'.toNat * scale) : n = n' := by
  have hnat : n.toNat * scale = n'.toNat * scale := by exact_mod_cast h
  exact BitVec.eq_of_toNat_eq (Nat.eq_of_mul_eq_mul_right hscale hnat)

def signed (start width : Nat) : Displacement :=
  ofField start (fun n : BitVec width => n.toInt) fun _ _ => BitVec.eq_of_toInt_eq

/-- A signed number of units of `2 ^ log2` bytes. -/
def scaled (start width log2 : Nat) : Displacement :=
  ofField start (fun n : BitVec width => n.toInt * Decode.bytes log2)
    (toInt_mul_injective (bytes_pos log2))

def unsigned (start width log2 : Nat) : Displacement :=
  ofField start (fun n : BitVec width => n.toNat * Decode.bytes log2)
    (toNat_mul_injective (bytes_pos log2))

end Displacement

/-- The mode that stands for all that print alike: a base alone is a base plus nothing. -/
def AddressingMode.normal : AddressingMode → AddressingMode
  | base => offset 0
  | m => m

theorem Operand.normal_memory (base : Register) (mode : AddressingMode) :
    (memory ⟨base, mode⟩).normal = memory ⟨base, mode.normal⟩ := by
  cases mode <;> rfl

namespace Slot

/-- An operand in memory whose address has a mode of the given kind. -/
def memory (kind : ModeKind) (mode : Word → AddressingMode) (shown : List Field)
    (hkind : ∀ w, (mode w).kind = kind)
    (hmode : ∀ w w', (mode w).normal = (mode w').normal → ∀ f ∈ shown, f.Same w w') : Slot where
  kind := .memory kind
  operand := fun w => Decode.memory w.rn (mode w)
  shown := ⟨rn, 5⟩ :: shown
  Holds := fun _ => True
  kind_operand := fun w => congrArg Kind.memory (hkind w)
  faithful := by
    intro w w' _ _ h
    simp only [Decode.memory, Operand.normal_memory, Operand.memory.injEq,
      MemoryOperand.mk.injEq] at h
    exact List.forall_mem_cons.2 ⟨xsp_injective h.1, hmode w w' h.2⟩

def base : Slot :=
  memory .offset (fun _ => .base) [] (fun _ => rfl) fun _ _ _ _ hf => absurd hf List.not_mem_nil

def offset (v : Displacement) : Slot :=
  memory .offset (fun w => .offset (v.value w)) v.shown (fun _ => rfl) fun w w' h =>
    v.faithful w w' (AddressingMode.offset.inj h)

/-- The memory at an offset from a base, which becomes the base. -/
def preIndex (v : Displacement) : Slot :=
  memory .preIndex (fun w => .preIndex (v.value w)) v.shown (fun _ => rfl) fun w w' h =>
    v.faithful w w' (AddressingMode.preIndex.inj h)

def postIndex (v : Displacement) : Slot :=
  memory .postImmediate (fun w => .postIndex (.immediate (v.value w))) v.shown (fun _ => rfl)
    fun w w' h => v.faithful w w' (PostIndex.immediate.inj (AddressingMode.postIndex.inj h))

theorem x_injective {n n' : BitVec 5} (h : Register.x n = Register.x n') : n = n' :=
  BitVec.eq_of_toNat_eq (congrArg Register.number h)

def postRegister : Slot :=
  memory .postRegister (fun w => .postIndex (.register (.x w.rm))) [⟨rm, 5⟩] (fun _ => rfl) (by
    intro w w' h f hf
    rw [List.mem_singleton.1 hf]
    exact x_injective (PostIndex.register.inj (AddressingMode.postIndex.inj h)))

def indexRegister (w : Word) : Register := if w.bit 13 then .x w.rm else .w w.rm

theorem indexRegister_injective {w w' : Word} (h : indexRegister w = indexRegister w') :
    w.rm = w'.rm := by
  have hnumber (w : Word) : (indexRegister w).number = w.rm.toNat := by
    unfold indexRegister
    split <;> rfl
  refine BitVec.eq_of_toNat_eq ?_
  rw [← hnumber, h, hnumber]

theorem ofExtendBits_ne_lsl (b : BitVec 3) : ShiftKind.ofExtendBits b ≠ .lsl := by
  revert b
  decide

theorem ofExtendBits_injective {b b' : BitVec 3}
    (h : ShiftKind.ofExtendBits b = ShiftKind.ofExtendBits b') : b = b' := by
  revert b b'
  decide

theorem indexShift_injective {option option' : BitVec 3} {amount amount' : Option Nat}
    (h : Decode.indexShift option amount = Decode.indexShift option' amount') :
    option = option' ∧ amount = amount' := by
  unfold Decode.indexShift at h
  split at h <;> split at h <;> rename_i ho ho'
  · refine ⟨ho.trans ho'.symm, ?_⟩
    cases amount <;> cases amount' <;> simp_all [Shift.lsl, Shift.ofAmount]
  · obtain ⟨a, -, ha⟩ := Option.map_eq_some_iff.1 h
    have hkind : ShiftKind.lsl = .ofExtendBits option' := congrArg Shift.kind ha
    exact absurd hkind.symm (ofExtendBits_ne_lsl _)
  · obtain ⟨a, -, ha⟩ := Option.map_eq_some_iff.1 h.symm
    have hkind : ShiftKind.lsl = .ofExtendBits option := congrArg Shift.kind ha
    exact absurd hkind.symm (ofExtendBits_ne_lsl _)
  · simp only [Option.some.injEq, Shift.mk.injEq] at h
    exact ⟨ofExtendBits_injective h.1, h.2⟩

/-- The memory at a base plus an index register, which is extended and may be shifted. -/
def extended (log2 : Nat) : Slot :=
  memory .extended
    (fun w => .extended (indexRegister w)
      (Decode.indexShift (w.field 13 3) (if w.bit 12 then some log2 else none)))
    [⟨rm, 5⟩, ⟨13, 3⟩, ⟨12, 1⟩] (fun _ => rfl) (by
      intro w w' h
      obtain ⟨hindex, hshift⟩ := AddressingMode.extended.inj h
      obtain ⟨hoption, hamount⟩ := indexShift_injective hshift
      have hbit : w.bit 12 = w'.bit 12 := by
        revert hamount
        cases w.bit 12 <;> cases w'.bit 12 <;> simp
      have hfield : w.field 12 1 = w'.field 12 1 := by
        rw [Word.field_eq_bit, hbit, Word.ofNat_bit]
      have hrm : w.field 16 5 = w'.field 16 5 := indexRegister_injective hindex
      simp [hrm, hoption, hfield])

theorem kind_prefetch (n : BitVec 5) : (Decode.prefetch n).kind = .value := by
  revert n
  decide

theorem prefetch_injective (n n' : BitVec 5)
    (h : (Decode.prefetch n).normal = (Decode.prefetch n').normal) : n = n' := by
  revert n n'
  decide

def prefetch (start : Nat) : Slot :=
  ofField start .value Decode.prefetch kind_prefetch prefetch_injective

def target (start : Nat) : Decode.Target → Slot
  | .general sf => gpr sf start
  | .vector e => scalar e start
  | .prefetch => prefetch start

theorem operand_target (start : Nat) (t : Decode.Target) (w : Word) :
    (target start t).operand w = t.operand (w.field start 5) := by
  cases t <;> rfl

section

variable {w : Word} (v : Displacement)

@[simp] theorem holds_base : base.Holds w := trivial

@[simp] theorem holds_offset : (offset v).Holds w := trivial

@[simp] theorem holds_preIndex : (preIndex v).Holds w := trivial

@[simp] theorem holds_postIndex : (postIndex v).Holds w := trivial

@[simp] theorem holds_postRegister : postRegister.Holds w := trivial

@[simp] theorem holds_extended (log2 : Nat) : (extended log2).Holds w := trivial

@[simp] theorem holds_target (start : Nat) (t : Decode.Target) : (target start t).Holds w := by
  cases t <;> trivial

end

end Slot

namespace Decode.MemoryClass

/-- The fixed fields of all loads and stores, with those that divide the group. -/
def groupBits (b₂₈ : Nat) : List (Field × Nat) := [(⟨25, 1⟩, 0), (⟨27, 1⟩, 1), (⟨28, 2⟩, b₂₈)]

def fixed : MemoryClass → List (Field × Nat)
  | multipleStructures => groupBits 0 ++ [(⟨26, 1⟩, 1), (⟨31, 1⟩, 0), (⟨24, 1⟩, 0)]
  | singleStructure => groupBits 0 ++ [(⟨26, 1⟩, 1), (⟨31, 1⟩, 0), (⟨24, 1⟩, 1)]
  | exclusive => groupBits 0 ++ [(⟨26, 1⟩, 0), (⟨24, 1⟩, 0)]
  | literal => groupBits 1 ++ [(⟨24, 1⟩, 0)]
  | releaseConsistent =>
    groupBits 1 ++ [(⟨24, 1⟩, 1), (⟨26, 1⟩, 0), (⟨21, 1⟩, 0), (⟨10, 2⟩, 0)]
  | pair => groupBits 2
  | unsignedOffset => groupBits 3 ++ [(⟨24, 1⟩, 1)]
  | signedOffset => groupBits 3 ++ [(⟨24, 1⟩, 0), (⟨21, 1⟩, 0)]
  | atomic => groupBits 3 ++ [(⟨24, 1⟩, 0), (⟨21, 1⟩, 1), (⟨10, 2⟩, 0)]
  | registerOffset => groupBits 3 ++ [(⟨24, 1⟩, 0), (⟨21, 1⟩, 1), (⟨10, 2⟩, 2)]
  | authenticatedLoad => groupBits 3 ++ [(⟨24, 1⟩, 0), (⟨21, 1⟩, 1), (⟨10, 1⟩, 1)]

theorem hasFields_groupBits {w : Word} (hgroup : Group.ofWord? w = some .loadStore) {n : Nat}
    (hclass : w.field 28 2 = BitVec.ofNat 2 n) : HasFields (groupBits n) w := by
  have hall : ∀ b : BitVec 4, Group.ofBits? b = some .loadStore →
      b.extractLsb' 0 1 = 0 ∧ b.extractLsb' 2 1 = 1 := by decide
  have hlow : (w.field 25 4).extractLsb' 0 1 = w.field 25 1 := w.field_field (by decide)
  have hhigh : (w.field 25 4).extractLsb' 2 1 = w.field 27 1 := w.field_field (by decide)
  have hbits := hall _ hgroup
  rw [hlow, hhigh] at hbits
  simp [groupBits, hbits, hclass]

theorem hasFields {w : Word} {cls : MemoryClass} (hgroup : Group.ofWord? w = some .loadStore)
    (h : ofWord w = .ok cls) : HasFields cls.fixed w := by
  have hzero {i : Nat} (hb : ¬ w.bit i = true) : w.field i 1 = 0 :=
    Word.field_eq_zero_iff.2 (eq_false_of_ne_true hb)
  have hone {i : Nat} (hb : w.bit i = true) : w.field i 1 = 1 := Word.field_eq_one_iff.2 hb
  unfold ofWord at h
  split at h <;> rename_i hclass
  · have hbits := hasFields_groupBits hgroup hclass
    split at h <;> rename_i h26
    · split at h <;> rename_i h31 <;> cases h
      split <;> rename_i h24
      · simp [fixed, hbits, hone h26, hzero h31, hone h24]
      · simp [fixed, hbits, hone h26, hzero h31, hzero h24]
    · split at h <;> rename_i h24 <;> cases h
      simp [fixed, hbits, hzero h26, hzero h24]
  · have hbits := hasFields_groupBits hgroup hclass
    split at h <;> rename_i h24
    · cases h
      simp [fixed, hbits, Word.field_eq_zero_iff.2 h24]
    · split at h <;> rename_i hrest <;> cases h
      obtain ⟨h26, h21, h10⟩ := hrest
      simp [fixed, hbits, Word.field_eq_one_iff.2 (eq_true_of_ne_false h24),
        Word.field_eq_zero_iff.2 h26, Word.field_eq_zero_iff.2 h21, h10]
  · cases h
    exact hasFields_groupBits hgroup hclass
  · rename_i hclass₀ hclass₁
    have htop : ∀ b : BitVec 2, b ≠ 0 → b ≠ 1 → b ≠ 2 → b = 3 := by decide
    have hbits := hasFields_groupBits hgroup (htop _ hclass₀ hclass₁ hclass)
    split at h <;> rename_i h24
    · cases h
      simp [fixed, hbits, hone h24]
    · split at h <;> rename_i h21
      · cases h
        simp [fixed, hbits, hzero h24, Word.field_eq_zero_iff.2 h21]
      · have h21 := Word.field_eq_one_iff.2 (eq_true_of_ne_false h21)
        split at h <;> cases h <;> rename_i h10
        · simp [fixed, hbits, hzero h24, h21, h10]
        · simp [fixed, hbits, hzero h24, h21, h10]
        · rename_i h10'
          have hodd : ∀ b : BitVec 2, b ≠ 0 → b ≠ 2 → b.extractLsb' 0 1 = 1 := by decide
          have hlow : (w.field 10 2).extractLsb' 0 1 = w.field 10 1 := w.field_field (by decide)
          simp [fixed, hbits, hzero h24, h21, ← hlow, hodd _ h10' h10]

end Decode.MemoryClass

end A64
