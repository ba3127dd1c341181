import A64.Proofs.PlainText
import A64.Proofs.Spelling
import A64.Proofs.TextValues
import Mathlib.Data.Int.ModEq

/-!
# Values of operands

What is written of an operand shows the value that the operand has (`Text.shows_operand`), in
whichever base its integers are written. Nothing but an integer has a number sign or a sign in it,
and behind an integer comes a comma, a bracket or the end of the text.
-/

namespace A64

def Shift.amounts (shift? : Option Shift) : List Int :=
  ((shift?.bind Shift.amount).map Int.ofNat).toList

/-- The integer that is written for an immediate of the given width. -/
def Immediate.shown (width : Nat) (i : Immediate) : Int :=
  if i.signed then (i.value.setWidth width).toInt
  else if i.decimal then i.value.toNat
  else (i.value.setWidth width).toNat

/-- Whether the integer is in decimal, given the base of the text. A signed immediate is
not asked. -/
def Immediate.inDecimal (decimal : Bool) (i : Immediate) : Bool :=
  decimal || (i.decimal && !i.signed)

/-- The integer is the value of an immediate of the given width, and negative exactly if the value
is signed and negative at that width. -/
structure Immediate.Shows (width : Nat) (i : Immediate) (v : Int) : Prop where
  value : v ≡ i.value.toNat [ZMOD 2 ^ width]
  negative : v < 0 ↔ i.signed = true ∧ (i.value.setWidth width).toInt < 0

theorem Immediate.shows_shown (width : Nat) (i : Immediate) : i.Shows width (i.shown width) := by
  have hlow : (i.value.setWidth width).toNat ≡ i.value.toNat [ZMOD 2 ^ width] := by
    rw [BitVec.toNat_setWidth]
    push_cast
    exact Int.mod_modEq _ _
  unfold shown
  split
  · rename_i hsigned
    refine ⟨?_, by simp [hsigned]⟩
    rw [BitVec.toInt_setWidth]
    have hmod := Int.bmod_emod (x := i.value.toNat) (m := 2 ^ width)
    push_cast at hmod ⊢
    exact hmod
  · rename_i hsigned
    split
    · exact ⟨rfl, by simp [hsigned]⟩
    · exact ⟨hlow, iff_of_false (by omega) (by simp [hsigned])⟩

/-- The integers that an addressing mode shows. An offset of zero is left out. -/
def AddressingMode.integers : AddressingMode → List Int
  | base | postIndex (.register _) => []
  | preIndex amount | postIndex (.immediate amount) => [amount]
  | offset amount => if amount = 0 then [] else [amount]
  | extended _ shift => Shift.amounts shift

namespace Text

/-- The text shows the integers, and it has a sign exactly if one of them is negative. -/
structure Writes (vs : List Int) (s : String) : Prop where
  integers : Text.integers s = vs
  sign : '-' ∈ s.toList ↔ ∃ v ∈ vs, v < 0

end Text

namespace Operand

/-- The text shows the value of the operand, and the amount of its shift. A floating-point value is
not an integer. -/
def Shows (t : String) : Operand → Prop
  | imm32 i => ∃ v, Text.Writes (v :: Shift.amounts i.shift) t ∧ i.Shows 32 v
  | imm64 i => ∃ v, Text.Writes (v :: Shift.amounts i.shift) t ∧ i.Shows 64 v
  | label target => Text.Writes [target.toNat] t
  | memory m => Text.Writes m.mode.integers t
  | register r => Text.Writes (Shift.amounts r.shift) t
  | float _ => True
  | registerList _ | systemRegister _ | condition _ | systemEncoding _ => Text.Writes [] t

end Operand

namespace Text

variable {s t : String} {decimal : Bool} {vs vs' : List Int}

/-- The text has neither a number sign nor a sign. -/
def Unmarked (s : String) : Prop := ∀ c ∈ s.toList, c ≠ '#' ∧ c ≠ '-'

instance (s : String) : Decidable (Unmarked s) := inferInstanceAs (Decidable (∀ c ∈ s.toList, _))

@[simp] theorem unmarked_append : Unmarked (s ++ t) ↔ Unmarked s ∧ Unmarked t := by
  simp only [Unmarked, String.toList_append, List.forall_mem_append]

theorem Unmarked.notMem (h : Unmarked s) : '#' ∉ s.toList ∧ '-' ∉ s.toList :=
  ⟨fun hc => (h _ hc).1 rfl, fun hc => (h _ hc).2 rfl⟩

theorem unmarked_of_notMem (h : '#' ∉ s.toList ∧ '-' ∉ s.toList) : Unmarked s :=
  fun _ hc => ⟨fun heq => h.1 (heq ▸ hc), fun heq => h.2 (heq ▸ hc)⟩

theorem unmarked_intercalate {sep : String} (hsep : Unmarked sep) {l : List String}
    (h : ∀ t ∈ l, Unmarked t) : Unmarked (sep.intercalate l) :=
  forall_mem_intercalate hsep h

theorem unmarked_word (h : s ∈ words) : Unmarked s :=
  unmarked_of_notMem ⟨notMem_word_of_code h (by decide), notMem_word_of_code h (by decide)⟩

theorem unmarked_registerName {r : Register} (h : registerName r = .ok s) : Unmarked s :=
  unmarked_word (mem_words_of_registerName h)

theorem unmarked_shiftName (kind : ShiftKind) : Unmarked kind.name := by
  cases kind <;> decide

theorem unmarked_condition (c : Condition) : Unmarked c.name := by
  cases c <;> decide

theorem unmarked_decimal (n : Nat) : Unmarked (Numeral.decimal n) := by
  have hdigits {c : Char} (hc : Numeral.digit? 10 c = none) : c ∉ (Numeral.decimal n).toList := by
    rw [Numeral.decimal, String.toList_ofList]
    exact Numeral.notMem_toDigits (by decide) (by decide) n hc
  exact unmarked_of_notMem ⟨hdigits (by decide), hdigits (by decide)⟩

theorem unmarked_arrangement (a : Arrangement) : Unmarked (arrangement a) := by
  refine unmarked_append.2 ⟨?_, by cases a.element <;> decide⟩
  split
  · decide
  · exact unmarked_decimal _

theorem unmarked_laneSuffix (lane? : Option Nat) : Unmarked (laneSuffix lane?) := by
  cases lane? with
  | none => decide
  | some n =>
    simp only [laneSuffix, unmarked_append, unmarked_decimal]
    decide

theorem unmarked_vectorSuffix {r : RegisterOperand} (h : vectorSuffix r = .ok s) : Unmarked s := by
  unfold vectorSuffix at h
  split at h
  · cases h
    decide
  · cases h
  · split at h
    · cases h
    · split at h <;> cases h
      exact unmarked_append.2
        ⟨unmarked_append.2 ⟨by decide, unmarked_arrangement _⟩, unmarked_laneSuffix _⟩

theorem unmarked_registerList {l : RegisterList} (h : registerList l = .ok s) : Unmarked s := by
  by_cases hcount : l.count = 0 ∨ 4 < l.count
  · rw [registerList, if_pos hcount] at h
    cases h
  · rw [registerList, if_neg hcount] at h
    obtain ⟨names, hnames, h⟩ := exists_ok_of_bind h
    cases h
    have hmembers : ∀ t ∈ names.map fun name => name ++ "." ++ arrangement l.arrangement,
        Unmarked t := by
      refine List.forall_mem_map.2 fun name hname => ?_
      have hword := unmarked_word (mem_words_of_mapM hnames name hname)
      exact unmarked_append.2 ⟨unmarked_append.2 ⟨hword, by decide⟩, unmarked_arrangement _⟩
    have hlist := unmarked_intercalate (show Unmarked ", " by decide) hmembers
    simp only [unmarked_append, hlist, unmarked_laneSuffix]
    decide

theorem unmarked_systemEncoding (e : SystemEncoding) : Unmarked (systemEncoding e) := by
  simp only [systemEncoding, unmarked_append, unmarked_decimal]
  decide

theorem Unmarked.writes (h : Unmarked s) : Writes [] s where
  integers := integers_of_notMem h.notMem.1
  sign := by simp [h.notMem.2]

theorem Unmarked.writes_append (h : Unmarked s) (ht : Writes vs t) : Writes vs (s ++ t) where
  integers := by rw [integers_append_of_notMem h.notMem.1, ht.integers]
  sign := by simp [← ht.sign, h.notMem.2]

theorem Writes.append (hs : Writes vs s) (ht : Writes vs' t) (hb : Breaks t.toList) :
    Writes (vs ++ vs') (s ++ t) where
  integers := by rw [integers_append hb, hs.integers, ht.integers]
  sign := by
    simp only [String.toList_append, List.mem_append, hs.sign, ht.sign, or_and_right, exists_or]

theorem writes_signed (decimal : Bool) (i : Int) : Writes [i] ("#" ++ signed decimal i) where
  integers := integers_signed decimal i
  sign := by simp [sign_mem_signed_iff]

theorem Unmarked.writes_signed (h : Unmarked s) (decimal : Bool) (i : Int) :
    Writes [i] (s ++ "#" ++ signed decimal i) := by
  rw [String.append_assoc]
  exact h.writes_append (Text.writes_signed decimal i)

theorem writes_shiftSuffix (shift? : Option Shift) :
    Writes (Shift.amounts shift?) (shiftSuffix shift?) := by
  rcases shift? with _ | ⟨kind, _ | n⟩
  · exact Unmarked.writes (by decide)
  · exact Unmarked.writes (unmarked_append.2 ⟨by decide, unmarked_shiftName kind⟩)
  · have htext : ", " ++ (kind.name ++ (" " ++ "#") ++ Numeral.decimal n) =
        ", " ++ kind.name ++ " " ++ "#" ++ signed true n := by
      rw [signed_natCast]
      simp only [String.append_assoc]
      rfl
    have hname : Unmarked (", " ++ kind.name ++ " ") := by
      simp only [unmarked_append, unmarked_shiftName]
      decide
    show Writes [n] (", " ++ (kind.name ++ (" " ++ "#") ++ Numeral.decimal n))
    rw [htext]
    exact hname.writes_signed true n

theorem breaks_shiftSuffix (shift? : Option Shift) : Breaks (shiftSuffix shift?).toList := by
  cases shift? with
  | none => decide
  | some s => exact breaks_append (by decide) (by decide) _

theorem immediateValue_eq (decimal : Bool) (width : Nat) (i : Immediate) :
    immediateValue decimal width i = signed (i.inDecimal decimal) (i.shown width) := by
  unfold immediateValue Immediate.shown Immediate.inDecimal
  split
  · rename_i hsigned
    simp [hsigned]
  · rename_i hunsigned
    split
    · rename_i hdecimal
      rw [signed_natCast]
      simp [hunsigned, hdecimal]
    · rename_i hdecimal
      rw [signed_natCast]
      simp [hdecimal]

theorem writes_immediate (decimal : Bool) (width : Nat) (i : Immediate) :
    Writes (i.shown width :: Shift.amounts i.shift) (immediate decimal width i) := by
  rw [immediate, immediateValue_eq]
  exact (writes_signed _ _).append (writes_shiftSuffix _) (breaks_shiftSuffix _)

theorem writes_mode {m : AddressingMode} (h : mode decimal m = .ok t) : Writes m.integers t := by
  have hcomma : Unmarked ", " := by decide
  rcases m with _ | offset | (offset | r) | offset | ⟨index, shift⟩
  · cases h
    exact Unmarked.writes (by decide)
  · cases h
    exact (hcomma.writes_signed decimal offset).append (Unmarked.writes (by decide)) (by decide)
  · cases h
    have hclose : Unmarked "], " := by decide
    exact hclose.writes_signed decimal offset
  · rw [mode] at h
    obtain ⟨name, hname, h⟩ := exists_ok_of_bind h
    cases h
    exact Unmarked.writes (unmarked_append.2 ⟨by decide, unmarked_registerName hname⟩)
  · cases h
    rw [AddressingMode.integers]
    split
    · exact Unmarked.writes (by decide)
    · exact (hcomma.writes_signed decimal offset).append (Unmarked.writes (by decide)) (by decide)
  · rw [mode] at h
    obtain ⟨name, hname, h⟩ := exists_ok_of_bind h
    cases h
    have hindex : Unmarked (", " ++ name) :=
      unmarked_append.2 ⟨by decide, unmarked_registerName hname⟩
    have hend := (hindex.writes_append (writes_shiftSuffix shift)).append
      (Unmarked.writes (s := "]") (by decide)) (by decide)
    rwa [List.append_nil] at hend

theorem writes_memory {m : MemoryOperand} (h : memory decimal m = .ok t) :
    Writes m.mode.integers t := by
  by_cases hbase : m.base.file = .x
  · rw [memory, if_neg (by simp [hbase])] at h
    obtain ⟨name, hname, h⟩ := exists_ok_of_bind h
    obtain ⟨rest, hmode, h⟩ := exists_ok_of_bind h
    cases h
    have hopen : Unmarked ("[" ++ name) :=
      unmarked_append.2 ⟨by decide, unmarked_registerName hname⟩
    exact hopen.writes_append (writes_mode hmode)
  · rw [memory, if_pos hbase] at h
    cases h

theorem writes_register {r : RegisterOperand} (h : register r = .ok t) :
    Writes (Shift.amounts r.shift) t := by
  rw [register] at h
  obtain ⟨name, hname, h⟩ := exists_ok_of_bind h
  obtain ⟨suffix, hsuffix, h⟩ := exists_ok_of_bind h
  cases h
  have hvector : Unmarked (name ++ suffix) :=
    unmarked_append.2 ⟨unmarked_registerName hname, unmarked_vectorSuffix hsuffix⟩
  exact hvector.writes_append (writes_shiftSuffix r.shift)

/-- What is written of an operand shows its value. -/
theorem shows_operand {o : Operand} (h : operand decimal o = .ok t) : o.Shows t := by
  cases o with
  | imm32 i => cases h; exact ⟨_, writes_immediate decimal 32 i, i.shows_shown 32⟩
  | imm64 i => cases h; exact ⟨_, writes_immediate decimal 64 i, i.shows_shown 64⟩
  | float bits => trivial
  | register r => exact writes_register h
  | registerList l => exact (unmarked_registerList h).writes
  | systemRegister r =>
    cases h
    have hword : r.name ∈ words :=
      List.mem_append_right _ (List.mem_append_right _ (List.mem_map_of_mem r.mem_all))
    exact (unmarked_word hword).writes
  | memory m => exact writes_memory h
  | label target =>
    cases h
    have hvalue := writes_signed decimal target.toNat
    rwa [signed_natCast] at hvalue
  | condition c => cases h; exact (unmarked_condition c).writes
  | systemEncoding e => cases h; exact (unmarked_systemEncoding e).writes

end Text

end A64
