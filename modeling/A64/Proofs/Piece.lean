import A64.Proofs.Mnemonic
import A64.Proofs.Numeral
import A64.Proofs.RegisterName

/-!
# The pieces of operands

The operands of integer instructions are written as pieces between commas: general-purpose
registers, numbers, shifts and conditions. A piece is told by its text: a number starts with a
number sign, a shift with an amount has a space in it, and all other pieces come from a short list
of different words.
-/

namespace A64

namespace Text

def base (decimal : Bool) : Nat := if decimal then 10 else 16

theorem one_lt_base (decimal : Bool) : 1 < base decimal := by cases decimal <;> decide

theorem base_le (decimal : Bool) : base decimal ≤ 16 := by cases decimal <;> decide

/-- A number is its digits, after a mark unless it is in decimal. -/
theorem toList_number (decimal : Bool) (n : Nat) :
    (number decimal n).toList =
      (if decimal then [] else ['0', 'x']) ++ Nat.toDigits (base decimal) n := by
  cases decimal <;> simp [number, base, Numeral.decimal, Numeral.hex, Numeral.hexDigits]

theorem number_injective {decimal : Bool} {m n : Nat} (h : number decimal m = number decimal n) :
    m = n := by
  have hdigits := congrArg String.toList h
  rw [toList_number, toList_number] at hdigits
  exact Numeral.toDigits_injective (one_lt_base decimal) (base_le decimal)
    (List.append_cancel_left hdigits)

theorem notMem_number (decimal : Bool) (n : Nat) {c : Char}
    (hc : c ≠ 'x' ∧ Numeral.digit? 16 c = none) : c ∉ (number decimal n).toList := by
  obtain ⟨hx, hdigit⟩ := hc
  have hzero : c ≠ '0' := by
    rintro rfl
    simp [Numeral.digit?] at hdigit
  have hmark : c ∉ (if decimal then [] else ['0', 'x']) := by cases decimal <;> simp [hzero, hx]
  have hnone := Numeral.digit?_eq_none_of_le (base_le decimal) hdigit
  rw [toList_number, List.mem_append]
  rintro (h | h)
  · exact hmark h
  · exact Numeral.notMem_toDigits (one_lt_base decimal) (base_le decimal) n hnone h

/-- A number has no sign in it, so only a negative integer has one. -/
theorem sign_mem_signed_iff (decimal : Bool) (i : Int) :
    '-' ∈ (signed decimal i).toList ↔ i < 0 := by
  have hnumber := notMem_number decimal i.natAbs (show '-' ≠ 'x' ∧ _ by decide)
  by_cases hi : i < 0 <;> simp [signed, hi, hnumber]

theorem signed_injective {decimal : Bool} {i j : Int} (h : signed decimal i = signed decimal j) :
    i = j := by
  have hneg : i < 0 ↔ j < 0 := by
    rw [← sign_mem_signed_iff decimal i, ← sign_mem_signed_iff decimal j, h]
  have habs : i.natAbs = j.natAbs := by
    by_cases hi : i < 0
    · have hj := hneg.1 hi
      simp only [signed, hi, hj, ↓reduceIte] at h
      exact number_injective ((String.append_right_inj _).1 h)
    · have hj : ¬ j < 0 := fun hj => hi (hneg.2 hj)
      simp only [signed, hi, hj, ↓reduceIte] at h
      exact number_injective ((String.append_right_inj _).1 h)
  omega

theorem notMem_signed (decimal : Bool) (i : Int) {c : Char}
    (hc : c ≠ '-' ∧ c ≠ 'x' ∧ Numeral.digit? 16 c = none) : c ∉ (signed decimal i).toList := by
  obtain ⟨hsign, hdigit⟩ := hc
  have hnumber := notMem_number decimal i.natAbs hdigit
  by_cases hi : i < 0 <;> simp [signed, hi, hnumber, hsign]

end Text

def Register.IsGeneral (r : Register) : Prop := (r.file = .w ∨ r.file = .x) ∧ r.InFile

/-- A part of the operands that stands between commas. -/
inductive Piece where
  | register (r : Register)
  | number (value : Int)
  | shift (s : Shift)
  | condition (c : Condition)
  deriving DecidableEq

namespace Piece

def text (decimal : Bool) : Piece → String
  | register r => r.name?.getD ""
  | number value => "#" ++ Text.signed decimal value
  | shift s => Text.shift s
  | condition c => c.name

/-- The piece is no register, or a general-purpose one. -/
def Valid : Piece → Prop
  | register r => r.IsGeneral
  | _ => True

/-- The pieces that are a single word: registers, conditions and extensions without an amount. -/
def words : List Piece :=
  (List.range 33).map (fun n => register ⟨.w, n⟩) ++
    (List.range 33).map (fun n => register ⟨.x, n⟩) ++
    (List.range 16).map (fun n => condition (.ofBits (BitVec.ofNat 4 n))) ++
    ShiftKind.all.map fun kind => shift (.bare kind)

theorem register_mem_words {r : Register} (h : r.IsGeneral) : register r ∈ words := by
  obtain ⟨file, number⟩ := r
  obtain ⟨rfl | rfl, hn⟩ := h <;>
    · have hlt : number < 33 := hn
      simp [words, hlt]

theorem condition_mem_words (c : Condition) : condition c ∈ words := by
  have hc : Condition.ofBits (BitVec.ofNat 4 c.bits.toNat) = c := by simp
  simp only [words, List.mem_append, List.mem_map, List.mem_range]
  exact .inl (.inr ⟨c.bits.toNat, c.bits.isLt, by rw [hc]⟩)

theorem bare_mem_words (kind : ShiftKind) : shift (.bare kind) ∈ words := by
  have hkind : kind ∈ ShiftKind.all := by cases kind <;> decide
  exact List.mem_append_right _ (List.mem_map_of_mem hkind)

theorem words_nodup : (words.map (text false)).Nodup := by
  have hkeys : ((words.map (text false)).map Text.sortKey).Nodup := by decide +kernel
  exact hkeys.of_map _

theorem words_plain {p : Piece} (h : p ∈ words) {c : Char} (hc : c ∈ (text false p).toList) :
    c ≠ '#' ∧ c ≠ ' ' ∧ c ≠ ',' := by
  have hall : words.all (fun p => (text false p).toList.all fun c =>
      decide (c ≠ '#' ∧ c ≠ ' ' ∧ c ≠ ',')) = true := by
    decide +kernel
  have hp := List.all_eq_true.1 hall p h
  exact of_decide_eq_true (List.all_eq_true.1 hp c hc)

theorem text_of_mem_words {p : Piece} (h : p ∈ words) (decimal : Bool) :
    text decimal p = text false p := by
  cases p with
  | number value => simp [words] at h
  | _ => rfl

variable {decimal : Bool} {p q : Piece}

theorem toList_number (decimal : Bool) (value : Int) :
    (text decimal (number value)).toList = '#' :: (Text.signed decimal value).toList := by
  simp [text]

theorem toList_amount (decimal : Bool) (kind : ShiftKind) (amount : Nat) :
    (text decimal (shift (.ofAmount kind amount))).toList =
      kind.name.toList ++ ' ' :: '#' :: Nat.toDigits 10 amount := by
  simp [text, Text.shift, Shift.ofAmount, Numeral.decimal]

theorem name_plain (kind : ShiftKind) {c : Char} (hc : c ∈ kind.name.toList) :
    c ≠ '#' ∧ c ≠ ' ' ∧ c ≠ ',' :=
  words_plain (bare_mem_words kind) hc

theorem Valid.cases (h : p.Valid) :
    p ∈ words ∨ (∃ value, p = number value) ∨
      ∃ kind amount, p = shift (.ofAmount kind amount) := by
  cases p with
  | register r => exact .inl (register_mem_words h)
  | number value => exact .inr (.inl ⟨value, rfl⟩)
  | shift s =>
    obtain ⟨kind, amount⟩ := s
    cases amount with
    | none => exact .inl (bare_mem_words kind)
    | some amount => exact .inr (.inr ⟨kind, amount, rfl⟩)
  | condition c => exact .inl (condition_mem_words c)

theorem plain_of_mem_words (h : p ∈ words) :
    '#' ∉ (text decimal p).toList ∧ ' ' ∉ (text decimal p).toList ∧
      ',' ∉ (text decimal p).toList := by
  rw [text_of_mem_words h]
  exact ⟨fun hc => (words_plain h hc).1 rfl, fun hc => (words_plain h hc).2.1 rfl,
    fun hc => (words_plain h hc).2.2 rfl⟩

theorem number_marks (decimal : Bool) (value : Int) :
    '#' ∈ (text decimal (number value)).toList ∧ ' ' ∉ (text decimal (number value)).toList := by
  have hspace := Text.notMem_signed decimal value (show ' ' ≠ '-' ∧ _ by decide)
  simp [toList_number, hspace]

/-- A shift with an amount has both a number sign and a space in it. -/
theorem amount_marks (decimal : Bool) (kind : ShiftKind) (amount : Nat) :
    '#' ∈ (text decimal (shift (.ofAmount kind amount))).toList ∧
      ' ' ∈ (text decimal (shift (.ofAmount kind amount))).toList := by
  simp [toList_amount]

theorem Valid.comma_notMem (h : p.Valid) : ',' ∉ (text decimal p).toList := by
  rcases h.cases with hp | ⟨value, rfl⟩ | ⟨kind, amount, rfl⟩
  · exact (plain_of_mem_words hp).2.2
  · have hcomma := Text.notMem_signed decimal value (show ',' ≠ '-' ∧ _ by decide)
    simp [toList_number, hcomma]
  · have hname : ',' ∉ kind.name.toList := fun hc => (name_plain kind hc).2.2 rfl
    have hdigits : ',' ∉ Nat.toDigits 10 amount :=
      Numeral.notMem_toDigits (by decide) (by decide) amount (by decide)
    simp [toList_amount, hname, hdigits]

theorem amount_injective {kind kind' : ShiftKind} {amount amount' : Nat}
    (h : text decimal (shift (.ofAmount kind amount)) =
      text decimal (shift (.ofAmount kind' amount'))) : kind = kind' ∧ amount = amount' := by
  have hchars := congrArg String.toList h
  rw [toList_amount, toList_amount] at hchars
  have hspace (kind : ShiftKind) : ' ' ∉ kind.name.toList := fun hc => (name_plain kind hc).2.1 rfl
  obtain ⟨hname, hrest⟩ := Text.append_cons_inj (hspace kind) (hspace kind') hchars
  have hamount := Numeral.toDigits_injective (by decide) (by decide) (List.cons.inj hrest).2
  have hkind : shift (.bare kind) = shift (.bare kind') :=
    List.inj_on_of_nodup_map words_nodup (bare_mem_words kind) (bare_mem_words kind')
      (String.toList_inj.1 hname)
  exact ⟨by cases hkind; rfl, hamount⟩

/-- The text of a valid piece tells the piece. -/
theorem Valid.eq_of_text_eq (hp : p.Valid) (hq : q.Valid) (h : text decimal p = text decimal q) :
    p = q := by
  -- The marks in the text tell which of the three kinds it is.
  rcases hp.cases with hp | ⟨value, rfl⟩ | ⟨kind, amount, rfl⟩ <;>
    rcases hq.cases with hq | ⟨value', rfl⟩ | ⟨kind', amount', rfl⟩
  · rw [text_of_mem_words hp, text_of_mem_words hq] at h
    exact List.inj_on_of_nodup_map words_nodup hp hq h
  · have hmark := (number_marks decimal value').1
    rw [← h] at hmark
    exact absurd hmark (plain_of_mem_words hp).1
  · have hmark := (amount_marks decimal kind' amount').1
    rw [← h] at hmark
    exact absurd hmark (plain_of_mem_words hp).1
  · have hmark := (number_marks decimal value).1
    rw [h] at hmark
    exact absurd hmark (plain_of_mem_words hq).1
  · rw [text, text] at h
    rw [Text.signed_injective ((String.append_right_inj _).1 h)]
  · have hspace := (amount_marks decimal kind' amount').2
    rw [← h] at hspace
    exact absurd hspace (number_marks decimal value).2
  · have hmark := (amount_marks decimal kind amount).1
    rw [h] at hmark
    exact absurd hmark (plain_of_mem_words hq).1
  · have hspace := (amount_marks decimal kind amount).2
    rw [h] at hspace
    exact absurd hspace (number_marks decimal value').2
  · obtain ⟨rfl, rfl⟩ := amount_injective h
    rfl

end Piece

end A64
