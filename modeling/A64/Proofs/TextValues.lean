import A64.Proofs.Piece
import Mathlib.Data.List.TakeWhile

/-!
# Integers in a text

A text shows an integer by a number sign, a sign if it is negative, and hexadecimal digits behind
`0x` or decimal digits. `Text.values` reads a text with each such integer replaced by its value, and
`Text.integers` lists the values. A written integer reads back (`Text.valuesOf_signed`), and a text
can be read part by part where no integer goes on across the parts (`Text.values_append`), as at the
comma between operands.
-/

namespace A64.Text

/-- A character of a text, or an integer that the text shows. -/
inductive Value where
  | char (c : Char)
  | integer (v : Int)
  deriving DecidableEq

def Value.toInt? : Value → Option Int
  | char _ => none
  | integer v => some v

def isDigit (base : Nat) (c : Char) : Bool := (Numeral.digit? base c).isSome

/-- The number that the digits in front of a text write, if there are any, and what is behind
them. -/
def digits? (base : Nat) (cs : List Char) : Option (Nat × List Char) :=
  if cs.takeWhile (isDigit base) = [] then none
  else (Numeral.ofDigits? base 0 (cs.takeWhile (isDigit base))).map
    (·, cs.dropWhile (isDigit base))

/-- The number in front of a text: hexadecimal if it is marked by `0x`, otherwise decimal. -/
def unsigned? : List Char → Option (Nat × List Char)
  | '0' :: 'x' :: cs => (digits? 16 cs).or (digits? 10 ('0' :: 'x' :: cs))
  | cs => digits? 10 cs

/-- The integer in front of a text, with an optional sign. -/
def integer? : List Char → Option (Int × List Char)
  | '-' :: cs => (unsigned? cs).map fun r => (-(r.1 : Int), r.2)
  | cs => (unsigned? cs).map fun r => ((r.1 : Int), r.2)

theorem length_of_digits? {base n : Nat} {cs rest : List Char}
    (h : digits? base cs = some (n, rest)) :
    rest.length ≤ cs.length := by
  unfold digits? at h
  split at h
  · cases h
  · obtain ⟨_, -, heq⟩ := Option.map_eq_some_iff.1 h
    cases heq
    exact (List.dropWhile_suffix _).length_le

theorem length_of_unsigned? {n : Nat} {cs rest : List Char} (h : unsigned? cs = some (n, rest)) :
    rest.length ≤ cs.length := by
  unfold unsigned? at h
  split at h
  · rcases Option.or_eq_some_iff.1 h with h | ⟨-, h⟩
    · have hle := length_of_digits? h
      simp only [List.length_cons]
      omega
    · exact length_of_digits? h
  · exact length_of_digits? h

theorem length_of_integer? {v : Int} {cs rest : List Char} (h : integer? cs = some (v, rest)) :
    rest.length ≤ cs.length := by
  unfold integer? at h
  split at h <;> obtain ⟨⟨n, _⟩, hn, heq⟩ := Option.map_eq_some_iff.1 h <;> cases heq
  · exact Nat.le_succ_of_le (length_of_unsigned? hn)
  · exact length_of_unsigned? hn

/-- The text with each integer behind a number sign replaced by its value. -/
def values : List Char → List Value
  | [] => []
  | c :: cs =>
    if c = '#' then
      match _h : integer? cs with
      | some (v, rest) => .char c :: .integer v :: values rest
      | none => .char c :: values cs
    else .char c :: values cs
termination_by cs => cs.length
decreasing_by
  · exact Nat.lt_succ_of_le (length_of_integer? ‹_›)
  · exact Nat.lt_succ_self _
  · exact Nat.lt_succ_self _

/-- What a text shows, whatever the bases of its integers. -/
def valuesOf (s : String) : List Value := values s.toList

def integers (s : String) : List Int := (valuesOf s).filterMap Value.toInt?

/-- No integer goes on into the text: it does not begin with a digit, a mark or a sign. -/
def Breaks (cs : List Char) : Prop :=
  ∀ c ∈ cs.head?, c ≠ '-' ∧ c ≠ 'x' ∧ Numeral.digit? 16 c = none

-- The instance is named, so that no search finds one that goes through all characters instead.
instance (cs : List Char) : Decidable (Breaks cs) := Option.decidableForallMem cs.head?

section Append

variable {base : Nat} {a b : List Char}

theorem Breaks.isDigit (hb : Breaks b) (hbase : base ≤ 16) :
    ∀ c ∈ b.head?, isDigit base c = false := by
  intro c hc
  rw [Text.isDigit, Numeral.digit?_eq_none_of_le hbase (hb c hc).2.2]
  rfl

theorem Breaks.takeWhile (hb : Breaks b) (hbase : base ≤ 16) :
    b.takeWhile (Text.isDigit base) = [] ∧ b.dropWhile (Text.isDigit base) = b := by
  cases b with
  | nil => exact ⟨rfl, rfl⟩
  | cons c b =>
    have hc := hb.isDigit hbase c rfl
    exact ⟨by rw [List.takeWhile_cons, hc]; rfl, by rw [List.dropWhile_cons, hc]; rfl⟩

theorem Breaks.digits? (hb : Breaks b) (hbase : base ≤ 16) : digits? base b = none :=
  if_pos (hb.takeWhile hbase).1

theorem Breaks.unsigned? (hb : Breaks b) : unsigned? b = none := by
  unfold Text.unsigned?
  split
  · exact absurd (hb '0' rfl).2.2 (by decide)
  · exact hb.digits? (by decide)

theorem Breaks.integer? (hb : Breaks b) : integer? b = none := by
  unfold Text.integer?
  split
  · exact absurd rfl (hb '-' rfl).1
  · rw [hb.unsigned?]
    rfl

/-- Nothing is taken from a text that breaks, and it stays where it is. -/
theorem digits?_append (hb : Breaks b) (hbase : base ≤ 16) :
    digits? base (a ++ b) = (digits? base a).map fun r => (r.1, r.2 ++ b) := by
  obtain ⟨htake, hdrop⟩ := hb.takeWhile hbase
  have htakes : (a ++ b).takeWhile (isDigit base) = a.takeWhile (isDigit base) := by
    induction a with
    | nil => exact htake
    | cons c a ih => simp only [List.cons_append, List.takeWhile_cons, ih]
  have hdrops : (a ++ b).dropWhile (isDigit base) = a.dropWhile (isDigit base) ++ b := by
    clear htakes
    induction a with
    | nil => exact hdrop
    | cons c a ih =>
      simp only [List.cons_append, List.dropWhile_cons, ih]
      split <;> rfl
  rw [digits?, digits?, htakes, hdrops]
  split
  · rfl
  · rw [Option.map_map]
    rfl

theorem unsigned?_of_unmarked (h : ∀ cs, a ≠ '0' :: 'x' :: cs) : unsigned? a = digits? 10 a := by
  unfold unsigned?
  split
  · exact absurd rfl (h _)
  · rfl

theorem unsigned?_append (hb : Breaks b) :
    unsigned? (a ++ b) = (unsigned? a).map fun r => (r.1, r.2 ++ b) := by
  by_cases hmark : ∃ cs, a = '0' :: 'x' :: cs
  · obtain ⟨cs, rfl⟩ := hmark
    have hdecimal := digits?_append (a := '0' :: 'x' :: cs) hb (show 10 ≤ 16 by decide)
    rw [List.cons_append, List.cons_append] at hdecimal ⊢
    rw [unsigned?, unsigned?, digits?_append hb (by decide), hdecimal, Option.map_or]
  · have hunmarked : ∀ cs, a ≠ '0' :: 'x' :: cs := fun cs h => hmark ⟨cs, h⟩
    -- The mark does not come about at the joint, since what follows has no `x` in front.
    have happend : ∀ cs, a ++ b ≠ '0' :: 'x' :: cs := by
      intro cs h
      rcases a with _ | ⟨c, _ | ⟨c', a⟩⟩
      · exact absurd (hb '0' (by rw [List.nil_append] at h; rw [h]; rfl)).2.2 (by decide)
      · have hx : b = 'x' :: cs := (List.cons.inj h).2
        exact absurd rfl (hb 'x' (by rw [hx]; rfl)).2.1
      · simp only [List.cons_append, List.cons.injEq] at h
        obtain ⟨rfl, rfl, -⟩ := h
        exact hunmarked a rfl
    rw [unsigned?_of_unmarked hunmarked, unsigned?_of_unmarked happend,
      digits?_append hb (by decide)]

theorem integer?_append (hb : Breaks b) :
    integer? (a ++ b) = (integer? a).map fun r => (r.1, r.2 ++ b) := by
  cases a with
  | nil => exact hb.integer?
  | cons c a =>
    by_cases hc : c = '-'
    · subst hc
      rw [List.cons_append, integer?, integer?, unsigned?_append hb, Option.map_map, Option.map_map]
      rfl
    · have hplain (cs : List Char) :
          integer? (c :: cs) = (unsigned? (c :: cs)).map fun r => ((r.1 : Int), r.2) := by
        unfold integer?
        split
        · rename_i h
          exact absurd (List.cons.inj h).1 hc
        · rfl
      rw [List.cons_append, hplain, hplain, ← List.cons_append, unsigned?_append hb,
        Option.map_map, Option.map_map]
      rfl

/-- A text is read part by part if no integer goes on into the second part. -/
theorem values_append (a : List Char) (hb : Breaks b) : values (a ++ b) = values a ++ values b := by
  fun_induction values a with
  | case1 => rfl
  | case2 cs v rest hread ih =>
    rw [List.cons_append, values, if_pos rfl]
    split
    · rename_i v' rest' hread'
      rw [integer?_append hb, hread] at hread'
      cases hread'
      rw [ih]
      rfl
    · rename_i hread'
      rw [integer?_append hb, hread] at hread'
      cases hread'
  | case3 cs hread ih =>
    rw [List.cons_append, values, if_pos rfl]
    split
    · rename_i v' rest' hread'
      rw [integer?_append hb, hread] at hread'
      cases hread'
    · rw [ih]
      rfl
  | case4 c cs hc ih => rw [List.cons_append, values, if_neg hc, ih, List.cons_append]

end Append

theorem values_append_of_notMem {a : List Char} (h : '#' ∉ a) (b : List Char) :
    values (a ++ b) = a.map .char ++ values b := by
  induction a with
  | nil => rfl
  | cons c a ih =>
    have hc : c ≠ '#' := fun hc => h (hc ▸ List.mem_cons_self)
    rw [List.cons_append, values, if_neg hc, ih (List.not_mem_of_not_mem_cons h), List.map_cons,
      List.cons_append]

theorem digits?_toDigits {base : Nat} (hpos : 1 < base) (hbase : base ≤ 16) (n : Nat) :
    digits? base (Nat.toDigits base n) = some (n, []) := by
  have hread := Numeral.ofDigits?_toDigits hpos hbase n
  have hdigit : ∀ c ∈ Nat.toDigits base n, isDigit base c = true := fun c hc =>
    Numeral.isSome_digit?_of_ofDigits? (by rw [hread]; rfl) hc
  rw [digits?, List.takeWhile_eq_self_iff.2 hdigit, List.dropWhile_eq_nil_iff.2 hdigit,
    if_neg Nat.toDigits_ne_nil, hread]
  rfl

theorem unsigned?_number (decimal : Bool) (n : Nat) :
    unsigned? (number decimal n).toList = some (n, []) := by
  rw [toList_number]
  cases decimal with
  | false =>
    have hread : digits? 16 (Nat.toDigits 16 n) = some (n, []) :=
      digits?_toDigits (by decide) (by decide) n
    exact congrArg (Option.or · (digits? 10 ('0' :: 'x' :: Nat.toDigits 16 n))) hread
  | true =>
    have hunmarked : ∀ cs, Nat.toDigits 10 n ≠ '0' :: 'x' :: cs := by
      intro cs h
      have hx : 'x' ∉ Nat.toDigits 10 n :=
        Numeral.notMem_toDigits (by decide) (by decide) n (by decide)
      rw [h] at hx
      simp at hx
    exact (unsigned?_of_unmarked hunmarked).trans (digits?_toDigits (by decide) (by decide) n)

theorem integer?_signed (decimal : Bool) (i : Int) :
    integer? (signed decimal i).toList = some (i, []) := by
  by_cases hi : i < 0
  · have htext : (signed decimal i).toList = '-' :: (number decimal i.natAbs).toList := by
      simp [signed, hi]
    have hvalue : -(i.natAbs : Int) = i := by omega
    rw [htext, integer?, unsigned?_number, Option.map_some, hvalue]
  · have htext : (signed decimal i).toList = (number decimal i.natAbs).toList := by
      simp [signed, hi]
    have hsign := notMem_number decimal i.natAbs (c := '-') (by decide)
    have hvalue : (i.natAbs : Int) = i := by omega
    rw [htext, integer?]
    · rw [unsigned?_number, Option.map_some, hvalue]
    · intro cs h
      rw [h] at hsign
      simp at hsign

/-! ### Texts -/

section Texts

variable {s t : String}

theorem breaks_append (hs : Breaks s.toList) (hne : s.toList ≠ []) (t : String) :
    Breaks (s ++ t).toList := by
  obtain ⟨c, cs, hcs⟩ := List.exists_cons_of_ne_nil hne
  rw [String.toList_append]
  rw [hcs] at hs ⊢
  exact hs

theorem valuesOf_empty : valuesOf "" = [] := by rw [valuesOf, String.toList_empty, values]

theorem valuesOf_append (s : String) (hb : Breaks t.toList) :
    valuesOf (s ++ t) = valuesOf s ++ valuesOf t := by
  rw [valuesOf, String.toList_append, values_append _ hb, valuesOf, valuesOf]

theorem valuesOf_append_of_notMem (h : '#' ∉ s.toList) (t : String) :
    valuesOf (s ++ t) = s.toList.map .char ++ valuesOf t := by
  rw [valuesOf, String.toList_append, values_append_of_notMem h, valuesOf]

/-- A written integer is read as its value, in whichever base it is written. -/
theorem valuesOf_signed (decimal : Bool) (i : Int) :
    valuesOf ("#" ++ signed decimal i) = [.char '#', .integer i] := by
  rw [valuesOf, String.toList_append]
  show values ('#' :: (signed decimal i).toList) = _
  rw [values, if_pos rfl]
  split
  · rename_i v rest hread
    rw [integer?_signed] at hread
    cases hread
    rw [values]
  · rename_i hread
    rw [integer?_signed] at hread
    cases hread

theorem valuesOf_number (s : String) (hb : Breaks t.toList) (i : Int) :
    valuesOf (s ++ "#" ++ signed false i ++ t) = valuesOf (s ++ "#" ++ signed true i ++ t) := by
  have hvalue (decimal : Bool) : valuesOf (s ++ "#" ++ signed decimal i ++ t) =
      valuesOf s ++ [.char '#', .integer i] ++ valuesOf t := by
    have hnumber : Breaks ("#" ++ signed decimal i).toList :=
      breaks_append (by decide) (by decide) _
    rw [valuesOf_append _ hb, String.append_assoc, valuesOf_append _ hnumber, valuesOf_signed]
  rw [hvalue, hvalue]

theorem integers_append (hb : Breaks t.toList) : integers (s ++ t) = integers s ++ integers t := by
  rw [integers, valuesOf_append _ hb, List.filterMap_append, integers, integers]

theorem integers_append_of_notMem (h : '#' ∉ s.toList) (t : String) :
    integers (s ++ t) = integers t := by
  have hchars : (s.toList.map Value.char).filterMap Value.toInt? = [] :=
    List.filterMap_eq_nil_iff.2 (List.forall_mem_map.2 fun _ _ => rfl)
  rw [integers, valuesOf_append_of_notMem h, List.filterMap_append, hchars, List.nil_append,
    integers]

theorem integers_empty : integers "" = [] := by
  rw [integers, valuesOf_empty]
  rfl

theorem integers_of_notMem (h : '#' ∉ s.toList) : integers s = [] := by
  rw [← String.append_empty (s := s), integers_append_of_notMem h, integers_empty]

theorem integers_signed (decimal : Bool) (i : Int) : integers ("#" ++ signed decimal i) = [i] := by
  rw [integers, valuesOf_signed]
  rfl

end Texts

/-- No integer goes on across a comma. -/
theorem valuesOf_join (s t : String) :
    valuesOf (s ++ ", " ++ t) = valuesOf s ++ ([.char ',', .char ' '] ++ valuesOf t) := by
  have hcomma : Breaks (", " ++ t).toList := breaks_append (by decide) (by decide) t
  rw [String.append_assoc, valuesOf_append _ hcomma, valuesOf_append_of_notMem (by decide)]
  rfl

theorem valuesOf_intercalate (texts : List String) :
    valuesOf (", ".intercalate texts) =
      [.char ',', .char ' '].intercalate (texts.map valuesOf) := by
  induction texts with
  | nil => exact valuesOf_empty
  | cons t texts ih =>
    cases texts with
    | nil => simp
    | cons u texts =>
      rw [String.intercalate_cons_cons, valuesOf_join, ih]
      simp only [List.map_cons, List.intercalate_cons_cons, List.append_assoc]

theorem integers_intercalate (texts : List String) :
    integers (", ".intercalate texts) = texts.flatMap integers := by
  induction texts with
  | nil => exact integers_empty
  | cons t texts ih =>
    cases texts with
    | nil => simp
    | cons u texts =>
      have hjoin : integers (t ++ ", " ++ ", ".intercalate (u :: texts)) =
          integers t ++ integers (", ".intercalate (u :: texts)) := by
        rw [integers, valuesOf_join, List.filterMap_append, List.filterMap_append]
        rfl
      rw [String.intercalate_cons_cons, hjoin, ih]
      simp only [List.flatMap_cons]

end A64.Text
