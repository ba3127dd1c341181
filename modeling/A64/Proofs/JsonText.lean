import A64.Json
import A64.Proofs.PlainText

/-!
# Reading JSON

A reader for JSON without blanks and with integers for numbers, and what it says of compact texts:
they read back as the value they were made from (`Json.read?_compact`), and no control character
stands in them.

The reader takes a step more than the text has characters, at most. A value has no more brackets
and commas than that, so this is always enough.
-/

namespace A64.Json

def escaped? (c : Char) : Option Char :=
  match c with
  | '"' | '\\' | '/' => some c
  | 'b' => some (Char.ofNat 8)
  | 'f' => some (Char.ofNat 12)
  | 'n' => some '\n'
  | 'r' => some '\r'
  | 't' => some '\t'
  | _ => none

/-- Reads a string up to the quote that closes it. Control characters do not stand in strings, and
no escape stands for half of a pair. -/
def string? : List Char → Option (List Char × List Char)
  | [] => none
  | '"' :: rest => some ([], rest)
  | '\\' :: 'u' :: a :: b :: c :: d :: rest =>
    (Numeral.ofDigits? 16 0 [a, b, c, d]).bind fun n =>
      if n.isValidChar then (string? rest).map fun p => (Char.ofNat n :: p.1, p.2) else none
  | '\\' :: c :: rest => (escaped? c).bind fun c => (string? rest).map fun p => (c :: p.1, p.2)
  | c :: rest => if c.toNat < 32 then none else (string? rest).map fun p => (c :: p.1, p.2)

def natural? (cs : List Char) : Option (Nat × List Char) :=
  let digits := cs.takeWhile Char.isDigit
  if digits = [] ∨ digits.head? = some '0' ∧ digits ≠ ['0'] then none
  else (Numeral.ofDigits? 10 0 digits).map fun n => (n, cs.dropWhile Char.isDigit)

def integer? : List Char → Option (Int × List Char)
  | '-' :: cs => (natural? cs).map fun p => (-p.1, p.2)
  | cs => (natural? cs).map fun p => (p.1, p.2)

mutual

def value? : Nat → List Char → Option (Json × List Char)
  | 0, _ => none
  | n + 1, cs =>
    match cs with
    | 'n' :: 'u' :: 'l' :: 'l' :: rest => some (null, rest)
    | 't' :: 'r' :: 'u' :: 'e' :: rest => some (bool true, rest)
    | 'f' :: 'a' :: 'l' :: 's' :: 'e' :: rest => some (bool false, rest)
    | '"' :: rest => (string? rest).map fun p => (str (String.ofList p.1), p.2)
    | '[' :: ']' :: rest => some (arr [], rest)
    | '[' :: rest => (items? n rest).map fun p => (arr p.1, p.2)
    | '\x7b' :: '\x7d' :: rest => some (obj [], rest)
    | '\x7b' :: rest => (fields? n rest).map fun p => (obj p.1, p.2)
    | cs => (integer? cs).map fun p => (num p.1, p.2)

def items? : Nat → List Char → Option (List Json × List Char)
  | 0, _ => none
  | n + 1, cs =>
    match value? n cs with
    | some (v, ',' :: rest) => (items? n rest).map fun p => (v :: p.1, p.2)
    | some (v, ']' :: rest) => some ([v], rest)
    | _ => none

def fields? : Nat → List Char → Option (List (String × Json) × List Char)
  | n + 1, '"' :: cs =>
    match string? cs with
    | some (name, ':' :: rest) =>
      match value? n rest with
      | some (v, ',' :: rest) =>
        (fields? n rest).map fun p => ((String.ofList name, v) :: p.1, p.2)
      | some (v, '\x7d' :: rest) => some ([(String.ofList name, v)], rest)
      | _ => none
    | _ => none
  | _, _ => none

end

def read? (s : String) : Option Json :=
  match value? (s.length + 1) s.toList with
  | some (v, []) => some v
  | _ => none

/-- How a character is written in a string. -/
inductive Escape : Char → List Char → Prop where
  | plain {c : Char} : c ≠ '"' → c ≠ '\\' → 32 ≤ c.toNat → Escape c [c]
  | letter {c x : Char} : escaped? x = some c → Escape c ['\\', x]
  | digits {c₃ c₂ c₁ c₀ : Char} {n : Nat} : Numeral.ofDigits? 16 0 [c₃, c₂, c₁, c₀] = some n →
    n.isValidChar → Escape (Char.ofNat n) ['\\', 'u', c₃, c₂, c₁, c₀]

/-- A control character is written with two digits behind two zeros. -/
theorem toList_pad {n : Nat} (h : n < 32) :
    (Numeral.pad 2 (Numeral.hexDigits n)).toList = [(n / 16).digitChar, (n % 16).digitChar] ∧
      Numeral.ofDigits? 16 0 ['0', '0', (n / 16).digitChar, (n % 16).digitChar] = some n := by
  have hall : ∀ n < 32,
      (Numeral.pad 2 (Numeral.hexDigits n)).toList = [(n / 16).digitChar, (n % 16).digitChar] ∧
        Numeral.ofDigits? 16 0 ['0', '0', (n / 16).digitChar, (n % 16).digitChar] = some n := by
    decide
  exact hall n h

theorem escape_escapeChar (c : Char) : Escape c (escapeChar c) := by
  have hcode {n : Nat} (hn : c.toNat = n) : Char.ofNat n = c := by rw [← hn, Char.ofNat_toNat]
  unfold escapeChar
  by_cases hquote : c = '"'
  · subst hquote; exact .letter rfl
  by_cases hslash : c = '\\'
  · subst hslash; exact .letter rfl
  rw [if_neg hquote, if_neg hslash]
  repeat' split
  · subst_vars; exact .letter rfl
  · subst_vars; exact .letter rfl
  · subst_vars; exact .letter rfl
  · exact .letter (congrArg some (hcode ‹_›))
  · exact .letter (congrArg some (hcode ‹_›))
  · rename_i hcontrol
    obtain ⟨hlist, hvalue⟩ := toList_pad hcontrol
    rw [hlist]
    have hdigits := Escape.digits hvalue (Or.inl (by omega))
    rwa [hcode rfl] at hdigits
  · exact .plain hquote hslash (by omega)

theorem Escape.string? {c : Char} {cs : List Char} (h : Escape c cs) (rest : List Char) :
    string? (cs ++ rest) = (Json.string? rest).map fun p => (c :: p.1, p.2) := by
  cases h with
  | plain hquote hslash hplain =>
    have hcode : ¬ c.toNat < 32 := by omega
    rw [List.singleton_append, Json.string?.eq_def]
    split <;> simp_all
  | @letter _ x hx =>
    have hdigits : x ≠ 'u' := by
      rintro rfl
      cases hx
    simp [Json.string?, hx, hdigits]
  | digits hvalue hvalid => simp only [List.cons_append, List.nil_append, Json.string?, hvalue,
      Option.bind_some, if_pos hvalid]

theorem string?_flatMap (cs rest : List Char) :
    string? (cs.flatMap escapeChar ++ '"' :: rest) = some (cs, rest) := by
  induction cs with
  | nil => simp [string?]
  | cons c cs ih =>
    rw [List.flatMap_cons, List.append_assoc, (escape_escapeChar c).string?, ih]
    rfl

theorem toList_quote (s : String) :
    (quote s).toList = '"' :: (s.toList.flatMap escapeChar ++ ['"']) := by
  simp [quote]

def NoDigit (cs : List Char) : Prop := ∀ c ∈ cs.head?, c.isDigit = false

theorem takeWhile_toDigits (n : Nat) {rest : List Char} (h : NoDigit rest) :
    (Nat.toDigits 10 n ++ rest).takeWhile Char.isDigit = Nat.toDigits 10 n ∧
      (Nat.toDigits 10 n ++ rest).dropWhile Char.isDigit = rest := by
  have hdigits : ∀ c ∈ Nat.toDigits 10 n, c.isDigit = true := fun c hc =>
    Nat.isDigit_of_mem_toDigits (by decide) (by decide) hc
  have hrest : rest.takeWhile Char.isDigit = [] ∧ rest.dropWhile Char.isDigit = rest := by
    cases rest with
    | nil => exact ⟨rfl, rfl⟩
    | cons c rest =>
      have hc : c.isDigit = false := h c rfl
      simp [hc]
  rw [List.takeWhile_append_of_pos hdigits, List.dropWhile_append_of_pos hdigits, hrest.1, hrest.2,
    List.append_nil]
  exact ⟨rfl, rfl⟩

theorem head?_toDigits {n : Nat} (h : (Nat.toDigits 10 n).head? = some '0') :
    Nat.toDigits 10 n = ['0'] := by
  induction n using Nat.strongRecOn with
  | ind n ih =>
    rcases Nat.lt_or_ge n 10 with hlt | hge
    · rw [Nat.toDigits_of_lt_base hlt] at h ⊢
      exact congrArg (fun c => [c]) (Option.some.inj h)
    · have hfirst : (Nat.toDigits 10 (n / 10)).head? = some '0' := by
        rw [Nat.toDigits_of_base_le (by decide) hge] at h
        rwa [List.head?_append_of_ne_nil _ Nat.toDigits_ne_nil] at h
      have hzero := ih (n / 10) (by omega) hfirst
      rw [← Nat.toDigits_zero 10] at hzero
      have hdiv := Numeral.toDigits_injective (by decide) (by decide) hzero
      omega

theorem natural?_toDigits (n : Nat) {rest : List Char} (h : NoDigit rest) :
    natural? (Nat.toDigits 10 n ++ rest) = some (n, rest) := by
  obtain ⟨htake, hdrop⟩ := takeWhile_toDigits n h
  have hzero : ¬ (Nat.toDigits 10 n = [] ∨
      (Nat.toDigits 10 n).head? = some '0' ∧ Nat.toDigits 10 n ≠ ['0']) := by
    rintro (hnil | ⟨hhead, hne⟩)
    · exact Nat.toDigits_ne_nil hnil
    · exact hne (head?_toDigits hhead)
  simp only [natural?, htake, hdrop, if_neg hzero,
    Numeral.ofDigits?_toDigits (show 1 < 10 by decide) (by decide) n]
  rfl

theorem toList_integer (i : Int) :
    (integer i).toList = (if i < 0 then ['-'] else []) ++ Nat.toDigits 10 i.natAbs := by
  by_cases h : i < 0 <;> simp [integer, h, Numeral.decimal]

theorem integer?_integer (i : Int) {rest : List Char} (h : NoDigit rest) :
    integer? ((integer i).toList ++ rest) = some (i, rest) := by
  rw [toList_integer]
  by_cases hi : i < 0
  · rw [if_pos hi]
    simp only [List.cons_append, List.nil_append, integer?, natural?_toDigits _ h, Option.map_some]
    congr 2
    omega
  · rw [if_neg hi, List.nil_append]
    have hplain : integer? (Nat.toDigits 10 i.natAbs ++ rest) =
        (natural? (Nat.toDigits 10 i.natAbs ++ rest)).map fun p => ((p.1 : Int), p.2) := by
      rw [integer?.eq_def]
      split
      · rename_i cs hcs
        have hsign : '-' ∈ (Nat.toDigits 10 i.natAbs).head? := by
          rw [← List.head?_append_of_ne_nil _ Nat.toDigits_ne_nil, hcs]
          rfl
        have hdigit := Nat.isDigit_of_mem_toDigits (by decide) (by decide)
          (List.mem_of_mem_head? hsign)
        cases hdigit
      · rfl
    rw [hplain, natural?_toDigits _ h, Option.map_some]
    congr 2
    omega

/-! ### Values -/

theorem noDigit_cons {c : Char} {cs : List Char} (h : c.isDigit = false) : NoDigit (c :: cs) := by
  intro d hd
  obtain rfl := Option.some.inj hd
  exact h

theorem toList_intercalate_cons (s t : String) (l : List String) :
    (",".intercalate (s :: t :: l)).toList =
      s.toList ++ ',' :: (",".intercalate (t :: l)).toList := by
  rw [String.intercalate_cons_cons, String.toList_append, String.toList_append, List.append_assoc]
  rfl

theorem value?_closing (n : Nat) (cs : List Char) : value? n (']' :: cs) = none := by
  cases n with
  | zero => rfl
  | succ n => rfl

theorem value?_integer (n : Nat) (i : Int) {rest : List Char} (h : NoDigit rest) :
    value? (n + 1) ((integer i).toList ++ rest) = some (num i, rest) := by
  have hread := integer?_integer i h
  have hfirst : ∃ c cs, (integer i).toList = c :: cs ∧ (c = '-' ∨ c.isDigit = true) := by
    rw [toList_integer]
    by_cases hi : i < 0
    · rw [if_pos hi]
      exact ⟨_, _, rfl, .inl rfl⟩
    · rw [if_neg hi, List.nil_append]
      have hne : Nat.toDigits 10 i.natAbs ≠ [] := Nat.toDigits_ne_nil
      obtain ⟨c, cs, hcs⟩ := List.exists_cons_of_ne_nil hne
      have hmem : c ∈ Nat.toDigits 10 i.natAbs := hcs ▸ List.mem_cons_self
      exact ⟨c, cs, hcs, .inr (Nat.isDigit_of_mem_toDigits (by decide) (by decide) hmem)⟩
  obtain ⟨c, cs, hcs, hc⟩ := hfirst
  rw [hcs, List.cons_append] at hread ⊢
  have hother : ∀ d ∈ ['n', 't', 'f', '"', '[', '\x7b'], c ≠ d := by
    have hall : ∀ d ∈ ['n', 't', 'f', '"', '[', '\x7b'], ¬ (d = '-' ∨ d.isDigit = true) := by decide
    rintro d hd rfl
    exact hall c hd hc
  simp only [List.forall_mem_cons] at hother
  rw [value?.eq_def]
  split <;> simp_all

def itemsText (items : List Json) : List Char := (",".intercalate (compactItems items)).toList

def fieldsText (fields : List (String × Json)) : List Char :=
  (",".intercalate (compactFields fields)).toList

theorem itemsText_cons (v : Json) (items : List Json) :
    itemsText (v :: items) =
      (compact v).toList ++ if items = [] then [] else ',' :: itemsText items := by
  cases items with
  | nil => simp [itemsText, compactItems]
  | cons w items => exact toList_intercalate_cons _ _ _

theorem fieldsText_cons (name : String) (v : Json) (fields : List (String × Json)) :
    fieldsText ((name, v) :: fields) =
      '"' :: (name.toList.flatMap escapeChar ++ '"' :: ':' :: ((compact v).toList ++
        if fields = [] then [] else ',' :: fieldsText fields)) := by
  have hfield : (quote name ++ ":" ++ compact v).toList =
      '"' :: (name.toList.flatMap escapeChar ++ '"' :: ':' :: (compact v).toList) := by
    simp [toList_quote]
  cases fields with
  | nil => simpa [fieldsText, compactFields] using hfield
  | cons f fields =>
    have hcons : fieldsText ((name, v) :: f :: fields) =
        (quote name ++ ":" ++ compact v).toList ++ ',' :: fieldsText (f :: fields) :=
      toList_intercalate_cons _ _ _
    rw [hcons, hfield]
    simp

theorem compact_arr (items : List Json) :
    (compact (arr items)).toList = '[' :: (itemsText items ++ [']']) := by
  simp only [compact, itemsText, String.toList_append, List.append_assoc]
  rfl

theorem compact_obj (fields : List (String × Json)) :
    (compact (obj fields)).toList = '\x7b' :: (fieldsText fields ++ ['\x7d']) := by
  simp only [compact, fieldsText, String.toList_append, List.append_assoc]
  rfl

theorem value?_arr {n : Nat} {cs rest : List Char} {items : List Json}
    (h : items? n cs = some (items, rest)) :
    value? (n + 1) ('[' :: cs) = some (arr items, rest) := by
  -- Items do not begin with the bracket that closes.
  have hopen : ∀ cs', cs ≠ ']' :: cs' := by
    rintro cs' rfl
    cases n with
    | zero => simp [items?] at h
    | succ n => simp [items?, value?_closing] at h
  rw [value?.eq_def]
  split <;> simp_all

theorem value?_obj {n : Nat} {cs rest : List Char} {fields : List (String × Json)}
    (h : fields? n cs = some (fields, rest)) :
    value? (n + 1) ('\x7b' :: cs) = some (obj fields, rest) := by
  have hopen : ∀ cs', cs ≠ '\x7d' :: cs' := by
    rintro cs' rfl
    cases n <;> simp [fields?] at h
  rw [value?.eq_def]
  split <;> simp_all

theorem itemsText_nil : itemsText [] = [] := by simp [itemsText, compactItems]

theorem fieldsText_nil : fieldsText [] = [] := by simp [fieldsText, compactFields]

/-- With `n` steps, compact texts shorter than that read back. -/
structure ReadsBack (n : Nat) : Prop where
  value : ∀ (v : Json) (rest : List Char), (compact v).toList.length < n → NoDigit rest →
    value? n ((compact v).toList ++ rest) = some (v, rest)
  items : ∀ (items : List Json) (rest : List Char), items ≠ [] → (itemsText items).length + 1 < n →
    items? n (itemsText items ++ ']' :: rest) = some (items, rest)
  fields : ∀ (fields : List (String × Json)) (rest : List Char), fields ≠ [] →
    (fieldsText fields).length + 1 < n →
      fields? n (fieldsText fields ++ '\x7d' :: rest) = some (fields, rest)

namespace ReadsBack

variable {n : Nat} (h : ReadsBack n)

include h

theorem value_succ (v : Json) (rest : List Char) (hlen : (compact v).toList.length < n + 1)
    (hrest : NoDigit rest) : value? (n + 1) ((compact v).toList ++ rest) = some (v, rest) := by
  cases v with
  | null => simp [compact, value?]
  | bool b => cases b <;> simp [compact, value?]
  | num i => exact value?_integer n i hrest
  | str s =>
    have hread := string?_flatMap s.toList rest
    simp [compact, toList_quote, value?, hread]
  | arr items =>
    by_cases hnil : items = []
    · subst hnil
      simp [compact_arr, itemsText_nil, value?]
    · rw [compact_arr, List.length_cons, List.length_append, List.length_singleton] at hlen
      rw [compact_arr, List.cons_append, List.append_assoc, List.singleton_append]
      exact value?_arr (h.items items rest hnil (by omega))
  | obj fields =>
    by_cases hnil : fields = []
    · subst hnil
      simp [compact_obj, fieldsText_nil, value?]
    · rw [compact_obj, List.length_cons, List.length_append, List.length_singleton] at hlen
      rw [compact_obj, List.cons_append, List.append_assoc, List.singleton_append]
      exact value?_obj (h.fields fields rest hnil (by omega))

theorem items_succ (v : Json) (items : List Json) (rest : List Char)
    (hlen : (itemsText (v :: items)).length + 1 < n + 1) :
    items? (n + 1) (itemsText (v :: items) ++ ']' :: rest) = some (v :: items, rest) := by
  rw [itemsText_cons, List.length_append] at hlen
  rw [itemsText_cons, List.append_assoc]
  by_cases hnil : items = []
  · subst hnil
    have hread := h.value v (']' :: rest) (by omega) (noDigit_cons (by decide))
    simp only [if_true, List.nil_append, items?, hread]
  · rw [if_neg hnil] at hlen ⊢
    rw [List.length_cons] at hlen
    have hread := h.value v (',' :: (itemsText items ++ ']' :: rest)) (by omega)
      (noDigit_cons (by decide))
    have hitems := h.items items rest hnil (by omega)
    simp only [List.cons_append, items?, hread, hitems, Option.map_some]

theorem fields_succ (name : String) (v : Json) (fields : List (String × Json)) (rest : List Char)
    (hlen : (fieldsText ((name, v) :: fields)).length + 1 < n + 1) :
    fields? (n + 1) (fieldsText ((name, v) :: fields) ++ '\x7d' :: rest) =
      some ((name, v) :: fields, rest) := by
  rw [fieldsText_cons] at hlen ⊢
  simp only [List.length_cons, List.length_append] at hlen
  simp only [List.cons_append, List.append_assoc]
  by_cases hnil : fields = []
  · subst hnil
    have hname := string?_flatMap name.toList (':' :: ((compact v).toList ++ '\x7d' :: rest))
    have hread := h.value v ('\x7d' :: rest) (by omega) (noDigit_cons (by decide))
    simp only [if_true, List.nil_append, fields?, hname, hread, String.ofList_toList]
  · rw [if_neg hnil] at hlen ⊢
    rw [List.length_cons] at hlen
    have hname := string?_flatMap name.toList
      (':' :: ((compact v).toList ++ ',' :: (fieldsText fields ++ '\x7d' :: rest)))
    have hread := h.value v (',' :: (fieldsText fields ++ '\x7d' :: rest)) (by omega)
      (noDigit_cons (by decide))
    have hfields := h.fields fields rest hnil (by omega)
    simp only [List.cons_append, fields?, hname, hread, hfields, Option.map_some,
      String.ofList_toList]

end ReadsBack

theorem readsBack (n : Nat) : ReadsBack n := by
  induction n with
  | zero =>
    have hnone {P : Prop} {n : Nat} (hlen : n < 0) : P := absurd hlen (Nat.not_lt_zero n)
    exact ⟨fun _ _ hlen => hnone hlen, fun _ _ _ hlen => hnone hlen, fun _ _ _ hlen => hnone hlen⟩
  | succ n ih =>
    refine ⟨ih.value_succ, fun items rest hne => ?_, fun fields rest hne => ?_⟩
    · obtain ⟨v, items, rfl⟩ := List.exists_cons_of_ne_nil hne
      exact ih.items_succ v items rest
    · obtain ⟨⟨name, v⟩, fields, rfl⟩ := List.exists_cons_of_ne_nil hne
      exact ih.fields_succ name v fields rest

/-- Reading is the inverse of writing. -/
theorem read?_compact (v : Json) : read? (compact v) = some v := by
  have hread := (readsBack ((compact v).length + 1)).value v []
    (by rw [String.length_toList]; omega) (by intro c hc; cases hc)
  rw [List.append_nil] at hread
  rw [read?, hread]

open Text

theorem Escape.plain_chars {c : Char} {cs : List Char} (h : Escape c cs) :
    ∀ d ∈ cs, 32 ≤ d.toNat := by
  cases h with
  | plain hquote hslash hplain => simpa using hplain
  | @letter _ x hx =>
    have hletter : 32 ≤ x.toNat := by
      unfold escaped? at hx
      split at hx <;> first | decide | cases hx
    simpa using hletter
  | @digits c₃ c₂ c₁ c₀ n hvalue hvalid =>
    intro d hd
    rcases List.mem_cons.1 hd with rfl | hd
    · decide
    rcases List.mem_cons.1 hd with rfl | hd
    · decide
    by_contra hsmall
    have hdigit := Numeral.isSome_digit?_of_ofDigits? (by rw [hvalue]; rfl) hd
    rw [digit?_eq_none_of_control (by omega)] at hdigit
    cases hdigit

theorem plain_quote (s : String) : Plain (quote s) := by
  intro c hc
  rw [toList_quote] at hc
  rcases List.mem_cons.1 hc with rfl | hc
  · decide
  rcases List.mem_append.1 hc with hc | hc
  · obtain ⟨d, -, hd⟩ := List.mem_flatMap.1 hc
    exact (escape_escapeChar d).plain_chars c hd
  · obtain rfl := List.mem_singleton.1 hc
    decide

theorem plain_integer (i : Int) : Plain (integer i) := by
  refine plain_append.2 ⟨?_, plain_decimal _⟩
  split <;> decide

mutual

theorem plain_compact : ∀ v : Json, Plain (compact v)
  | null => by rw [compact]; decide
  | bool true => by rw [compact]; decide
  | bool false => by rw [compact]; decide
  | num i => by rw [compact]; exact plain_integer i
  | str s => by rw [compact]; exact plain_quote s
  | arr items => by
    have hitems := plain_intercalate "," (by decide) (plain_compactItems items)
    rw [compact]
    exact plain_append.2 ⟨plain_append.2 ⟨by decide, hitems⟩, by decide⟩
  | obj fields => by
    have hfields := plain_intercalate "," (by decide) (plain_compactFields fields)
    rw [compact]
    exact plain_append.2 ⟨plain_append.2 ⟨by decide, hfields⟩, by decide⟩

theorem plain_compactItems : ∀ items : List Json, ∀ s ∈ compactItems items, Plain s
  | [] => by simp [compactItems]
  | v :: items => by
    rw [compactItems]
    exact List.forall_mem_cons.2 ⟨plain_compact v, plain_compactItems items⟩

theorem plain_compactFields : ∀ fields : List (String × Json), ∀ s ∈ compactFields fields, Plain s
  | [] => by simp [compactFields]
  | (name, v) :: fields => by
    have hname : Plain (quote name ++ ":") := plain_append.2 ⟨plain_quote name, by decide⟩
    have hfield := plain_append.2 ⟨hname, plain_compact v⟩
    rw [compactFields]
    exact List.forall_mem_cons.2 ⟨hfield, plain_compactFields fields⟩

end

end A64.Json
