import A64.Proofs.Encoding
import A64.Proofs.Piece

/-!
# Tokens

What stands between the brackets and commas of operands: names of registers, vectors with their
arrangement, numbers, shifts, and system registers by name or by their numbers. A token is told by
its text. Only a vector has a dot, only a shift by an amount a space, only a number a number sign
and no space; what is left is one of a thousand different words, or a system register without a
name, and no word looks like one of these.
-/

namespace A64

namespace Text

def codes (s : String) : List Nat := (bytes s).map UInt8.toNat

theorem codes_eq_flatMap (s : String) :
    codes s = s.toList.flatMap fun c => (String.utf8EncodeChar c).map UInt8.toNat := by
  rw [codes, bytes, ← String.utf8Encode_toList, List.utf8Encode]
  simp [List.map_flatMap]

theorem codes_char {c : Char} (hc : c.toNat ≤ 127) :
    (String.utf8EncodeChar c).map UInt8.toNat = [c.toNat] := by
  have hval : c.val.toNat ≤ 127 := hc
  simp only [String.utf8EncodeChar, if_pos hval, List.map_cons, List.map_nil]
  exact congrArg (fun n => [n]) (Nat.mod_eq_of_lt (by omega))

theorem mem_codes {s : String} {c : Char} (hc : c.toNat ≤ 127) (h : c ∈ s.toList) :
    c.toNat ∈ codes s := by
  rw [codes_eq_flatMap]
  exact List.mem_flatMap.2 ⟨c, h, by simp [codes_char hc]⟩

theorem exists_of_mem_codes {s : String} (hs : ∀ c ∈ s.toList, c.toNat ≤ 127) {n : Nat}
    (h : n ∈ codes s) : ∃ c ∈ s.toList, c.toNat = n := by
  rw [codes_eq_flatMap] at h
  obtain ⟨c, hc, hn⟩ := List.mem_flatMap.1 h
  rw [codes_char (hs c hc), List.mem_singleton] at hn
  exact ⟨c, hc, hn.symm⟩

/-- Whether the character of a code can be part of a word: a small letter, a digit or a line. -/
def isWordCode (n : Nat) : Bool :=
  (Nat.ble 97 n && Nat.ble n 122) || (Nat.ble 48 n && Nat.ble n 57) || Nat.beq n 95

/-- Whether the character of a code can be part of the numbers of a system register: a digit, a
line, or a letter that marks a number. -/
def isRawCode (n : Nat) : Bool :=
  (Nat.ble 48 n && Nat.ble n 57) || Nat.beq n 95 || Nat.beq n 99 || Nat.beq n 115

/-- Whether the codes are those of a word that does not look like the numbers of a register. -/
def isWord (codes : List Nat) : Bool :=
  codes.all isWordCode && !(codes.contains 95 && codes.all isRawCode)

/-- The codes of the letters and digits of a word, without its lines. -/
def letters (codes : List Nat) : List Nat := codes.filter (!Nat.beq · 95)

/-- A number for a word, which does not count its lines. -/
def wordKey (codes : List Nat) : Nat := (letters codes).foldl (fun k n => k * 257 + n) 0 % 16777213

def words : List String :=
  Register.names ++ (ShiftKind.all.map ShiftKind.name ++ SystemRegister.all.map SystemRegister.name)

theorem words_check :
    ((words.map codes).all isWord && distinct 24 ((words.map codes).map wordKey)) = true := by
  rw [distinct_eq]
  decide +kernel

theorem isWord_codes {s : String} (h : s ∈ words) : isWord (codes s) = true :=
  List.all_eq_true.1 (Bool.and_eq_true_iff.1 words_check).1 _ (List.mem_map_of_mem h)

/-- Two words differ in more than their lines. -/
theorem nodup_letters_words : (words.map fun s => letters (codes s)).Nodup := by
  have hkeys := nodup_of_distinct (Bool.and_eq_true_iff.1 words_check).2
  rw [List.map_map] at hkeys
  refine .of_map (fun ls => ls.foldl (fun k n => k * 257 + n) 0 % 16777213) ?_
  rw [List.map_map]
  exact hkeys

theorem words_nodup : words.Nodup := nodup_letters_words.of_map _

/-- No word has a line in it and otherwise only characters of a register without a name. -/
theorem exists_not_raw {s : String} (h : s ∈ words) (hline : '_' ∈ s.toList) :
    ∃ c ∈ s.toList, isRawCode c.toNat = false := by
  by_contra hraw
  have hall : ∀ c ∈ s.toList, isRawCode c.toNat = true := by simpa using hraw
  have hascii : ∀ c ∈ s.toList, c.toNat ≤ 127 := by
    intro c hc
    have hcode := hall c hc
    simp only [isRawCode, Bool.or_eq_true, Bool.and_eq_true, Nat.ble_eq, Nat.beq_eq] at hcode
    omega
  have hcodes : (codes s).all isRawCode = true := by
    refine List.all_eq_true.2 fun n hn => ?_
    obtain ⟨c, hc, rfl⟩ := exists_of_mem_codes hascii hn
    exact hall c hc
  have hcontains : (codes s).contains 95 = true :=
    List.contains_iff_mem.2 (mem_codes (c := '_') (by decide) hline)
  have hword := (Bool.and_eq_true_iff.1 (isWord_codes h)).2
  rw [hcontains, hcodes] at hword
  cases hword

/-- What all characters of a list satisfy is decided by going through the list. -/
instance (priority := high) decidableForallMem (l : List Char) (p : Char → Prop)
    [DecidablePred p] : Decidable (∀ c ∈ l, p c) :=
  List.decidableBAll p l

/-- The characters that tell tokens apart, and those that stand around them. -/
def punctuation : List Char := ['.', ' ', '#', ',', '[', ']', '\x7b', '\x7d']

variable {c : Char}

/-- A word has no other characters than small letters, digits and lines. -/
theorem notMem_word_of_code {s : String} (h : s ∈ words)
    (hc : c.toNat ≤ 127 ∧ isWordCode c.toNat = false) : c ∉ s.toList := by
  intro hmem
  have hword := (Bool.and_eq_true_iff.1 (isWord_codes h)).1
  have htrue := List.all_eq_true.1 hword _ (mem_codes hc.1 hmem)
  rw [hc.2] at htrue
  cases htrue

theorem notMem_word {s : String} (h : s ∈ words) (hc : c ∈ punctuation) : c ∉ s.toList := by
  have hcode : ∀ c ∈ punctuation, c.toNat ≤ 127 ∧ isWordCode c.toNat = false := by decide
  exact notMem_word_of_code h (hcode c hc)

theorem notMem_digits (n : Nat) (hc : c ∈ punctuation) : c ∉ Nat.toDigits 10 n := by
  have hdigit : ∀ c ∈ punctuation, Numeral.digit? 10 c = none := by decide
  exact Numeral.notMem_toDigits (by decide) (by decide) n (hdigit c hc)

theorem punctuation_notMem_signed (decimal : Bool) (i : Int) (hc : c ∈ punctuation) :
    c ∉ (signed decimal i).toList := by
  have hdigit : ∀ c ∈ punctuation, c ≠ '-' ∧ c ≠ 'x' ∧ Numeral.digit? 16 c = none := by decide
  exact notMem_signed decimal i (hdigit c hc)

theorem toList_arrangement (a : Arrangement) :
    (arrangement a).toList =
      (if a.lanes = 0 then [] else Nat.toDigits 10 a.lanes) ++ a.element.suffix.toList := by
  by_cases h : a.lanes = 0 <;> simp [arrangement, h, Numeral.decimal]

theorem notMem_arrangement (a : Arrangement) (hc : c ∈ punctuation) :
    c ∉ (arrangement a).toList := by
  have hsuffix : c ∉ a.element.suffix.toList := by
    have hall : ∀ c ∈ punctuation, ∀ e ∈ [ElementSize.b, .h, .s, .d, .q],
        c ∉ e.suffix.toList := by decide +kernel
    exact hall c hc _ (by cases a.element <;> decide)
  have hdigits := notMem_digits a.lanes hc
  rw [toList_arrangement]
  split <;> simp [hsuffix, hdigits]

theorem arrangement_injective {a a' : Arrangement} (h : arrangement a = arrangement a') :
    a = a' := by
  obtain ⟨e, n⟩ := a
  obtain ⟨e', n'⟩ := a'
  have hchars := congrArg String.toList h
  rw [toList_arrangement, toList_arrangement] at hchars
  have hlength : e.suffix.toList.length = e'.suffix.toList.length := by
    cases e <;> cases e' <;> decide +kernel
  obtain ⟨hlanes, hsuffix⟩ := List.append_inj' hchars hlength
  have he : e = e' := by
    have hname : e.suffix = e'.suffix := String.toList_inj.1 hsuffix
    revert hname
    cases e <;> cases e' <;> decide
  have hn : n = n' := by
    dsimp only at hlanes
    split at hlanes <;> split at hlanes
    · omega
    · exact absurd hlanes.symm Nat.toDigits_ne_nil
    · exact absurd hlanes Nat.toDigits_ne_nil
    · exact Numeral.toDigits_injective (by decide) (by decide) hlanes
  rw [he, hn]

theorem toList_systemEncoding (e : SystemEncoding) :
    (systemEncoding e).toList =
      's' :: (Nat.toDigits 10 e.op0 ++ '_' :: (Nat.toDigits 10 e.op1 ++ '_' :: 'c' ::
        (Nat.toDigits 10 e.crn ++ '_' :: 'c' :: (Nat.toDigits 10 e.crm ++ '_' ::
          Nat.toDigits 10 e.op2)))) := by
  simp [systemEncoding, Numeral.decimal]

theorem isRawCode_digit {n : Nat} (hc : c ∈ Nat.toDigits 10 n) : isRawCode c.toNat = true := by
  have hdigit := Char.isDigit_iff_toNat.1 (Nat.isDigit_of_mem_toDigits (by decide) (by decide) hc)
  have hle : 48 ≤ c.toNat ∧ c.toNat ≤ 57 := hdigit
  simp [isRawCode, hle]

theorem isRawCode_systemEncoding {e : SystemEncoding} (hc : c ∈ (systemEncoding e).toList) :
    isRawCode c.toNat = true := by
  rw [toList_systemEncoding] at hc
  simp only [List.mem_cons, List.mem_append] at hc
  rcases hc with rfl | hc | rfl | hc | rfl | rfl | hc | rfl | rfl | hc | rfl | hc
  all_goals first | rfl | exact isRawCode_digit hc

theorem systemEncoding_injective {e e' : SystemEncoding}
    (h : systemEncoding e = systemEncoding e') : e = e' := by
  have hline (n : Nat) : '_' ∉ Nat.toDigits 10 n :=
    Numeral.notMem_toDigits (by decide) (by decide) n (by decide)
  have hdigits {m n : Nat} (h : Nat.toDigits 10 m = Nat.toDigits 10 n) : m = n :=
    Numeral.toDigits_injective (by decide) (by decide) h
  have hchars := congrArg String.toList h
  rw [toList_systemEncoding, toList_systemEncoding] at hchars
  obtain ⟨hop0, hrest⟩ := append_cons_inj (hline _) (hline _) (List.cons.inj hchars).2
  obtain ⟨hop1, hrest⟩ := append_cons_inj (hline _) (hline _) hrest
  obtain ⟨hcrn, hrest⟩ := append_cons_inj (hline _) (hline _) (List.cons.inj hrest).2
  obtain ⟨hcrm, hop2⟩ := append_cons_inj (hline _) (hline _) (List.cons.inj hrest).2
  obtain ⟨op0, op1, crn, crm, op2⟩ := e
  rw [SystemEncoding.mk.injEq]
  exact ⟨hdigits hop0, hdigits hop1, hdigits hcrn, hdigits hcrm, hdigits hop2⟩

end Text

namespace Register

def all : List Register :=
  RegisterFile.all.flatMap fun file => (List.range file.size).map (Register.mk file)

theorem InFile.mem_all {r : Register} (h : r.InFile) : r ∈ all := by
  obtain ⟨file, number⟩ := r
  have hfile : file ∈ RegisterFile.all := by cases file <;> decide
  exact List.mem_flatMap.2 ⟨file, hfile, List.mem_map_of_mem (List.mem_range.2 h)⟩

theorem map_name_all : all.map (fun r => r.name?.getD "") = names := by
  rw [all, names, List.map_flatMap]
  refine List.flatMap_congr fun file _ => ?_
  refine List.ext_getElem (by simp) fun n hn hn' => ?_
  have hin : (Register.mk file n).InFile := by rwa [RegisterFile.length_names] at hn'
  simp [hin.name?, List.getElem?_eq_getElem hn']

end Register

namespace SystemRegister

theorem ctorIdx_lt_count (r : SystemRegister) : r.ctorIdx < count := by
  cases r <;> exact Nat.le_of_ble_eq_true rfl

theorem mem_all (r : SystemRegister) : r ∈ all :=
  List.mem_map.2 ⟨r.ctorIdx, List.mem_range.2 r.ctorIdx_lt_count, ofNat_ctorIdx r⟩

end SystemRegister

/-! ### Tokens -/

/-- A part of an operand that stands between brackets and commas. -/
inductive Token where
  | register (r : Register)
  | vector (r : Register) (a : Arrangement)
  | number (value : Int)
  | shift (s : Shift)
  | system (r : SystemRegister)
  | encoding (e : SystemEncoding)
  deriving DecidableEq

namespace Token

def text (decimal : Bool) : Token → String
  | register r => r.name?.getD ""
  | vector r a => r.name?.getD "" ++ "." ++ Text.arrangement a
  | number value => "#" ++ Text.signed decimal value
  | shift s => Text.shift s
  | system r => r.name
  | encoding e => Text.systemEncoding e

/-- The register of the token is one of its file. -/
def Valid : Token → Prop
  | register r | vector r _ => r.InFile
  | _ => True

/-- How the text of a token looks. -/
inductive Look where
  | word | number | amount | vector | raw
  deriving DecidableEq

/-- The punctuation in a text. -/
def Look.marks : Look → List Char
  | word | raw => []
  | number => ['#']
  | amount => [' ', '#']
  | vector => ['.']

def look : Token → Look
  | register _ | system _ | shift ⟨_, none⟩ => .word
  | vector _ _ => .vector
  | number _ => .number
  | shift ⟨_, some _⟩ => .amount
  | encoding _ => .raw

variable {t t' : Token} {decimal : Bool} {c : Char}

/-- What the look of a token says about it. -/
theorem look_cases (t : Token) :
    match t.look with
    | .word => True
    | .number => ∃ value, t = number value
    | .amount => ∃ kind amount, t = shift (.ofAmount kind amount)
    | .vector => ∃ r a, t = vector r a
    | .raw => ∃ e, t = encoding e := by
  cases t with
  | register r | system r => trivial
  | vector r a => exact ⟨r, a, rfl⟩
  | number value => exact ⟨value, rfl⟩
  | shift s =>
    obtain ⟨kind, _ | amount⟩ := s
    · trivial
    · exact ⟨kind, amount, rfl⟩
  | encoding e => exact ⟨e, rfl⟩

def words : List Token :=
  Register.all.map register ++
    (ShiftKind.all.map (fun kind => shift (.bare kind)) ++ SystemRegister.all.map system)

theorem map_text_words (decimal : Bool) : words.map (text decimal) = Text.words := by
  simp only [words, Text.words, List.map_append, List.map_map, ← Register.map_name_all]
  rfl

theorem mem_words (h : t.Valid) (hlook : t.look = .word) : t ∈ words := by
  cases t with
  | register r => exact List.mem_append_left _ (List.mem_map_of_mem (Register.InFile.mem_all h))
  | shift s =>
    obtain ⟨kind, _ | amount⟩ := s
    · have hkind : kind ∈ ShiftKind.all := by cases kind <;> decide
      exact List.mem_append_right _ (List.mem_append_left _ (List.mem_map.2 ⟨kind, hkind, rfl⟩))
    · cases hlook
  | system r =>
    exact List.mem_append_right _ (List.mem_append_right _ (List.mem_map_of_mem r.mem_all))
  | vector r a | number value | encoding e => cases hlook

theorem text_mem_words (h : t.Valid) (hlook : t.look = .word) (decimal : Bool) :
    t.text decimal ∈ Text.words := by
  rw [← map_text_words decimal]
  exact List.mem_map_of_mem (mem_words h hlook)

theorem eq_of_word_eq (h : t.Valid) (h' : t'.Valid) (hlook : t.look = .word)
    (hlook' : t'.look = .word) (ht : t.text decimal = t'.text decimal) : t = t' := by
  have hnodup : (words.map (text decimal)).Nodup := by
    rw [map_text_words]
    exact Text.words_nodup
  exact List.inj_on_of_nodup_map hnodup (mem_words h hlook) (mem_words h' hlook') ht

theorem toList_vector (r : Register) (a : Arrangement) :
    ((vector r a).text decimal).toList =
      ((register r).text decimal).toList ++ '.' :: (Text.arrangement a).toList := by
  simp [text]

theorem toList_amount (kind : ShiftKind) (amount : Nat) :
    ((shift (.ofAmount kind amount)).text decimal).toList =
      ((shift (.bare kind)).text decimal).toList ++ ' ' :: '#' :: Nat.toDigits 10 amount :=
  Piece.toList_amount decimal kind amount

theorem mem_text_iff (h : t.Valid) (decimal : Bool) (hc : c ∈ Text.punctuation) :
    c ∈ (t.text decimal).toList ↔ c ∈ t.look.marks := by
  cases hlook : t.look with
  | word => simp [Look.marks, Text.notMem_word (text_mem_words h hlook decimal) hc]
  | number =>
    obtain ⟨value, rfl⟩ : ∃ value, t = number value := by simpa [hlook] using t.look_cases
    simp [text, Look.marks, Text.punctuation_notMem_signed decimal value hc]
  | amount =>
    obtain ⟨kind, amount, rfl⟩ : ∃ kind amount, t = shift (.ofAmount kind amount) := by
      simpa [hlook] using t.look_cases
    have hname : c ∉ ((shift (.bare kind)).text decimal).toList :=
      Text.notMem_word (text_mem_words (t := shift (.bare kind)) trivial rfl decimal) hc
    simp [toList_amount, Look.marks, hname, Text.notMem_digits amount hc]
  | vector =>
    obtain ⟨r, a, rfl⟩ : ∃ r a, t = vector r a := by simpa [hlook] using t.look_cases
    have hname : c ∉ ((register r).text decimal).toList :=
      Text.notMem_word (text_mem_words (t := register r) h rfl decimal) hc
    simp [toList_vector, Look.marks, hname, Text.notMem_arrangement a hc]
  | raw =>
    obtain ⟨e, rfl⟩ : ∃ e, t = encoding e := by simpa [hlook] using t.look_cases
    have hcode : ∀ c ∈ Text.punctuation, Text.isRawCode c.toNat = false := by decide
    have hmem : c ∉ (Text.systemEncoding e).toList := fun hmem => by
      have htrue := Text.isRawCode_systemEncoding hmem
      rw [hcode c hc] at htrue
      cases htrue
    simp [text, Look.marks, hmem]

theorem word_ne_encoding (h : t.Valid) (hlook : t.look = .word) (decimal : Bool)
    (e : SystemEncoding) : t.text decimal ≠ Text.systemEncoding e := by
  intro ht
  have hword := text_mem_words h hlook decimal
  rw [ht] at hword
  obtain ⟨c, hc, hraw⟩ := Text.exists_not_raw hword (by simp [Text.toList_systemEncoding])
  rw [Text.isRawCode_systemEncoding hc] at hraw
  cases hraw

theorem look_eq_of_text_eq (h : t.Valid) (h' : t'.Valid) (ht : t.text decimal = t'.text decimal) :
    t.look = t'.look := by
  have hmarks {c : Char} (hc : c ∈ Text.punctuation) : c ∈ t.look.marks ↔ c ∈ t'.look.marks := by
    rw [← mem_text_iff h decimal hc, ← mem_text_iff h' decimal hc, ht]
  have hdot := hmarks (c := '.') (by decide)
  have hspace := hmarks (c := ' ') (by decide)
  have hnumber := hmarks (c := '#') (by decide)
  cases hlook : t.look <;> cases hlook' : t'.look <;>
    simp [hlook, hlook', Look.marks] at hdot hspace hnumber ⊢
  · obtain ⟨e, rfl⟩ : ∃ e, t' = encoding e := by simpa [hlook'] using t'.look_cases
    exact word_ne_encoding h hlook decimal e ht
  · obtain ⟨e, rfl⟩ : ∃ e, t = encoding e := by simpa [hlook] using t.look_cases
    exact word_ne_encoding h' hlook' decimal e ht.symm

/-- The text of a token tells the token. -/
theorem eq_of_text_eq (h : t.Valid) (h' : t'.Valid) (ht : t.text decimal = t'.text decimal) :
    t = t' := by
  have hlook := look_eq_of_text_eq h h' ht
  have hcases := t.look_cases
  have hcases' := t'.look_cases
  rw [← hlook] at hcases'
  cases hword : t.look with
  | word => exact eq_of_word_eq h h' hword (hlook ▸ hword) ht
  | number =>
    simp only [hword] at hcases hcases'
    obtain ⟨value, rfl⟩ := hcases
    obtain ⟨value', rfl⟩ := hcases'
    rw [Text.signed_injective ((String.append_right_inj _).1 ht)]
  | amount =>
    simp only [hword] at hcases hcases'
    obtain ⟨kind, amount, rfl⟩ := hcases
    obtain ⟨kind', amount', rfl⟩ := hcases'
    have hpieces : Piece.text decimal (.shift (.ofAmount kind amount)) =
        Piece.text decimal (.shift (.ofAmount kind' amount')) := ht
    obtain ⟨rfl, rfl⟩ := Piece.amount_injective hpieces
    rfl
  | vector =>
    simp only [hword] at hcases hcases'
    obtain ⟨r, a, rfl⟩ := hcases
    obtain ⟨r', a', rfl⟩ := hcases'
    -- The dot ends the name of the register, and the arrangement follows it.
    have hchars := congrArg String.toList ht
    rw [toList_vector, toList_vector] at hchars
    have hdot {r : Register} (h : r.InFile) : '.' ∉ ((register r).text decimal).toList :=
      Text.notMem_word (text_mem_words (t := register r) h rfl decimal) (by decide)
    obtain ⟨hname, harrangement⟩ := Text.append_cons_inj (hdot h) (hdot h') hchars
    have hregister : register r = register r' :=
      eq_of_word_eq h h' rfl rfl (String.toList_inj.1 hname)
    rw [Token.register.inj hregister, Text.arrangement_injective (String.toList_inj.1 harrangement)]
  | raw =>
    simp only [hword] at hcases hcases'
    obtain ⟨e, rfl⟩ := hcases
    obtain ⟨e', rfl⟩ := hcases'
    rw [Text.systemEncoding_injective ht]

end Token

end A64
