import A64.Proofs.Numeral
import Mathlib.Data.List.Forall2
import Mathlib.Data.Nat.Digits.Defs

/-!
# Hexadecimal numerals

`IsHexNumeral` is the grammar of hexadecimal numbers: a mark and a plus sign, neither of which is
needed, and then digits in either case. What is read of a width are exactly the numerals whose value
fits, each as its value. Reading drops a mark and a sign before it looks at digits; that this agrees
with the grammar rests on `dropPlus_dropMark`, since neither could be taken for a digit.
-/

namespace A64

namespace Numeral

/-- The character is the digit with the given value, in small letters or in capitals. -/
def IsHexDigit (c : Char) (d : Nat) : Prop :=
  "0123456789abcdef".toList[d]? = some c ∨ "0123456789ABCDEF".toList[d]? = some c

instance (c : Char) (d : Nat) : Decidable (IsHexDigit c d) := inferInstanceAs (Decidable (_ ∨ _))

/-- The text is a numeral with the given value: perhaps a mark, perhaps a sign, and one or more
digits, the most significant of which stands first. -/
inductive IsHexNumeral (s : String) (n : Nat) : Prop
  | intro {mark sign digits : String} {values : List Nat} (htext : s = mark ++ sign ++ digits)
    (hmark : mark = "" ∨ mark = "0x") (hsign : sign = "" ∨ sign = "+") (hdigits : digits ≠ "")
    (hvalues : List.Forall₂ IsHexDigit digits.toList values)
    (hvalue : Nat.ofDigits 16 values.reverse = n) : IsHexNumeral s n

theorem toNat_lt_of_digit? {base d : Nat} {c : Char} (h : digit? base c = some d) :
    c.toNat < 128 := by
  have hle {e : Char} (he : e.toNat < 128) (hc : c ≤ e) : c.toNat < 128 :=
    Nat.lt_of_le_of_lt (Char.le_def.1 hc) he
  simp only [digit?, Option.filter_eq_some_iff] at h
  obtain ⟨hvalue, -⟩ := h
  split_ifs at hvalue with h09 haf hAF
  · exact hle (by decide) h09.2
  · exact hle (by decide) haf.2
  · exact hle (by decide) hAF.2

theorem digit?_eq_some_iff {c : Char} {d : Nat} : digit? 16 c = some d ↔ IsHexDigit c d := by
  constructor
  · intro h
    have hall : ∀ n < 128, ∀ d ∈ digit? 16 (Char.ofNat n), IsHexDigit (Char.ofNat n) d := by
      decide
    have hdigit := hall c.toNat (toNat_lt_of_digit? h) d
    rw [Char.ofNat_toNat] at hdigit
    exact hdigit h
  · intro h
    have hall : ∀ d < 16, "0123456789abcdef".toList[d]?.bind (digit? 16) = some d ∧
        "0123456789ABCDEF".toList[d]?.bind (digit? 16) = some d := by decide
    rcases h with h | h
    · obtain ⟨hlower, -⟩ := hall d (List.getElem?_eq_some_iff.1 h).1
      rwa [h] at hlower
    · obtain ⟨-, hupper⟩ := hall d (List.getElem?_eq_some_iff.1 h).1
      rwa [h] at hupper

theorem ofDigits?_eq_some_iff {base acc n : Nat} {cs : List Char} :
    ofDigits? base acc cs = some n ↔
      ∃ ds, List.Forall₂ (fun c d => digit? base c = some d) cs ds ∧
        ds.foldl (fun n d => n * base + d) acc = n := by
  induction cs generalizing acc with
  | nil => simp [ofDigits?]
  | cons c cs ih =>
    simp only [ofDigits?, List.forall₂_cons_left_iff]
    split
    · rename_i d hd
      rw [ih]
      constructor
      · rintro ⟨ds, hds, hfold⟩
        exact ⟨d :: ds, ⟨d, ds, hd, hds, rfl⟩, hfold⟩
      · rintro ⟨_, ⟨d', ds, hd', hds, rfl⟩, hfold⟩
        obtain rfl : d = d' := Option.some.inj (hd.symm.trans hd')
        exact ⟨ds, hds, hfold⟩
    · rename_i hnone
      constructor
      · intro h
        cases h
      · rintro ⟨_, ⟨d', ds, hd', -⟩, -⟩
        rw [hnone] at hd'
        cases hd'

theorem foldl_eq_ofDigits (base : Nat) (ds : List Nat) :
    ds.foldl (fun n d => n * base + d) 0 = Nat.ofDigits base ds.reverse := by
  rw [Nat.ofDigits_eq_foldr, List.foldr_reverse]
  congr 1
  funext n d
  rw [Nat.cast_id, Nat.mul_comm, Nat.add_comm]

theorem ofDigits?_sixteen {n : Nat} {cs : List Char} : ofDigits? 16 0 cs = some n ↔
    ∃ values, List.Forall₂ IsHexDigit cs values ∧ Nat.ofDigits 16 values.reverse = n := by
  simp only [ofDigits?_eq_some_iff, digit?_eq_some_iff, foldl_eq_ofDigits]

theorem notMem_of_forall₂ {cs : List Char} {values : List Nat} {c : Char}
    (h : List.Forall₂ IsHexDigit cs values) (hc : digit? 16 c = none) : c ∉ cs := by
  intro hmem
  induction h with
  | nil => cases hmem
  | cons hdigit _ ih =>
    rcases List.mem_cons.1 hmem with rfl | hmem
    · rw [digit?_eq_some_iff.2 hdigit] at hc
      cases hc
    · exact ih hmem

theorem exists_mark (cs : List Char) :
    ∃ mark : String, (mark = "" ∨ mark = "0x") ∧ cs = mark.toList ++ dropMark cs := by
  unfold dropMark
  split
  · exact ⟨"0x", .inr rfl, rfl⟩
  · exact ⟨"", .inl rfl, rfl⟩

theorem exists_sign (cs : List Char) :
    ∃ sign : String, (sign = "" ∨ sign = "+") ∧ cs = sign.toList ++ dropPlus cs := by
  unfold dropPlus
  split
  · exact ⟨"+", .inr rfl, rfl⟩
  · exact ⟨"", .inl rfl, rfl⟩

theorem dropMark_eq_self {cs : List Char} (h : 'x' ∉ cs) : dropMark cs = cs := by
  unfold dropMark
  split
  · simp at h
  · rfl

theorem dropPlus_eq_self {cs : List Char} (h : '+' ∉ cs) : dropPlus cs = cs := by
  unfold dropPlus
  split
  · simp at h
  · rfl

/-- Mark and sign are told from digits, so they are dropped where they stand. -/
theorem dropPlus_dropMark {mark sign : String} {digits : List Char} {values : List Nat}
    (hmark : mark = "" ∨ mark = "0x") (hsign : sign = "" ∨ sign = "+")
    (hvalues : List.Forall₂ IsHexDigit digits values) :
    dropPlus (dropMark (mark.toList ++ (sign.toList ++ digits))) = digits := by
  have hplus : '+' ∉ digits := notMem_of_forall₂ hvalues (by decide)
  have hx : 'x' ∉ digits := notMem_of_forall₂ hvalues (by decide)
  have hrest : dropPlus (sign.toList ++ digits) = digits := by
    rcases hsign with rfl | rfl
    · exact dropPlus_eq_self hplus
    · rfl
  have hnomark : 'x' ∉ sign.toList ++ digits := by
    rcases hsign with rfl | rfl <;> simp [hx]
  rcases hmark with rfl | rfl
  · rw [String.toList_empty, List.nil_append, dropMark_eq_self hnomark, hrest]
  · exact hrest

theorem parse?_eq_some_iff {base width : Nat} {cs : List Char} {v : BitVec width} :
    parse? base width cs = some v ↔
      dropPlus cs ≠ [] ∧ ofDigits? base 0 (dropPlus cs) = some v.toNat := by
  unfold parse?
  split
  · rename_i hnil
    simp [hnil]
  · rename_i hne
    simp only [Option.map_eq_some_iff, Option.filter_eq_some_iff, decide_eq_true_eq,
      Nat.one_shiftLeft]
    constructor
    · rintro ⟨n, ⟨hn, hlt⟩, rfl⟩
      refine ⟨hne, ?_⟩
      rw [hn, BitVec.toNat_ofNat, Nat.mod_eq_of_lt hlt]
    · rintro ⟨-, hn⟩
      exact ⟨v.toNat, ⟨hn, v.isLt⟩, by rw [BitVec.ofNat_toNat, BitVec.setWidth_eq]⟩

/-- The numerals whose value fits are read, and as their value. -/
theorem parseHex?_eq_some_iff {width : Nat} {s : String} {v : BitVec width} :
    parseHex? width s = some v ↔ IsHexNumeral s v.toNat := by
  rw [parseHex?, parse?_eq_some_iff, ofDigits?_sixteen]
  constructor
  · rintro ⟨hne, values, hvalues, hvalue⟩
    obtain ⟨mark, hmark, hs⟩ := exists_mark s.toList
    obtain ⟨sign, hsign, hrest⟩ := exists_sign (dropMark s.toList)
    have htext : s = mark ++ sign ++ String.ofList (dropPlus (dropMark s.toList)) := by
      apply String.toList_inj.1
      rw [String.toList_append, String.toList_append, String.toList_ofList, List.append_assoc,
        ← hrest, ← hs]
    refine ⟨htext, hmark, hsign, ?_, ?_, hvalue⟩
    · exact fun h => hne (String.ofList_eq_empty_iff.1 h)
    · rw [String.toList_ofList]
      exact hvalues
  · rintro ⟨rfl, hmark, hsign, hne, hvalues, hvalue⟩
    rw [String.toList_append, String.toList_append, List.append_assoc,
      dropPlus_dropMark hmark hsign hvalues]
    exact ⟨fun h => hne (String.toList_eq_nil_iff.1 h), _, hvalues, hvalue⟩

theorem parseHex?_eq_none_iff {width : Nat} {s : String} :
    parseHex? width s = none ↔ ∀ n, IsHexNumeral s n → 2 ^ width ≤ n := by
  constructor
  · intro hnone n hn
    by_contra hlt
    have hvalue : (BitVec.ofNat width n).toNat = n :=
      Nat.mod_eq_of_lt (Nat.not_le.1 hlt)
    rw [parseHex?_eq_some_iff.2 (hvalue.symm ▸ hn)] at hnone
    cases hnone
  · intro hlarge
    cases hread : parseHex? width s with
    | none => rfl
    | some v => exact absurd v.isLt (Nat.not_lt.2 (hlarge _ (parseHex?_eq_some_iff.1 hread)))

theorem IsColumn.isHexNumeral {s mark : String} {n : Nat} (h : IsColumn s n)
    (hmark : mark = "" ∨ mark = "0x") : IsHexNumeral (mark ++ s) n := by
  obtain ⟨values, hvalues, hvalue⟩ := ofDigits?_sixteen.1 h.value
  have hlength := h.length_ge
  have htext : mark ++ s = mark ++ "" ++ s := by rw [String.append_empty]
  refine ⟨htext, hmark, .inl rfl, ?_, hvalues, hvalue⟩
  rintro rfl
  simp at hlength

end Numeral

end A64
