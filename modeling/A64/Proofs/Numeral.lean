import A64.Numeral
import Mathlib.Algebra.Group.Nat.Defs

/-!
# Numerals

Reading a written number gives it back, in every base up to sixteen. So different numbers have
different numerals, and a numeral consists of digits only.
-/

namespace A64.Numeral

variable {base : Nat}

theorem digit?_digitChar (hbase : base ≤ 16) {d : Nat} (hd : d < base) :
    digit? base d.digitChar = some d := by
  have hall : ∀ d < 16, digit? 16 d.digitChar = some d := by decide
  have hd16 := hall d (by omega)
  simp only [digit?, Option.filter_eq_some_iff] at hd16 ⊢
  exact ⟨hd16.1, by simpa using hd⟩

theorem ofDigits?_append {cs : List Char} {acc n : Nat} (h : ofDigits? base acc cs = some n)
    (cs' : List Char) : ofDigits? base acc (cs ++ cs') = ofDigits? base n cs' := by
  induction cs generalizing acc with
  | nil =>
    cases h
    rfl
  | cons c cs ih =>
    simp only [List.cons_append, ofDigits?] at h ⊢
    split at h
    · exact ih h
    · cases h

theorem ofDigits?_toDigits (hpos : 1 < base) (hbase : base ≤ 16) (n : Nat) :
    ofDigits? base 0 (Nat.toDigits base n) = some n := by
  induction n using Nat.strongRecOn with
  | ind n ih =>
    rcases Nat.lt_or_ge n base with hlt | hge
    · rw [Nat.toDigits_of_lt_base hlt]
      simp [ofDigits?, digit?_digitChar hbase hlt]
    · have hdiv : n / base < n := Nat.div_lt_self (by omega) hpos
      have hmod : n % base < base := Nat.mod_lt _ (by omega)
      rw [Nat.toDigits_of_base_le hpos hge, ofDigits?_append (ih _ hdiv)]
      simp only [ofDigits?, digit?_digitChar hbase hmod]
      rw [Nat.div_add_mod']

theorem digit?_eq_none_of_le {base' : Nat} (hbase : base ≤ base') {c : Char}
    (hc : digit? base' c = none) : digit? base c = none := by
  simp only [digit?, Option.filter_eq_none_iff, decide_eq_true_eq, Nat.not_lt] at hc ⊢
  intro d hd
  exact Nat.le_trans hbase (hc d hd)

theorem toDigits_injective (hpos : 1 < base) (hbase : base ≤ 16) {m n : Nat}
    (h : Nat.toDigits base m = Nat.toDigits base n) : m = n := by
  have hm := ofDigits?_toDigits hpos hbase m
  rw [h, ofDigits?_toDigits hpos hbase n] at hm
  exact (Option.some.inj hm).symm

theorem isSome_digit?_of_ofDigits? {cs : List Char} {acc : Nat}
    (h : (ofDigits? base acc cs).isSome) {c : Char} (hc : c ∈ cs) : (digit? base c).isSome := by
  induction cs generalizing acc with
  | nil => cases hc
  | cons c' cs ih =>
    simp only [ofDigits?] at h
    split at h
    · rename_i d hd
      rcases List.mem_cons.1 hc with rfl | hmem
      · simp [hd]
      · exact ih h hmem
    · cases h

theorem notMem_toDigits (hpos : 1 < base) (hbase : base ≤ 16) (n : Nat) {c : Char}
    (hc : digit? base c = none) : c ∉ Nat.toDigits base n := by
  intro hmem
  have hsome := isSome_digit?_of_ofDigits? (by rw [ofDigits?_toDigits hpos hbase n]; rfl) hmem
  rw [hc] at hsome
  cases hsome

/-- A numeral consists of the digits below its base, in small letters. -/
theorem exists_digitChar_of_mem_toDigits (hpos : 1 < base) {n : Nat} {c : Char}
    (hc : c ∈ Nat.toDigits base n) : ∃ d < base, c = d.digitChar := by
  induction n using Nat.strongRecOn with
  | ind n ih =>
    rcases Nat.lt_or_ge n base with hlt | hge
    · rw [Nat.toDigits_of_lt_base hlt, List.mem_singleton] at hc
      exact ⟨n, hlt, hc⟩
    · rw [Nat.toDigits_of_base_le hpos hge, List.mem_append, List.mem_singleton] at hc
      rcases hc with hc | hc
      · exact ih _ (Nat.div_lt_self (by omega) hpos) hc
      · exact ⟨n % base, Nat.mod_lt _ (by omega), hc⟩

theorem ofDigits?_replicate (hpos : 0 < base) (n : Nat) (cs : List Char) :
    ofDigits? base 0 (List.replicate n '0' ++ cs) = ofDigits? base 0 cs := by
  have hzero : digit? base '0' = some 0 := by
    have hvalue : digit? base '0' = (some 0).filter (· < base) := rfl
    rw [hvalue]
    simp [hpos]
  induction n with
  | zero => rfl
  | succ n ih => simpa [List.replicate_succ, ofDigits?, hzero] using ih

/-- The text is the hexadecimal numeral of a number in small letters, filled up with zeros to eight
digits. -/
structure IsColumn (s : String) (n : Nat) : Prop where
  digits : ∀ c ∈ s.toList, c ∈ "0123456789abcdef".toList
  value : ofDigits? 16 0 s.toList = some n
  length_ge : 8 ≤ s.length
  /-- There are more digits only if they are needed. -/
  pow_le : 8 < s.length → 16 ^ (s.length - 1) ≤ n

theorem toList_hex8 (n : Nat) : (hex8 n).toList =
    List.replicate (8 - (Nat.toDigits 16 n).length) '0' ++ Nat.toDigits 16 n := by
  simp [hex8, pad, hexDigits]

theorem length_hex8 (n : Nat) : (hex8 n).length = max 8 (Nat.toDigits 16 n).length := by
  rw [← String.length_toList, toList_hex8, List.length_append, List.length_replicate]
  omega

theorem isColumn_hex8 (n : Nat) : IsColumn (hex8 n) n where
  digits := by
    intro c hc
    rw [toList_hex8] at hc
    rcases List.mem_append.1 hc with hc | hc
    · rw [(List.mem_replicate.1 hc).2]
      decide
    · obtain ⟨d, hd, rfl⟩ := exists_digitChar_of_mem_toDigits (by decide) hc
      have hall : ∀ d < 16, d.digitChar ∈ "0123456789abcdef".toList := by decide
      exact hall d hd
  value := by
    rw [toList_hex8, ofDigits?_replicate (by decide)]
    exact ofDigits?_toDigits (by decide) (by decide) n
  length_ge := by rw [length_hex8]; omega
  pow_le := by
    rw [length_hex8]
    intro hlong
    have hlen : max 8 (Nat.toDigits 16 n).length = (Nat.toDigits 16 n).length := by omega
    rw [hlen]
    refine Nat.le_of_not_lt fun hlt => ?_
    have hle := (Nat.length_toDigits_le_iff (b := 16) (by decide) (by omega)).2 hlt
    omega

theorem length_hex8_of_lt {n : Nat} (h : n < 2 ^ 32) : (hex8 n).length = 8 := by
  have hle := (Nat.length_toDigits_le_iff (b := 16) (n := n) (k := 8) (by decide) (by decide)).2 h
  rw [length_hex8]
  omega

end A64.Numeral
