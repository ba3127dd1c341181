import A64.Proofs.PlainText

/-!
# Symbols

A symbol tells the system register, operation or group that it stands for. The symbol of a name
keeps its letters and digits up to case, and no two names differ in their underscores alone.
-/

namespace A64

namespace Symbol

theorem toLower_toUpper (c : Char) : c.toUpper.toLower = c.toLower := by
  have hascii : ∀ n < 128, (Char.ofNat n).toUpper.toLower = (Char.ofNat n).toLower := by decide
  by_cases hc : c.toNat < 128
  · rw [← Char.ofNat_toNat c]
    exact hascii _ hc
  · have hupper : c.toUpper = c := by
      refine dif_neg fun h => hc ?_
      have hlast : c.toNat ≤ 122 := h.2
      omega
    rw [hupper]

theorem isUpper_iff {c : Char} : c.isUpper ↔ 65 ≤ c.val ∧ c.val ≤ 90 := decide_eq_true_iff

theorem toNat_of_isUpper {c : Char} (h : c.isUpper) : 65 ≤ c.toNat ∧ c.toNat ≤ 90 := by
  obtain ⟨hfirst, hlast⟩ := isUpper_iff.1 h
  exact ⟨UInt32.le_iff_toNat_le.1 hfirst, UInt32.le_iff_toNat_le.1 hlast⟩

theorem toLower_eq_self {c : Char} (h : ¬ c.isUpper) : c.toLower = c :=
  dif_neg fun hcapital => h (isUpper_iff.2 hcapital)

theorem map_toLower_capitals (start : Bool) (cs : List Char) :
    (capitals start cs).map Char.toLower = (cs.filter (· ≠ '_')).map Char.toLower := by
  induction cs generalizing start with
  | nil => rfl
  | cons c cs ih =>
    rw [capitals]
    split
    · rename_i hline
      rw [ih, hline]
      rfl
    · rename_i hline
      have hcase : (if start then c.toUpper else c).toLower = c.toLower := by
        cases start
        · rfl
        · exact toLower_toUpper c
      rw [List.map_cons, ih, hcase, List.filter_cons_of_pos (by simpa using hline), List.map_cons]

theorem tail_capitals {cs : List Char} (h : '_' ∉ cs) : (capitals true cs).tail = cs.tail := by
  have hrest (cs : List Char) (h : '_' ∉ cs) : capitals false cs = cs := by
    induction cs with
    | nil => rfl
    | cons c cs ih =>
      have hc : c ≠ '_' := Ne.symm (List.ne_of_not_mem_cons h)
      rw [capitals, if_neg hc, ih (List.not_mem_of_not_mem_cons h)]
      rfl
  cases cs with
  | nil => rfl
  | cons c cs =>
    have hc : c ≠ '_' := Ne.symm (List.ne_of_not_mem_cons h)
    rw [capitals, if_neg hc]
    exact hrest cs (List.not_mem_of_not_mem_cons h)

theorem map_toLower_eq_self {cs : List Char} (h : ∀ c ∈ cs, ¬ c.isUpper) :
    cs.map Char.toLower = cs := by
  have hmap : cs.map Char.toLower = cs.map id :=
    List.map_congr_left fun c hc => toLower_eq_self (h c hc)
  rw [hmap, List.map_id]

/-- Names without capitals that have the same symbol are the same but for their underscores. -/
theorem filter_eq_of_ofName_eq {s t : String} (hs : ∀ c ∈ s.toList, ¬ c.isUpper)
    (ht : ∀ c ∈ t.toList, ¬ c.isUpper) (h : ofName s = ofName t) :
    s.toList.filter (· ≠ '_') = t.toList.filter (· ≠ '_') := by
  have hcapitals : capitals true s.toList = capitals true t.toList := String.ofList_injective h
  have hlower := congrArg (List.map Char.toLower) hcapitals
  rw [map_toLower_capitals, map_toLower_capitals] at hlower
  rwa [map_toLower_eq_self fun c hc => hs c (List.mem_of_mem_filter hc),
    map_toLower_eq_self fun c hc => ht c (List.mem_of_mem_filter hc)] at hlower

theorem find?_symbol {α : Type} {all : List α} {symbol : α → String} (hmem : ∀ a, a ∈ all)
    (hinj : ∀ a b, symbol a = symbol b → a = b) (a : α) :
    all.find? (symbol · == symbol a) = some a := by
  cases h : all.find? (symbol · == symbol a) with
  | none =>
    have hnone := List.find?_eq_none.1 h a (hmem a)
    simp at hnone
  | some b =>
    have hsymbol : symbol b = symbol a := by simpa using List.find?_some h
    rw [hinj b a hsymbol]

end Symbol

namespace Text

theorem letters_codes_eq {s t : String}
    (h : s.toList.filter (· ≠ '_') = t.toList.filter (· ≠ '_')) :
    letters (codes s) = letters (codes t) := by
  have hletters (s : String) : letters (codes s) =
      (s.toList.filter (· ≠ '_')).flatMap fun c =>
        letters ((String.utf8EncodeChar c).map UInt8.toNat) := by
    rw [codes_eq_flatMap, letters, List.filter_flatMap]
    induction s.toList with
    | nil => rfl
    | cons c cs ih =>
      by_cases hc : c = '_'
      · subst hc
        exact ih
      · rw [List.filter_cons_of_pos (by simpa using hc), List.flatMap_cons, List.flatMap_cons, ih]
        rfl
  rw [hletters, hletters, h]

theorem not_isUpper_of_mem_word {s : String} (h : s ∈ words) : ∀ c ∈ s.toList, ¬ c.isUpper := by
  intro c hc hupper
  obtain ⟨hfirst, hlast⟩ := Symbol.toNat_of_isUpper hupper
  have hcode : ∀ n ≤ 90, 65 ≤ n → isWordCode n = false := by decide
  exact notMem_word_of_code h ⟨by omega, hcode _ hlast hfirst⟩ hc

end Text

theorem SystemRegister.symbol_injective {r r' : SystemRegister} (h : r.symbol = r'.symbol) :
    r = r' := by
  have hword (r : SystemRegister) : r.name ∈ Text.words :=
    List.mem_append_right _ (List.mem_append_right _ (List.mem_map_of_mem r.mem_all))
  have hnames := Symbol.filter_eq_of_ofName_eq (Text.not_isUpper_of_mem_word (hword r))
    (Text.not_isUpper_of_mem_word (hword r')) h
  have hnodup : (all.map fun r => Text.letters (Text.codes r.name)).Nodup := by
    have hwords := Text.nodup_letters_words
    simp only [Text.words, List.map_append, List.map_map] at hwords
    exact hwords.of_append_right.of_append_right
  exact List.inj_on_of_nodup_map hnodup r.mem_all r'.mem_all (Text.letters_codes_eq hnames)

namespace Operation

theorem not_isUpper_of_mem_name {op : Operation} :
    ∀ c ∈ op.name.toList, ¬ c.isUpper ∧ c ≠ '_' := by
  intro c hc
  refine ⟨fun hupper => ?_, fun hline => ?_⟩
  · obtain ⟨hfirst, hlast⟩ := Symbol.toNat_of_isUpper hupper
    have hcode := Text.codes_name op _ (Text.mem_codes (by omega) hc)
    omega
  · subst hline
    exact absurd (Text.codes_name op _ (Text.mem_codes (by decide) hc)) (by decide)

theorem name_eq_of_ofName_eq {op op' : Operation}
    (h : Symbol.ofName op.name = Symbol.ofName op'.name) : op.name = op'.name := by
  have hletters (op : Operation) : op.name.toList.filter (· ≠ '_') = op.name.toList :=
    List.filter_eq_self.2 fun c hc => by simpa using (not_isUpper_of_mem_name c hc).2
  have hnames := Symbol.filter_eq_of_ofName_eq (fun c hc => (not_isUpper_of_mem_name c hc).1)
    (fun c hc => (not_isUpper_of_mem_name c hc).1) h
  rw [hletters, hletters] at hnames
  exact String.toList_injective hnames

/-- Of the symbols only those of conditional branches have a capital behind the first letter. -/
theorem ofName_ne_branch (op : Operation) (c : Condition) :
    Symbol.ofName op.name ≠ "B" ++ c.symbol := by
  have hcapital : ∀ c : Condition, ("B" ++ c.symbol).toList.tail.any Char.isUpper = true := by
    intro c
    cases c <;> decide
  intro h
  obtain ⟨l, hl, hupper⟩ := List.any_eq_true.1 (hcapital c)
  have hline : '_' ∉ op.name.toList := fun hmem => (not_isUpper_of_mem_name _ hmem).2 rfl
  rw [← h, Symbol.ofName, String.toList_ofList, Symbol.tail_capitals hline] at hl
  exact (not_isUpper_of_mem_name l (List.mem_of_mem_tail hl)).1 hupper

theorem eq_branchIf_of_condition? {op : Operation} {c : Condition} (h : op.condition? = some c) :
    op = branchIf c := by
  unfold condition? at h
  split at h <;> cases h <;> rfl

/-- Different operations have different symbols. -/
theorem symbol_injective {op op' : Operation} (h : op.symbol = op'.symbol) : op = op' := by
  have hconditions : ∀ c c' : Condition, "B" ++ c.symbol = "B" ++ c'.symbol → c = c' := by
    intro c c'
    cases c <;> cases c' <;> decide
  unfold symbol at h
  split at h <;> rename_i hcond <;> split at h <;> rename_i hcond'
  · have hop := eq_branchIf_of_condition? hcond
    have hop' := eq_branchIf_of_condition? hcond'
    rw [hop, hop', hconditions _ _ h]
  · exact absurd h.symm (ofName_ne_branch _ _)
  · exact absurd h (ofName_ne_branch _ _)
  · exact Text.name_injective (name_eq_of_ofName_eq h)

end Operation

end A64
