import A64.Proofs.HexNumeral
import A64.Proofs.JsonListing

/-!
# Columns of the output

A row of the program's output shows an address up to its colon and, two spaces on, eight digits of a
word. Both columns are hexadecimal numerals, so they can be given back to the program: they are read
as the address and the word of the row.
-/

namespace A64

namespace Program

open Numeral

/-- The first column of a row, which a colon ends. -/
def addressColumn (row : String) : String := String.ofList (row.toList.takeWhile (· ≠ ':'))

/-- The second column of a row: eight characters, two spaces after the colon. -/
def wordColumn (row : String) : String :=
  String.ofList (((row.toList.dropWhile (· ≠ ':')).drop 3).take 8)

/-- The columns of a row are read as a word and its address. -/
structure ColumnsRead (row : String) (word : Word) (address : Address) : Prop where
  length : (wordColumn row).length = 8
  word : parseHex? 32 (wordColumn row) = some word
  address : parseHex? 64 (addressColumn row) = some address

theorem columns_row {address word : String} (haddress : ':' ∉ address.toList)
    (hword : word.length = 8) (text : String) :
    addressColumn (address ++ ":  " ++ word ++ "  " ++ text) = address ∧
      wordColumn (address ++ ":  " ++ word ++ "  " ++ text) = word := by
  have hrow : (address ++ ":  " ++ word ++ "  " ++ text).toList =
      address.toList ++ ':' :: ' ' :: ' ' :: (word.toList ++ ("  " ++ text).toList) := by
    simp [String.toList_append]
  have hbefore : ∀ c ∈ address.toList, decide (c ≠ ':') = true := fun c hc =>
    decide_eq_true fun h => haddress (h ▸ hc)
  have htake : (word.toList ++ ("  " ++ text).toList).take 8 = word.toList :=
    List.take_left' (by rw [String.length_toList, hword])
  constructor
  · rw [addressColumn, hrow, List.takeWhile_append_of_pos hbefore]
    simp
  · rw [wordColumn, hrow, List.dropWhile_append_of_pos hbefore]
    show String.ofList ((word.toList ++ ("  " ++ text).toList).take 8) = word
    rw [htake, String.ofList_toList]

theorem colon_notMem_column {s : String} {n : Nat} (h : IsColumn s n) : ':' ∉ s.toList :=
  fun hmem => absurd (h.digits _ hmem) (by decide)

theorem IsRow.columnsRead {row : String} {l : Line} (h : IsRow row l) :
    ColumnsRead row l.word l.address := by
  obtain ⟨address, word, rfl, haddress, hword, hlength⟩ := h
  have hcolon : ':' ∉ ("0x" ++ address).toList := by
    simp [String.toList_append, colon_notMem_column haddress]
  obtain ⟨haddressColumn, hwordColumn⟩ := columns_row hcolon hlength l.text
  have hnumeral : IsHexNumeral word l.word.toNat := by
    have hunmarked := hword.isHexNumeral (.inl rfl)
    rwa [String.empty_append] at hunmarked
  constructor
  · rw [hwordColumn, hlength]
  · rw [hwordColumn, parseHex?_eq_some_iff]
    exact hnumeral
  · rw [haddressColumn, parseHex?_eq_some_iff]
    exact haddress.isHexNumeral (.inr rfl)

/-- Reading a hexadecimal number of a width accepts the numerals whose value fits and refuses all
other texts. Whatever a run writes as text are rows, and their columns are read as the words and
addresses that they show. -/
theorem hexNumeral_spec :
    (∀ (width : Nat) (s : String),
      (∀ v : BitVec width, parseHex? width s = some v ↔ IsHexNumeral s v.toNat) ∧
      (parseHex? width s = none ↔ ∀ n, IsHexNumeral s n → 2 ^ width ≤ n)) ∧
    ∀ (o : Options) (stdin : Input) (file : String → Except String Input), ∃ rows : List String,
      (run { o with json := false } stdin file).stdout = String.join (rows.map (· ++ "\n")) ∧
      ∀ row ∈ rows, '\n' ∉ row.toList ∧ ∃ (l : Line) (word : Word) (address : Address),
        l.Describes word address o.decimal ∧ IsRow row l ∧ ColumnsRead row word address := by
  refine ⟨fun width s => ⟨fun v => parseHex?_eq_some_iff, parseHex?_eq_none_iff⟩,
    fun o stdin file => ?_⟩
  obtain ⟨lines, exitCode, stderr, hrun, hdescribes⟩ := exists_run_lines o stdin file
  refine ⟨lines.map textLine, ?_, fun row hrow => ?_⟩
  · rw [hrun, List.map_map]
    rfl
  · obtain ⟨l, hl, rfl⟩ := List.mem_map.1 hrow
    obtain ⟨word, address, hline⟩ := hdescribes l hl
    have hcolumns := (isRow_textLine l).columnsRead
    rw [hline.word_eq, hline.address_eq] at hcolumns
    exact ⟨newline_notMem_textLine (Line.newline_notMem_text hline), l, word, address, hline,
      isRow_textLine l, hcolumns⟩

/-- A numeral with all that is optional, leading zeros and both cases of digits, and a numeral of
nine digits, which is too large for a word. -/
theorem signedReturn_hexNumeral :
    parseHex? 32 "0x+00D65f03C0" = some 0xd65f03c0 ∧ IsHexNumeral "0x+00D65f03C0" 0xd65f03c0 ∧
      parseHex? 32 "1d503201f" = none ∧ ∀ n, IsHexNumeral "1d503201f" n → 2 ^ 32 ≤ n := by
  have hread : parseHex? 32 "0x+00D65f03C0" = some 0xd65f03c0 := by decide +kernel
  have hrefused : parseHex? 32 "1d503201f" = none := by decide +kernel
  exact ⟨hread, ((hexNumeral_spec.1 32 _).1 _).1 hread, hrefused,
    (hexNumeral_spec.1 32 _).2.1 hrefused⟩

end Program

end A64
