import A64.Program
import A64.Proofs.PlainText

/-!
# Listings

What the program writes about an input is a line for each of its whole words behind the offset, as
many as are asked for. A partial word at the end is not written, and it is no failure; an offset
past the end is one, and then nothing is written. Words on the command line are an input like a file
that holds them.
-/

namespace A64

def Transcript.line (t : Transcript) (base : Address) (decimal : Bool) (k : Nat) : Line :=
  .ofWord (t.word k) (base + BitVec.ofNat 64 (Word.size * k)) decimal

namespace Stream

variable {s : Stream} {t : Transcript} {base : Address} {decimal : Bool} {k : Nat}

theorem take_of_finished (h : s.finished = true) (n : Nat) : s.take n = [] := by
  cases n with
  | zero => rfl
  | succ n => rw [take, next_of_finished h]

/-- A stream that `k` words are behind has the lines of the other words, and then its end. -/
theorem At.take_eq (h : s.At t base decimal k) (hk : k ≤ t.words) (n : Nat) :
    s.take n =
      (List.range' k (min n (t.words - k))).map (fun i => .ok (t.line base decimal i)) ++
        if t.words - k < n then
          (t.last (base + BitVec.ofNat 64 (Word.size * t.words))).toList
        else [] := by
  induction n generalizing s k with
  | zero => simp [take]
  | succ n ih =>
    have htake : s.take (n + 1) = match s.next.1 with
        | none => []
        | some item => item :: s.next.2.take n := by
      rw [take]
      generalize s.next = r
      obtain ⟨_ | item, rest⟩ := r <;> rfl
    rw [htake]
    rcases Nat.lt_or_ge k t.words with hlt | hge
    · obtain ⟨hnext, hat⟩ := h.next_word hlt
      have hmin : min (n + 1) (t.words - k) = min n (t.words - (k + 1)) + 1 := by omega
      have hrest : t.words - k < n + 1 ↔ t.words - (k + 1) < n := by omega
      rw [hnext, hmin, List.range'_succ, List.map_cons, List.cons_append]
      simp only [hrest]
      rw [ih hat hlt, h.address_eq]
      rfl
    · obtain rfl : k = t.words := by omega
      obtain ⟨hnext, hfinished, -⟩ := h.next_last
      rw [hnext, ← h.address_eq, take_of_finished hfinished]
      cases t.last s.address <;> simp

end Stream

/-- At most as many as are asked for. -/
def Options.limit (o : Options) (n : Nat) : Nat :=
  match o.count with
  | none => n
  | some count => min count n

/-- One item more than there are words is enough for the end. -/
theorem Options.min_bound (o : Options) (n : Nat) :
    min ((o.count.getD (n + 1)).min (n + 1)) n = o.limit n := by
  have hmin (count : Nat) : count.min (n + 1) = min count (n + 1) := rfl
  unfold Options.limit
  cases o.count with
  | none =>
    rw [Option.getD_none, hmin]
    exact Nat.min_eq_right (by omega)
  | some count =>
    rw [Option.getD_some, hmin]
    show min (min count (n + 1)) n = min count n
    omega

def wordAt (data : List Byte) (start : Nat) : Word :=
  BitVec.ofNat 32 (littleEndian ((data.drop start).take Word.size))

namespace Program

/-- The lines of the words behind the offset, as many as are asked for. -/
def lines (o : Options) (data : List Byte) : List Line :=
  (List.range (o.limit ((data.length - o.offset) / Word.size))).map fun i =>
    .ofWord (wordAt data (o.offset + Word.size * i)) (o.address + BitVec.ofNat 64 (Word.size * i))
      o.decimal

theorem collect_append (lines : List Line) (rest : List (Except StreamError Line)) :
    collect (lines.map .ok ++ rest) = (lines ++ (collect rest).1, (collect rest).2) := by
  induction lines with
  | nil => rfl
  | cons l lines ih => simp only [List.map_cons, List.cons_append, collect, ih]

/-- The end of an input that can be read is not written. -/
theorem collect_last (data : List Byte) (address : Address) :
    collect (Transcript.last ⟨data, .endOfInput⟩ address).toList = ([], none) := by
  simp only [Transcript.last]
  split <;> rfl

variable {o : Options} {data : List Byte}

theorem collect_take :
    collect ((Stream.ofSource ⟨data.drop o.offset, []⟩ o.address o.decimal).take
      ((o.count.getD (itemBound ⟨data.drop o.offset, []⟩)).min
        (itemBound ⟨data.drop o.offset, []⟩))) = (lines o data, none) := by
  let t : Transcript := ⟨data.drop o.offset, .endOfInput⟩
  have hat : (Stream.ofSource ⟨data.drop o.offset, []⟩ o.address o.decimal).At t o.address
      o.decimal 0 := Stream.at_after _ _ _ (Nat.zero_le _)
  have hmap : (List.range (o.limit t.words)).map
      (fun i => Except.ok (ε := StreamError) (t.line o.address o.decimal i)) =
        (lines o data).map .ok := by
    simp only [t, lines, Transcript.words, Transcript.line, Transcript.word, wordAt,
      List.length_drop, List.drop_drop, List.map_map, Function.comp_def]
  have hbound : itemBound ⟨data.drop o.offset, []⟩ = t.words + 1 := rfl
  rw [hat.take_eq (Nat.zero_le _), Nat.sub_zero, hbound, o.min_bound, ← List.range_eq_range', hmap,
    collect_append]
  split
  · rw [collect_last, List.append_nil]
  · simp only [collect, List.append_nil]

theorem disassemble_bytes (h : o.offset ≤ data.length) :
    disassemble o (.bytes data) = (String.join ((lines o data).map (formatLine o.json)), none) := by
  simp only [disassemble, skip, if_pos h, Input.source, collect_take, Option.map_none]

theorem disassemble_past_end (h : data.length < o.offset) :
    disassemble o (.bytes data) =
      ("", some ⟨"offset " ++ Numeral.hex o.offset ++ " is past the end of the input (" ++
        Numeral.hex data.length ++ " bytes)", []⟩) := by
  simp only [disassemble, skip, if_neg (Nat.not_le.2 h)]

/-- The row of a line: its address and its word in columns, and its text. -/
def IsRow (row : String) (l : Line) : Prop :=
  ∃ address word, row = "0x" ++ address ++ ":  " ++ word ++ "  " ++ l.text ∧
    Numeral.IsColumn address l.address.toNat ∧ Numeral.IsColumn word l.word.toNat ∧
    word.length = 8

theorem isRow_textLine (l : Line) : IsRow (textLine l) l :=
  ⟨_, _, rfl, Numeral.isColumn_hex8 _, Numeral.isColumn_hex8 _,
    Numeral.length_hex8_of_lt l.word.isLt⟩

theorem newline_notMem_textLine {l : Line} (h : '\n' ∉ l.text.toList) :
    '\n' ∉ (textLine l).toList := by
  have hcolumn (n : Nat) := newline_notMem_of_plain (Text.plain_hex8 n)
  simp only [textLine, String.toList_append, List.mem_append, hcolumn, h, or_false]
  decide

end Program

/-- The bytes hold the words one after the other, each with its least significant byte first. -/
def Word.Stored (words : List Word) (data : List Byte) : Prop :=
  data.length = size * words.length ∧
    ∀ i (hi : i < words.length), littleEndian ((data.drop (size * i)).take size) = words[i].toNat

namespace Word

theorem toBytes_ofBytes (b₀ b₁ b₂ b₃ : Byte) :
    (ofBytes b₀ b₁ b₂ b₃).toBytes = [b₀, b₁, b₂, b₃] := by
  have hwhole (w : Word) : w.field 24 8 ++ w.field 16 8 ++ w.field 8 8 ++ w.field 0 8 = w := by
    simp (disch := decide) only [Word.field_append]
    exact w.field_whole
  obtain ⟨hrest, h₀⟩ := Field.append_inj (hwhole (ofBytes b₀ b₁ b₂ b₃))
  obtain ⟨hrest, h₁⟩ := Field.append_inj hrest
  obtain ⟨h₃, h₂⟩ := Field.append_inj hrest
  rw [toBytes, h₀, h₁, h₂, h₃]

theorem toBytes_eq_of_littleEndian {w : Word} {b₀ b₁ b₂ b₃ : Byte}
    (h : littleEndian [b₀, b₁, b₂, b₃] = w.toNat) : w.toBytes = [b₀, b₁, b₂, b₃] := by
  have hw : w = ofBytes b₀ b₁ b₂ b₃ := by
    rw [ofBytes_eq, h, BitVec.ofNat_toNat, BitVec.setWidth_eq]
  rw [hw, toBytes_ofBytes]

theorem Stored.eq_flatMap {words : List Word} {data : List Byte} (h : Stored words data) :
    data = words.flatMap toBytes := by
  induction words generalizing data with
  | nil => exact List.eq_nil_of_length_eq_zero h.1
  | cons w words ih =>
    obtain ⟨hlength, hwords⟩ := h
    match data, hlength with
    | b₀ :: b₁ :: b₂ :: b₃ :: rest, hlength =>
      have hfirst : w.toBytes = [b₀, b₁, b₂, b₃] :=
        toBytes_eq_of_littleEndian (hwords 0 (Nat.zero_lt_succ _))
      have hrest : Stored words rest := by
        refine ⟨?_, fun i hi => ?_⟩
        · simp only [List.length_cons, size] at hlength ⊢
          omega
        · exact hwords (i + 1) (Nat.succ_lt_succ hi)
      rw [List.flatMap_cons, hfirst, ← ih hrest]
      rfl

end Word

namespace Program

/-- Words on the command line are an input like a file that holds them. -/
theorem run_words {o : Options} {words : List Word} {path : String} {data : List Byte}
    {stdin stdin' : Input} {file file' : String → Except String Input} (hwords : words ≠ [])
    (hpath : path ≠ "-") (hstored : Word.Stored words data)
    (hfile : file' path = .ok (.bytes data)) :
    run { o with words := words } stdin file =
      run { o with words := [], input := some path } stdin' file' := by
  have hopen : openInput { o with words := words } stdin file = .ok (.bytes data) := by
    rw [hstored.eq_flatMap]
    cases words with
    | nil => contradiction
    | cons w words => rfl
  have hopen' : openInput { o with words := [], input := some path } stdin' file' =
      .ok (.bytes data) := by
    unfold openInput
    split <;> simp_all
  simp only [run, hopen, hopen']
  rfl

/-! ### The listing -/

/-- What the program does with bytes when it writes text. -/
theorem listing_spec (o : Options) (htext : o.json = false) (data : List Byte) :
    (data.length < o.offset →
      disassemble o (.bytes data) =
        ("", some ⟨"offset " ++ Numeral.hex o.offset ++ " is past the end of the input (" ++
          Numeral.hex data.length ++ " bytes)", []⟩)) ∧
    (o.offset ≤ data.length → ∃ rows : List String,
      disassemble o (.bytes data) = (String.join (rows.map (· ++ "\n")), none) ∧
      rows.length = o.limit ((data.length - o.offset) / Word.size) ∧
      ∀ i (hi : i < rows.length), '\n' ∉ rows[i].toList ∧ ∃ l : Line,
        l.Describes (wordAt data (o.offset + Word.size * i))
          (o.address + BitVec.ofNat 64 (Word.size * i)) o.decimal ∧ IsRow rows[i] l) ∧
    ∀ words path stdin stdin' file file', words ≠ [] → path ≠ "-" → Word.Stored words data →
      file' path = .ok (.bytes data) →
        run { o with words := words } stdin file =
          run { o with words := [], input := some path } stdin' file' := by
  refine ⟨disassemble_past_end, fun hoffset => ⟨(lines o data).map textLine, ?_, ?_, ?_⟩, ?_⟩
  · rw [disassemble_bytes hoffset, htext, List.map_map]
    rfl
  · simp only [lines, List.length_map, List.length_range]
  · intro i hi
    have hdescribes := Line.describes_ofWord (wordAt data (o.offset + Word.size * i))
      (o.address + BitVec.ofNat 64 (Word.size * i)) o.decimal
    have hrow : ((lines o data).map textLine)[i] = textLine (.ofWord
        (wordAt data (o.offset + Word.size * i))
        (o.address + BitVec.ofNat 64 (Word.size * i)) o.decimal) := by
      simp [lines]
    rw [hrow]
    exact ⟨newline_notMem_textLine (Line.newline_notMem_text hdescribes), _, hdescribes,
      isRow_textLine _⟩
  · intro words path stdin stdin' file file' hwords hpath hstored hfile
    exact run_words hwords hpath hstored hfile

/-- One word between a byte that is skipped and one that is left over, an offset that is too large,
and the same word on the command line. -/
theorem return_listing :
    (∃ rows : List String,
      disassemble ⟨none, [], 0, 1, none, false, false, 0⟩
          (.bytes [0xff, 0xc0, 0x03, 0x5f, 0xd6, 0xff]) =
        (String.join (rows.map (· ++ "\n")), none) ∧ rows.length = 1) ∧
    disassemble ⟨none, [], 0, 7, none, false, false, 0⟩
        (.bytes [0xff, 0xc0, 0x03, 0x5f, 0xd6, 0xff]) =
      ("", some ⟨"offset 0x7 is past the end of the input (0x6 bytes)", []⟩) ∧
    run ⟨none, [0xd65f03c0], 0, 0, none, false, false, 0⟩ (.bytes []) (fun _ => .ok (.bytes [])) =
      run ⟨some "ret.bin", [], 0, 0, none, false, false, 0⟩ (.bytes [])
        (fun _ => .ok (.bytes [0xc0, 0x03, 0x5f, 0xd6])) := by
  refine ⟨?_, ?_, ?_⟩
  · obtain ⟨rows, hwritten, hlength, -⟩ :=
      (listing_spec ⟨none, [], 0, 1, none, false, false, 0⟩ rfl
        [0xff, 0xc0, 0x03, 0x5f, 0xd6, 0xff]).2.1 (by decide)
    exact ⟨rows, hwritten, hlength⟩
  · exact (listing_spec ⟨none, [], 0, 7, none, false, false, 0⟩ rfl
      [0xff, 0xc0, 0x03, 0x5f, 0xd6, 0xff]).1 (by decide)
  · refine (listing_spec ⟨none, [], 0, 0, none, false, false, 0⟩ rfl
      [0xc0, 0x03, 0x5f, 0xd6]).2.2 [0xd65f03c0] "ret.bin" _ _ _ _ (by decide) (by decide) ?_ rfl
    exact ⟨rfl, by decide⟩

end Program

end A64
