import A64.Proofs.DecodeContract
import A64.Proofs.JsonText
import A64.Proofs.Listing
import A64.Proofs.ReportReader

/-!
# Listings as JSON

The program writes the same lines as text and as JSON. Each line of JSON is one object
(`IsReport`): it has the numbers and the text of the row, and either the instruction, which is read
back from it with all slots for operands (`Report.instruction?`), or what is wrong with the word.
-/

namespace A64

/-- The fields of an object describe a line: its address, word and text, and either its instruction
or the description of its error. -/
structure IsReport (fields : List (String × Json)) (l : Line) : Prop where
  address : fields.lookup "address" = some (.num l.address.toNat)
  word : fields.lookup "word" = some (.num l.word.toNat)
  text : fields.lookup "text" = some (.str l.text)
  instruction : ∀ i, l.result = .ok i →
    fields.map Prod.fst = ["address", "word", "text", "instruction"] ∧
      i.word = l.word ∧ i.address = l.address ∧
      (fields.lookup "instruction").bind Report.instruction? = some i
  error : ∀ e, l.result = .error e →
    fields.map Prod.fst = ["address", "word", "text", "error"] ∧
      fields.lookup "error" = some (.str e.message)

namespace Line.Describes

variable {l : Line} {word : Word} {address : Address} {decimal : Bool}

theorem decode_eq (h : l.Describes word address decimal) {i : Instruction} (hi : l.result = .ok i) :
    decode word address = .ok i := by
  cases hd : decode word address with
  | error e =>
    rw [h.undecoded e hd] at hi
    cases hi
  | ok j =>
    cases hr : j.render decimal with
    | error e =>
      rw [h.unrendered j e hd hr] at hi
      cases hi
    | ok text =>
      rw [(h.rendered j text hd hr).1] at hi
      exact congrArg Except.ok (Except.ok.inj hi)

theorem isReport (h : l.Describes word address decimal) :
    ∃ fields, Report.line l = .obj fields ∧ IsReport fields l := by
  refine ⟨_, rfl, ⟨rfl, rfl, rfl, fun i hi => ?_, fun e he => ?_⟩⟩
  · obtain ⟨d, -, -, heq⟩ := exists_meaning_of_decode (h.decode_eq hi)
    simp only [hi]
    refine ⟨rfl, ?_, ?_, Report.instruction?_instruction i⟩
    · rw [h.word_eq, heq]
    · rw [h.address_eq, heq]
  · simp only [he]
    exact ⟨rfl, rfl⟩

end Line.Describes

namespace Stream

variable {s : Stream} {l : Line}

/-- A call keeps the base of immediates, and a line that it yields is that of a word. -/
theorem next_spec (s : Stream) : s.next.2.decimal = s.decimal ∧
    ∀ l, s.next.1 = some (.ok l) → ∃ word address, l = .ofWord word address s.decimal := by
  by_cases hfinished : s.finished = true
  · rw [next_of_finished hfinished]
    exact ⟨rfl, fun l h => by cases h⟩
  · rw [next, if_neg hfinished]
    generalize s.source.next = r
    -- Four bytes make a line; a failed read and any other number of bytes do not.
    obtain ⟨_ | _ | ⟨b₀, _ | ⟨b₁, _ | ⟨b₂, _ | ⟨b₃, _ | ⟨b₄, bytes⟩⟩⟩⟩⟩, source⟩ := r <;>
      refine ⟨rfl, fun l h => ?_⟩ <;> cases h
    exact ⟨_, _, rfl⟩

theorem exists_ofWord_of_mem_take {n : Nat} (h : .ok l ∈ s.take n) :
    ∃ word address, l = .ofWord word address s.decimal := by
  induction n generalizing s with
  | zero => cases h
  | succ n ih =>
    obtain ⟨hdecimal, hnext⟩ := s.next_spec
    rw [take] at h
    generalize s.next = r at h hdecimal hnext
    obtain ⟨_ | item, rest⟩ := r
    · cases h
    · rcases List.mem_cons.1 h with hfirst | hrest
      · exact hnext l (congrArg some hfirst.symm)
      · obtain ⟨word, address, heq⟩ := ih hrest
        exact ⟨word, address, by rw [heq, ← hdecimal]⟩

end Stream

namespace Program

theorem mem_of_mem_collect {items : List (Except StreamError Line)} {l : Line}
    (h : l ∈ (collect items).1) : .ok l ∈ items := by
  fun_induction collect items with
  | case1 => cases h
  | case2 l' rest lines e hrest ih =>
    rcases List.mem_cons.1 h with rfl | hmem
    · exact List.mem_cons_self
    · exact List.mem_cons_of_mem _ (ih (by rw [hrest]; exact hmem))
  | case3 => cases h
  | case4 => cases h

/-- The lines of an input and how reading it ended do not depend on the format. -/
theorem exists_lines (o : Options) (input : Input) :
    ∃ (lines : List Line) (failure : Option Failure),
      (∀ json, disassemble { o with json := json } input =
        (String.join (lines.map (formatLine json)), failure)) ∧
      ∀ l ∈ lines, ∃ word address, l.Describes word address o.decimal := by
  cases hskip : skip o.offset input with
  | error f =>
    refine ⟨[], some f, fun json => ?_, fun l hl => ?_⟩
    · simp only [disassemble, hskip]
      rfl
    · cases hl
  | ok rest =>
    let bound := (o.count.getD (itemBound rest.source)).min (itemBound rest.source)
    let items := (Stream.ofSource rest.source o.address o.decimal).take bound
    refine ⟨(collect items).1, (disassemble o input).2, fun json => ?_, fun l hl => ?_⟩
    · simp only [disassemble, hskip]
      rfl
    · obtain ⟨word, address, rfl⟩ := Stream.exists_ofWord_of_mem_take (mem_of_mem_collect hl)
      exact ⟨word, address, Line.describes_ofWord _ _ _⟩

/-- The same run in both formats. -/
theorem exists_run_lines (o : Options) (stdin : Input) (file : String → Except String Input) :
    ∃ (lines : List Line) (exitCode : Nat) (stderr : Option String),
      (∀ json, run { o with json := json } stdin file =
        ⟨exitCode, String.join (lines.map (formatLine json)), stderr⟩) ∧
      ∀ l ∈ lines, ∃ word address, l.Describes word address o.decimal := by
  cases hopen : openInput o stdin file with
  | error f =>
    have hopen' (json : Bool) : openInput { o with json := json } stdin file = .error f := hopen
    refine ⟨[], 1, some f.text, fun json => ?_, fun l hl => ?_⟩
    · simp only [run, hopen']
      rfl
    · cases hl
  | ok input =>
    have hopen' (json : Bool) : openInput { o with json := json } stdin file = .ok input := hopen
    obtain ⟨lines, failure, hwritten, hdescribes⟩ := exists_lines o input
    cases failure with
    | none =>
      refine ⟨lines, 0, none, fun json => ?_, hdescribes⟩
      simp only [run, hopen', hwritten]
    | some f =>
      refine ⟨lines, 1, some f.text, fun json => ?_, hdescribes⟩
      simp only [run, hopen', hwritten]

/-- The two formats of a run: line by line the same addresses, words and texts. -/
theorem json_listing_spec (o : Options) (stdin : Input) (file : String → Except String Input) :
    ∃ (lines : List Line) (rows objects : List String) (exitCode : Nat) (stderr : Option String),
      run { o with json := false } stdin file =
        ⟨exitCode, String.join (rows.map (· ++ "\n")), stderr⟩ ∧
      run { o with json := true } stdin file =
        ⟨exitCode, String.join (objects.map (· ++ "\n")), stderr⟩ ∧
      rows.length = lines.length ∧ objects.length = lines.length ∧
      ∀ (k : Nat) (row object : String) (l : Line), rows[k]? = some row →
        objects[k]? = some object → lines[k]? = some l →
          (∃ word address, l.Describes word address o.decimal) ∧ '\n' ∉ row.toList ∧ IsRow row l ∧
            Text.Plain object ∧
              ∃ fields, Json.read? object = some (.obj fields) ∧ IsReport fields l := by
  obtain ⟨lines, exitCode, stderr, hrun, hdescribes⟩ := exists_run_lines o stdin file
  refine ⟨lines, lines.map textLine, lines.map fun l => (Report.line l).compact, exitCode, stderr,
    ?_, ?_, by simp, by simp, ?_⟩
  · rw [hrun, List.map_map]
    rfl
  · rw [hrun, List.map_map]
    rfl
  · intro k row object l hrow hobject hl
    rw [List.getElem?_map, hl, Option.map_some, Option.some.injEq] at hrow hobject
    subst hrow hobject
    obtain ⟨word, address, hl⟩ := hdescribes l (List.mem_of_getElem? hl)
    obtain ⟨fields, hfields, hreport⟩ := hl.isReport
    refine ⟨⟨word, address, hl⟩, newline_notMem_textLine (Line.newline_notMem_text hl),
      isRow_textLine l, Json.plain_compact _, fields, ?_, hreport⟩
    rw [Json.read?_compact, hfields]

end Program

end A64
