import A64.Proofs.Mnemonic
import A64.Stream

/-!
# Runs of a stream

What a stream yields depends only on its transcript: the bytes that its source delivers before the
first read that delivers nothing or fails, and which of the two it was. However the reads cut these
bytes, each whole word of them is yielded once, in order and at its address; a partial word at the
end of the input or a failure is reported once; after that there is nothing.
-/

namespace A64

/-- How the reads of a source end. -/
inductive Ending where
  | endOfInput
  | failure (reason : String)

/-- The bytes a source delivers before its reads end, and how they do. -/
structure Transcript where
  bytes : List Byte
  ending : Ending

namespace Source

/-- The transcript of a source whose next read asks for `missing` bytes, and every later one for
what is then missing of a word. Reads after the events deliver all there is. -/
def reads (missing : Nat) (data : List Byte) : List ReadEvent → Transcript
  | [] => ⟨data, .endOfInput⟩
  | .interrupted :: events => reads missing data events
  | .failure reason :: _ => ⟨[], .failure reason⟩
  | .upTo n :: events =>
    let part := data.take (min n missing)
    if part = [] then ⟨[], .endOfInput⟩
    else
      let missing := if part.length = missing then Word.size else missing - part.length
      let rest := reads missing (data.drop part.length) events
      ⟨part ++ rest.bytes, rest.ending⟩

/-- The transcript of a source that is read word by word. -/
def transcript (s : Source) : Transcript := reads Word.size s.data s.events

end Source

/-- The number with the given bytes, least significant first. -/
def littleEndian : List Byte → Nat
  | [] => 0
  | b :: rest => b.toNat + 256 * littleEndian rest

namespace Transcript

variable (t : Transcript)

def words : Nat := t.bytes.length / Word.size

def word (k : Nat) : Word :=
  BitVec.ofNat 32 (littleEndian ((t.bytes.drop (Word.size * k)).take Word.size))

/-- What is reported after the whole words, with the address that follows them. -/
def last (address : Address) : Option (Except StreamError Line) :=
  match t.ending with
  | .failure reason => some (.error (.read reason))
  | .endOfInput =>
    if t.bytes.length % Word.size = 0 then none
    else some (.error (.decode (.truncated address (t.bytes.length % Word.size))))

end Transcript

/-- The line is the word at the address, decoded and then rendered. -/
structure Line.Describes (l : Line) (word : Word) (address : Address) (decimal : Bool) : Prop where
  word_eq : l.word = word
  address_eq : l.address = address
  undecoded : ∀ e, decode word address = .error e → l.result = .error (.decode e)
  unrendered : ∀ i e, decode word address = .ok i → i.render decimal = .error e →
    l.result = .error (.render e)
  rendered : ∀ i text, decode word address = .ok i → i.render decimal = .ok text →
    l.result = .ok i ∧ l.text = text
  /-- The placeholder stands exactly for the words without a text. -/
  placeholder : l.text = Text.placeholder word ↔ ∃ e, l.result = .error e

/-- The stream after `k` calls of `next`. -/
def Stream.after (s : Stream) : Nat → Stream
  | 0 => s
  | k + 1 => (s.after k).next.2

namespace Transcript

variable (t : Transcript) (need : Nat)

/-- What `need` bytes asked of the transcript come to. -/
def front : Except String (List Byte) :=
  if need ≤ t.bytes.length then .ok (t.bytes.take need)
  else
    match t.ending with
    | .endOfInput => .ok t.bytes
    | .failure reason => .error reason

def drop : Transcript := ⟨t.bytes.drop need, t.ending⟩

theorem front_append {part : List Byte} (h : part.length ≤ need) :
    front ⟨part ++ t.bytes, t.ending⟩ need =
      (front t (need - part.length)).map (part ++ ·) := by
  have hle : need ≤ (part ++ t.bytes).length ↔ need - part.length ≤ t.bytes.length := by
    rw [List.length_append]
    omega
  simp only [front, hle]
  split
  · rw [List.take_append, List.take_of_length_le h]
    rfl
  · cases t.ending <;> rfl

end Transcript

namespace Source

theorem fill_zero (data : List Byte) (events : List ReadEvent) :
    fill data 0 events = (.ok [], ⟨data, events⟩) := by
  cases events <;> simp [fill]

/-- Reading `need` bytes yields the front of the transcript and, if they are all there, leaves the
rest of it to be read word by word. -/
theorem fill_spec (events : List ReadEvent) {need : Nat} (hneed : 0 < need) (data : List Byte) :
    (fill data need events).1 = (reads need data events).front need ∧
      (need ≤ (reads need data events).bytes.length →
        (fill data need events).2.transcript = (reads need data events).drop need) := by
  induction events generalizing need data with
  | nil =>
    refine ⟨?_, fun _ => rfl⟩
    show .ok (data.take need) = Transcript.front ⟨data, .endOfInput⟩ need
    unfold Transcript.front
    split
    · rfl
    · rename_i hlt
      exact congrArg Except.ok (List.take_of_length_le (Nat.le_of_not_le hlt))
  | cons e events ih =>
    have hne : need ≠ 0 := by omega
    cases e with
    | interrupted => simpa [fill, reads, hne] using ih hneed data
    | failure reason => simp [fill, reads, Transcript.front, hne]
    | upTo n =>
      simp only [fill, reads, hne, ↓reduceIte]
      generalize hpart : data.take (min n need) = part
      have hlen : part.length ≤ need := by
        rw [← hpart, List.length_take]
        omega
      by_cases hnil : part = []
      · simp [hnil, Transcript.front, hne]
      · rw [if_neg hnil, if_neg hnil]
        have hpos : 0 < part.length := List.length_pos_iff.2 hnil
        rw [Transcript.front_append _ _ hlen]
        by_cases hfull : part.length = need
        · -- The word is complete: the remaining events belong to the next one.
          rw [if_pos hfull, hfull, Nat.sub_self, fill_zero]
          refine ⟨by simp [Transcript.front, Except.map], fun _ => ?_⟩
          simp only [Transcript.drop, transcript, ← hfull, List.drop_left]
        · rw [if_neg hfull]
          obtain ⟨hfront, hdrop⟩ := ih (show 0 < need - part.length by omega)
            (data.drop part.length)
          generalize fill (data.drop part.length) (need - part.length) events = filled
            at hfront hdrop
          obtain ⟨result, source⟩ := filled
          refine ⟨?_, fun hle => ?_⟩
          · rw [← hfront]
            cases result <;> rfl
          · rw [List.length_append] at hle
            have hrest := hdrop (by omega)
            simp only [Transcript.drop, List.drop_append, List.drop_of_length_le hlen,
              List.nil_append]
            cases result <;> exact hrest

theorem take_append_drop_length (data : List Byte) (n : Nat) :
    data.take n ++ data.drop (data.take n).length = data := by
  have htake : data.take (data.take n).length = data.take n := by simp
  calc data.take n ++ data.drop (data.take n).length
      = data.take (data.take n).length ++ data.drop (data.take n).length := by rw [htake]
    _ = data := List.take_append_drop _ data

theorem reads_bytes_prefix (missing : Nat) (data : List Byte) (events : List ReadEvent) :
    (reads missing data events).bytes <+: data := by
  induction events generalizing missing data with
  | nil => exact List.prefix_rfl
  | cons e events ih =>
    cases e with
    | interrupted => exact ih missing data
    | failure reason => exact List.nil_prefix
    | upTo n =>
      simp only [reads]
      split
      · exact List.nil_prefix
      · refine ((List.prefix_append_right_inj _).2 (ih _ _)).trans ?_
        exact ⟨[], (List.append_nil _).trans (take_append_drop_length _ _)⟩

end Source

/-- Four bytes make the word whose number they write with the least significant byte first. -/
theorem Word.ofBytes_eq (b₀ b₁ b₂ b₃ : Byte) :
    Word.ofBytes b₀ b₁ b₂ b₃ = BitVec.ofNat 32 (littleEndian [b₀, b₁, b₂, b₃]) := by
  have h₀ := b₀.toNat_lt
  have h₁ := b₁.toNat_lt
  have h₂ := b₂.toNat_lt
  have h₃ := b₃.toNat_lt
  apply BitVec.eq_of_toNat_eq
  simp only [ofBytes, BitVec.toNat_append, UInt8.toNat_toBitVec, littleEndian,
    BitVec.toNat_ofNat]
  rw [← Nat.shiftLeft_add_eq_or_of_lt h₂, ← Nat.shiftLeft_add_eq_or_of_lt h₁,
    ← Nat.shiftLeft_add_eq_or_of_lt h₀]
  simp only [Nat.shiftLeft_eq]
  omega

theorem Line.describes_ofWord (word : Word) (address : Address) (decimal : Bool) :
    (Line.ofWord word address decimal).Describes word address decimal := by
  unfold Line.ofWord
  cases hd : decode word address with
  | error e => constructor <;> simp [hd]
  | ok i =>
    cases hr : i.render decimal with
    | error e => constructor <;> grind
    | ok text =>
      obtain ⟨texts, -, htext⟩ := Instruction.exists_texts_of_render hr
      have hne : text ≠ Text.placeholder word := htext ▸ Text.line_ne_placeholder _ _ _
      constructor <;> grind

namespace Stream

variable {s : Stream}

theorem next_of_finished (h : s.finished = true) : s.next = (none, s) := by
  rw [next, if_pos h]

theorem next_of_word {b₀ b₁ b₂ b₃ : Byte} (hrunning : s.finished = false)
    (h : s.source.next.1 = .ok [b₀, b₁, b₂, b₃]) :
    s.next = (some (.ok (.ofWord (.ofBytes b₀ b₁ b₂ b₃) s.address s.decimal)),
      { s with source := s.source.next.2, address := s.address + BitVec.ofNat 64 Word.size }) := by
  rw [next, if_neg (Bool.eq_false_iff.1 hrunning)]
  generalize s.source.next = r at h ⊢
  obtain ⟨result, source⟩ := r
  cases h
  rfl

theorem next_of_error {reason : String} (hrunning : s.finished = false)
    (h : s.source.next.1 = .error reason) :
    s.next = (some (.error (.read reason)),
      { s with source := s.source.next.2, finished := true }) := by
  rw [next, if_neg (Bool.eq_false_iff.1 hrunning)]
  generalize s.source.next = r at h ⊢
  obtain ⟨result, source⟩ := r
  cases h
  rfl

theorem next_of_part {part : List Byte} (hrunning : s.finished = false)
    (h : s.source.next.1 = .ok part) (hlt : part.length < Word.size) :
    s.next = (if part.length = 0 then none
        else some (.error (.decode (.truncated s.address part.length))),
      { s with source := s.source.next.2, finished := true }) := by
  rw [next, if_neg (Bool.eq_false_iff.1 hrunning)]
  generalize s.source.next = r at h ⊢
  obtain ⟨result, source⟩ := r
  cases h
  match part, hlt with
  | [], _ | [_], _ | [_, _], _ | [_, _, _], _ => rfl
  | _ :: _ :: _ :: _ :: rest, hlt =>
    have hlong : Word.size ≤ rest.length + 4 := Nat.le_add_left _ _
    exact absurd hlt (Nat.not_lt.2 hlong)

/-- After `k` calls, all of which yielded a word, `k` words of the transcript are behind the
stream. -/
structure At (s : Stream) (t : Transcript) (base : Address) (decimal : Bool) (k : Nat) : Prop where
  running : s.finished = false
  address_eq : s.address = base + BitVec.ofNat 64 (Word.size * k)
  decimal_eq : s.decimal = decimal
  transcript_eq : s.source.transcript = t.drop (Word.size * k)

variable {t : Transcript} {base : Address} {decimal : Bool} {k : Nat}

theorem At.source_next (h : s.At t base decimal k) :
    s.source.next.1 = (t.drop (Word.size * k)).front Word.size ∧
      (Word.size ≤ (t.drop (Word.size * k)).bytes.length →
        s.source.next.2.transcript = t.drop (Word.size * (k + 1))) := by
  obtain ⟨hfront, hdrop⟩ := Source.fill_spec s.source.events (show 0 < Word.size by decide)
    s.source.data
  have ht : Source.reads Word.size s.source.data s.source.events = t.drop (Word.size * k) :=
    h.transcript_eq
  rw [ht] at hfront hdrop
  refine ⟨hfront, fun hle => (hdrop hle).trans ?_⟩
  simp only [Transcript.drop, List.drop_drop, Nat.mul_add, Nat.mul_one]

theorem At.next_word (h : s.At t base decimal k) (hk : k < t.words) :
    s.next.1 = some (.ok (.ofWord (t.word k) s.address decimal)) ∧
      s.next.2.At t base decimal (k + 1) := by
  have hlen : Word.size ≤ (t.drop (Word.size * k)).bytes.length := by
    simp only [Transcript.drop, Transcript.words, Word.size, List.length_drop] at hk ⊢
    omega
  obtain ⟨hfront, hdrop⟩ := h.source_next
  have hrest := hdrop hlen
  rw [Transcript.front, if_pos hlen] at hfront
  -- The four bytes of the word, by name.
  obtain ⟨b₀, b₁, b₂, b₃, hbytes⟩ : ∃ b₀ b₁ b₂ b₃ : Byte,
      (t.drop (Word.size * k)).bytes.take Word.size = [b₀, b₁, b₂, b₃] := by
    have htake : ((t.drop (Word.size * k)).bytes.take Word.size).length = 4 :=
      List.length_take_of_le hlen
    match (t.drop (Word.size * k)).bytes.take Word.size, htake with
    | [b₀, b₁, b₂, b₃], _ => exact ⟨b₀, b₁, b₂, b₃, rfl⟩
  have hword : t.word k = Word.ofBytes b₀ b₁ b₂ b₃ := by
    rw [Word.ofBytes_eq, ← hbytes]
    rfl
  rw [hbytes] at hfront
  rw [next_of_word h.running hfront, hword]
  refine ⟨by rw [h.decimal_eq], h.running, ?_, h.decimal_eq, hrest⟩
  simp only [h.address_eq, BitVec.add_assoc, Nat.mul_add, Nat.mul_one, BitVec.ofNat_add]

theorem At.next_last (h : s.At t base decimal t.words) :
    s.next.1 = t.last s.address ∧ s.next.2.finished = true ∧ s.next.2.address = s.address := by
  obtain ⟨hfront, -⟩ := h.source_next
  have hlen : (t.bytes.drop (Word.size * t.words)).length = t.bytes.length % Word.size := by
    simp only [Transcript.words, Word.size, List.length_drop]
    omega
  have hlt : (t.drop (Word.size * t.words)).bytes.length < Word.size :=
    hlen.trans_lt (Nat.mod_lt _ (by decide))
  rw [Transcript.front, if_neg (Nat.not_le.2 hlt)] at hfront
  cases hending : t.ending with
  | failure reason =>
    simp only [Transcript.drop, hending] at hfront
    rw [next_of_error h.running hfront, Transcript.last, hending]
    exact ⟨rfl, rfl, rfl⟩
  | endOfInput =>
    simp only [Transcript.drop, hending] at hfront
    rw [next_of_part h.running hfront hlt, Transcript.last, hending, hlen]
    exact ⟨rfl, rfl, rfl⟩

end Stream

/-! ### Runs -/

namespace Stream

variable (source : Source) (base : Address) (decimal : Bool)

theorem at_after {k : Nat} (hk : k ≤ source.transcript.words) :
    ((ofSource source base decimal).after k).At source.transcript base decimal k := by
  induction k with
  | zero =>
    refine ⟨rfl, ?_, rfl, rfl⟩
    simp [after, ofSource]
  | succ k ih => exact ((ih (by omega)).next_word (by omega)).2

theorem finished_after {k : Nat} (hk : source.transcript.words < k) :
    ((ofSource source base decimal).after k).finished = true ∧
      ((ofSource source base decimal).after k).address =
        base + BitVec.ofNat 64 (Word.size * source.transcript.words) := by
  induction k with
  | zero => omega
  | succ k ih =>
    rcases Nat.lt_or_ge source.transcript.words k with hlt | hge
    · obtain ⟨hfinished, haddress⟩ := ih hlt
      rw [after, next_of_finished hfinished]
      exact ⟨hfinished, haddress⟩
    · have hwords : k = source.transcript.words := by omega
      subst hwords
      have hat := at_after source base decimal (Nat.le_refl _)
      exact ⟨hat.next_last.2.1, hat.next_last.2.2.trans hat.address_eq⟩

/-- Call by call, what a stream yields and where it stands. Its bytes are the first ones of the
data; each whole word of them is described at its address, then the end is reported, and after that
there is nothing. -/
theorem run_spec :
    source.transcript.bytes <+: source.data ∧
      ∀ k, let s := (ofSource source base decimal).after k
        let words := source.transcript.words
        s.address = base + BitVec.ofNat 64 (Word.size * min k words) ∧
        (k < words → ∃ line, s.next.1 = some (.ok line) ∧
          line.Describes (source.transcript.word k) (base + BitVec.ofNat 64 (Word.size * k))
            decimal) ∧
        (k = words → s.next.1 =
          source.transcript.last (base + BitVec.ofNat 64 (Word.size * words))) ∧
        (words < k → s.next.1 = none) := by
  refine ⟨Source.reads_bytes_prefix _ _ _, fun k => ⟨?_, fun hk => ?_, ?_, fun hk => ?_⟩⟩
  · rcases Nat.lt_or_ge source.transcript.words k with hlt | hge
    · rw [Nat.min_eq_right (Nat.le_of_lt hlt)]
      exact (finished_after source base decimal hlt).2
    · rw [Nat.min_eq_left hge]
      exact (at_after source base decimal hge).address_eq
  · have hat := at_after source base decimal (Nat.le_of_lt hk)
    refine ⟨_, (hat.next_word hk).1, ?_⟩
    rw [hat.address_eq]
    exact Line.describes_ofWord _ _ _
  · rintro rfl
    have hat := at_after source base decimal (Nat.le_refl _)
    rw [hat.next_last.1, hat.address_eq]
  · rw [next_of_finished (finished_after source base decimal hk).1]

end Stream

end A64
