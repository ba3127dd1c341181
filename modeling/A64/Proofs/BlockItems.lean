import A64.Block
import A64.Proofs.DecodeContract
import A64.Proofs.Listing

/-!
# Items of a block

The walk over a block from an offset on sees only the bytes from there on (`Disassembler.walk_add`).
So a block has an item for each whole word of its bytes, in order and at its address, and one more
for a partial word at the end (`decodeBlock_eq`). A stream over the same bytes yields the same
items, however its reads cut them (`Agree`): the same instruction or the same error, but for words
that are not allocated, which decode and have no text.
-/

namespace A64

variable {bytes : List Byte} {word : Word} {start address : Address} {decimal : Bool}

theorem exists_reserved_of_decode {e : DecodeError} (h : decode word address = .error e) :
    ∃ reason, e = .reserved word address reason := by
  obtain ⟨group, hgroup⟩ := Group.exists_ofWord? word
  simp only [decode, hgroup] at h
  split at h
  · cases h
  · rename_i reason _
    cases h
    exact ⟨reason, rfl⟩

theorem Instruction.wellFormed_of_decode {i : Instruction} (h : decode word address = .ok i) :
    i.WellFormed word address := by
  obtain ⟨d, hd, hgroup, hi⟩ := exists_meaning_of_decode h
  by_cases hunallocated : i.group = .unallocated
  · rw [hunallocated] at hd hgroup hi
    cases hd
    exact hi ▸ wellFormed_unallocated hgroup
  · exact hi ▸ wellFormed_of_meaning hgroup hunallocated hd

namespace Disassembler

variable {d : Disassembler} {bytes : List Byte} {start : Address} {offset : Nat}

theorem walk_of_le (h : bytes.length ≤ offset) : d.walk bytes start offset = [] := by
  rw [walk, if_neg (by omega)]

theorem walk_of_lt (h : offset < bytes.length) :
    d.walk bytes start offset =
      match d.decodeInstruction (bytes.drop offset) (start + BitVec.ofNat 64 offset) with
      | .ok i => .ok i.instruction :: d.walk bytes start (offset + i.size)
      | .error (.truncated address available) => [.error (.truncated address available)]
      | .error e => .error e :: d.walk bytes start (offset + d.minInstructionSize) := by
  rw [walk, if_pos h]
  split
  · rename_i hd
    rw [hd]
  · rename_i hd
    rw [hd]
  · rename_i e hother hd
    rw [hd]
    cases e with
    | truncated address available => exact absurd rfl (hother address available)
    | undecodable word address => rfl
    | reserved word address reason => rfl

/-- The walk from an offset on sees only the bytes from there on. -/
theorem walk_add (bytes : List Byte) (start : Address) (offset k : Nat) :
    d.walk bytes start (offset + k) =
      d.walk (bytes.drop offset) (start + BitVec.ofNat 64 offset) k := by
  induction hn : bytes.length - (offset + k) using Nat.strongRecOn generalizing k with
  | ind n ih =>
    have hlength : (bytes.drop offset).length = bytes.length - offset := List.length_drop
    by_cases h : offset + k < bytes.length
    · have hdrop : (bytes.drop offset).drop k = bytes.drop (offset + k) := List.drop_drop
      have haddress : start + BitVec.ofNat 64 offset + BitVec.ofNat 64 k =
          start + BitVec.ofNat 64 (offset + k) := by
        rw [BitVec.add_assoc, ← BitVec.ofNat_add]
      have hnext (size : Nat) (hsize : 0 < size) : d.walk bytes start (offset + k + size) =
          d.walk (bytes.drop offset) (start + BitVec.ofNat 64 offset) (k + size) := by
        rw [Nat.add_assoc]
        exact ih _ (by omega) (k + size) rfl
      have hin : k < (bytes.drop offset).length := by omega
      rw [walk_of_lt h, walk_of_lt hin, hdrop, haddress]
      split
      · rename_i i hd
        rw [hnext i.size (d.size_pos _ _ i hd)]
      · rfl
      · rw [hnext _ d.minInstructionSize_pos]
    · have hend : (bytes.drop offset).length ≤ k := by omega
      rw [walk_of_le (by omega), walk_of_le hend]

end Disassembler

/-- The item of a partial word behind the whole ones. -/
def blockTail (bytes : List Byte) (start : Address) : List (Except DecodeError Instruction) :=
  if bytes.length % Word.size = 0 then []
  else [.error (.truncated (start + BitVec.ofNat 64 (Word.size * (bytes.length / Word.size)))
    (bytes.length % Word.size))]

theorem wordAt_zero (b₀ b₁ b₂ b₃ : Byte) (rest : List Byte) :
    wordAt (b₀ :: b₁ :: b₂ :: b₃ :: rest) 0 = .ofBytes b₀ b₁ b₂ b₃ :=
  (Word.ofBytes_eq b₀ b₁ b₂ b₃).symm

theorem address_succ (start : Address) (k : Nat) :
    start + BitVec.ofNat 64 (Word.size * (k + 1)) =
      start + BitVec.ofNat 64 Word.size + BitVec.ofNat 64 (Word.size * k) := by
  rw [BitVec.add_assoc, ← BitVec.ofNat_add, Nat.mul_succ, Nat.add_comm]

/-- One step of the walk over a block: as long as there are bytes the next word is decoded, whether
it decodes or not the walk goes on behind it, and only bytes that are too few end it. -/
theorem decodeBlock_step (h : bytes ≠ []) :
    decodeBlock bytes start =
      match decodeBytes bytes start with
      | .error (.truncated a available) => [.error (.truncated a available)]
      | item => item ::
        decodeBlock (bytes.drop Word.size) (start + BitVec.ofNat 64 Word.size) := by
  have hbytes : 0 < bytes.length := List.length_pos_iff.2 h
  have hstart : start + BitVec.ofNat 64 0 = start := BitVec.add_zero start
  have hnext : wordDisassembler.walk bytes start (0 + Word.size) =
      decodeBlock (bytes.drop Word.size) (start + BitVec.ofNat 64 Word.size) :=
    (congrArg _ (Nat.zero_add _)).trans (Disassembler.walk_add bytes start Word.size 0)
  rw [decodeBlock, Disassembler.disassembleBlock, Disassembler.walk_of_lt hbytes, List.drop_zero,
    hstart]
  cases hd : decodeBytes bytes start with
  | ok i =>
    have hinstruction : wordDisassembler.decodeInstruction bytes start = .ok ⟨i, Word.size⟩ :=
      congrArg (Except.map _) hd
    rw [hinstruction, ← hnext]
  | error e =>
    have herror : wordDisassembler.decodeInstruction bytes start = .error e :=
      congrArg (Except.map _) hd
    rw [herror, ← hnext]
    cases e <;> rfl

theorem decodeBlock_nil (start : Address) : decodeBlock [] start = [] :=
  Disassembler.walk_of_le (Nat.le_refl 0)

theorem decodeBlock_word (b₀ b₁ b₂ b₃ : Byte) (rest : List Byte) (start : Address) :
    decodeBlock (b₀ :: b₁ :: b₂ :: b₃ :: rest) start =
      decode (.ofBytes b₀ b₁ b₂ b₃) start ::
        decodeBlock rest (start + BitVec.ofNat 64 Word.size) := by
  have hrest : (b₀ :: b₁ :: b₂ :: b₃ :: rest).drop Word.size = rest := rfl
  rw [decodeBlock_step (List.cons_ne_nil _ _), decodeBytes, hrest]
  cases hd : decode (.ofBytes b₀ b₁ b₂ b₃) start with
  | ok i => rfl
  | error e =>
    obtain ⟨reason, rfl⟩ := exists_reserved_of_decode hd
    rfl

/-- Bytes that are too few for a word are the last item. -/
theorem decodeBlock_short {tail : List Byte} (hpos : 0 < tail.length)
    (hshort : tail.length < Word.size) (start : Address) :
    decodeBlock tail start = [.error (.truncated start tail.length)] := by
  have hread : decodeBytes tail start = .error (.truncated start tail.length) := by
    rcases tail with _ | ⟨b₀, _ | ⟨b₁, _ | ⟨b₂, _ | ⟨b₃, rest⟩⟩⟩⟩
    · rfl
    · rfl
    · rfl
    · rfl
    · simp only [List.length_cons, Word.size] at hshort
      omega
  rw [decodeBlock_step (List.ne_nil_of_length_pos hpos), hread]

/-- A block is decoded word after word, each at its address, and a partial word is the last
item. -/
theorem decodeBlock_eq (bytes : List Byte) (start : Address) :
    decodeBlock bytes start =
      (List.range (bytes.length / Word.size)).map (fun k =>
        decode (wordAt bytes (Word.size * k)) (start + BitVec.ofNat 64 (Word.size * k))) ++
      blockTail bytes start := by
  have hfirst (start : Address) : start + BitVec.ofNat 64 (Word.size * 0) = start :=
    BitVec.add_zero start
  induction hn : bytes.length using Nat.strongRecOn generalizing bytes start with
  | ind n ih =>
    subst hn
    by_cases hshort : bytes.length < Word.size
    · rw [blockTail, Nat.mod_eq_of_lt hshort, Nat.div_eq_of_lt hshort, hfirst]
      by_cases hnil : bytes.length = 0
      · rw [List.length_eq_zero_iff.1 hnil]
        exact decodeBlock_nil start
      · rw [if_neg hnil, decodeBlock_short (by omega) hshort]
        rfl
    · obtain ⟨b₀, b₁, b₂, b₃, rest, rfl⟩ :
          ∃ b₀ b₁ b₂ b₃ rest, bytes = b₀ :: b₁ :: b₂ :: b₃ :: rest := by
        rcases bytes with _ | ⟨b₀, _ | ⟨b₁, _ | ⟨b₂, _ | ⟨b₃, rest⟩⟩⟩⟩
        · simp [Word.size] at hshort
        · simp [Word.size] at hshort
        · simp [Word.size] at hshort
        · simp [Word.size] at hshort
        · exact ⟨b₀, b₁, b₂, b₃, rest, rfl⟩
      have hlength : (b₀ :: b₁ :: b₂ :: b₃ :: rest).length = rest.length + Word.size := rfl
      have hwords : (rest.length + Word.size) / Word.size = rest.length / Word.size + 1 :=
        Nat.add_div_right _ (by decide)
      have htail : blockTail (b₀ :: b₁ :: b₂ :: b₃ :: rest) start =
          blockTail rest (start + BitVec.ofNat 64 Word.size) := by
        rw [blockTail, blockTail, hlength, Nat.add_mod_right, hwords, address_succ]
      have hrest := ih rest.length (by rw [hlength]; exact Nat.lt_add_of_pos_right (by decide)) rest
        (start + BitVec.ofNat 64 Word.size) rfl
      rw [decodeBlock_word, hrest, htail, hlength, hwords, List.range_succ_eq_map, List.map_cons,
        List.map_map, List.cons_append, hfirst, Nat.mul_zero, wordAt_zero]
      simp only [Function.comp_def, Nat.succ_eq_add_one, address_succ]
      rfl

theorem length_decodeBlock (bytes : List Byte) (start : Address) :
    (decodeBlock bytes start).length = (bytes.length + 3) / Word.size := by
  have htail : (blockTail bytes start).length = if bytes.length % Word.size = 0 then 0 else 1 := by
    rw [blockTail]
    split
    · rfl
    · rfl
  rw [decodeBlock_eq, List.length_append, List.length_map, List.length_range, htail]
  by_cases hwhole : bytes.length % Word.size = 0
  · rw [if_pos hwhole]
    simp only [Word.size] at hwhole ⊢
    omega
  · rw [if_neg hwhole]
    simp only [Word.size] at hwhole ⊢
    omega

theorem getElem?_decodeBlock_of_lt {k : Nat} (hk : k < bytes.length / Word.size) :
    (decodeBlock bytes start)[k]? =
      some (decode (wordAt bytes (Word.size * k))
        (start + BitVec.ofNat 64 (Word.size * k))) := by
  rw [decodeBlock_eq, List.getElem?_append_left (by simpa using hk), List.getElem?_map,
    List.getElem?_range hk]
  rfl

theorem getElem?_decodeBlock_of_le {k : Nat} (hk : bytes.length / Word.size ≤ k) :
    (decodeBlock bytes start)[k]? =
      (blockTail bytes start)[k - bytes.length / Word.size]? := by
  rw [decodeBlock_eq, List.getElem?_append_right (by simpa using hk), List.length_map,
    List.length_range]

/-! ### Items of a stream -/

/-- A stream and a block say the same about a place. -/
inductive Agree : Except DecodeError Instruction → Except StreamError Line → Prop
  | decoded {i : Instruction} {l : Line} (allocated : i.group ≠ .unallocated)
      (address_eq : l.address = i.address) (word_eq : l.word = i.word)
      (result_eq : l.result = .ok i) : Agree (.ok i) (.ok l)
  /-- The word is not allocated: the block has an instruction without a meaning, and the stream says
  that it has no text. -/
  | unallocated {i : Instruction} {l : Line} (unallocated : i.group = .unallocated)
      (address_eq : l.address = i.address) (word_eq : l.word = i.word)
      (result_eq : l.result = .error (.render (.undefinedOperation i.word))) :
      Agree (.ok i) (.ok l)
  | undecoded {e : DecodeError} {l : Line} (address_eq : l.address = e.address)
      (word_eq : some l.word = e.word?) (result_eq : l.result = .error (.decode e)) :
      Agree (.error e) (.ok l)
  | truncated (address : Address) (available : Nat) :
      Agree (.error (.truncated address available))
        (.error (.decode (.truncated address available)))

theorem agree_ofWord (word : Word) (address : Address) (decimal : Bool) :
    Agree (decode word address) (.ok (.ofWord word address decimal)) := by
  have hline := Line.describes_ofWord word address decimal
  cases hd : decode word address with
  | error e =>
    obtain ⟨reason, rfl⟩ := exists_reserved_of_decode hd
    exact .undecoded hline.address_eq (congrArg some hline.word_eq) (hline.undecoded _ hd)
  | ok i =>
    have hi := Instruction.wellFormed_of_decode hd
    have haddress := hline.address_eq.trans hi.address_eq.symm
    have hword := hline.word_eq.trans hi.word_eq.symm
    by_cases hgroup : i.group = .unallocated
    · have hrender : i.render decimal = .error (.undefinedOperation i.word) := by
        simp [Instruction.render, Instruction.isUndefined, hi.undefined.2 hgroup]
      exact .unallocated hgroup haddress hword (hline.unrendered i _ hd hrender)
    · obtain ⟨text, htext⟩ := hi.text hgroup decimal
      exact .decoded hgroup haddress hword (hline.rendered i text hd htext).1

/-- Item by item, a stream over the bytes of a block agrees with the block. -/
theorem agree_stream {source : Source} (h : source.transcript = ⟨bytes, .endOfInput⟩)
    (start : Address) (decimal : Bool) (k : Nat) :
    Option.Rel Agree (decodeBlock bytes start)[k]?
      ((Stream.ofSource source start decimal).after k).next.1 := by
  have hwords : source.transcript.words = bytes.length / Word.size := by rw [h]; rfl
  rcases Nat.lt_trichotomy k (bytes.length / Word.size) with hlt | rfl | hgt
  · have hat := Stream.at_after source start decimal (show k ≤ _ by omega)
    have hword : source.transcript.word k = wordAt bytes (Word.size * k) := by rw [h]; rfl
    rw [getElem?_decodeBlock_of_lt hlt, (hat.next_word (by omega)).1, hat.address_eq, hword]
    exact .some (agree_ofWord _ _ _)
  · have hat := Stream.at_after source start decimal (Nat.le_of_eq hwords.symm)
    rw [← hwords] at hat ⊢
    rw [hat.next_last.1, hat.address_eq, hwords, getElem?_decodeBlock_of_le (Nat.le_refl _),
      Nat.sub_self, blockTail, Transcript.last, h]
    dsimp only
    split
    · exact .none
    · exact .some (.truncated _ _)
  · have hnone : (decodeBlock bytes start)[k]? = none := by
      rw [List.getElem?_eq_none_iff, length_decodeBlock]
      simp only [Word.size] at hgt ⊢
      omega
    rw [hnone, Stream.next_of_finished
      (Stream.finished_after source start decimal (hwords.trans_lt hgt)).1]
    exact .none

/-- The reads of the source neither fail nor deliver nothing while there are bytes. -/
def Source.Steady (s : Source) : Prop :=
  ∀ e ∈ s.events, e = .interrupted ∨ ∃ n, 0 < n ∧ e = .upTo n

/-- A steady source delivers all its bytes, in whatever parts. -/
theorem Source.Steady.transcript_eq {s : Source} (h : s.Steady) :
    s.transcript = ⟨s.data, .endOfInput⟩ := by
  obtain ⟨data, events⟩ := s
  suffices hreads : ∀ missing, 0 < missing → reads missing data events = ⟨data, .endOfInput⟩ from
    hreads _ (by decide)
  induction events generalizing data with
  | nil => exact fun _ _ => rfl
  | cons e events ih =>
    intro missing hmissing
    have hrest (data : List Byte) := ih data fun e' he' => h e' (List.mem_cons_of_mem _ he')
    rcases h e List.mem_cons_self with rfl | ⟨n, hn, rfl⟩
    · exact hrest data missing hmissing
    · simp only [reads]
      split
      · rename_i hnil
        have hdata : data = [] := by
          have hmin : min n missing ≠ 0 := by omega
          simpa [List.take_eq_nil_iff, hmin] using hnil
        rw [hdata]
      · have hpart := Source.take_append_drop_length data (min n missing)
        have hlen : (data.take (min n missing)).length ≤ missing := by
          rw [List.length_take]
          omega
        -- A complete word starts the next one, so some byte is always missing.
        have hmissing' : 0 < if (data.take (min n missing)).length = missing then Word.size
            else missing - (data.take (min n missing)).length := by
          split
          · decide
          · omega
        rw [hrest _ _ hmissing']
        exact congrArg (Transcript.mk · .endOfInput) hpart

theorem DecodeError.need_size : ": need " ++ (Numeral.decimal Word.size ++ " bytes, have ") =
    ": need 4 bytes, have " := by decide +kernel

theorem DecodeError.message_truncated (address : Address) (available : Nat) :
    (truncated address available).message = "truncated instruction at " ++
      Numeral.hex address.toNat ++ ": need 4 bytes, have " ++ Numeral.decimal available := by
  rw [← need_size, ← String.append_assoc, ← String.append_assoc]
  rfl

/-- The items of a block: one for each four bytes, whole words first, each decoded at its own
address whatever became of the words before it, and then what is left of the last one. A stream
whose source delivers the same bytes yields the same items. -/
theorem decodeBlock_items (bytes : List Byte) (start : Address) :
    (decodeBlock bytes start).length = (bytes.length + 3) / Word.size ∧
    (∀ k < bytes.length / Word.size, (decodeBlock bytes start)[k]? =
      some (decode (wordAt bytes (Word.size * k)) (start + BitVec.ofNat 64 (Word.size * k)))) ∧
    (0 < bytes.length % Word.size → ∃ e,
      (decodeBlock bytes start)[bytes.length / Word.size]? = some (.error e) ∧
        e = .truncated (start + BitVec.ofNat 64 (Word.size * (bytes.length / Word.size)))
          (bytes.length % Word.size) ∧
        e.message = "truncated instruction at " ++ Numeral.hex e.address.toNat ++
          ": need 4 bytes, have " ++ Numeral.decimal (bytes.length % Word.size)) ∧
    (bytes ≠ [] → decodeBlock bytes start =
      match decodeBytes bytes start with
      | .error (.truncated a available) => [.error (.truncated a available)]
      | item => item ::
        decodeBlock (bytes.drop Word.size) (start + BitVec.ofNat 64 Word.size)) ∧
    ∀ source decimal, source.transcript = ⟨bytes, .endOfInput⟩ → ∀ k,
      Option.Rel Agree (decodeBlock bytes start)[k]?
        ((Stream.ofSource source start decimal).after k).next.1 := by
  refine ⟨length_decodeBlock bytes start, fun k hk => getElem?_decodeBlock_of_lt hk, ?_,
    decodeBlock_step, fun source decimal h k => agree_stream h start decimal k⟩
  intro htail
  rw [getElem?_decodeBlock_of_le (Nat.le_refl _), Nat.sub_self, blockTail, if_neg (by omega)]
  exact ⟨_, rfl, rfl, DecodeError.message_truncated _ _⟩

/-- A word, a reserved word, a word that is not allocated and a byte, which a source delivers in
parts. -/
theorem shortReads_agree :
    let bytes : List Byte := [0x1f, 0x20, 0x03, 0xd5, 0, 0, 0x80, 0x91, 0, 0, 0, 0, 0xaa]
    let source : Source := ⟨bytes, [.upTo 1, .interrupted, .upTo 2, .upTo 9, .upTo 3]⟩
    source.transcript = ⟨bytes, .endOfInput⟩ ∧
      (decodeBlock bytes 0x1000).length = 4 ∧
      (decodeBlock bytes 0x1000)[1]? = some (decode 0x91800000 0x1004) ∧
      (decodeBlock bytes 0x1000)[3]? = some (.error (.truncated 0x100c 1)) ∧
      ∀ k, Option.Rel Agree (decodeBlock bytes 0x1000)[k]?
        ((Stream.ofSource source 0x1000 false).after k).next.1 := by
  intro bytes source
  have hsteady : source.Steady := by
    simp [Source.Steady, source]
  have hsource := hsteady.transcript_eq
  obtain ⟨hlength, hword, htail, -, hstream⟩ := decodeBlock_items bytes 0x1000
  obtain ⟨e, he, rfl, -⟩ := htail (by decide)
  have hwords : bytes.length / Word.size = 3 := by decide
  have hrest : bytes.length % Word.size = 1 := by decide
  have haddress : (0x1000 : Address) + BitVec.ofNat 64 (Word.size * 3) = 0x100c := by decide
  rw [hwords, hrest, haddress] at he
  exact ⟨hsource, hlength.trans (by decide), hword 1 (by decide), he,
    hstream source false hsource⟩

end A64
