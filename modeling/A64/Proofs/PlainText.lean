import A64.Proofs.Token
import A64.Proofs.StreamRun

/-!
# Texts without control characters

What is written of operands has no control character. So the tab behind the mnemonic is the only one
in the text of an instruction, and the text of a word stays on its line.
-/

namespace A64

namespace Text

/-- The text has no control character. -/
def Plain (s : String) : Prop := ∀ c ∈ s.toList, 32 ≤ c.toNat

instance (s : String) : Decidable (Plain s) := inferInstanceAs (Decidable (∀ c ∈ s.toList, _))

variable {s t : String} {decimal : Bool}

@[simp] theorem plain_append : Plain (s ++ t) ↔ Plain s ∧ Plain t := by
  simp only [Plain, String.toList_append, List.forall_mem_append]

/-- A character of joined texts is one of a text or of what joins them. -/
theorem mem_or_exists_mem_of_mem_intercalate {sep : String} {l : List String} {c : Char}
    (h : c ∈ (sep.intercalate l).toList) : c ∈ sep.toList ∨ ∃ t ∈ l, c ∈ t.toList := by
  induction l with
  | nil => simp at h
  | cons t l ih =>
    cases l with
    | nil => exact .inr ⟨t, List.mem_cons_self, by simpa using h⟩
    | cons u l =>
      rw [String.intercalate_cons_cons, String.toList_append, String.toList_append,
        List.mem_append, List.mem_append] at h
      rcases h with (h | h) | h
      · exact .inr ⟨t, List.mem_cons_self, h⟩
      · exact .inl h
      · exact (ih h).imp_right fun ⟨v, hv, hc⟩ => ⟨v, List.mem_cons_of_mem _ hv, hc⟩

theorem forall_mem_intercalate {sep : String} {l : List String} {p : Char → Prop}
    (hsep : ∀ c ∈ sep.toList, p c) (h : ∀ t ∈ l, ∀ c ∈ t.toList, p c) :
    ∀ c ∈ (sep.intercalate l).toList, p c := by
  intro c hc
  rcases mem_or_exists_mem_of_mem_intercalate hc with hc | ⟨t, ht, hc⟩
  · exact hsep c hc
  · exact h t ht c hc

theorem plain_intercalate (sep : String) (hsep : Plain sep) {l : List String}
    (h : ∀ t ∈ l, Plain t) : Plain (sep.intercalate l) :=
  forall_mem_intercalate hsep h

theorem plain_of_codes (h : ∀ n ∈ codes s, 32 ≤ n) : Plain s := by
  intro c hc
  by_contra hsmall
  exact hsmall (h _ (mem_codes (by omega) hc))

theorem plain_word (h : s ∈ words) : Plain s := by
  refine plain_of_codes fun n hn => ?_
  have hword := (Bool.and_eq_true_iff.1 (isWord_codes h)).1
  have hcode := List.all_eq_true.1 hword n hn
  simp only [isWordCode, Bool.or_eq_true, Bool.and_eq_true, Nat.ble_eq, Nat.beq_eq] at hcode
  omega

theorem codes_name (op : Operation) :
    ∀ n ∈ codes op.name, 97 ≤ n ∧ n ≤ 122 ∨ 48 ≤ n ∧ n ≤ 57 ∨ n = 46 := by
  intro n hn
  obtain ⟨b, hb, rfl⟩ := List.mem_map.1 hn
  have hbyte := (bytes_name op).2 b hb
  simp only [isMnemonicByte, Bool.or_eq_true, Bool.and_eq_true, Nat.ble_eq, Nat.beq_eq,
    or_assoc] at hbyte
  exact hbyte

theorem plain_name (op : Operation) : Plain op.name :=
  plain_of_codes fun n hn => by have := codes_name op n hn; omega

theorem numberSign_notMem_name (op : Operation) : '#' ∉ op.name.toList :=
  fun hmem => absurd (codes_name op _ (mem_codes (by decide) hmem)) (by decide)

theorem mem_words_of_registerName {r : Register} (h : registerName r = .ok s) : s ∈ words := by
  unfold registerName at h
  split at h <;> cases h
  rename_i hname
  exact List.mem_append_left _ (List.mem_of_getElem? hname)

theorem mem_words_of_mapM {rs : List Register} {names : List String}
    (h : rs.mapM registerName = .ok names) : ∀ name ∈ names, name ∈ words := by
  induction rs generalizing names with
  | nil =>
    cases h
    intro name hname
    cases hname
  | cons r rs ih =>
    rw [List.mapM_cons] at h
    obtain ⟨name, hr, h⟩ := exists_ok_of_bind h
    obtain ⟨rest, hrs, h⟩ := exists_ok_of_bind h
    cases h
    exact List.forall_mem_cons.2 ⟨mem_words_of_registerName hr, ih hrs⟩

theorem plain_registerName {r : Register} (h : registerName r = .ok s) : Plain s :=
  plain_word (mem_words_of_registerName h)

theorem plain_shiftName (kind : ShiftKind) : Plain kind.name := by
  cases kind <;> decide

theorem plain_suffix (e : ElementSize) : Plain e.suffix := by
  cases e <;> decide

theorem plain_condition (c : Condition) : Plain c.name := by
  cases c <;> decide

theorem digit?_eq_none_of_control {c : Char} (hc : c.toNat < 32) : Numeral.digit? 16 c = none := by
  have hall : ∀ n < 32, Numeral.digit? 16 (Char.ofNat n) = none := by decide
  have hc' := hall c.toNat hc
  rwa [Char.ofNat_toNat] at hc'

theorem plain_toDigits {base : Nat} (hpos : 1 < base) (hbase : base ≤ 16) (n : Nat) :
    Plain (String.ofList (Nat.toDigits base n)) := by
  intro c hc
  by_contra hsmall
  rw [String.toList_ofList] at hc
  exact Numeral.notMem_toDigits hpos hbase n
    (Numeral.digit?_eq_none_of_le hbase (digit?_eq_none_of_control (by omega))) hc

@[simp] theorem plain_decimal (n : Nat) : Plain (Numeral.decimal n) :=
  plain_toDigits (by decide) (by decide) n

@[simp] theorem plain_hexDigits (n : Nat) : Plain (Numeral.hexDigits n) :=
  plain_toDigits (by decide) (by decide) n

theorem plain_pad {width : Nat} (h : Plain s) : Plain (Numeral.pad width s) := by
  refine plain_append.2 ⟨fun c hc => ?_, h⟩
  rw [String.toList_ofList] at hc
  rw [(List.mem_replicate.1 hc).2]
  decide

@[simp] theorem plain_hex8 (n : Nat) : Plain (Numeral.hex8 n) := plain_pad (plain_hexDigits n)

@[simp] theorem plain_number (n : Nat) : Plain (number decimal n) := by
  cases decimal
  · exact plain_append.2 ⟨by decide, plain_hexDigits n⟩
  · exact plain_decimal n

@[simp] theorem plain_signed (i : Int) : Plain (signed decimal i) := by
  refine plain_append.2 ⟨?_, plain_number _⟩
  split <;> decide

theorem plain_shift (s : Shift) : Plain (shift s) := by
  unfold shift
  split
  · exact plain_append.2 ⟨plain_append.2 ⟨plain_shiftName _, by decide⟩, plain_decimal _⟩
  · exact plain_shiftName _

theorem plain_shiftSuffix (shift? : Option Shift) : Plain (shiftSuffix shift?) := by
  cases shift? with
  | none => decide
  | some s => exact plain_append.2 ⟨by decide, plain_shift s⟩

theorem plain_laneSuffix (lane? : Option Nat) : Plain (laneSuffix lane?) := by
  cases lane? with
  | none => decide
  | some n => simp only [laneSuffix, plain_append, plain_decimal]; decide

theorem plain_arrangement (a : Arrangement) : Plain (arrangement a) := by
  refine plain_append.2 ⟨?_, plain_suffix _⟩
  split
  · decide
  · exact plain_decimal _

theorem plain_immediate (width : Nat) (i : Immediate) : Plain (immediate decimal width i) := by
  refine plain_append.2 ⟨plain_append.2 ⟨by decide, ?_⟩, plain_shiftSuffix _⟩
  unfold immediateValue
  split
  · exact plain_signed _
  · split <;> exact plain_number _

theorem plain_fixed (units : Nat) : Plain (Binary32.fixed units) :=
  plain_append.2 ⟨plain_append.2 ⟨plain_decimal _, by decide⟩, plain_pad (plain_decimal _)⟩

theorem plain_float (x : Binary32) : Plain x.text := by
  have hliterals : Plain "-" ∧ Plain "" ∧ Plain "inf" ∧ Plain "NaN" := by decide
  simp [Binary32.text, apply_ite Plain, hliterals, plain_fixed]

def PlainResult {ε : Type} (r : Except ε String) : Prop := ∀ t, r = .ok t → Plain t

theorem plainResult_ok {ε : Type} (h : Plain s) : PlainResult (.ok s : Except ε String) := by
  intro t ht
  cases ht
  exact h

theorem plainResult_bind {ε α : Type} {x : Except ε α} {f : α → Except ε String}
    (h : ∀ a, x = .ok a → PlainResult (f a)) : PlainResult (x >>= f) := by
  intro t ht
  obtain ⟨a, ha, ht⟩ := exists_ok_of_bind ht
  exact h a ha t ht

theorem plainResult_vectorSuffix (r : RegisterOperand) : PlainResult (vectorSuffix r) := by
  intro t ht
  unfold vectorSuffix at ht
  split at ht
  · cases ht
    decide
  · cases ht
  · split at ht
    · cases ht
    · split at ht <;> cases ht
      exact plain_append.2 ⟨plain_append.2 ⟨by decide, plain_arrangement _⟩,
        plain_laneSuffix _⟩

theorem plainResult_register (r : RegisterOperand) : PlainResult (register r) := by
  refine plainResult_bind fun name hname => plainResult_bind fun suffix hsuffix => ?_
  have hplain : Plain name := plain_registerName hname
  have hplain' : Plain suffix := plainResult_vectorSuffix r suffix hsuffix
  exact plainResult_ok (plain_append.2 ⟨plain_append.2 ⟨hplain, hplain'⟩, plain_shiftSuffix _⟩)

theorem plainResult_registerList (l : RegisterList) : PlainResult (registerList l) := by
  by_cases hcount : l.count = 0 ∨ 4 < l.count
  · rw [registerList, if_pos hcount]
    intro t ht
    cases ht
  · rw [registerList, if_neg hcount]
    refine plainResult_bind fun names hnames => plainResult_ok ?_
    have hmembers : ∀ t ∈ names.map fun name => name ++ "." ++ arrangement l.arrangement,
        Plain t := by
      refine List.forall_mem_map.2 fun name hname => ?_
      have hplain := plain_word (mem_words_of_mapM hnames name hname)
      exact plain_append.2 ⟨plain_append.2 ⟨hplain, by decide⟩, plain_arrangement _⟩
    have hlist := plain_intercalate ", " (by decide) hmembers
    simp only [plain_append, hlist, plain_laneSuffix]
    decide

theorem plainResult_mode (m : AddressingMode) : PlainResult (mode decimal m) := by
  rcases m with _ | offset | (offset | r) | offset | ⟨index, shift⟩
  · exact plainResult_ok (by decide)
  · refine plainResult_ok ?_
    simp only [plain_append, plain_signed]
    decide
  · refine plainResult_ok ?_
    simp only [plain_append, plain_signed]
    decide
  · refine plainResult_bind fun _ hname => plainResult_ok ?_
    simp only [plain_append, plain_registerName hname]
    decide
  · refine plainResult_ok ?_
    split
    · decide
    · simp only [plain_append, plain_signed]
      decide
  · refine plainResult_bind fun _ hname => plainResult_ok ?_
    simp only [plain_append, plain_registerName hname, plain_shiftSuffix]
    decide

theorem plainResult_memory (m : MemoryOperand) : PlainResult (memory decimal m) := by
  by_cases hbase : m.base.file = .x
  · rw [memory, if_neg (by simp [hbase])]
    refine plainResult_bind fun _ hname => plainResult_bind fun _ hmode => plainResult_ok ?_
    simp only [plain_append, plain_registerName hname, plainResult_mode _ _ hmode]
    decide
  · rw [memory, if_pos hbase]
    intro t ht
    cases ht

theorem plain_systemEncoding (e : SystemEncoding) : Plain (systemEncoding e) := by
  simp only [systemEncoding, plain_append, plain_decimal]
  decide

theorem plainResult_operand (o : Operand) : PlainResult (operand decimal o) := by
  cases o with
  | imm32 i | imm64 i => exact plainResult_ok (plain_immediate _ i)
  | float bits => exact plainResult_ok (plain_append.2 ⟨by decide, plain_float bits⟩)
  | register r => exact plainResult_register r
  | registerList l => exact plainResult_registerList l
  | systemRegister r =>
    refine plainResult_ok (plain_word ?_)
    exact List.mem_append_right _ (List.mem_append_right _ (List.mem_map_of_mem r.mem_all))
  | memory m => exact plainResult_memory m
  | label target => exact plainResult_ok (plain_append.2 ⟨by decide, plain_number _⟩)
  | condition c => exact plainResult_ok (plain_condition c)
  | systemEncoding e => exact plainResult_ok (plain_systemEncoding e)

theorem plain_slot {o : Option Operand} {t : String} (h : slot decimal o = .ok t) : Plain t := by
  cases o with
  | none => cases h
  | some o => exact plainResult_operand o _ h

theorem plain_operands {mnemonic : String} {index : Nat} {os : List (Option Operand)}
    {texts : List String} (h : operands decimal mnemonic index os = .ok texts) :
    ∀ t ∈ texts, Plain t := by
  have hslots := forall₂_of_operands h
  clear h
  induction hslots with
  | nil =>
    intro t ht
    cases ht
  | cons hslot _ ih => exact List.forall_mem_cons.2 ⟨plain_slot hslot, ih⟩

end Text

open Text

/-- The text of an instruction is its mnemonic and, behind a tab, what is written of its operands;
neither part has a control character. -/
theorem Instruction.plain_of_render {i : Instruction} {decimal : Bool} {text : String}
    (h : i.render decimal = .ok text) :
    ∃ texts, text = Text.line i.operation.name texts ∧ ∀ t ∈ texts, Plain t := by
  obtain ⟨texts, htexts, rfl⟩ := Instruction.exists_texts_of_render h
  exact ⟨texts, rfl, plain_operands htexts⟩

theorem newline_notMem_of_plain {s : String} (h : Plain s) : '\n' ∉ s.toList := by
  intro hmem
  exact absurd (h _ hmem) (by decide)

/-- The text of a word stays on its line. -/
theorem Line.newline_notMem_text {l : Line} {word : Word} {address : Address} {decimal : Bool}
    (h : l.Describes word address decimal) : '\n' ∉ l.text.toList := by
  cases hd : decode word address with
  | error e =>
    rw [h.placeholder.2 ⟨_, h.undecoded e hd⟩]
    exact newline_notMem_of_plain (plain_append.2 ⟨by decide, plain_hex8 _⟩)
  | ok i =>
    cases hr : i.render decimal with
    | error e =>
      rw [h.placeholder.2 ⟨_, h.unrendered i e hd hr⟩]
      exact newline_notMem_of_plain (plain_append.2 ⟨by decide, plain_hex8 _⟩)
    | ok text =>
      rw [(h.rendered i text hd hr).2]
      obtain ⟨texts, rfl, hplain⟩ := Instruction.plain_of_render hr
      cases texts with
      | nil => exact newline_notMem_of_plain (plain_name _)
      | cons t ts =>
        have hoperands := newline_notMem_of_plain
          (plain_intercalate ", " (by decide) hplain)
        have hname := newline_notMem_of_plain (plain_name i.operation)
        simp only [Text.line, String.toList_append, List.mem_append, hname, hoperands, or_false,
          false_or]
        decide

end A64
