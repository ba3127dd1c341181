import A64.Proofs.Printable
import A64.Proofs.Spelling
import A64.Proofs.Token

/-!
# Operands written in fragments

Commas divide the text of the operands into fragments: tokens with the brackets that open before
them or close behind them. The text of an instruction tells its fragments, and reading the fragments
gives the operands back, in normal form. This holds of operands without floating-point numbers,
conditions, lanes and single vectors, if what is in memory comes last (`Operand.Legible`).
-/

namespace A64

inductive Opening where
  | none | bracket | brace
  deriving DecidableEq

/-- What closes behind a token: the brackets of a memory operand, with a mark if the address is
written back, or the braces of a list, with the lane if there is one. -/
inductive Closing where
  | none | bracket | writeBack
  | brace (lane : Option Nat)
  deriving DecidableEq

/-- A token with the brackets around it. -/
structure Fragment where
  opening : Opening
  token : Token
  closing : Closing
  deriving DecidableEq

def Opening.text : Opening → String
  | none => ""
  | bracket => "["
  | brace => "\x7b"

def Closing.text : Closing → String
  | none => ""
  | bracket => "]"
  | writeBack => "]!"
  | brace lane => "\x7d" ++ Text.laneSuffix lane

theorem Opening.text_injective {k k' : Opening} (h : k.text = k'.text) : k = k' := by
  revert h
  cases k <;> cases k' <;> decide

theorem Text.laneSuffix_injective {lane lane' : Option Nat}
    (h : laneSuffix lane = laneSuffix lane') : lane = lane' := by
  have hchars := congrArg String.toList h
  cases lane <;> cases lane' <;> simp [laneSuffix, Numeral.decimal] at hchars ⊢
  exact Numeral.toDigits_injective (by decide) (by decide) hchars

theorem Closing.toList_text (k : Closing) :
    k.text.toList =
      match k with
      | none => []
      | bracket => [']']
      | writeBack => [']', '!']
      | brace lane => '\x7d' :: (Text.laneSuffix lane).toList := by
  cases k <;> simp [text]

theorem Closing.text_injective {k k' : Closing} (h : k.text = k'.text) : k = k' := by
  have hchars := congrArg String.toList h
  rw [toList_text, toList_text] at hchars
  cases k <;> cases k' <;> simp at hchars ⊢
  exact Text.laneSuffix_injective (String.toList_inj.1 hchars)

namespace Fragment

def text (decimal : Bool) (f : Fragment) : String :=
  f.opening.text ++ f.token.text decimal ++ f.closing.text

def plain (t : Token) : Fragment := ⟨.none, t, .none⟩

variable {f f' : Fragment} {decimal : Bool}

def isInner (c : Char) : Bool := c ≠ ']' ∧ c ≠ '\x7d'

def isOpening (c : Char) : Bool := c = '[' ∨ c = '\x7b'

theorem toList_text (f : Fragment) (decimal : Bool) :
    (f.text decimal).toList =
      f.opening.text.toList ++ ((f.token.text decimal).toList ++ f.closing.text.toList) := by
  simp [text]

theorem bracket_notMem {t : Token} (h : t.Valid) (decimal : Bool) {c : Char}
    (hc : c ∈ ['[', ']', '\x7b', '\x7d', ',']) : c ∉ (t.text decimal).toList := by
  have hmarks : ∀ c ∈ ['[', ']', '\x7b', '\x7d', ','], c ∈ Text.punctuation ∧
      ∀ look ∈ [Token.Look.word, .number, .amount, .vector, .raw], c ∉ look.marks := by decide
  rw [Token.mem_text_iff h decimal (hmarks c hc).1]
  exact (hmarks c hc).2 _ (by cases t.look <;> decide)

theorem takeWhile_opening (h : f.token.Valid) :
    (f.text decimal).toList.takeWhile isOpening = f.opening.text.toList := by
  have hopening : ∀ c ∈ f.opening.text.toList, isOpening c = true := by
    cases f.opening <;> decide +kernel
  have hrest : ((f.token.text decimal).toList ++ f.closing.text.toList).takeWhile isOpening =
      [] := by
    cases htoken : (f.token.text decimal).toList with
    | nil => rw [Closing.toList_text]; cases f.closing <;> rfl
    | cons c cs =>
      have hc : isOpening c = false := by
        have hmem : c ∈ (f.token.text decimal).toList := htoken ▸ List.mem_cons_self
        simp only [isOpening, decide_eq_false_iff_not]
        rintro (rfl | rfl)
        · exact bracket_notMem h decimal (by decide) hmem
        · exact bracket_notMem h decimal (by decide) hmem
      simp [hc]
  rw [toList_text, List.takeWhile_append_of_pos hopening, hrest, List.append_nil]

theorem takeWhile_inner (h : f.token.Valid) :
    ((f.token.text decimal).toList ++ f.closing.text.toList).takeWhile isInner =
      (f.token.text decimal).toList := by
  have hinner : ∀ c ∈ (f.token.text decimal).toList, isInner c = true := by
    intro c hc
    have hbracket {b : Char} (hb : b ∈ ['[', ']', '\x7b', '\x7d', ',']) : c ≠ b := by
      rintro rfl
      exact bracket_notMem h decimal hb hc
    simp [isInner, hbracket]
  have hclosing : f.closing.text.toList.takeWhile isInner = [] := by
    rw [Closing.toList_text]
    cases f.closing <;> rfl
  rw [List.takeWhile_append_of_pos hinner, hclosing, List.append_nil]

/-- The text of a fragment tells the fragment. -/
theorem eq_of_text_eq (h : f.token.Valid) (h' : f'.token.Valid)
    (ht : f.text decimal = f'.text decimal) : f = f' := by
  have hchars := congrArg String.toList ht
  have hopening : f.opening.text.toList = f'.opening.text.toList := by
    rw [← takeWhile_opening h, hchars, takeWhile_opening h']
  rw [toList_text, toList_text, hopening, List.append_cancel_left_eq] at hchars
  have htoken : (f.token.text decimal).toList = (f'.token.text decimal).toList := by
    rw [← takeWhile_inner h, hchars, takeWhile_inner h']
  rw [htoken, List.append_cancel_left_eq] at hchars
  have heq := Opening.text_injective (String.toList_inj.1 hopening)
  have heq' := Token.eq_of_text_eq h h' (String.toList_inj.1 htoken)
  have heq'' := Closing.text_injective (String.toList_inj.1 hchars)
  obtain ⟨opening, token, closing⟩ := f
  rw [Fragment.mk.injEq]
  exact ⟨heq, heq', heq''⟩

theorem comma_notMem (h : f.token.Valid) : ',' ∉ (f.text decimal).toList := by
  have hlane : ∀ lane, ',' ∉ (Text.laneSuffix lane).toList := by
    intro lane
    have hdigits (n : Nat) := Text.notMem_digits n (show ',' ∈ Text.punctuation by decide)
    cases lane <;> simp [Text.laneSuffix, Numeral.decimal, hdigits]
  have hopening : ',' ∉ f.opening.text.toList := by cases f.opening <;> decide +kernel
  have hclosing : ',' ∉ f.closing.text.toList := by
    rw [Closing.toList_text]
    cases f.closing <;> simp [hlane]
  simp [toList_text, hopening, hclosing, bracket_notMem h decimal (show ',' ∈ _ by decide)]

/-- Tokens of which the last one is followed by a bracket. -/
def close (closing : Closing) : List Token → List Fragment
  | [] => []
  | [t] => [⟨.none, t, closing⟩]
  | t :: ts => plain t :: close closing ts

/-- Tokens between brackets. -/
def enclose (opening : Opening) (closing : Closing) (first : Token) (rest : List Token) :
    List Fragment :=
  match rest with
  | [] => [⟨opening, first, closing⟩]
  | _ => ⟨opening, first, .none⟩ :: close closing rest

theorem intercalate_close (closing : Closing) (t : Token) (ts : List Token) :
    ", ".intercalate ((close closing (t :: ts)).map (text decimal)) =
      ", ".intercalate ((t :: ts).map (Token.text decimal)) ++ closing.text := by
  induction ts generalizing t with
  | nil => simp [close, text, Opening.text]
  | cons t' ts ih =>
    have hclose : close closing (t :: t' :: ts) = plain t :: close closing (t' :: ts) := rfl
    have hne : (close closing (t' :: ts)).map (text decimal) ≠ [] := by cases ts <;> simp [close]
    rw [hclose, List.map_cons, String.intercalate_cons_of_ne_nil hne, ih]
    simp [plain, text, Opening.text, Closing.text, String.append_assoc]

@[simp] theorem intercalate_enclose (opening : Opening) (closing : Closing) (first : Token)
    (rest : List Token) :
    ", ".intercalate ((enclose opening closing first rest).map (text decimal)) =
      opening.text ++ ", ".intercalate ((first :: rest).map (Token.text decimal)) ++
        closing.text := by
  cases rest with
  | nil => simp [enclose, text]
  | cons t ts =>
    have hclose : enclose opening closing first (t :: ts) =
      ⟨opening, first, .none⟩ :: close closing (t :: ts) := rfl
    have hne : (close closing (t :: ts)).map (text decimal) ≠ [] := by cases ts <;> simp [close]
    rw [hclose, List.map_cons, String.intercalate_cons_of_ne_nil hne, intercalate_close]
    simp [text, Closing.text, String.append_assoc]

theorem token_close {closing : Closing} {ts : List Token} {g : Fragment}
    (hg : g ∈ close closing ts) : g.token ∈ ts := by
  fun_induction close closing ts with
  | case1 => cases hg
  | case2 t => simp_all
  | case3 t ts _ ih =>
    rcases List.mem_cons.1 hg with rfl | hg
    · exact List.mem_cons_self
    · exact List.mem_cons_of_mem _ (ih hg)

theorem token_enclose {opening : Opening} {closing : Closing} {first : Token} {rest : List Token}
    {g : Fragment} (hg : g ∈ enclose opening closing first rest) : g.token ∈ first :: rest := by
  cases rest with
  | nil =>
    obtain rfl := List.mem_singleton.1 hg
    exact List.mem_cons_self
  | cons t ts =>
    rcases List.mem_cons.1 hg with rfl | hg
    · exact List.mem_cons_self
    · exact List.mem_cons_of_mem _ (token_close hg)

end Fragment

/-! ### Fragments of operands -/

def RegisterList.tokens (l : RegisterList) : List Token := l.registers.map (.vector · l.arrangement)

namespace Operand

open Fragment in
def memoryFragments (base : Token) : AddressingMode → List Fragment
  | .base => enclose .bracket .bracket base []
  | .preIndex offset => enclose .bracket .writeBack base [.number offset]
  | .postIndex (.immediate offset) =>
    enclose .bracket .bracket base [] ++ [plain (.number offset)]
  | .postIndex (.register r) => enclose .bracket .bracket base [] ++ [plain (.register r)]
  | .offset offset => enclose .bracket .bracket base (if offset = 0 then [] else [.number offset])
  | .extended index shift =>
    enclose .bracket .bracket base (.register index :: shift.toList.map .shift)

def fragments : Operand → List Fragment
  | imm32 i => [.plain (.number (i.value.setWidth 32).toNat)]
  | imm64 i => [.plain (.number i.value.toNat)]
  | label target => [.plain (.number target.toNat)]
  | register r => [.plain (.register r.register)]
  | systemRegister r => [.plain (.system r)]
  | systemEncoding e => [.plain (.encoding e)]
  | registerList l =>
    match l.tokens with
    | [] => []
    | first :: rest => Fragment.enclose .brace (.brace l.lane) first rest
  | memory m => memoryFragments (.register m.base) m.mode
  | _ => []

end Operand

/-- Whether a text shows all of an operand of the kind. -/
def Kind.isLegible : Kind → Bool
  | value | control | general _ | scalar _ | list _ _ _ | memory _ => true
  | _ => false

namespace Text

theorem registerName_eq {r : Register} (h : r.InFile) (decimal : Bool) :
    registerName r = .ok ((Token.register r).text decimal) := by
  obtain ⟨name, hname⟩ := h.exists_name
  simp [registerName, Token.text, hname]

theorem mapM_registerName_eq {rs : List Register} (h : ∀ r ∈ rs, r.InFile) (decimal : Bool) :
    rs.mapM registerName = .ok (rs.map fun r => (Token.register r).text decimal) := by
  induction rs with
  | nil => rfl
  | cons r rs ih =>
    rw [List.mapM_cons, registerName_eq (h r List.mem_cons_self) decimal,
      ih fun r' hr' => h r' (List.mem_cons_of_mem _ hr')]
    rfl

theorem mode_eq {m : AddressingMode} (h : ∀ r ∈ m.registers, r.InFile) (decimal : Bool)
    (base : Token) :
    ∃ text, mode decimal m = .ok text ∧
      ", ".intercalate ((Operand.memoryFragments base m).map (Fragment.text decimal)) =
        "[" ++ base.text decimal ++ text := by
  have hcomma (s : String) : ", " ++ ("#" ++ s) = ", #" ++ s := by rw [← String.append_assoc]; rfl
  have hclosed (s : String) : "], " ++ ("#" ++ s) = "], #" ++ s := by
    rw [← String.append_assoc]; rfl
  rcases m with _ | offset | (offset | r) | offset | ⟨index, shift⟩
  · exact ⟨_, rfl, by simp [Operand.memoryFragments, Opening.text, Closing.text]⟩
  · refine ⟨_, rfl, ?_⟩
    simp [Operand.memoryFragments, Opening.text, Closing.text, Token.text, String.append_assoc,
      hcomma]
  · refine ⟨_, rfl, ?_⟩
    simp [Operand.memoryFragments, Fragment.enclose, Fragment.plain, Fragment.text, Opening.text,
      Closing.text, Token.text, String.append_assoc, hclosed]
  · have hname := registerName_eq (h r (by simp [AddressingMode.registers])) decimal
    refine ⟨_, by rw [mode, hname]; rfl, ?_⟩
    simp [Operand.memoryFragments, Fragment.enclose, Fragment.plain, Fragment.text, Opening.text,
      Closing.text, String.append_assoc]
  · refine ⟨_, rfl, ?_⟩
    by_cases hzero : offset = 0 <;>
      simp [Operand.memoryFragments, hzero, Opening.text, Closing.text, Token.text,
        String.append_assoc, hcomma]
  · have hname := registerName_eq (h index (by simp [AddressingMode.registers])) decimal
    refine ⟨_, by rw [mode, hname]; rfl, ?_⟩
    cases shift <;>
      simp [Operand.memoryFragments, shiftSuffix, Opening.text, Closing.text, Token.text,
        String.append_assoc]

theorem memory_eq {m : MemoryOperand} (h : (Operand.memory m).Printable) (decimal : Bool) :
    memory decimal m = .ok (", ".intercalate
      ((Operand.memoryFragments (.register m.base) m.mode).map (Fragment.text decimal))) := by
  have hbase : m.base.file = .x := h.fits
  have hname := registerName_eq (h.inFile m.base (by simp [Operand.registers])) decimal
  obtain ⟨text, htext, hfragments⟩ := mode_eq (m := m.mode)
    (fun r hr => h.inFile r (by simp [Operand.registers, hr])) decimal (.register m.base)
  rw [memory, if_neg (by simp [hbase]), hname, htext, hfragments]
  rfl

theorem registerList_eq {l : RegisterList} (h : (Operand.registerList l).Printable)
    (decimal : Bool) :
    registerList l = .ok (", ".intercalate
      ((Operand.registerList l).fragments.map (Fragment.text decimal))) := by
  have hcount : 1 ≤ l.count ∧ l.count ≤ 4 := h.fits
  have hregisters : ∀ r ∈ l.registers, r.InFile := h.inFile
  have hnames := mapM_registerName_eq hregisters decimal
  obtain ⟨first, rest, hlist⟩ : ∃ first rest, l.registers = first :: rest :=
    List.exists_cons_of_ne_nil fun hnil => by
      have hlength := congrArg List.length hnil
      simp [RegisterList.registers] at hlength
      omega
  have hfragments : (Operand.registerList l).fragments =
      Fragment.enclose .brace (.brace l.lane) (.vector first l.arrangement)
        (rest.map (.vector · l.arrangement)) := by
    simp [Operand.fragments, RegisterList.tokens, hlist]
  rw [registerList, if_neg (by omega), hnames, hfragments, Fragment.intercalate_enclose, hlist]
  show Except.ok _ = Except.ok _
  simp [Token.text, Opening.text, Closing.text, String.append_assoc, Function.comp_def]

theorem text_plain (t : Token) (decimal : Bool) :
    (Fragment.plain t).text decimal = t.text decimal := by
  simp [Fragment.plain, Fragment.text, Opening.text, Closing.text]

theorem immediate_plain (decimal : Bool) (width : Nat) (value : BitVec 64) :
    immediate decimal width ⟨value, false, none, false⟩ =
      (Token.number (value.setWidth width).toNat).text decimal := by
  simp only [immediate, immediateValue, shiftSuffix, Token.text, String.append_empty,
    Bool.false_eq_true, ↓reduceIte]
  rw [signed_natCast]

/-- The text of an operand is that of its fragments. -/
theorem operand_fragments {o : Operand} (h : o.Printable) (hkind : o.kind.isLegible = true)
    (decimal : Bool) :
    operand decimal o = .ok (", ".intercalate (o.fragments.map (Fragment.text decimal))) := by
  cases o with
  | imm32 i =>
    obtain ⟨value, _ | _, _ | shift, _ | _⟩ := i <;> try cases hkind
    simp only [operand, immediate_plain, Operand.fragments, List.map_singleton, text_plain,
      String.intercalate_singleton]
  | imm64 i =>
    obtain ⟨value, _ | _, _ | shift, _ | _⟩ := i <;> try cases hkind
    simp only [operand, immediate_plain, Operand.fragments, List.map_singleton, text_plain,
      String.intercalate_singleton, BitVec.setWidth_eq]
  | register r =>
    obtain ⟨r, _ | a, _ | lane, _ | shift⟩ := r <;> try cases hkind
    have hname := registerName_eq (h.inFile r (by simp [Operand.registers])) decimal
    simp only [operand, register, hname, vectorSuffix, shiftSuffix, Operand.fragments,
      List.map_singleton, text_plain, String.intercalate_singleton]
    show Except.ok (_ ++ "" ++ "") = _
    rw [String.append_empty, String.append_empty]
  | registerList l => exact registerList_eq h decimal
  | memory m => exact memory_eq h decimal
  | label target =>
    simp only [operand, Operand.fragments, List.map_singleton, text_plain, Token.text,
      String.intercalate_singleton, signed_natCast]
  | systemRegister r | systemEncoding e =>
    simp only [operand, Operand.fragments, List.map_singleton, text_plain, Token.text,
      String.intercalate_singleton]
  | float bits | condition c => cases hkind

end Text

namespace Operand

theorem valid_memoryFragments {base : Register} (hbase : base.InFile) {m : AddressingMode}
    (h : ∀ r ∈ m.registers, r.InFile) :
    ∀ f ∈ memoryFragments (.register base) m, f.token.Valid := by
  have henclose (closing : Closing) (rest : List Token) (hrest : ∀ t ∈ rest, t.Valid) :
      ∀ f ∈ Fragment.enclose .bracket closing (.register base) rest, f.token.Valid := by
    intro f hf
    rcases List.mem_cons.1 (Fragment.token_enclose hf) with htoken | htoken
    · rw [htoken]
      exact hbase
    · exact hrest _ htoken
  rcases m with _ | offset | (offset | r) | offset | ⟨index, shift⟩
  · exact henclose _ [] (by simp)
  · exact henclose _ [.number offset] (by simp [Token.Valid])
  · exact List.forall_mem_append.2
      ⟨henclose _ [] (by simp), by simp [Fragment.plain, Token.Valid]⟩
  · refine List.forall_mem_append.2 ⟨henclose _ [] (by simp), ?_⟩
    simpa [Fragment.plain, Token.Valid, AddressingMode.registers] using h
  · exact henclose _ _ (by split <;> simp [Token.Valid])
  · have hindex : (Token.register index).Valid := h index (by simp [AddressingMode.registers])
    exact henclose _ _ (List.forall_mem_cons.2 ⟨hindex, by simp [Token.Valid]⟩)

theorem Printable.valid {o : Operand} (h : o.Printable) : ∀ f ∈ o.fragments, f.token.Valid := by
  cases o with
  | register r => simpa [fragments, Fragment.plain, Token.Valid, registers] using h.inFile
  | registerList l =>
    intro f hf
    have htoken : f.token ∈ l.tokens := by
      simp only [fragments] at hf
      split at hf
      · cases hf
      · rename_i htokens
        rw [htokens]
        exact Fragment.token_enclose hf
    obtain ⟨r, hr, hrt⟩ := List.mem_map.1 htoken
    rw [← hrt]
    exact h.inFile r hr
  | memory m =>
    exact valid_memoryFragments (h.inFile m.base (by simp [registers])) fun r hr =>
      h.inFile r (by simp [registers, hr])
  | _ => simp [fragments, Fragment.plain, Token.Valid]

theorem fragments_ne_nil {o : Operand} (h : o.Printable) (hkind : o.kind.isLegible = true) :
    o.fragments ≠ [] := by
  cases o with
  | registerList l =>
    have hcount : 1 ≤ l.count ∧ l.count ≤ 4 := h.fits
    have htokens : l.tokens ≠ [] := by
      simp [RegisterList.tokens, RegisterList.registers]
      omega
    simp only [fragments]
    split
    · contradiction
    · simp [Fragment.enclose]
      split <;> simp
  | memory m =>
    obtain ⟨base, _ | offset | (offset | r) | offset | ⟨index, shift⟩⟩ := m <;>
      simp [fragments, memoryFragments, Fragment.enclose]
    split <;> simp
  | float bits | condition c => cases hkind
  | _ => simp [fragments]

theorem writtenAs {o : Operand} (h : o.Printable) (hkind : o.kind.isLegible = true)
    (decimal : Bool) : Text.WrittenAs decimal (o.fragments.map (Fragment.text decimal)) o where
  operand_eq := Text.operand_fragments h hkind decimal
  ne_nil := by simpa using fragments_ne_nil h hkind
  comma := List.forall_mem_map.2 fun f hf => Fragment.comma_notMem (h.valid f hf)

end Operand

/-! ### Reading fragments -/

def Token.operand? : Token → Option Operand
  | register r => some (.register ⟨r, none, none, none⟩)
  | number value => some (.imm64 ⟨BitVec.ofInt 64 value, false, none, false⟩)
  | system r => some (.systemRegister r)
  | encoding e => some (.systemEncoding e)
  | vector _ _ | shift _ => none

namespace Fragment

/-- The addressing mode behind a base: what closes there, and the fragments that follow. -/
def readMode? : Closing → List Fragment → Option AddressingMode
  | .bracket, [] => some (.offset 0)
  | .bracket, [⟨_, .number offset, _⟩] => some (.postIndex (.immediate offset))
  | .bracket, [⟨_, .register r, _⟩] => some (.postIndex (.register r))
  | .none, [⟨_, .number offset, .bracket⟩] => some (.offset offset)
  | .none, [⟨_, .number offset, .writeBack⟩] => some (.preIndex offset)
  | .none, [⟨_, .register index, .bracket⟩] => some (.extended index none)
  | .none, [⟨_, .register index, .none⟩, ⟨_, .shift s, _⟩] => some (.extended index (some s))
  | _, _ => none

/-- The operands in normal form that fragments stand for. The brace that closes tells the length of
a list. -/
def read? : List Fragment → Option (List Operand)
  | [] => some []
  | ⟨.none, t, _⟩ :: rest => t.operand?.bind fun o => (read? rest).map (o :: ·)
  | ⟨.bracket, .register base, closing⟩ :: rest =>
    (readMode? closing rest).map fun mode => [.memory ⟨base, mode⟩]
  | ⟨.brace, .vector r a, .brace lane⟩ :: rest =>
    (read? rest).map (.registerList ⟨r, 1, a, lane⟩ :: ·)
  | ⟨.brace, .vector r a, _⟩ :: ⟨_, _, .brace lane⟩ :: rest =>
    (read? rest).map (.registerList ⟨r, 2, a, lane⟩ :: ·)
  | ⟨.brace, .vector r a, _⟩ :: _ :: ⟨_, _, .brace lane⟩ :: rest =>
    (read? rest).map (.registerList ⟨r, 3, a, lane⟩ :: ·)
  | ⟨.brace, .vector r a, _⟩ :: _ :: _ :: ⟨_, _, .brace lane⟩ :: rest =>
    (read? rest).map (.registerList ⟨r, 4, a, lane⟩ :: ·)
  | _ => none

end Fragment

def Kind.isMemory : Kind → Bool
  | memory _ => true
  | _ => false

/-- Whether a text shows all of the operands of the kinds. Operands in memory have to come last,
since commas divide them in other places than between operands. -/
def Kind.areLegible (kinds : List Kind) : Bool :=
  kinds.all isLegible && kinds.dropLast.all fun k => !k.isMemory

namespace Operand

variable {o : Operand} {rest : List Fragment}

theorem read?_plain {t : Token} (h : t.operand? = some o) :
    Fragment.read? ([.plain t] ++ rest) = (Fragment.read? rest).map (o :: ·) := by
  simp [Fragment.plain, Fragment.read?, h]

theorem successor_zero {r : Register} (h : r.number < 32) : r.successor 0 = r := by
  have hne : r.number ≠ Register.stackNumber := Nat.ne_of_lt h
  simp [Register.successor, Register.encodedNumber, hne, Nat.mod_eq_of_lt h]

theorem read?_registerList {l : RegisterList} (h : 1 ≤ l.count ∧ l.count ≤ 4)
    (hfirst : l.first.number < 32) :
    Fragment.read? ((registerList l).fragments ++ rest) =
      (Fragment.read? rest).map (registerList l :: ·) := by
  obtain ⟨first, count, a, lane⟩ := l
  have hzero := successor_zero hfirst
  obtain rfl | rfl | rfl | rfl : count = 1 ∨ count = 2 ∨ count = 3 ∨ count = 4 := by
    dsimp only at h
    omega
  all_goals
    simp [fragments, RegisterList.tokens, RegisterList.registers, List.range_succ,
      Fragment.enclose, Fragment.close, Fragment.plain, Fragment.read?, hzero]

theorem read?_memory (m : MemoryOperand) :
    Fragment.read? (memory m).fragments = some [(memory m).normal] := by
  obtain ⟨base, _ | offset | (offset | r) | offset | ⟨index, _ | shift⟩⟩ := m <;> try rfl
  by_cases hzero : offset = 0 <;>
    simp [fragments, memoryFragments, hzero, Fragment.enclose, Fragment.close, Fragment.read?,
      Fragment.readMode?, normal]

/-- An operand is read in front of others, unless it is in memory. -/
theorem read?_fragments (h : o.Printable) (hkind : o.kind.isLegible = true)
    (hmemory : o.kind.isMemory = false) :
    Fragment.read? (o.fragments ++ rest) = (Fragment.read? rest).map (o.normal :: ·) := by
  have hvalue {n : Nat} (v : BitVec n) : BitVec.ofInt 64 v.toNat = v.setWidth 64 := by
    rw [BitVec.ofInt_natCast, BitVec.ofNat_toNat]
  cases o with
  | imm32 i =>
    obtain ⟨value, _ | _, _ | shift, _ | _⟩ := i <;> try cases hkind
    exact read?_plain (by simp only [Token.operand?, normal, hvalue])
  | imm64 i =>
    obtain ⟨value, _ | _, _ | shift, _ | _⟩ := i <;> try cases hkind
    exact read?_plain (by simp only [Token.operand?, normal, hvalue, BitVec.setWidth_eq])
  | register r =>
    obtain ⟨r, _ | a, _ | lane, _ | shift⟩ := r <;> try cases hkind
    exact read?_plain rfl
  | registerList l =>
    have hfirst : l.first.number < 32 := by
      by_contra hlarge
      simp [kind, hlarge, Kind.isLegible] at hkind
    exact read?_registerList h.fits hfirst
  | memory m => cases hmemory
  | label target =>
    exact read?_plain (by simp only [Token.operand?, normal, hvalue, BitVec.setWidth_eq])
  | systemRegister r | systemEncoding e => exact read?_plain rfl
  | float bits | condition c => cases hkind

theorem exists_of_isMemory (h : o.kind.isMemory = true) : ∃ m, o = memory m := by
  cases o with
  | memory m => exact ⟨m, rfl⟩
  | imm32 i | imm64 i => obtain ⟨_, _ | _, _ | _, _ | _⟩ := i <;> cases h
  | register r =>
    obtain ⟨⟨file, number⟩, _ | _, _ | _, _ | _⟩ := r <;>
      first | cases h | (cases file <;> cases h)
  | registerList l =>
    simp only [kind] at h
    split at h <;> cases h
  | _ => cases h

/-- The operands have a text that shows all of them. -/
structure Legible (os : List Operand) : Prop where
  printable : ∀ o ∈ os, o.Printable
  kinds : Kind.areLegible (os.map kind) = true

namespace Legible

variable {os : List Operand}

theorem isLegible (h : Legible os) : ∀ o ∈ os, o.kind.isLegible = true := by
  intro o ho
  have hkinds := h.kinds
  simp only [Kind.areLegible, List.all_map, Bool.and_eq_true, List.all_eq_true] at hkinds
  exact hkinds.1 o ho

theorem writtenAs (h : Legible os) (decimal : Bool) :
    ∀ o ∈ os, Text.WrittenAs decimal (o.fragments.map (Fragment.text decimal)) o :=
  fun o ho => Operand.writtenAs (h.printable o ho) (h.isLegible o ho) decimal

theorem valid (h : Legible os) : ∀ f ∈ os.flatMap fragments, f.token.Valid := by
  intro f hf
  obtain ⟨o, ho, hfo⟩ := List.mem_flatMap.1 hf
  exact (h.printable o ho).valid f hfo

theorem tail (h : Legible (o :: os)) : Legible os where
  printable := fun o' ho' => h.printable o' (List.mem_cons_of_mem _ ho')
  kinds := by
    have hkinds := h.kinds
    cases os with
    | nil => rfl
    | cons o' os => simp_all [Kind.areLegible]

theorem read?_flatMap (h : Legible os) :
    Fragment.read? (os.flatMap fragments) = some (os.map normal) := by
  induction os with
  | nil => rfl
  | cons o os ih =>
    have ho : o.Printable := h.printable o List.mem_cons_self
    have hkind : o.kind.isLegible = true := h.isLegible o List.mem_cons_self
    cases hmemory : o.kind.isMemory with
    | false => rw [List.flatMap_cons, read?_fragments ho hkind hmemory, ih h.tail]; rfl
    | true =>
      obtain ⟨m, rfl⟩ := exists_of_isMemory hmemory
      cases os with
      | nil => simpa using read?_memory m
      | cons o' os => 
        have hkinds := h.kinds
        simp [Kind.areLegible, hmemory] at hkinds

theorem singleton (h : o.Printable) (hkind : o.kind.isLegible = true) : Legible [o] where
  printable := by simpa using h
  kinds := by simp [Kind.areLegible, hkind]

end Legible

/-- The text of a legible operand tells the operand. -/
theorem normal_eq_of_text_eq {o' : Operand} {decimal : Bool} (h : o.Printable)
    (h' : o'.Printable) (hkind : o.kind.isLegible = true) (hkind' : o'.kind.isLegible = true)
    (ht : Text.operand decimal o = Text.operand decimal o') : o.normal = o'.normal := by
  have hw := writtenAs h hkind decimal
  have hw' := writtenAs h' hkind' decimal
  rw [hw.operand_eq, hw'.operand_eq] at ht
  have hparts := Text.intercalate_inj hw.comma hw'.comma hw.ne_nil hw'.ne_nil (Except.ok.inj ht)
  have hfragments : o.fragments = o'.fragments := Text.eq_of_map_eq
    (fun f hf g hg => Fragment.eq_of_text_eq (h.valid f hf) (h'.valid g hg)) hparts
  have hread := (Legible.singleton h hkind).read?_flatMap
  have hread' := (Legible.singleton h' hkind').read?_flatMap
  rw [List.flatMap_singleton, hfragments] at hread
  rw [List.flatMap_singleton, hread] at hread'
  exact (List.cons.inj (Option.some.inj hread')).1

end Operand

namespace Instruction

variable {i j : Instruction} {os os' : List Operand} {decimal : Bool} {text : String}

/-- The text of an instruction with legible operands tells its operation and its operands. -/
theorem normal_eq_of_render_eq (hold : i.operands.Holds os) (hold' : j.operands.Holds os')
    (h : Operand.Legible os) (h' : Operand.Legible os') (hr : i.render decimal = .ok text)
    (hr' : j.render decimal = .ok text) :
    i.operation = j.operation ∧ os.map Operand.normal = os'.map Operand.normal := by
  obtain ⟨hop, hparts⟩ := parts_eq_of_render_eq hold hold' (h.writtenAs decimal)
    (h'.writtenAs decimal) hr hr'
  have htexts : (os.flatMap Operand.fragments).map (Fragment.text decimal) =
      (os'.flatMap Operand.fragments).map (Fragment.text decimal) := by
    simpa only [List.map_flatMap] using hparts
  have hfragments := Text.eq_of_map_eq
    (fun f hf g hg => Fragment.eq_of_text_eq (h.valid f hf) (h'.valid g hg)) htexts
  have hread := h.read?_flatMap
  rw [hfragments, h'.read?_flatMap] at hread
  exact ⟨hop, (Option.some.inj hread).symm⟩

end Instruction

end A64
