import A64.Text
import Mathlib.Algebra.Group.Nat.Defs
import Mathlib.Data.List.Sort

/-!
# Mnemonics

Different operations have different mnemonics, no mnemonic has a tab in it, and none starts like the
placeholder of a word. So a text tells its operation, the part with the operands, and that it is not
a placeholder.
-/

namespace A64

namespace Operation

theorem ctorIdx_lt_count (op : Operation) : op.ctorIdx < count := by
  cases op <;> exact Nat.le_of_ble_eq_true rfl

theorem mem_all (op : Operation) : op ∈ all :=
  List.mem_map.2 ⟨op.ctorIdx, List.mem_range.2 op.ctorIdx_lt_count, ofNat_ctorIdx op⟩

end Operation

namespace Text

/-- The bytes of a text. The checks of all mnemonics below are on bytes, because the kernel gets at
them without decoding the text. -/
def bytes (s : String) : List Byte := s.toByteArray.data.toList

theorem bytes_append (s t : String) : bytes (s ++ t) = bytes s ++ bytes t := by
  rw [bytes, String.toByteArray_append, ByteArray.data_append, Array.toList_append]
  rfl

theorem eq_of_bytes_eq {s t : String} (h : bytes s = bytes t) : s = t := by
  apply String.toByteArray_inj.1
  exact ByteArray.ext (Array.toList_inj.1 h)

/-- Whether the bytes can be a mnemonic: there are some, without a tab and with no dot in front. -/
def isMnemonic (bs : List Byte) : Bool :=
  bs.head?.any (· != '.'.toUInt8) && bs.all (· != '\t'.toUInt8)

/-- A number for a text that sorts short texts alphabetically. -/
def sortKey (s : String) : Nat :=
  (bytes s).foldl (fun n b => n * 256 + b.toNat) 0 * 256 ^ (16 - (bytes s).length)

def isMnemonicByte (b : Byte) : Bool :=
  (Nat.ble 97 b.toNat && Nat.ble b.toNat 122) || (Nat.ble 48 b.toNat && Nat.ble b.toNat 57) ||
    Nat.beq b.toNat 46

def isPlainMnemonic (bs : List Byte) : Bool := isMnemonic bs && bs.all isMnemonicByte

/-- The checks of all mnemonics are one, since most of the work is to get at the bytes. Insertion
sort is fast here: the mnemonics stand almost in order already. -/
theorem names_check :
    (Operation.all.all (fun op => isPlainMnemonic (bytes op.name)) &&
      decide (((Operation.all.map fun op => sortKey op.name).insertionSort (· ≤ ·)).IsChain
        (· < ·))) = true := by
  decide +kernel

theorem bytes_name (op : Operation) :
    isMnemonic (bytes op.name) = true ∧ ∀ b ∈ bytes op.name, isMnemonicByte b = true := by
  have hop := List.all_eq_true.1 (Bool.and_eq_true_iff.1 names_check).1 op op.mem_all
  simpa only [isPlainMnemonic, Bool.and_eq_true, List.all_eq_true] using hop

theorem isMnemonic_name (op : Operation) : isMnemonic (bytes op.name) = true := (bytes_name op).1

/-- Different operations have different mnemonics. -/
theorem name_injective {op op' : Operation} (h : op.name = op'.name) : op = op' := by
  have hchain := of_decide_eq_true (Bool.and_eq_true_iff.1 names_check).2
  have hnodup : (Operation.all.map fun op => sortKey op.name).Nodup := by
    refine (List.perm_insertionSort (· ≤ ·) _).nodup_iff.1 ?_
    exact (List.isChain_iff_pairwise.1 hchain).imp Nat.ne_of_lt
  exact List.inj_on_of_nodup_map hnodup op.mem_all op'.mem_all (by rw [h])

theorem tab_notMem_name (op : Operation) : '\t'.toUInt8 ∉ bytes op.name := by
  have h := isMnemonic_name op
  simp only [isMnemonic, Bool.and_eq_true, List.all_eq_true, bne_iff_ne] at h
  exact fun hmem => h.2 _ hmem rfl

theorem bytes_line_cons (mnemonic t : String) (texts : List String) :
    bytes (line mnemonic (t :: texts)) =
      bytes mnemonic ++ '\t'.toUInt8 :: bytes (", ".intercalate (t :: texts)) := by
  have hline : line mnemonic (t :: texts) =
      mnemonic ++ "\t" ++ ", ".intercalate (t :: texts) := rfl
  rw [hline, bytes_append, bytes_append, List.append_assoc]
  rfl

theorem append_cons_inj {α : Type} {sep : α} {a b s t : List α} (ha : sep ∉ a) (hb : sep ∉ b)
    (h : a ++ sep :: s = b ++ sep :: t) : a = b ∧ s = t := by
  induction a generalizing b with
  | nil =>
    cases b with
    | nil => exact ⟨rfl, (List.cons.inj h).2⟩
    | cons y b =>
      obtain ⟨rfl, -⟩ := List.cons.inj h
      exact absurd List.mem_cons_self hb
  | cons x a ih =>
    cases b with
    | nil =>
      obtain ⟨rfl, -⟩ := List.cons.inj h
      exact absurd List.mem_cons_self ha
    | cons y b =>
      obtain ⟨hxy, hrest⟩ := List.cons.inj h
      obtain ⟨hab, hst⟩ := ih (List.not_mem_of_not_mem_cons ha) (List.not_mem_of_not_mem_cons hb)
        hrest
      exact ⟨by rw [hxy, hab], hst⟩

/-- A text tells its operation and the text of all its operands. -/
theorem line_inj {op op' : Operation} {texts texts' : List String}
    (h : line op.name texts = line op'.name texts') :
    op = op' ∧ ", ".intercalate texts = ", ".intercalate texts' ∧ (texts = [] ↔ texts' = []) := by
  have htab := tab_notMem_name op
  have htab' := tab_notMem_name op'
  have hbytes := congrArg bytes h
  cases texts with
  | nil =>
    cases texts' with
    | nil => exact ⟨name_injective h, rfl, Iff.rfl⟩
    | cons t' ts' =>
      rw [bytes_line_cons] at hbytes
      have hmem : '\t'.toUInt8 ∈ bytes (line op.name []) := by
        rw [hbytes]
        exact List.mem_append_right _ List.mem_cons_self
      exact absurd hmem htab
  | cons t ts =>
    cases texts' with
    | nil =>
      rw [bytes_line_cons] at hbytes
      have hmem : '\t'.toUInt8 ∈ bytes (line op'.name []) := by
        rw [← hbytes]
        exact List.mem_append_right _ List.mem_cons_self
      exact absurd hmem htab'
    | cons t' ts' =>
      rw [bytes_line_cons, bytes_line_cons] at hbytes
      obtain ⟨hname, hrest⟩ := append_cons_inj htab htab' hbytes
      exact ⟨name_injective (eq_of_bytes_eq hname), eq_of_bytes_eq hrest, by simp⟩

theorem line_ne_placeholder (op : Operation) (texts : List String) (word : Word) :
    line op.name texts ≠ placeholder word := by
  have h := isMnemonic_name op
  simp only [isMnemonic, Bool.and_eq_true, Option.any_eq_true, bne_iff_ne] at h
  obtain ⟨⟨b, hb, hne⟩, -⟩ := h
  have hline : (bytes (line op.name texts)).head? = some b := by
    cases texts with
    | nil => exact hb
    | cons t ts => rw [bytes_line_cons, List.head?_append, hb, Option.some_or]
  have hplace : (bytes (placeholder word)).head? = some '.'.toUInt8 := by
    rw [placeholder, bytes_append]
    rfl
  intro heq
  rw [heq, hplace] at hline
  exact hne (Option.some.inj hline).symm

theorem exists_ok_of_bind {ε α β : Type} {x : Except ε α} {f : α → Except ε β} {b : β}
    (h : (x >>= f) = .ok b) : ∃ a, x = .ok a ∧ f a = .ok b := by
  cases x with
  | error e => cases h
  | ok a => exact ⟨a, rfl, h⟩

theorem exists_ok_of_map {ε α β : Type} {x : Except ε α} {f : α → β} {b : β}
    (h : x.map f = .ok b) : ∃ a, x = .ok a ∧ f a = b := by
  cases x with
  | error e => cases h
  | ok a => exact ⟨a, rfl, Except.ok.inj h⟩

theorem forall₂_of_operands {decimal : Bool} {mnemonic : String} {index : Nat}
    {os : List (Option Operand)} {texts : List String}
    (h : operands decimal mnemonic index os = .ok texts) :
    List.Forall₂ (fun o t => slot decimal o = .ok t) os texts := by
  induction os generalizing index texts with
  | nil =>
    cases h
    exact .nil
  | cons o os ih =>
    simp only [operands] at h
    split at h
    · cases h
    · rename_i text htext
      obtain ⟨rest, hrest, rfl⟩ := exists_ok_of_map h
      exact .cons htext (ih hrest)

end Text

/-- The text of an instruction is its mnemonic with the texts of its operands. -/
theorem Instruction.exists_texts_of_render {i : Instruction} {decimal : Bool} {text : String}
    (h : i.render decimal = .ok text) :
    ∃ texts, Text.operands decimal i.mnemonic 0 i.operands.used = .ok texts ∧
      text = Text.line i.mnemonic texts := by
  unfold render at h
  split at h
  · cases h
  · obtain ⟨texts, htexts, rfl⟩ := Text.exists_ok_of_map h
    exact ⟨texts, htexts, rfl⟩

end A64
