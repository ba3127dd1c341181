import A64.Proofs.Operands
import A64.Proofs.Piece

/-!
# Operands spelled in pieces

The text of an instruction whose operands are spelled in pieces tells its operation and the pieces,
one after the other. It does not tell where one operand ends and the next begins; what is read from
the pieces must not depend on that.
-/

namespace A64

def Immediate.pieces (width : Nat) (i : Immediate) : List Piece :=
  .number (if i.signed then (i.value.setWidth width).toInt else (i.value.setWidth width).toNat) ::
    i.shift.toList.map .shift

namespace Operand

def pieces : Operand → List Piece
  | imm32 i => i.pieces 32
  | imm64 i => i.pieces 64
  | register r => .register r.register :: r.shift.toList.map .shift
  | label target => [.number target.toNat]
  | condition c => [.condition c]
  | _ => []

/-- The operand is written by its pieces. -/
def Spelled : Operand → Prop
  | imm32 i | imm64 i => i.decimal = false
  | register r => r.arrangement = none ∧ r.lane = none ∧ r.register.IsGeneral
  | label _ | condition _ => True
  | _ => False

variable {o : Operand}

theorem Spelled.pieces_ne_nil (h : o.Spelled) : o.pieces ≠ [] := by
  cases o with
  | float bits | registerList l | systemRegister r | memory m | systemEncoding e => exact h.elim
  | _ => simp [pieces, Immediate.pieces]

theorem Spelled.valid (h : o.Spelled) : ∀ p ∈ o.pieces, p.Valid := by
  cases o with
  | register r =>
    intro p hp
    rcases List.mem_cons.1 hp with rfl | hp
    · exact h.2.2
    · obtain ⟨s, -, rfl⟩ := List.mem_map.1 hp
      trivial
  | float bits | registerList l | systemRegister r | memory m | systemEncoding e => exact h.elim
  | imm32 i | imm64 i => simp [pieces, Immediate.pieces, Piece.Valid]
  | label target | condition c => simp [pieces, Piece.Valid]

theorem valid_of_spelled {os : List Operand} (h : ∀ o ∈ os, o.Spelled) :
    ∀ p ∈ os.flatMap pieces, p.Valid := by
  intro p hp
  obtain ⟨o, ho, hpo⟩ := List.mem_flatMap.1 hp
  exact (h o ho).valid p hpo

end Operand

namespace Text

def pieceTexts (decimal : Bool) (ps : List Piece) : List String := ps.map (Piece.text decimal)

theorem intercalate_shift (first : String) (shift? : Option Shift) (decimal : Bool) :
    ", ".intercalate (first :: pieceTexts decimal (shift?.toList.map .shift)) =
      first ++ shiftSuffix shift? := by
  cases shift? <;> simp [pieceTexts, shiftSuffix, Piece.text, String.append_assoc]

theorem signed_natCast (decimal : Bool) (n : Nat) : signed decimal n = number decimal n := by
  have hn : ¬ (n : Int) < 0 := by omega
  simp [signed, hn]

theorem immediate_eq (decimal : Bool) (width : Nat) {i : Immediate} (h : i.decimal = false) :
    immediate decimal width i = ", ".intercalate (pieceTexts decimal (i.pieces width)) := by
  rw [Immediate.pieces, pieceTexts, List.map_cons, ← pieceTexts, intercalate_shift, immediate,
    Piece.text]
  congr 2
  cases hs : i.signed with
  | true => simp [immediateValue, hs]
  | false =>
    simp only [immediateValue, hs, h, Bool.false_eq_true, ↓reduceIte]
    rw [signed_natCast]

theorem operand_eq {o : Operand} (h : o.Spelled) (decimal : Bool) :
    operand decimal o = .ok (", ".intercalate (pieceTexts decimal o.pieces)) := by
  cases o with
  | imm32 i => exact congrArg Except.ok (immediate_eq decimal 32 h)
  | imm64 i => exact congrArg Except.ok (immediate_eq decimal 64 h)
  | register r =>
    obtain ⟨reg, arrangement, lane, shift⟩ := r
    obtain ⟨rfl, rfl, -, hin⟩ := h
    obtain ⟨name, hname⟩ := hin.exists_name
    have htext : Piece.text decimal (.register reg) = name := by simp [Piece.text, hname]
    simp only [operand, register, registerName, hname, vectorSuffix, Operand.pieces, pieceTexts,
      List.map_cons, htext]
    rw [← pieceTexts, intercalate_shift]
    show Except.ok (name ++ "" ++ shiftSuffix shift) = _
    rw [String.append_empty]
  | label target => simp [operand, Operand.pieces, pieceTexts, Piece.text, signed_natCast]
  | condition c => simp [operand, Operand.pieces, pieceTexts, Piece.text]
  | _ => exact h.elim

/-- The operand is written as the given texts, with commas between them. -/
structure WrittenAs (decimal : Bool) (parts : List String) (o : Operand) : Prop where
  operand_eq : operand decimal o = .ok (", ".intercalate parts)
  ne_nil : parts ≠ []
  comma : ∀ t ∈ parts, ',' ∉ t.toList

section

variable {os : List Operand} {decimal : Bool} {parts : Operand → List String}

theorem operands_eq (h : ∀ o ∈ os, WrittenAs decimal (parts o) o) (mnemonic : String)
    (index : Nat) :
    operands decimal mnemonic index (os.map some) =
      .ok (os.map fun o => ", ".intercalate (parts o)) := by
  induction os generalizing index with
  | nil => rfl
  | cons o os ih =>
    have ho := (h o List.mem_cons_self).operand_eq
    have hos := ih (fun o' ho' => h o' (List.mem_cons_of_mem _ ho')) (index + 1)
    simp only [List.map_cons, operands, slot, ho, hos]
    rfl

theorem intercalate_operands (h : ∀ o ∈ os, parts o ≠ []) :
    ", ".intercalate (os.map fun o => ", ".intercalate (parts o)) =
      ", ".intercalate (os.flatMap parts) := by
  induction os with
  | nil => rfl
  | cons o os ih =>
    have ho : parts o ≠ [] := h o List.mem_cons_self
    cases os with
    | nil => simp
    | cons o' os =>
      have hrest := ih fun o'' ho'' => h o'' (List.mem_cons_of_mem _ ho'')
      have ho' : (o' :: os).flatMap parts ≠ [] := by simp [h o' (by simp)]
      have hcons : (o :: o' :: os).flatMap parts = parts o ++ (o' :: os).flatMap parts :=
        List.flatMap_cons
      rw [List.map_cons, String.intercalate_cons_of_ne_nil (by simp), hrest, hcons]
      generalize (o' :: os).flatMap parts = rest at ho' ⊢
      rw [String.intercalate_append_of_ne_nil ho ho']

end

/-- Texts without commas can be told apart when commas join them. -/
theorem intercalate_inj {l l' : List String} (hl : ∀ t ∈ l, ',' ∉ t.toList)
    (hl' : ∀ t ∈ l', ',' ∉ t.toList) (hne : l ≠ []) (hne' : l' ≠ [])
    (h : ", ".intercalate l = ", ".intercalate l') : l = l' := by
  induction l generalizing l' with
  | nil => exact absurd rfl hne
  | cons t l ih =>
    obtain ⟨t', l', rfl⟩ := List.exists_cons_of_ne_nil hne'
    have ht : ',' ∉ t.toList := hl t List.mem_cons_self
    have ht' : ',' ∉ t'.toList := hl' t' List.mem_cons_self
    have hchars := congrArg String.toList h
    have hcomma (u : String) (l : List String) (v : String) :
        (", ".intercalate (u :: v :: l)).toList =
          u.toList ++ ',' :: ' ' :: (", ".intercalate (v :: l)).toList := by
      simp only [String.intercalate_cons_cons, String.toList_append, List.append_assoc]
      rfl
    -- If only one of the lists goes on, only one of the texts has a comma after the first.
    cases l with
    | nil =>
      cases l' with
      | nil => simpa using h
      | cons u' l' =>
        rw [hcomma, String.intercalate_singleton] at hchars
        have hmem : ',' ∈ t.toList := by
          rw [hchars]
          exact List.mem_append_right _ List.mem_cons_self
        exact absurd hmem ht
    | cons u l =>
      cases l' with
      | nil =>
        rw [hcomma, String.intercalate_singleton] at hchars
        have hmem : ',' ∈ t'.toList := by
          rw [← hchars]
          exact List.mem_append_right _ List.mem_cons_self
        exact absurd hmem ht'
      | cons u' l' =>
        rw [hcomma, hcomma] at hchars
        obtain ⟨hfirst, hrest⟩ := append_cons_inj ht ht' hchars
        have htail := ih (fun v hv => hl v (List.mem_cons_of_mem _ hv))
          (fun v hv => hl' v (List.mem_cons_of_mem _ hv)) (by simp) (by simp)
          (String.toList_inj.1 (List.cons.inj hrest).2)
        rw [String.toList_inj.1 hfirst, htail]

/-- If a function tells what another one says of the members of two lists, it tells this of the
lists. -/
theorem map_eq_of_map_eq {α β γ : Type} {f : α → β} {g : α → γ} {l l' : List α}
    (hf : ∀ a ∈ l, ∀ b ∈ l', f a = f b → g a = g b) (h : l.map f = l'.map f) :
    l.map g = l'.map g := by
  induction l generalizing l' with
  | nil => rw [List.map_eq_nil_iff.1 h.symm]
  | cons a l ih =>
    cases l' with
    | nil => cases h
    | cons b l' =>
      obtain ⟨hfirst, hrest⟩ := List.cons.inj h
      have htail := ih (fun a ha b hb => hf a (List.mem_cons_of_mem _ ha) b
        (List.mem_cons_of_mem _ hb)) hrest
      rw [List.map_cons, List.map_cons, hf a List.mem_cons_self b List.mem_cons_self hfirst, htail]

theorem eq_of_map_eq {α β : Type} {f : α → β} {l l' : List α}
    (hf : ∀ a ∈ l, ∀ b ∈ l', f a = f b → a = b) (h : l.map f = l'.map f) : l = l' := by
  simpa using map_eq_of_map_eq (g := id) hf h

end Text

theorem Operand.Spelled.writtenAs {o : Operand} (h : o.Spelled) (decimal : Bool) :
    Text.WrittenAs decimal (Text.pieceTexts decimal o.pieces) o where
  operand_eq := Text.operand_eq h decimal
  ne_nil := by simpa [Text.pieceTexts] using h.pieces_ne_nil
  comma := List.forall_mem_map.2 fun p hp => (h.valid p hp).comma_notMem

namespace Instruction

variable {i j : Instruction} {os os' : List Operand} {decimal : Bool} {text : String}
  {parts : Operand → List String}

theorem render_eq_line (hold : i.operands.Holds os)
    (h : ∀ o ∈ os, Text.WrittenAs decimal (parts o) o) (hr : i.render decimal = .ok text) :
    text = Text.line i.operation.name (os.map fun o => ", ".intercalate (parts o)) := by
  obtain ⟨texts, htexts, rfl⟩ := exists_texts_of_render hr
  rw [hold.used, Text.operands_eq h] at htexts
  rw [← Except.ok.inj htexts]
  rfl

/-- The text of an instruction tells its operation and the parts of its operands. -/
theorem parts_eq_of_render_eq (hold : i.operands.Holds os) (hold' : j.operands.Holds os')
    (h : ∀ o ∈ os, Text.WrittenAs decimal (parts o) o)
    (h' : ∀ o ∈ os', Text.WrittenAs decimal (parts o) o) (hr : i.render decimal = .ok text)
    (hr' : j.render decimal = .ok text) :
    i.operation = j.operation ∧ os.flatMap parts = os'.flatMap parts := by
  have hline := render_eq_line hold h hr
  rw [render_eq_line hold' h' hr'] at hline
  obtain ⟨hop, htexts, hnil⟩ := Text.line_inj hline.symm
  refine ⟨hop, ?_⟩
  rw [Text.intercalate_operands fun o ho => (h o ho).ne_nil,
    Text.intercalate_operands fun o ho => (h' o ho).ne_nil] at htexts
  have hcomma {l : List Operand} (hl : ∀ o ∈ l, Text.WrittenAs decimal (parts o) o) :
      ∀ t ∈ l.flatMap parts, ',' ∉ t.toList := by
    intro t ht
    obtain ⟨o, ho, hto⟩ := List.mem_flatMap.1 ht
    exact (hl o ho).comma t hto
  cases os with
  | nil =>
    have hnil' : os' = [] := by simpa using hnil
    rw [hnil']
  | cons o os =>
    obtain ⟨o', os', rfl⟩ : ∃ o' t, os' = o' :: t :=
      List.exists_cons_of_ne_nil fun hos' => by simp [hos'] at hnil
    have hne := (h o List.mem_cons_self).ne_nil
    have hne' := (h' o' List.mem_cons_self).ne_nil
    exact Text.intercalate_inj (hcomma h) (hcomma h') (by simp [hne]) (by simp [hne']) htexts

theorem pieces_eq_of_render_eq (hold : i.operands.Holds os) (hold' : j.operands.Holds os')
    (h : ∀ o ∈ os, o.Spelled) (h' : ∀ o ∈ os', o.Spelled) (hr : i.render decimal = .ok text)
    (hr' : j.render decimal = .ok text) :
    i.operation = j.operation ∧ os.flatMap Operand.pieces = os'.flatMap Operand.pieces := by
  obtain ⟨hop, hparts⟩ := parts_eq_of_render_eq hold hold'
    (fun o ho => (h o ho).writtenAs decimal) (fun o ho => (h' o ho).writtenAs decimal) hr hr'
  have htexts : Text.pieceTexts decimal (os.flatMap Operand.pieces) =
      Text.pieceTexts decimal (os'.flatMap Operand.pieces) := by
    simpa only [Text.pieceTexts, List.map_flatMap] using hparts
  refine ⟨hop, Text.eq_of_map_eq (fun p hp q hq => ?_) htexts⟩
  exact (Operand.valid_of_spelled h p hp).eq_of_text_eq (Operand.valid_of_spelled h' q hq)

end Instruction

end A64
