import A64.Proofs.DecodeContract
import A64.Proofs.Fragment

/-!
# Encodings whose text tells the word

If encodings are faithful and all their operands can be read off their texts, two words that these
encodings describe and that have the same text at one address are the same word. Both conditions are
finite checks on the outlines of the encodings, which do not depend on an address that operands are
relative to.
-/

namespace A64

theorem printable_of_decode {word : Word} {address : Address} {group : Group} {i : Instruction}
    (hgroup : Group.ofWord? word = some group) (hne : group ≠ .unallocated)
    (h : decode word address = .ok i) : ∀ o ∈ i.operands.toList, o.Printable := by
  obtain ⟨f, hf, hmeaning⟩ := Decode.exists_form word hne
  exact (hf.ok ((hmeaning address).symm.trans (meaning_of_decode hgroup hne h).2)).2.2

namespace Encoding

variable {es es' : List Encoding}

/-- What the checks see of an encoding: all but its operands. -/
def outline (e : Encoding) : Operation × List Kind × List Field :=
  (e.operation, e.slots.map (·.kind), e.fixed.map (·.1) ++ Slot.fields e.slots)

/-- The encodings are faithful, and a text shows all of their operands. -/
structure Readable (es : List Encoding) : Prop where
  faithful : Faithful es
  legible : ∀ e ∈ es, Kind.areLegible (e.slots.map (·.kind)) = true

/-- The check that encodings are readable, on their outlines. -/
def checkText (outlines : List (Operation × List Kind × List Field)) : Bool :=
  outlines.all (fun o => decide (Field.mask o.2.2 = BitVec.allOnes 32) && Kind.areLegible o.2.1) &&
    distinct 24 (outlines.map fun o => code o.1 o.2.1)

theorem readable_of_checkText (h : checkText (es.map outline) = true) : Readable es := by
  simp only [checkText, List.all_map, List.map_map, Bool.and_eq_true, List.all_eq_true,
    Function.comp_apply, decide_eq_true_eq] at h
  exact ⟨⟨fun e he => (h.1 e he).1, nodup_of_distinct h.2⟩, fun e he => (h.1 e he).2⟩

variable {word word' : Word} {address : Address} {decimal : Bool} {i i' : Instruction}
  {text : String} {group : Group}

/-- Words of readable encodings with the same text at one address are the same. -/
theorem Readable.word_eq (hes : Readable es) (hne : group ≠ .unallocated)
    (hgroup : Group.ofWord? word = some group) (hgroup' : Group.ofWord? word' = some group)
    (h : decode word address = .ok i) (h' : decode word' address = .ok i')
    (hd : Described es word ⟨i.operation, i.operands.toList⟩)
    (hd' : Described es word' ⟨i'.operation, i'.operands.toList⟩)
    (ht : i.render decimal = .ok text) (ht' : i'.render decimal = .ok text) : word = word' := by
  have hlegible {w : Word} {d : Decoded} (hd : Described es w d)
      (hprint : ∀ o ∈ d.operands, o.Printable) : Operand.Legible d.operands := by
    obtain ⟨e, he, hdescribes⟩ := hd
    refine ⟨hprint, ?_⟩
    rw [hdescribes.meaning, Slot.map_kind]
    exact hes.legible e he
  obtain ⟨hop, hos⟩ := Instruction.normal_eq_of_render_eq
    (meaning_of_decode hgroup hne h).1 (meaning_of_decode hgroup' hne h').1
    (hlegible hd (printable_of_decode hgroup hne h))
    (hlegible hd' (printable_of_decode hgroup' hne h')) ht ht'
  exact hes.faithful.word_eq hd hd' hop hos

end Encoding

end A64
