import A64.Proofs.Encodings.Memory

/-!
# Encodings of loads and stores of structures

The encodings of accesses to whole vectors, to one lane of each and to all lanes alike, with the
theorem for each decoder that they describe what it accepts.
-/

namespace A64.Decode

open Encoding Slot

variable {w : Word} {d : Decoded}

/-- Consecutive vectors of 64 bits, or of 128 by bit 30. -/
def vectors (count : Nat) (e : ElementSize) : Slot where
  kind := .list e count false
  operand := fun w => vectorList w.rt count (.full e w.q) none
  shown := if e = .q then [⟨rd, 5⟩] else [⟨rd, 5⟩, ⟨30, 1⟩]
  Holds := fun _ => True
  kind_operand := fun w => if_pos ⟨rfl, w.rt.isLt⟩
  faithful := by
    intro w w' _ _ h
    have hlist := Operand.registerList.inj h
    have hrt : w.field 0 5 = w'.field 0 5 :=
      BitVec.eq_of_toNat_eq (congrArg (fun l => l.first.number) hlist)
    have hlanes : (Arrangement.full e w.q).lanes = (Arrangement.full e w'.q).lanes :=
      congrArg (fun l => l.arrangement.lanes) hlist
    split
    · simp [hrt]
    · rename_i he
      have hq : w.bit 30 = w'.bit 30 := full_injective he hlanes
      have hfield : w.field 30 1 = w'.field 30 1 := by
        rw [Word.field_eq_bit, hq, Word.ofNat_bit]
      simp [hrt, hfield]

/-- The lane that an access to single elements selects. -/
structure LaneChoice where
  element : ElementSize
  index : Word → Nat
  shown : List Field
  fixed : List (Field × Nat)
  faithful : ∀ w w', index w = index w' → ∀ f ∈ shown, f.Same w w'

/-- One lane of consecutive vectors. -/
def lanes (count : Nat) (c : LaneChoice) : Slot where
  kind := .list c.element count true
  operand := fun w => vectorList w.rt count (.single c.element) (some (c.index w))
  shown := ⟨rd, 5⟩ :: c.shown
  Holds := fun _ => True
  kind_operand := fun w => if_pos ⟨rfl, w.rt.isLt⟩
  faithful := by
    intro w w' _ _ h
    have hlist := Operand.registerList.inj h
    have hrt : w.field 0 5 = w'.field 0 5 :=
      BitVec.eq_of_toNat_eq (congrArg (fun l => l.first.number) hlist)
    have hindex := Option.some.inj (congrArg RegisterList.lane hlist)
    exact List.forall_mem_cons.2 ⟨hrt, c.faithful w w' hindex⟩

def atBase (op : Operation) (list : Slot) (fixed : List (Field × Nat)) : Encoding :=
  ⟨op, [list, .base], fixed ++ [(⟨23, 1⟩, 0), (⟨16, 5⟩, 0)]⟩

def advancingByBytes (op : Operation) (list : Slot) (bytes : Word → Nat)
    (fixed : List (Field × Nat)) : Encoding :=
  ⟨op, [list, .postIndex (.blank fun w => bytes w)], fixed ++ [(⟨23, 1⟩, 1), (⟨16, 5⟩, 31)]⟩

def advancingByRegister (op : Operation) (list : Slot) (fixed : List (Field × Nat)) : Encoding :=
  ⟨op, [list, .postRegister], fixed ++ [(⟨23, 1⟩, 1)]⟩

/-- The encodings of an access that may advance its base. -/
def advancing (op : Operation) (list : Slot) (bytes : Word → Nat) (fixed : List (Field × Nat)) :
    List Encoding :=
  [atBase op list fixed, advancingByBytes op list bytes fixed, advancingByRegister op list fixed]

theorem described_advancing {op : Operation} {list : Slot} {bytes : Word → Nat}
    {fixed : List (Field × Nat)} (hw : HasFields fixed w) (hlist : list.Holds w)
    (hindex : ¬ (w.bit 23 = false ∧ w.rm ≠ 0)) :
    Described (advancing op list bytes fixed) w
      ⟨op, [list.operand w, memory w.rn (structureMode w (bytes w))]⟩ := by
  unfold structureMode
  split <;> rename_i h23
  · have hrm : w.field 16 5 = 0 := not_not.1 fun hne => hindex ⟨h23, hne⟩
    refine .of_mem (e := atBase op list fixed) (by simp [advancing])
      ⟨?_, by simp [atBase, hlist], rfl⟩
    exact hasFields_append.2 ⟨hw, by simp [Word.field_eq_zero_iff.2 h23, hrm]⟩
  · have h23 := Word.field_eq_one_iff.2 (eq_true_of_ne_false h23)
    split <;> rename_i hrm
    · have hrm : w.field 16 5 = 31 := hrm
      refine .of_mem (e := advancingByBytes op list bytes fixed) (by simp [advancing])
        ⟨?_, by simp [advancingByBytes, hlist], rfl⟩
      exact hasFields_append.2 ⟨hw, by simp [h23, hrm]⟩
    · refine .of_mem (e := advancingByRegister op list fixed) (by simp [advancing])
        ⟨?_, by simp [advancingByRegister, hlist], rfl⟩
      exact hasFields_append.2 ⟨hw, by simp [h23]⟩

def multipleEncodings : List Encoding :=
  ofTable (bitVectors 4) structureShape? fun opcode (count, elements) =>
    (flagged (bitVectors 2)).flatMap fun (load, size) =>
      advancing (structureOperation load elements) (vectors count (.ofField size))
        (fun w => count * if w.q then 16 else 8)
        (MemoryClass.multipleStructures.fixed ++ [(⟨21, 1⟩, 0), (⟨22, 1⟩, load.toNat),
          (⟨12, 4⟩, opcode.toNat), (⟨10, 2⟩, size.toNat)])

theorem described_multipleStructures (hw : HasFields MemoryClass.multipleStructures.fixed w)
    (h : multipleStructures w = .ok d) : Described multipleEncodings w d := by
  simp only [multipleStructures] at h
  split at h
  · cases h
  · rename_i h21
    split at h
    · cases h
    · rename_i hindex
      split at h
      · cases h
      · rename_i count elements hrow
        split at h <;> cases h
        refine .ofTable (mem_bitVectors _) hrow (.flatMap (a := (w.bit 22, w.field 10 2)) (by simp)
          (described_advancing ?_ trivial hindex))
        simp [hw, Word.field_eq_zero_iff.2 (eq_false_of_ne_true h21)]

def byteLane : LaneChoice where
  element := .b
  index := fun w => (w.field 30 1 ++ w.field 12 1 ++ w.field 10 2).toNat
  shown := [⟨30, 1⟩, ⟨12, 1⟩, ⟨10, 2⟩]
  fixed := [(⟨14, 2⟩, 0)]
  faithful := by
    intro w w' h
    obtain ⟨hfirst, hsize⟩ := Field.append_inj (BitVec.eq_of_toNat_eq h)
    obtain ⟨hq, hs⟩ := Field.append_inj hfirst
    simp [hq, hs, hsize]

def halfLane : LaneChoice where
  element := .h
  index := fun w => (w.field 30 1 ++ w.field 12 1 ++ w.field 11 1).toNat
  shown := [⟨30, 1⟩, ⟨12, 1⟩, ⟨11, 1⟩]
  fixed := [(⟨14, 2⟩, 1), (⟨10, 1⟩, 0)]
  faithful := by
    intro w w' h
    obtain ⟨hfirst, hsize⟩ := Field.append_inj (BitVec.eq_of_toNat_eq h)
    obtain ⟨hq, hs⟩ := Field.append_inj hfirst
    simp [hq, hs, hsize]

def wordLane : LaneChoice where
  element := .s
  index := fun w => (w.field 30 1 ++ w.field 12 1).toNat
  shown := [⟨30, 1⟩, ⟨12, 1⟩]
  fixed := [(⟨14, 2⟩, 2), (⟨10, 2⟩, 0)]
  faithful := by
    intro w w' h
    obtain ⟨hq, hs⟩ := Field.append_inj (BitVec.eq_of_toNat_eq h)
    simp [hq, hs]

def doubleLane : LaneChoice where
  element := .d
  index := fun w => (w.field 30 1).toNat
  shown := [⟨30, 1⟩]
  fixed := [(⟨14, 2⟩, 2), (⟨10, 2⟩, 1), (⟨12, 1⟩, 0)]
  faithful := by
    intro w w' h
    simp [BitVec.eq_of_toNat_eq h]

/-- The choices of a lane, each of which uses the bits that the element leaves. -/
def laneChoices : List LaneChoice := [byteLane, halfLane, wordLane, doubleLane]

theorem structureLane_eq_ok {e : ElementSize} {lane : Nat} (htop : w.field 14 2 ≠ 0b11)
    (h : structureLane w = .ok (e, lane)) :
    ∃ c ∈ laneChoices, HasFields c.fixed w ∧ e = c.element ∧ lane = c.index w := by
  simp only [structureLane] at h
  split at h <;> rename_i h14
  · cases h
    have hfixed : HasFields byteLane.fixed w := by simp [byteLane, h14]
    exact ⟨byteLane, by simp [laneChoices], hfixed, rfl, rfl⟩
  · split at h <;> rename_i h10 <;> cases h
    have h10 := Word.field_eq_zero_iff.2 (eq_false_of_ne_true h10)
    have hfixed : HasFields halfLane.fixed w := by simp [halfLane, h14, h10]
    exact ⟨halfLane, by simp [laneChoices], hfixed, rfl, rfl⟩
  · rename_i h14'
    have htwo : ∀ b : BitVec 2, b ≠ 0 → b ≠ 1 → b ≠ 3 → b = 2 := by decide
    have h14 := htwo _ h14' h14 htop
    split at h <;> rename_i hsize
    · cases h
      have hfixed : HasFields wordLane.fixed w := by simp [wordLane, h14, hsize]
      exact ⟨wordLane, by simp [laneChoices], hfixed, rfl, rfl⟩
    · split at h <;> rename_i hs <;> cases h
      have h12 := Word.field_eq_zero_iff.2 hs.2
      have hfixed : HasFields doubleLane.fixed w := by simp [doubleLane, h14, hs.1, h12]
      exact ⟨doubleLane, by simp [laneChoices], hfixed, rfl, rfl⟩

/-- The number of elements of a structure, less one, and the fields that hold it. -/
def elementFields (high low : BitVec 1) : List (Field × Nat) :=
  [(⟨13, 1⟩, high.toNat), (⟨21, 1⟩, low.toNat)]

def laneEncodings : List Encoding :=
  (flagged (bitPairs 1 1)).flatMap fun (load, high, low) =>
    laneChoices.flatMap fun c =>
      advancing (structureOperation load (high ++ low)) (lanes ((high ++ low).toNat + 1) c)
        (fun _ => ((high ++ low).toNat + 1) * bytes c.element.log2)
        (MemoryClass.singleStructure.fixed ++ (⟨22, 1⟩, load.toNat) :: elementFields high low ++
          c.fixed)

def replicateEncodings : List Encoding :=
  (bitPairs 1 1).flatMap fun (high, low) =>
    (bitVectors 2).flatMap fun size =>
      advancing (replicateOperation (high ++ low))
        (vectors ((high ++ low).toNat + 1) (.ofField size))
        (fun _ => ((high ++ low).toNat + 1) * bytes size.toNat)
        (MemoryClass.singleStructure.fixed ++ [(⟨14, 2⟩, 3), (⟨22, 1⟩, 1), (⟨12, 1⟩, 0),
          (⟨10, 2⟩, size.toNat)] ++ elementFields high low)

def singleEncodings : List Encoding := [replicateEncodings, laneEncodings].flatten

theorem described_singleStructure (hw : HasFields MemoryClass.singleStructure.fixed w)
    (h : singleStructure w = .ok d) : Described singleEncodings w d := by
  have helements : HasFields (elementFields (w.field 13 1) (w.field 21 1)) w := by
    simp [elementFields]
  simp only [singleStructure] at h
  split at h
  · cases h
  · rename_i hindex
    split at h <;> rename_i h14
    · split at h <;> rename_i hbits <;> cases h
      rw [not_or] at hbits
      have h22 := Word.field_eq_one_iff.2 (eq_true_of_ne_false hbits.1)
      have h12 := Word.field_eq_zero_iff.2 (eq_false_of_ne_true hbits.2)
      refine .of_part (l := replicateEncodings) (by simp) ?_
      refine .flatMap (mem_bitPairs (w.field 13 1) (w.field 21 1)) ?_
      refine .flatMap (mem_bitVectors (w.field 10 2)) (described_advancing ?_ trivial hindex)
      simp [hw, helements, h14, h22, h12]
    · cases hlane : structureLane w with
      | error reason => simp [hlane, reserved] at h
      | ok choice =>
        obtain ⟨e, lane⟩ := choice
        simp only [hlane] at h
        cases h
        obtain ⟨c, hc, hfixed, rfl, rfl⟩ := structureLane_eq_ok h14 hlane
        have hbits : (w.bit 22, w.field 13 1, w.field 21 1) ∈ flagged (bitPairs 1 1) :=
          mem_flagged.2 (mem_bitPairs _ _)
        refine .of_part (l := laneEncodings) (by simp) (.flatMap hbits ?_)
        refine .flatMap hc (described_advancing ?_ trivial hindex)
        simp [hw, helements, hfixed]

end A64.Decode
