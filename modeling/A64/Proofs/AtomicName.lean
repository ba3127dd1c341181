import A64.Proofs.DecodeContract

/-!
# Names of atomic operations

The mnemonic of an atomic operation is composed of what is done to memory, the order of the access
and its size, and a word has a field for each of these. The decoder has a table of all combinations,
so the first lemmas check that every entry has the name of its place. `Word.AtomicReads` then says
what a word reads as: it combines, exchanges or only loads, and a word that combines and discards
what it loads reads as a store.
-/

namespace A64

namespace AtomicName

def combination (opc : BitVec 3) : String :=
  #v["add", "clr", "eor", "set", "smax", "smin", "umax", "umin"][opc.toNat]

/-- A letter each for an access that acquires and one that releases. -/
def order (acquire release : Bool) : String :=
  (if acquire then "a" else "") ++ if release then "l" else ""

/-- The letter of an access to a byte or to two; words and doublewords have none. -/
def size (code : BitVec 2) : String :=
  if code = 0b00 then "b" else if code = 0b01 then "h" else ""

end AtomicName

namespace Decode

open AtomicName

theorem name_atomicLoad : ∀ (opc : BitVec 3) (acquire release : Bool) (code : BitVec 2),
    (atomicLoad (.ofBits opc) acquire release (.ofBits code)).name =
      "ld" ++ combination opc ++ order acquire release ++ size code := by
  decide +kernel

/-- The name of a store is that of the load which does not acquire, but for its first letters. -/
theorem name_atomicStore : ∀ (opc : BitVec 3) (release : Bool) (code : BitVec 2),
    (atomicStore (.ofBits opc) release (.ofBits code)).name =
      "st" ++ combination opc ++ order false release ++ size code := by
  decide +kernel

theorem name_atomicSwap : ∀ (acquire release : Bool) (code : BitVec 2),
    (atomicSwap acquire release (.ofBits code)).name =
      "swp" ++ order acquire release ++ size code := by
  decide +kernel

theorem name_loadAcquire : ∀ code : BitVec 2,
    (loadAcquire (.ofBits code)).name = "ldapr" ++ size code := by
  decide +kernel

end Decode

namespace Word

variable (word : Word)

/-- The fixed bits of atomic operations on memory. -/
structure IsAtomic : Prop where
  group : Group.ofWord? word = some .loadStore
  bits28 : word.field 28 2 = 0b11
  bit24 : word.bit 24 = false
  bit21 : word.bit 21 = true
  bits10 : word.field 10 2 = 0b00

/-- The word combines a register with memory. -/
def Combines : Prop := word.bit 15 = false

/-- The word exchanges a register with memory. -/
def Exchanges : Prop := word.bit 15 = true ∧ word.field 12 3 = 0b000

/-- The word loads and does nothing else, and the load acquires. -/
def LoadsAcquire : Prop :=
  word.bit 15 = true ∧ word.field 12 3 = 0b100 ∧ word.bit 23 = true ∧ word.bit 22 = false ∧
    word.rs = 31

/-- The word does not acquire what it loads, and keeps nothing of it. -/
def Discards : Prop := word.bit 23 = false ∧ word.rt = 31

/-- The word has a form with a meaning, and none of vector registers. -/
def HasAtomicForm : Prop :=
  word.bit 26 = false ∧ (word.Combines ∨ word.Exchanges ∨ word.LoadsAcquire)

/-- The order and the size of the access, as a mnemonic ends. -/
def atomicSuffix : String :=
  AtomicName.order (word.bit 23) (word.bit 22) ++ AtomicName.size (word.field 30 2)

def atomicRegister (n : BitVec 5) : Operand :=
  if word.field 30 2 = 0b11 then Decode.x n else Decode.w n

/-- The mnemonic and the operands that a word reads as. -/
inductive AtomicReads : String → List Operand → Prop
  | load (hform : word.Combines) (hkept : ¬ word.Discards) :
    AtomicReads ("ld" ++ AtomicName.combination (word.field 12 3) ++ word.atomicSuffix)
      [word.atomicRegister word.rs, word.atomicRegister word.rt, Decode.memoryBase word.rn]
  | store (hform : word.Combines) (hdiscards : word.Discards) :
    AtomicReads ("st" ++ AtomicName.combination (word.field 12 3) ++ word.atomicSuffix)
      [word.atomicRegister word.rs, Decode.memoryBase word.rn]
  | swap (hform : word.Exchanges) :
    AtomicReads ("swp" ++ word.atomicSuffix)
      [word.atomicRegister word.rs, word.atomicRegister word.rt, Decode.memoryBase word.rn]
  | loadAcquire (hform : word.LoadsAcquire) :
    AtomicReads ("ldapr" ++ AtomicName.size (word.field 30 2))
      [word.atomicRegister word.rt, Decode.memoryBase word.rn]

/-- A meaning reads as the word, which has one of the forms; a word that has none is reserved. -/
def ReadsAs : Decoding → Prop
  | .ok d => word.HasAtomicForm ∧ word.AtomicReads d.operation.name d.operands
  | .error _ => ¬ word.HasAtomicForm

variable {word}

theorem gpr_eq_atomicRegister (n : BitVec 5) :
    Decode.gpr (decide (word.field 30 2 = 3)) n = word.atomicRegister n := by
  unfold atomicRegister
  split
  · rename_i hsize
    rw [hsize]
    rfl
  · rename_i hsize
    rw [decide_eq_false hsize]
    rfl

theorem IsAtomic.memoryClass (h : word.IsAtomic) :
    Decode.MemoryClass.ofWord word = .ok .atomic := by
  simp [Decode.MemoryClass.ofWord, h.bits28, h.bit24, h.bit21, h.bits10]

theorem IsAtomic.meaning_eq (h : word.IsAtomic) (address : Address) :
    Decode.meaning .loadStore word address = Decode.atomic word := by
  simp only [Decode.meaning, Decode.loadStore, h.memoryClass]
  rfl

end Word

namespace Decode

variable {word : Word}

theorem readsAs_combines (hscalar : word.bit 26 = false) (hcombines : word.Combines) :
    word.ReadsAs (atomic word) := by
  have ho3 : word.bit 15 = false := hcombines
  simp only [atomic, Word.gpr_eq_atomicRegister, hscalar, ho3, Bool.false_eq_true, if_false]
  split
  · rename_i hdiscards
    refine ⟨⟨hscalar, .inl hcombines⟩, ?_⟩
    rw [name_atomicStore, String.append_assoc, ← hdiscards.1]
    exact .store hcombines hdiscards
  · rename_i hkept
    refine ⟨⟨hscalar, .inl hcombines⟩, ?_⟩
    rw [name_atomicLoad, String.append_assoc]
    exact .load hcombines hkept

theorem readsAs_exchanges (hscalar : word.bit 26 = false) (hexchanges : word.Exchanges) :
    word.ReadsAs (atomic word) := by
  simp only [atomic, Word.gpr_eq_atomicRegister, hscalar, hexchanges.1, hexchanges.2,
    Bool.false_eq_true, if_false]
  refine ⟨⟨hscalar, .inr (.inl hexchanges)⟩, ?_⟩
  rw [name_atomicSwap, String.append_assoc]
  exact .swap hexchanges

theorem readsAs_of_not_combines (hscalar : word.bit 26 = false) (hcombines : ¬ word.Combines)
    (hexchanges : ¬ word.Exchanges) : word.ReadsAs (atomic word) := by
  -- Of these words only those that load and acquire are left; the decoder names two reasons for the
  -- others, fields of such a load that are wrong and codes without a meaning.
  have ho3 : word.bit 15 = true := Bool.of_not_eq_false hcombines
  have hopc : word.field 12 3 ≠ 0b000 := fun hopc => hexchanges ⟨ho3, hopc⟩
  have hform (h : word.HasAtomicForm) : word.LoadsAcquire :=
    (h.2.resolve_left hcombines).resolve_left hexchanges
  simp only [atomic, Word.gpr_eq_atomicRegister, hscalar, ho3, Bool.false_eq_true, if_false]
  split
  · contradiction
  · exact absurd ‹_› hopc
  · rename_i hopc
    split
    · rename_i hfields
      have hloads : word.LoadsAcquire := ⟨ho3, hopc, hfields⟩
      refine ⟨⟨hscalar, .inr (.inr hloads)⟩, ?_⟩
      rw [name_loadAcquire]
      exact .loadAcquire hloads
    · rename_i hfields
      exact fun h => hfields (hform h).2.2
  · rename_i hopc
    exact fun h => hopc (hform h).2.1

theorem readsAs_atomic (word : Word) : word.ReadsAs (atomic word) := by
  cases hvector : word.bit 26 with
  | true =>
    rw [atomic, if_pos hvector]
    exact fun hform => Bool.false_ne_true (hform.1.symm.trans hvector)
  | false =>
    by_cases hcombines : word.Combines
    · exact readsAs_combines hvector hcombines
    · by_cases hexchanges : word.Exchanges
      · exact readsAs_exchanges hvector hexchanges
      · exact readsAs_of_not_combines hvector hcombines hexchanges

end Decode

/-- An atomic operation is allocated exactly if its word has one of three forms, and its mnemonic
and operands are composed from the fields of the word. -/
theorem decode_atomic {word : Word} (h : word.IsAtomic) (address : Address) :
    ((∃ i, decode word address = .ok i) ↔ word.HasAtomicForm) ∧
      ∀ i, decode word address = .ok i → word.AtomicReads i.mnemonic i.operands.toList := by
  have hreads := Decode.readsAs_atomic word
  have hmeaning (i : Instruction) (hi : decode word address = .ok i) :
      Decode.atomic word = .ok ⟨i.operation, i.operands.toList⟩ := by
    rw [← h.meaning_eq address]
    exact (meaning_of_decode h.group (by decide) hi).2
  refine ⟨⟨?_, fun hform => ?_⟩, fun i hi => ?_⟩
  · rintro ⟨i, hi⟩
    rw [hmeaning i hi] at hreads
    exact hreads.1
  · cases hatomic : Decode.atomic word with
    | error reason =>
      rw [hatomic] at hreads
      exact absurd hform hreads
    | ok d =>
      refine ⟨⟨word, address, .loadStore, d.operation, .ofList d.operands⟩, ?_⟩
      simp only [decode, h.group, h.meaning_eq, hatomic]
  · rw [hmeaning i hi] at hreads
    exact hreads.2

/-- The unsigned maximum of halfwords that releases and is loaded into the zero register. -/
theorem storeMaximum_reads :
    Word.IsAtomic 0x786563ff ∧ ∃ i : Instruction, decode 0x786563ff 0 = .ok i ∧
      i.mnemonic = "stumaxlh" ∧ i.operands.toList = [Decode.w 5, Decode.memoryBase 31] ∧
      Word.HasAtomicForm 0x786563ff ∧
      Word.AtomicReads 0x786563ff i.mnemonic i.operands.toList := by
  have hatomic : Word.IsAtomic 0x786563ff :=
    ⟨by decide, by decide, by decide, by decide, by decide⟩
  have h : decode 0x786563ff 0 = .ok ⟨0x786563ff, 0, .loadStore, .stumaxlh,
      .ofList [Decode.w 5, Decode.memoryBase 31]⟩ := rfl
  obtain ⟨hallocated, hreads⟩ := decode_atomic hatomic 0
  exact ⟨hatomic, _, h, rfl, rfl, hallocated.1 ⟨_, h⟩, hreads _ h⟩

end A64
