import A64.Proofs.Encodings.Memory

/-!
# Encodings of loads and stores of registers

The encodings of atomic operations, of loads from a label and of transfers of one register or a
pair, with the theorem for each decoder that they describe what it accepts.
-/

namespace A64.Decode

open Encoding Slot

variable {w : Word} {d : Decoded}

/-- The fields of an access that select its size and what it does. -/
def accessFields (size opc : BitVec 2) : List (Field × Nat) :=
  [(⟨30, 2⟩, size.toNat), (⟨22, 2⟩, opc.toNat)]

theorem hasFields_access : HasFields (accessFields (w.field 30 2) (w.field 22 2)) w := by
  simp [accessFields]

def releaseConsistentEncodings : List Encoding :=
  ofTable (bitPairs 2 2) (fun (size, opc) => releaseConsistent? size opc)
    fun (size, opc) (op, sf) =>
    [⟨op, [.gpr sf rd, .offset (.signed 12 9)],
      MemoryClass.releaseConsistent.fixed ++ accessFields size opc⟩]

theorem described_releaseConsistent (hw : HasFields MemoryClass.releaseConsistent.fixed w)
    (h : releaseConsistent w = .ok d) : Described releaseConsistentEncodings w d := by
  simp only [releaseConsistent] at h
  split at h <;> cases h
  rename_i op sf hrow
  exact .ofTable (mem_bitPairs (w.field 30 2) (w.field 22 2)) hrow
    (.single ⟨hasFields_append.2 ⟨hw, hasFields_access⟩, by simp, rfl⟩)

def atomicFixed (size : BitVec 2) (acquire release : Bool) : List (Field × Nat) :=
  MemoryClass.atomic.fixed ++
    [(⟨26, 1⟩, 0), (⟨30, 2⟩, size.toNat), (⟨23, 1⟩, acquire.toNat), (⟨22, 1⟩, release.toNat)]

def atomicRegister (size : BitVec 2) (start : Nat) : Slot := .gpr (decide (size = 3)) start

def atomicStoreEncodings : List Encoding :=
  (flagged (bitPairs 2 3)).map fun (release, size, opc) =>
    ⟨atomicStore (.ofBits opc) release (.ofBits size), [atomicRegister size rm, .base],
      atomicFixed size false release ++ [(⟨15, 1⟩, 0), (⟨12, 3⟩, opc.toNat), (⟨0, 5⟩, 31)]⟩

def atomicLoadEncodings : List Encoding :=
  (flagged (flagged (bitPairs 2 3))).map
    fun (acquire, release, size, opc) =>
      ⟨atomicLoad (.ofBits opc) acquire release (.ofBits size),
        [atomicRegister size rm, atomicRegister size rd, .base],
        atomicFixed size acquire release ++ [(⟨15, 1⟩, 0), (⟨12, 3⟩, opc.toNat)]⟩

def atomicSwapEncodings : List Encoding :=
  (flagged (flagged (bitVectors 2))).map fun (acquire, release, size) =>
    ⟨atomicSwap acquire release (.ofBits size),
      [atomicRegister size rm, atomicRegister size rd, .base],
      atomicFixed size acquire release ++ [(⟨15, 1⟩, 1), (⟨12, 3⟩, 0)]⟩

def loadAcquireEncodings : List Encoding :=
  (bitVectors 2).map fun size =>
    ⟨loadAcquire (.ofBits size), [atomicRegister size rd, .base],
      atomicFixed size true false ++ [(⟨15, 1⟩, 1), (⟨12, 3⟩, 4), (⟨16, 5⟩, 31)]⟩

def atomicEncodings : List Encoding :=
  [atomicStoreEncodings, atomicLoadEncodings, atomicSwapEncodings, loadAcquireEncodings].flatten

theorem described_atomic (hw : HasFields MemoryClass.atomic.fixed w) (h : atomic w = .ok d) :
    Described atomicEncodings w d := by
  simp only [atomic] at h
  split at h
  · cases h
  · rename_i h26
    have hfixed : HasFields (atomicFixed (w.field 30 2) (w.bit 23) (w.bit 22)) w := by
      simp [atomicFixed, hw, Word.field_eq_zero_iff.2 (eq_false_of_ne_true h26)]
    split at h <;> rename_i h15
    · have h15 := Word.field_eq_zero_iff.2 h15
      split at h <;> cases h
      · rename_i hstore
        rw [hstore.1] at hfixed
        have hrt : w.field 0 5 = 31#5 := hstore.2
        refine .of_part (l := atomicStoreEncodings) (by simp) ?_
        refine .map (a := (w.bit 22, w.field 30 2, w.field 12 3)) (by simp) ⟨?_, ?_, rfl⟩
        · exact hasFields_append.2 ⟨hfixed, by simp [h15, hrt]⟩
        · simp [atomicRegister]
      · refine .of_part (l := atomicLoadEncodings) (by simp) ?_
        refine .map (a := (w.bit 23, w.bit 22, w.field 30 2, w.field 12 3)) (by simp) ⟨?_, ?_, rfl⟩
        · exact hasFields_append.2 ⟨hfixed, by simp [h15]⟩
        · simp [atomicRegister]
    · rename_i hopc
      cases h
      refine .of_part (l := atomicSwapEncodings) (by simp) ?_
      refine .map (a := (w.bit 23, w.bit 22, w.field 30 2)) (by simp) ⟨?_, ?_, rfl⟩
      · exact hasFields_append.2 ⟨hfixed, by simp [Word.field_eq_one_iff.2 hopc, h15]⟩
      · simp [atomicRegister]
    · rename_i hbit
      split at h <;> cases h
      rename_i hload
      obtain ⟨h23, h22, hrs⟩ := hload
      rw [h23, h22] at hfixed
      have hrs : w.field 16 5 = 31#5 := hrs
      refine .of_part (l := loadAcquireEncodings) (by simp) ?_
      refine .map (a := w.field 30 2) (by simp) ⟨?_, ?_, rfl⟩
      · exact hasFields_append.2 ⟨hfixed, by simp [Word.field_eq_one_iff.2 hbit, h15, hrs]⟩
      · simp [atomicRegister]
    · cases h

/-- The operation and what it loads, by whether that is a scalar and by the size. -/
def literalRow? (v : Bool) (size : BitVec 2) : Option (Operation × Target) :=
  match v, size with
  | false, 0 => some (.ldr, .general false)
  | false, 1 => some (.ldr, .general true)
  | false, 2 => some (.ldrsw, .general true)
  | false, _ => some (.prfm, .prefetch)
  | true, 0 => some (.ldr, .vector .s)
  | true, 1 => some (.ldr, .vector .d)
  | true, 2 => some (.ldr, .vector .q)
  | true, _ => none

theorem literal_eq (w : Word) (address : Address) :
    literal w address =
      match literalRow? (w.bit 26) (w.field 30 2) with
      | some (op, t) => done op [t.operand w.rt, label address ((w.field 5 19).toInt * 4)]
      | none => reserved .vectorLiteral := by
  have hsizes : ∀ b : BitVec 2, b = 0 ∨ b = 1 ∨ b = 2 ∨ b = 3 := by decide
  unfold literal literalRow?
  cases w.bit 26 <;> rcases hsizes (w.field 30 2) with hb | hb | hb | hb <;> rw [hb] <;> rfl

def literalEncodings (address : Address) : List Encoding :=
  ofTable (flagged (bitVectors 2)) (fun (v, size) => literalRow? v size) fun (v, size) (op, t) =>
    [⟨op, [.target rd t, .label address 5 19],
      MemoryClass.literal.fixed ++ [(⟨26, 1⟩, v.toNat), (⟨30, 2⟩, size.toNat)]⟩]

theorem described_literal {address : Address} (hw : HasFields MemoryClass.literal.fixed w)
    (h : literal w address = .ok d) : Described (literalEncodings address) w d := by
  rw [literal_eq] at h
  split at h <;> cases h
  rename_i op t hrow
  refine .ofTable (k := (w.bit 26, w.field 30 2)) (by simp) hrow (.single ⟨?_, by simp, ?_⟩)
  · simp [hw]
  · simp only [List.map_cons, operand_target]
    rfl

def accessTransfer? (v : Bool) (size opc : BitVec 2) : Option Transfer :=
  if v then vectorTransfer? size opc else generalTransfer? size opc

def transferEncodings (cls : AddressingClass) (memory : Nat → Slot)
    (fixed : List (Field × Nat)) : List Encoding :=
  ofTable (flagged (bitPairs 2 2)) (fun (v, size, opc) => accessTransfer? v size opc)
    fun (v, size, opc) t =>
      match mnemonic? cls t.access with
      | some op =>
        if cls = .unprivileged ∧ v = true then []
        else
          [⟨op, [.target rd t.target, memory t.log2],
            fixed ++ ((⟨26, 1⟩, v.toNat) :: accessFields size opc)⟩]
      | none => []

theorem described_singleTransfer {cls : AddressingClass} {memory : Nat → Slot}
    {mode : Nat → AddressingMode} {fixed : List (Field × Nat)} (hw : HasFields fixed w)
    (hmemory : ∀ log2, (memory log2).Holds w ∧
      (memory log2).operand w = Decode.memory w.rn (mode log2))
    (h : singleTransfer w cls mode = .ok d) :
    Described (transferEncodings cls memory fixed) w d := by
  unfold singleTransfer at h
  cases hrow : transfer? w with
  | none => simp [hrow, reserved] at h
  | some t =>
    simp only [hrow] at h
    split at h
    · cases h
    · rename_i hunprivileged
      split at h <;> cases h
      rename_i op hop
      refine .ofTable (k := (w.bit 26, w.field 30 2, w.field 22 2)) (by simp) hrow ?_
      simp only [hop, hunprivileged, ↓reduceIte]
      refine .single ⟨?_, ?_, ?_⟩
      · simp [hw, hasFields_access]
      · simp [(hmemory t.log2).1]
      · simp only [List.map_cons, List.map_nil, operand_target, (hmemory t.log2).2]
        rfl

def unsignedOffsetEncodings : List Encoding :=
  transferEncodings .scaled (fun log2 => .offset (.unsigned 10 12 log2))
    MemoryClass.unsignedOffset.fixed

theorem described_unsignedOffset (hw : HasFields MemoryClass.unsignedOffset.fixed w)
    (h : unsignedOffset w = .ok d) : Described unsignedOffsetEncodings w d :=
  described_singleTransfer hw (fun _ => ⟨trivial, rfl⟩) h

def registerOffsetEncodings : List Encoding :=
  transferEncodings .scaled Slot.extended MemoryClass.registerOffset.fixed

theorem described_registerOffset (hw : HasFields MemoryClass.registerOffset.fixed w)
    (h : registerOffset w = .ok d) : Described registerOffsetEncodings w d := by
  simp only [registerOffset] at h
  split at h
  · cases h
  · exact described_singleTransfer hw (fun _ => ⟨trivial, rfl⟩) h

/-- The fixed fields of a transfer at a signed offset, which divide the addressing classes. -/
def signedFixed (b₁₀ : Nat) : List (Field × Nat) :=
  MemoryClass.signedOffset.fixed ++ [(⟨10, 2⟩, b₁₀)]

def unscaledEncodings : List Encoding :=
  transferEncodings .unscaled (fun _ => .offset (.signed 12 9)) (signedFixed 0)

def postIndexEncodings : List Encoding :=
  transferEncodings .indexed (fun _ => .postIndex (.signed 12 9)) (signedFixed 1)

def unprivilegedEncodings : List Encoding :=
  transferEncodings .unprivileged (fun _ => .offset (.signed 12 9)) (signedFixed 2)

def preIndexEncodings : List Encoding :=
  transferEncodings .indexed (fun _ => .preIndex (.signed 12 9)) (signedFixed 3)

def signedOffsetEncodings : List Encoding :=
  [unscaledEncodings, postIndexEncodings, unprivilegedEncodings, preIndexEncodings].flatten

theorem described_signedOffset (hw : HasFields MemoryClass.signedOffset.fixed w)
    (h : signedOffset w = .ok d) : Described signedOffsetEncodings w d := by
  have hfixed {b : BitVec 2} (hb : w.field 10 2 = b) : HasFields (signedFixed b.toNat) w := by
    simp [signedFixed, hw, hb]
  simp only [signedOffset] at h
  split at h
  · rename_i hb
    exact .of_part (l := unscaledEncodings) (by simp)
      (described_singleTransfer (hfixed hb) (fun _ => ⟨trivial, rfl⟩) h)
  · rename_i hb
    exact .of_part (l := postIndexEncodings) (by simp)
      (described_singleTransfer (hfixed hb) (fun _ => ⟨trivial, rfl⟩) h)
  · rename_i hb
    exact .of_part (l := unprivilegedEncodings) (by simp)
      (described_singleTransfer (hfixed hb) (fun _ => ⟨trivial, rfl⟩) h)
  · rename_i h0 h1 h2
    have htop : ∀ b : BitVec 2, b ≠ 0 → b ≠ 1 → b ≠ 2 → b = 3 := by decide
    have hb := htop _ h0 h1 h2
    exact .of_part (l := preIndexEncodings) (by simp)
      (described_singleTransfer (hfixed hb) (fun _ => ⟨trivial, rfl⟩) h)

/-- The offset of an authenticated pointer, whose sign stands apart from its other bits. -/
def authenticatedOffset : Displacement where
  value := fun w => (w.field 22 1 ++ w.field 12 9).toInt * 8
  shown := [⟨22, 1⟩, ⟨12, 9⟩]
  faithful := by
    intro w w' h
    have happend := Displacement.toInt_mul_injective (show 0 < 8 by decide) _ _ h
    obtain ⟨hsign, hrest⟩ := Field.append_inj happend
    simp [hsign, hrest]

def authenticatedLoadEncodings : List Encoding :=
  (flagged [false, true]).map fun (b, writeBack) =>
    ⟨if b then .ldrab else .ldraa,
      [.gpr true rd,
        if writeBack then .preIndex authenticatedOffset else .offset authenticatedOffset],
      MemoryClass.authenticatedLoad.fixed ++
        [(⟨30, 2⟩, 3), (⟨26, 1⟩, 0), (⟨23, 1⟩, b.toNat), (⟨11, 1⟩, writeBack.toNat)]⟩

theorem described_authenticatedLoad (hw : HasFields MemoryClass.authenticatedLoad.fixed w)
    (h : authenticatedLoad w = .ok d) : Described authenticatedLoadEncodings w d := by
  simp only [authenticatedLoad] at h
  split at h
  · cases h
  · rename_i hfields
    cases h
    rw [not_or, not_not] at hfields
    refine .map (a := (w.bit 23, w.bit 11)) (by cases w.bit 11 <;> simp) ⟨?_, ?_, ?_⟩
    · simp [hw, hfields.1, Word.field_eq_zero_iff.2 (eq_false_of_ne_true hfields.2)]
    · cases w.bit 11 <;> simp
    · cases w.bit 11 <;> rfl

/-- The operation on a pair, by whether it is one of words that a load extends, whether it loads,
and the field that selects the mode. -/
def pairOperation? (half load : Bool) (index : BitVec 2) : Option Operation :=
  match half, load, decide (index = 0) with
  | false, false, true => some .stnp
  | false, true, true => some .ldnp
  | false, false, false => some .stp
  | false, true, false => some .ldp
  | true, true, false => some .ldpsw
  | true, _, _ => none

def pairMemory (index : BitVec 2) (log2 : Nat) : Slot :=
  match index with
  | 1 => .postIndex (.scaled 15 7 log2)
  | 3 => .preIndex (.scaled 15 7 log2)
  | _ => .offset (.scaled 15 7 log2)

@[simp] theorem holds_pairMemory (index : BitVec 2) (log2 : Nat) :
    (pairMemory index log2).Holds w := by
  unfold pairMemory
  split <;> trivial

def pairEncodings : List Encoding :=
  ofTable (flagged (bitVectors 2)) (fun (v, opc) => pairTarget? v opc) fun (v, opc) (t, log2) =>
    ofTable (flagged (bitVectors 2))
      (fun (load, index) => pairOperation? (decide (v = false ∧ opc = 1)) load index)
      fun (load, index) op =>
        [⟨op, [.target rd t, .target ra t, pairMemory index log2],
          MemoryClass.pair.fixed ++ [(⟨26, 1⟩, v.toNat), (⟨30, 2⟩, opc.toNat),
            (⟨22, 1⟩, load.toNat), (⟨23, 2⟩, index.toNat)]⟩]

theorem pair_eq_ok (h : pair w = .ok d) :
    ∃ t log2 op, pairTarget? (w.bit 26) (w.field 30 2) = some (t, log2) ∧
      pairOperation? (decide (w.bit 26 = false ∧ w.field 30 2 = 1)) (w.bit 22) (w.field 23 2) =
        some op ∧
      d = ⟨op, [t.operand w.rt, t.operand w.rt2, (pairMemory (w.field 23 2) log2).operand w]⟩ := by
  simp only [pair] at h
  split at h
  · cases h
  · rename_i t log2 htarget
    have hsizes : ∀ b : BitVec 2, b = 0 ∨ b = 1 ∨ b = 2 ∨ b = 3 := by decide
    refine ⟨t, log2, ?_⟩
    generalize decide (w.bit 26 = false ∧ w.field 30 2 = 1) = half at h ⊢
    generalize w.bit 22 = load at h ⊢
    generalize w.field 23 2 = index at h ⊢
    rcases hsizes index with rfl | rfl | rfl | rfl <;> cases half <;> cases load <;> cases h <;>
      exact ⟨_, htarget, rfl, rfl⟩

theorem described_pair (hw : HasFields MemoryClass.pair.fixed w) (h : pair w = .ok d) :
    Described pairEncodings w d := by
  obtain ⟨t, log2, op, htarget, hop, rfl⟩ := pair_eq_ok h
  refine .ofTable (k := (w.bit 26, w.field 30 2)) (by simp) htarget ?_
  refine .ofTable (k := (w.bit 22, w.field 23 2)) (by simp) hop (.single ⟨?_, by simp, ?_⟩)
  · simp [hw]
  · simp only [List.map_cons, List.map_nil, operand_target]
    rfl

end A64.Decode
