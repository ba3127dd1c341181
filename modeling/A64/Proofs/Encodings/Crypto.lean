import A64.Proofs.Encodings.Vector

/-!
# Encodings of cryptographic instructions

The encodings of block ciphers and hash functions, with the theorem for each decoder that they
describe what it accepts. All registers are of a fixed width, so most encodings are rows of an
operation, its operands and its opcode.
-/

namespace A64.Decode

open Encoding Slot

variable {w : Word} {d : Decoded}

def wideSlots2 (e : ElementSize) : List Slot := [.wide e rd, .wide e rn]

def wideSlots3 (e : ElementSize) : List Slot := [.wide e rd, .wide e rn, .wide e rm]

def wideSlots4 (e : ElementSize) : List Slot := [.wide e rd, .wide e rn, .wide e rm, .wide e ra]

@[simp] theorem hold_wideSlots2 (e : ElementSize) : Hold (wideSlots2 e) w := by simp [wideSlots2]

@[simp] theorem hold_wideSlots3 (e : ElementSize) : Hold (wideSlots3 e) w := by simp [wideSlots3]

@[simp] theorem hold_wideSlots4 (e : ElementSize) : Hold (wideSlots4 e) w := by simp [wideSlots4]

/-- The encodings of rows of an operation, its operands and its opcode, for which a field is
given. -/
def ofRows (start width : Nat) (fixed : List (Field × Nat))
    (rows : List (Operation × List Slot × Nat)) : List Encoding :=
  rows.map fun (op, slots, opcode) => ⟨op, slots, fixed ++ [(⟨start, width⟩, opcode)]⟩

theorem described_ofRows {start width : Nat} {fixed : List (Field × Nat)}
    {rows : List (Operation × List Slot × Nat)} (op : Operation) (slots : List Slot)
    {opcode : BitVec width} (hfixed : HasFields fixed w) (hopcode : w.field start width = opcode)
    (hrow : (op, slots, opcode.toNat) ∈ rows) (hslots : Hold slots w) :
    Described (ofRows start width fixed rows) w ⟨op, slots.map (·.operand w)⟩ :=
  .map hrow ⟨by simp [hfixed, hopcode], hslots, rfl⟩

def aesEncodings : List Encoding :=
  ofTable (bitVectors 5) aesRound? fun opcode op =>
    [⟨op, wideSlots2 .b,
      VectorClass.aes.fixed ++ [(⟨22, 2⟩, 0), (⟨12, 5⟩, opcode.toNat)]⟩]

theorem described_aes (hw : HasFields VectorClass.aes.fixed w) (h : aes w = .ok d) :
    Described aesEncodings w d := by
  simp only [aes] at h
  split at h
  · cases h
  · rename_i hsize
    split at h <;> cases h
    rename_i op hrow
    refine .ofTable (mem_bitVectors _) hrow (.single ⟨?_, ?_, rfl⟩)
    · simp [hw, not_not.1 hsize]
    · simp

def shaRounds : List Slot := [.scalar .q rd, .scalar .s rn, .wide .s rm]

def shaHash (e : ElementSize) : List Slot := [.scalar .q rd, .scalar .q rn, .wide e rm]

@[simp] theorem hold_shaRounds : Hold shaRounds w := by simp [shaRounds]

@[simp] theorem hold_shaHash (e : ElementSize) : Hold (shaHash e) w := by simp [shaHash]

def shaThreeEncodings : List Encoding :=
  ofRows 12 3 (VectorClass.shaThree.fixed ++ [(⟨22, 2⟩, 0)])
    [(.sha1c, shaRounds, 0), (.sha1p, shaRounds, 1), (.sha1m, shaRounds, 2),
      (.sha1su0, wideSlots3 .s, 3), (.sha256h, shaHash .s, 4), (.sha256h2, shaHash .s, 5),
      (.sha256su1, wideSlots3 .s, 6)]

theorem described_shaThree (hw : HasFields VectorClass.shaThree.fixed w)
    (h : shaThree w = .ok d) : Described shaThreeEncodings w d := by
  simp only [shaThree] at h
  split at h
  · cases h
  · rename_i hsize
    have hfixed : HasFields (VectorClass.shaThree.fixed ++ [(⟨22, 2⟩, 0)]) w := by
      simp [hw, not_not.1 hsize]
    split at h <;> cases h <;> rename_i hopcode
    · exact described_ofRows .sha1c shaRounds hfixed hopcode (by simp) (by simp)
    · exact described_ofRows .sha1p shaRounds hfixed hopcode (by simp) (by simp)
    · exact described_ofRows .sha1m shaRounds hfixed hopcode (by simp) (by simp)
    · exact described_ofRows .sha1su0 (wideSlots3 .s) hfixed hopcode (by simp) (by simp)
    · exact described_ofRows .sha256h (shaHash .s) hfixed hopcode (by simp) (by simp)
    · exact described_ofRows .sha256h2 (shaHash .s) hfixed hopcode (by simp) (by simp)
    · exact described_ofRows .sha256su1 (wideSlots3 .s) hfixed hopcode (by simp) (by simp)

def shaTwoEncodings : List Encoding :=
  ofRows 12 5 (VectorClass.shaTwo.fixed ++ [(⟨22, 2⟩, 0)])
    [(.sha1h, scalarSlots2 .s, 0), (.sha1su1, wideSlots2 .s, 1), (.sha256su0, wideSlots2 .s, 2)]

theorem described_shaTwo (hw : HasFields VectorClass.shaTwo.fixed w)
    (h : shaTwo w = .ok d) : Described shaTwoEncodings w d := by
  simp only [shaTwo] at h
  split at h
  · cases h
  · rename_i hsize
    have hfixed : HasFields (VectorClass.shaTwo.fixed ++ [(⟨22, 2⟩, 0)]) w := by
      simp [hw, not_not.1 hsize]
    split at h <;> cases h <;> rename_i hopcode
    · exact described_ofRows .sha1h (scalarSlots2 .s) hfixed hopcode (by simp) (by simp)
    · exact described_ofRows .sha1su1 (wideSlots2 .s) hfixed hopcode (by simp) (by simp)
    · exact described_ofRows .sha256su0 (wideSlots2 .s) hfixed hopcode (by simp) (by simp)

def cryptoFixed (b₂₃ : Nat) : List (Field × Nat) :=
  VectorClass.cryptography.fixed ++ [(⟨24, 4⟩, 0b1110), (⟨23, 1⟩, b₂₃)]

def exclusiveOrEncodings : List Encoding :=
  [⟨.xar, wideSlots3 .d ++ [.imm 10 6], cryptoFixed 1 ++ [(⟨21, 2⟩, 0)]⟩]

def cryptoTwoFixed : List (Field × Nat) := cryptoFixed 1 ++ [(⟨12, 11⟩, 0b10000001000)]

def cryptoTwoEncodings : List Encoding :=
  ofRows 10 2 cryptoTwoFixed [(.sha512su0, wideSlots2 .d, 0), (.sm4e, wideSlots2 .s, 1)]

theorem described_cryptoTwo (hw : HasFields cryptoTwoFixed w) (h : cryptoTwo w = .ok d) :
    Described cryptoTwoEncodings w d := by
  simp only [cryptoTwo] at h
  split at h <;> cases h <;> rename_i hopcode
  · exact described_ofRows .sha512su0 (wideSlots2 .d) hw hopcode (by simp) (by simp)
  · exact described_ofRows .sm4e (wideSlots2 .s) hw hopcode (by simp) (by simp)

def cryptoFourFixed : List (Field × Nat) := cryptoFixed 0 ++ [(⟨15, 1⟩, 0)]

def cryptoFourEncodings : List Encoding :=
  ofRows 21 2 cryptoFourFixed
    [(.eor3, wideSlots4 .b, 0), (.bcax, wideSlots4 .b, 1), (.sm3ss1, wideSlots4 .s, 2)]

theorem described_cryptoFour (hw : HasFields cryptoFourFixed w) (h : cryptoFour w = .ok d) :
    Described cryptoFourEncodings w d := by
  simp only [cryptoFour] at h
  split at h <;> cases h <;> rename_i hopcode
  · exact described_ofRows .eor3 (wideSlots4 .b) hw hopcode (by simp) (by simp)
  · exact described_ofRows .bcax (wideSlots4 .b) hw hopcode (by simp) (by simp)
  · exact described_ofRows .sm3ss1 (wideSlots4 .s) hw hopcode (by simp) (by simp)

def cryptoThreeLaneEncodings : List Encoding :=
  (bitVectors 2).map fun opcode =>
    ⟨sm3Round opcode, wideSlots2 .s ++ [.lane .s rm ⟨12, 2⟩],
      cryptoFixed 0 ++ [(⟨21, 2⟩, 2), (⟨14, 2⟩, 2), (⟨10, 2⟩, opcode.toNat)]⟩

def cryptoThreeFixed (b₁₄ : Nat) : List (Field × Nat) :=
  cryptoFixed 0 ++ [(⟨21, 2⟩, 3), (⟨15, 1⟩, 1), (⟨14, 1⟩, b₁₄), (⟨12, 2⟩, 0)]

def doubleHashEncodings : List Encoding :=
  ofRows 10 2 (cryptoThreeFixed 0)
    [(.sha512h, shaHash .d, 0), (.sha512h2, shaHash .d, 1), (.sha512su1, wideSlots3 .d, 2),
      (.rax1, wideSlots3 .d, 3)]

def messageEncodings : List Encoding :=
  ofRows 10 2 (cryptoThreeFixed 1)
    [(.sm3partw1, wideSlots3 .s, 0), (.sm3partw2, wideSlots3 .s, 1), (.sm4ekey, wideSlots3 .s, 2)]

def cryptoThreeEncodings : List Encoding := [doubleHashEncodings, messageEncodings].flatten

theorem described_cryptoThree (hw : HasFields (cryptoThreeFixed (w.bit 14).toNat) w)
    (h : cryptoThree w = .ok d) : Described cryptoThreeEncodings w d := by
  simp only [cryptoThree] at h
  split at h <;> cases h
  · rename_i h14 hopcode
    rw [h14] at hw
    exact .of_part (l := doubleHashEncodings) (by simp)
      (described_ofRows .sha512h (shaHash .d) hw hopcode (by simp) (by simp))
  · rename_i h14 hopcode
    rw [h14] at hw
    exact .of_part (l := doubleHashEncodings) (by simp)
      (described_ofRows .sha512h2 (shaHash .d) hw hopcode (by simp) (by simp))
  · rename_i h14 hopcode
    rw [h14] at hw
    exact .of_part (l := doubleHashEncodings) (by simp)
      (described_ofRows .sha512su1 (wideSlots3 .d) hw hopcode (by simp) (by simp))
  · rename_i h14 h0 h1 h2
    have hall : ∀ b : BitVec 2, (b = 0#2 → False) → (b = 1#2 → False) → (b = 2#2 → False) →
        b = 3#2 := by decide
    rw [h14] at hw
    exact .of_part (l := doubleHashEncodings) (by simp)
      (described_ofRows .rax1 (wideSlots3 .d) hw (hall _ h0 h1 h2) (by simp) (by simp))
  · rename_i h14 hopcode
    rw [h14] at hw
    exact .of_part (l := messageEncodings) (by simp)
      (described_ofRows .sm3partw1 (wideSlots3 .s) hw hopcode (by simp) (by simp))
  · rename_i h14 hopcode
    rw [h14] at hw
    exact .of_part (l := messageEncodings) (by simp)
      (described_ofRows .sm3partw2 (wideSlots3 .s) hw hopcode (by simp) (by simp))
  · rename_i h14 hopcode
    rw [h14] at hw
    exact .of_part (l := messageEncodings) (by simp)
      (described_ofRows .sm4ekey (wideSlots3 .s) hw hopcode (by simp) (by simp))

def cryptographyEncodings : List Encoding :=
  [exclusiveOrEncodings, cryptoTwoEncodings, cryptoFourEncodings, cryptoThreeLaneEncodings,
    cryptoThreeEncodings].flatten

theorem described_cryptography (hw : HasFields VectorClass.cryptography.fixed w)
    (h : cryptography w = .ok d) : Described cryptographyEncodings w d := by
  simp only [cryptography] at h
  split at h
  · cases h
  · rename_i h24
    have hfixed : HasFields (cryptoFixed (w.bit 23).toNat) w := by
      simp [cryptoFixed, hw, not_not.1 h24]
    split at h
    · rename_i h23
      rw [h23] at hfixed
      split at h
      · rename_i h21
        cases h
        refine .of_part (l := exclusiveOrEncodings) (by simp) (.single ⟨?_, ?_, rfl⟩)
        · exact hasFields_append.2 ⟨hfixed, by simpa using h21⟩
        · simp
      · split at h
        · rename_i h12
          refine .of_part (by simp) (described_cryptoTwo ?_ h)
          exact hasFields_append.2 ⟨hfixed, by simpa using h12⟩
        · cases h
    · rename_i h23
      rw [eq_false_of_ne_true h23] at hfixed
      split at h
      · rename_i h15
        refine .of_part (by simp) (described_cryptoFour ?_ h)
        exact hasFields_append.2 ⟨hfixed, by simpa using Word.field_eq_zero_iff.2 h15⟩
      · rename_i h15
        replace h15 := Word.field_eq_one_iff.2 (eq_true_of_ne_false h15)
        split at h
        · rename_i hlane
          cases h
          have h14 : w.field 14 2 = 2#2 := by
            rw [← w.field_append (show 15 = 14 + 1 from rfl), h15,
              Word.field_eq_zero_iff.2 hlane.2]
            rfl
          refine .of_part (l := cryptoThreeLaneEncodings) (by simp)
            (.map (mem_bitVectors _) ⟨?_, ?_, rfl⟩)
          · exact hasFields_append.2 ⟨hfixed, by simp [hlane.1, h14]⟩
          · simp
        · split at h
          · rename_i hthree
            refine .of_part (by simp) (described_cryptoThree ?_ h)
            exact hasFields_append.2 ⟨hfixed, by simp [hthree.1, hthree.2, h15]⟩
          · cases h

end A64.Decode
