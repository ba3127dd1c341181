import A64.Proofs.EncodingText
import A64.Proofs.Encodings.Structure
import A64.Proofs.Encodings.Transfer

/-!
# The text of a load or store tells its word

The encodings of loads and stores are readable, those of exclusive, ordered and compare-and-swap
accesses apart, which do not show all of their fields. So two such words with the same text at the
same address are the same word.
-/

namespace A64

open Encoding

namespace Decode

namespace MemoryClass

variable {w : Word} {d : Decoded} {cls : MemoryClass} {address : Address}

def encodings (address : Address) : MemoryClass → List Encoding
  | multipleStructures => multipleEncodings
  | singleStructure => singleEncodings
  | exclusive => []
  | atomic => atomicEncodings
  | releaseConsistent => releaseConsistentEncodings
  | literal => literalEncodings address
  | pair => pairEncodings
  | unsignedOffset => unsignedOffsetEncodings
  | signedOffset => signedOffsetEncodings
  | registerOffset => registerOffsetEncodings
  | authenticatedLoad => authenticatedLoadEncodings

theorem described (hw : HasFields cls.fixed w) (hcls : cls ≠ exclusive)
    (h : cls.meaning w address = .ok d) : Described (cls.encodings address) w d := by
  cases cls with
  | multipleStructures => exact described_multipleStructures hw h
  | singleStructure => exact described_singleStructure hw h
  | exclusive => exact absurd rfl hcls
  | atomic => exact described_atomic hw h
  | releaseConsistent => exact described_releaseConsistent hw h
  | literal => exact described_literal hw h
  | pair => exact described_pair hw h
  | unsignedOffset => exact described_unsignedOffset hw h
  | signedOffset => exact described_signedOffset hw h
  | registerOffset => exact described_registerOffset hw h
  | authenticatedLoad => exact described_authenticatedLoad hw h

/-- All classes, that of exclusive accesses apart. -/
def readableClasses : List MemoryClass :=
  [multipleStructures, singleStructure, atomic, releaseConsistent, literal, pair, unsignedOffset,
    signedOffset, registerOffset, authenticatedLoad]

theorem mem_readableClasses (h : cls ≠ exclusive) : cls ∈ readableClasses := by
  cases cls with
  | exclusive => exact absurd rfl h
  | _ => decide

/-- The outlines do not depend on the address: only the operand of a literal does. -/
theorem outline_encodings (cls : MemoryClass) (address : Address) :
    (cls.encodings address).map outline = (cls.encodings 0).map outline := by
  cases cls <;> rfl

end MemoryClass

def memoryEncodings (address : Address) : List Encoding :=
  MemoryClass.readableClasses.flatMap (MemoryClass.encodings address)

theorem outline_memoryEncodings (address : Address) :
    (memoryEncodings address).map outline = (memoryEncodings 0).map outline := by
  rw [memoryEncodings, memoryEncodings, List.map_flatMap, List.map_flatMap]
  exact List.flatMap_congr fun cls _ => cls.outline_encodings address

theorem readable_memoryEncodings (address : Address) : Readable (memoryEncodings address) := by
  refine readable_of_checkText ?_
  rw [outline_memoryEncodings, checkText, distinct_eq]
  decide +kernel

variable {word : Word} {address : Address} {d : Decoded}

/-- Only exclusive, ordered and compare-and-swap accesses have bits 24 to 29 as their class does. -/
theorem MemoryClass.ne_exclusive {cls : MemoryClass}
    (hgroup : Group.ofWord? word = some .loadStore) (h : MemoryClass.ofWord word = .ok cls)
    (hword : word.field 24 6 ≠ 0b001000) : cls ≠ .exclusive := by
  rintro rfl
  have hfields := MemoryClass.hasFields hgroup h
  simp only [MemoryClass.fixed, MemoryClass.groupBits, hasFields_append, hasFields_cons] at hfields
  obtain ⟨⟨h25, h27, h28, -⟩, h26, h24, -⟩ := hfields
  refine hword ?_
  rw [← word.field_append (show 28 = 24 + 4 from rfl),
    ← word.field_append (show 27 = 24 + 3 from rfl),
    ← word.field_append (show 26 = 24 + 2 from rfl),
    ← word.field_append (show 25 = 24 + 1 from rfl),
    h24, h25, h26, h27, h28]
  rfl

theorem described_loadStore (hgroup : Group.ofWord? word = some .loadStore)
    (hword : word.field 24 6 ≠ 0b001000) (h : loadStore word address = .ok d) :
    Described (memoryEncodings address) word d := by
  unfold loadStore at h
  split at h
  · rename_i cls hcls
    have hne := MemoryClass.ne_exclusive hgroup hcls hword
    exact .flatMap (MemoryClass.mem_readableClasses hne)
      (MemoryClass.described (MemoryClass.hasFields hgroup hcls) hne h)
  · cases h

end Decode

/-- The text of a load or store that is not exclusive, ordered or a compare-and-swap tells its
word. -/
theorem memoryWord_eq_of_text_eq {word word' : Word} {address : Address} {decimal : Bool}
    {i i' : Instruction} {text : String} (hgroup : Group.ofWord? word = some .loadStore)
    (hgroup' : Group.ofWord? word' = some .loadStore) (hclass : word.field 24 6 ≠ 0b001000)
    (hclass' : word'.field 24 6 ≠ 0b001000) (h : decode word address = .ok i)
    (h' : decode word' address = .ok i') (ht : i.render decimal = .ok text)
    (ht' : i'.render decimal = .ok text) : word = word' := by
  have hd := Decode.described_loadStore hgroup hclass (meaning_of_decode hgroup (by decide) h).2
  have hd' := Decode.described_loadStore hgroup' hclass'
    (meaning_of_decode hgroup' (by decide) h').2
  exact (Decode.readable_memoryEncodings address).word_eq (by decide) hgroup hgroup' h h' hd hd'
    ht ht'

/-- The text of a store of one lane is that of one word, although the number of the lane is spread
over three of its fields. -/
theorem storeLane_eq_of_text_eq :
    Group.ofWord? 0x4d821c20 = some .loadStore ∧ (0x4d821c20 : Word).field 24 6 ≠ 0b001000 ∧
      ∃ i : Instruction, decode 0x4d821c20 0x4000 = .ok i ∧
        i.render false = .ok "st1\t\x7bv0.b\x7d[15], [x1], x2" ∧ (0x4d821c20 : Word) = i.word := by
  have hgroup : Group.ofWord? 0x4d821c20 = some .loadStore := by decide
  have hclass : (0x4d821c20 : Word).field 24 6 ≠ 0b001000 := by decide
  have hdecode : decode 0x4d821c20 0x4000 = .ok ⟨0x4d821c20, 0x4000, .loadStore, .st1,
      .ofList [Decode.vectorList 0 1 (.single .b) (some 15),
        Decode.memory 1 (.postIndex (.register (.x 2)))]⟩ := by decide +kernel
  have htext : Instruction.render ⟨0x4d821c20, 0x4000, .loadStore, .st1,
      .ofList [Decode.vectorList 0 1 (.single .b) (some 15),
        Decode.memory 1 (.postIndex (.register (.x 2)))]⟩ false =
      .ok "st1\t\x7bv0.b\x7d[15], [x1], x2" := by decide +kernel
  exact ⟨hgroup, hclass, _, hdecode, htext, memoryWord_eq_of_text_eq hgroup hgroup hclass hclass
    hdecode hdecode htext htext⟩

end A64
