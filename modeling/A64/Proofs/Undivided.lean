import A64.Proofs.Regular.Decode
import A64.Proofs.VectorWord

/-!
# Instructions that name no vector

No operand of an integer instruction, a branch or a system instruction names a vector
(`Operand.Undivided`), and the same holds of loads and stores, structures apart, and of most scalar
classes. A property that all such operations have is proved of every word by proving it of the
structures and of the classes that name vectors.
-/

namespace A64

namespace Decode

/-- Loads and stores name vectors only if they access structures. -/
theorem MemoryClass.kind_ne_vector {cls : MemoryClass} (hmultiple : cls ≠ .multipleStructures)
    (hsingle : cls ≠ .singleStructure) : cls.kind ≠ .vector := by
  cases cls <;> first | contradiction | nofun

/-- A property of all operations that name no vector holds of the meaning of every word, if it does
of the structures and of the vector classes that name vectors. -/
theorem yields_meaning {P : Decoded → Prop} {word : Word} {group : Group}
    (hgroup : Group.ofWord? word = some group) (address : Address)
    (hundivided : ∀ d : Decoded, d.Undivided → P d) (hmultiple : Yields P (multipleStructures word))
    (hsingle : Yields P (singleStructure word))
    (hvector : ∀ cls : VectorClass, cls.Matches word → cls.kind = .vector →
      Yields P (cls.meaning word)) :
    Yields P (meaning group word address) := by
  -- The kind of the class settles all words but those of structures and vectors.
  have hregular {kind : OperandKind} {r : Decoding} (h : Regular kind r)
      (hkind : kind ≠ .vector) : Yields P r :=
    h.mono fun d hd => hundivided d (hd.undivided hkind)
  cases group with
  | unallocated => exact hundivided _ fun _ ho => absurd ho List.not_mem_nil
  | dataProcessingImmediate =>
    obtain ⟨kind, hkind, h⟩ := exists_regular_dataProcessingImmediate word address
    exact hregular h hkind
  | branchExceptionSystem =>
    obtain ⟨kind, hkind, h⟩ := exists_regular_branchExceptionSystem word address
    exact hregular h hkind
  | dataProcessingRegister => exact hregular (regular_dataProcessingRegister word) nofun
  | loadStore =>
    simp only [meaning, loadStore]
    split
    · rename_i cls _
      by_cases hstructure : cls = .multipleStructures ∨ cls = .singleStructure
      · rcases hstructure with rfl | rfl
        · exact hmultiple
        · exact hsingle
      · rw [not_or] at hstructure
        exact hregular (regular_memoryClass word address cls)
          (MemoryClass.kind_ne_vector hstructure.1 hstructure.2)
    · simp
  | dataProcessingVector =>
    simp only [meaning, dataProcessingVector]
    split
    · rename_i cls hcls
      rcases cls.kind_cases with hkind | hkind
      · exact hvector cls (VectorClass.matches_of_ofWord hgroup hcls) hkind
      · exact hregular (regular_vectorClass word cls) (hkind ▸ nofun)
    · simp

end Decode

theorem holds_of_undivided {P : Decoded → Prop} {word : Word} {address : Address} {i : Instruction}
    (hundivided : ∀ d : Decoded, d.Undivided → P d)
    (hmultiple : Decode.Yields P (Decode.multipleStructures word))
    (hsingle : Decode.Yields P (Decode.singleStructure word))
    (hvector : ∀ cls : Decode.VectorClass, cls.Matches word → cls.kind = .vector →
      Decode.Yields P (cls.meaning word))
    (h : decode word address = .ok i) : P ⟨i.operation, i.operands.toList⟩ := by
  have hmeaning (group : Group) (hgroup : Group.ofWord? word = some group) :
      Decode.Yields P (Decode.meaning group word address) :=
    Decode.yields_meaning hgroup address hundivided hmultiple hsingle hvector
  exact holds_of_decode hmeaning h

end A64
