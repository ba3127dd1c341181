import A64.Proofs.ImmediateWord
import A64.Proofs.VectorShape.Ordinary

/-!
# Every vector that is decoded has a proper shape

The classes that use a shape of few operands, one by one, and with them every word: the vectors of a
decoded instruction are shaped, with the exceptions that `Decoded.Allows` lists.
-/

namespace A64

namespace Decode

variable (word : Word)

theorem double_ne_q {e : ElementSize} (hd : e ≠ .d) (hq : e ≠ .q) : e.double ≠ .q := by
  cases e <;> simp_all [ElementSize.double]

/-- Only the polynomial product takes elements of 64 bits. -/
theorem different?_double : ∀ (u : Bool) (opcode : BitVec 4), ∀ row ∈ different? u opcode,
    .d ∈ row.sizes → row.lower = .pmull ∧ row.upper = .pmull2 ∧ row.shape = .long := by
  decide

theorem shaped_polynomialProduct :
    Shaped (done (if word.q then .pmull2 else .pmull)
      [vector word.rd .q true, vector word.rn .d word.q, vector word.rm .d word.q]) := by
  have hsource {k : Nat} {os : List Operand} (hk : k = 1 ∨ k = 2) (n : BitVec 5) :
      (vector n .d word.q).Shaped
        (Decoded.Allows ⟨if word.q then .pmull2 else .pmull, os⟩ k) :=
    shaped_vector (fun hlone => .productSource (by simp_all [isLone]) hk) nofun
  refine shaped_three (shaped_vector (by simp) fun _ => .product ?_ rfl) (hsource (.inl rfl) _)
    (hsource (.inr rfl) _)
  split <;> simp

theorem shaped_threeDifferent : Shaped (threeDifferent word) := by
  simp only [threeDifferent]
  split
  · simp
  · rename_i row hrow
    split
    · simp
    · rename_i hmem
      -- Elements of 64 bits are left to the polynomial product, whose shapes are exceptions.
      by_cases he : elementSize word = .d
      · rw [he, not_not] at hmem
        obtain ⟨hlower, hupper, hshape⟩ := different?_double _ _ row hrow hmem
        simp only [he, hshape, hlower, hupper]
        exact shaped_polynomialProduct word
      · have hlone := isLone_of_ne he word.q
        have hwide := double_ne_q he (elementSize_ne_q word)
        split <;> exact shaped_of_ordinary (by simp [hlone, hwide])

/-- Only sums of pairs have fewer and wider elements in the destination, and no operation changes
the width of elements of 64 bits. -/
theorem integerMisc?_shapes : ∀ (u : Bool) (opcode : BitVec 5), ∀ row ∈ integerMisc? u opcode,
    (row.shape = .pairLong →
      row.operation ∈ [Operation.saddlp, .uaddlp, .sadalp, .uadalp]) ∧
    (.d ∈ row.sizes → row.shape = .same ∨ row.shape = .zero) := by
  decide

theorem shaped_integerMisc : Shaped (integerMisc word) := by
  simp only [integerMisc]
  split
  · simp
  · rename_i op sizes shape hrow
    obtain ⟨hpair, hdouble⟩ := integerMisc?_shapes _ _ _ hrow
    split
    · simp
    · rename_i hmem
      rw [not_not] at hmem
      have hq := elementSize_ne_q word
      have hchanges (h : ¬ (shape = .same ∨ shape = .zero)) :
          isLone (elementSize word) word.q = false ∧ (elementSize word).double ≠ .q := by
        have hd : elementSize word ≠ .d := fun he => h (hdouble (he ▸ hmem))
        exact ⟨isLone_of_ne hd word.q, double_ne_q hd hq⟩
      cases shape with
      | same => exact shaped_of_ordinary (by simp [vectors2])
      | zero => exact shaped_of_ordinary (by simp [vectors2])
      | pairLong =>
        obtain ⟨hlone, hwide⟩ := hchanges (by simp)
        refine shaped_two (shaped_vector ?_ fun h => absurd h hwide) (shaped_vector ?_ ?_)
        · exact fun _ => .pairSum (hpair rfl) rfl
        · simp [hlone]
        · exact fun h => absurd h hq
      | narrow upper | shiftLong upper => exact shaped_of_ordinary (by simp [hchanges])

theorem shaped_twoMisc : Shaped (twoMisc word) := by
  simp [twoMisc, shaped_integerMisc, shaped_of_ordinary (ordinary_invertBits word),
    shaped_of_ordinary (ordinary_floatWidth word), shaped_of_ordinary (ordinary_floatMisc word)]

theorem floatPairwise?_mem : ∀ (opcode : BitVec 5) (a : Bool), ∀ op ∈ floatPairwise? opcode a,
    op ∈ [Operation.faddp, .fmaxp, .fminp, .fmaxnmp, .fminnmp] := by
  decide

theorem proper_two {allowed : ShapeException → Prop} {e : ElementSize} (h : e = .s ∨ e = .d) :
    Arrangement.Proper allowed ⟨e, 2⟩ none where
  whole := by
    rintro -
    rcases h with rfl | rfl
    · exact .inl rfl
    · exact .inr (.inl rfl)
  lane := nofun
  loneDouble := by simp
  quad := by rcases h with rfl | rfl <;> nofun

theorem proper_twoHalves {allowed : ShapeException → Prop} (h : allowed .twoHalves) :
    Arrangement.Proper allowed ⟨.h, 2⟩ none where
  whole := fun _ => .inr (.inr ⟨rfl, h⟩)
  lane := nofun
  loneDouble := nofun
  quad := nofun

theorem shaped_scalarPairwise : Shaped (scalarPairwise word) := by
  have hwhole (op : Operation) {e : ElementSize} (h : e = .s ∨ e = .d) :
      Shaped (done op [scalar e word.rd, arranged word.rn ⟨e, 2⟩]) :=
    shaped_two (shaped_of_regular (regular_scalar e)) (shaped_vectorRegister (proper_two h))
  simp only [scalarPairwise]
  split
  · split
    · exact hwhole .addp (.inr rfl)
    · simp
  · split
    · simp
    · rename_i op hop
      split
      · exact hwhole op (by unfold floatSize; split <;> simp)
      · split
        · simp
        · refine shaped_two (shaped_of_regular (regular_scalar .h)) (shaped_vectorRegister ?_)
          exact proper_twoHalves (.pair (floatPairwise?_mem _ _ op hop) rfl rfl)

theorem byElement?_dot : ∀ (u : Bool) (opcode : BitVec 4), ∀ row ∈ byElement? u opcode,
    row.2 = .dot → row.1 ∈ [Operation.sdot, .udot] := by
  decide

theorem shaped_dotByElement {op : Operation} (hop : op ∈ [Operation.sdot, .udot]) :
    Shaped (dotByElement word op) := by
  unfold dotByElement
  split
  · have hlane : laneHL word ≤ 3 := Nat.le_of_lt_succ (laneHL_lt word)
    refine shaped_three ?_ ?_ (shaped_laneGroup hlane (.dot hop rfl))
    · exact shaped_vector (by simp [isLone_of_ne]) nofun
    · exact shaped_vector (by simp [isLone_of_ne]) nofun
  · simp

/-- The element has the size that most classes use, bytes apart. -/
theorem indexedElement?_size {i : IndexedElement} (h : indexedElement? word = some i)
    (hb : elementSize word ≠ .b) : i.size = elementSize word := by
  have hall : ∀ b : BitVec 2, ElementSize.ofField b ≠ .b →
      indexedSize b = ElementSize.ofField b := by decide
  rw [(indexedElement?_eq_some h).1]
  exact hall _ hb

theorem shaped_byElement : Shaped (byElement word) := by
  have hoperand {i : IndexedElement} (hi : indexedElement? word = some i) :
      i.operand.Ordinary ∧ i.size ≠ .q :=
    ⟨ordinary_lane.2 (indexedElement?_bounds word hi), (indexedElement?_bounds word hi).2⟩
  have hbelow {i : IndexedElement} (hi : indexedElement? word = some i)
      (hmem : elementSize word ∈ halfOrSingle) : i.size ≠ .d := by
    rw [indexedElement?_size word hi (by rintro he; simp [he, halfOrSingle] at hmem)]
    rintro he
    simp [he, halfOrSingle] at hmem
  simp only [byElement]
  split
  · simp
  · exact shaped_dotByElement word (byElement?_dot _ _ _ ‹_› rfl)
  · exact shaped_of_ordinary (ordinary_complexByElement word _)
  · refine shaped_of_ordinary ?_
    split
    · simp
    · split
      · simp
      · simp [vectors2, hoperand ‹_›]
  · refine shaped_of_ordinary ?_
    split
    · simp
    · rename_i hmem
      split
      · simp
      · simp [vectors2, hoperand ‹_›, isLone_of_ne (hbelow ‹_› (not_not.1 hmem))]
  · refine shaped_of_ordinary ?_
    split
    · simp
    · rename_i hmem
      split
      · simp
      · have hne := hbelow ‹_› (not_not.1 hmem)
        simp [hoperand ‹_›, isLone_of_ne hne, double_ne_q hne]

theorem ordinary_shiftImmediate {e : ElementSize} (he : e ≠ .q) :
    Ordinary (shiftImmediate word e) := by
  simp only [shiftImmediate]
  split
  · simp
  · simp [vectors2, he]
  · simp [vectors2, he]
  · simp +contextual [vectors2, he]
  · simp +contextual [he, isLone_of_ne, double_ne_q]
  · simp +contextual [he, isLone_of_ne, double_ne_q]

theorem shaped_structure {op : Operation} {l : RegisterList} {mode : AddressingMode}
    (h : (Operand.registerList l).Shaped
      (Decoded.Allows ⟨op, [.registerList l, memory word.rn mode]⟩ 0)) :
    Shaped (done op [.registerList l, memory word.rn mode]) :=
  shaped_two h (shaped_of_undivided trivial)

theorem ofField_ne_q (size : BitVec 2) : ElementSize.ofField size ≠ .q := by
  unfold ElementSize.ofField
  split <;> simp

theorem structureOperation_zero (load : Bool) :
    structureOperation load 0 ∈ [Operation.ld1, .st1, .ld1r, .ld2r, .ld3r, .ld4r] := by
  cases load <;> simp [structureOperation]

theorem shaped_multipleStructures : Shaped (multipleStructures word) := by
  simp only [multipleStructures, yields_ite]
  refine ⟨by simp, fun _ => ⟨by simp, fun _ => ?_⟩⟩
  split
  · simp
  · rename_i count elements _
    rw [yields_ite]
    refine ⟨by simp, fun hdouble => ?_⟩
    refine shaped_structure word (shaped_vectorList (proper_full (fun hlone => ?_) fun h => ?_))
    · -- A lone element in each vector is left to the accesses that do not interleave.
      have hsize : ∀ size : BitVec 2, ElementSize.ofField size = .d → size = 3 := by decide
      have helements : elements = 0 := by
        by_contra hne
        simp only [isLone, Bool.and_eq_true, decide_eq_true_eq, Bool.not_eq_true'] at hlone
        exact hdouble ⟨hsize _ hlone.1, hlone.2, hne⟩
      subst helements
      exact .list (l := ⟨.v word.rt, _, _, none⟩) (structureOperation_zero _) rfl
    · exact absurd h (ofField_ne_q _)

theorem structureLane_bounds {e : ElementSize} {index : Nat}
    (h : structureLane word = .ok (e, index)) : (index + 1) * e.bits ≤ 128 ∧ e ≠ .q := by
  simp only [structureLane] at h
  repeat' split at h
  all_goals cases h
  all_goals exact ⟨lane_le (BitVec.isLt _), nofun⟩

theorem replicateOperation_mem (elements : BitVec 2) :
    replicateOperation elements ∈ [Operation.ld1, .st1, .ld1r, .ld2r, .ld3r, .ld4r] := by
  unfold replicateOperation
  split <;> simp

theorem shaped_singleStructure : Shaped (singleStructure word) := by
  simp only [singleStructure]
  repeat' split
  · simp
  · simp
  · refine shaped_structure word (shaped_vectorList (proper_full (fun hlone => ?_) fun h => ?_))
    · exact .list (l := ⟨.v word.rt, _, _, none⟩) (replicateOperation_mem _) rfl
    · exact absurd h (ofField_ne_q _)
  · simp
  · obtain ⟨hle, hquad⟩ := structureLane_bounds word ‹_›
    exact shaped_structure word (shaped_vectorList (proper_single (absurd · hquad) hle))

theorem shaped_vectorClass {word : Word} {cls : VectorClass} (hcls : cls.Matches word)
    (hkind : cls.kind = .vector) : Shaped (cls.meaning word) := by
  cases cls with
  | floatingPoint => exact shaped_of_ordinary (ordinary_floatingPoint word)
  | cryptography => exact shaped_of_ordinary (ordinary_cryptography word)
  | aes => exact shaped_of_ordinary (ordinary_aes word)
  | shaTwo => exact shaped_of_ordinary (ordinary_shaTwo word)
  | shaThree => exact shaped_of_ordinary (ordinary_shaThree word)
  | copy => exact shaped_of_ordinary (ordinary_copy word)
  | tableLookup => exact shaped_of_ordinary (ordinary_tableLookup word)
  | permute => exact shaped_of_ordinary (ordinary_permute word)
  | extractVector => exact shaped_of_ordinary (ordinary_extractVector word)
  | modifiedImmediate => exact shaped_of_ordinary (ordinary_modifiedImmediate word)
  | threeSame => exact shaped_of_ordinary (ordinary_threeSame word)
  | halfSame => exact shaped_of_ordinary (ordinary_halfSame word)
  | threeSameExtra => exact shaped_of_ordinary (ordinary_threeSameExtra word)
  | threeDifferent => exact shaped_threeDifferent word
  | twoMisc => exact shaped_twoMisc word
  | twoMiscHalf => exact shaped_of_ordinary (ordinary_twoMiscHalf word)
  | acrossLanes => exact shaped_of_ordinary (ordinary_acrossLanes word)
  | byElement => exact shaped_byElement word
  | shiftImmediate e =>
    have himm : VectorClass.Immediate (.shiftImmediate e) word := ⟨hcls, trivial⟩
    exact shaped_of_ordinary
      (ordinary_shiftImmediate word (ne_q_of_shiftElement? himm.shiftElement?_eq))
  | scalarCopy => exact shaped_of_ordinary (ordinary_scalarCopy word)
  | scalarPairwise => exact shaped_scalarPairwise word
  | scalarByElement => exact shaped_of_ordinary (ordinary_scalarByElement word)
  | scalarThreeSame | scalarHalfSame | scalarThreeSameExtra | scalarThreeDifferent
  | scalarTwoMisc | scalarTwoMiscHalf | scalarShiftImmediate _ => cases hkind

end Decode

/-- Every vector of a decoded instruction has a proper shape: it fills 64 or 128 bits, or its lane
lies within 128 bits, but for the exceptions of few operands. -/
theorem decode_shaped {word : Word} {address : Address} {i : Instruction}
    (h : decode word address = .ok i) :
    ∀ k (o : Operand), i.operands.toList[k]? = some o →
      o.Shaped (Decoded.Allows ⟨i.operation, i.operands.toList⟩ k) := by
  have hshaped : Decoded.Shaped ⟨i.operation, i.operands.toList⟩ :=
    holds_of_undivided (fun _ hd => Decode.shaped_of_allUndivided hd)
      (Decode.shaped_multipleStructures word) (Decode.shaped_singleStructure word)
      (fun _ hcls hkind => Decode.shaped_vectorClass hcls hkind) h
  exact hshaped

/-- The products of polynomials of 64 bits. -/
theorem polynomialProduct_shaped :
    ∃ i : Instruction, decode 0x0ee2e020 0 = .ok i ∧ i.operation = .pmull ∧
      ∀ k (o : Operand), i.operands.toList[k]? = some o →
        o.Shaped (Decoded.Allows ⟨i.operation, i.operands.toList⟩ k) := by
  have h : decode 0x0ee2e020 0 = .ok ⟨0x0ee2e020, 0, .dataProcessingVector, .pmull,
      .ofList [Decode.vector 0 .q true, Decode.vector 1 .d false, Decode.vector 2 .d false]⟩ := by
    decide +kernel
  exact ⟨_, h, rfl, decode_shaped h⟩

end A64
