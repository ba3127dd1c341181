import A64.Proofs.VectorShape.Decode

/-!
# Operations on the halves of vectors

An operation that widens or narrows its elements works on the lower half of its narrow vectors, or
on the upper half under a name of its own (`Operation.halves`). `HalfShape` says how its vectors are
divided: in elements of two sizes, one twice the other. Those with wide elements fill 128 bits, and
those with narrow elements as many as the half asks for. Five classes build these shapes, each in
its own way; all of them agree.
-/

namespace A64

namespace Operation

/-- The operations on the lower half of vectors, each with the one on the upper half. -/
def halves : List (Operation × Operation) :=
  -- Three registers of different shapes, and products by an element.
  [(saddl, saddl2), (saddw, saddw2), (ssubl, ssubl2), (ssubw, ssubw2), (addhn, addhn2),
    (sabal, sabal2), (subhn, subhn2), (sabdl, sabdl2), (smlal, smlal2), (sqdmlal, sqdmlal2),
    (smlsl, smlsl2), (sqdmlsl, sqdmlsl2), (smull, smull2), (sqdmull, sqdmull2), (pmull, pmull2),
    (uaddl, uaddl2), (uaddw, uaddw2), (usubl, usubl2), (usubw, usubw2), (raddhn, raddhn2),
    (uabal, uabal2), (rsubhn, rsubhn2), (uabdl, uabdl2), (umlal, umlal2), (umlsl, umlsl2),
    (umull, umull2),
  -- One source.
    (xtn, xtn2), (sqxtn, sqxtn2), (sqxtun, sqxtun2), (uqxtn, uqxtn2), (shll, shll2),
    (fcvtn, fcvtn2), (fcvtl, fcvtl2), (fcvtxn, fcvtxn2),
  -- Shifts by an immediate.
    (shrn, shrn2), (rshrn, rshrn2), (sqshrn, sqshrn2), (sqrshrn, sqrshrn2), (sqshrun, sqshrun2),
    (sqrshrun, sqrshrun2), (uqshrn, uqshrn2), (uqrshrn, uqrshrn2), (sshll, sshll2),
    (ushll, ushll2), (sxtl, sxtl2), (uxtl, uxtl2)]

/-- Whether the operation is on the upper half, if it is on one. -/
def half? : Operation → Option Bool
  | saddl | saddw | ssubl | ssubw | addhn | sabal | subhn | sabdl | smlal | sqdmlal | smlsl
  | sqdmlsl | smull | sqdmull | pmull | uaddl | uaddw | usubl | usubw | raddhn | uabal | rsubhn
  | uabdl | umlal | umlsl | umull | xtn | sqxtn | sqxtun | uqxtn | shll | fcvtn | fcvtl | fcvtxn
  | shrn | rshrn | sqshrn | sqrshrn | sqshrun | sqrshrun | uqshrn | uqrshrn | sshll | ushll
  | sxtl | uxtl => some false
  | saddl2 | saddw2 | ssubl2 | ssubw2 | addhn2 | sabal2 | subhn2 | sabdl2 | smlal2 | sqdmlal2
  | smlsl2 | sqdmlsl2 | smull2 | sqdmull2 | pmull2 | uaddl2 | uaddw2 | usubl2 | usubw2 | raddhn2
  | uabal2 | rsubhn2 | uabdl2 | umlal2 | umlsl2 | umull2 | xtn2 | sqxtn2 | sqxtun2 | uqxtn2
  | shll2 | fcvtn2 | fcvtl2 | fcvtxn2 | shrn2 | rshrn2 | sqshrn2 | sqrshrn2 | sqshrun2
  | sqrshrun2 | uqshrn2 | uqrshrn2 | sshll2 | ushll2 | sxtl2 | uxtl2 => some true
  | _ => none

theorem half?_of_mem {lower upper : Operation} (h : (lower, upper) ∈ halves) :
    lower.half? = some false ∧ upper.half? = some true := by
  have hall : ∀ p ∈ halves, p.1.half? = some false ∧ p.2.half? = some true := by decide +kernel
  exact hall _ h

end Operation

/-- The arrangement of an operand that is not used by lane. -/
def Operand.whole? (o : Operand) : Option Arrangement :=
  if o.lane? = none then o.arrangement? else none

def wholeArrangements (os : List Operand) : List Arrangement := os.filterMap Operand.whole?

/-- The vectors have elements of two sizes. The wide ones fill 128 bits, and so do the narrow ones
if the upper half is used; otherwise they fill 64. -/
structure HalfShape (upper : Bool) (os : List Operand) (narrow wide : ElementSize) : Prop where
  double : wide.bits = 2 * narrow.bits
  sizes : ∀ e, (∃ a ∈ wholeArrangements os, a.element = e) ↔ e = narrow ∨ e = wide
  wide : ∀ a ∈ wholeArrangements os, a.element = wide → a.bits = 128
  narrow : ∀ a ∈ wholeArrangements os, a.element = narrow → a.bits = if upper then 128 else 64

def Decoded.OnVectors (d : Decoded) : Prop :=
  ∃ r, d.operands.head? = some (.register r) ∧ r.register.file = .v

/-- An operation on halves of vectors has the shape of the half that it names. -/
def Decoded.Halved (q : Bool) (d : Decoded) : Prop :=
  ∀ upper, d.operation.half? = some upper → d.OnVectors →
    upper = q ∧ ∃ narrow wide, HalfShape q d.operands narrow wide

namespace Decode

variable {e : ElementSize} {n : BitVec 5} {q : Bool} {op : Operation} {os : List Operand}

@[simp] theorem wholeArrangements_nil : wholeArrangements [] = [] := rfl

@[simp] theorem wholeArrangements_vector :
    wholeArrangements (vector n e q :: os) = .full e q :: wholeArrangements os := rfl

@[simp] theorem wholeArrangements_lane {index : Nat} :
    wholeArrangements (lane n e index :: os) = wholeArrangements os := rfl

@[simp] theorem wholeArrangements_immNat {value : Nat} :
    wholeArrangements (immNat value :: os) = wholeArrangements os := rfl

theorem halfShape (he : e ≠ .q) (h : ∀ a, a ∈ wholeArrangements os ↔
    a = .full e.double true ∨ a = .full e q) : HalfShape q os e e.double where
  double := by cases e <;> first | rfl | exact absurd rfl he
  sizes := by
    intro e'
    constructor
    · rintro ⟨a, ha, rfl⟩
      rcases (h a).1 ha with rfl | rfl
      · exact .inr rfl
      · exact .inl rfl
    · rintro (rfl | rfl)
      · exact ⟨_, (h _).2 (.inr rfl), rfl⟩
      · exact ⟨_, (h _).2 (.inl rfl), rfl⟩
  wide := by
    intro a ha helement
    rcases (h a).1 ha with rfl | rfl
    · cases e <;> rfl
    · cases e <;> first | exact absurd rfl he | cases helement
  narrow := by
    intro a ha helement
    rcases (h a).1 ha with rfl | rfl
    · cases e <;> first | exact absurd rfl he | cases helement
    · cases e <;> first | exact absurd rfl he | cases q <;> rfl

abbrev Halved (q : Bool) : Decoding → Prop := Yields (Decoded.Halved q)

theorem halved_of_half?_eq_none (h : op.half? = none) : Halved q (done op os) := by
  rintro upper hupper
  cases h.symm.trans hupper

theorem halved_of_mem {lower upper : Operation} (hmem : (lower, upper) ∈ Operation.halves)
    (he : e ≠ .q) (h : ∀ a, a ∈ wholeArrangements os ↔ a = .full e.double true ∨ a = .full e q) :
    Halved q (done (if q then upper else lower) os) := by
  obtain ⟨hlower, hupper⟩ := Operation.half?_of_mem hmem
  rintro half hhalf -
  refine ⟨?_, e, e.double, halfShape he h⟩
  cases q with
  | false => exact Option.some.inj (hhalf.symm.trans hlower)
  | true => exact Option.some.inj (hhalf.symm.trans hupper)

variable (word : Word)

theorem different?_halves : ∀ (u : Bool) (opcode : BitVec 4), ∀ row ∈ different? u opcode,
    (row.lower, row.upper) ∈ Operation.halves := by
  decide +kernel

theorem halved_threeDifferent : Halved word.q (threeDifferent word) := by
  simp only [threeDifferent]
  split
  · simp
  · have hmem := different?_halves _ _ _ ‹_›
    have he := elementSize_ne_q word
    split
    · simp
    · split <;> exact halved_of_mem hmem he (by simp [or_comm])

theorem halved_floatWidth : Halved word.q (floatWidth word) := by
  have hsizes : ∀ b : Bool, (if b then ElementSize.s else .h) ≠ .q ∧
      (if b then ElementSize.d else .s) = (if b then ElementSize.s else .h).double := by decide
  obtain ⟨he, hdouble⟩ := hsizes (word.bit 22)
  simp only [floatWidth, hdouble]
  generalize (if word.bit 22 then ElementSize.s else .h) = e at he
  split
  · simp
  · split
    · exact halved_of_mem (by decide +kernel) he (by simp [or_comm])
    · exact halved_of_mem (by decide +kernel) he (by simp)
    · split
      · exact halved_of_mem (by decide +kernel) he (by simp [or_comm])
      · simp
    · simp

/-- The halves that a shape uses are a pair, and the other shapes do not use any. -/
def MiscShape.Pairs (op : Operation) : MiscShape → Prop
  | narrow upper | shiftLong upper => (op, upper) ∈ Operation.halves
  | same | zero | pairLong => op.half? = none

instance (op : Operation) : (shape : MiscShape) → Decidable (shape.Pairs op)
  | .narrow _ | .shiftLong _ => inferInstanceAs (Decidable (_ ∈ _))
  | .same | .zero | .pairLong => inferInstanceAs (Decidable (_ = _))

theorem integerMisc?_pairs : ∀ (u : Bool) (opcode : BitVec 5), ∀ row ∈ integerMisc? u opcode,
    row.shape.Pairs row.operation := by
  decide +kernel

theorem halved_integerMisc : Halved word.q (integerMisc word) := by
  simp only [integerMisc]
  split
  · simp
  · rename_i op sizes shape hrow
    have hpairs : shape.Pairs op := integerMisc?_pairs _ _ _ hrow
    have he := elementSize_ne_q word
    split
    · simp
    · cases shape with
      | same | zero =>
        dsimp only
        split
        · simp
        · exact halved_of_half?_eq_none hpairs
      | pairLong => exact halved_of_half?_eq_none hpairs
      | narrow upper => exact halved_of_mem hpairs he (by simp [or_comm])
      | shiftLong upper => exact halved_of_mem hpairs he (by simp)

theorem floatMisc?_half? : ∀ (u a : Bool) (opcode : BitVec 5), ∀ row ∈ floatMisc? u a opcode,
    row.operation.half? = none := by
  decide +kernel

theorem halved_floatMisc : Halved word.q (floatMisc word) := by
  simp only [floatMisc, integerEstimate]
  split
  · simp
  · split
    · split
      · simp
      · split <;> exact halved_of_half?_eq_none rfl
    · split
      · simp
      · exact halved_of_half?_eq_none (floatMisc?_half? _ _ _ _ ‹_›)

theorem halved_invertBits : Halved word.q (invertBits word) := by
  unfold invertBits
  split
  · exact halved_of_half?_eq_none rfl
  · exact halved_of_half?_eq_none rfl
  · simp

theorem halved_twoMisc : Halved word.q (twoMisc word) := by
  simp [twoMisc, halved_invertBits, halved_floatWidth, halved_floatMisc, halved_integerMisc]

def ByElementShape.Pairs (op : Operation) : ByElementShape → Prop
  | long upper => (op, upper) ∈ Operation.halves
  | integer | float | dot | complex => op.half? = none

instance (op : Operation) : (shape : ByElementShape) → Decidable (shape.Pairs op)
  | .long _ => inferInstanceAs (Decidable (_ ∈ _))
  | .integer | .float | .dot | .complex => inferInstanceAs (Decidable (_ = _))

theorem byElement?_pairs : ∀ (u : Bool) (opcode : BitVec 4), ∀ row ∈ byElement? u opcode,
    row.2.Pairs row.1 := by
  decide +kernel

theorem halved_byElement : Halved word.q (byElement word) := by
  simp only [byElement]
  cases hrow : byElement? word.u (word.field 12 4) with
  | none => simp
  | some row =>
    obtain ⟨op, shape⟩ := row
    have hpairs : shape.Pairs op := byElement?_pairs _ _ _ hrow
    cases shape with
    | dot =>
      simp only [dotByElement, yields_ite]
      exact ⟨fun _ => halved_of_half?_eq_none hpairs, by simp⟩
    | complex =>
      simp only [complexByElement]
      repeat' split
      all_goals first | exact halved_of_half?_eq_none hpairs | simp
    | float | integer =>
      dsimp only
      repeat' split
      all_goals first | exact halved_of_half?_eq_none hpairs | simp
    | long upper =>
      dsimp only
      split
      · simp
      · split
        · simp
        · exact halved_of_mem hpairs (indexedElement?_bounds word ‹_›).2
            (by simp [IndexedElement.operand])

def ShiftForm.Pairs (op : Operation) : ShiftForm → Prop
  | narrow upper => (op, upper) ∈ Operation.halves
  | long upper extend extendUpper =>
    (op, upper) ∈ Operation.halves ∧ (extend, extendUpper) ∈ Operation.halves
  | right | left | fixed => op.half? = none

instance (op : Operation) : (form : ShiftForm) → Decidable (form.Pairs op)
  | .narrow _ => inferInstanceAs (Decidable (_ ∈ _))
  | .long _ _ _ => inferInstanceAs (Decidable (_ ∧ _))
  | .right | .left | .fixed => inferInstanceAs (Decidable (_ = _))

theorem shift?_pairs : ∀ (u : Bool) (opcode : BitVec 5), ∀ row ∈ shift? u opcode,
    row.2.Pairs row.1 := by
  decide +kernel

theorem halved_shiftImmediate {e : ElementSize} (he : e ≠ .q) :
    Halved word.q (shiftImmediate word e) := by
  simp only [shiftImmediate]
  cases hrow : shift? word.u (word.field 11 5) with
  | none => simp
  | some row =>
    obtain ⟨op, form⟩ := row
    have hpairs : form.Pairs op := shift?_pairs _ _ _ hrow
    cases form with
    | right | left | fixed =>
      dsimp only
      repeat' split
      all_goals first | exact halved_of_half?_eq_none hpairs | simp
    | narrow upper =>
      dsimp only
      split
      · simp
      · exact halved_of_mem hpairs he (by simp [or_comm])
    | long upper extend extendUpper =>
      obtain ⟨hshift, hextend⟩ := hpairs
      dsimp only
      split
      · simp
      · split
        · exact halved_of_mem hextend he (by simp)
        · exact halved_of_mem hshift he (by simp)

/-! ### The other classes -/

/-- The operation of the encoding is on no half, or its first operand is a scalar. -/
def SparesHalves (enc : Encoding) : Prop :=
  enc.operation.half? = none ∨ ∃ e ∈ anySize, enc.slots.head?.map Slot.kind = some (.scalar e)

instance (enc : Encoding) : Decidable (SparesHalves enc) := inferInstanceAs (Decidable (_ ∨ _))

theorem sparesHalves {cls : VectorClass} (hmem : cls ∈ VectorClass.plainClasses)
    (hne : cls ∉ [VectorClass.threeDifferent, .twoMisc, .byElement]) :
    ∀ enc ∈ cls.encodings, SparesHalves enc := by
  have hall : ∀ cls ∈ VectorClass.plainClasses,
      cls ∉ [VectorClass.threeDifferent, .twoMisc, .byElement] →
        ∀ enc ∈ cls.encodings, SparesHalves enc := by decide +kernel
  exact hall cls hmem hne

theorem kind_ne_scalar {r : RegisterOperand} (h : r.register.file = .v) (e : ElementSize) :
    (Operand.register r).kind ≠ .scalar e := by
  intro hkind
  unfold Operand.kind at hkind
  split at hkind <;> simp_all [RegisterFile.kind]

theorem halved_of_described {es : List Encoding} {d : Decoded} (hes : ∀ enc ∈ es, SparesHalves enc)
    (h : Encoding.Described es word d) : Decoded.Halved q d := by
  obtain ⟨enc, henc, hdescribes⟩ := h
  rintro upper hupper ⟨r, hr, hfile⟩
  rw [hdescribes.meaning] at hupper hr
  rcases hes enc henc with hnone | ⟨e, -, hkind⟩
  · cases hnone.symm.trans hupper
  · cases hslots : enc.slots with
    | nil => simp [hslots] at hkind
    | cons slot slots =>
      simp only [hslots, List.head?_cons, List.map_cons, Option.map_some, Option.some.injEq]
        at hkind hr
      have hslot := slot.kind_operand word
      rw [hr, hkind] at hslot
      exact absurd hslot (kind_ne_scalar hfile e)

theorem halved_of_leavesBitsOut {d : Decoded} (h : LeavesBitsOut d) : Decoded.Halved q d := by
  obtain ⟨op, os⟩ := d
  simp only [LeavesBitsOut] at h
  split at h
  · exact halved_of_half?_eq_none rfl
  · exact halved_of_half?_eq_none rfl
  · exact halved_of_half?_eq_none rfl
  · exact halved_of_half?_eq_none rfl
  · exact h.elim

theorem halved_of_undivided {d : Decoded} (h : d.Undivided) : Decoded.Halved q d := by
  rintro upper - ⟨r, hr, hfile⟩
  exact absurd hfile (h _ (List.mem_of_mem_head? hr)).1

theorem constantOperation_half? (combine invert : Bool) :
    (constantOperation combine invert).half? = none := by
  cases combine <;> cases invert <;> rfl

theorem halved_modifiedImmediate : Halved q (modifiedImmediate word) := by
  have hconstant {combine invert : Bool} {os : List Operand} :
      Halved q (done (constantOperation combine invert) os) :=
    halved_of_half?_eq_none (constantOperation_half? combine invert)
  simp only [modifiedImmediate]
  repeat' split
  all_goals first | exact hconstant | exact halved_of_half?_eq_none rfl | simp

theorem halved_structure {op : Operation} {l : RegisterList} {os : List Operand} :
    Halved q (done op (.registerList l :: os)) := by
  rintro upper - ⟨r, ⟨⟩, -⟩

theorem halved_vectorClass {word : Word} {cls : VectorClass} (hcls : cls.Matches word)
    (hkind : cls.kind = .vector) : Halved word.q (cls.meaning word) := by
  by_cases hhalf : cls ∈ [VectorClass.threeDifferent, .twoMisc, .byElement]
  · simp only [List.mem_cons, List.not_mem_nil, or_false] at hhalf
    rcases hhalf with rfl | rfl | rfl
    · exact halved_threeDifferent word
    · exact halved_twoMisc word
    · exact halved_byElement word
  · by_cases himm : cls.TakesImmediate
    · cases cls with
      | modifiedImmediate => exact halved_modifiedImmediate word
      | shiftImmediate e =>
        have himmediate : VectorClass.Immediate (.shiftImmediate e) word := ⟨hcls, himm⟩
        exact halved_shiftImmediate word (ne_q_of_shiftElement? himmediate.shiftElement?_eq)
      | scalarShiftImmediate e => cases hkind
      | _ => exact himm.elim
    · refine yields_iff.2 fun d hd => ?_
      by_cases hout : LeavesBitsOut d
      · exact halved_of_leavesBitsOut hout
      · exact halved_of_described word (sparesHalves (VectorClass.mem_plainClasses himm) hhalf)
          (VectorClass.described hcls himm hd hout)

theorem halved_multipleStructures : Halved q (multipleStructures word) := by
  simp only [multipleStructures]
  repeat' split
  all_goals first | exact halved_structure | simp

theorem halved_singleStructure : Halved q (singleStructure word) := by
  simp only [singleStructure]
  repeat' split
  all_goals first | exact halved_structure | simp

end Decode

/-- An operation on halves of vectors is the one on the upper half exactly if bit 30 is set. Its
vectors have elements of two sizes, of which the wide ones fill 128 bits, and the narrow ones 64, or
128 for the upper half. -/
theorem halfShape_of_decode {word : Word} {address : Address} {i : Instruction}
    {lower upper : Operation} {r : RegisterOperand} (hpair : (lower, upper) ∈ Operation.halves)
    (h : decode word address = .ok i) (hop : i.operation = lower ∨ i.operation = upper)
    (hfirst : i.operands.toList.head? = some (.register r)) (hfile : r.register.file = .v) :
    (i.operation = upper ↔ word.bit 30 = true) ∧
      ∃ narrow wide, HalfShape (word.bit 30) i.operands.toList narrow wide := by
  obtain ⟨hlower, hupper⟩ := Operation.half?_of_mem hpair
  have hhalved : Decoded.Halved word.q ⟨i.operation, i.operands.toList⟩ :=
    holds_of_undivided (fun _ hd => Decode.halved_of_undivided hd)
      (Decode.halved_multipleStructures word) (Decode.halved_singleStructure word)
      (fun _ hcls hkind => Decode.halved_vectorClass hcls hkind) h
  rcases hop with rfl | rfl
  · obtain ⟨hq, hshape⟩ := hhalved false hlower ⟨r, hfirst, hfile⟩
    refine ⟨iff_of_false ?_ (Bool.eq_false_iff.1 hq.symm), hshape⟩
    rintro rfl
    cases hlower.symm.trans hupper
  · obtain ⟨hq, hshape⟩ := hhalved true hupper ⟨r, hfirst, hfile⟩
    exact ⟨iff_of_true rfl hq.symm, hshape⟩

/-- A shift of the upper halves of vectors into wide elements. -/
theorem shiftLongUpper_halfShape :
    ∃ i : Instruction, decode 0x4f0ca420 0 = .ok i ∧
      (i.operation = .sshll2 ↔ (0x4f0ca420 : Word).bit 30 = true) ∧
        ∃ narrow wide, HalfShape ((0x4f0ca420 : Word).bit 30) i.operands.toList narrow wide := by
  have h : decode 0x4f0ca420 0 = .ok ⟨0x4f0ca420, 0, .dataProcessingVector, .sshll2,
      .ofList [Decode.vector 0 .h true, Decode.vector 1 .b true, Decode.immNat 4]⟩ := by
    decide +kernel
  have hpair : (Operation.sshll, Operation.sshll2) ∈ Operation.halves := by decide
  exact ⟨_, h, halfShape_of_decode hpair h (.inr rfl) rfl rfl⟩

end A64
