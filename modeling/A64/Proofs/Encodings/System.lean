import A64.Proofs.Encodings.Branch
import A64.Proofs.SystemName

/-!
# Encodings of exceptions and system instructions

The encodings of exceptions, hints, barriers, writes to the processor state, maintenance operations
and moves of system registers, with the theorem for each decoder that they describe what it accepts.
Changes of the format of the flags are left out: they do not show all of their fields.
-/

namespace A64

open Encoding Slot

def SystemForm.shown (form : SystemForm) : List Field :=
  [⟨19, 2⟩, ⟨16, 3⟩, ⟨12, 4⟩, ⟨5, 3⟩] ++
    match form with
    | stateField => []
    | _ => [⟨8, 4⟩]

def SystemForm.operand (form : SystemForm) (w : Word) : Operand :=
  Decode.systemOperand (Decode.systemEncoding w) (form.name? (Decode.systemEncoding w))

theorem SystemForm.same_of_named_eq {form : SystemForm} {w w' : Word}
    (h : form.named (Decode.systemEncoding w) = form.named (Decode.systemEncoding w')) :
    ∀ f ∈ form.shown, f.Same w w' := by
  cases form <;>
    simp_all [named, shown, Decode.systemEncoding, BitVec.toNat_inj]

/-- A system register, or the numbers of one without a name. -/
def Slot.system (form : SystemForm) : Slot where
  kind := .value
  operand := form.operand
  shown := form.shown
  Holds := fun w => form.Has (Decode.systemEncoding w)
  kind_operand := by
    intro w
    unfold SystemForm.operand
    cases form.name? (Decode.systemEncoding w) <;> rfl
  faithful := by
    intro w w' hw hw' h
    have hnormal (w : Word) : (form.operand w).normal = form.operand w := by
      unfold SystemForm.operand
      cases form.name? (Decode.systemEncoding w) <;> rfl
    rw [hnormal, hnormal] at h
    exact SystemForm.same_of_named_eq (SystemForm.named_eq_of_operand_eq hw hw' h)

@[simp] theorem Slot.holds_system {form : SystemForm} {w : Word} :
    (Slot.system form).Holds w ↔ form.Has (Decode.systemEncoding w) := Iff.rfl

namespace Decode

variable {w : Word} {d : Decoded}

def exceptionFixed (opc : BitVec 3) (level : BitVec 2) : List (Field × Nat) :=
  ControlClass.exception.fixed ++
    [(⟨21, 3⟩, opc.toNat), (⟨2, 3⟩, 0), (⟨0, 2⟩, level.toNat)]

def numberedException (op : Operation) (opc : BitVec 3) (level : BitVec 2) : Encoding :=
  ⟨op, [.imm 5 16], exceptionFixed opc level⟩

/-- An exception that leaves an immediate of zero out. -/
def bareException (op : Operation) (opc : BitVec 3) (level : BitVec 2) : Encoding :=
  ⟨op, [], exceptionFixed opc level ++ [(⟨5, 16⟩, 0)]⟩

def exceptionEncodings : List Encoding :=
  ofTable (bitPairs 3 2) (fun (opc, level) => exception? opc level) fun (opc, level) op =>
    numberedException op opc level ::
      if opc = 0b101 then [bareException op opc level] else []

theorem described_exception (hw : HasFields ControlClass.exception.fixed w)
    (h : exception w = .ok d) : Described exceptionEncodings w d := by
  simp only [exception] at h
  split at h
  · cases h
  · rename_i hop2
    have hfixed : HasFields (exceptionFixed (w.field 21 3) (w.field 0 2)) w := by
      simp [exceptionFixed, hw, of_not_not hop2]
    split at h <;> cases h
    rename_i op hrow
    refine .ofTable (k := (w.field 21 3, w.field 0 2)) (by simp) hrow ?_
    dsimp only
    by_cases himm : w.field 21 3 = 0b101 ∧ w.field 5 16 = 0
    · rw [if_pos himm]
      refine .of_mem (e := bareException op (w.field 21 3) (w.field 0 2)) (by simp [himm.1])
        ⟨?_, hold_nil, rfl⟩
      exact hasFields_append.2 ⟨hfixed, by simp [himm.2]⟩
    · rw [if_neg himm]
      refine .of_mem (e := numberedException op (w.field 21 3) (w.field 0 2)) (by simp)
        ⟨hfixed, ?_, rfl⟩
      simp [numberedException]

/-- The fixed fields of system instructions that name no register, with the number of their kind. -/
def systemImmediateFixed (crn : Nat) : List (Field × Nat) :=
  ControlClass.system.fixed ++ [(⟨19, 2⟩, 0), (⟨21, 1⟩, 0), (⟨0, 5⟩, 31), (⟨12, 4⟩, crn)]

def hintFixed : List (Field × Nat) := systemImmediateFixed 2 ++ [(⟨16, 3⟩, 3)]

/-- The kinds of branches that a landing pad is for; it is for none without an operand. -/
def landingPad (n : BitVec 2) : Operand :=
  .systemRegister
    (match n with
    | 0 => .csync
    | 1 => .c
    | 2 => .j
    | 3 => .jc)

def landingPadSlot : Slot :=
  .ofField 6 .value landingPad (fun _ => rfl) (by decide)

@[simp] theorem holds_landingPadSlot : landingPadSlot.Holds w := trivial

def isLandingPad (n : BitVec 7) : Bool := n = 34 ∨ n = 36 ∨ n = 38

def namedHintEncodings : List Encoding :=
  ofTable ((bitVectors 7).filter (!isLandingPad ·)) namedHint? fun n d =>
    [⟨d.operation, d.operands.map .const, hintFixed ++ [(⟨5, 7⟩, n.toNat)]⟩]

theorem described_namedHint (hw : HasFields hintFixed w)
    (hpad : isLandingPad (w.field 5 7) = false) (hrow : namedHint? (w.field 5 7) = some d) :
    Described namedHintEncodings w d := by
  refine .ofTable (k := w.field 5 7) (by simp [hpad]) hrow (.single ⟨?_, ?_, ?_⟩)
  · simp [hw]
  · simp [Slot.Hold]
  · simp [Function.comp_def, Slot.const]

def landingPadEncodings : List Encoding :=
  [⟨.bti, [landingPadSlot], hintFixed ++ [(⟨8, 4⟩, 4), (⟨5, 1⟩, 0)]⟩]

theorem described_landingPad (hw : HasFields hintFixed w)
    (hpad : isLandingPad (w.field 5 7) = true) (hrow : namedHint? (w.field 5 7) = some d) :
    Described landingPadEncodings w d := by
  have hhigh : (w.field 5 7).extractLsb' 3 4 = w.field 8 4 := w.field_field (by decide)
  have hmiddle : (w.field 5 7).extractLsb' 1 2 = w.field 6 2 := w.field_field (by decide)
  have hlow : (w.field 5 7).extractLsb' 0 1 = w.field 5 1 := w.field_field (by decide)
  have hall : ∀ n : BitVec 7, isLandingPad n = true → n.extractLsb' 3 4 = 4 ∧
      n.extractLsb' 0 1 = 0 ∧ namedHint? n = some ⟨.bti, [landingPad (n.extractLsb' 1 2)]⟩ := by
    decide
  obtain ⟨h8, h5, hmeaning⟩ := hall _ hpad
  rw [hhigh] at h8
  rw [hlow] at h5
  rw [hmiddle, hrow] at hmeaning
  exact .single ⟨by simp [hw, h8, h5], by simp, Option.some.inj hmeaning⟩

def numberedHintEncodings : List Encoding := [⟨.hint, [.imm 5 7], hintFixed⟩]

def hintEncodings : List Encoding :=
  [namedHintEncodings, landingPadEncodings, numberedHintEncodings].flatten

theorem described_hint (hw : HasFields hintFixed w) :
    Described hintEncodings w (hint (w.field 5 7)) := by
  unfold hint
  cases hrow : namedHint? (w.field 5 7) with
  | none =>
    have hnumbered : Described numberedHintEncodings w ⟨.hint, [imm (w.field 5 7)]⟩ :=
      .single ⟨hw, by simp, rfl⟩
    exact .of_part (by simp) hnumbered
  | some d =>
    cases hpad : isLandingPad (w.field 5 7) with
    | true => exact .of_part (by simp) (described_landingPad hw hpad hrow)
    | false => exact .of_part (by simp) (described_namedHint hw hpad hrow)

def barrierFixed (op2 : Nat) : List (Field × Nat) :=
  systemImmediateFixed 3 ++ [(⟨16, 3⟩, 3), (⟨5, 3⟩, op2)]

def barrierSlot : Slot :=
  .ofField 8 .value barrierOption (by decide) (by decide)

@[simp] theorem holds_barrierSlot : barrierSlot.Holds w := trivial

def numberedBarrier (op : Operation) (op2 : Nat) : Encoding :=
  ⟨op, [.imm 8 4], barrierFixed op2⟩

def namedBarrier (op : Operation) (op2 : Nat) : Encoding :=
  ⟨op, [barrierSlot], barrierFixed op2⟩

/-- A barrier of one option. -/
def bareBarrier (op : Operation) (op2 option : Nat) : Encoding :=
  ⟨op, [], barrierFixed op2 ++ [(⟨8, 4⟩, option)]⟩

def barrierEncodings : List Encoding :=
  [bareBarrier .clrex 2 15, numberedBarrier .clrex 2, bareBarrier .isb 6 15,
    numberedBarrier .isb 6, bareBarrier .ssbb 4 0, bareBarrier .pssbb 4 4, namedBarrier .dsb 4,
    namedBarrier .dmb 5, bareBarrier .sb 7 0]

theorem describes_numberedBarrier {op : Operation} {op2 : Nat}
    (hw : HasFields (barrierFixed op2) w) :
    (numberedBarrier op op2).Describes w ⟨op, [imm (w.field 8 4)]⟩ :=
  ⟨hw, by simp [numberedBarrier], rfl⟩

theorem describes_namedBarrier {op : Operation} {op2 : Nat} (hw : HasFields (barrierFixed op2) w) :
    (namedBarrier op op2).Describes w ⟨op, [barrierOption (w.field 8 4)]⟩ :=
  ⟨hw, by simp [namedBarrier], rfl⟩

theorem describes_bareBarrier {op : Operation} {op2 option : Nat}
    (hw : HasFields (barrierFixed op2) w) (hoption : w.field 8 4 = BitVec.ofNat 4 option) :
    (bareBarrier op op2 option).Describes w ⟨op, []⟩ := by
  refine ⟨?_, hold_nil, rfl⟩
  exact hasFields_append.2 ⟨hw, by simp [hoption]⟩

/-- The option of a barrier may be left out if it is the whole system. -/
theorem described_optionalBarrier {op : Operation} {op2 : Nat}
    (hw : HasFields (barrierFixed op2) w) (hbare : bareBarrier op op2 15 ∈ barrierEncodings)
    (hnumbered : numberedBarrier op op2 ∈ barrierEncodings) :
    Described barrierEncodings w ⟨op, if w.field 8 4 = 15 then [] else [imm (w.field 8 4)]⟩ := by
  split
  · rename_i hoption
    exact .of_mem hbare (describes_bareBarrier hw hoption)
  · exact .of_mem hnumbered (describes_numberedBarrier hw)

theorem described_barrier (hw : HasFields (systemImmediateFixed 3) w) (hop1 : w.field 16 3 = 3)
    (h : barrier (w.field 5 3) (w.field 8 4) = .ok d) : Described barrierEncodings w d := by
  have hfixed {op2 : Nat} (hop2 : w.field 5 3 = BitVec.ofNat 3 op2) :
      HasFields (barrierFixed op2) w := by
    simp [barrierFixed, hw, hop1, hop2]
  unfold barrier at h
  extract_lets option at h
  split at h <;> rename_i hop2
  · cases h
    exact described_optionalBarrier (hfixed hop2) (by simp [barrierEncodings])
      (by simp [barrierEncodings])
  · split at h <;> cases h
    · rename_i hoption
      exact .of_mem (e := bareBarrier .ssbb 4 0) (by simp [barrierEncodings])
        (describes_bareBarrier (hfixed hop2) hoption)
    · rename_i hoption
      exact .of_mem (e := bareBarrier .pssbb 4 4) (by simp [barrierEncodings])
        (describes_bareBarrier (hfixed hop2) hoption)
    · exact .of_mem (e := namedBarrier .dsb 4) (by simp [barrierEncodings])
        (describes_namedBarrier (hfixed hop2))
  · cases h
    exact .of_mem (e := namedBarrier .dmb 5) (by simp [barrierEncodings])
      (describes_namedBarrier (hfixed hop2))
  · cases h
    exact described_optionalBarrier (hfixed hop2) (by simp [barrierEncodings])
      (by simp [barrierEncodings])
  · split at h <;> cases h
    rename_i hoption
    exact .of_mem (e := bareBarrier .sb 7 0) (by simp [barrierEncodings])
      (describes_bareBarrier (hfixed hop2) hoption)
  · cases h

def flagFormats : List Operation := [.cfinv, .xaflag, .axflag]

def processorStateEncodings : List Encoding :=
  [⟨.msr, [.system .stateField, .imm 8 4], systemImmediateFixed 4⟩]

theorem described_processorState (hw : HasFields (systemImmediateFixed 4) w)
    (h : processorState (w.field 16 3) (w.field 5 3) (w.field 8 4) = .ok d)
    (hd : d.operation ∉ flagFormats) : Described processorStateEncodings w d := by
  unfold processorState at h
  split at h
  case h_1 | h_2 | h_3 =>
    cases h
    exact absurd (by decide) hd
  case h_4 =>
    split at h <;> cases h
    rename_i field hfield
    simp only [systemImmediateFixed, hasFields_append, hasFields_cons] at hw
    obtain ⟨-, h19, -, -, h12, -⟩ := id hw
    refine .single ⟨by simpa [systemImmediateFixed] using hw, ?_, ?_⟩
    · simp [SystemForm.Has, systemEncoding, h19, h12]
    · simp [Slot.system, SystemForm.operand, SystemForm.name?, systemEncoding, hfield,
        systemOperand, Slot.imm]

def systemInstructionFixed (read : Bool) : List (Field × Nat) :=
  ControlClass.system.fixed ++ [(⟨19, 2⟩, 1), (⟨21, 1⟩, read.toNat)]

def systemNumbers : List Slot := [.imm 16 3, .control 12, .control 8, .imm 5 3]

/-- A system instruction that leaves the zero register out as its source. -/
def withoutSource (op : Operation) (slots : List Slot) : Encoding :=
  ⟨op, slots, systemInstructionFixed false ++ [(⟨0, 5⟩, 31)]⟩

def withSource (op : Operation) (slots : List Slot) : Encoding :=
  ⟨op, slots ++ [.gpr true rd], systemInstructionFixed false⟩

def sourceEncodings (op : Operation) (slots : List Slot) : List Encoding :=
  [withoutSource op slots, withSource op slots]

def maintenanceKinds : List MaintenanceKind :=
  [.addressLookup, .dataCache, .instructionCache, .lookasideBuffer]

def resultEncodings : List Encoding :=
  [⟨.sysl, .gpr true rd :: systemNumbers, systemInstructionFixed true⟩]

def maintenanceEncodings : List Encoding :=
  maintenanceKinds.flatMap fun kind => sourceEncodings (maintenance kind) [.system .maintenance]

def systemInstructionEncodings : List Encoding :=
  [resultEncodings, sourceEncodings .sys systemNumbers, maintenanceEncodings].flatten

theorem described_source (op : Operation) (slots : List Slot)
    (hw : HasFields (systemInstructionFixed false) w) (hs : Slot.Hold slots w) :
    Described (sourceEncodings op slots) w
      ⟨op, slots.map (·.operand w) ++ if w.rt = 31 then [] else [x w.rt]⟩ := by
  split
  · rename_i hrt
    have hrt : w.field 0 5 = 31#5 := hrt
    refine .of_mem (e := withoutSource op slots) (by simp [sourceEncodings]) ⟨?_, hs, ?_⟩
    · exact hasFields_append.2 ⟨hw, by simp [hrt]⟩
    · simp [withoutSource]
  · refine .of_mem (e := withSource op slots) (by simp [sourceEncodings]) ⟨hw, ?_, ?_⟩
    · simp [withSource, hs]
    · simp only [withSource, List.map_append]
      rfl

theorem described_systemInstruction (hw : HasFields ControlClass.system.fixed w)
    (h19 : w.field 19 2 = 1) : Described systemInstructionEncodings w (systemInstruction w) := by
  have hfixed : HasFields (systemInstructionFixed (w.bit 21)) w := by
    simp [systemInstructionFixed, hw, h19]
  have hnumbers : Slot.Hold systemNumbers w := by simp [systemNumbers]
  simp only [systemInstruction]
  split <;> rename_i h21
  · rw [h21] at hfixed
    have hresult : Described resultEncodings w ⟨.sysl, x w.rt :: systemNumbers.map (·.operand w)⟩ :=
      .single ⟨hfixed, by simp [hnumbers], rfl⟩
    exact .of_part (by simp) hresult
  · rw [eq_false_of_ne_true h21] at hfixed
    split
    · rename_i kind name hname
      have hdescribed := described_source (maintenance kind) [.system .maintenance]
        hfixed (by simp [SystemForm.Has, systemEncoding, h19])
      have hoperand : SystemForm.maintenance.operand w = .systemRegister name := by
        simp [SystemForm.operand, SystemForm.name?, systemEncoding, hname, systemOperand]
      have hkind : kind ∈ maintenanceKinds := by cases kind <;> decide
      refine .of_part (l := maintenanceEncodings) (by simp) (.flatMap hkind ?_)
      simpa [Slot.system, hoperand] using hdescribed
    · exact .of_part (by simp) (described_source .sys systemNumbers hfixed hnumbers)

def moveFromSystem : Encoding :=
  ⟨.mrs, [.gpr true rd, .system .read], ControlClass.system.fixed ++ [(⟨20, 1⟩, 1), (⟨21, 1⟩, 1)]⟩

def moveToSystem : Encoding :=
  ⟨.msr, [.system .write, .gpr true rd], ControlClass.system.fixed ++ [(⟨20, 1⟩, 1), (⟨21, 1⟩, 0)]⟩

def systemMoveEncodings : List Encoding := [moveFromSystem, moveToSystem]

theorem described_systemMove (hw : HasFields ControlClass.system.fixed w)
    (h0 : w.field 19 2 ≠ 0) (h1 : w.field 19 2 ≠ 1) :
    Described systemMoveEncodings w (systemMove w) := by
  have hall : ∀ n : BitVec 2, n ≠ 0 → n ≠ 1 → 2 ≤ n.toNat ∧ n.extractLsb' 1 1 = 1 := by decide
  have hhigh : (w.field 19 2).extractLsb' 1 1 = w.field 20 1 := w.field_field (by decide)
  obtain ⟨hop0, h20⟩ := hall _ h0 h1
  rw [hhigh] at h20
  simp only [systemMove]
  split <;> rename_i h21
  · refine .of_mem (e := moveFromSystem) (by simp [systemMoveEncodings]) ⟨?_, ?_, ?_⟩
    · simp [moveFromSystem, hw, h20, Word.field_eq_one_iff.2 h21]
    · simpa [moveFromSystem, SystemForm.Has, systemEncoding] using hop0
    · simp only [moveFromSystem, List.map_cons, List.map_nil, Slot.system, SystemForm.operand,
        SystemForm.name?]
      rfl
  · refine .of_mem (e := moveToSystem) (by simp [systemMoveEncodings]) ⟨?_, ?_, ?_⟩
    · simp [moveToSystem, hw, h20, Word.field_eq_zero_iff.2 (eq_false_of_ne_true h21)]
    · simpa [moveToSystem, SystemForm.Has, systemEncoding] using hop0
    · simp only [moveToSystem, List.map_cons, List.map_nil, Slot.system, SystemForm.operand,
        SystemForm.name?]
      rfl

def systemEncodings : List Encoding :=
  [hintEncodings, barrierEncodings, processorStateEncodings, systemInstructionEncodings,
    systemMoveEncodings].flatten

theorem described_system (hw : HasFields ControlClass.system.fixed w) (h : system w = .ok d)
    (hd : d.operation ∉ flagFormats) : Described systemEncodings w d := by
  unfold system at h
  split at h
  · rename_i h19
    split at h
    · cases h
    · rename_i h21
      simp only [systemImmediate] at h
      split at h
      · cases h
      · rename_i hrt
        have hrt : w.field 0 5 = 31 := of_not_not hrt
        have hfixed {crn : Nat} (hcrn : w.field 12 4 = BitVec.ofNat 4 crn) :
            HasFields (systemImmediateFixed crn) w := by
          simp [systemImmediateFixed, hw, h19, hrt, hcrn,
            Word.field_eq_zero_iff.2 (eq_false_of_ne_true h21)]
        split at h
        · rename_i hcrn hop1
          cases h
          have happend : w.field 8 4 ++ w.field 5 3 = w.field 5 7 := w.field_append rfl
          rw [happend]
          have hhint : HasFields hintFixed w := by simp [hintFixed, hfixed hcrn, hop1]
          exact .of_part (by simp) (described_hint hhint)
        · rename_i hcrn hop1
          exact .of_part (by simp) (described_barrier (hfixed hcrn) hop1 h)
        · rename_i hcrn
          exact .of_part (by simp) (described_processorState (hfixed hcrn) h hd)
        · cases h
  · rename_i h19
    cases h
    exact .of_part (by simp) (described_systemInstruction hw h19)
  · rename_i h1 h0
    cases h
    exact .of_part (by simp) (described_systemMove hw h1 h0)

end Decode

end A64
