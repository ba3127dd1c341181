import A64.Decode
import A64.Proofs.Regular.Control
import A64.Proofs.Regular.Integer
import A64.Proofs.Regular.Memory
import A64.Proofs.Regular.Vector

/-!
# What a word means at every address

`Decode.Form`: either one absolute result for all addresses, or an operation whose last operand is a
label at a fixed offset from the word or from its page, after absolute operands. `exists_form` says
once that every allocated word has a valid form; what decoding promises at one address and how two
addresses compare are both read off it.
-/

namespace A64.Decode

/-- The address from which a label counts: that of the word, or of its page of `2 ^ 12` bytes. -/
def origin (page : Bool) (address : Address) : Address :=
  if page then address &&& ~~~0xfff else address

/-- The operations that may end in a label. Loads and prefetches do so only in the class of
literals. -/
def TakesLabel (word : Word) (op : Operation) : Prop :=
  op ∈ [Operation.adr, .adrp, .b, .bl, .cbz, .cbnz, .tbz, .tbnz] ∨ (∃ c, op = .branchIf c) ∨
    (MemoryClass.ofWord word = .ok .literal ∧ op ∈ [Operation.ldr, .ldrsw, .prfm])

/-- The meaning of a word as a function of its address. -/
inductive Form where
  /-- The same result everywhere. -/
  | absolute (d : Decoding)
  /-- An operation on the given operands and a label at an offset from the word or its page. -/
  | relative (op : Operation) (first : List Operand) (page : Bool) (offset : Int)

namespace Form

variable {f : Form} {word : Word} {address : Address} {d : Decoded}

def meaning (address : Address) : Form → Decoding
  | absolute d => d
  | relative op first page offset => done op (first ++ [label (origin page address) offset])

def Valid (word : Word) : Form → Prop
  | absolute d => Decode.Absolute d
  | relative op first page _ =>
    TakesLabel word op ∧ (page = true ↔ op = .adrp) ∧ first.length ≤ 2 ∧ ∀ o ∈ first, o.Absolute

end Form

theorem TakesLabel.defined {word : Word} {op : Operation} (h : TakesLabel word op) :
    op ≠ .undefined := by
  rintro rfl
  rcases h with h | ⟨c, hc⟩ | ⟨-, h⟩
  · simp at h
  · exact branchIf_defined c hc.symm
  · simp at h

variable (word : Word)

/-- A result that does not mention the address is its own form. -/
theorem exists_form_absolute {d : Decoding} (h : Absolute d) :
    ∃ f : Form, f.Valid word ∧ ∀ address, d = f.meaning address :=
  ⟨.absolute d, h, fun _ => rfl⟩

theorem exists_form_regular {kind : OperandKind} {d : Decoding} (h : Regular kind d)
    (hkind : kind ≠ .label) : ∃ f : Form, f.Valid word ∧ ∀ address, d = f.meaning address :=
  exists_form_absolute word (absolute_of_regular h hkind)

theorem forall_absolute {os : List Operand} (h : ∀ o ∈ os, o.Regular False .plain) :
    ∀ o ∈ os, o.Absolute :=
  fun o ho => (h o ho).absolute nofun

variable {op : Operation} {first : List Operand}

/-- Labels count from the word itself, unless they name a page. -/
theorem valid_relative (htakes : TakesLabel word op) (hpage : op ≠ .adrp)
    (hlen : first.length ≤ 2) (hfirst : ∀ o ∈ first, o.Regular False .plain) (offset : Int) :
    (Form.relative op first false offset).Valid word :=
  ⟨htakes, by simp [hpage], hlen, forall_absolute hfirst⟩

theorem valid_branch (hop : op ∈ [Operation.b, .bl, .cbz, .cbnz, .tbz, .tbnz])
    (hlen : first.length ≤ 2) (hfirst : ∀ o ∈ first, o.Regular False .plain) (offset : Int) :
    (Form.relative op first false offset).Valid word := by
  have htakes : TakesLabel word op :=
    .inl (List.mem_cons_of_mem _ (List.mem_cons_of_mem _ hop))
  have hpage : op ≠ .adrp := by
    rintro rfl
    simp at hop
  exact valid_relative word htakes hpage hlen hfirst offset

theorem exists_form_pcRelative :
    ∃ f : Form, f.Valid word ∧ ∀ address, pcRelative word address = f.meaning address := by
  cases hbit : word.bit 31 with
  | true =>
    have hvalid : (Form.relative .adrp [x word.rd] true
        ((word.field 5 19 ++ word.field 29 2).toInt * 4096)).Valid word :=
      ⟨.inl (by simp), by simp, by simp, forall_absolute (by simp)⟩
    refine ⟨_, hvalid, fun address => ?_⟩
    simp [pcRelative, hbit, Form.meaning, origin]
  | false =>
    have hvalid : (Form.relative .adr [x word.rd] false
        (word.field 5 19 ++ word.field 29 2).toInt).Valid word :=
      valid_relative word (.inl (by simp)) (by simp) (by simp) (by simp) _
    refine ⟨_, hvalid, fun address => ?_⟩
    simp [pcRelative, hbit, Form.meaning, origin]

theorem target_eq {n : Nat} (address : Address) (words : BitVec n) :
    target address words = label (origin false address) (words.toInt * 4) := rfl

theorem exists_form_branchImmediate :
    ∃ f : Form, f.Valid word ∧ ∀ address, branchImmediate word address = f.meaning address := by
  have hvalid : (Form.relative (if word.bit 31 then .bl else .b) [] false
      ((word.field 0 26).toInt * 4)).Valid word :=
    valid_branch word (by split <;> simp) (by simp) (by simp) _
  exact ⟨_, hvalid, fun address => rfl⟩

theorem exists_form_conditionalBranch :
    ∃ f : Form, f.Valid word ∧ ∀ address, conditionalBranch word address = f.meaning address := by
  by_cases hbits : word.bit 24 = true ∨ word.bit 4 = true
  · simp only [conditionalBranch, hbits, ↓reduceIte]
    exact exists_form_absolute word (absolute_reserved _)
  · generalize hc : Condition.ofBits (word.field 0 4) = c
    have hpage : Operation.branchIf c ≠ .adrp := by cases c <;> simp [Operation.branchIf]
    have hvalid : (Form.relative (.branchIf c) [] false
        ((word.field 5 19).toInt * 4)).Valid word :=
      valid_relative word (.inr (.inl ⟨c, rfl⟩)) hpage (by simp) (by simp) _
    refine ⟨_, hvalid, fun address => ?_⟩
    simp [conditionalBranch, hbits, hc, Form.meaning, target_eq]

theorem exists_form_compareBranch :
    ∃ f : Form, f.Valid word ∧ ∀ address, compareBranch word address = f.meaning address := by
  have hvalid : (Form.relative (if word.bit 24 then .cbnz else .cbz) [gpr word.sf word.rt] false
      ((word.field 5 19).toInt * 4)).Valid word :=
    valid_branch word (by split <;> simp) (by simp) (by simp) _
  exact ⟨_, hvalid, fun address => rfl⟩

theorem exists_form_testBranch :
    ∃ f : Form, f.Valid word ∧ ∀ address, testBranch word address = f.meaning address := by
  have hvalid : (Form.relative (if word.bit 24 then .tbnz else .tbz)
      [gpr word.sf word.rt, imm (word.field 31 1 ++ word.field 19 5)] false
      ((word.field 5 14).toInt * 4)).Valid word :=
    valid_branch word (by split <;> simp) (by simp) (by simp) _
  exact ⟨_, hvalid, fun address => rfl⟩

/-- A load from a label has the form of the access, whatever register it transfers. -/
theorem exists_form_load (hcls : MemoryClass.ofWord word = .ok .literal) {o : Operand}
    (hop : op ∈ [Operation.ldr, .ldrsw, .prfm]) (ho : o.Regular False .plain)
    (offset : Int) : ∃ f : Form, f.Valid word ∧
      ∀ address, done op [o, label address offset] = f.meaning address := by
  have hpage : op ≠ .adrp := by
    rintro rfl
    simp at hop
  have hvalid : (Form.relative op [o] false offset).Valid word :=
    valid_relative word (.inr (.inr ⟨hcls, hop⟩)) hpage (by simp) (by simpa using ho) _
  exact ⟨_, hvalid, fun _ => rfl⟩

theorem exists_form_literal (hcls : MemoryClass.ofWord word = .ok .literal) :
    ∃ f : Form, f.Valid word ∧ ∀ address, literal word address = f.meaning address := by
  simp only [literal]
  split
  · exact exists_form_load word hcls (by simp) regular_w _
  · exact exists_form_load word hcls (by simp) regular_x _
  · exact exists_form_load word hcls (by simp) regular_x _
  · exact exists_form_load word hcls (by simp) (regular_prefetch _) _
  · exact exists_form_load word hcls (by simp) (regular_scalar _) _
  · exact exists_form_load word hcls (by simp) (regular_scalar _) _
  · exact exists_form_load word hcls (by simp) (regular_scalar _) _
  · exact exists_form_absolute word (absolute_reserved _)

theorem exists_form_dataProcessingImmediate :
    ∃ f : Form, f.Valid word ∧
      ∀ address, dataProcessingImmediate word address = f.meaning address := by
  unfold dataProcessingImmediate
  cases hcls : DataImmediateClass.ofWord word with
  | pcRelative => exact exists_form_pcRelative word
  | addSub => exact exists_form_regular word (regular_addSubImmediate word) nofun
  | logical => exact exists_form_regular word (regular_logicalImmediate word) nofun
  | moveWide => exact exists_form_regular word (regular_moveWide word) nofun
  | bitfield => exact exists_form_regular word (regular_bitfield word) nofun
  | extract => exact exists_form_regular word (regular_extract word) nofun

theorem exists_form_branchExceptionSystem :
    ∃ f : Form, f.Valid word ∧
      ∀ address, branchExceptionSystem word address = f.meaning address := by
  unfold branchExceptionSystem
  cases hcls : ControlClass.ofWord word with
  | error reason => exact exists_form_absolute word (absolute_reserved reason)
  | ok cls =>
    cases cls with
    | branchImmediate => exact exists_form_branchImmediate word
    | compareBranch => exact exists_form_compareBranch word
    | testBranch => exact exists_form_testBranch word
    | conditionalBranch => exact exists_form_conditionalBranch word
    | branchRegister => exact exists_form_regular word (regular_branchRegister word) nofun
    | exception => exact exists_form_regular word (regular_exception word) nofun
    | system => exact exists_form_regular word (regular_system word) nofun

theorem exists_form_loadStore :
    ∃ f : Form, f.Valid word ∧ ∀ address, loadStore word address = f.meaning address := by
  unfold loadStore
  cases hcls : MemoryClass.ofWord word with
  | error reason => exact exists_form_absolute word (absolute_reserved reason)
  | ok cls =>
    cases cls with
    | literal => exact exists_form_literal word hcls
    | multipleStructures => exact exists_form_regular word (regular_multipleStructures word) nofun
    | singleStructure => exact exists_form_regular word (regular_singleStructure word) nofun
    | exclusive => exact exists_form_regular word (regular_exclusive word) nofun
    | atomic => exact exists_form_regular word (regular_atomic word) nofun
    | releaseConsistent => exact exists_form_regular word (regular_releaseConsistent word) nofun
    | pair => exact exists_form_regular word (regular_pair word) nofun
    | unsignedOffset => exact exists_form_regular word (regular_unsignedOffset word) nofun
    | signedOffset => exact exists_form_regular word (regular_signedOffset word) nofun
    | registerOffset => exact exists_form_regular word (regular_registerOffset word) nofun
    | authenticatedLoad => exact exists_form_regular word (regular_authenticatedLoad word) nofun

/-- Every word of an allocated group has a valid form. -/
theorem exists_form {group : Group} (h : group ≠ .unallocated) :
    ∃ f : Form, f.Valid word ∧
      ∀ address, Decode.meaning group word address = f.meaning address := by
  cases group with
  | unallocated => exact absurd rfl h
  | dataProcessingImmediate => exact exists_form_dataProcessingImmediate word
  | branchExceptionSystem => exact exists_form_branchExceptionSystem word
  | loadStore => exact exists_form_loadStore word
  | dataProcessingRegister =>
    exact exists_form_regular word (regular_dataProcessingRegister word) nofun
  | dataProcessingVector => exact exists_form_regular word (regular_dataProcessingVector word) nofun

variable {word}

theorem Form.Valid.ok {f : Form} {address : Address} {d : Decoded} (hf : f.Valid word)
    (h : f.meaning address = .ok d) :
    d.operation ≠ .undefined ∧ d.operands.length ≤ Operands.capacity ∧
      ∀ o ∈ d.operands, o.Printable := by
  cases f with
  | absolute r =>
    have hd : d.Absolute := by
      have hr : Decode.Absolute r := hf
      rwa [show r = .ok d from h] at hr
    exact ⟨hd.defined, hd.fits, fun o ho => (hd.operands o ho).printable⟩
  | relative op first page offset =>
    obtain ⟨hop, -, hlen, hfirst⟩ := hf
    cases h
    refine ⟨hop.defined, ?_, fun o ho => ?_⟩
    · simp only [List.length_append, List.length_singleton, Operands.capacity]
      omega
    · rcases List.mem_append.1 ho with ho | ho
      · exact (hfirst o ho).printable
      · have hlabel : (label (origin page address) offset).Regular False .label :=
          regular_label _ _
        exact List.mem_singleton.1 ho ▸ hlabel.printable

end A64.Decode
