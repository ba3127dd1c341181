import A64.Proofs.DecodeContract
import A64.Proofs.Encodings.Transfer
import Mathlib.Algebra.Order.Ring.Int
import Mathlib.Tactic.GCongr
import Mathlib.Tactic.Positivity

/-!
# Offsets count in units of the access

The fields of a load or store select what is transferred, and from that the decoder computes the
unit of the offset and, elsewhere, the mnemonic and the register. `Decoded.accessBytes?` reads the
size of the access off what is printed, the mnemonic and the register, and `Displaces` says how the
offset of each addressing class depends on that size.
-/

namespace A64

/-- The bytes of an access, as far as the mnemonic tells them. -/
def Operation.accessBytes? : Operation → Option Nat
  | strb | ldrb | ldrsb | sturb | ldurb | ldursb | sttrb | ldtrb | ldtrsb => some 1
  | strh | ldrh | ldrsh | sturh | ldurh | ldursh | sttrh | ldtrh | ldtrsh => some 2
  | ldrsw | ldursw | ldtrsw | ldpsw => some 4
  | prfm | prfum => some 8
  | _ => none

/-- The bytes of an access: those that the mnemonic tells, or else those of the first register. -/
def Decoded.accessBytes? (d : Decoded) : Option Nat :=
  match d.operation.accessBytes? with
  | some bytes => some bytes
  | none => (d.operands.head?.bind Operand.register?).map fun r => r.file.bits / 8

/-- The number that a mode adds to the base, before or after the access. -/
def AddressingMode.offset? : AddressingMode → Option Int
  | preIndex n | postIndex (.immediate n) | offset n => some n
  | _ => none

def Shift.isNarrow (shift : Shift) : Bool := shift.kind = .uxtw ∨ shift.kind = .sxtw

namespace Decode

/-- How the mode of a word depends on the bytes of the access, by addressing class. -/
inductive Displaces (word : Word) (bytes : Nat) : MemoryClass → AddressingMode → Prop
  | unsignedOffset {offset : Int} (hvalue : offset = (word.field 10 12).toNat * bytes)
    (hrange : 0 ≤ offset ∧ offset ≤ 4095 * bytes) :
    Displaces word bytes .unsignedOffset (.offset offset)
  | pair {mode : AddressingMode} {offset : Int} (hmode : mode.offset? = some offset)
    (hvalue : offset = (word.field 15 7).toInt * bytes)
    (hrange : -64 * (bytes : Int) ≤ offset ∧ offset ≤ 63 * bytes) : Displaces word bytes .pair mode
  | signedOffset {mode : AddressingMode} (hmode : mode.offset? = some (word.field 12 9).toInt) :
    Displaces word bytes .signedOffset mode
  | authenticatedLoad {mode : AddressingMode}
    (hmode : mode.offset? = some (8 * (word.field 22 1 ++ word.field 12 9).toInt)) :
    Displaces word bytes .authenticatedLoad mode
  | registerOffset {index : Register} {shift : Option Shift}
    (hamount : ∀ amount, shift.bind (·.amount) = some amount → 2 ^ amount = bytes)
    (hpresent : shift.bind (·.amount) ≠ none ↔ word.bit 12 = true)
    (hindex : index = if shift.any Shift.isNarrow then .w word.rm else .x word.rm) :
    Displaces word bytes .registerOffset (.extended index shift)

def MemoryClass.HasOffset (cls : MemoryClass) : Prop :=
  cls ∈ [unsignedOffset, pair, signedOffset, authenticatedLoad, registerOffset]

/-- The operands of an access end in memory, whose mode depends on the size of the access. -/
def DisplacesBy (word : Word) (cls : MemoryClass) (d : Decoded) : Prop :=
  ∃ bytes mode, d.accessBytes? = some bytes ∧
    d.operands.getLast? = some (memory word.rn mode) ∧ Displaces word bytes cls mode

variable {word : Word} {d : Decoded}

def Target.bits : Target → Nat
  | general sf => if sf then 64 else 32
  | vector e => e.bits
  | prefetch => 0

def Agree (op : Operation) (target : Target) (log2 : Nat) : Prop :=
  op.accessBytes? = some (bytes log2) ∨
    (op.accessBytes? = none ∧ target ≠ .prefetch ∧ target.bits = 8 * bytes log2)

instance (op : Operation) (target : Target) (log2 : Nat) : Decidable (Agree op target log2) :=
  inferInstanceAs (Decidable (_ ∨ _))

theorem bits_operand {target : Target} (h : target ≠ .prefetch) (n : BitVec 5) :
    (target.operand n).register?.map (·.file.bits) = some target.bits := by
  cases target with
  | general sf => cases sf <;> rfl
  | vector e => cases e <;> rfl
  | prefetch => exact absurd rfl h

theorem accessBytes?_of_agree {op : Operation} {target : Target} {log2 : Nat}
    (h : Agree op target log2) (n : BitVec 5) (os : List Operand) :
    Decoded.accessBytes? ⟨op, target.operand n :: os⟩ = some (bytes log2) := by
  rcases h with hop | ⟨hop, htarget, hbits⟩
  · simp [Decoded.accessBytes?, hop]
  · have hregister := bits_operand htarget n
    simp only [Decoded.accessBytes?, hop, List.head?_cons, Option.bind_some]
    obtain ⟨r, hr, hfile⟩ := Option.map_eq_some_iff.1 hregister
    rw [hr, Option.map_some, hfile, hbits, Nat.mul_div_cancel_left _ (by decide)]

/-- What the fields select and the mnemonic of the addressing class agree, those of 128 bits under
the size of a byte included. -/
theorem agree_transfer : ∀ (cls : AddressingClass) (v : Bool) (size opc : BitVec 2),
    ∀ t ∈ accessTransfer? v size opc, ∀ op ∈ mnemonic? cls t.access, Agree op t.target t.log2 := by
  intro cls
  cases cls <;> decide

theorem agree_pair : ∀ (v : Bool) (opc : BitVec 2), ∀ row ∈ pairTarget? v opc,
    ∀ (load : Bool) (index : BitVec 2),
      ∀ op ∈ pairOperation? (decide (v = false ∧ opc = 1)) load index,
        Agree op row.1 row.2 := by
  decide

theorem displacesBy_singleTransfer {cls : AddressingClass} {memoryClass : MemoryClass}
    {mode : Nat → AddressingMode}
    (hmode : ∀ log2, Displaces word (bytes log2) memoryClass (mode log2)) :
    Yields (DisplacesBy word memoryClass) (singleTransfer word cls mode) := by
  unfold singleTransfer
  split
  · simp
  · rename_i t ht
    split
    · simp
    · split
      · rename_i op hop
        have hagree := agree_transfer cls (word.bit 26) _ _ t ht op hop
        exact ⟨_, _, accessBytes?_of_agree hagree word.rt _, rfl, hmode t.log2⟩
      · simp

theorem displacesBy_unsignedOffset :
    Yields (DisplacesBy word .unsignedOffset) (unsignedOffset word) := by
  refine displacesBy_singleTransfer fun log2 => .unsignedOffset rfl ⟨by positivity, ?_⟩
  have hlt := (word.field 10 12).isLt
  gcongr
  omega

theorem displacesBy_signedOffset : Yields (DisplacesBy word .signedOffset) (signedOffset word) := by
  simp only [signedOffset]
  split <;> exact displacesBy_singleTransfer fun _ => .signedOffset rfl

theorem isNarrow_indexShift : ∀ option : BitVec 3, option.getLsbD 1 = true →
    ∀ amount : Option Nat,
      (indexShift option amount).any Shift.isNarrow = !option.getLsbD 0 := by
  intro option hoption amount
  have hall : ∀ option : BitVec 3, option.getLsbD 1 = true →
      option = 2 ∨ option = 3 ∨ option = 6 ∨ option = 7 := by decide
  rcases hall option hoption with rfl | rfl | rfl | rfl <;> cases amount <;> rfl

theorem amount_indexShift (option : BitVec 3) (amount : Option Nat) :
    (indexShift option amount).bind (·.amount) = amount := by
  unfold indexShift
  split <;> cases amount <;> rfl

theorem displacesBy_registerOffset :
    Yields (DisplacesBy word .registerOffset) (registerOffset word) := by
  simp only [registerOffset, yields_ite]
  refine ⟨by simp, fun h14 => displacesBy_singleTransfer fun log2 => .registerOffset ?_ ?_ ?_⟩
  · rw [amount_indexShift]
    intro amount hamount
    split at hamount <;> cases hamount
    exact (Nat.one_shiftLeft _).symm
  · rw [amount_indexShift]
    split <;> simp_all
  · have hbit (k : Nat) (hk : k < 3) : (word.field 13 3).getLsbD k = word.bit (13 + k) :=
      Field.getLsbD_field hk
    rw [isNarrow_indexShift _ (by rw [hbit 1 (by decide)]; simpa using h14), hbit 0 (by decide)]
    cases word.bit 13 <;> rfl

theorem displacesBy_authenticatedLoad :
    Yields (DisplacesBy word .authenticatedLoad) (authenticatedLoad word) := by
  have hagree : ∀ b : Bool, Agree (if b then .ldrab else .ldraa) (.general true) 3 := by decide
  simp only [authenticatedLoad, yields_ite]
  refine ⟨by simp, fun _ => ?_⟩
  have hbytes := accessBytes?_of_agree (hagree (word.bit 23)) word.rt
  refine ⟨8, _, hbytes _, rfl, .authenticatedLoad ?_⟩
  rw [Int.mul_comm]
  cases word.bit 11 <;> rfl

theorem offset?_pairMemory (word : Word) (index : BitVec 2) (log2 : Nat) :
    ∃ mode, (pairMemory index log2).operand word = memory word.rn mode ∧
      mode.offset? = some ((word.field 15 7).toInt * bytes log2) := by
  unfold pairMemory
  split <;> exact ⟨_, rfl, rfl⟩

theorem displacesBy_pair : Yields (DisplacesBy word .pair) (pair word) := by
  refine yields_iff.2 fun d h => ?_
  obtain ⟨t, log2, op, htarget, hop, rfl⟩ := pair_eq_ok h
  obtain ⟨mode, hmode, hoffset⟩ := offset?_pairMemory word (word.field 23 2) log2
  have hagree := agree_pair _ _ _ htarget _ _ op hop
  have hrange : ∀ n : BitVec 7, -64 ≤ n.toInt ∧ n.toInt ≤ 63 := by decide
  obtain ⟨hle, hge⟩ := hrange (word.field 15 7)
  have hbytes := accessBytes?_of_agree hagree word.rt
  refine ⟨_, mode, hbytes _, ?_, .pair hoffset rfl ⟨?_, ?_⟩⟩
  · rw [hmode]
    rfl
  · gcongr
  · gcongr

theorem displacesBy_meaning {cls : MemoryClass} (hcls : cls.HasOffset) (address : Address) :
    Yields (DisplacesBy word cls) (cls.meaning word address) := by
  simp only [MemoryClass.HasOffset, List.mem_cons, List.not_mem_nil, or_false] at hcls
  rcases hcls with rfl | rfl | rfl | rfl | rfl
  · exact displacesBy_unsignedOffset
  · exact displacesBy_pair
  · exact displacesBy_signedOffset
  · exact displacesBy_authenticatedLoad
  · exact displacesBy_registerOffset

end Decode

/-- The offset of a load or store counts in units of the access that the mnemonic and the register
name, unless it is one of nine bits. -/
theorem decode_displacesBy {word : Word} {address : Address} {i : Instruction}
    {cls : Decode.MemoryClass} (hgroup : Group.ofWord? word = some .loadStore)
    (hclass : Decode.MemoryClass.ofWord word = .ok cls) (hcls : cls.HasOffset)
    (h : decode word address = .ok i) :
    Decode.DisplacesBy word cls ⟨i.operation, i.operands.toList⟩ := by
  have hmeaning := (meaning_of_decode hgroup (by decide) h).2
  simp only [Decode.meaning, Decode.loadStore, hclass] at hmeaning
  exact Decode.yields_iff.1 (Decode.displacesBy_meaning hcls address) _ hmeaning

/-- The load of 128 bits at the greatest offset, encoded under the size of a byte. -/
theorem loadQuad_displacesBy :
    Group.ofWord? 0x3dfffc20 = some .loadStore ∧
      Decode.MemoryClass.ofWord 0x3dfffc20 = .ok .unsignedOffset ∧
      Decode.MemoryClass.HasOffset .unsignedOffset ∧
      ∃ i : Instruction, decode 0x3dfffc20 0 = .ok i ∧
        i.operands.toList = [Decode.scalar .q 0, Decode.memoryOffset 1 65520] ∧
        Decode.DisplacesBy 0x3dfffc20 .unsignedOffset ⟨i.operation, i.operands.toList⟩ := by
  have hgroup : Group.ofWord? 0x3dfffc20 = some .loadStore := by decide
  have hclass : Decode.MemoryClass.ofWord 0x3dfffc20 = .ok .unsignedOffset := by decide
  have hcls : Decode.MemoryClass.HasOffset .unsignedOffset := by
    simp [Decode.MemoryClass.HasOffset]
  have h : decode 0x3dfffc20 0 = .ok ⟨0x3dfffc20, 0, .loadStore, .ldr,
      .ofList [Decode.scalar .q 0, Decode.memoryOffset 1 65520]⟩ := by
    decide +kernel
  exact ⟨hgroup, hclass, hcls, _, h, rfl, decode_displacesBy hgroup hclass hcls h⟩

end A64
