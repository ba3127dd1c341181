import A64.Proofs.Assembler

/-!
# Words that read back

A word reads back from its meaning if its operands are spelled in pieces from which the assembler
finds the word again. Here are the pieces of the operands that integer classes build; the classes
follow in modules of their own.
-/

namespace A64

/-- The assembler finds the word from the pieces of its meaning. -/
structure ReadsBack (address : Address) (word : Word) (d : Decoded) : Prop where
  spelled : ∀ o ∈ d.operands, o.Spelled
  assembled : assemble address d.operation (d.operands.flatMap Operand.pieces) = some word

/-- To read back, it is enough that the operation's own reader finds the word. -/
theorem ReadsBack.of {address : Address} {word : Word} {op : Operation} {os : List Operand}
    (reader : List Piece → Option Word) (hop : assemble address op = reader)
    (hs : ∀ o ∈ os, o.Spelled) (ha : reader (os.flatMap Operand.pieces) = some word) :
    ReadsBack address word ⟨op, os⟩ :=
  ⟨hs, by rw [hop, ha]⟩

namespace Assemble

@[simp] theorem bits_toNat {n : Nat} (b : BitVec n) : bits n b.toNat = b := by
  simp [bits]

@[simp] theorem bits_toInt {n : Nat} (b : BitVec n) : bits n b.toInt = b := by
  simp [bits]

end Assemble

namespace Decode

section Registers

variable (sf : Bool) (n : BitVec 5)

theorem spelled_plain {r : Register} (h : r.IsGeneral) : (plain r).Spelled := ⟨rfl, rfl, h⟩

theorem spelled_shifted {r : Register} (h : r.IsGeneral) (s : Shift) : (shifted r s).Spelled :=
  ⟨rfl, rfl, h⟩

@[simp] theorem spelled_gpr : (gpr sf n).Spelled := spelled_plain (Register.isGeneral_gpr sf n)

@[simp] theorem spelled_gprOrStack : (gprOrStack sf n).Spelled :=
  spelled_plain (Register.isGeneral_gprOrStack sf n)

@[simp] theorem spelled_w : (w n).Spelled := spelled_gpr false n

@[simp] theorem spelled_x : (x n).Spelled := spelled_gpr true n

@[simp] theorem spelled_xsp : (xsp n).Spelled := spelled_gprOrStack true n

@[simp] theorem pieces_gpr : (gpr sf n).pieces = [.register (.gpr sf n)] := rfl

@[simp] theorem pieces_gprOrStack : (gprOrStack sf n).pieces = [.register (.gprOrStack sf n)] := rfl

@[simp] theorem pieces_w : (w n).pieces = [.register (.gpr false n)] := rfl

@[simp] theorem pieces_x : (x n).pieces = [.register (.gpr true n)] := rfl

@[simp] theorem pieces_xsp : (xsp n).pieces = [.register (.gprOrStack true n)] := rfl

@[simp] theorem spelled_shiftedGpr (kind : ShiftKind) (amount : Nat) :
    (shiftedGpr sf n kind amount).Spelled := by
  unfold shiftedGpr
  split
  · exact spelled_gpr sf n
  · exact spelled_shifted (Register.isGeneral_gpr sf n) _

@[simp] theorem spelled_extendedRegister (option : BitVec 3) (amount : Nat) (besideStack : Bool) :
    (extendedRegister sf n option amount besideStack).Spelled := by
  simp only [extendedRegister]
  repeat' split
  all_goals exact spelled_plain (Register.isGeneral_gpr _ n)

end Registers

@[simp] theorem spelled_imm {n : Nat} (value : BitVec n) : (imm value).Spelled := rfl

@[simp] theorem spelled_immNat (value : Nat) : (immNat value).Spelled := rfl

@[simp] theorem spelled_imm64 (value : BitVec 64) : (imm64 value).Spelled := rfl

@[simp] theorem spelled_signed32 (value : BitVec 32) : (signed32 value).Spelled := rfl

@[simp] theorem spelled_signed64 (value : BitVec 64) : (signed64 value).Spelled := rfl

@[simp] theorem spelled_immLsl {n : Nat} (value : BitVec n) (amount : Nat) :
    (immLsl value amount).Spelled := by
  unfold immLsl
  split <;> rfl

@[simp] theorem spelled_label (address : Address) (offset : Int) :
    (label address offset).Spelled := trivial

@[simp] theorem spelled_condition (c : Condition) : (Operand.condition c).Spelled := trivial

@[simp] theorem pieces_condition (c : Condition) : (Operand.condition c).pieces = [.condition c] :=
  rfl

@[simp] theorem pieces_imm {n : Nat} (hn : n ≤ 32) (value : BitVec n) :
    (imm value).pieces = [.number value.toNat] := by
  have hlt : value.toNat < 2 ^ 32 :=
    Nat.lt_of_lt_of_le value.isLt (Nat.pow_le_pow_right (by decide) hn)
  have hlt' : value.toNat < 2 ^ 64 := Nat.lt_trans hlt (by decide)
  simp only [imm, Operand.pieces, Immediate.pieces, Bool.false_eq_true, ↓reduceIte,
    Option.toList_none, List.map_nil, BitVec.toNat_setWidth]
  rw [Nat.mod_eq_of_lt hlt', Nat.mod_eq_of_lt hlt]

theorem pieces_immNat {value : Nat} (h : value < 2 ^ 32) :
    (immNat value).pieces = [.number value] := by
  simp only [immNat, imm, Operand.pieces, Immediate.pieces, Bool.false_eq_true, ↓reduceIte,
    Option.toList_none, List.map_nil, BitVec.toNat_setWidth, BitVec.toNat_ofNat]
  have hlt : value < 2 ^ 64 := by omega
  rw [Nat.mod_eq_of_lt hlt, Nat.mod_eq_of_lt hlt, Nat.mod_eq_of_lt h]

theorem pieces_immLsl {n : Nat} (hn : n ≤ 32) (value : BitVec n) (amount : Nat) :
    (immLsl value amount).pieces =
      if amount = 0 then [.number value.toNat]
      else [.number value.toNat, .shift (.lsl amount)] := by
  unfold immLsl
  split
  · exact pieces_imm hn value
  · have h := pieces_imm hn value
    simp only [imm, Operand.pieces, Immediate.pieces, List.cons.injEq] at h
    simp only [immShift, Operand.pieces, Immediate.pieces, h.1]
    rfl

section AddSub

variable {address : Address} {word : Word} {op : Operation} {sub flags : Bool} {rd rn : Register}
  {o : Operand}

theorem readsBack_addSubRegister (hrd : rd.IsGeneral) (hrn : rn.IsGeneral) (ho : o.Spelled)
    (hop : assemble address op = Assemble.addSubRegister sub flags)
    (h : Assemble.addSub sub flags rd rn o.pieces = some word) :
    ReadsBack address word ⟨op, [plain rd, plain rn, o]⟩ := by
  have hrd := spelled_plain hrd
  have hrn := spelled_plain hrn
  refine .of (Assemble.addSubRegister sub flags) hop (by simp [hrd, hrn, ho]) ?_
  simpa [plain, Operand.pieces, Assemble.addSubRegister] using h

theorem readsBack_compare (hrn : rn.IsGeneral) (ho : o.Spelled)
    (hop : assemble address op = Assemble.compare sub)
    (h : Assemble.addSub sub true rn.zeroLike rn o.pieces = some word) :
    ReadsBack address word ⟨op, [plain rn, o]⟩ := by
  have hrn := spelled_plain hrn
  refine .of (Assemble.compare sub) hop (by simp [hrn, ho]) ?_
  simpa [plain, Operand.pieces, Assemble.compare] using h

theorem readsBack_negate (hrd : rd.IsGeneral) (ho : o.Spelled)
    (hop : assemble address op = Assemble.negate flags)
    (h : Assemble.addSub true flags rd rd.zeroLike o.pieces = some word) :
    ReadsBack address word ⟨op, [plain rd, o]⟩ := by
  have hrd := spelled_plain hrd
  refine .of (Assemble.negate flags) hop (by simp [hrd, ho]) ?_
  simpa [plain, Operand.pieces, Assemble.negate] using h

end AddSub

end Decode

end A64
