import A64.Decode.Vector.Basic
import A64.Proofs.Undivided

/-!
# Shapes of vectors

`Operand.Shaped`: the vectors that an operand names are divided as the machine can divide them. They
fill 64 or 128 bits, or one of their elements is meant and lies within 128 bits. The few shapes
beyond that are exceptions (`ShapeException`), and `Allows` lists the operands that use them.
`Operand.Ordinary` is the case without exceptions, which all decoders but a few are in.
-/

namespace A64

/-- The shapes that few operands use. -/
inductive ShapeException where
  /-- Two elements of 16 bits. -/
  | twoHalves
  /-- One of four groups of bytes. -/
  | byteGroup
  /-- A single element of 64 bits. -/
  | loneDouble
  /-- Elements of 128 bits. -/
  | quad

/-- The arrangement fits into a vector, and the lane, if one is meant, is one of it. -/
structure Arrangement.Proper (allowed : ShapeException → Prop) (a : Arrangement)
    (lane? : Option Nat) : Prop where
  whole : lane? = none → a.bits = 64 ∨ a.bits = 128 ∨ (a = ⟨.h, 2⟩ ∧ allowed .twoHalves)
  lane : ∀ index, lane? = some index →
    (a.lanes = 0 ∧ (index + 1) * a.element.bits ≤ 128) ∨
      (a = ⟨.b, 4⟩ ∧ index ≤ 3 ∧ allowed .byteGroup)
  loneDouble : a = ⟨.d, 1⟩ → allowed .loneDouble
  quad : a.element = .q → allowed .quad

namespace Operand

/-- How the registers of an operand are divided, if they are. -/
def arrangement? : Operand → Option Arrangement
  | register r => r.arrangement
  | registerList l => some l.arrangement
  | _ => none

/-- The lane that is meant of each register. -/
def lane? : Operand → Option Nat
  | register r => r.lane
  | registerList l => l.lane
  | _ => none

/-- Only vectors are divided, only a divided vector has lanes, and its arrangement is proper. -/
structure Shaped (allowed : ShapeException → Prop) (o : Operand) : Prop where
  file : o.arrangement? ≠ none → ∀ r ∈ o.registers, r.file = .v
  divided : o.lane? ≠ none → o.arrangement? ≠ none
  proper : ∀ a, o.arrangement? = some a → a.Proper allowed o.lane?

abbrev Ordinary (o : Operand) : Prop := o.Shaped fun _ => False

end Operand

/-- The exceptions that an operation makes in its operand number `k`. -/
inductive Decoded.Allows (d : Decoded) (k : Nat) : ShapeException → Prop
  /-- The source of a half-precision reduction of a pair to a scalar. -/
  | pair (hop : d.operation ∈ [Operation.faddp, .fmaxp, .fminp, .fmaxnmp, .fminnmp]) (hk : k = 1)
    {n : BitVec 5} (hd : d.operands[0]? = some (Decode.scalar .h n)) : d.Allows k .twoHalves
  | dot (hop : d.operation ∈ [Operation.sdot, .udot]) (hk : k = 2) : d.Allows k .byteGroup
  | productSource (hop : d.operation = .pmull) (hk : k = 1 ∨ k = 2) : d.Allows k .loneDouble
  | pairSum (hop : d.operation ∈ [Operation.saddlp, .uaddlp, .sadalp, .uadalp]) (hk : k = 0) :
    d.Allows k .loneDouble
  | list (hop : d.operation ∈ [Operation.ld1, .st1, .ld1r, .ld2r, .ld3r, .ld4r])
    {l : RegisterList} (hl : d.operands[k]? = some (.registerList l)) : d.Allows k .loneDouble
  | product (hop : d.operation = .pmull ∨ d.operation = .pmull2) (hk : k = 0) : d.Allows k .quad

/-- Every operand is shaped, with the exceptions of its place. -/
def Decoded.Shaped (d : Decoded) : Prop :=
  ∀ k (o : Operand), d.operands[k]? = some o → o.Shaped (d.Allows k)

namespace Decode

variable {allowed allowed' : ShapeException → Prop} {n : BitVec 5} {e : ElementSize} {q : Bool}

theorem shaped_mono {o : Operand} (h : o.Shaped allowed) (himp : ∀ x, allowed x → allowed' x) :
    o.Shaped allowed' where
  file := h.file
  divided := h.divided
  proper := by
    intro a ha
    obtain ⟨hwhole, hlane, hlone, hquad⟩ := h.proper a ha
    refine ⟨fun hn => ?_, fun index hi => ?_, himp _ ∘ hlone, himp _ ∘ hquad⟩
    · exact (hwhole hn).imp_right (Or.imp_right (And.imp_right (himp _)))
    · exact (hlane index hi).imp_right (And.imp_right (And.imp_right (himp _)))

theorem shaped_of_undivided {o : Operand} (h : o.Undivided) : o.Shaped allowed := by
  have hundivided : o.arrangement? = none ∧ o.lane? = none := by
    cases o with
    | register r => exact h.2
    | registerList l => exact h.elim
    | _ => exact ⟨rfl, rfl⟩
  obtain ⟨ha, hl⟩ := hundivided
  exact ⟨fun h => absurd ha h, fun h => absurd hl h, by simp [ha]⟩

theorem shaped_of_regular {o : Operand} (h : o.Regular True .plain) : o.Shaped allowed :=
  shaped_of_undivided (h.undivided nofun)

theorem shaped_vectorRegister {a : Arrangement} {lane? : Option Nat} (h : a.Proper allowed lane?) :
    (Operand.register ⟨.v n, some a, lane?, none⟩).Shaped allowed where
  file := by simp [Operand.registers, Register.v, Register.ofField]
  divided := fun _ => nofun
  proper := by
    rintro _ ⟨⟩
    exact h

theorem bits_full (e : ElementSize) (q : Bool) :
    (Arrangement.full e q).bits = 64 ∨ (Arrangement.full e q).bits = 128 := by
  cases e <;> cases q <;> decide

theorem full_eq_loneDouble_iff : Arrangement.full e q = ⟨.d, 1⟩ ↔ isLone e q = true := by
  cases e <;> cases q <;> decide

theorem proper_full (hlone : isLone e q = true → allowed .loneDouble)
    (hquad : e = .q → allowed .quad) : (Arrangement.full e q).Proper allowed none where
  whole := fun _ => (bits_full e q).imp_right .inl
  lane := nofun
  loneDouble := fun h => hlone (full_eq_loneDouble_iff.1 h)
  quad := hquad

theorem proper_single {index : Nat} (hquad : e = .q → allowed .quad)
    (h : (index + 1) * e.bits ≤ 128) : (Arrangement.single e).Proper allowed (some index) where
  whole := nofun
  lane := by
    rintro _ ⟨⟩
    exact .inl ⟨rfl, h⟩
  loneDouble := nofun
  quad := hquad

theorem shaped_vector (hlone : isLone e q = true → allowed .loneDouble)
    (hquad : e = .q → allowed .quad) : (vector n e q).Shaped allowed :=
  shaped_vectorRegister (proper_full hlone hquad)

theorem shaped_vectorList {count : Nat} {a : Arrangement} {lane? : Option Nat}
    (h : a.Proper allowed lane?) : (vectorList n count a lane?).Shaped allowed where
  file := by
    intro _ r hr
    obtain ⟨step, -, rfl⟩ := List.mem_map.1 hr
    rfl
  divided := fun _ => nofun
  proper := by
    rintro _ ⟨⟩
    exact h

theorem shaped_laneGroup {index : Nat} (hindex : index ≤ 3) (h : allowed .byteGroup) :
    (laneGroup n ⟨.b, 4⟩ index).Shaped allowed :=
  shaped_vectorRegister
    { whole := nofun
      lane := by
        rintro _ ⟨⟩
        exact .inr ⟨rfl, hindex, h⟩
      loneDouble := nofun
      quad := nofun }

@[simp] theorem ordinary_of_regular {o : Operand} (h : o.Regular True .plain) : o.Ordinary :=
  shaped_of_regular h

@[simp] theorem ordinary_vector : (vector n e q).Ordinary ↔ isLone e q = false ∧ e ≠ .q := by
  constructor
  · intro h
    obtain ⟨-, -, hlone, hquad⟩ := h.proper _ rfl
    exact ⟨Bool.eq_false_iff.2 fun h => hlone (full_eq_loneDouble_iff.2 h), hquad⟩
  · rintro ⟨hlone, hquad⟩
    exact shaped_vector (by simp [hlone]) hquad

@[simp] theorem ordinary_lane {index : Nat} :
    (lane n e index).Ordinary ↔ (index + 1) * e.bits ≤ 128 ∧ e ≠ .q := by
  constructor
  · intro h
    obtain ⟨-, hlane, -, hquad⟩ := h.proper _ rfl
    refine ⟨?_, hquad⟩
    rcases hlane index rfl with ⟨-, hle⟩ | ⟨-, -, hfalse⟩
    · exact hle
    · exact hfalse.elim
  · rintro ⟨hle, hquad⟩
    exact shaped_vectorRegister (proper_single hquad hle)

/-- What the decoder yields, if anything, has ordinary operands. -/
abbrev Ordinary : Decoding → Prop := Yields fun d => ∀ o ∈ d.operands, o.Ordinary

abbrev Shaped : Decoding → Prop := Yields Decoded.Shaped

theorem ordinary_of_plain {r : Decoding} (h : Decode.Regular .plain r) : Ordinary r :=
  h.mono fun _ hd o ho => shaped_of_undivided (hd.undivided nofun o ho)

theorem shaped_of_ordinary {r : Decoding} (h : Ordinary r) : Shaped r :=
  h.mono fun _ hd _ _ ho => shaped_mono (hd _ (List.mem_of_getElem? ho)) fun _ => False.elim

theorem shaped_of_allUndivided {d : Decoded} (h : d.Undivided) : d.Shaped :=
  fun _ o ho => shaped_of_undivided (h o (List.mem_of_getElem? ho))

theorem shaped_two {op : Operation} {o₀ o₁ : Operand}
    (h₀ : o₀.Shaped (Decoded.Allows ⟨op, [o₀, o₁]⟩ 0))
    (h₁ : o₁.Shaped (Decoded.Allows ⟨op, [o₀, o₁]⟩ 1)) : Shaped (done op [o₀, o₁]) := by
  rintro (_ | _ | k) o ho <;> cases ho
  · exact h₀
  · exact h₁

theorem shaped_three {op : Operation} {o₀ o₁ o₂ : Operand}
    (h₀ : o₀.Shaped (Decoded.Allows ⟨op, [o₀, o₁, o₂]⟩ 0))
    (h₁ : o₁.Shaped (Decoded.Allows ⟨op, [o₀, o₁, o₂]⟩ 1))
    (h₂ : o₂.Shaped (Decoded.Allows ⟨op, [o₀, o₁, o₂]⟩ 2)) :
    Shaped (done op [o₀, o₁, o₂]) := by
  rintro (_ | _ | _ | k) o ho <;> cases ho
  · exact h₀
  · exact h₁
  · exact h₂

end Decode

end A64
