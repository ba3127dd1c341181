import A64.Decode.Vector.Basic

/-!
Shifts by an immediate and conversions to and from fixed point.

One field of seven bits gives both the size of the element, by its highest set bit, and the amount:
for shifts to the left what exceeds the element's width, for the others what is missing to twice
the width.
-/

namespace A64.Decode

/-- The element that the highest set bit of a field selects. -/
def shiftElement? (immh : BitVec 4) : Option ElementSize :=
  if immh.getLsbD 3 then some .d
  else if immh.getLsbD 2 then some .s
  else if immh.getLsbD 1 then some .h
  else if immh.getLsbD 0 then some .b
  else none

/-- The field that gives element and amount. -/
def shiftField (word : Word) : Nat := (word.field 16 7).toNat

/-- The amount of a shift to the right. -/
def rightAmount (word : Word) (e : ElementSize) : Nat := 2 * e.bits - shiftField word

/-- The amount of a shift to the left. -/
def leftAmount (word : Word) (e : ElementSize) : Nat := shiftField word - e.bits

/-- The form of a shift. -/
inductive ShiftForm where
  | right
  | left
  /-- A shift to the right into elements of half the width. -/
  | narrow (upper : Operation)
  /-- A shift to the left into elements of twice the width; by nothing, an extension. -/
  | long (upper extend extendUpper : Operation)
  /-- A conversion, where the amount is the number of fraction bits. -/
  | fixed
  deriving DecidableEq

/-- Shifts by an immediate. -/
def shift? (u : Bool) (opcode : BitVec 5) : Option (Operation × ShiftForm) :=
  match u, opcode with
  | false, 0b00000 => some (.sshr, .right)
  | false, 0b00010 => some (.ssra, .right)
  | false, 0b00100 => some (.srshr, .right)
  | false, 0b00110 => some (.srsra, .right)
  | false, 0b01010 => some (.shl, .left)
  | false, 0b01110 => some (.sqshl, .left)
  | false, 0b10000 => some (.shrn, .narrow .shrn2)
  | false, 0b10001 => some (.rshrn, .narrow .rshrn2)
  | false, 0b10010 => some (.sqshrn, .narrow .sqshrn2)
  | false, 0b10011 => some (.sqrshrn, .narrow .sqrshrn2)
  | false, 0b10100 => some (.sshll, .long .sshll2 .sxtl .sxtl2)
  | false, 0b11100 => some (.scvtf, .fixed)
  | false, 0b11111 => some (.fcvtzs, .fixed)
  | true, 0b00000 => some (.ushr, .right)
  | true, 0b00010 => some (.usra, .right)
  | true, 0b00100 => some (.urshr, .right)
  | true, 0b00110 => some (.ursra, .right)
  | true, 0b01000 => some (.sri, .right)
  | true, 0b01010 => some (.sli, .left)
  | true, 0b01100 => some (.sqshlu, .left)
  | true, 0b01110 => some (.uqshl, .left)
  | true, 0b10000 => some (.sqshrun, .narrow .sqshrun2)
  | true, 0b10001 => some (.sqrshrun, .narrow .sqrshrun2)
  | true, 0b10010 => some (.uqshrn, .narrow .uqshrn2)
  | true, 0b10011 => some (.uqrshrn, .narrow .uqrshrn2)
  | true, 0b10100 => some (.ushll, .long .ushll2 .uxtl .uxtl2)
  | true, 0b11100 => some (.ucvtf, .fixed)
  | true, 0b11111 => some (.fcvtzu, .fixed)
  | _, _ => none

/-- Shifts of vectors with elements of the given size. -/
def shiftImmediate (word : Word) (e : ElementSize) : Decoding :=
  let q := word.q
  let right := immNat (rightAmount word e)
  let left := immNat (leftAmount word e)
  match shift? word.u (word.field 11 5) with
  | none => reserved .shiftOpcode
  | some (op, .right) =>
    if isLone e q then reserved .shiftDoubles else done op (vectors2 word e ++ [right])
  | some (op, .left) =>
    if isLone e q then reserved .shiftDoubles else done op (vectors2 word e ++ [left])
  | some (op, .fixed) =>
    if isLone e q then reserved .shiftDoubles
    else if e = .b then reserved .fixedPointBytes
    else done op (vectors2 word e ++ [right])
  | some (op, .narrow upper) =>
    if e = .d then reserved .shiftElement
    else
      done (if q then upper else op) [vector word.rd e q, vector word.rn e.double true, right]
  | some (op, .long upper extend extendUpper) =>
    let registers := [vector word.rd e.double true, vector word.rn e q]
    if e = .d then reserved .shiftElement
    else if leftAmount word e = 0 then done (if q then extendUpper else extend) registers
    else done (if q then upper else op) (registers ++ [left])

/-- Shifts that take scalars of every size. -/
def shiftsAnyScalar : Operation → Bool
  | .sqshl | .uqshl | .sqshlu => true
  | _ => false

/-- Shifts of scalars of the given size. -/
def scalarShiftImmediate (word : Word) (e : ElementSize) : Decoding :=
  let right := immNat (rightAmount word e)
  let left := immNat (leftAmount word e)
  match shift? word.u (word.field 11 5) with
  | none => reserved .scalarShiftOpcode
  | some (_, .long _ _ _) => reserved .scalarWideningShift
  | some (op, .narrow _) =>
    if op = .shrn ∨ op = .rshrn then reserved .scalarNarrowShift
    else if e = .d then reserved .scalarNarrowElement
    else done op [scalar e word.rd, scalar e.double word.rn, right]
  | some (op, .fixed) =>
    if e = .b then reserved .fixedPointBytes else done op (scalars2 word e ++ [right])
  | some (op, .right) =>
    if e ≠ .d ∧ shiftsAnyScalar op = false then reserved .scalarShiftDoubles
    else done op (scalars2 word e ++ [right])
  | some (op, .left) =>
    if e ≠ .d ∧ shiftsAnyScalar op = false then reserved .scalarShiftDoubles
    else done op (scalars2 word e ++ [left])

end A64.Decode
