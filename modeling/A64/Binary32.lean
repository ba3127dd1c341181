import A64.Numeral

/-!
Single-precision numbers as decimal text with eight places.

A finite number is an integer times a power of two. Its text is the exact value, rounded to eight
places with a half going to the even neighbour; the sign is that of the encoding, so a negative
zero has one.
-/

namespace A64

/-- The bits of a single-precision number. -/
abbrev Binary32 := BitVec 32

namespace Binary32

/-- The sign bit. -/
def negative (x : Binary32) : Bool := x.getLsbD 31

/-- The biased exponent. -/
def exponent (x : Binary32) : Nat := (x.extractLsb' 23 8).toNat

/-- The stored bits of the significand. -/
def fraction (x : Binary32) : Nat := (x.extractLsb' 0 23).toNat

/-- The integer significand, with the leading one of a normal number. -/
def significand (x : Binary32) : Nat :=
  if x.exponent = 0 then x.fraction else 1 <<< 23 + x.fraction

/-- A finite number is its significand times two to the power `scale - 149`. -/
def scale (x : Binary32) : Nat := x.exponent - 1

/-- The quotient of two numbers, rounded to the nearest integer, a half to the even one. -/
def roundDiv (num den : Nat) : Nat :=
  let quotient := num / den
  let rest := num % den
  if 2 * rest < den then quotient
  else if den < 2 * rest then quotient + 1
  else quotient + quotient % 2

/-- The number of places. -/
def places : Nat := 8

/-- The units of the last place in one. -/
def unitsOfOne : Nat := 100000000

/-- The magnitude of a finite number in units of the last place. -/
def units (x : Binary32) : Nat := roundDiv (x.significand <<< x.scale * unitsOfOne) (1 <<< 149)

/-- The decimal text of a magnitude given in units of the last place. -/
def fixed (units : Nat) : String :=
  Numeral.decimal (units / unitsOfOne) ++ "." ++
    Numeral.pad places (Numeral.decimal (units % unitsOfOne))

/-- The text of a number. -/
def text (x : Binary32) : String :=
  let sign := if x.negative then "-" else ""
  if x.exponent = 255 then
    if x.fraction = 0 then sign ++ "inf" else "NaN"
  else sign ++ fixed x.units

end Binary32

end A64
