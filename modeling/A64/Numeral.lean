/-!
Numbers as text: hexadecimal and decimal numerals, written and read.

A numeral is read by one rule in either base: an optional plus sign, then one or more digits of
the base, whose value fits into a given number of bits.
-/

namespace A64.Numeral

/-- The decimal digits of `n`. -/
def decimal (n : Nat) : String := String.ofList (Nat.toDigits 10 n)

/-- The lower-case hexadecimal digits of `n`. -/
def hexDigits (n : Nat) : String := String.ofList (Nat.toDigits 16 n)

/-- Pads `digits` on the left with zeros to at least `width` characters. -/
def pad (width : Nat) (digits : String) : String :=
  String.ofList (List.replicate (width - digits.length) '0') ++ digits

/-- The hexadecimal numeral of `n`, marked by `0x`. -/
def hex (n : Nat) : String := "0x" ++ hexDigits n

/-- The eight-digit hexadecimal column of a word. -/
def hex8 (n : Nat) : String := pad 8 (hexDigits n)

/-- The value of a digit in bases up to sixteen, in either case. -/
def digit? (base : Nat) (c : Char) : Option Nat :=
  let value :=
    if '0' ≤ c ∧ c ≤ '9' then some (c.toNat - '0'.toNat)
    else if 'a' ≤ c ∧ c ≤ 'f' then some (c.toNat - 'a'.toNat + 10)
    else if 'A' ≤ c ∧ c ≤ 'F' then some (c.toNat - 'A'.toNat + 10)
    else none
  value.filter (· < base)

/-- Reads on from a number whose digits so far have the value `acc`. -/
def ofDigits? (base acc : Nat) : List Char → Option Nat
  | [] => some acc
  | c :: rest =>
    match digit? base c with
    | some d => ofDigits? base (acc * base + d) rest
    | none => none

/-- Drops one leading plus sign. -/
def dropPlus : List Char → List Char
  | '+' :: rest => rest
  | cs => cs

/-- Drops one leading `0x`. -/
def dropMark : List Char → List Char
  | '0' :: 'x' :: rest => rest
  | cs => cs

/-- Reads a numeral of the given base, whose value has to fit into `width` bits. -/
def parse? (base width : Nat) (cs : List Char) : Option (BitVec width) :=
  match dropPlus cs with
  | [] => none
  | digits => ((ofDigits? base 0 digits).filter (· < 1 <<< width)).map (BitVec.ofNat width)

/-- Reads a decimal number of 64 bits. -/
def parseDecimal? (s : String) : Option (BitVec 64) := parse? 10 64 s.toList

/-- Reads a hexadecimal number of `width` bits, which `0x` may mark. -/
def parseHex? (width : Nat) (s : String) : Option (BitVec width) :=
  parse? 16 width (dropMark s.toList)

end A64.Numeral
