import A64.Immediate.Spread
import A64.Word

/-!
Eight-bit immediates of floating-point and vector instructions.

Eight bits stand for a small floating-point number: a sign, three bits of exponent and four of
fraction. In a vector instruction they stand for the pattern of an element, which a further field
selects, and the pattern is repeated over the register.
-/

namespace A64.VectorImmediate

/-- The single-precision number that eight bits stand for. -/
def single (imm8 : BitVec 8) : BitVec 32 :=
  imm8.extractLsb' 7 1 ++ ~~~(imm8.extractLsb' 6 1) ++ (imm8.extractLsb' 6 1).replicate 5 ++
    imm8.extractLsb' 0 6 ++ 0#19

/-- The double-precision number that eight bits stand for. -/
def double (imm8 : BitVec 8) : BitVec 64 :=
  imm8.extractLsb' 7 1 ++ ~~~(imm8.extractLsb' 6 1) ++ (imm8.extractLsb' 6 1).replicate 8 ++
    imm8.extractLsb' 0 6 ++ 0#48

/-- One bit, repeated over a byte. -/
def bitByte (imm8 : BitVec 8) (i : Nat) : BitVec 8 := (imm8.extractLsb' i 1).replicate 8

/-- Eight bits, each repeated over a byte. -/
def byteMask (imm8 : BitVec 8) : BitVec 64 :=
  bitByte imm8 7 ++ bitByte imm8 6 ++ bitByte imm8 5 ++ bitByte imm8 4 ++
    bitByte imm8 3 ++ bitByte imm8 2 ++ bitByte imm8 1 ++ bitByte imm8 0

/-- The 64-bit pattern of a modified immediate. -/
def expand (op : BitVec 1) (cmode : BitVec 4) (imm8 : BitVec 8) : BitVec 64 :=
  let word : BitVec 32 := imm8.setWidth 32
  let half : BitVec 16 := imm8.setWidth 16
  match cmode with
  | 0b0000 | 0b0001 => spread word 64
  | 0b0010 | 0b0011 => spread (word <<< 8) 64
  | 0b0100 | 0b0101 => spread (word <<< 16) 64
  | 0b0110 | 0b0111 => spread (word <<< 24) 64
  | 0b1000 | 0b1001 => spread half 64
  | 0b1010 | 0b1011 => spread (half <<< 8) 64
  | 0b1100 => spread (word <<< 8 ||| 0xff) 64
  | 0b1101 => spread (word <<< 16 ||| 0xffff) 64
  | 0b1110 => if op = 0 then spread imm8 64 else byteMask imm8
  | _ => if op = 0 then spread (single imm8) 64 else double imm8

/-- The single-precision number of an immediate that is given as a whole word. -/
def singleWord (imm8 : Word) : BitVec 32 := single (imm8.setWidth 8)

/-- The pattern of fields that are given as whole words, whose higher bits do not count. -/
def expandWords (op cmode imm8 : Word) : BitVec 64 :=
  expand (op.setWidth 1) (cmode.setWidth 4) (imm8.setWidth 8)

end A64.VectorImmediate
