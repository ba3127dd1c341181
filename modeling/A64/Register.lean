import A64.Numeral

/-!
Registers: a file and a number in it.

Number 31 of a general-purpose encoding means the zero register or the stack pointer, depending on
the instruction. The two are kept apart: in the files of general-purpose registers number 31 is the
zero register and number 32 the stack pointer, and whoever builds a register picks one.

All names stand in one table, file after file. A register's index in the table is the start of its
file plus its number, so a number past the end of its file names a register of a later one.
-/

namespace A64

/-- A file of registers. -/
inductive RegisterFile where
  /-- General-purpose registers of 32 bits. -/
  | w
  /-- General-purpose registers of 64 bits. -/
  | x
  /-- Whole vectors, printed with an arrangement. -/
  | v
  /-- Scalars of 8 bits. -/
  | b
  /-- Scalars of 16 bits. -/
  | h
  /-- Scalars of 32 bits. -/
  | s
  /-- Scalars of 64 bits. -/
  | d
  /-- Scalars of 128 bits. -/
  | q
  /-- Prefetch operations, which are printed in the place of a register. -/
  | prefetch
  /-- Control registers of system instructions. -/
  | control
  deriving DecidableEq

namespace RegisterFile

/-- The files in the order of the table of names. -/
def all : List RegisterFile := [w, x, v, b, h, s, d, q, prefetch, control]

/-- The number of registers of a file. -/
def size : RegisterFile → Nat
  | w | x => 33
  | v | b | h | s | d | q => 32
  | prefetch => 18
  | control => 16

/-- The index of a file's first register in the table of names. -/
def start : RegisterFile → Nat
  | w => 0
  | x => 33
  | v => 66
  | b => 98
  | h => 130
  | s => 162
  | d => 194
  | q => 226
  | prefetch => 258
  | control => 276

/-- The width of a register in bits, zero for what only prints like one. -/
def bits : RegisterFile → Nat
  | w | s => 32
  | x | d => 64
  | v | q => 128
  | b => 8
  | h => 16
  | prefetch | control => 0

/-- The file of scalars of `2 ^ n` bytes. -/
def scalar? : Nat → Option RegisterFile
  | 0 => some b
  | 1 => some h
  | 2 => some s
  | 3 => some d
  | 4 => some q
  | _ => none

/-- Whether the file is a view of the vector registers. -/
def isVector : RegisterFile → Bool
  | v | b | h | s | d | q => true
  | w | x | prefetch | control => false

/-- The symbol under which reports record the file. -/
def symbol : RegisterFile → String
  | w => "W" | x => "X" | v => "V" | b => "B" | h => "H" | s => "S" | d => "D" | q => "Q"
  | prefetch => "Prefetch"
  | control => "Control"

/-- The first `count` names of a numbered file. -/
def numbered (letter : String) (count : Nat) : List String :=
  (List.range count).map fun n => letter ++ Numeral.decimal n

/-- The names of a file's registers in order of their numbers. -/
def names : RegisterFile → List String
  | w => numbered "w" 31 ++ ["wzr", "wsp"]
  | x => numbered "x" 31 ++ ["xzr", "sp"]
  | v => numbered "v" 32
  | b => numbered "b" 32
  | h => numbered "h" 32
  | s => numbered "s" 32
  | d => numbered "d" 32
  | q => numbered "q" 32
  | prefetch =>
    ["pld", "pli", "pst"].flatMap fun kind =>
      ["l1", "l2", "l3"].flatMap fun target => [kind ++ target ++ "keep", kind ++ target ++ "strm"]
  | control => numbered "c" 16

end RegisterFile

/-- A register. -/
structure Register where
  file : RegisterFile
  number : Nat
  deriving DecidableEq

namespace Register

/-- The number of the zero register in its file. -/
def zeroNumber : Nat := 31

/-- The number of the stack pointer in its file. -/
def stackNumber : Nat := 32

/-- The register of a file that a five-bit field selects, 31 being the zero register. -/
def ofField (file : RegisterFile) (n : BitVec 5) : Register := ⟨file, n.toNat⟩

/-- The register of a file that a five-bit field selects, 31 being the stack pointer. -/
def ofFieldOrStack (file : RegisterFile) (n : BitVec 5) : Register :=
  ⟨file, if n = 31 then stackNumber else n.toNat⟩

/-- A 32-bit register or the zero register. -/
def w (n : BitVec 5) : Register := ofField .w n

/-- A 32-bit register or the stack pointer. -/
def wsp (n : BitVec 5) : Register := ofFieldOrStack .w n

/-- A 64-bit register or the zero register. -/
def x (n : BitVec 5) : Register := ofField .x n

/-- A 64-bit register or the stack pointer. -/
def xsp (n : BitVec 5) : Register := ofFieldOrStack .x n

/-- A general-purpose register of the width that `sf` selects, or the zero register. -/
def gpr (sf : Bool) (n : BitVec 5) : Register := if sf then x n else w n

/-- A general-purpose register of the width that `sf` selects, or the stack pointer. -/
def gprOrStack (sf : Bool) (n : BitVec 5) : Register := if sf then xsp n else wsp n

/-- A vector register. -/
def v (n : BitVec 5) : Register := ofField .v n

/-- A control register. -/
def control (n : BitVec 4) : Register := ⟨.control, n.toNat⟩

/-- The prefetch operation of a code below 32: two bits for what is fetched, two for the cache
level and one for the policy. The last kind and the last level are not allocated. -/
def prefetch? (code : Nat) : Option Register :=
  let kind := code / 8 % 4
  let level := code / 2 % 4
  if kind = 3 ∨ level = 3 ∨ 32 ≤ code then none
  else some ⟨.prefetch, kind * 6 + level * 2 + code % 2⟩

/-- The number in an encoding, which zero register and stack pointer share. -/
def encodedNumber (r : Register) : Nat := if r.number = stackNumber then 31 else r.number

/-- Whether the register is a zero register. -/
def isZero (r : Register) : Bool :=
  (r.file = .w || r.file = .x) && r.number = zeroNumber

/-- Whether the register has the stack pointer's number. -/
def isStackPointer (r : Register) : Bool := r.number = stackNumber

/-- The register `step` places on in the same file; numbers wrap from 31 to 0. -/
def successor (r : Register) (step : Nat) : Register :=
  ⟨r.file, (r.encodedNumber + step) % 32⟩

/-- The place of the register in the table of names. -/
def index (r : Register) : Nat := r.file.start + r.number

/-- The names of all registers, file after file. -/
def names : List String := RegisterFile.all.flatMap RegisterFile.names

/-- The printed name, if the register's index is in the table. -/
def name? (r : Register) : Option String := names[r.index]?

end Register

end A64
