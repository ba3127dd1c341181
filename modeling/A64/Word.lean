/-!
Instruction words and the fields that encodings cut out of them.

A word is 32 bits wide and stored in memory with its least significant byte first. A field is a
run of bits, read as a bit vector of its own width, so that a table on a field has finitely many
rows.
-/

namespace A64

/-- An instruction word. -/
abbrev Word := BitVec 32

/-- An address in memory; addresses wrap at `2 ^ 64`. -/
abbrev Address := BitVec 64

/-- A byte of memory. -/
abbrev Byte := UInt8

namespace Word

/-- The number of bytes of a word. -/
def size : Nat := 4

/-- The `width` bits of the word from bit `start` upward. -/
def field (w : Word) (start width : Nat) : BitVec width := w.extractLsb' start width

/-- Bit `i` of the word. -/
def bit (w : Word) (i : Nat) : Bool := w.getLsbD i

/-- Destination register. -/
def rd (w : Word) : BitVec 5 := w.field 0 5

/-- First source register, or the base of a memory operand. -/
def rn (w : Word) : BitVec 5 := w.field 5 5

/-- Second source register, or the index of a memory operand. -/
def rm (w : Word) : BitVec 5 := w.field 16 5

/-- Third source register. -/
def ra (w : Word) : BitVec 5 := w.field 10 5

/-- Transferred register. -/
def rt (w : Word) : BitVec 5 := w.field 0 5

/-- Second transferred register of a pair. -/
def rt2 (w : Word) : BitVec 5 := w.field 10 5

/-- Status or source register of an exclusive or atomic access. -/
def rs (w : Word) : BitVec 5 := w.field 16 5

/-- Set for the 64-bit form of an integer instruction. -/
def sf (w : Word) : Bool := w.bit 31

/-- Set for the 128-bit form of a vector instruction. -/
def q (w : Word) : Bool := w.bit 30

/-- Set for the unsigned form of a vector instruction. -/
def u (w : Word) : Bool := w.bit 29

/-! ### Bytes -/

/-- The word with the given bytes, least significant first. -/
def ofBytes (b₀ b₁ b₂ b₃ : Byte) : Word :=
  b₃.toBitVec ++ b₂.toBitVec ++ b₁.toBitVec ++ b₀.toBitVec

/-- The bytes of a word, least significant first. -/
def toBytes (w : Word) : List Byte :=
  [⟨w.field 0 8⟩, ⟨w.field 8 8⟩, ⟨w.field 16 8⟩, ⟨w.field 24 8⟩]

/-- The field of `width` bits from bit `start` upward, as a word; bits above the word are zero and
so is a field without bits. -/
def extractBits (w : Word) (start width : Nat) : Word := (w.field start width).setWidth 32

/-- The low `width` bits of a word as a signed number; a width past 32 counts as 32. -/
def signedBits (w : Word) (width : Nat) : Int := (w.setWidth (min width 32)).toInt

end Word

end A64
