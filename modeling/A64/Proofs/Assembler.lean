import A64.Proofs.Layout
import A64.Proofs.Spelling

/-!
# Reading integer instructions back

`assemble` finds the word of an integer instruction from its operation and the pieces of its
operands, as an assembler does. Where one operation comes from several classes of encodings, the
pieces tell them apart: a register from a number, the stack pointer from the zero register, a shift
from an extension.
-/

namespace A64

namespace Register

/-- Whether the register has 64 bits. -/
def wide (r : Register) : Bool := r.file = .x

def field (r : Register) : BitVec 5 := BitVec.ofNat 5 r.encodedNumber

/-- The zero register of the width of another register. -/
def zeroLike (r : Register) : Register := gpr r.wide 31

variable (sf : Bool) (n : BitVec 5)

@[simp] theorem wide_gpr : (gpr sf n).wide = sf := by cases sf <;> rfl

@[simp] theorem wide_gprOrStack : (gprOrStack sf n).wide = sf := by cases sf <;> rfl

@[simp] theorem field_gpr : (gpr sf n).field = n := by
  revert sf n
  decide

@[simp] theorem field_gprOrStack : (gprOrStack sf n).field = n := by
  revert sf n
  decide

@[simp] theorem isStackPointer_gpr : (gpr sf n).isStackPointer = false := by
  revert sf n
  decide

@[simp] theorem isStackPointer_gprOrStack : (gprOrStack sf n).isStackPointer = decide (n = 31) := by
  revert sf n
  decide

theorem isGeneral_gpr : (gpr sf n).IsGeneral := by
  cases sf
  · exact ⟨.inl rfl, inFile_ofField (by decide) n⟩
  · exact ⟨.inr rfl, inFile_ofField (by decide) n⟩

theorem isGeneral_gprOrStack : (gprOrStack sf n).IsGeneral := by
  cases sf
  · exact ⟨.inl rfl, inFile_ofFieldOrStack (by decide) n⟩
  · exact ⟨.inr rfl, inFile_ofFieldOrStack (by decide) n⟩

end Register

namespace Assemble

open BitVec (ofInt ofNat)

def bits (width : Nat) (value : Int) : BitVec width := ofInt width value

def shiftBits? : ShiftKind → Option (BitVec 2)
  | .lsl => some 0
  | .lsr => some 1
  | .asr => some 2
  | .ror => some 3
  | _ => none

def extendBits? : ShiftKind → Option (BitVec 3)
  | .uxtb => some 0
  | .uxth => some 1
  | .uxtw => some 2
  | .uxtx => some 3
  | .sxtb => some 4
  | .sxth => some 5
  | .sxtw => some 6
  | .sxtx => some 7
  | _ => none

/-- The extension that keeps the width of a register. -/
def wholeExtend (sf : Bool) : BitVec 3 := if sf then 3 else 2

def pcRelative (page : Bool) (address : Address) : List Piece → Option Word
  | [.register d, .number target] =>
    let offset := bits 64 target - (if page then address &&& ~~~0xfff else address)
    some (Encode.pcRelative page (if page then offset.extractLsb' 12 21 else offset.setWidth 21)
      d.field)
  | _ => none

/-- Addition and subtraction of what the last pieces are. Beside the stack pointer a register is
extended, elsewhere it is shifted unless an extension is written. -/
def addSub (sub flags : Bool) (d n : Register) : List Piece → Option Word
  | [.number value] =>
    some (Encode.addSubImmediate n.wide sub flags 0 (bits 12 value) n.field d.field)
  | [.number value, .shift _] =>
    some (Encode.addSubImmediate n.wide sub flags 1 (bits 12 value) n.field d.field)
  | [.register m] =>
    if d.isStackPointer || n.isStackPointer then
      some (Encode.addSubExtended n.wide sub flags m.field (wholeExtend n.wide) 0 n.field d.field)
    else some (Encode.addSubShifted n.wide sub flags 0 m.field 0 n.field d.field)
  | [.register m, .shift ⟨kind, amount⟩] =>
    match extendBits? kind, shiftBits? kind with
    | some option, _ =>
      some (Encode.addSubExtended n.wide sub flags m.field option (ofNat 3 (amount.getD 0)) n.field
        d.field)
    | none, some shift =>
      if d.isStackPointer || n.isStackPointer then
        some (Encode.addSubExtended n.wide sub flags m.field (wholeExtend n.wide)
          (ofNat 3 (amount.getD 0)) n.field d.field)
      else
        some (Encode.addSubShifted n.wide sub flags shift m.field (ofNat 6 (amount.getD 0)) n.field
          d.field)
    | none, none => none
  | _ => none

def addSubRegister (sub flags : Bool) : List Piece → Option Word
  | .register d :: .register n :: second => addSub sub flags d n second
  | _ => none

def compare (sub : Bool) : List Piece → Option Word
  | .register n :: second => addSub sub true n.zeroLike n second
  | _ => none

def negate (flags : Bool) : List Piece → Option Word
  | .register d :: second => addSub true flags d d.zeroLike second
  | _ => none

def addSubCarry (sub flags : Bool) : List Piece → Option Word
  | [.register d, .register n, .register m] =>
    some (Encode.addSubCarry m.wide sub flags m.field n.field d.field)
  | [.register d, .register m] => some (Encode.addSubCarry m.wide sub flags m.field 31 d.field)
  | _ => none

/-- A bitwise operation on the shifted register that the last pieces are. -/
def logical (opc : BitVec 2) (invert : Bool) (d n : Register) : List Piece → Option Word
  | [.register m] => some (Encode.logicalShifted m.wide opc invert 0 m.field 0 n.field d.field)
  | [.register m, .shift ⟨kind, amount⟩] =>
    (shiftBits? kind).map fun shift =>
      Encode.logicalShifted m.wide opc invert shift m.field (ofNat 6 (amount.getD 0)) n.field
        d.field
  | _ => none

def logicalRegister (opc : BitVec 2) (invert : Bool) : List Piece → Option Word
  | .register d :: .register n :: second => logical opc invert d n second
  | _ => none

def test : List Piece → Option Word
  | .register n :: second => logical 3 false n.zeroLike n second
  | _ => none

def moveInverted : List Piece → Option Word
  | .register d :: second => logical 1 true d d.zeroLike second
  | _ => none

/-- The halfword and its place, for a number with no other bits. -/
def halfword? (n : Nat) : Option (BitVec 2 × BitVec 16) :=
  if n < 2 ^ 16 then some (0, ofNat 16 n)
  else if n % 2 ^ 16 = 0 ∧ n < 2 ^ 32 then some (1, ofNat 16 (n / 2 ^ 16))
  else if n % 2 ^ 32 = 0 ∧ n < 2 ^ 48 then some (2, ofNat 16 (n / 2 ^ 32))
  else if n % 2 ^ 48 = 0 ∧ n < 2 ^ 64 then some (3, ofNat 16 (n / 2 ^ 48))
  else none

/-- The move of a constant that is a halfword, or else one whose inverse is. -/
def constant? (sf : Bool) {width : Nat} (value : BitVec width) (d : BitVec 5) : Option Word :=
  match halfword? value.toNat, halfword? (~~~value).toNat with
  | some (hw, imm16), _ => some (Encode.moveWide sf 2 hw imm16 d)
  | none, some (hw, imm16) => some (Encode.moveWide sf 0 hw imm16 d)
  | none, none => none

def move : List Piece → Option Word
  | [.register d, .register n] =>
    if d.isStackPointer || n.isStackPointer then
      some (Encode.addSubImmediate d.wide false false 0 0 n.field d.field)
    else some (Encode.logicalShifted d.wide 1 false 0 n.field 0 31 d.field)
  | [.register d, .number value] =>
    if d.wide then constant? true (bits 64 value) d.field
    else constant? false (bits 32 value) d.field
  | _ => none

def moveWide (opc : BitVec 2) : List Piece → Option Word
  | [.register d, .number value] => some (Encode.moveWide d.wide opc 0 (bits 16 value) d.field)
  | [.register d, .number value, .shift ⟨_, amount⟩] =>
    some (Encode.moveWide d.wide opc (ofNat 2 (amount.getD 0 / 16)) (bits 16 value) d.field)
  | _ => none

def size (sf : Bool) : Nat := if sf then 64 else 32

/-- A field that is moved from bit `immr` on to bit 0. -/
def bitfield (opc : BitVec 2) : List Piece → Option Word
  | [.register d, .register n, .number immr, .number imms] =>
    some (Encode.bitfield d.wide opc (bits 6 immr) (bits 6 imms) n.field d.field)
  | _ => none

def extraction (opc : BitVec 2) : List Piece → Option Word
  | [.register d, .register n, .number lsb, .number width] =>
    some (Encode.bitfield d.wide opc (bits 6 lsb) (bits 6 (lsb + width - 1)) n.field d.field)
  | _ => none

def insertion (opc : BitVec 2) : List Piece → Option Word
  | [.register d, .register n, .number lsb, .number width] =>
    some (Encode.bitfield d.wide opc (bits 6 (size d.wide - lsb)) (bits 6 (width - 1)) n.field
      d.field)
  | [.register d, .number lsb, .number width] =>
    some (Encode.bitfield d.wide opc (bits 6 (size d.wide - lsb)) (bits 6 (width - 1)) 31 d.field)
  | _ => none

def extension (opc : BitVec 2) (imms : BitVec 6) : List Piece → Option Word
  | [.register d, .register n] => some (Encode.bitfield d.wide opc 0 imms n.field d.field)
  | _ => none

def extract : List Piece → Option Word
  | [.register d, .register n, .register m, .number lsb] =>
    some (Encode.extract d.wide m.field (bits 6 lsb) n.field d.field)
  | _ => none

def twoSource (opcode : BitVec 6) : List Piece → Option Word
  | [.register d, .register n, .register m] =>
    some (Encode.twoSource m.wide m.field opcode n.field d.field)
  | _ => none

def shiftLeft : List Piece → Option Word
  | [.register d, .register n, .number amount] =>
    some (Encode.bitfield d.wide 2 (bits 6 (size d.wide - amount))
      (bits 6 (size d.wide - 1 - amount)) n.field d.field)
  | ps => twoSource 0b001000 ps

def shiftRight (opc : BitVec 2) (opcode : BitVec 6) : List Piece → Option Word
  | [.register d, .register n, .number amount] =>
    some (Encode.bitfield d.wide opc (bits 6 amount) (ofNat 6 (size d.wide - 1)) n.field d.field)
  | ps => twoSource opcode ps

def rotate : List Piece → Option Word
  | [.register d, .register n, .number amount] =>
    some (Encode.extract d.wide n.field (bits 6 amount) n.field d.field)
  | ps => twoSource 0b001011 ps

def rotateIntoFlags : List Piece → Option Word
  | [.register n, .number amount, .number mask] =>
    some (Encode.rotateIntoFlags (bits 6 amount) n.field (bits 4 mask))
  | _ => none

def evaluateIntoFlags (half : Bool) : List Piece → Option Word
  | [.register n] => some (Encode.evaluateIntoFlags half n.field)
  | _ => none

def conditionalCompare (sub : Bool) : List Piece → Option Word
  | [.register n, .register m, .number nzcv, .condition c] =>
    some (Encode.conditionalCompare n.wide sub m.field c.bits false n.field (bits 4 nzcv))
  | [.register n, .number value, .number nzcv, .condition c] =>
    some (Encode.conditionalCompare n.wide sub (bits 5 value) c.bits true n.field (bits 4 nzcv))
  | _ => none

/-- Selection; with fewer registers the condition is the opposite one. -/
def conditionalSelect (invert increment : Bool) : List Piece → Option Word
  | [.register d, .register n, .register m, .condition c] =>
    some (Encode.conditionalSelect d.wide invert increment m.field c.bits n.field d.field)
  | [.register d, .register n, .condition c] =>
    some (Encode.conditionalSelect d.wide invert increment n.field c.invert.bits n.field d.field)
  | [.register d, .condition c] =>
    some (Encode.conditionalSelect d.wide invert increment 31 c.invert.bits 31 d.field)
  | _ => none

def oneSource (opcode2 : BitVec 5) (opcode : BitVec 6) : List Piece → Option Word
  | [.register d, .register n] =>
    some (Encode.oneSource d.wide opcode2 opcode n.field d.field)
  | [.register d] => some (Encode.oneSource d.wide opcode2 opcode 31 d.field)
  | _ => none

/-- The opcode of a reversal of all bytes depends on the width. -/
def reverse : List Piece → Option Word
  | [.register d, .register n] =>
    some (Encode.oneSource d.wide 0 (if d.wide then 3 else 2) n.field d.field)
  | _ => none

def threeSource (op31 : BitVec 3) (o0 : Bool) : List Piece → Option Word
  | [.register d, .register n, .register m, .register a] =>
    some (Encode.threeSource d.wide op31 m.field o0 a.field n.field d.field)
  | [.register d, .register n, .register m] =>
    some (Encode.threeSource d.wide op31 m.field o0 31 n.field d.field)
  | _ => none

end Assemble

/-- The word of an integer instruction at an address. -/
def assemble (address : Address) (op : Operation) : List Piece → Option Word :=
  match op with
  -- Addresses and constants.
  | .adr => Assemble.pcRelative false address
  | .adrp => Assemble.pcRelative true address
  | .mov => Assemble.move
  | .movn => Assemble.moveWide 0
  | .movz => Assemble.moveWide 2
  | .movk => Assemble.moveWide 3
  -- Addition and subtraction.
  | .add => Assemble.addSubRegister false false
  | .adds => Assemble.addSubRegister false true
  | .sub => Assemble.addSubRegister true false
  | .subs => Assemble.addSubRegister true true
  | .cmn => Assemble.compare false
  | .cmp => Assemble.compare true
  | .neg => Assemble.negate false
  | .negs => Assemble.negate true
  | .adc => Assemble.addSubCarry false false
  | .adcs => Assemble.addSubCarry false true
  | .sbc | .ngc => Assemble.addSubCarry true false
  | .sbcs | .ngcs => Assemble.addSubCarry true true
  -- Bitwise operations.
  | .and => Assemble.logicalRegister 0 false
  | .bic => Assemble.logicalRegister 0 true
  | .orr => Assemble.logicalRegister 1 false
  | .orn => Assemble.logicalRegister 1 true
  | .eor => Assemble.logicalRegister 2 false
  | .eon => Assemble.logicalRegister 2 true
  | .ands => Assemble.logicalRegister 3 false
  | .bics => Assemble.logicalRegister 3 true
  | .tst => Assemble.test
  | .mvn => Assemble.moveInverted
  -- Moves of a field.
  | .sbfm => Assemble.bitfield 0
  | .ubfm => Assemble.bitfield 2
  | .sbfx => Assemble.extraction 0
  | .bfxil => Assemble.extraction 1
  | .ubfx => Assemble.extraction 2
  | .sbfiz => Assemble.insertion 0
  | .bfi | .bfc => Assemble.insertion 1
  | .ubfiz => Assemble.insertion 2
  | .sxtb => Assemble.extension 0 7
  | .sxth => Assemble.extension 0 15
  | .sxtw => Assemble.extension 0 31
  | .uxtb => Assemble.extension 2 7
  | .uxth => Assemble.extension 2 15
  | .extr => Assemble.extract
  -- Shifts.
  | .lsl => Assemble.shiftLeft
  | .lsr => Assemble.shiftRight 2 0b001001
  | .asr => Assemble.shiftRight 0 0b001010
  | .ror => Assemble.rotate
  -- Flags and conditions.
  | .rmif => Assemble.rotateIntoFlags
  | .setf8 => Assemble.evaluateIntoFlags false
  | .setf16 => Assemble.evaluateIntoFlags true
  | .ccmn => Assemble.conditionalCompare false
  | .ccmp => Assemble.conditionalCompare true
  | .csel => Assemble.conditionalSelect false false
  | .csinc | .cinc | .cset => Assemble.conditionalSelect false true
  | .csinv | .cinv | .csetm => Assemble.conditionalSelect true false
  | .csneg | .cneg => Assemble.conditionalSelect true true
  -- One source.
  | .rbit => Assemble.oneSource 0 0
  | .rev16 => Assemble.oneSource 0 1
  | .rev32 => Assemble.oneSource 0 2
  | .rev => Assemble.reverse
  | .clz => Assemble.oneSource 0 4
  | .cls => Assemble.oneSource 0 5
  | .pacia => Assemble.oneSource 1 0
  | .pacib => Assemble.oneSource 1 1
  | .pacda => Assemble.oneSource 1 2
  | .pacdb => Assemble.oneSource 1 3
  | .autia => Assemble.oneSource 1 4
  | .autib => Assemble.oneSource 1 5
  | .autda => Assemble.oneSource 1 6
  | .autdb => Assemble.oneSource 1 7
  | .paciza => Assemble.oneSource 1 8
  | .pacizb => Assemble.oneSource 1 9
  | .pacdza => Assemble.oneSource 1 10
  | .pacdzb => Assemble.oneSource 1 11
  | .autiza => Assemble.oneSource 1 12
  | .autizb => Assemble.oneSource 1 13
  | .autdza => Assemble.oneSource 1 14
  | .autdzb => Assemble.oneSource 1 15
  | .xpaci => Assemble.oneSource 1 16
  | .xpacd => Assemble.oneSource 1 17
  -- Two sources.
  | .udiv => Assemble.twoSource 0b000010
  | .sdiv => Assemble.twoSource 0b000011
  | .pacga => Assemble.twoSource 0b001100
  | .crc32b => Assemble.twoSource 0b010000
  | .crc32h => Assemble.twoSource 0b010001
  | .crc32w => Assemble.twoSource 0b010010
  | .crc32x => Assemble.twoSource 0b010011
  | .crc32cb => Assemble.twoSource 0b010100
  | .crc32ch => Assemble.twoSource 0b010101
  | .crc32cw => Assemble.twoSource 0b010110
  | .crc32cx => Assemble.twoSource 0b010111
  -- Three sources.
  | .madd | .mul => Assemble.threeSource 0b000 false
  | .msub | .mneg => Assemble.threeSource 0b000 true
  | .smaddl | .smull => Assemble.threeSource 0b001 false
  | .smsubl | .smnegl => Assemble.threeSource 0b001 true
  | .umaddl | .umull => Assemble.threeSource 0b101 false
  | .umsubl | .umnegl => Assemble.threeSource 0b101 true
  | _ => fun _ => none

end A64
