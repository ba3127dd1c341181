import A64.Decode

/-!
Disassembly of a block of bytes.

The walk over a block asks little of an instruction set: how an instruction is read from bytes, and
the sizes of the smallest and of the largest one.
-/

namespace A64

/-- An instruction that was read, with the number of bytes that it takes. -/
structure DecodedInstruction where
  instruction : Instruction
  size : Nat

/-- An instruction set. Every step over a block goes forward, whether it reads an instruction or
not. -/
structure Disassembler where
  /-- The instruction at the start of the bytes. -/
  decodeInstruction : List Byte → Address → Except DecodeError DecodedInstruction
  minInstructionSize : Nat
  maxInstructionSize : Nat
  size_pos : ∀ bytes address i, decodeInstruction bytes address = .ok i → 0 < i.size
  minInstructionSize_pos : 0 < minInstructionSize

namespace Disassembler

variable (d : Disassembler)

/-- Whether all instructions have the same size. -/
def isFixedWidth : Bool := d.minInstructionSize == d.maxInstructionSize

/-- The walk over a block from an offset on. The next instruction lies behind the one that was read,
or behind the least size of one if none was, and bytes that are too few end the walk. -/
def walk (bytes : List Byte) (start : Address) (offset : Nat) :
    List (Except DecodeError Instruction) :=
  if offset < bytes.length then
    match _h : d.decodeInstruction (bytes.drop offset) (start + BitVec.ofNat 64 offset) with
    | .ok i => .ok i.instruction :: walk bytes start (offset + i.size)
    | .error (.truncated address available) => [.error (.truncated address available)]
    | .error e => .error e :: walk bytes start (offset + d.minInstructionSize)
  else []
termination_by bytes.length - offset
decreasing_by
  · have := d.size_pos _ _ _ _h
    omega
  · have := d.minInstructionSize_pos
    omega

/-- The instructions of a block, from its first byte on. -/
def disassembleBlock (bytes : List Byte) (start : Address) :
    List (Except DecodeError Instruction) :=
  d.walk bytes start 0

end Disassembler

/-- The instruction at the start of a block. -/
def decodeBytes (bytes : List Byte) (address : Address) : Except DecodeError Instruction :=
  match bytes with
  | b₀ :: b₁ :: b₂ :: b₃ :: _ => decode (.ofBytes b₀ b₁ b₂ b₃) address
  | _ => .error (.truncated address bytes.length)

/-- The instruction set whose instructions are words. -/
def wordDisassembler : Disassembler where
  decodeInstruction bytes address := (decodeBytes bytes address).map (⟨·, Word.size⟩)
  minInstructionSize := Word.size
  maxInstructionSize := Word.size
  size_pos bytes address i h := by
    cases hd : decodeBytes bytes address with
    | error e => rw [hd] at h; cases h
    | ok j => rw [hd] at h; cases h; exact Nat.zero_lt_succ 3
  minInstructionSize_pos := by decide

/-- The instructions of a block, word after word. A word that cannot be decoded takes its place like
any other, and bytes that are left over make one last error. -/
def decodeBlock (bytes : List Byte) (start : Address) : List (Except DecodeError Instruction) :=
  wordDisassembler.disassembleBlock bytes start

end A64
