import A64.Decode.Basic

/-!
Cryptographic instructions: block ciphers and hash functions on whole vectors.
-/

namespace A64.Decode

/-- A vector of 128 bits. -/
def wide (n : BitVec 5) (e : ElementSize) : Operand := vector n e true

/-- Rounds of the cipher AES. -/
def aesRound? (opcode : BitVec 5) : Option Operation :=
  match opcode with
  | 0b00100 => some .aese
  | 0b00101 => some .aesd
  | 0b00110 => some .aesmc
  | 0b00111 => some .aesimc
  | _ => none

/-- The cipher AES. -/
def aes (word : Word) : Decoding :=
  if word.field 22 2 ≠ 0 then reserved .aesSize
  else
    match aesRound? (word.field 12 5) with
    | some op => done op [wide word.rd .b, wide word.rn .b]
    | none => reserved .aesOpcode

/-- The hash functions SHA-1 and SHA-256 on three registers. -/
def shaThree (word : Word) : Decoding :=
  let rounds := [scalar .q word.rd, scalar .s word.rn, wide word.rm .s]
  let hash := [scalar .q word.rd, scalar .q word.rn, wide word.rm .s]
  let schedule := [wide word.rd .s, wide word.rn .s, wide word.rm .s]
  if word.field 22 2 ≠ 0 then reserved .shaThreeSize
  else
    match word.field 12 3 with
    | 0b000 => done .sha1c rounds
    | 0b001 => done .sha1p rounds
    | 0b010 => done .sha1m rounds
    | 0b011 => done .sha1su0 schedule
    | 0b100 => done .sha256h hash
    | 0b101 => done .sha256h2 hash
    | 0b110 => done .sha256su1 schedule
    | _ => reserved .shaThreeOpcode

/-- The hash functions SHA-1 and SHA-256 on two registers. -/
def shaTwo (word : Word) : Decoding :=
  let schedule := [wide word.rd .s, wide word.rn .s]
  if word.field 22 2 ≠ 0 then reserved .shaTwoSize
  else
    match word.field 12 5 with
    | 0b00000 => done .sha1h [scalar .s word.rd, scalar .s word.rn]
    | 0b00001 => done .sha1su1 schedule
    | 0b00010 => done .sha256su0 schedule
    | _ => reserved .shaTwoOpcode

/-- Bitwise operations on three sources and a round of the hash function SM3. -/
def cryptoFour (word : Word) : Decoding :=
  let operands (e : ElementSize) :=
    [wide word.rd e, wide word.rn e, wide word.rm e, wide word.ra e]
  match word.field 21 2 with
  | 0b00 => done .eor3 (operands .b)
  | 0b01 => done .bcax (operands .b)
  | 0b10 => done .sm3ss1 (operands .s)
  | _ => reserved .cryptoFourRegister

/-- Rounds of the hash function SM3 that take a lane. -/
def sm3Round (opcode : BitVec 2) : Operation :=
  match opcode with
  | 0b00 => .sm3tt1a
  | 0b01 => .sm3tt1b
  | 0b10 => .sm3tt2a
  | _ => .sm3tt2b

/-- Three registers, the last of them by lane. -/
def cryptoThreeLane (word : Word) : Decoding :=
  done (sm3Round (word.field 10 2))
    [wide word.rd .s, wide word.rn .s, lane word.rm .s (word.field 12 2).toNat]

/-- The hash functions SHA-512 and SM3 and the cipher SM4 on three registers. -/
def cryptoThree (word : Word) : Decoding :=
  let hash := [scalar .q word.rd, scalar .q word.rn, wide word.rm .d]
  let vectors (e : ElementSize) := [wide word.rd e, wide word.rn e, wide word.rm e]
  match word.bit 14, word.field 10 2 with
  | false, 0b00 => done .sha512h hash
  | false, 0b01 => done .sha512h2 hash
  | false, 0b10 => done .sha512su1 (vectors .d)
  | false, _ => done .rax1 (vectors .d)
  | true, 0b00 => done .sm3partw1 (vectors .s)
  | true, 0b01 => done .sm3partw2 (vectors .s)
  | true, 0b10 => done .sm4ekey (vectors .s)
  | true, _ => reserved .sha512ThreeOpcode

/-- The hash function SHA-512 and the cipher SM4 on two registers. -/
def cryptoTwo (word : Word) : Decoding :=
  match word.field 10 2 with
  | 0b00 => done .sha512su0 [wide word.rd .d, wide word.rn .d]
  | 0b01 => done .sm4e [wide word.rd .s, wide word.rn .s]
  | _ => reserved .sha512TwoOpcode

/-- Exclusive or followed by a rotation. -/
def exclusiveOrRotate (word : Word) : Decoding :=
  done .xar [wide word.rd .d, wide word.rn .d, wide word.rm .d, imm (word.field 10 6)]

/-- The space of the later cryptographic instructions. -/
def cryptography (word : Word) : Decoding :=
  let op21 := word.field 21 2
  if word.field 24 4 ≠ 0b1110 then reserved .cryptoOp0
  else if word.bit 23 then
    if op21 = 0 then exclusiveOrRotate word
    else if word.field 12 11 = 0b10000001000 then cryptoTwo word
    else reserved .cryptoTwoRegister
  else if word.bit 15 = false then cryptoFour word
  else if op21 = 0b10 ∧ word.bit 14 = false then cryptoThreeLane word
  else if op21 = 0b11 ∧ word.field 12 2 = 0 then cryptoThree word
  else reserved .cryptoThreeRegister

end A64.Decode
