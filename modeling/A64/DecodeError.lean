import A64.Numeral
import A64.Word

/-!
Why a word has no meaning: the rules of the encoding that a word can break, and the errors of
decoding with their descriptions.
-/

namespace A64

/-- A rule of the encoding that a word breaks. -/
inductive Reserved where
  -- Integer data processing.
  | addSubImmediateShift
  | logicalImmediateN
  | logicalImmediateMask
  | moveWideOpcode
  | moveWideHalfword
  | bitfieldOpcode
  | bitfieldN
  | bitfieldRange
  | extractOpcode
  | extractN
  | extractRange
  | dataRegisterOp3
  | dataRegisterOp2
  | shiftAmount
  | addSubRotate
  | addSubExtendedOption
  | addSubExtendedAmount
  | rotateIntoFlags
  | evaluateIntoFlags
  | conditionalCompare
  | conditionalSelectFlags
  | conditionalSelectOp2
  | oneSourceFlags
  | oneSourceOpcode
  | oneSourceOpcode2
  | pointerAuthentication
  | twoSourceFlags
  | checksumSize
  | twoSourceOpcode
  | threeSourceOp54
  | threeSourceOpcode
  | wideningMultiply
  -- Branches, exceptions and the system.
  | branchSystem
  | conditionalBranch
  | exceptionOp2
  | exceptionOpcode
  | systemClass
  | systemRead
  | barrierOp2
  | stateField
  | branchRegisterOp2
  | branchRegisterOpcode
  -- Loads and stores.
  | structureBit31
  | exclusiveSpace
  | releaseConsistentSpace
  | oddRegisterPair
  | releaseConsistentSize
  | vectorLiteral
  | pairOpcode
  | noAllocatePair
  | storeTagPair
  | accessSize
  | unprivilegedVector
  | prefetchMode
  | extendOption
  | atomicVector
  | loadAcquireFields
  | atomicOpcode
  | authenticatedLoad
  | structuresBit21
  | structuresIndex
  | structuresOpcode
  | structureOfDoubles
  | structureIndex
  | replicate
  | structureHalfword
  | structureWord
  -- Vectors.
  | vectorOp0
  | vectorBit21
  | vectorBits17
  | copyElement
  | insertElement
  | duplicateElement
  | duplicateGeneral
  | copyOpcode
  | tableLookup
  | permuteOpcode
  | permuteDoubles
  | extractVector
  | sameFloatOpcode
  | sameFloatDoubles
  | sameOpcode
  | sameSize
  | sameHalfOpcode
  | complexAdd
  | complexSize
  | sameExtraOpcode
  | notSize
  | miscFloatDoubles
  | estimateSize
  | miscFloatOpcode
  | miscOpcode
  | miscSize
  | miscDoubles
  | widthConversionSize
  | widthConversionOpcode
  | miscHalfOpcode
  | acrossFloatOpcode
  | acrossFloatSize
  | acrossOpcode
  | acrossSize
  | differentOpcode
  | differentSize
  | modifiedImmediate
  | moveFloatDoubles
  | shiftOpcode
  | shiftDoubles
  | fixedPointBytes
  | shiftElement
  | elementOpcode
  | elementSize
  | elementFloatSize
  | elementIntegerSize
  | elementL
  | elementDoubles
  -- Scalars of the vector registers.
  | scalarShiftElement
  | scalarBit21
  | scalarBits17
  | scalarCopy
  | scalarSameFloatOpcode
  | scalarSameOpcode
  | scalarForm
  | scalarSameSize
  | scalarSameHalfOpcode
  | scalarSameExtraOpcode
  | scalarSameExtraSize
  | scalarDifferentOpcode
  | scalarDifferentSize
  | narrowInexactSize
  | scalarMiscFloatOpcode
  | scalarMiscOpcode
  | scalarMiscSize
  | scalarMiscHalfOpcode
  | scalarPairwiseAddSize
  | scalarPairwiseOpcode
  | scalarPairwiseHalf
  | scalarShiftOpcode
  | scalarWideningShift
  | scalarNarrowShift
  | scalarNarrowElement
  | scalarShiftDoubles
  | scalarElementOpcode
  | scalarElementForm
  | scalarElementL
  -- Floating point.
  | floatFlags
  | floatClass
  | floatM
  | floatType
  | fixedPointType
  | fixedPointScale
  | fixedPointOpcode
  | integerConversionType
  | moveGeneralWidth
  | integerConversionOpcode
  | convertTarget
  | convertSame
  | floatOneSource
  | floatCompareOp
  | floatCompareOpcode2
  | floatImmediate
  | floatTwoSource
  -- Cryptography.
  | aesSize
  | aesOpcode
  | shaThreeSize
  | shaThreeOpcode
  | shaTwoSize
  | shaTwoOpcode
  | cryptoOp0
  | cryptoTwoRegister
  | cryptoFourRegister
  | cryptoThreeRegister
  | sha512ThreeOpcode
  | sha512TwoOpcode
  deriving DecidableEq

/-- The description of the broken rule. -/
def Reserved.message : Reserved → String
  | addSubImmediateShift => "add/subtract immediate shift"
  | logicalImmediateN => "logical immediate N set in 32-bit form"
  | logicalImmediateMask => "logical immediate bitmask"
  | moveWideOpcode => "move wide opc"
  | moveWideHalfword => "move wide hw in 32-bit form"
  | bitfieldOpcode => "bitfield opc"
  | bitfieldN => "bitfield N does not match sf"
  | bitfieldRange => "bitfield immediate out of range"
  | extractOpcode => "extract op21/o0"
  | extractN => "extract N does not match sf"
  | extractRange => "extract lsb out of range"
  | dataRegisterOp3 => "data processing register op3"
  | dataRegisterOp2 => "data processing register op2"
  | shiftAmount => "32-bit shift amount"
  | addSubRotate => "add/subtract ROR shift"
  | addSubExtendedOption => "add/subtract extended opt"
  | addSubExtendedAmount => "add/subtract extended shift amount"
  | rotateIntoFlags => "RMIF fields"
  | evaluateIntoFlags => "SETF fields"
  | conditionalCompare => "conditional compare S/o2/o3"
  | conditionalSelectFlags => "conditional select S"
  | conditionalSelectOp2 => "conditional select op2"
  | oneSourceFlags => "1-source S"
  | oneSourceOpcode => "1-source opcode"
  | oneSourceOpcode2 => "1-source opcode2"
  | pointerAuthentication => "pointer authentication opcode/Rn"
  | twoSourceFlags => "2-source S"
  | checksumSize => "CRC32 size/sf"
  | twoSourceOpcode => "2-source opcode"
  | threeSourceOp54 => "3-source op54"
  | threeSourceOpcode => "3-source op31/o0"
  | wideningMultiply => "32-bit widening multiply"
  | branchSystem => "branch/system encoding"
  | conditionalBranch => "conditional branch o1/o0"
  | exceptionOp2 => "exception generation op2"
  | exceptionOpcode => "exception generation opc/LL"
  | systemClass => "system instruction class"
  | systemRead => "system instruction with L set"
  | barrierOp2 => "barrier op2"
  | stateField => "PSTATE field"
  | branchRegisterOp2 => "branch register op2"
  | branchRegisterOpcode => "branch register opc/op3/op4"
  | structureBit31 => "AdvSIMD structure load/store with bit 31 set"
  | exclusiveSpace => "load/store exclusive space"
  | releaseConsistentSpace => "load/store RCpc space"
  | oddRegisterPair => "CASP register pair not even"
  | releaseConsistentSize => "RCpc unscaled size/opc"
  | vectorLiteral => "SIMD&FP literal opc"
  | pairOpcode => "load/store pair opc"
  | noAllocatePair => "no-allocate pair opc"
  | storeTagPair => "STGP"
  | accessSize => "load/store size/opc"
  | unprivilegedVector => "unprivileged SIMD&FP access"
  | prefetchMode => "prefetch in this addressing mode"
  | extendOption => "register offset extend option"
  | atomicVector => "atomic memory operation on SIMD&FP"
  | loadAcquireFields => "LDAPR fields"
  | atomicOpcode => "atomic memory operation opc"
  | authenticatedLoad => "pointer authenticated load size/V"
  | structuresBit21 => "AdvSIMD multiple structures bit 21"
  | structuresIndex => "AdvSIMD multiple structures Rm without post-index"
  | structuresOpcode => "AdvSIMD multiple structures opcode"
  | structureOfDoubles => "AdvSIMD structure of 1D elements"
  | structureIndex => "AdvSIMD single structure Rm without post-index"
  | replicate => "AdvSIMD load and replicate L/S"
  | structureHalfword => "AdvSIMD single structure H size"
  | structureWord => "AdvSIMD single structure S/D size"
  | vectorOp0 => "SIMD&FP op0"
  | vectorBit21 => "AdvSIMD vector bit 21 clear"
  | vectorBits17 => "AdvSIMD vector bits 17-20"
  | copyElement => "AdvSIMD copy imm5"
  | insertElement => "INS (element) with Q clear"
  | duplicateElement => "DUP (element) of a 1D vector"
  | duplicateGeneral => "DUP (general) of a 1D vector"
  | copyOpcode => "AdvSIMD copy imm4"
  | tableLookup => "table lookup op2"
  | permuteOpcode => "permute opcode"
  | permuteDoubles => "permute of 1D vectors"
  | extractVector => "EXT op2/imm4"
  | sameFloatOpcode => "AdvSIMD three same FP opcode"
  | sameFloatDoubles => "AdvSIMD three same FP of 1D vectors"
  | sameOpcode => "AdvSIMD three same opcode"
  | sameSize => "AdvSIMD three same size"
  | sameHalfOpcode => "AdvSIMD three same FP16 opcode"
  | complexAdd => "FCADD opcode"
  | complexSize => "complex arithmetic size"
  | sameExtraOpcode => "AdvSIMD three same extra opcode"
  | notSize => "NOT/RBIT size"
  | miscFloatDoubles => "AdvSIMD FP misc of 1D vectors"
  | estimateSize => "URECPE/URSQRTE size"
  | miscFloatOpcode => "AdvSIMD FP misc opcode"
  | miscOpcode => "AdvSIMD two-register misc opcode"
  | miscSize => "AdvSIMD two-register misc size"
  | miscDoubles => "AdvSIMD misc of 1D vectors"
  | widthConversionSize => "FP width conversion size"
  | widthConversionOpcode => "FP width conversion opcode"
  | miscHalfOpcode => "AdvSIMD FP16 misc opcode"
  | acrossFloatOpcode => "FP across lanes sz"
  | acrossFloatSize => "FP across lanes size"
  | acrossOpcode => "across lanes opcode"
  | acrossSize => "across lanes size"
  | differentOpcode => "three different opcode"
  | differentSize => "three different size"
  | modifiedImmediate => "AdvSIMD modified immediate o2"
  | moveFloatDoubles => "FMOV (vector, immediate) 1D"
  | shiftOpcode => "AdvSIMD shift by immediate opcode"
  | shiftDoubles => "AdvSIMD shift of 1D vectors"
  | fixedPointBytes => "fixed-point conversion of bytes"
  | shiftElement => "AdvSIMD narrow/long shift immh<3>"
  | elementOpcode => "AdvSIMD by element opcode"
  | elementSize => "AdvSIMD by element size"
  | elementFloatSize => "FP by element size"
  | elementIntegerSize => "integer by element size"
  | elementL => "AdvSIMD by element L"
  | elementDoubles => "FP by element of a 1D vector"
  | scalarShiftElement => "AdvSIMD scalar shift immh"
  | scalarBit21 => "AdvSIMD scalar bit 21 clear"
  | scalarBits17 => "AdvSIMD scalar bits 17-20"
  | scalarCopy => "AdvSIMD scalar copy"
  | scalarSameFloatOpcode => "AdvSIMD scalar three same FP opcode"
  | scalarSameOpcode => "AdvSIMD scalar three same opcode"
  | scalarForm => "no scalar form"
  | scalarSameSize => "AdvSIMD scalar three same size"
  | scalarSameHalfOpcode => "AdvSIMD scalar three same FP16 opcode"
  | scalarSameExtraOpcode => "AdvSIMD scalar three same extra opcode"
  | scalarSameExtraSize => "AdvSIMD scalar three same extra size"
  | scalarDifferentOpcode => "AdvSIMD scalar three different opcode"
  | scalarDifferentSize => "AdvSIMD scalar three different size"
  | narrowInexactSize => "FCVTXN size"
  | scalarMiscFloatOpcode => "AdvSIMD scalar FP misc opcode"
  | scalarMiscOpcode => "AdvSIMD scalar two-register misc opcode"
  | scalarMiscSize => "AdvSIMD scalar two-register misc size"
  | scalarMiscHalfOpcode => "AdvSIMD scalar FP16 misc opcode"
  | scalarPairwiseAddSize => "ADDP (scalar) size"
  | scalarPairwiseOpcode => "AdvSIMD scalar pairwise opcode"
  | scalarPairwiseHalf => "FP16 pairwise sz"
  | scalarShiftOpcode => "AdvSIMD scalar shift opcode"
  | scalarWideningShift => "no scalar widening shift"
  | scalarNarrowShift => "no scalar SHRN"
  | scalarNarrowElement => "AdvSIMD scalar narrow immh<3>"
  | scalarShiftDoubles => "AdvSIMD scalar shift of a non-D element"
  | scalarElementOpcode => "AdvSIMD scalar by element opcode"
  | scalarElementForm => "AdvSIMD scalar by element"
  | scalarElementL => "AdvSIMD scalar by element L"
  | floatFlags => "floating-point S"
  | floatClass => "floating-point bits 10-15"
  | floatM => "floating-point M"
  | floatType => "floating-point ftype"
  | fixedPointType => "fixed-point conversion ftype"
  | fixedPointScale => "fixed-point conversion scale"
  | fixedPointOpcode => "fixed-point conversion rmode/opcode"
  | integerConversionType => "FP/integer conversion ftype"
  | moveGeneralWidth => "FMOV (general) width"
  | integerConversionOpcode => "FP/integer conversion rmode/opcode"
  | convertTarget => "FCVT target"
  | convertSame => "FCVT to the same precision"
  | floatOneSource => "floating-point data-processing (1 source) opcode"
  | floatCompareOp => "floating-point compare op"
  | floatCompareOpcode2 => "floating-point compare opcode2"
  | floatImmediate => "floating-point immediate imm5"
  | floatTwoSource => "floating-point data-processing (2 source) opcode"
  | aesSize => "AES size"
  | aesOpcode => "AES opcode"
  | shaThreeSize => "SHA three-register size"
  | shaThreeOpcode => "SHA three-register opcode"
  | shaTwoSize => "SHA two-register size"
  | shaTwoOpcode => "SHA two-register opcode"
  | cryptoOp0 => "cryptographic op0"
  | cryptoTwoRegister => "cryptographic two-register"
  | cryptoFourRegister => "cryptographic four-register Op0"
  | cryptoThreeRegister => "cryptographic three-register"
  | sha512ThreeOpcode => "SHA512 three-register opcode"
  | sha512TwoOpcode => "SHA512 two-register opcode"

/-- Why no instruction was decoded. -/
inductive DecodeError where
  /-- The word is in no group of encodings. -/
  | undecodable (word : Word) (address : Address)
  /-- The word breaks a rule of its encoding. -/
  | reserved (word : Word) (address : Address) (reason : Reserved)
  /-- Only some bytes of a word were there. -/
  | truncated (address : Address) (available : Nat)
  deriving DecidableEq

namespace DecodeError

/-- The address of the word that was not decoded. -/
def address : DecodeError → Address
  | undecodable _ a | reserved _ a _ | truncated a _ => a

/-- The word that was not decoded, if all its bytes were there. -/
def word? : DecodeError → Option Word
  | undecodable w _ | reserved w _ _ => some w
  | truncated _ _ => none

/-- The description of an error. -/
def message : DecodeError → String
  | undecodable w a =>
    "undecodable word 0x" ++ Numeral.hex8 w.toNat ++ " at " ++ Numeral.hex a.toNat
  | reserved w a reason =>
    "reserved encoding 0x" ++ Numeral.hex8 w.toNat ++ " at " ++ Numeral.hex a.toNat ++ ": " ++
      reason.message
  | truncated a available =>
    "truncated instruction at " ++ Numeral.hex a.toNat ++ ": need " ++
      Numeral.decimal Word.size ++ " bytes, have " ++ Numeral.decimal available

end DecodeError

end A64
