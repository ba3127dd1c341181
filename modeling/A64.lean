import A64.Binary32
import A64.Block
import A64.CommandLine
import A64.Condition
import A64.Decode
import A64.Decode.Arithmetic
import A64.Decode.Atomic
import A64.Decode.Basic
import A64.Decode.Bitfield
import A64.Decode.Branch
import A64.Decode.Conditional
import A64.Decode.Control
import A64.Decode.Crypto
import A64.Decode.Exclusive
import A64.Decode.Float
import A64.Decode.Integer
import A64.Decode.Logical
import A64.Decode.Memory
import A64.Decode.Move
import A64.Decode.Source
import A64.Decode.Structure
import A64.Decode.System
import A64.Decode.Transfer
import A64.Decode.Vector
import A64.Decode.Vector.Basic
import A64.Decode.Vector.ByElement
import A64.Decode.Vector.Constant
import A64.Decode.Vector.Copy
import A64.Decode.Vector.Different
import A64.Decode.Vector.Misc
import A64.Decode.Vector.Same
import A64.Decode.Vector.Shift
import A64.DecodeError
import A64.Immediate.LogicalMask
import A64.Immediate.Spread
import A64.Immediate.Vector
import A64.Instruction
import A64.Json
import A64.Main
import A64.Numeral
import A64.Operand
import A64.Operands
import A64.Operation.Basic
import A64.Operation.Name
import A64.Program
import A64.Register
import A64.Report
import A64.Stream
import A64.SystemRegister.Basic
import A64.SystemRegister.Encoding
import A64.SystemRegister.Name
import A64.Text
import A64.Word
import A64.Proofs.Operands
import A64.Proofs.Printable
import A64.Proofs.StackPointer
import A64.Proofs.Yields
import A64.Proofs.Regular
import A64.Proofs.Regular.Integer
import A64.Proofs.Regular.Control
import A64.Proofs.Regular.Memory
import A64.Proofs.Regular.Vector
import A64.Proofs.Form
import A64.Proofs.DecodeContract
import A64.Proofs.Regular.Decode
import A64.Proofs.Assembler
import A64.Proofs.IntegerText
import A64.Proofs.Relocation
import A64.Proofs.BitfieldMove
import A64.Proofs.OperandEdits
import A64.Proofs.Target
import A64.Proofs.StreamRun
import A64.Proofs.Encoding
import A64.Proofs.Slot
import A64.Proofs.Encodings.VectorClass
import A64.Proofs.Encodings.Vector
import A64.Proofs.Encodings.Same
import A64.Proofs.Encodings.Misc
import A64.Proofs.Encodings.ByElement
import A64.Proofs.Encodings.Float
import A64.Proofs.Encodings.Crypto
import A64.Proofs.Encodings.Immediate
import A64.Proofs.VectorWord
import A64.Proofs.ImmediateWord
import A64.Proofs.LogicalMask
import A64.Proofs.LogicalCode
import A64.Proofs.Encodings.Memory
import A64.Proofs.Encodings.Transfer
import A64.Proofs.Encodings.Structure
import A64.Proofs.MemoryWord
import A64.Proofs.Encodings.Branch
import A64.Proofs.Encodings.System
import A64.Proofs.SystemView
import A64.Proofs.ControlWord
import A64.Proofs.WideMove
import A64.Proofs.PlainText
import A64.Proofs.Listing
import A64.Proofs.JsonText
import A64.Proofs.JsonListing
import A64.Proofs.Strict
import A64.Proofs.Strict.Integer
import A64.Proofs.Strict.Memory
import A64.Proofs.Strict.Vector
import A64.Proofs.StrictDecode
import A64.Proofs.MoveSpelling
import A64.Proofs.Selection
import A64.Proofs.BlockItems
import A64.Proofs.TextValues
import A64.Proofs.RenderModes
import A64.Proofs.OperandValues
import A64.Proofs.DecimalImmediate
import A64.Proofs.Undivided
import A64.Proofs.VectorShape
import A64.Proofs.VectorShape.Ordinary
import A64.Proofs.VectorShape.Decode
import A64.Proofs.Halves
import A64.Proofs.ShiftAmount
import A64.Proofs.FloatFormat
import A64.Proofs.ConstantPattern
import A64.Proofs.OffsetScale
import A64.Proofs.StructureTransfer
import A64.Proofs.AtomicName
import A64.Proofs.HexNumeral
import A64.Proofs.OutputColumns
