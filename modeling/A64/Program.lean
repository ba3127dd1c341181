import A64.CommandLine
import A64.Report

/-!
The program: it disassembles a file, the standard input or given words, and writes a line for each
word.

A partial word at the end is passed over. An offset past the end of the input and an input that
cannot be read are failures, which are described together with their causes.
-/

namespace A64

/-- An input that was opened: its bytes, or why it cannot be read. -/
inductive Input where
  | bytes (data : List Byte)
  | unreadable (reason : String)

/-- The input as a source. -/
def Input.source : Input → Source
  | bytes data => ⟨data, []⟩
  | unreadable reason => ⟨[], [.failure reason]⟩

/-- A failure and its causes, the nearest first. -/
structure Failure where
  message : String
  causes : List String

/-- The description of a failure. Several causes are numbered. -/
def Failure.text (f : Failure) : String :=
  let number (cause : String × Nat) := "    " ++ Numeral.decimal cause.2 ++ ": " ++ cause.1
  match f.causes with
  | [] => "Error: " ++ f.message
  | [cause] => "Error: " ++ f.message ++ "\n\nCaused by:\n    " ++ cause
  | causes =>
    "Error: " ++ f.message ++ "\n\nCaused by:\n" ++ "\n".intercalate (causes.zipIdx.map number)

/-- What a run of the program leaves behind. -/
structure Outcome where
  exitCode : Nat
  stdout : String
  /-- The description of a failure of the program's own. -/
  stderr : Option String

namespace Program

/-- The input without its first `offset` bytes. -/
def skip (offset : Nat) : Input → Except Failure Input
  | .unreadable reason =>
    if offset = 0 then .ok (.unreadable reason)
    else .error ⟨"Cannot skip to the requested offset", [reason]⟩
  | .bytes data =>
    if offset ≤ data.length then .ok (.bytes (data.drop offset))
    else
      .error ⟨"offset " ++ Numeral.hex offset ++ " is past the end of the input (" ++
        Numeral.hex data.length ++ " bytes)", []⟩

/-- The text of a line: address, word and instruction. -/
def textLine (l : Line) : String :=
  "0x" ++ Numeral.hex8 l.address.toNat ++ ":  " ++ Numeral.hex8 l.word.toNat ++ "  " ++ l.text

/-- The text of a line in the format that is asked for. -/
def formatLine (json : Bool) (l : Line) : String :=
  (if json then (Report.line l).compact else textLine l) ++ "\n"

/-- The lines up to the first error, and that error unless it is a partial word. -/
def collect : List (Except StreamError Line) → List Line × Option StreamError
  | [] => ([], none)
  | .ok l :: rest => let (lines, e) := collect rest; (l :: lines, e)
  | .error (.decode (.truncated _ _)) :: _ => ([], none)
  | .error e :: _ => ([], some e)

/-- The number of items that a source can have, at most. -/
def itemBound (source : Source) : Nat := source.data.length / Word.size + 1

/-- Disassembles an input: what is written, and the failure that ended it. -/
def disassemble (o : Options) (input : Input) : String × Option Failure :=
  match skip o.offset input with
  | .error f => ("", some f)
  | .ok rest =>
    let source := rest.source
    let bound := (o.count.getD (itemBound source)).min (itemBound source)
    let items := (Stream.ofSource source o.address o.decimal).take bound
    let (lines, e) := collect items
    let failure := e.map fun e =>
      ⟨"Cannot read input", e.message :: match e with | .read reason => [reason] | _ => []⟩
    (String.join (lines.map (formatLine o.json)), failure)

/-- The input that the options name, where `file` opens files. -/
def openInput (o : Options) (stdin : Input) (file : String → Except String Input) :
    Except Failure Input :=
  match o.words, o.input with
  | [], some "-" => .ok stdin
  | [], some path =>
    match file path with
    | .ok input => .ok input
    | .error reason => .error ⟨"Cannot open " ++ path, [reason]⟩
  | [], none => .error ⟨"no input given", []⟩
  | words, _ => .ok (.bytes (words.flatMap Word.toBytes))

/-- Runs the program with the given options. -/
def run (o : Options) (stdin : Input) (file : String → Except String Input) : Outcome :=
  match openInput o stdin file with
  | .error f => ⟨1, "", some f.text⟩
  | .ok input =>
    match disassemble o input with
    | (out, none) => ⟨0, out, none⟩
    | (out, some f) => ⟨1, out, some f.text⟩

/-- A summary of the command line. -/
def usage : String :=
  "usage: a64 [-a ADDRESS] [-o OFFSET] [-c COUNT] [--decimal] [--json] [-v] " ++
    "(FILE | - | --words WORD...)"

/-- Runs the program with the given arguments. -/
def runArguments (args : List String) (stdin : Input) (file : String → Except String Input) :
    Outcome :=
  match CommandLine.parse args with
  | .error .usage => ⟨2, "", none⟩
  | .error .help => ⟨0, usage ++ "\n", none⟩
  | .ok o => run o stdin file

end Program

end A64
