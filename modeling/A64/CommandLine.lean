import A64.Numeral
import A64.Word

/-!
The command line: options, their values and what they mean together.

The arguments are read one by one by a small automaton. An option may have its value attached or in
the next argument, short options may be run together, and a value never starts with a dash. All
options but the words and the verbosity are given at most once.
-/

namespace A64

/-- What the program is asked to do. -/
structure Options where
  /-- The file to read, if no words are given. -/
  input : Option String
  /-- Words to disassemble instead of a file. -/
  words : List Word
  /-- The address of the first word. -/
  address : Address
  /-- The number of bytes to skip. -/
  offset : Nat
  /-- The largest number of words. -/
  count : Option Nat
  /-- Whether immediates are printed in decimal. -/
  decimal : Bool
  /-- Whether lines are written as JSON. -/
  json : Bool
  /-- How much to log. -/
  verbose : Nat

namespace CommandLine

/-- Why the arguments do not say what to do. -/
inductive Refusal where
  /-- They are wrong. -/
  | usage
  /-- They ask for help. -/
  | help
  deriving DecidableEq

/-- The options that take one value. -/
inductive Valued where
  | address | offset | count
  deriving DecidableEq

/-- What the next argument may be. -/
inductive Expect where
  /-- An option or the file. -/
  | any
  /-- The value of an option. -/
  | value (option : Valued)
  /-- A word or, if one was read, what may follow the words. -/
  | words (seen : Bool)
  /-- The file, whatever it looks like. -/
  | file
  deriving DecidableEq

/-- The arguments read so far. -/
structure State where
  expect : Expect
  input : Option String
  words : List Word
  address : Option Address
  offset : Option Nat
  count : Option Nat
  decimal : Bool
  json : Bool
  verbose : Nat

/-- No arguments yet. -/
def State.start : State := ⟨.any, none, [], none, none, none, false, false, 0⟩

/-- The arguments read so far, or why they are refused. -/
abbrev Parse := Except Refusal State

/-- Takes an address of the first word. -/
def setAddress (s : State) (value : String) : Parse :=
  match s.address, Numeral.parseHex? 64 value with
  | none, some a => .ok { s with expect := .any, address := some a }
  | _, _ => .error .usage

/-- Takes a number of bytes to skip. -/
def setOffset (s : State) (value : String) : Parse :=
  match s.offset, Numeral.parseDecimal? value with
  | none, some n => .ok { s with expect := .any, offset := some n.toNat }
  | _, _ => .error .usage

/-- Takes a largest number of words. -/
def setCount (s : State) (value : String) : Parse :=
  match s.count, Numeral.parseDecimal? value with
  | none, some n => .ok { s with expect := .any, count := some n.toNat }
  | _, _ => .error .usage

/-- Takes the value of an option. -/
def setValue (s : State) (value : String) : Valued → Parse
  | .address => setAddress s value
  | .offset => setOffset s value
  | .count => setCount s value

/-- Takes a word; `after` says what may come next. -/
def addWord (s : State) (value : String) (after : Expect) : Parse :=
  match Numeral.parseHex? 32 value with
  | some w => .ok { s with expect := after, words := s.words ++ [w] }
  | none => .error .usage

/-- Takes the file; a second one and an empty name are refused. -/
def setInput (s : State) (path : String) : Parse :=
  match s.input with
  | none => if path = "" then .error .usage else .ok { s with input := some path }
  | some _ => .error .usage

/-- Takes a long option without the dashes, and the value attached to it. -/
def long (s : State) (name : String) (value : Option String) : Parse :=
  match name, value with
  | "decimal", none =>
    if s.decimal then .error .usage else .ok { s with expect := .any, decimal := true }
  | "json", none => if s.json then .error .usage else .ok { s with expect := .any, json := true }
  | "verbose", none => .ok { s with expect := .any, verbose := s.verbose + 1 }
  | "help", none => .error .help
  | "words", none => .ok { s with expect := .words false }
  | "words", some v => addWord s v .any
  | "address", none => .ok { s with expect := .value .address }
  | "address", some v => setAddress s v
  | "offset", none => .ok { s with expect := .value .offset }
  | "offset", some v => setOffset s v
  | "count", none => .ok { s with expect := .value .count }
  | "count", some v => setCount s v
  | _, _ => .error .usage

/-- The value attached to a short option, which an equals sign may set off. -/
def attached? : List Char → Option String
  | [] => none
  | '=' :: rest => some (String.ofList rest)
  | rest => some (String.ofList rest)

/-- Takes a short option that needs a value, which the rest of the argument may hold. -/
def shortValued (s : State) (option : Valued) (rest : List Char) : Parse :=
  match attached? rest with
  | none => .ok { s with expect := .value option }
  | some v => setValue s v option

/-- Takes short options that are run together. -/
def short (s : State) : List Char → Parse
  | [] => .ok s
  | 'v' :: rest => short { s with expect := .any, verbose := s.verbose + 1 } rest
  | 'a' :: rest => shortValued s .address rest
  | 'o' :: rest => shortValued s .offset rest
  | 'c' :: rest => shortValued s .count rest
  | 'h' :: _ => .error .help
  | _ => .error .usage

/-- Splits a long option at its first equals sign. -/
def splitLong (cs : List Char) : String × Option String :=
  let name := String.ofList (cs.takeWhile (· ≠ '='))
  match cs.dropWhile (· ≠ '=') with
  | [] => (name, none)
  | _ :: value => (name, some (String.ofList value))

/-- Takes an argument that is not a value. -/
def plain (s : State) (arg : String) : Parse :=
  match arg.toList with
  | ['-', '-'] => .ok { s with expect := .file }
  | '-' :: '-' :: cs => let (name, value) := splitLong cs; long s name value
  | ['-'] => setInput s arg
  | '-' :: cs => short s cs
  | _ => setInput s arg

/-- Whether an argument looks like an option. -/
def isOption (arg : String) : Bool :=
  match arg.toList with
  | '-' :: _ :: _ => true
  | _ => false

/-- Takes an argument. -/
def step (s : State) (arg : String) : Parse :=
  match s.expect with
  | .any => plain s arg
  | .file => setInput s arg
  | .value option => if isOption arg then .error .usage else setValue s arg option
  | .words seen =>
    if isOption arg = false then addWord s arg (.words true)
    else if seen then plain { s with expect := .any } arg
    else .error .usage

/-- The options after the last argument. A file is needed unless words are given, and the two
exclude each other. -/
def finish (s : State) : Except Refusal Options :=
  if s.expect matches .value _ | .words false then .error .usage
  else if s.words.isEmpty = s.input.isNone then .error .usage
  else
    .ok ⟨s.input, s.words, s.address.getD 0, s.offset.getD 0, s.count, s.decimal, s.json,
      s.verbose⟩

/-- The options that the arguments give. -/
def parse (args : List String) : Except Refusal Options :=
  (args.foldlM step .start).bind finish

end CommandLine

end A64
