import A64.Decode
import A64.Text

/-!
Disassembly of a stream: words are read one by one from a source, decoded and rendered.

A source may deliver fewer bytes than asked for, be interrupted, or fail. An interrupted read is
tried again. The end of the input and a failure end the stream: a failure and a partial word are
reported once, and after that the stream has no more items.
-/

namespace A64

/-- What a source does when it is read. -/
inductive ReadEvent where
  /-- It delivers at most `n` bytes; none at all mean the end of the input. -/
  | upTo (n : Nat)
  /-- It is interrupted. -/
  | interrupted
  /-- It fails, for the given reason. -/
  | failure (reason : String)
  deriving DecidableEq

/-- A source of bytes, with what its next reads do. Reads after those deliver all they are asked
for. -/
structure Source where
  data : List Byte
  events : List ReadEvent

namespace Source

/-- Reads until `need` bytes are there, or the input ends. -/
def fill (data : List Byte) (need : Nat) : List ReadEvent → Except String (List Byte) × Source
  | [] => (.ok (data.take need), ⟨data.drop need, []⟩)
  | e :: events =>
    if need = 0 then (.ok [], ⟨data, e :: events⟩)
    else
      match e with
      | .interrupted => fill data need events
      | .failure reason => (.error reason, ⟨data, events⟩)
      | .upTo n =>
        let part := data.take (min n need)
        if part = [] then (.ok [], ⟨data, events⟩)
        else
          match fill (data.drop part.length) (need - part.length) events with
          | (.ok rest, source) => (.ok (part ++ rest), source)
          | (.error reason, source) => (.error reason, source)

/-- Reads the bytes of the next word, or what is left of it. -/
def next (s : Source) : Except String (List Byte) × Source := fill s.data Word.size s.events

end Source

/-- Why a word has no text, or a stream no more words. -/
inductive StreamError where
  | decode (e : DecodeError)
  | render (e : RenderError)
  | read (reason : String)
  deriving DecidableEq

/-- The description of an error. -/
def StreamError.message : StreamError → String
  | decode e => e.message
  | render e => e.message
  | read reason => "read failed: " ++ reason

/-- A disassembled word. -/
structure Line where
  address : Address
  word : Word
  text : String
  result : Except StreamError Instruction

namespace Line

/-- The word at an address, decoded and rendered; without a text of its own it has the
placeholder. -/
def ofWord (word : Word) (address : Address) (decimal : Bool) : Line :=
  match decode word address with
  | .error e => ⟨address, word, Text.placeholder word, .error (.decode e)⟩
  | .ok i =>
    match i.render decimal with
    | .error e => ⟨address, word, Text.placeholder word, .error (.render e)⟩
    | .ok text => ⟨address, word, text, .ok i⟩

/-- Whether the word has a text of its own. -/
def isOk (l : Line) : Bool :=
  match l.result with
  | .ok _ => true
  | .error _ => false

end Line

/-- A stream of disassembled words. -/
structure Stream where
  source : Source
  /-- The address of the next word. -/
  address : Address
  /-- Whether immediates are printed in decimal. -/
  decimal : Bool
  /-- Whether the stream has ended. -/
  finished : Bool

namespace Stream

/-- A stream whose first word is at the given address. -/
def ofSource (source : Source) (address : Address) (decimal : Bool) : Stream :=
  ⟨source, address, decimal, false⟩

/-- The next item of a stream: a word, an error that ends the stream, or nothing. -/
def next (s : Stream) : Option (Except StreamError Line) × Stream :=
  if s.finished then (none, s)
  else
    match s.source.next with
    | (.error reason, source) =>
      (some (.error (.read reason)), { s with source := source, finished := true })
    | (.ok [b₀, b₁, b₂, b₃], source) =>
      (some (.ok (.ofWord (.ofBytes b₀ b₁ b₂ b₃) s.address s.decimal)),
        { s with source := source, address := s.address + BitVec.ofNat 64 Word.size })
    | (.ok [], source) => (none, { s with source := source, finished := true })
    | (.ok part, source) =>
      (some (.error (.decode (.truncated s.address part.length))),
        { s with source := source, finished := true })

/-- The next items, at most `n`. -/
def take : Nat → Stream → List (Except StreamError Line)
  | 0, _ => []
  | n + 1, s =>
    match s.next with
    | (none, _) => []
    | (some item, rest) => item :: take n rest

end Stream

end A64
