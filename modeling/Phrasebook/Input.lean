import Phrasebook.Text.Basic

/-! Lines of input. A source is a list of items, each of which gives one line or an error:
lines themselves, or chunks of bytes up to and including a line feed. -/
namespace Phrasebook

inductive InputError where
  | invalidUtf8
  deriving DecidableEq, Repr

def InputError.message : InputError → String
  | .invalidUtf8 => "stream did not contain valid UTF-8"

namespace Input

/-- A line that is already there. -/
def scripted (line : Text) : Except InputError Text := .ok line

abbrev Bytes := List UInt8

/-- The bytes, cut after every line feed. -/
def chunks : Bytes → List Bytes
  | [] => []
  | b :: rest =>
    if b = 0x0A then [b] :: chunks rest
    else match chunks rest with
      | [] => [[b]]
      | chunk :: more => (b :: chunk) :: more

theorem flatten_chunks (bytes : Bytes) : (chunks bytes).flatten = bytes := by
  induction bytes with
  | nil => rfl
  | cons b rest ih =>
    unfold chunks
    split
    · simp [ih]
    · split
      · next h => rw [h] at ih; simpa using ih
      · next chunk more h => rw [h] at ih; simpa using ih

def decode? (bytes : Bytes) : Option Text :=
  (ByteArray.mk bytes.toArray).utf8Decode?.map Array.toList

def isLineEnd (c : Char) : Bool := c = '\n' || c = '\r'

/-- All line ends at the end of a chunk are dropped, not only one. -/
def readChunk (chunk : Bytes) : Except InputError Text :=
  match decode? chunk with
  | some text => .ok (Text.dropEnd isLineEnd text)
  | none => .error .invalidUtf8

/-- The bytes up to and with the next line feed, or all of them if there is none, and the bytes
after that. -/
def cutLine : Bytes → Bytes × Bytes
  | [] => ([], [])
  | b :: rest =>
    if b = 0x0A then ([b], rest) else (b :: (cutLine rest).1, (cutLine rest).2)

/-- The next line of a stream, none at its end, and what is left of the stream. A chunk that is no
text is used up all the same. -/
def readLine (bytes : Bytes) : Option (Except InputError Text) × Bytes :=
  let (chunk, left) := cutLine bytes
  if chunk = [] then (none, left) else (some (readChunk chunk), left)

/-- The next answer of a source, none at its end, and what is left. -/
def next {α : Type} (read : α → Except InputError Text) :
    List α → Option (Except InputError Text) × List α
  | [] => (none, [])
  | item :: more => (some (read item), more)

/-- How a source answers that has no end before its last item. -/
def each {ε α : Type} (read : α → Except ε Text) (item : α) : Except ε (Option Text) :=
  (read item).map some

end Input
end Phrasebook
