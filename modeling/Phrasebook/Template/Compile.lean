import Phrasebook.Template.Basic

/-! Compiling a template. Opening and closing braces each flip a switch. A span ends at a
closing brace that finds both switches on; its name starts after the last opening brace, and
the text before that is a literal. Both switches are then off again. So a doubled brace is
no escape, and a stray closing brace disarms the next one. -/
namespace Phrasebook

namespace Template

/-- What is known after some characters of a template. -/
structure Scan where
  /-- The parts of the finished spans. -/
  parts : List Part
  /-- The byte offset at which the last finished span ended, or zero. -/
  boundary : Nat
  /-- The text since the boundary, up to the last opening brace if the brace is armed. -/
  before : Text
  /-- The text after an armed opening brace. -/
  inside : Option Text
  /-- A closing brace since the boundary waits for its partner. -/
  closed : Bool
  deriving DecidableEq, Repr

namespace Scan

def start : Scan := ⟨[], 0, [], none, false⟩

/-- All text since the boundary. -/
def rest (s : Scan) : Text :=
  match s.inside with
  | none => s.before
  | some name => s.before ++ '{' :: name

def append (s : Scan) (c : Char) : Scan :=
  match s.inside with
  | none => { s with before := s.before ++ [c] }
  | some name => { s with inside := some (name ++ [c]) }

/-- An opening brace: the second of two takes the first one back. -/
def flip (s : Scan) : Scan :=
  match s.inside with
  | none => { s with inside := some [] }
  | some _ => { s with before := s.rest ++ ['{'], inside := none }

/-- Ends a span with the given name. An empty name leaves no placeholder. -/
def finish (s : Scan) (name : Text) : Except TemplateError Scan :=
  let position := s.boundary + Text.byteSize s.before
  let lead := if s.before = [] then [] else [Part.literal s.before]
  let named := if name = [] then [] else [Part.placeholder name]
  if s.before = [] ∧ s.boundary ≠ 0 then .error (.adjacent position)
  else if name ∈ Part.names s.parts then .error (.repeated name)
  else .ok ⟨s.parts ++ lead ++ named, position + Text.byteSize name + 2, [], none, false⟩

def feed (s : Scan) (c : Char) : Except TemplateError Scan :=
  if c = '{' then .ok s.flip
  else if c = '}' then
    match s.inside, s.closed with
    | some name, false => s.finish name
    | _, _ => .ok { s.append c with closed := !s.closed }
  else .ok (s.append c)

def run : Scan → Text → Except TemplateError Scan
  | s, [] => .ok s
  | s, c :: more =>
    match s.feed c with
    | .error e => .error e
    | .ok next => run next more

end Scan

/-- Text after the last span is one more literal. -/
def compile (source : Text) : Except TemplateError Template :=
  if source = [] then .error .empty
  else match Scan.run .start source with
    | .error e => .error e
    | .ok s => .ok ⟨source, s.parts ++ if s.rest = [] then [] else [.literal s.rest]⟩

end Template
end Phrasebook
