import Phrasebook.Text.Case

/-! Route templates: literal text alternating with named placeholders, and what can be wrong
with one. -/
namespace Phrasebook

inductive Part where
  | literal (text : Text)
  | placeholder (name : Text)
  deriving DecidableEq, Repr

def Part.name? : Part → Option Text
  | .literal _ => none
  | .placeholder name => some name

structure Template where
  source : Text
  parts : List Part
  deriving DecidableEq, Repr

inductive TemplateError where
  | empty
  /-- A placeholder follows another with nothing between; the byte offset of its brace. -/
  | adjacent (position : Nat)
  | repeated (name : Text)
  deriving DecidableEq, Repr

def TemplateError.message : TemplateError → String
  | .empty => "route template cannot be empty"
  | .adjacent position =>
    s!"multiple placeholders need to be separated by literal text (at byte {position})"
  | .repeated name => s!"placeholder '{name.string}' is used more than once"

/-- The placeholder names of some parts, in order. -/
def Part.names (parts : List Part) : List Text := parts.filterMap Part.name?

namespace Template

def names (t : Template) : List Text := Part.names t.parts

/-- The first name that is the same as an earlier one. `seen` holds the names passed. -/
def firstRepeat? (rule : CaseRule) (seen : List Text) : List Text → Option Text
  | [] => none
  | name :: more =>
    if seen.any (rule.sameText · name) then some name
    else firstRepeat? rule (seen ++ [name]) more

/-- Compiling refuses exact repeats only; a route that ignores case must have no two names
that differ in case alone. -/
def checkNames (rule : CaseRule) (t : Template) : Except TemplateError Unit :=
  match firstRepeat? rule [] t.names with
  | some name => .error (.repeated name)
  | none => .ok ()

end Template
end Phrasebook
