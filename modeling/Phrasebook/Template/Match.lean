import Phrasebook.Template.Basic
import Phrasebook.Template.Occurrence

/-! Matching a line. Each literal binds at its first occurrence in what is left of the line,
and nothing is tried again. Text skipped on the way belongs to the placeholder before the
literal; without one the line does not match. An empty stretch is not captured. -/
namespace Phrasebook

/-- The placeholder values of a match, in template order. Names are looked up under the rule
that the line was matched by. -/
structure Captures where
  values : List (Text × Text)
  rule : CaseRule
  deriving DecidableEq, Repr

namespace Captures

def get? (c : Captures) (name : Text) : Option Text :=
  (c.values.find? fun (key, _) => c.rule.sameText key name).map Prod.snd

def contains (c : Captures) (name : Text) : Bool := (c.get? name).isSome

def size (c : Captures) : Nat := c.values.length

def isEmpty (c : Captures) : Bool := c.values.isEmpty

end Captures

namespace Template

/-- What a stretch of text adds to the captures, if a placeholder waits for it. -/
def capture (waiting : Option Text) (stretch : Text) : Option (List (Text × Text)) :=
  if stretch = [] then some [] else waiting.map fun name => [(name, stretch)]

def matchParts (rule : CaseRule) : Option Text → List Part → Text → Option (List (Text × Text))
  | waiting, [], line => capture waiting line
  | _, .placeholder name :: parts, line => matchParts rule (some name) parts line
  | waiting, .literal x :: parts, line =>
    match Occurrence.first? rule x line with
    | none => none
    | some o =>
      match capture waiting o.before with
      | none => none
      | some here => (matchParts rule none parts o.after).map (here ++ ·)

def match? (t : Template) (rule : CaseRule) (line : Text) : Option Captures :=
  (matchParts rule none t.parts line).map (⟨·, rule⟩)

end Template
end Phrasebook
