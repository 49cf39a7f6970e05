import Phrasebook.Template.Basic
import Phrasebook.Text.Blank

/-! Templates as shown in listings: trimmed literals and placeholders, blank literals left
out, single spaces between. A placeholder shows the kind of its parameter, if it has one. -/
namespace Phrasebook

/-- How one part shows, if at all. -/
def Part.shown? (kindOf : Text → Option Text) : Part → Option Text
  | .literal text => if Text.trim text = [] then none else some (Text.trim text)
  | .placeholder name =>
    match kindOf name with
    | some kind => some ('{' :: name ++ ':' :: kind ++ ['}'])
    | none => some ('{' :: name ++ ['}'])

def Template.render (t : Template) (kindOf : Text → Option Text) : Text :=
  Text.joined [' '] (t.parts.filterMap (Part.shown? kindOf))

end Phrasebook
