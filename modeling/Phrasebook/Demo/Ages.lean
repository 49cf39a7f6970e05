import Phrasebook.Json.Basic

/-! Lists of names and ages such as `Ada=36;Bob=40`. Entries without both a name and an age
are skipped; an age may hold further equals signs. -/
namespace Phrasebook.Demo

abbrev Ages := List (Text × Text)

namespace Ages

def isComplete (entry : Text × Text) : Bool := entry.1 ≠ [] && entry.2 ≠ []

def read (raw : Text) : Ages :=
  ((Text.pieces ';' raw).filterMap (Text.cutAt? '=')).filter isComplete

def toJson (ages : Ages) : Json :=
  .array (ages.map fun (name, age) => .array [.text name, .text age])

def entry? : Json → Option (Text × Text)
  | .array [.text name, .text age] => some (name, age)
  | _ => none

/-- The entries, if every item is one. -/
def entries? : List Json → Option Ages
  | [] => some []
  | item :: more =>
    match entry? item, entries? more with
    | some entry, some ages => some (entry :: ages)
    | _, _ => none

def ofJson? : Json → Option Ages
  | .array items => entries? items
  | _ => none

end Ages
end Phrasebook.Demo
