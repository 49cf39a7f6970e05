import Phrasebook.Text.Basic

/-! Short type names: a full name with the module path of every part left out, inside
brackets too. -/
namespace Phrasebook.TypeName

def isDelimiter (c : Char) : Bool :=
  c ∈ ['<', '>', ',', '(', ')', '[', ']', '&', ';', ' ']

/-- The text after the last double colon, if there is one. -/
def afterLastColons? : Text → Option Text
  | [] => none
  | c :: rest =>
    match afterLastColons? rest with
    | some last => some last
    | none =>
      match c, rest with
      | ':', ':' :: last => some last
      | _, _ => none

def lastSegment (path : Text) : Text := (afterLastColons? path).getD path

/-- `path` holds the characters since the last delimiter. -/
def shortenFrom (path : Text) : Text → Text
  | [] => lastSegment path
  | c :: rest =>
    if isDelimiter c then lastSegment path ++ c :: shortenFrom [] rest
    else shortenFrom (path ++ [c]) rest

def short (fullName : Text) : Text := shortenFrom [] fullName

end Phrasebook.TypeName
