import Phrasebook.Convert.Builtin
import Phrasebook.RegistrationError
import Phrasebook.Value.Kind

/-! Parsers by the type they produce. There is at most one for a type, and it goes before the
built-in conversion. -/
namespace Phrasebook

inductive ConvertError where
  | noParser (name kind : Text)
  | failed (name kind : Text) (failure : Failure)
  deriving DecidableEq, Repr

namespace ConvertError

def message : ConvertError → String
  | noParser name kind =>
    s!"could not find a way to parse argument '{name.string}' of kind {kind.string}"
  | failed name kind failure =>
    s!"argument '{name.string}' could not be converted to {kind.string}: {failure.message}"

def causes : ConvertError → List String
  | noParser _ _ => []
  | failed _ _ failure => failure.chain

end ConvertError

/-- A parser is given the argument's name and the captured text. -/
structure Parser (ι : Type) [HostTypes ι] where
  type : ValueType ι
  parse : Text → Text → Except Failure type.Carrier

structure Registry (ι : Type) [HostTypes ι] where
  parsers : List (Parser ι)

namespace Registry

variable {ι : Type} [HostTypes ι] [DecidableEq ι]

def empty : Registry ι := ⟨[]⟩

/-- The parse function for a type among some parsers. -/
def find? (t : ValueType ι) :
    List (Parser ι) → Option (Text → Text → Except Failure t.Carrier)
  | [] => none
  | p :: more => if h : p.type = t then some (h ▸ p.parse) else find? t more

def parser? (r : Registry ι) (t : ValueType ι) :
    Option (Text → Text → Except Failure t.Carrier) := find? t r.parsers

def contains (r : Registry ι) (t : ValueType ι) : Bool := (r.parser? t).isSome

def size (r : Registry ι) : Nat := r.parsers.length

/-- Refuses a second parser for a type. -/
def add (r : Registry ι) (p : Parser ι) : Except RegistrationError (Registry ι) :=
  if r.contains p.type then .error (.duplicateParser p.type.name) else .ok ⟨r.parsers ++ [p]⟩

/-- The built-in conversion of a text, if there is one to the type. -/
def builtin? : (t : ValueType ι) → Text → Option (Except Failure t.Carrier)
  | .builtin b, raw => some (Convert.readBuiltin b raw)
  | .host _, _ => none

/-- A type is built in if there is a conversion of the empty text, even one that fails. -/
def isBuiltin (t : ValueType ι) : Bool := (builtin? t []).isSome

def canConvert (r : Registry ι) (t : ValueType ι) : Bool := r.contains t || isBuiltin t

/-- A parser goes before the built-in conversion. -/
def convert (r : Registry ι) (t : ValueType ι) (name raw : Text) :
    Except ConvertError t.Carrier :=
  match r.parser? t with
  | some parse => (parse name raw).mapError (.failed name t.name)
  | none =>
    match builtin? t raw with
    | some result => result.mapError (.failed name t.name)
    | none => .error (.noParser name t.name)

def debug (r : Registry ι) : String := s!"ConverterRegistry \x7b parsers: {r.size} \x7d"

end Registry
end Phrasebook
