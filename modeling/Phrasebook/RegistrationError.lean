import Phrasebook.Template.Basic

/-! What can go wrong when a controller or a parser is registered. -/
namespace Phrasebook

inductive RegistrationError where
  | malformedTemplate (controller template : Text) (error : TemplateError)
  | duplicateController (name : Text)
  | duplicateParser (kind : Text)
  | missingFactory (name : Text)
  deriving DecidableEq, Repr

namespace RegistrationError

def message : RegistrationError → String
  | malformedTemplate controller template error =>
    s!"route '{template.string}' of controller '{controller.string}' is malformed: " ++
      error.message
  | duplicateController name =>
    s!"a controller of type '{name.string}' has already been registered"
  | duplicateParser kind => s!"an argument parser for '{kind.string}' has already been added"
  | missingFactory name =>
    s!"controller '{name.string}' is instantiated per command but has no factory"

def causes : RegistrationError → List String
  | malformedTemplate _ _ error => [error.message]
  | _ => []

end RegistrationError

end Phrasebook
