import Phrasebook.Controller
import Phrasebook.Convert.Registry
import Phrasebook.Template.Compile
import Phrasebook.Template.Match
import Phrasebook.Template.Render

/-! Commands: compiled routes, each bound to a handler of a registered controller. Binding
turns captured text into arguments; the first parameter that cannot be converted ends it. -/
namespace Phrasebook

structure Command (ι : Type) [HostTypes ι] where
  /-- The place of the controller in the service. -/
  controller : Nat
  controllerName : Text
  /-- The place of the handler in the controller. -/
  handler : Nat
  template : Template
  caseRule : CaseRule
  description? : Option Text
  params : List (Param ι)

namespace Command

variable {ι : Type} [HostTypes ι]

def route (c : Command ι) : Text := c.template.source

def match? (c : Command ι) (line : Text) : Option Captures := c.template.match? c.caseRule line

def kindName? (params : List (Param ι)) (name : Text) : Option Text :=
  (params.find? (·.name = name)).map (·.kind.name)

def listing (c : Command ι) : Listing :=
  ⟨c.template.render (kindName? c.params), c.description?, c.controllerName⟩

section Binding
variable [DecidableEq ι]

/-- The argument for a parameter: its captured text converted, else its default, else none. -/
def bindParam (captures : Captures) (registry : Registry ι) (p : Param ι) :
    Except ConvertError (Option (Value ι)) :=
  match captures.get? p.name with
  | some raw =>
    (registry.convert p.kind.type p.name raw).map fun content => some ⟨p.kind.type, content⟩
  | none => .ok p.kind.defaultValue?

def bindParams (captures : Captures) (registry : Registry ι) :
    List (Param ι) → Except ConvertError (List (Slot ι))
  | [] => .ok []
  | p :: more =>
    match bindParam captures registry p with
    | .error e => .error e
    | .ok value? => (bindParams captures registry more).map (⟨p.name, value?⟩ :: ·)

def bind (c : Command ι) (captures : Captures) (registry : Registry ι) :
    Except ConvertError (Arguments ι) :=
  (bindParams captures registry c.params).map Arguments.mk

end Binding
end Command
end Phrasebook
