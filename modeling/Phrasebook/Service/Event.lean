import Phrasebook.Text.Basic

/-! The events that a service reports while it works. -/
namespace Phrasebook

inductive Level where
  | trace
  | debug
  | warn
  deriving DecidableEq, Repr

inductive Event where
  | parserAdded (kind : Text)
  | controllerRegistered (controller : Text) (routes : Nat)
  | routeRegistered (controller route : Text)
  | notConvertibleYet (route param kind : Text)
  | tryingRoute (route : Text)
  | nothingMatched (line : Text)
  | routeMatched (line route controller : Text)
  | instanceCreated (controller : Text)
  | exitRequested (controller route : Text)
  | endOfInput
  deriving DecidableEq, Repr

namespace Event

def level : Event → Level
  | routeRegistered _ _ | tryingRoute _ | instanceCreated _ => .trace
  | notConvertibleYet _ _ _ | nothingMatched _ => .warn
  | _ => .debug

def message : Event → String
  | parserAdded _ => "registered argument parser"
  | controllerRegistered _ _ => "registered controller"
  | routeRegistered _ _ => "registered route"
  | notConvertibleYet _ _ _ => "no converter for parameter kind yet"
  | tryingRoute _ => "trying route"
  | nothingMatched _ => "no route matched"
  | routeMatched _ _ _ => "route matched"
  | instanceCreated _ => "creating controller instance"
  | exitRequested _ _ => "exit requested"
  | endOfInput => "end of input"

def fields : Event → List (String × Text)
  | parserAdded kind => [("kind", kind)]
  | controllerRegistered controller routes =>
    [("controller", controller), ("routes", (toString routes).toList)]
  | routeRegistered controller route => [("controller", controller), ("route", route)]
  | notConvertibleYet route param kind => [("route", route), ("param", param), ("kind", kind)]
  | tryingRoute route => [("route", route)]
  | nothingMatched line => [("line", line)]
  | routeMatched line route controller =>
    [("line", line), ("route", route), ("controller", controller)]
  | instanceCreated controller => [("controller", controller)]
  | exitRequested controller route => [("controller", controller), ("route", route)]
  | endOfInput => []

end Event
end Phrasebook
