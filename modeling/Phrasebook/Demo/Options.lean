import Phrasebook.Demo.Modes

/-! Reading the demo's options. Words are read from the left: an option's value is attached to it or
is the next word, and the first word that asks for the version or makes no sense decides. Two dashes
end the options, and nothing may come after them. This belongs to the outer layer: the demo gets its
options from a library for command lines, whose part is played here, and the texts for help and for
words that make no sense are not that library's. -/
namespace Phrasebook.Demo

inductive Asked where
  | version
  | help
  | run (options : Options)
  | invalid (message : String)
  deriving DecidableEq, Repr

namespace Asked

def usage : String := "Usage: lineroute-demo [OPTIONS]"

inductive OptionName where
  | prompt | verbose | command | version | help
  deriving DecidableEq, Repr

def OptionName.takesValue : OptionName → Bool
  | .prompt | .command => true
  | _ => false

def long? (name : Text) : Option OptionName :=
  if name = "prompt".toList then some .prompt
  else if name = "verbose".toList then some .verbose
  else if name = "command".toList then some .command
  else if name = "version".toList then some .version
  else if name = "help".toList then some .help
  else none

def short? (c : Char) : Option OptionName :=
  match c with
  | 'v' => some .verbose
  | 'c' => some .command
  | 'V' => some .version
  | 'h' => some .help
  | _ => none

/-- One argument as it is written: options with the value attached, if any. -/
inductive Word where
  | option (name : OptionName) (attached? : Option Text)
  | invalid
  deriving DecidableEq, Repr

/-- Letters after a single dash. A letter that takes a value takes the rest of the word. -/
def shortWords : Text → List Word
  | [] => []
  | c :: rest =>
    match short? c with
    | none => [.invalid]
    | some name =>
      if name.takesValue then
        match rest with
        | [] => [.option name none]
        | '=' :: value => [.option name (some value)]
        | value => [.option name (some value)]
      else .option name none :: shortWords rest

def words : Text → List Word
  | '-' :: '-' :: long =>
    match Text.cutAt? '=' long with
    | some (name, value) =>
      match long? name with
      | some option => if option.takesValue then [.option option (some value)] else [.invalid]
      | none => [.invalid]
    | none =>
      match long? long with
      | some option => [.option option none]
      | none => [.invalid]
  | '-' :: c :: letters => shortWords (c :: letters)
  | _ => [.invalid]

/-- A single dash is a value; any other word that starts with a dash is not. -/
def isValue : Text → Bool
  | '-' :: _ :: _ => false
  | _ => true

def withValue (o : Options) (name : OptionName) (value : Text) : Except Asked Options :=
  match name, o.prompt? with
  | .command, _ => .ok { o with commands := o.commands ++ [value] }
  | _, none => .ok { o with prompt? := some value }
  | _, some _ => .error (.invalid "the argument '--prompt <PROMPT>' cannot be used multiple times")

def flag (o : Options) : OptionName → Except Asked Options
  | .version => .error .version
  | .help => .error .help
  | .verbose =>
    if o.verbose then .error (.invalid "the argument '--verbose' cannot be used multiple times")
    else .ok { o with verbose := true }
  | _ => .error (.invalid "a value is required")

def unexpected : Asked := .invalid "unexpected argument found"

/-- Applies words; the last one may leave an option that still waits for its value. -/
def apply (o : Options) : List Word → Except Asked (Options × Option OptionName)
  | [] => .ok (o, none)
  | .invalid :: _ => .error unexpected
  | .option name (some value) :: more =>
    match withValue o name value with
    | .error e => .error e
    | .ok next => apply next more
  | .option name none :: more =>
    if name.takesValue then .ok (o, some name)
    else match flag o name with
      | .error e => .error e
      | .ok next => apply next more

def endOfOptions : Text := "--".toList

/-- `waiting` is an option whose value must come next. -/
def readFrom (o : Options) : Option OptionName → List Text → Asked
  | none, [] => .run o
  | some _, [] => .invalid "a value is required"
  | some name, word :: more =>
    if isValue word then
      match withValue o name word with
      | .error e => e
      | .ok next => readFrom next none more
    else .invalid "a value is required"
  | none, word :: more =>
    if word = endOfOptions then if more = [] then .run o else unexpected
    else match apply o (words word) with
      | .error e => e
      | .ok (next, waiting) => readFrom next waiting more

def ofArguments (arguments : List Text) : Asked := readFrom {} none arguments

end Asked

end Phrasebook.Demo
