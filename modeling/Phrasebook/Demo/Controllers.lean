import Phrasebook.Demo.Ages
import Phrasebook.Demo.Stage
import Phrasebook.Service.Register

/-! The demo's controllers: help, greetings, passwords and ages. -/
namespace Phrasebook.Demo

/-- The one type that the demo adds. -/
inductive HostType where
  | ages
  deriving DecidableEq, Repr

instance : HostTypes HostType where
  Carrier | .ages => Ages
  fullName | .ages => "Ages".toList

/-- An instance of a controller. Only the ages controller announces itself. -/
structure Presence where
  announced : Bool
  deriving DecidableEq, Repr

abbrev DemoHandler := Handler HostType Presence Stage
abbrev DemoController := Controller HostType Presence Stage
abbrev DemoService := Service HostType Presence Stage

def agesType : ValueType HostType := .host .ages
def textType : ValueType HostType := .builtin .text

def agesParser : Parser HostType := ⟨agesType, fun _ raw => .ok (Ages.read raw)⟩

def givenController (typeName : String) : DemoController :=
  .ofSource typeName.toList (.given ⟨false⟩)

/-- A reply with no wish to exit. -/
def answer (state : Presence) (stage : Stage) (result : Except Failure Json) :
    Reply Presence Stage Json := ⟨state, stage, false, result⟩

def listingLines (l : Listing) : List String :=
  l.route.string :: match l.description? with
    | some description => ["    " ++ description.string]
    | none => []

def showCommands : DemoHandler := .answering fun context _ state stage =>
  answer state
    (stage.printAll ("Available commands:" :: context.listings.flatMap listingLines)) (.ok .null)

def helpRoute (template : String) : Route HostType :=
  { template := template.toList
    description? := some "Shows all available commands".toList }

def help : DemoController :=
  (givenController "HelpController").bind
    [helpRoute "show commands", helpRoute "help", helpRoute "/?"] showCommands

def nameParam : Param HostType := ⟨"name".toList, .builtin .text⟩

def hello : DemoHandler := .answering fun _ arguments state stage =>
  match arguments.required "name".toList textType with
  | .error e => answer state stage (.error e)
  | .ok name =>
    answer state (stage.print s!"Hello there, {Text.string name}!") (.ok .null)

def bye : DemoHandler := .answering fun _ arguments state stage =>
  match arguments.required "name".toList textType with
  | .error e => answer state stage (.error e)
  | .ok name =>
    { answer state
        (stage.print s!"Goodbye, {Text.string name}. I'm sorry you have to leave.")
        (.ok .null) with
      exitRequested := true }

/-- The second route would read `Say Say goodbye` with the prefix. -/
def greeting : DemoController :=
  ({ givenController "GreetingController" with
      lead := "Say ".toList, caseRule := .exact }
    |>.bind [{ template := "hello to \x7bname\x7d.".toList, params := [nameParam] }] hello)
    |>.bind
      [{ template := "Say goodbye to \x7bname\x7d, please.".toList
         usesPrefix := false
         caseRule? := some .ignoring
         params := [nameParam] }] bye

def passwordPrompt : String := "Password: "

/-- A handler that reads a password, shows something of it and answers with something. -/
def withSecret (shown : Text → String) (result : Text → Json) : DemoHandler :=
  .answering fun _ _ state stage =>
    match stage.readSecret passwordPrompt with
    | (.error e, rest) => answer state rest (.error e)
    | (.ok password, rest) => answer state (rest.print (shown password)) (.ok (result password))

def showPassword : DemoHandler :=
  withSecret (fun password => s!"Your password is: {password.string}") .text

def hidePassword : DemoHandler :=
  withSecret (fun password => s!"Your secure password length: {password.length}")
    fun password => .integer password.length

def password : DemoController :=
  ((givenController "PasswordController").bind
    [{ template := "read and show my password".toList }] showPassword).bind
    [{ template := "read but hide my password".toList }] hidePassword

def announcement : String :=
  "[A new instance of the factory-built AgeController has been created.]"

def currentLine (entry : Text × Text) : String :=
  s!"{entry.1.string} is {entry.2.string} years old."

def pastLine (entry : Text × Text) : String :=
  s!"{entry.1.string} was {entry.2.string} years old."

def previousLines (lastResult? : Option Json) : List String :=
  match lastResult?.bind Ages.ofJson? with
  | some past => "Previous:" :: past.map pastLine
  | none => []

def setAges : DemoHandler := .answering fun context arguments state stage =>
  let ages : Ages := (arguments.get? "collection".toList agesType).getD []
  let announcing := if state.announced then [] else [announcement]
  let shown := announcing ++ "Here it is:" :: ages.map currentLine ++
    previousLines context.lastResult?
  answer ⟨true⟩ (stage.printAll shown) (.ok ages.toJson)

/-- A new instance has yet to announce itself. -/
def newcomer (stage : Stage) : Presence × Stage := (⟨false⟩, stage)

/-- Built anew for every command. -/
def ages : DemoController :=
  { Controller.ofSource "AgeController".toList (.factory newcomer) with perCommand := true }
    |>.bind
      [{ template := "Set ages: \x7bcollection\x7d".toList
         params := [⟨"collection".toList, .required agesType⟩] }] setAges

/-- Registers controllers until one is refused. -/
def registerEach (s : DemoService) : List DemoController →
    DemoService × Except RegistrationError Unit
  | [] => (s, .ok ())
  | c :: more =>
    let r := s.register c
    match r.result with
    | .error e => (r.service, .error e)
    | .ok () => registerEach r.service more

/-- Adds the demo's parser and controllers, help first. -/
def registerAll (s : DemoService) : DemoService × Except RegistrationError Unit :=
  let r := s.addParser agesParser
  match r.result with
  | .error e => (r.service, .error e)
  | .ok () => registerEach r.service [help, greeting, password, ages]

def service (secrets : Secrets) : DemoService := (registerAll (.new ⟨[], secrets⟩)).1

end Phrasebook.Demo
