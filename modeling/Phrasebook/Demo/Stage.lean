import Phrasebook.Failure
import Phrasebook.Text.Basic

/-! The world of the demo's handlers: what has been written so far, and where passwords come
from. -/
namespace Phrasebook.Demo

inductive Written where
  | line (text : String)
  /-- Text that no line end follows. -/
  | prompt (text : String)
  deriving DecidableEq, Repr

def Written.shown : Written → String
  | .line text => text ++ "\n"
  | .prompt text => text

def Written.line? : Written → Option String
  | .line text => some text
  | .prompt _ => none

inductive Secrets where
  /-- Passwords known beforehand, handed out in order without a prompt. -/
  | scripted (passwords : List Text)
  /-- A terminal that shows the prompt and does not echo the answer. What it answers, time after
  time, is up to the terminal. -/
  | typed (answers : Nat → Except Failure Text)

structure Stage where
  output : List Written
  secrets : Secrets

namespace Stage

def print (s : Stage) (text : String) : Stage := { s with output := s.output ++ [.line text] }

def printAll (s : Stage) (texts : List String) : Stage :=
  { s with output := s.output ++ texts.map .line }

def readSecret (s : Stage) (prompt : String) : Except Failure Text × Stage :=
  match s.secrets with
  | .scripted [] => (.error ⟨"no secret available", []⟩, s)
  | .scripted (password :: more) => (.ok password, { s with secrets := .scripted more })
  | .typed answers =>
    (answers 0, ⟨s.output ++ [.prompt prompt], .typed fun time => answers (time + 1)⟩)

/-- The recorded lines. -/
def lines (s : Stage) : List String := s.output.filterMap Written.line?

/-- All that was written, in one piece. -/
def transcript (s : Stage) : String := String.join (s.output.map Written.shown)

end Stage
end Phrasebook.Demo
