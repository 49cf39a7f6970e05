import Phrasebook.Demo.Modes
import Phrasebook.Demo.Options

/-! The demo as a command line program: its outer layer, around the modes. Here the arguments are
read, the service is set up at a terminal where nobody sits, and requests that are not for running
are answered. -/
namespace Phrasebook.Demo

/-- Nobody sits at the terminal: every answer is empty. -/
def Secrets.unattended : Secrets := .typed fun _ => .ok []

/-- The demo, from its arguments and its standard input. What it logs is left out, as
`Finished.stderr` says. -/
def run (arguments : List Text) (input : Input.Bytes) : Option Finished :=
  match Asked.ofArguments arguments with
  | .version => some ⟨0, linesText ["lineroute-demo 0.1.0"], ""⟩
  | .help => some ⟨0, linesText [Asked.usage], ""⟩
  | .invalid message => some ⟨2, "", linesText [s!"error: {message}", "", Asked.usage]⟩
  | .run options => runOptions .unattended options input

end Phrasebook.Demo
