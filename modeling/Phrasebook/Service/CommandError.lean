import Phrasebook.Convert.Registry

/-! What can go wrong when a line is executed. -/
namespace Phrasebook

/-- Each failed execution keeps the line as it was given. -/
inductive CommandError where
  | emptyInput (line? : Option Text)
  | unknownCommand (line : Text)
  | conversion (line : Text) (error : ConvertError)
  | handler (line : Text) (failure : Failure)
  deriving DecidableEq, Repr

namespace CommandError

def kindName : CommandError → String
  | emptyInput _ => "EmptyInput"
  | unknownCommand _ => "UnknownCommand"
  | conversion _ (.noParser _ _) => "NoConverter"
  | conversion _ (.failed _ _ _) => "ArgumentConversion"
  | handler _ _ => "HandlerExecution"

def message : CommandError → String
  | emptyInput _ => "no command line specified"
  | unknownCommand _ => "no route matched the input"
  | conversion _ error => error.message
  | handler _ _ => "an error occurred while executing the command handler"

def line? : CommandError → Option Text
  | emptyInput line? => line?
  | unknownCommand line => some line
  | conversion line _ => some line
  | handler line _ => some line

def causes : CommandError → List String
  | conversion _ error => error.message :: error.causes
  | handler _ failure => failure.chain
  | _ => []

end CommandError
end Phrasebook
