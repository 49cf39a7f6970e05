/-! A failure as people see it: a message and the messages of its causes, the nearest cause
first. -/
namespace Phrasebook

structure Failure where
  message : String
  causes : List String := []
  deriving DecidableEq, Repr

namespace Failure

/-- The message followed by its causes. -/
def chain (f : Failure) : List String := f.message :: f.causes

end Failure
end Phrasebook
