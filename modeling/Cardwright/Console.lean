import Cardwright.Engine.Setup
import Cardwright.Number.Decimal

/-!
# Command-line tools: what they share

A tool is a function from its arguments and files to an outcome: an exit code and what was written
to the two output streams.
-/

namespace Cardwright

/-- How the run of a tool ended. -/
structure Outcome where
  code : UInt32
  output : Text
  errors : Text
deriving DecidableEq, Repr

namespace Outcome

/-- A run that ended well. -/
def success (output : Text) : Outcome := ⟨0, output, []⟩

/-- Put output in front of what a run wrote. -/
def prepend (output : Text) (o : Outcome) : Outcome := { o with output := output ++ o.output }

/-- A run that ended because no engine could be set up. -/
def ofFault (fault : SetupFault) : Outcome := ⟨1, [], "ERROR: " ++ fault.message ++ "\n"⟩

/-- A run that ended because cards could not be made, such as a batch that there is no room for. -/
def stalled : Outcome := ⟨101, [], []⟩

end Outcome

namespace Console

/-- A text as a line. -/
def line (t : Text) : Text := t ++ ['\n']

/-- An unsigned number of 64 bits, with an optional plus sign. -/
def unsigned? (t : Text) : Option Nat :=
  let digits := match t with
    | '+' :: t => t
    | t => t
  (Decimal.natOfDigits? 10 digits).filter (· < UInt64.size)

end Console

end Cardwright
