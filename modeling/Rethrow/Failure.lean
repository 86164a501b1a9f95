import Rethrow.Folder
import Rethrow.Java.Fault
import Rethrow.Source
import Rethrow.Wrapper.Wrap

/-!
# Failures of a unit

A unit can fail at any stage of its way: its source is not found, cannot be read or is
malformed, a constructor is refused, or the result cannot be written. A failure names the
unit and the reason, and a reason that has a cause of its own is reported with it.
-/

namespace Rethrow

/-- Why a unit failed. -/
inductive Reason where
  | sourceMissing
  | unreadable (location : Path) (cause : DiskError)
  | malformed (fault : Java.Fault)
  | refused (refusal : DelegationRefusal)
  | unwritable (failure : WriteFailure)

/-- The failure of a unit. -/
structure Failure where
  unit : UnitId
  reason : Reason

namespace Failure

/-- How a failure is reported, without its cause. -/
def message (failure : Failure) : Text :=
  let unit := failure.unit.text
  match failure.reason with
  | .sourceMissing => "cannot find source for ".toList ++ unit
  | .unreadable location _ =>
    "cannot read source for ".toList ++ unit ++ " from ".toList ++ location.text
  | .malformed _ => "cannot parse source ".toList ++ unit
  | .refused _ => "cannot transform ".toList ++ unit
  | .unwritable write => write.message ++ " for ".toList ++ unit

/-- How the cause of a failure is reported. -/
def cause? (failure : Failure) : Option Text :=
  match failure.reason with
  | .sourceMissing => none
  | .unreadable _ cause => some cause.message
  | .malformed fault => some fault.message
  | .refused refusal => some refusal.message
  | .unwritable write => some write.cause.message

/-- A failure with its cause. -/
def report (failure : Failure) : Text :=
  match failure.cause? with
  | some cause => failure.message ++ ": ".toList ++ cause
  | none => failure.message

end Failure

end Rethrow
