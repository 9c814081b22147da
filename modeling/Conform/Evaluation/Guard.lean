import Conform.Presence
import Conform.Schema.Declaration
/-!
The two decisions that presence alone settles: whether a key is missing, and what its quantifier
says.
-/

namespace Conform

inductive KeyCheck where
  | missing
  | skip
  | proceed
  deriving DecidableEq, Repr

def KeyCheck.of : Requiredness → PresenceKind → KeyCheck
  | .required, .absent => missing
  | .optional, .absent => skip
  | _, _ => proceed

structure Guard where
  notFilled : Bool
  skipType : Bool
  skipAll : Bool
  deriving DecidableEq, Repr

namespace Guard

def pass : Guard := ⟨false, false, false⟩

def unfilled : Guard := ⟨true, true, false⟩

def nullAccepted : Guard := ⟨false, false, true⟩

def of : Quantifier → PresenceKind → Guard
  | .filled, .null | .filled, .blank => unfilled
  | .maybe, .null => nullAccepted
  | _, _ => pass

end Guard

end Conform
