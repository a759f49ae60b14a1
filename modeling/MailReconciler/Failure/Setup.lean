/-
Failures of the provider's own: configuration, documents, and broken invariants.
-/
import MailReconciler.Failure.Report

namespace MailReconciler

/-- A failure that belongs to no remote call. -/
inductive SetupError where
  /-- A setting is missing or wrong. -/
  | config (field : Option String) (message : String)
  /-- A document cannot be read or written. -/
  | document (format : Option String) (message : String)
  /-- Something happened that never should. -/
  | internal (message : String)
deriving Repr, DecidableEq

namespace SetupError

/-- A wrong setting that has a name. -/
def setting (field message : String) : SetupError := .config (some field) message

/-- The text of a setup error. -/
def message : SetupError → String
  | .config none m => "Configuration error: " ++ m
  | .config (some field) m => "Configuration error in field '" ++ field ++ "': " ++ m
  | .document none m => "Serialization error: " ++ m
  | .document (some format) m => "Serialization error (" ++ format ++ "): " ++ m
  | .internal m => "Internal error: " ++ m

/-- Setup errors are never worth a retry; broken invariants are critical. -/
def assess : SetupError → Assessment
  | .internal _ => ⟨false, .critical⟩
  | _ => ⟨false, .error⟩

end SetupError
end MailReconciler
