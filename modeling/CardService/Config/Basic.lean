import CardService.Keyword

/-!
# CardService — configuration of the client

Where the backend is, how long pages are, and where audit events go.
-/

namespace CardService

/-- Where the backend is. -/
structure ApiConfig where
  endpoint : Option String := none
  allowHttp : Bool := false
  deriving DecidableEq

/-- How listings are paged. -/
structure ListConfig where
  defaultLimit : UInt32 := 10
  deriving DecidableEq

/-- Where audit events go. -/
inductive AuditMode where
  | stderr
  | file
  | none
  deriving DecidableEq

instance : Keyword AuditMode where
  all := [.stderr, .file, .none]
  name
    | .stderr => "stderr"
    | .file => "file"
    | .none => "none"

/-- How calls are audited. -/
structure AuditConfig where
  mode : AuditMode := .none
  path : Option String := none
  deriving DecidableEq

/-- The configuration of a client. -/
structure ClientConfig where
  api : ApiConfig := {}
  list : ListConfig := {}
  audit : AuditConfig := {}
  deriving DecidableEq

end CardService
