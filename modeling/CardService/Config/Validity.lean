import CardService.Config.Basic
import CardService.Config.Fault
import CardService.Text.Split

/-!
# CardService — valid configurations

The endpoint is a URL that may be used, pages have a length that the backend accepts, and the audit
file has a path that can be one.
-/

namespace CardService

/-! ## Paths -/

/-- The most bytes of a path. -/
def maxPathBytes : Nat := 4096

/-- The most bytes of a part of a path between slashes. -/
def maxPathPartBytes : Nat := 255

/-- The parts of a path, as bytes. -/
def pathParts (path : String) : List (List UInt8) :=
  (Text.splitBy '/' path.toList).map Utf8.encode

/-- Whether a path is too long, or one of its parts. -/
def pathProblem? (path : String) : Option ConfigProblem :=
  if maxPathBytes < path.utf8ByteSize then some .pathTooLong
  else if (pathParts path).any (maxPathPartBytes < ·.length) then some .pathPartTooLong
  else none

/-! ## Sections -/

/-- Checks that the endpoint is a URL of a scheme that may be used. -/
def ApiConfig.validate (config : ApiConfig) : Except ConfigProblem Unit :=
  match config.endpoint with
  | none => .ok ()
  | some endpoint =>
    match Url.schemeOf (Text.trim endpoint) with
    | .error fault => .error (.endpointNotUrl fault)
    | .ok "https" => .ok ()
    | .ok "http" => if config.allowHttp then .ok () else .error .endpointNotSecure
    | .ok scheme => .error (.endpointScheme scheme)

/-- Checks that pages have a length that the backend accepts. -/
def ListConfig.validate (config : ListConfig) : Except ConfigProblem Unit :=
  if 1 ≤ config.defaultLimit ∧ config.defaultLimit ≤ maxPageLimit then .ok ()
  else .error .limitOutOfRange

/-- Checks the path of the audit file, also where it is not used. -/
def AuditConfig.validatePath (path : String) : Except ConfigProblem Unit :=
  let path := Text.trim path
  if path.isEmpty then .error .auditPathBlank
  else if (pathProblem? path).isSome then .error .auditPathTooLong
  else .ok ()

/-- Checks that there is a path where one is needed. -/
def AuditConfig.validate (config : AuditConfig) : Except ConfigProblem Unit :=
  match config.path with
  | some path => AuditConfig.validatePath path
  | none => if config.mode = .file then .error .auditPathMissing else .ok ()

/-- Checks a configuration section by section. -/
def ClientConfig.validate (config : ClientConfig) : Except ConfigProblem Unit := do
  config.api.validate
  config.list.validate
  config.audit.validate

/-! ## Audit events -/

/-- Where audit events are written. -/
inductive AuditTarget where
  | nowhere
  | stderr
  | file (path : String)
  deriving DecidableEq

/-- Where a configuration says that audit events are written. -/
def AuditConfig.target (config : AuditConfig) : Except ConfigProblem AuditTarget :=
  match config.mode, config.path with
  | .none, _ => .ok .nowhere
  | .stderr, _ => .ok .stderr
  | .file, some path => .ok (.file (Text.trim path))
  | .file, none => .error .auditPathMissing

/-- Opens what audit events are written to, with a way to open a file. Nothing else has to be
opened. -/
def AuditConfig.openTarget {World : Type} (opens : String → StateM World Bool)
    (config : AuditConfig) : StateM World (Except ConfigFault AuditTarget) :=
  match config.target with
  | .error problem => return .error (.invalid problem)
  | .ok (.file path) => do
    return if ← opens path then .ok (.file path) else .error .unreachable
  | .ok target => return .ok target

end CardService
