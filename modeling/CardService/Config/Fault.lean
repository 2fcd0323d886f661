import CardService.Url.Basic

/-!
# CardService — faults of a configuration

Why a configuration cannot be used.
-/

namespace CardService

/-- What is wrong with a configuration that can be read, or with the path of its file. -/
inductive ConfigProblem where
  | endpointNotUrl (fault : Url.Fault)
  | endpointNotSecure
  | endpointScheme (scheme : String)
  | limitOutOfRange
  | auditPathBlank
  | auditPathTooLong
  | auditPathMissing
  | pathTooLong
  | pathPartTooLong
  | fileTooLong
  | fileNotUtf8
  deriving DecidableEq

/-- The most items of a page that the backend sends. -/
def maxPageLimit : UInt32 := 100

def ConfigProblem.message : ConfigProblem → String
  | .endpointNotUrl fault => "api.endpoint is not a url: " ++ fault.message
  | .endpointNotSecure => "api.endpoint must use https unless allow_http is set"
  | .endpointScheme scheme => "api.endpoint has unsupported scheme: " ++ scheme
  | .limitOutOfRange => "list.default_limit must be between 1 and " ++ toString maxPageLimit.toNat
  | .auditPathBlank => "audit.path must be non-empty"
  | .auditPathTooLong => "audit.path exceeds path length limits"
  | .auditPathMissing => "audit.path is required for file mode"
  | .pathTooLong => "config path exceeds max length"
  | .pathPartTooLong => "config path component too long"
  | .fileTooLong => "config file exceeds size limit"
  | .fileNotUtf8 => "config file must be utf-8"

/-- Why a configuration cannot be used: its file or its audit file cannot be opened, it is no
configuration at all, or it is not valid. -/
inductive ConfigFault where
  | unreachable
  | malformed
  | invalid (problem : ConfigProblem)
  deriving DecidableEq

def ConfigFault.kind : ConfigFault → String
  | .unreachable => "io"
  | .malformed => "parse"
  | .invalid _ => "invalid"

/-- The message of a problem. -/
def ConfigProblem.report (problem : ConfigProblem) : String := "invalid config: " ++ problem.message

end CardService
