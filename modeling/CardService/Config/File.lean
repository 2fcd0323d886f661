import CardService.Config.OfToml
import CardService.Config.Validity
import CardService.Toml.Reader

/-!
# CardService — configuration files

Where the file of a configuration is looked for, and how it becomes a configuration.
-/

namespace CardService.ClientConfig

/-- The most bytes of a file. -/
def maxFileBytes : Nat := 1024 * 1024

/-- The path of the file if none is given. -/
def defaultPath : String := "virtual-cards.toml"

/-- The valid configuration that a text holds. -/
def parse (text : List Char) : Except ConfigFault ClientConfig :=
  match (Toml.parse text).bind ofToml? with
  | none => .error .malformed
  | some config => (config.validate.mapError .invalid).map fun _ => config

/-- The path of the file: the given one, else that of the environment, else the default one. -/
def locate (path environment : Option String) : Except ConfigProblem String :=
  let path := (path.or environment).getD defaultPath
  match pathProblem? path with
  | some problem => .error problem
  | none => .ok path

/-- The configuration in the bytes of a file. -/
def ofBytes (bytes : List UInt8) : Except ConfigFault ClientConfig :=
  if maxFileBytes < bytes.length then .error (.invalid .fileTooLong)
  else
    match Utf8.decode bytes with
    | .error _ => .error (.invalid .fileNotUtf8)
    | .ok text => parse text

/-- Loads a configuration, with a way to read a file. -/
def load (read : String → Option (List UInt8)) (path environment : Option String) :
    Except ConfigFault ClientConfig := do
  let path ← (locate path environment).mapError .invalid
  match read path with
  | none => .error .unreachable
  | some bytes => ofBytes bytes

end CardService.ClientConfig
