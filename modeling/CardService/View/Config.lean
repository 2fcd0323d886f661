import CardService.Config.Basic
import CardService.View.Basic

/-!
# CardService — views of configurations

A configuration is shown with its defaults filled in.
-/

namespace CardService.View

instance : View AuditMode := ⟨fun mode => .string (Keyword.name mode)⟩

instance : View ApiConfig where
  view c := .object [member "endpoint" c.endpoint, member "allow_http" c.allowHttp]

instance : View ListConfig where
  view c := .object [member "default_limit" c.defaultLimit]

instance : View AuditConfig where
  view c := .object [member "mode" c.mode, member "path" c.path]

instance : View ClientConfig where
  view c := .object [member "api" c.api, member "list" c.list, member "audit" c.audit]

end CardService.View
