import CardService.Config.Basic
import CardService.Toml.Value

/-!
# CardService — configuration, read from TOML

A configuration is a table of sections, and a section a table of settings. What is left out keeps
its default, and nothing else may be there. A section may also be an array of its first settings.
-/

namespace CardService.Toml

/-! ## Settings -/

/-- The text of a value. -/
def Value.string? : Value → Option String
  | .string s => some s
  | _ => none

/-- The truth value of a value. -/
def Value.boolean? : Value → Option Bool
  | .scalar (.boolean b) => some b
  | _ => none

/-- The number of a value, if it has 32 bits. -/
def Value.u32? : Value → Option UInt32
  | .scalar (.integer n) => if 0 ≤ n ∧ n < 0x100000000 then some n.toNat.toUInt32 else none
  | _ => none

/-- The choice that a value makes. A choice that takes nothing may be given an empty collection. -/
def Value.keyword? {α : Type} [Keyword α] : Value → Option α
  | .string name => Keyword.parse? name
  | .table _ [(name, .array [])] => Keyword.parse? name
  | .table _ [(name, .table _ [])] => Keyword.parse? name
  | _ => none

/-! ## Sections -/

/-- A setting: its key, and how a value of it changes the section. -/
structure Setting (σ : Type) where
  key : String
  set : Value → σ → Option σ

/-- Changes a section by the members of its table. -/
def settle {σ : Type} (settings : List (Setting σ)) (start : σ) (table : Table) : Option σ :=
  table.foldlM (fun s (key, value) => do (← settings.find? (·.key = key)).set value s) start

/-- Changes a section by its table, or by the values of its first settings. -/
def Value.settle {σ : Type} (settings : List (Setting σ)) (start : σ) : Value → Option σ
  | .table _ members => Toml.settle settings start members
  | .array items => inOrder items
  | .tables members => inOrder (members.reverse.map (.table .header))
  | _ => none
where
  inOrder (items : List Value) : Option σ :=
    (settings.zip items).foldlM (fun s (setting, value) => setting.set value s) start

end CardService.Toml

namespace CardService

open Toml (Setting Value)

def ApiConfig.settings : List (Setting ApiConfig) := [
  ⟨"endpoint", fun value config => do return { config with endpoint := some (← value.string?) }⟩,
  ⟨"allow_http", fun value config => do return { config with allowHttp := ← value.boolean? }⟩]

def ListConfig.settings : List (Setting ListConfig) := [
  ⟨"default_limit", fun value config => do return { config with defaultLimit := ← value.u32? }⟩]

def AuditConfig.settings : List (Setting AuditConfig) := [
  ⟨"mode", fun value config => do return { config with mode := ← value.keyword? }⟩,
  ⟨"path", fun value config => do return { config with path := some (← value.string?) }⟩]

def ClientConfig.settings : List (Setting ClientConfig) := [
  ⟨"api", fun value config => do
    return { config with api := ← value.settle ApiConfig.settings {} }⟩,
  ⟨"list", fun value config => do
    return { config with list := ← value.settle ListConfig.settings {} }⟩,
  ⟨"audit", fun value config => do
    return { config with audit := ← value.settle AuditConfig.settings {} }⟩]

/-- The configuration in a table. -/
def ClientConfig.ofToml? (table : Toml.Table) : Option ClientConfig :=
  Toml.settle ClientConfig.settings {} table

end CardService
