import CardService.Json.Writer

/-!
# CardService — schemas of provider payloads

A payload is a JSON record that names its provider, its version and its type. A schema lists the
fields of one variant of payload; a registry holds the schemas of the known variants and a base
schema that every payload of the family satisfies. Resolving a record gives the payload of the
first variant that matches, or says why there is none.
-/

namespace CardService.Payload

/-! ## Field rules -/

/-- What a field holds. -/
inductive FieldKind where
  | string
  | number
  | literalString (value : String)
  | literalNumber (value : UInt32)
  deriving DecidableEq

namespace FieldKind

/-- A literal tells the variants apart. -/
def isDiscriminant : FieldKind → Bool
  | .literalString _ | .literalNumber _ => true
  | _ => false

/-- Whether a value is of the kind. A number is compared as a double. -/
def accepts : FieldKind → Json → Bool
  | .string, .string _ => true
  | .number, .number _ => true
  | .literalString expected, .string s => s == expected
  | .literalNumber expected, .number n => n.toBinary64.units == (expected.toNat * unitsPerOne : Nat)
  | _, _ => false

/-- The kind in words. -/
def describe : FieldKind → String
  | .string => "string"
  | .number => "number"
  | .literalString expected => "\"" ++ expected ++ "\""
  | .literalNumber expected => toString expected.toNat

end FieldKind

/-- A rule for the field of one name. An optional field may be absent. -/
structure FieldRule where
  name : String
  kind : FieldKind
  optional : Bool := false
  deriving DecidableEq

/-- Whether a record satisfies a rule. -/
def FieldRule.holds (rule : FieldRule) (record : Members) : Bool :=
  match record.get? rule.name with
  | none => rule.optional
  | some value => rule.kind.accepts value

/-- A rule that a record breaks, and the value it has there. -/
structure PathFailure where
  schema : String
  rule : FieldRule
  actual : Option Json

def PathFailure.message (e : PathFailure) : String :=
  "Invalid value " ++ e.actual.elim "undefined" Json.text ++ " supplied to : " ++ e.schema ++
    "/" ++ e.rule.name ++ ": " ++ e.rule.kind.describe

/-- What a schema of some name reports of a rule, if a record breaks it. -/
def FieldRule.failure? (rule : FieldRule) (schema : String) (record : Members) :
    Option PathFailure :=
  match record.get? rule.name with
  | none => if rule.optional then none else some ⟨schema, rule, none⟩
  | some value => if rule.kind.accepts value then none else some ⟨schema, rule, some value⟩

/-- The report of several broken rules. -/
def report (failures : List PathFailure) : String :=
  ", ".intercalate (failures.map PathFailure.message)

/-! ## Schemas -/

/-- The schema of one variant. -/
structure Schema where
  name : String
  fields : List FieldRule
  deriving DecidableEq

namespace Schema

/-- Whether a record is meant to be of this variant: there are discriminants, and it satisfies all
of them. -/
def claims (schema : Schema) (record : Members) : Bool :=
  let discriminants := schema.fields.filter fun rule => rule.kind.isDiscriminant
  !discriminants.isEmpty && discriminants.all fun rule => rule.holds record

/-- The rules that a record breaks, in order. -/
def check (schema : Schema) (record : Members) : List PathFailure :=
  schema.fields.filterMap fun rule => rule.failure? schema.name record

/-- Whether a record breaks no rule. -/
def isMatch (schema : Schema) (record : Members) : Bool := (schema.check record).isEmpty

end Schema

/-- The fields of every payload. -/
def baseFields : List FieldRule :=
  [{ name := "provider", kind := .string }, { name := "version", kind := .number },
    { name := "type", kind := .string }]

/-! ## Tags -/

/-- What a payload says it is. -/
structure Tag where
  provider : String
  version : Number
  kind : String
  deriving DecidableEq

namespace Tag

/-- The tag of a record whose three fields are of the right kinds. -/
def ofRecord? (record : Members) : Option Tag := do
  let provider ← record.string? "provider"
  let version ← (record.get? "version").bind Json.number?
  let kind ← record.string? "type"
  return { provider, version, kind }

/-- The text of a version: a whole double is written in full, without point and exponent. -/
def versionText : Number → List Char
  | .whole n _ => Decimal.ofWhole n
  | .float x =>
    match x.whole? with
    | some n => Decimal.signed x.negative (Decimal.digitsOf n.natAbs)
    | none => x.text

/-- The tag as a text. -/
def text (tag : Tag) : String :=
  tag.provider ++ ":" ++ String.ofList (versionText tag.version) ++ ":" ++ tag.kind

end Tag

/-! ## Registries -/

/-- A known variant: its schema, and how its payload is made of a record. -/
structure Variant (α : Type) where
  schema : Schema
  make : Members → Option α

/-- The known variants, in order of precedence, and the schema common to all. -/
structure Registry (α : Type) where
  variants : List (Variant α)
  base : Schema

/-- What a record is found to be. -/
inductive Resolution (α : Type) where
  | matched (payload : α)
  | unrecognized (tag : Tag)
  | mismatch (failures : List PathFailure)

namespace Registry

variable {α : Type}

/-- The payload of the first variant that gives one, and whether a variant claims the record. -/
def resolveVariants (record : Members) : Bool → List (Variant α) → Option α × Bool
  | claimed, [] => (none, claimed)
  | claimed, variant :: rest =>
    if variant.schema.isMatch record then
      match variant.make record with
      | some payload => (some payload, claimed)
      | none => resolveVariants record true rest
    else resolveVariants record (claimed || variant.schema.claims record) rest

/-- The rules that a record breaks: of each variant in order, and of the base schema last. -/
def failures (registry : Registry α) (record : Members) : List PathFailure :=
  (registry.variants.map (·.schema) ++ [registry.base]).flatMap fun schema => schema.check record

/-- Finds out what a record is. A record that no variant claims and that has the base fields is an
unknown variant. -/
def resolve (registry : Registry α) (record : Members) : Resolution α :=
  match resolveVariants record false registry.variants with
  | (some payload, _) => .matched payload
  | (none, claimed) =>
    if !claimed && registry.base.isMatch record then
      match Tag.ofRecord? record with
      | some tag => .unrecognized tag
      | none => .mismatch (registry.failures record)
    else .mismatch (registry.failures record)

end Registry

end CardService.Payload
