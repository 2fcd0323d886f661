import CardService.Payload.Envelope
import CardService.Payload.Provider
import CardService.Record.OfJson

/-!
# CardService — client configuration

Which providers a client may set up funding sources with, and the keys for them. It travels in an
envelope too.
-/

namespace CardService.Payload

open Record (Shape Layout)

/-- A provider that funding sources of one type may be set up with. -/
structure ProviderConfiguration where
  provider : String
  version : UInt32
  fundingSourceType : FundingSourceType
  apiKey : String
  deriving DecidableEq

namespace ProviderConfiguration

/-- The layout of an entry; the type of funding source may be left out. -/
def shape : Shape ProviderConfiguration :=
  .record "FundingSourceClientConfiguration"
    (.field "type" none .text <|
      .field "version" none .natural32 <|
      .field "fundingSourceType" (some .creditCard) (.keyword Keyword.all Keyword.name) <|
      .field "apiKey" none .text .done)
    (fun (provider, version, fundingSourceType, apiKey, ()) =>
      { provider, version, fundingSourceType, apiKey })
    (fun c => (c.provider, c.version, c.fundingSourceType, c.apiKey, ()))

/-- The record of an entry. -/
def toRecord (c : ProviderConfiguration) : Members :=
  [("type", .string c.provider), ("version", .ofUInt32 c.version),
    ("fundingSourceType", .string (Keyword.name c.fundingSourceType)), ("apiKey", .string c.apiKey)]

end ProviderConfiguration

/-- The key of the entries. -/
def entriesKey : String := "fundingSourceTypes"

/-- The layout of a client configuration. -/
def clientConfigurationShape : Shape (List ProviderConfiguration) :=
  .record "ClientConfigurationRecord"
    (.field entriesKey none (.list ProviderConfiguration.shape) .done)
    (fun (entries, ()) => entries)
    (fun entries => (entries, ()))

/-- The envelope of a client configuration. -/
def encodeClientConfiguration (entries : List ProviderConfiguration) : String :=
  encodeEnvelope (.object [(entriesKey, .array (entries.map fun c => .object c.toRecord))])

/-- The client configuration in an envelope. -/
def decodeClientConfiguration (raw : String) : Except DecodeError (List ProviderConfiguration) := do
  let record ← decodeRecord .clientConfiguration raw
  (clientConfigurationShape.ofJson (.object record)).mapError fun mismatch =>
    ⟨.clientConfiguration, .notConfiguration record mismatch⟩

end CardService.Payload
