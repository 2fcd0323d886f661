import CardService.Json.Reader
import CardService.Keyword
import CardService.Record.Mismatch
import CardService.Payload.Schema
import CardService.Text.Base64

/-!
# CardService — envelopes of provider payloads

A payload travels as JSON text in Base64. Three pipelines open such envelopes; a failure names the
pipeline and the stage at which the envelope was refused.
-/

namespace CardService.Payload

/-! ## Failures -/

/-- What an envelope is opened for. -/
inductive Pipeline where
  | provisioning
  | interaction
  | clientConfiguration
  deriving DecidableEq

instance : Keyword Pipeline where
  all := [.provisioning, .interaction, .clientConfiguration]
  name
    | .provisioning => "provisioning"
    | .interaction => "interaction"
    | .clientConfiguration => "client_configuration"

/-- The words in front of every failure of a pipeline. -/
def Pipeline.banner : Pipeline → String
  | .provisioning => "provisional funding source provisioning data cannot be decoded"
  | .interaction => "error info cannot be decoded as funding source interaction data"
  | .clientConfiguration => "funding source client configuration cannot be decoded"

/-- Why decoded bytes hold no JSON. -/
inductive JsonFault where
  | encoding (fault : Utf8.Fault)
  | syntaxError (error : Json.SyntaxError)

def JsonFault.message : JsonFault → String
  | .encoding fault => fault.message
  | .syntaxError error => error.message

/-- Why an envelope is refused. -/
inductive Refusal where
  | missingData
  | notBase64 (raw : String) (fault : Base64.Fault)
  | notJson (decoded : String) (fault : JsonFault)
  | notRecord (value : Json)
  | noMatch (record : Members) (failures : List PathFailure)
  | notConfiguration (record : Members) (mismatch : Record.Mismatch)
  | unrecognized (tag : Tag)

/-- How far opening an envelope gets. -/
inductive Stage where
  | precheck
  | base64
  | json
  | shape
  | noMatch
  | unrecognizedVariant
  deriving DecidableEq

def Stage.name : Stage → String
  | .precheck => "precheck"
  | .base64 => "base64"
  | .json => "json"
  | .shape => "shape"
  | .noMatch => "no-match"
  | .unrecognizedVariant => "unrecognized-variant"

def Refusal.stage : Refusal → Stage
  | .missingData => .precheck
  | .notBase64 .. => .base64
  | .notJson .. => .json
  | .notRecord _ => .shape
  | .noMatch .. | .notConfiguration .. => .noMatch
  | .unrecognized _ => .unrecognizedVariant

/-- A refusal, and the pipeline it happened in. -/
structure DecodeError where
  pipeline : Pipeline
  refusal : Refusal

namespace DecodeError

def stage (e : DecodeError) : Stage := e.refusal.stage

/-- What is said of a value that is no record. -/
def notRecordText : Pipeline → String
  | .interaction => "Fully decoded interaction data is not a JSON record: "
  | _ => "Decoded data is not a JSON record: "

/-- What is said of a record that is no known payload. Only provisioning data shows the report. -/
def noMatchText (pipeline : Pipeline) (record : Members) (failures : List PathFailure) : String :=
  match pipeline with
  | .interaction =>
    "JSON record does not match a recognized provisional funding source interaction data " ++
      "format: " ++ (Json.object record).text
  | _ =>
    "Decoded JSON record is not a ProvisionalFundingSourceProvisioningData: " ++
      (Json.object record).text ++ ": " ++ report failures

/-- What is said of a payload of an unknown variant. -/
def unrecognizedText : Pipeline → String
  | .interaction => "Unrecognized interaction data: "
  | _ => "Unrecognized funding source type: "

/-- The failure without its banner. -/
def detail (e : DecodeError) : String :=
  match e.refusal with
  | .missingData => "error info does not contain a JSON record with provisioningData"
  | .notBase64 raw fault => "Base64 decoding failed: " ++ raw ++ ": " ++ fault.message
  | .notJson decoded fault => "JSON parsing failed: " ++ decoded ++ ": " ++ fault.message
  | .notRecord value => notRecordText e.pipeline ++ value.text
  | .noMatch record failures => noMatchText e.pipeline record failures
  | .notConfiguration record mismatch =>
    "Decoded JSON record is not a FundingSourceClientConfiguration: " ++
      (Json.object record).text ++ ": " ++ mismatch.message
  | .unrecognized tag => unrecognizedText e.pipeline ++ tag.text

def message (e : DecodeError) : String := e.pipeline.banner ++ ": " ++ e.detail

end DecodeError

/-! ## Opening and closing -/

/-- The envelope of a value. -/
def encodeEnvelope (json : Json) : String := String.ofList (Base64.encode (Utf8.encode json.write))

/-- The value that decoded bytes hold. -/
def jsonOfBytes (bytes : List UInt8) : Except Refusal Json :=
  match Utf8.decode bytes with
  | .error fault => .error (.notJson (String.ofList (Utf8.decodeLossy bytes)) (.encoding fault))
  | .ok text =>
    match Json.parse (String.ofList text) with
    | .error fault => .error (.notJson (String.ofList text) (.syntaxError fault))
    | .ok json => .ok json

/-- The value in an envelope. -/
def decodeEnvelope (pipeline : Pipeline) (raw : String) : Except DecodeError Json :=
  let opened : Except Refusal Json :=
    match Base64.decode (Utf8.encode raw.toList) with
    | .error fault => .error (.notBase64 raw fault)
    | .ok bytes => jsonOfBytes bytes
  opened.mapError fun refusal => ⟨pipeline, refusal⟩

/-- The members of a value that has to be a record. -/
def recordOf (pipeline : Pipeline) (json : Json) : Except DecodeError Members :=
  match json with
  | .object members => .ok members
  | value => .error ⟨pipeline, .notRecord value⟩

/-- The record in an envelope. -/
def decodeRecord (pipeline : Pipeline) (raw : String) : Except DecodeError Members := do
  recordOf pipeline (← decodeEnvelope pipeline raw)

end CardService.Payload
