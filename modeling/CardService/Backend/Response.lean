import CardService.Record.OfJson

/-!
# CardService — responses of the backend

The backend answers a request with data, errors, or both.
-/

namespace CardService.Backend

open Record (Shape Layout)

/-- An error that the backend reports. -/
structure ErrorRecord where
  message : String
  errorType : Option String
  errorInfo : Option Json

def ErrorRecord.shape : Shape ErrorRecord :=
  .record "GraphQlError"
    (.field "message" none .text <|
      .field "errorType" (some none) (.optional .text) <|
      .field "errorInfo" (some none) (.optional .anything) .done)
    (fun (message, errorType, errorInfo, ()) => { message, errorType, errorInfo })
    (fun e => (e.message, e.errorType, e.errorInfo, ()))

/-- An answer of the backend. -/
structure Response where
  data : Option Json
  errors : List ErrorRecord

def Response.shape : Shape Response :=
  .record "GraphQlResponse"
    (.field "data" (some none) (.optional .anything) <|
      .field "errors" (some []) (.list ErrorRecord.shape) .done)
    (fun (data, errors, ()) => { data, errors })
    (fun r => (r.data, r.errors, ()))

end CardService.Backend
