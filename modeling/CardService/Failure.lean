import CardService.Backend.Response
import CardService.Number.Decimal
import CardService.Payload.Interaction

/-!
# CardService — failures

Everything that an operation of the client can fail with. Each failure is a cause; its kind and its
message are functions of it. Errors that the backend reports by name are listed in two tables.
-/

namespace CardService

/-! ## Collaborators -/

/-- Why a request was not answered. -/
inductive TransportFault where
  | network (message : String)
  | rejected (message : String)
  deriving DecidableEq

def TransportFault.message : TransportFault → String
  | .network m => "network error: " ++ m
  | .rejected m => "request rejected: " ++ m

/-- Why changes cannot be watched. -/
inductive WatchFault where
  | unavailable
  | transport (message : String)
  | poisoned
  deriving DecidableEq

def WatchFault.kind : WatchFault → String
  | .unavailable => "unavailable"
  | .transport _ => "transport"
  | .poisoned => "poisoned"

def WatchFault.message : WatchFault → String
  | .unavailable => "subscriptions are not available: no watcher configured"
  | .transport m => "subscription transport error: " ++ m
  | .poisoned => "subscription state unavailable"

/-! ## Errors of the backend -/

/-- An error that the backend knows by name. -/
inductive BackendFault where
  | fundingSourceNotFound
  | fundingSourceState
  | completionDataInvalid
  | fundingSourceNotSetup
  | provisionalFundingSourceNotFound
  | unacceptableFundingSource
  | duplicateFundingSource
  | unsupportedCurrency
  | velocityExceeded
  | entitlementExceeded
  | cardNotFound
  | cardState
  | identityNotVerified
  | accountLocked
  | insufficientEntitlements
  | invalidArgument
  | limitExceeded
  | notAuthorized
  | serviceError
  deriving DecidableEq

namespace BackendFault

def kind : BackendFault → String
  | .fundingSourceNotFound => "funding_source_not_found"
  | .fundingSourceState => "funding_source_state"
  | .completionDataInvalid => "funding_source_completion_data_invalid"
  | .fundingSourceNotSetup => "funding_source_not_setup"
  | .provisionalFundingSourceNotFound => "provisional_funding_source_not_found"
  | .unacceptableFundingSource => "unacceptable_funding_source"
  | .duplicateFundingSource => "duplicate_funding_source"
  | .unsupportedCurrency => "unsupported_currency"
  | .velocityExceeded => "velocity_exceeded"
  | .entitlementExceeded => "entitlement_exceeded"
  | .cardNotFound => "card_not_found"
  | .cardState => "card_state"
  | .identityNotVerified => "identity_verification_not_verified"
  | .accountLocked => "account_locked"
  | .insufficientEntitlements => "insufficient_entitlements"
  | .invalidArgument => "invalid_argument"
  | .limitExceeded => "limit_exceeded"
  | .notAuthorized => "not_authorized"
  | .serviceError => "service_error"

/-- What is said in front of the backend's own words. -/
def lead : BackendFault → String
  | .fundingSourceNotFound => "funding source not found"
  | .fundingSourceState => "funding source state does not allow this operation"
  | .completionDataInvalid => "funding source completion data is invalid"
  | .fundingSourceNotSetup => "funding source has not been set up"
  | .provisionalFundingSourceNotFound => "provisional funding source not found"
  | .unacceptableFundingSource => "funding source is not acceptable"
  | .duplicateFundingSource => "duplicate funding source"
  | .unsupportedCurrency => "unsupported currency"
  | .velocityExceeded => "velocity exceeded"
  | .entitlementExceeded => "entitlement exceeded"
  | .cardNotFound => "card not found"
  | .cardState => "card state does not allow this operation"
  | .identityNotVerified => "identity verification not verified"
  | .accountLocked => "account locked"
  | .insufficientEntitlements => "insufficient entitlements"
  | .invalidArgument => "invalid argument"
  | .limitExceeded => "limit exceeded"
  | .notAuthorized => "not authorized"
  | .serviceError => "service error"

/-- The errors of the card service, by their names behind `servicePrefix`. -/
def ofService : List (String × BackendFault) :=
  [("FundingSourceNotFoundError", .fundingSourceNotFound),
    ("FundingSourceStateError", .fundingSourceState),
    ("FundingSourceCompletionDataInvalidError", .completionDataInvalid),
    ("FundingSourceCompletionDataInvalidErrorCode", .completionDataInvalid),
    ("FundingSourceNotSetupError", .fundingSourceNotSetup),
    ("FundingSourceNotSetupErrorCode", .fundingSourceNotSetup),
    ("ProvisionalFundingSourceNotFoundError", .provisionalFundingSourceNotFound),
    ("UnacceptableFundingSourceError", .unacceptableFundingSource),
    ("DuplicateFundingSourceError", .duplicateFundingSource),
    ("UnsupportedCurrencyError", .unsupportedCurrency),
    ("VelocityExceededError", .velocityExceeded),
    ("EntitlementExceededError", .entitlementExceeded),
    ("CardNotFoundError", .cardNotFound),
    ("CardStateError", .cardState),
    ("IdentityVerificationNotVerifiedError", .identityNotVerified),
    ("AccountLockedError", .accountLocked)]

/-- The errors of the platform, by their names behind `platformPrefix`. -/
def ofPlatform : List (String × BackendFault) :=
  [("InsufficientEntitlementsError", .insufficientEntitlements),
    ("InvalidArgumentError", .invalidArgument),
    ("LimitExceededError", .limitExceeded),
    ("NotAuthorizedError", .notAuthorized),
    ("ServiceError", .serviceError)]

end BackendFault

/-! ## Responses that make no sense -/

/-- Why there is no answer of the backend that can be used. -/
inductive UnexpectedResponse where
  | notExecutable (operation : String)
  | invalidEpochMs (ms : Double)
  | unknownKeyword (field value : String)
  | noData (operation : String)
  | nullField (field : String)
  | misshapen (field : String) (mismatch : Record.Mismatch)
  | emptyUpdate (field : String)

def UnexpectedResponse.message : UnexpectedResponse → String
  | .notExecutable operation => operation ++ " is a subscription and cannot be executed"
  | .invalidEpochMs ms => "invalid epoch milliseconds: " ++ ms.display
  | .unknownKeyword field value => "unknown " ++ field ++ " value: " ++ value
  | .noData operation => operation ++ " returned no data"
  | .nullField field => field ++ " returned null"
  | .misshapen field mismatch => field ++ ": " ++ mismatch.message
  | .emptyUpdate field => field ++ " update carried no funding source"

/-! ## Failures -/

/-- Why an operation failed. -/
inductive Failure where
  | backend (fault : BackendFault) (message : String)
  | interactionRequired (data : Payload.InteractionData)
  | notSignedIn
  | decode (error : Payload.DecodeError)
  | transport (fault : TransportFault)
  | session (message : String)
  | watch (fault : WatchFault)
  | unexpected (cause : UnexpectedResponse)
  | unknown (errorType : Option String) (message : String)

namespace Failure

/-- The kind of a failure, for machines. -/
def kind : Failure → String
  | .backend fault _ => fault.kind
  | .interactionRequired _ => "funding_source_requires_user_interaction"
  | .notSignedIn => "not_signed_in"
  | .decode _ => "decode"
  | .transport _ => "transport"
  | .session _ => "session"
  | .watch _ => "watch"
  | .unexpected _ => "unexpected_response"
  | .unknown .. => "unknown"

/-- A failure in words. -/
def message : Failure → String
  | .backend fault m => fault.lead ++ ": " ++ m
  | .interactionRequired _ => "funding source requires user interaction"
  | .notSignedIn => "not signed in"
  | .decode e => e.message
  | .transport fault => "transport error: " ++ fault.message
  | .session m => "session error: " ++ m
  | .watch fault => fault.message
  | .unexpected cause => "unexpected response: " ++ cause.message
  | .unknown errorType m => "unknown error (" ++ errorType.getD "untyped" ++ "): " ++ m

/-! ## From errors of the backend -/

/-- The types of the card service's errors start with this. -/
def servicePrefix : String := "sudoplatform.virtual-cards."

/-- The types of the platform's errors start with this. -/
def platformPrefix : String := "sudoplatform."

/-- The error of the card service that asks for an action of the user. -/
def interactionError : String := "FundingSourceRequiresUserInteractionError"

/-- What is left of a text behind its beginning, if it begins that way. -/
def behind? (beginning text : String) : Option String :=
  if beginning.toList.isPrefixOf text.toList then
    some (String.ofList (text.toList.drop beginning.toList.length))
  else none

/-- The failure of an error that asks for an action: the action, or why its data is refused. -/
def ofInteraction (info : Option Json) : Failure :=
  match Payload.decodeInteraction (info.getD .null) with
  | .ok data => .interactionRequired data
  | .error e => .decode e

/-- The failure of an error of a known type. A type under the service's prefix is not looked up
among the platform's. -/
def ofErrorType? (errorType message : String) (info : Option Json) : Option Failure :=
  match behind? servicePrefix errorType with
  | some name =>
    if name = interactionError then some (ofInteraction info)
    else (BackendFault.ofService.lookup name).map (.backend · message)
  | none =>
    (behind? platformPrefix errorType).bind fun name =>
      (BackendFault.ofPlatform.lookup name).map (.backend · message)

/-- The failure of an error that the backend reports. -/
def ofBackend (e : Backend.ErrorRecord) : Failure :=
  match e.errorType.bind fun errorType => ofErrorType? errorType e.message e.errorInfo with
  | some failure => failure
  | none => .unknown e.errorType e.message

end Failure

end CardService
