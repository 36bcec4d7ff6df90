import AvantimePlatform.Lib.Checked
import AvantimePlatform.Documents.Identifiers

/-!
# Errors and retries

What a worker makes of an error: `classifyDocumentProcessingError` of
`document-processing-errors.ts` and `decideDocumentRetry` of
`document-retry-policy.ts`.
-/

namespace AvantimePlatform.Documents

open AvantimePlatform.Checked

/-- What can be thrown, as far as the classification looks at it: a
`DocumentProcessingError`, another `Error` with the `code` and the
`$metadata.httpStatusCode` it may carry, or a value that is not an `Error`. -/
inductive ThrownError where
  | documentProcessingError (code : String) (retryable : Bool) (safeMessage : String)
  | error (message : String) (code : Option String) (httpStatus : Option Nat)
  | notAnError
deriving DecidableEq

/-- A plain `new Error(message)`. -/
def ThrownError.ofMessage (message : String) : ThrownError := .error message none none

/-- `DocumentProcessingErrorClassification`. -/
structure DocumentProcessingErrorClassification where
  code : String
  retryable : Bool
  safeMessage : String
deriving DecidableEq

/-- `TRANSIENT_ERROR_CODES`. -/
def transientErrorCodes : List String :=
  ["ECONNRESET", "ECONNREFUSED", "EHOSTUNREACH", "ENETUNREACH", "ETIMEDOUT", "EAI_AGAIN",
   "THROTTLING", "SERVICE_UNAVAILABLE"]

/-- `text.includes(part)`. -/
def includes (text part : String) : Bool := decide (part.toList <:+: text.toList)

/-- `classifyDocumentProcessingError`. -/
def classifyDocumentProcessingError : ThrownError → DocumentProcessingErrorClassification
  | .documentProcessingError code retryable safeMessage => ⟨code, retryable, safeMessage⟩
  | .notAnError =>
    ⟨"INTERNAL_PROCESSING_ERROR", true, "Временная ошибка обработки документа."⟩
  | .error message errorCode status =>
    let code := (errorCode.getD "").toUpper
    let normalizedMessage := message.toLower
    if includes normalizedMessage "checksum verification failed" then
      ⟨"CHECKSUM_MISMATCH", false, "Нарушена целостность исходного файла."⟩
    else if includes normalizedMessage "invalid pdf" || includes normalizedMessage "invalidpdf" ||
        includes normalizedMessage "password" ||
        includes normalizedMessage "unsupported document" then
      ⟨"INVALID_DOCUMENT", false, "Документ повреждён или не поддерживается."⟩
    else if transientErrorCodes.contains code || status == some 429 ||
        status.any (fun value => decide (500 ≤ value)) then
      ⟨if code = "" then "STORAGE_TEMPORARILY_UNAVAILABLE" else code, true,
        "Временная ошибка доступа к хранилищу."⟩
    else
      ⟨"INTERNAL_PROCESSING_ERROR", true, "Временная ошибка обработки документа."⟩

/-- `DocumentRetryPolicy`. -/
structure DocumentRetryPolicy where
  maxAttempts : Nat
  initialDelayMs : Nat
  maxDelayMs : Nat
deriving DecidableEq

/-- `DEFAULT_DOCUMENT_RETRY_POLICY`. -/
def defaultDocumentRetryPolicy : DocumentRetryPolicy := ⟨3, 1000, 60000⟩

/-- `DocumentRetryDecision`. -/
inductive DocumentRetryDecision where
  | retry (nextRetryAt : Nat)
  | fail
  | quarantine
deriving DecidableEq

/-- `assertPositiveInteger`. -/
def assertPositiveInteger (value : Nat) (name : String) : Except String Unit :=
  require (isPositiveSafeInteger value = true) (name ++ " must be a positive integer.")

/-- `validateDocumentRetryPolicy`. -/
def validateDocumentRetryPolicy (policy : DocumentRetryPolicy) : Except String Unit := do
  assertPositiveInteger policy.maxAttempts "DOCUMENT_PROCESSING_MAX_ATTEMPTS"
  assertPositiveInteger policy.initialDelayMs "DOCUMENT_PROCESSING_INITIAL_RETRY_MS"
  assertPositiveInteger policy.maxDelayMs "DOCUMENT_PROCESSING_MAX_RETRY_MS"
  require (policy.initialDelayMs ≤ policy.maxDelayMs)
    "DOCUMENT_PROCESSING_MAX_RETRY_MS must be greater than or equal to the initial delay."

/-- The delay before the next attempt: doubled each time, up to a maximum. -/
def retryDelay (attempts : Nat) (policy : DocumentRetryPolicy) : Nat :=
  min (policy.initialDelayMs * 2 ^ (attempts - 1)) policy.maxDelayMs

/-- What the checked arguments of `decideDocumentRetry` lead to. -/
def retryDecision (attempts : Nat) (error : DocumentProcessingErrorClassification)
    (policy : DocumentRetryPolicy) (now : Nat) : Except String DocumentRetryDecision :=
  if error.retryable = false then .ok .fail
  else if policy.maxAttempts ≤ attempts then .ok .quarantine
  else .retry <$> toISOString (now + retryDelay attempts policy)

/-- `decideDocumentRetry`. -/
def decideDocumentRetry (attempts : Nat) (error : DocumentProcessingErrorClassification)
    (policy : DocumentRetryPolicy) (now : Nat) : Except String DocumentRetryDecision := do
  validateDocumentRetryPolicy policy
  assertPositiveInteger attempts "processingAttempts"
  retryDecision attempts error policy now

/-- A policy that is accepted allows an attempt. -/
theorem maxAttempts_pos {policy : DocumentRetryPolicy}
    (h : validateDocumentRetryPolicy policy = .ok ()) : 0 < policy.maxAttempts := by
  unfold validateDocumentRetryPolicy at h
  obtain ⟨_, hmax, _⟩ := bind_eq_ok.mp h
  have hpositive := require_eq_ok.mp hmax
  simp only [isPositiveSafeInteger, Bool.and_eq_true, decide_eq_true_eq] at hpositive
  omega

/-- A retry is decided only for an attempt below the limit. -/
theorem lt_of_decideDocumentRetry {attempts : Nat}
    {error : DocumentProcessingErrorClassification} {policy : DocumentRetryPolicy}
    {now nextRetryAt : Nat}
    (h : decideDocumentRetry attempts error policy now = .ok (.retry nextRetryAt)) :
    attempts < policy.maxAttempts := by
  unfold decideDocumentRetry at h
  obtain ⟨-, -, h⟩ := bind_eq_ok.mp h
  obtain ⟨-, -, h⟩ := bind_eq_ok.mp h
  unfold retryDecision at h
  split at h
  · cases h
  split at h
  · cases h
  · next hlimit => exact Nat.not_le.mp hlimit

example : decideDocumentRetry 3 (classifyDocumentProcessingError .notAnError)
    defaultDocumentRetryPolicy 0 = .ok .quarantine := by decide

end AvantimePlatform.Documents
