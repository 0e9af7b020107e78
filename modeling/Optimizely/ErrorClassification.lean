import Mathlib.Data.List.Infix

/-!
# Classification of errors

`classifyError` tests the message and the code of an error against regular expressions. None has an
anchor; they are words, digits and `.*`, and ignore the case of letters, which matters for ASCII
only.
-/

namespace ErrorHandling

/-- A part of a regular expression: a class of characters or `.*`. -/
inductive Part where
  | one (accepts : Char → Bool)
  | gap

def isLineTerminator (c : Char) : Bool :=
  c = '\n' || c = '\r' || c = '\u2028' || c = '\u2029'

/-- What may be left of a text after `.*`. -/
def afterGap : List Char → List (List Char)
  | [] => [[]]
  | c :: text => (c :: text) :: if isLineTerminator c then [] else afterGap text

def matchesHere : List Part → List Char → Bool
  | [], _ => true
  | .one _ :: _, [] => false
  | .one accepts :: parts, c :: text => accepts c && matchesHere parts text
  | .gap :: parts, text => (afterGap text).any (matchesHere parts)

def test (pattern : List Part) (text : String) : Bool :=
  text.toList.tails.any (matchesHere pattern)

def word (letters : String) : List Part :=
  letters.toList.map fun c => .one fun d => d.toLower = c.toLower

/-- Words with `.*` between them. -/
def words (parts : List String) : List Part :=
  List.intercalate [.gap] (parts.map word)

inductive ErrorCategory where
  | network
  | authentication
  | authorization
  | validation
  | rateLimit
  | quota
  | timeout
  | serverError
  | clientError
  | system
  | integration
  | dataQuality
  deriving DecidableEq

inductive Severity where
  | low
  | medium
  | high
  | critical
  deriving DecidableEq

structure ErrorClassification where
  category : ErrorCategory
  severity : Severity
  isRetryable : Bool
  isTemporary : Bool
  requiresUserAction : Bool
  escalationLevel : Nat
  deriving DecidableEq

/-- What a caller may say about an error. -/
structure PartialClassification where
  category : Option ErrorCategory
  severity : Option Severity
  isRetryable : Option Bool
  isTemporary : Option Bool
  requiresUserAction : Option Bool
  escalationLevel : Option Nat
  deriving DecidableEq

/-- An error as the service gets it. A code or a status that is a number is given by its
text, and one that counts as false is left out. -/
inductive ErrorInput where
  | text (message : String)
  | error (message : String) (code status statusCode : Option String)
  deriving DecidableEq

def ErrorInput.message : ErrorInput → String
  | .text message => message
  | .error message _ _ _ => message

def extractErrorCode : ErrorInput → String
  | .text _ => "UNKNOWN_ERROR"
  | .error _ code status statusCode => (code <|> status <|> statusCode).getD "UNKNOWN_ERROR"

/-- One of the patterns is found in the message or in the code. -/
def testAny (patterns : List (List Part)) (message code : String) : Bool :=
  patterns.any fun pattern => test pattern message || test pattern code

def isNetworkError : String → String → Bool :=
  testAny [word "network", word "connection", word "timeout", word "unreachable",
    word "ECONNREFUSED", word "ENOTFOUND", word "ETIMEDOUT"]

def isAuthenticationError : String → String → Bool :=
  testAny [word "unauthorized", word "authentication", words ["invalid", "token"],
    word "401", word "403"]

def isRateLimitError : String → String → Bool :=
  testAny [words ["rate", "limit"], words ["too", "many", "requests"], word "429"]

def isServerError : String → String → Bool :=
  testAny [words ["internal", "server"], words ["server", "error"],
    [.one (· = '5'), .one Char.isDigit, .one Char.isDigit]]

def isValidationError : String → String → Bool :=
  testAny [word "validation", words ["invalid", "data"], words ["bad", "request"], word "400"]

def classifyError (error : ErrorInput) : ErrorClassification :=
  let errorMessage := error.message
  let errorCode := extractErrorCode error
  if isNetworkError errorMessage errorCode then ⟨.network, .medium, true, true, false, 1⟩
  else if isAuthenticationError errorMessage errorCode then
    ⟨.authentication, .high, false, false, true, 2⟩
  else if isRateLimitError errorMessage errorCode then ⟨.rateLimit, .medium, true, true, false, 1⟩
  else if isServerError errorMessage errorCode then ⟨.serverError, .high, true, true, false, 2⟩
  else if isValidationError errorMessage errorCode then
    ⟨.validation, .medium, false, false, true, 1⟩
  else ⟨.system, .medium, true, true, false, 1⟩

/-- `{ ...classification, ...given }`. -/
def ErrorClassification.overridden (classification : ErrorClassification)
    (given : PartialClassification) : ErrorClassification where
  category := given.category.getD classification.category
  severity := given.severity.getD classification.severity
  isRetryable := given.isRetryable.getD classification.isRetryable
  isTemporary := given.isTemporary.getD classification.isTemporary
  requiresUserAction := given.requiresUserAction.getD classification.requiresUserAction
  escalationLevel := given.escalationLevel.getD classification.escalationLevel

def getMaxRetries (classification : ErrorClassification) : Nat :=
  if !classification.isRetryable then 0
  else match classification.category with
    | .network | .timeout => 5
    | .rateLimit => 3
    | .serverError => 4
    | _ => 3

/-- What the service retries on its own is what it takes for temporary and leaves to no user. -/
theorem classifyError_retryable (e : ErrorInput) :
    (classifyError e).isRetryable = (classifyError e).isTemporary ∧
      (classifyError e).requiresUserAction = !(classifyError e).isRetryable := by
  simp only [classifyError]
  split_ifs <;> exact ⟨rfl, rfl⟩

theorem getMaxRetries_pos_iff (c : ErrorClassification) : 0 < getMaxRetries c ↔ c.isRetryable := by
  cases hr : c.isRetryable with
  | false => simp [getMaxRetries, hr]
  | true =>
    simp only [getMaxRetries, hr, iff_true]
    cases c.category <;> decide

end ErrorHandling
