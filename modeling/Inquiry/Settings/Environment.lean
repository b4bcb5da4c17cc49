import Inquiry.Settings.Basic
import Inquiry.Number.Reading

/-!
# Settings from the environment

The defaults are overridden by variables.  A number or truth value is read
after trimming, and one that cannot be read is a fault.  The model follows
whichever key is present, OpenRouter's before Gemini's before OpenAI's; then
provider, model and address may be set on their own, and the result is checked.
-/

set_option autoImplicit false

namespace Inquiry

/-- The values of the variables that are set. -/
abbrev Environment := String → Option String

namespace Environment

/-- A natural number that fits a word. -/
def wordNatural? (text : List Char) : Option Nat := Reading.natural? (Word.limit - 1) text

/-- The greatest number of 8 bits. -/
def greatestByte : Nat := 255

/-- A truth value. -/
def truth? (text : List Char) : Option Bool :=
  if text = "true".toList then some true
  else if text = "false".toList then some false
  else none

variable {Value : Type}

/-- The value of a variable, or the given default if it is not set. -/
def valueOf (environment : Environment) (name : String) (read : List Char → Option Value)
    (default : Value) : Except SettingsFault Value :=
  match environment name with
  | none => .ok default
  | some raw =>
      match read (Text.trim raw.toList) with
      | some value => .ok value
      | none => .error (.invalidValue name raw)

/-- The model that the keys in the environment decide on. -/
def keyedModel (environment : Environment) (default : ModelSettings) : ModelSettings :=
  match environment "OPENROUTER_API_KEY" with
  | some key => .openRouter key
  | none =>
  match environment "GEMINI_API_KEY" with
  | some key => .gemini key
  | none =>
  match environment "OPENAI_API_KEY" with
  | some key => .openAi key
  | none => default

/-- The model of the environment: by its keys, then with single settings overridden. -/
def modelSettings (environment : Environment) (default : ModelSettings) :
    Except SettingsFault ModelSettings := do
  let keyed := environment.keyedModel default
  let provider ← match environment "NLQ_PROVIDER" with
    | some text => Provider.ofText text
    | none => pure keyed.provider
  return { keyed with
    provider
    model := (environment "NLQ_MODEL").getD keyed.model
    baseUrl := (environment "NLQ_LLM_BASE_URL").getD keyed.baseUrl }

/-- A limit in milliseconds, where zero is no limit. -/
def limit? (text : List Char) : Option (Option Nat) :=
  (wordNatural? text).map fun value => if value = 0 then none else some value

/-- The settings of the environment, checked. -/
def settings (environment : Environment) : Except SettingsFault Settings := do
  let default : Settings := {}
  let exactConfidence ← environment.valueOf "NLQ_EXACT_CONFIDENCE" Reading.double?
    default.detection.exactConfidence
  let substringConfidence ← environment.valueOf "NLQ_SUBSTRING_CONFIDENCE" Reading.double?
    default.detection.substringConfidence
  let minConfidence ← environment.valueOf "NLQ_MIN_CONFIDENCE" Reading.double?
    default.detection.minConfidence
  let maxEntities ← environment.valueOf "NLQ_MAX_ENTITIES" wordNatural?
    default.detection.maxEntities
  let fuzzyThreshold ← environment.valueOf "NLQ_FUZZY_THRESHOLD" Reading.double?
    default.correction.fuzzyThreshold
  let maxAttempts ← environment.valueOf "NLQ_MAX_ATTEMPTS" (Reading.natural? greatestByte)
    default.retry.maxAttempts
  let backoff ← environment.valueOf "NLQ_RETRY_BACKOFF_MS" wordNatural?
    default.retry.backoff
  let allowDynamicQueries ← environment.valueOf "NLQ_ALLOW_DYNAMIC_QUERIES" truth?
    default.routing.allowDynamicQueries
  let timeout ← environment.valueOf "NLQ_TIMEOUT_MS" limit? default.timeout
  let model ← environment.modelSettings default.model
  let settings : Settings :=
    { detection := { exactConfidence, substringConfidence, minConfidence, maxEntities }
      correction := { fuzzyThreshold }
      retry := { maxAttempts, backoff }
      routing := { allowDynamicQueries }
      model
      timeout }
  settings.check
  return settings

end Environment

end Inquiry
