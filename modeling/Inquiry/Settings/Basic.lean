import Inquiry.Number.Decimal
import Inquiry.Text.Blank
import Inquiry.Text.LowerCase

/-!
# Settings

Everything that can be tuned: how sure a detection must be, how close a
misspelt table name must be to be repaired, how often a failed query is tried
again, whether generated queries are allowed, which model plans, and how long
a question may take.  `Settings.check` says whether values lie where they must.
-/

set_option autoImplicit false

namespace Inquiry

/-! ## Groups of settings -/

/-- How entities are detected in a question. -/
structure DetectionSettings where
  /-- The confidence of a keyword found as a whole word. -/
  exactConfidence : Double := Double.ofDecimal false 9 (-1)
  /-- The confidence of a keyword found inside a longer word. -/
  substringConfidence : Double := Double.ofDecimal false 6 (-1)
  /-- Candidates below this are dropped unless all are. -/
  minConfidence : Double := Double.ofDecimal false 7 (-1)
  /-- The most entities that are handed on. -/
  maxEntities : Nat := 3
deriving DecidableEq

/-- How table names are repaired. -/
structure CorrectionSettings where
  /-- The similarity that a misspelt table identifier needs. -/
  fuzzyThreshold : Double := Double.ofDecimal false 9 (-1)
deriving DecidableEq

/-- How execution is tried again. -/
structure RetrySettings where
  /-- Attempts in all, the first one included. -/
  maxAttempts : Nat := 3
  /-- The pause before another attempt, in milliseconds. -/
  backoff : Nat := 100
deriving DecidableEq

/-- How plans are chosen. -/
structure RoutingSettings where
  /-- Without this a generated query is replaced by a plain listing. -/
  allowDynamicQueries : Bool := true
deriving DecidableEq

/-- Who answers planning requests. -/
inductive Provider where
  | openRouter
  | gemini
  | rules
deriving DecidableEq

/-- The name of a provider in messages. -/
def Provider.name : Provider → String
  | .openRouter => "OpenRouter"
  | .gemini => "Gemini"
  | .rules => "Rules"

/-- The name of a provider in settings. -/
def Provider.word : Provider → String
  | .openRouter => "openrouter"
  | .gemini => "gemini"
  | .rules => "rules"

/-- How the planning model is reached. -/
structure ModelSettings where
  provider : Provider := .rules
  apiKey : Option String := none
  baseUrl : String := "https://openrouter.ai/api/v1"
  model : String := "google/gemini-2.0-flash-exp:free"
  /-- How long one request may take, in seconds. -/
  requestTimeout : Nat := 30
  /-- The site that requests are sent in the name of. -/
  siteUrl : String := "http://localhost"
deriving DecidableEq

/-- Gemini reached with a key. -/
def ModelSettings.gemini (apiKey : String) : ModelSettings :=
  { provider := .gemini
    apiKey := some apiKey
    baseUrl := "https://generativelanguage.googleapis.com/v1beta"
    model := "gemini-1.5-flash" }

/-- OpenRouter reached with a key. -/
def ModelSettings.openRouter (apiKey : String) : ModelSettings :=
  { provider := .openRouter, apiKey := some apiKey }

/-- OpenAI reached with a key; it speaks the same protocol as OpenRouter. -/
def ModelSettings.openAi (apiKey : String) : ModelSettings :=
  { ModelSettings.openRouter apiKey with
    baseUrl := "https://api.openai.com/v1"
    model := "gpt-4o-mini" }

/-- All settings. -/
structure Settings where
  detection : DetectionSettings := {}
  correction : CorrectionSettings := {}
  retry : RetrySettings := {}
  routing : RoutingSettings := {}
  model : ModelSettings := {}
  /-- How long a whole question may take, in milliseconds; none is no limit. -/
  timeout : Option Nat := some 60000
deriving DecidableEq

/-! ## What can be wrong -/

/-- What can be wrong with settings. -/
inductive SettingsFault where
  /-- A share is not between zero and one. -/
  | outsideUnit (name : String) (value : Double)
  /-- A part of a word counts as much as the whole word. -/
  | confidenceOrder (substring exact : Double)
  /-- A count is not from one to three. -/
  | outsideCount (name : String) (value : Nat)
  /-- A remote provider has no key. -/
  | missingKey (provider : Provider)
  /-- A variable has a value that cannot be read. -/
  | invalidValue (name value : String)
  /-- No provider has this name. -/
  | unknownProvider (name : String)
deriving DecidableEq

/-- The wording of a fault in settings. -/
def SettingsFault.message : SettingsFault → String
  | .outsideUnit name value =>
      name ++ " must be within [0, 1], got " ++ Decimal.plainText value
  | .confidenceOrder substring exact =>
      "substring_confidence (" ++ Decimal.plainText substring ++
        ") must be below exact_confidence (" ++ Decimal.plainText exact ++ ")"
  | .outsideCount name value =>
      name ++ " must be between 1 and 3, got " ++ toString value
  | .missingKey provider => "Provider " ++ provider.name ++ " requires an API key"
  | .invalidValue name value =>
      name ++ " has an invalid value '" ++ value ++ "'"
  | .unknownProvider name => "Unknown provider '" ++ name ++ "'"

/-- The provider that a text names, in any case and with blanks around it. -/
def Provider.ofText (text : String) : Except SettingsFault Provider :=
  let name := Text.lowered (Text.trimmed text)
  if name = "openrouter" || name = "openai" then .ok .openRouter
  else if name = "gemini" then .ok .gemini
  else if name = "rules" || name = "rule-based" || name = "rule_based" then .ok .rules
  else .error (.unknownProvider name)

namespace Settings

/-- A share must lie between zero and one. -/
def checkUnit (name : String) (value : Double) : Except SettingsFault Unit :=
  if value.inUnitInterval then .ok () else .error (.outsideUnit name value)

/-- A count must lie between one and three. -/
def checkCount (name : String) (value : Nat) : Except SettingsFault Unit :=
  if 1 ≤ value && value ≤ 3 then .ok () else .error (.outsideCount name value)

/-- The settings are accepted, or the first fault in them is reported. -/
def check (settings : Settings) : Except SettingsFault Unit := do
  let detection := settings.detection
  checkUnit "exact_confidence" detection.exactConfidence
  checkUnit "substring_confidence" detection.substringConfidence
  checkUnit "min_confidence" detection.minConfidence
  if detection.exactConfidence.atMost detection.substringConfidence then
    throw (.confidenceOrder detection.substringConfidence detection.exactConfidence)
  checkCount "max_entities" detection.maxEntities
  checkUnit "fuzzy_threshold" settings.correction.fuzzyThreshold
  checkCount "max_attempts" settings.retry.maxAttempts
  if settings.model.provider ≠ .rules ∧ settings.model.apiKey = none then
    throw (.missingKey settings.model.provider)

end Settings

end Inquiry
