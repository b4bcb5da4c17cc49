import Inquiry.Catalog.Bundled
import Inquiry.Catalog.File
import Inquiry.Clock
import Inquiry.CommandLine
import Inquiry.Session
import Inquiry.Settings.Environment

/-!
# The program

The program answers the question of its command line from records that it
holds in memory and prints the response.  No transport reaches a model here,
so a session that asks one falls back on the rules.
-/

set_option autoImplicit false

namespace Inquiry

/-- What is to be printed, and whether a response succeeded. -/
structure Printed where
  text : String
  succeeded : Bool

/-- The printed response to the question of a command line. -/
def printed (given : CommandLine) (question : String) (settings : Settings) (catalog : Catalog)
    (stamps : Stamps) : Except Failure Printed := do
  let settings := given.adjusted settings
  let (book, fault) := RecordBook.opened { catalog }
  if let some fault := fault then throw (.records fault)
  let book ←
    if given.seed then
      let (seeded, book) := book.seed stamps
      let _ ← seeded.mapError .records
      pure book
    else pure book
  let session ← (Session.ofSettings catalog settings Transport.unreachable).mapError .settings
  match session.answer RecordStore.book question { store := book } with
  | none => throw (.timedOut (settings.timeout.getD 0))
  | some (response, _) =>
      let json := response.json
      return {
        text := if given.compact then json.text else json.indentedText
        succeeded := response.succeeded }

/-- The values of the variables that settings are read from. -/
def readEnvironment : IO Environment := do
  let names := ["NLQ_EXACT_CONFIDENCE", "NLQ_SUBSTRING_CONFIDENCE", "NLQ_MIN_CONFIDENCE",
    "NLQ_MAX_ENTITIES", "NLQ_FUZZY_THRESHOLD", "NLQ_MAX_ATTEMPTS", "NLQ_RETRY_BACKOFF_MS",
    "NLQ_ALLOW_DYNAMIC_QUERIES", "NLQ_TIMEOUT_MS", "OPENROUTER_API_KEY", "GEMINI_API_KEY",
    "OPENAI_API_KEY", "NLQ_PROVIDER", "NLQ_MODEL", "NLQ_LLM_BASE_URL"]
  let values ← names.mapM fun name => do return (name, ← IO.getEnv name)
  return fun name => (values.find? (fun entry => entry.1 = name)).bind Prod.snd

/-- The catalog of the command line. -/
def readCatalog (given : CommandLine) : IO (Except Failure Catalog) := do
  match given.catalog with
  | none => return Catalog.bundled.mapError .catalog
  | some path =>
      match ← (IO.FS.readFile path).toBaseIO with
      | .ok text => return (Catalog.ofText text).mapError .catalog
      | .error (.noFileOrDirectory ..) => return .error .missingFile
      | .error error => return .error (.file (toString error))

/-- The clock, read off a file that is made for it, and a number that is drawn. -/
def readStamps : IO Stamps := do
  let (_, path) ← IO.FS.createTempFile
  let made := (← path.metadata).modified
  IO.FS.removeFile path
  return Stamps.ofClock made.sec.toNat (← IO.rand 0 (Stamps.nameLimit - 1))

/-- The whole run, with the exit code. -/
def run (texts : List String) : IO UInt32 := do
  match CommandLine.ofTexts texts with
  | .error .helpAsked =>
      IO.println CommandLine.usage
      return 0
  | .error fault =>
      IO.eprintln fault.message
      return 2
  | .ok (given, question) =>
      let environment ← readEnvironment
      let catalog ← readCatalog given
      let stamps ← readStamps
      let outcome : Except Failure Printed := do
        let settings ← environment.settings.mapError Failure.settings
        printed given question settings (← catalog) stamps
      match outcome with
      | .error failure =>
          IO.eprintln failure.message
          return 1
      | .ok printed =>
          IO.println printed.text
          return if printed.succeeded then 0 else 1

end Inquiry

/-- Answers the question of the command line. -/
def main (texts : List String) : IO UInt32 := Inquiry.run texts
