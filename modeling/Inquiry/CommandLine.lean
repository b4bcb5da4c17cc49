import Inquiry.Settings.Basic

/-!
# The command line

A command line holds one question and options.  An option with a value is
followed by it, or by an equals sign and it; the catalog and the help text have
a letter too.  What the options say about the model is put over the settings of
the environment.
-/

set_option autoImplicit false

namespace Inquiry

/-- What a command line asks for. -/
structure CommandLine where
  question : Option String := none
  catalog : Option String := none
  provider : Option Provider := none
  model : Option String := none
  apiKey : Option String := none
  seed : Bool := false
  compact : Bool := false

namespace CommandLine

/-- The text that explains the command line. -/
def usage : String :=
  "Answer natural-language questions about ERP records\n\n" ++
  "Usage: inquiry [OPTIONS] <QUERY>\n\n" ++
  "Options:\n" ++
  "  -c, --catalog <CATALOG>    Entity catalog JSON (default: bundled ERP catalog)\n" ++
  "      --provider <PROVIDER>  Planning backend: openrouter, gemini or rules\n" ++
  "      --model <MODEL>        Model name for the planning backend\n" ++
  "      --api-key <API_KEY>    API key (or set OPENROUTER_API_KEY / GEMINI_API_KEY)\n" ++
  "      --seed                 Insert a few demo records before answering\n" ++
  "      --compact              Print compact JSON instead of pretty JSON\n" ++
  "  -h, --help                 Print help"

/-- What is wrong with a command line. -/
inductive Fault where
  | helpAsked
  | noQuestion
  | secondQuestion (text : String)
  | noValue (option : String)
  | unknownOption (option : String)
  | badProvider (fault : SettingsFault)

/-- The wording of a fault. -/
def Fault.message : Fault → String
  | .helpAsked => usage
  | .noQuestion => "error: the following required arguments were not provided:\n  <QUERY>"
  | .secondQuestion text => "error: unexpected argument '" ++ text ++ "' found"
  | .noValue option => "error: a value is required for '" ++ option ++ "' but none was supplied"
  | .unknownOption option => "error: unexpected argument '" ++ option ++ "' found"
  | .badProvider fault => "error: invalid value for '--provider <PROVIDER>': " ++ fault.message

/-- The options that a value follows. -/
def valued : List String := ["-c", "--catalog", "--provider", "--model", "--api-key"]

/-- A command line with the value of an option. -/
def withValue (given : CommandLine) (option value : String) : Except Fault CommandLine :=
  match option with
  | "-c" | "--catalog" => .ok { given with catalog := some value }
  | "--model" => .ok { given with model := some value }
  | "--api-key" => .ok { given with apiKey := some value }
  | "--provider" => do
      let provider ← (Provider.ofText value).mapError .badProvider
      return { given with provider := some provider }
  | _ => .error (.unknownOption option)

/-- A command line with a question. -/
def withQuestion (given : CommandLine) (text : String) : Except Fault CommandLine :=
  match given.question with
  | none => .ok { given with question := some text }
  | some _ => .error (.secondQuestion text)

/-- The option and the value that an equals sign joins, if it does. -/
def joined? (text : String) : Option (String × String) :=
  let symbols := text.toList
  let option := symbols.takeWhile (· != '=')
  match symbols.dropWhile (· != '=') with
  | [] => none
  | _ :: value => some (String.ofList option, String.ofList value)

/-- Whether a text is an option, which its hyphen tells. -/
def isOption (text : String) : Bool :=
  text.toList.head? = some '-' && text != "-"

/-- A command line with more texts read. -/
def readAll (given : CommandLine) : List String → Except Fault CommandLine
  | [] => .ok given
  | text :: rest =>
      if text = "--help" || text = "-h" then .error .helpAsked
      else if text = "--seed" then readAll { given with seed := true } rest
      else if text = "--compact" then readAll { given with compact := true } rest
      else if isOption text then
        match joined? text with
        | some (option, value) =>
            match given.withValue option value with
            | .error fault => .error fault
            | .ok next => readAll next rest
        | none =>
            match rest with
            | [] =>
                .error (if text ∈ valued then .noValue text else .unknownOption text)
            | value :: rest =>
                match given.withValue text value with
                | .error fault => .error fault
                | .ok next => readAll next rest
      else
        match given.withQuestion text with
        | .error fault => .error fault
        | .ok next => readAll next rest
termination_by texts => texts.length

/-- The command line of some texts, which must hold a question. -/
def ofTexts (texts : List String) : Except Fault (CommandLine × String) := do
  let given ← readAll {} texts
  match given.question with
  | none => throw .noQuestion
  | some question => return (given, question)

/-- The settings of a provider that is named on the command line. -/
def modelOf (provider : Provider) (key : Option String) : ModelSettings :=
  match provider, key with
  | .gemini, some key => .gemini key
  | .openRouter, some key => .openRouter key
  | provider, key => { provider, apiKey := key }

/-- Settings with what the command line says about the model. -/
def adjusted (given : CommandLine) (settings : Settings) : Settings :=
  let base := settings.model
  let model : ModelSettings :=
    match given.provider, given.apiKey with
    | some provider, key => modelOf provider (key.or base.apiKey)
    | none, some key =>
        if base.provider = Provider.rules then ModelSettings.openRouter key
        else { base with apiKey := some key }
    | none, none => base
  { settings with model := { model with model := given.model.getD model.model } }

end CommandLine

end Inquiry
