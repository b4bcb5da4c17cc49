import Inquiry.Plan.Fault
import Inquiry.Settings.Basic

/-!
# Calling a model

A model is called through a transport, which carries a request to a provider
and brings back the text of the answer, if there is one.  Nothing is sent
without a key, and the provider that works by rules has no model to call.
-/

set_option autoImplicit false

namespace Inquiry

/-- What is sent to a model. -/
structure ModelRequest where
  settings : ModelSettings
  key : String
  instructions : String
  question : String

/-- A way to models: the text that comes back for a request, if any does. -/
structure Transport where
  send : ModelRequest → Option String

/-- The transport that reaches no model. -/
def Transport.unreachable : Transport := ⟨fun _ => none⟩

namespace ModelSettings

/-- The answer that came back, or the fault that there is none. -/
def received (fault : ModelFault) : Option String → Except ModelFault String
  | some answer => .ok answer
  | none => .error fault

/-- The answer of a model to a question. -/
def complete (settings : ModelSettings) (transport : Transport) (instructions question : String) :
    Except ModelFault String :=
  match settings.apiKey with
  | none => .error .noKey
  | some key =>
      let answer := transport.send ⟨settings, key, instructions, question⟩
      match settings.provider with
      | .openRouter => received .callFailed answer
      | .gemini => received .geminiCallFailed answer
      | .rules => .error .noRemoteModel

end ModelSettings

end Inquiry
