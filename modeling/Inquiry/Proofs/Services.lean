import Inquiry.Proofs.Outcomes
import Inquiry.Settings.Environment

/-!
# Services and their keys

Three services answer planning requests, and each has a variable for its key, a
protocol, an address and a model.  The first one with a key is taken, and its
key, address and model are taken together (`keyedModel_eq`).

The provider can then be set on its own.  It decides which protocol is spoken,
and the key and the address stay those of the service that was taken.  So the
three belong together exactly when the provider is not set, or set to the one of
that service (`settings_belongTogether_iff`).  Where another service has a key
too, and its provider is set, the key of the first is still taken and checked
to be there: the settings are accepted, and its key is sent in the protocol of
the other (`settings_of_other_provider`).
-/

set_option autoImplicit false

namespace Inquiry

/-! ## Services -/

/-- A service that answers planning requests. -/
structure Service where
  /-- The variable that holds its key. -/
  keyVariable : String
  /-- The provider whose protocol it speaks. -/
  provider : Provider
  /-- Where it is reached. -/
  address : String
  /-- The model that it is asked for. -/
  model : String

/-- The services, in the order in which their keys count. -/
def services : List Service :=
  [⟨"OPENROUTER_API_KEY", .openRouter, "https://openrouter.ai/api/v1",
      "google/gemini-2.0-flash-exp:free"⟩,
    ⟨"GEMINI_API_KEY", .gemini, "https://generativelanguage.googleapis.com/v1beta",
      "gemini-1.5-flash"⟩,
    ⟨"OPENAI_API_KEY", .openRouter, "https://api.openai.com/v1", "gpt-4o-mini"⟩]

/-- The service reached with a key, in the protocol of a provider. -/
def Service.reachedAs (service : Service) (provider : Provider) (key : String) : ModelSettings :=
  { provider
    apiKey := some key
    baseUrl := service.address
    model := service.model }

/-- An address is one of a single provider. -/
theorem provider_eq_of_address_eq {service other : Service} (isService : service ∈ services)
    (isOther : other ∈ services) (same : service.address = other.address) :
    service.provider = other.provider := by
  simp only [services, List.mem_cons, List.not_mem_nil, or_false] at isService isOther
  obtain rfl | rfl | rfl := isService <;> obtain rfl | rfl | rfl := isOther <;>
    first | rfl | exact absurd same (by decide)

/-- A provider, a key and an address belong together: the key is in a variable of a service of the
provider, and the address is the one of such a service. -/
structure ModelSettings.BelongTogether (environment : Environment) (model : ModelSettings) :
    Prop where
  key : ∃ service ∈ services, service.provider = model.provider ∧
    ∃ key, environment service.keyVariable = some key ∧ model.apiKey = some key
  address : ∃ service ∈ services, service.provider = model.provider ∧
    service.address = model.baseUrl

namespace Environment

variable {environment : Environment}

/-- The first service with a key, and the key. -/
def firstKeyed? (environment : Environment) : Option (Service × String) :=
  services.findSome? fun service => (environment service.keyVariable).map (service, ·)

theorem of_firstKeyed? {service : Service} {key : String}
    (found : environment.firstKeyed? = some (service, key)) :
    service ∈ services ∧ environment service.keyVariable = some key := by
  obtain ⟨member, isService, held⟩ := List.exists_of_findSome?_eq_some found
  obtain ⟨value, isValue, same⟩ := Option.map_eq_some_iff.1 held
  cases same
  exact ⟨isService, isValue⟩

/-- The keys decide on the first service with a key, reached with it in its own protocol. -/
theorem keyedModel_eq (environment : Environment) (default : ModelSettings) :
    environment.keyedModel default =
      match environment.firstKeyed? with
      | some (service, key) => service.reachedAs service.provider key
      | none => default := by
  simp only [keyedModel, firstKeyed?, services, List.findSome?_cons, List.findSome?_nil]
  cases environment "OPENROUTER_API_KEY" with
  | some key => rfl
  | none =>
      cases environment "GEMINI_API_KEY" with
      | some key => rfl
      | none => cases environment "OPENAI_API_KEY" <;> rfl

/-! ## Settings that are accepted -/

/-- Accepted settings have the model of the environment. -/
theorem of_settings {settings : Settings} (accepted : environment.settings = .ok settings) :
    environment.modelSettings {} = .ok settings.model ∧ settings.check = .ok () := by
  simp only [Environment.settings, bind_eq_ok_iff] at accepted
  obtain ⟨_, -, _, -, _, -, _, -, _, -, _, -, _, -, _, -, _, -, model, ofModel, ⟨⟩, valid, same⟩ :=
    accepted
  cases same
  exact ⟨ofModel, valid⟩

/-- A remote provider is accepted with a key only. -/
theorem apiKey_ne_none_of_check {settings : Settings} (valid : settings.check = .ok ())
    (remote : settings.model.provider ≠ .rules) : settings.model.apiKey ≠ none := by
  intro keyless
  rw [Settings.check] at valid
  simp only [then_eq_ok_iff] at valid
  obtain ⟨-, -, -, rest⟩ := valid
  split at rest
  case isTrue =>
    obtain ⟨impossible, -⟩ := then_eq_ok_iff.1 rest
    exact throw_ne_ok impossible
  case isFalse =>
    simp only [then_eq_ok_iff] at rest
    obtain ⟨-, -, -, last⟩ := rest
    rw [if_pos ⟨remote, keyless⟩] at last
    exact throw_ne_ok last

/-- Without a model and an address of its own the environment takes both, and the key, as the keys
decide; the provider is the one that is set. -/
theorem of_modelSettings {default model : ModelSettings}
    (ofModel : environment.modelSettings default = .ok model)
    (noModel : environment "NLQ_MODEL" = none)
    (noAddress : environment "NLQ_LLM_BASE_URL" = none) :
    model = { environment.keyedModel default with provider := model.provider } ∧
      match environment "NLQ_PROVIDER" with
      | some text => Provider.ofText text = .ok model.provider
      | none => model.provider = (environment.keyedModel default).provider := by
  rw [modelSettings, noModel, noAddress] at ofModel
  cases set : environment "NLQ_PROVIDER" with
  | some text =>
      rw [set] at ofModel
      obtain ⟨provider, named, same⟩ := bind_eq_ok_iff.1 ofModel
      cases same
      exact ⟨rfl, named⟩
  | none =>
      rw [set] at ofModel
      cases ofModel
      exact ⟨rfl, rfl⟩

/-- A remote model has the key, the address and the model of the first service with a key. -/
theorem exists_service_of_settings {settings : Settings}
    (accepted : environment.settings = .ok settings) (remote : settings.model.provider ≠ .rules)
    (noModel : environment "NLQ_MODEL" = none)
    (noAddress : environment "NLQ_LLM_BASE_URL" = none) :
    ∃ service key, environment.firstKeyed? = some (service, key) ∧
      settings.model = service.reachedAs settings.model.provider key ∧
      match environment "NLQ_PROVIDER" with
      | some text => Provider.ofText text = .ok settings.model.provider
      | none => settings.model.provider = service.provider := by
  obtain ⟨ofModel, valid⟩ := of_settings accepted
  obtain ⟨taken, named⟩ := of_modelSettings ofModel noModel noAddress
  rw [keyedModel_eq] at taken named
  cases found : environment.firstKeyed? with
  | none =>
      rw [found] at taken
      exact absurd (congrArg ModelSettings.apiKey taken) (apiKey_ne_none_of_check valid remote)
  | some first =>
      obtain ⟨service, key⟩ := first
      rw [found] at taken named
      exact ⟨service, key, rfl, taken, named⟩

/-- What a service and its key make belongs together when the provider is the one of the service. -/
theorem belongTogether_iff {service : Service} {key : String}
    (found : environment.firstKeyed? = some (service, key)) (provider : Provider) :
    (service.reachedAs provider key).BelongTogether environment ↔ provider = service.provider := by
  obtain ⟨isService, held⟩ := of_firstKeyed? found
  constructor
  · rintro ⟨-, other, isOther, ofProvider, sameAddress⟩
    exact ofProvider.symm.trans (provider_eq_of_address_eq isOther isService sameAddress)
  · rintro rfl
    exact ⟨⟨service, isService, rfl, key, held, rfl⟩, service, isService, rfl, rfl⟩

/-- **Provider, key and address belong together exactly when the provider is left to the keys**, or
is set to the one that they decide on.  The key, the address and the model are always those of the
first service with a key. -/
theorem settings_belongTogether_iff (environment : Environment) (settings : Settings)
    (accepted : environment.settings = .ok settings) (remote : settings.model.provider ≠ .rules)
    (noModel : environment "NLQ_MODEL" = none)
    (noAddress : environment "NLQ_LLM_BASE_URL" = none) :
    ∃ service key, environment.firstKeyed? = some (service, key) ∧
      settings.model = service.reachedAs settings.model.provider key ∧
      (settings.model.BelongTogether environment ↔
        ∀ text ∈ environment "NLQ_PROVIDER", Provider.ofText text = .ok service.provider) := by
  obtain ⟨service, key, found, taken, named⟩ :=
    exists_service_of_settings accepted remote noModel noAddress
  refine ⟨service, key, found, taken, ?_⟩
  rw [taken, belongTogether_iff found]
  cases set : environment "NLQ_PROVIDER" with
  | none =>
      rw [set] at named
      exact iff_of_true named nofun
  | some text =>
      rw [set] at named
      simp only [Option.mem_some_iff, forall_eq', named, Except.ok.injEq]

/-- An environment with a key of OpenRouter, one of Gemini, and a provider. -/
def withTwoKeys (provider : String) : Environment
  | "OPENROUTER_API_KEY" => some "or-key"
  | "GEMINI_API_KEY" => some "g-key"
  | "NLQ_PROVIDER" => some provider
  | _ => none

/-- The settings with the key of OpenRouter, and a provider. -/
def withOpenRouterKey (provider : Provider) : Settings :=
  { model := { provider, apiKey := some "or-key" } }

/-- The first service with a key is OpenRouter, whatever the provider. -/
theorem firstKeyed?_withTwoKeys (provider : String) :
    (withTwoKeys provider).firstKeyed? =
      some (⟨"OPENROUTER_API_KEY", .openRouter, "https://openrouter.ai/api/v1",
        "google/gemini-2.0-flash-exp:free"⟩, "or-key") := rfl

/-- OpenAI's name is one for the protocol of OpenRouter, so the first key is in its place. -/
theorem settings_belongTogether_openAi :
    (withTwoKeys " OpenAI ").settings = .ok (withOpenRouterKey .openRouter) ∧
      (withOpenRouterKey .openRouter).model.BelongTogether (withTwoKeys " OpenAI ") := by
  have accepted : (withTwoKeys " OpenAI ").settings = .ok (withOpenRouterKey .openRouter) := by
    decide +kernel
  obtain ⟨service, key, found, -, together⟩ :=
    settings_belongTogether_iff (withTwoKeys " OpenAI ") _ accepted (by decide) rfl rfl
  obtain ⟨rfl, -⟩ := Prod.mk.inj
    (Option.some.inj (found.symm.trans (firstKeyed?_withTwoKeys " OpenAI ")))
  refine ⟨accepted, together.2 ?_⟩
  intro text isProvider
  obtain rfl : " OpenAI " = text := Option.some.inj isProvider
  decide +kernel

/-- With Gemini for the provider the settings are accepted, the key and the address are those of
OpenRouter, and they do not belong together. -/
theorem settings_of_other_provider :
    withTwoKeys "gemini" "NLQ_MODEL" = none ∧ withTwoKeys "gemini" "NLQ_LLM_BASE_URL" = none ∧
      (withTwoKeys "gemini").settings = .ok (withOpenRouterKey .gemini) ∧
      ¬ (withOpenRouterKey .gemini).model.BelongTogether (withTwoKeys "gemini") := by
  refine ⟨rfl, rfl, by decide +kernel, ?_⟩
  intro together
  have same := (belongTogether_iff (firstKeyed?_withTwoKeys "gemini") .gemini).1 together
  exact absurd same (by decide)

end Environment

end Inquiry
