import Patchbay.Config
import Patchbay.Lib.EarlyReturn

/-!
# What the configuration loader accepts

A raw configuration is coherent when its entries are well formed, names and secrets are
distinct and the policy's parameter is in range.  The loader accepts exactly the coherent
ones, keeps the entries in file order, and otherwise reports a fault of the first entry
that has one.
-/

namespace Patchbay

open EarlyReturn

/-! ## Coherent configurations -/

def IsLetter (char : Char) : Prop := 'A' ≤ char ∧ char ≤ 'Z' ∨ 'a' ≤ char ∧ char ≤ 'z'

def IsDigit (char : Char) : Prop := '0' ≤ char ∧ char ≤ '9'

/-- A letter or underscore, then letters, digits and underscores. -/
def IsEnvName (name : String) : Prop :=
  ∃ first rest, name.toList = first :: rest ∧ (IsLetter first ∨ first = '_') ∧
    ∀ char ∈ rest, IsLetter char ∨ IsDigit char ∨ char = '_'

def HasScheme (url : String) : Prop :=
  ∃ rest, url = "http://" ++ rest ∨ url = "https://" ++ rest

/-- The variables a backend entry refers to, with their fields. -/
inductive RawBackend.Refers (b : RawBackend) : String → String → Prop
  | baseUrl : Refers b "base_url_env" b.baseUrlEnv
  | apiKey {var : String} (present : b.apiKeyEnv = some var) : Refers b "api_key_env" var

structure RawBackend.WellFormed (env : Environment) (b : RawBackend) : Prop where
  named : b.name ≠ ""
  envNames : ∀ field var, b.Refers field var → IsEnvName var
  set : ∀ field var, b.Refers field var → env var ≠ none
  baseUrl : ∀ url, env b.baseUrlEnv = some url → HasScheme url
  someModel : b.models ≠ []
  models : "" ∉ b.models
  capabilityTags : "" ∉ b.capabilityTags

structure RawVirtualKey.WellFormed (env : Environment) (vk : RawVirtualKey) : Prop where
  named : vk.name ≠ ""
  envName : IsEnvName vk.keyEnv
  secret : ∃ secret, env vk.keyEnv = some secret ∧ secret ≠ ""

/-- `static_priority`, or a weight in (0, 1]. -/
def RawPolicy.InRange (policy : RawPolicy) : Prop :=
  ∀ alpha, policy = .ewmaLatency alpha → ∃ value, alpha = .finite value ∧ 0 < value ∧ value ≤ 1

structure RawConfig.Coherent (reader : ConfigReader) (env : Environment) (raw : RawConfig) :
    Prop where
  listen : ∃ addr, reader.socketAddr raw.listen = .ok addr
  someBackend : raw.backends ≠ []
  backends : ∀ b ∈ raw.backends, b.WellFormed env
  backendNames : (raw.backends.map RawBackend.name).Nodup
  virtualKeys : ∀ vk ∈ raw.virtualKeys, vk.WellFormed env
  keyNames : (raw.virtualKeys.map RawVirtualKey.name).Nodup
  secrets : (raw.virtualKeys.map fun vk => env vk.keyEnv).Nodup
  policy : raw.policy.InRange

/-! ## What entries resolve to -/

structure RawBackend.ResolvesTo (env : Environment) (b : RawBackend) (backend : Backend) :
    Prop where
  name : backend.name = b.name
  baseUrl : ∃ url, env b.baseUrlEnv = some url ∧ backend.baseUrl = Text.trimEndMatches url '/'
  apiKey : backend.apiKey = (b.apiKeyEnv.bind env).map Secret.mk
  models : backend.models = b.models
  capabilityTags : backend.capabilityTags = b.capabilityTags
  privacy : backend.privacy = b.privacy

structure RawVirtualKey.ResolvesTo (env : Environment) (vk : RawVirtualKey)
    (resolved : VirtualKey) : Prop where
  name : resolved.name = vk.name
  key : env vk.keyEnv = some resolved.key.expose
  enforcePrivate : resolved.enforcePrivate = vk.enforcePrivate

inductive RawPolicy.ResolvesTo : RawPolicy → PolicySelection → Prop
  | staticPriority : ResolvesTo .staticPriority .staticPriority
  | ewmaLatency (alpha : F64) : ResolvesTo (.ewmaLatency alpha) (.ewmaLatency alpha)

/-- Backends and keys are listed in file order, one for each raw entry. -/
structure RawConfig.ResolvesTo (reader : ConfigReader) (env : Environment) (raw : RawConfig)
    (cfg : GatewayConfig) : Prop where
  listen : reader.socketAddr raw.listen = .ok cfg.listen
  backends : List.Forall₂ (RawBackend.ResolvesTo env) raw.backends cfg.backends
  virtualKeys : List.Forall₂ (RawVirtualKey.ResolvesTo env) raw.virtualKeys cfg.virtualKeys
  policy : raw.policy.ResolvesTo cfg.policy

/-! ## Faults -/

/-- What can be wrong with a backend entry, given those before it. -/
inductive RawBackend.Fault (env : Environment) (earlier : List RawBackend) (b : RawBackend) :
    ConfigError → Prop
  | emptyName (unnamed : b.name = "") : Fault env earlier b .emptyBackendName
  | duplicate (again : b.name ∈ earlier.map RawBackend.name) :
      Fault env earlier b (.duplicateBackend b.name)
  | invalidEnvName {field var : String} (refers : b.Refers field var)
      (invalid : ¬ IsEnvName var) : Fault env earlier b (.invalidEnvName b.name field var)
  | missingEnv {field var : String} (refers : b.Refers field var) (unset : env var = none) :
      Fault env earlier b (.missingEnv b.name field var)
  | invalidBaseUrl {url : String} (value : env b.baseUrlEnv = some url)
      (noScheme : ¬ HasScheme url) : Fault env earlier b (.invalidBaseUrl b.name url)
  | noModels (none : b.models = []) : Fault env earlier b (.noModels b.name)
  | emptyModel (empty : "" ∈ b.models) : Fault env earlier b (.emptyEntry b.name "models")
  | emptyTag (empty : "" ∈ b.capabilityTags) :
      Fault env earlier b (.emptyEntry b.name "capability_tags")

/-- What can be wrong with a virtual key, given those before it. -/
inductive RawVirtualKey.Fault (env : Environment) (earlier : List RawVirtualKey)
    (vk : RawVirtualKey) : ConfigError → Prop
  | emptyName (unnamed : vk.name = "") : Fault env earlier vk .emptyVirtualKeyName
  | duplicate (again : vk.name ∈ earlier.map RawVirtualKey.name) :
      Fault env earlier vk (.duplicateVirtualKey vk.name)
  | invalidEnvName (invalid : ¬ IsEnvName vk.keyEnv) :
      Fault env earlier vk (.invalidKeyEnvName vk.name vk.keyEnv)
  | missingEnv (unset : env vk.keyEnv = none) :
      Fault env earlier vk (.missingKeyEnv vk.name vk.keyEnv)
  | emptySecret (empty : env vk.keyEnv = some "") : Fault env earlier vk (.emptyVirtualKey vk.name)
  | duplicateSecret {other : RawVirtualKey} {secret : String} (before : other ∈ earlier)
      (theirs : env other.keyEnv = some secret) (same : env vk.keyEnv = some secret) :
      Fault env earlier vk (.duplicateVirtualKeySecret other.name vk.name)

/-- A fault of the first offender: the address, then the backends, then the keys, then the
policy. -/
inductive RawConfig.FirstFault (reader : ConfigReader) (env : Environment) (raw : RawConfig) :
    ConfigError → Prop
  | listen {source : String} (invalid : reader.socketAddr raw.listen = .error source) :
      FirstFault reader env raw (.invalidListen raw.listen source)
  | noBackends {addr : SocketAddr} (listens : reader.socketAddr raw.listen = .ok addr)
      (none : raw.backends = []) : FirstFault reader env raw .noBackends
  | backend {addr : SocketAddr} (listens : reader.socketAddr raw.listen = .ok addr)
      {error : ConfigError}
      (first : EarlyReturn.FirstFault (RawBackend.Fault env) raw.backends error) :
      FirstFault reader env raw error
  | virtualKey {addr : SocketAddr} (listens : reader.socketAddr raw.listen = .ok addr)
      (some : raw.backends ≠ []) (backends : NoFault (RawBackend.Fault env) raw.backends)
      {error : ConfigError}
      (first : EarlyReturn.FirstFault (RawVirtualKey.Fault env) raw.virtualKeys error) :
      FirstFault reader env raw error
  | policy {addr : SocketAddr} (listens : reader.socketAddr raw.listen = .ok addr)
      (some : raw.backends ≠ []) (backends : NoFault (RawBackend.Fault env) raw.backends)
      (virtualKeys : NoFault (RawVirtualKey.Fault env) raw.virtualKeys) {alpha : F64}
      (selected : raw.policy = .ewmaLatency alpha) (outside : ¬ raw.policy.InRange) :
      FirstFault reader env raw (.invalidAlpha alpha)

/-! ## The checks -/

theorem isAlpha_iff (char : Char) : char.isAlpha = true ↔ IsLetter char := by
  change (decide ('A'.val ≤ char.val ∧ char.val ≤ 'Z'.val) ||
    decide ('a'.val ≤ char.val) && decide (char.val ≤ 'z'.val)) = true ↔ _
  simp only [IsLetter, Bool.or_eq_true, Bool.and_eq_true, decide_eq_true_eq, Char.le_def]

theorem isDigit_iff (char : Char) : char.isDigit = true ↔ IsDigit char := by
  simp only [Char.isDigit, IsDigit, Bool.and_eq_true, decide_eq_true_eq, Char.le_def]

theorem isValidEnvName_iff (name : String) : isValidEnvName name = true ↔ IsEnvName name := by
  rw [isValidEnvName, IsEnvName]
  cases name.toList with
  | nil => simp
  | cons first rest =>
      simp only [Bool.and_eq_true, Bool.or_eq_true, beq_iff_eq, List.all_eq_true,
        Char.isAlphanum, isAlpha_iff, isDigit_iff, or_assoc]
      constructor
      · rintro ⟨start, others⟩
        exact ⟨first, rest, rfl, start, others⟩
      · rintro ⟨_, _, same, start, others⟩
        cases same
        exact ⟨start, others⟩

theorem startsWith_iff {text start : String} :
    Text.startsWith text start = true ↔ ∃ rest, text = start ++ rest := by
  rw [Text.startsWith, List.isPrefixOf_iff_prefix]
  constructor
  · rintro ⟨rest, same⟩
    use String.ofList rest
    apply String.toList_injective
    rw [String.toList_append, String.toList_ofList, same]
  · rintro ⟨rest, rfl⟩
    rw [String.toList_append]
    exact List.prefix_append ..

theorem hasScheme_iff {url : String} :
    (Text.startsWith url "http://" || Text.startsWith url "https://") = true ↔
      HasScheme url := by
  rw [Bool.or_eq_true, startsWith_iff, startsWith_iff, HasScheme, exists_or]

theorem any_isEmpty_iff (texts : List String) : texts.any String.isEmpty = true ↔ "" ∈ texts := by
  simp [List.any_eq_true]

theorem resolveEnv_ok {env : Environment} {name field var value : String} :
    resolveEnv env name field var = .ok value ↔ IsEnvName var ∧ env var = some value := by
  rw [resolveEnv, ← isValidEnvName_iff]
  cases isValidEnvName var with
  | false => simp
  | true => cases env var <;> simp

theorem resolveEnv_error {env : Environment} {name field var : String} {error : ConfigError} :
    resolveEnv env name field var = .error error ↔
      ¬ IsEnvName var ∧ error = .invalidEnvName name field var ∨
        IsEnvName var ∧ env var = none ∧ error = .missingEnv name field var := by
  rw [resolveEnv, ← isValidEnvName_iff]
  cases isValidEnvName var with
  | false => simp [eq_comm]
  | true => cases env var <;> simp [eq_comm]

theorem bind_eq_error {ε α β : Type} {first : Except ε α} {next : α → Except ε β} {error : ε}
    (failed : (first >>= next) = .error error) :
    first = .error error ∨ ∃ value, first = .ok value ∧ next value = .error error := by
  cases first with
  | error firstError =>
      cases failed
      exact .inl rfl
  | ok value => exact .inr ⟨value, rfl, failed⟩

/-! ## Backends -/

namespace RawBackend

variable {env : Environment} {b : RawBackend}

/-- The part of `resolve` about the base URL. -/
def resolveBaseUrl (env : Environment) (b : RawBackend) : Except ConfigError String :=
  match resolveEnv env b.name "base_url_env" b.baseUrlEnv with
  | .error error => .error error
  | .ok url =>
      if !(Text.startsWith url "http://" || Text.startsWith url "https://") then
        .error (.invalidBaseUrl b.name url)
      else .ok url

/-- The part about the API key. -/
def resolveApiKey (env : Environment) (b : RawBackend) : Except ConfigError (Option Secret) :=
  match b.apiKeyEnv with
  | none => .ok none
  | some var => (some ∘ Secret.mk) <$> resolveEnv env b.name "api_key_env" var

/-- The part about models and tags. -/
def checkLists (b : RawBackend) : Except ConfigError Unit :=
  if b.models.isEmpty then .error (.noModels b.name)
  else if b.models.any String.isEmpty then .error (.emptyEntry b.name "models")
  else if b.capabilityTags.any String.isEmpty then
    .error (.emptyEntry b.name "capability_tags")
  else .ok ()

theorem resolve_eq : b.resolve env = do
    let baseUrl ← b.resolveBaseUrl env
    let apiKey ← b.resolveApiKey env
    b.checkLists
    return {
      name := b.name
      baseUrl := Text.trimEndMatches baseUrl '/'
      apiKey
      models := b.models
      capabilityTags := b.capabilityTags
      privacy := b.privacy } := by
  unfold resolve resolveBaseUrl
  cases resolveEnv env b.name "base_url_env" b.baseUrlEnv with
  | error error => rfl
  | ok url =>
      dsimp only [bind, Except.bind, throw, throwThe, MonadExceptOf.throw]
      split
      · rfl
      · unfold resolveApiKey checkLists
        cases b.apiKeyEnv with
        | none =>
            dsimp only [pure, Except.pure]
            split
            · rfl
            · split
              · rfl
              · split <;> rfl
        | some var =>
            dsimp only [pure, Except.pure]
            cases (some ∘ Secret.mk) <$> resolveEnv env b.name "api_key_env" var with
            | error error => rfl
            | ok key =>
                dsimp only
                split
                · rfl
                · split
                  · rfl
                  · split <;> rfl

theorem resolveBaseUrl_ok {url : String} (resolved : b.resolveBaseUrl env = .ok url) :
    IsEnvName b.baseUrlEnv ∧ env b.baseUrlEnv = some url ∧ HasScheme url := by
  unfold resolveBaseUrl at resolved
  cases looked : resolveEnv env b.name "base_url_env" b.baseUrlEnv with
  | error error =>
      rw [looked] at resolved
      cases resolved
  | ok value =>
      rw [looked] at resolved
      dsimp only at resolved
      split at resolved
      · cases resolved
      · next scheme =>
          cases resolved
          rw [Bool.not_eq_true', Bool.not_eq_false, hasScheme_iff] at scheme
          rcases resolveEnv_ok.mp looked with ⟨valid, set⟩
          exact ⟨valid, set, scheme⟩

theorem resolveBaseUrl_error {error : ConfigError}
    (failed : b.resolveBaseUrl env = .error error) (earlier : List RawBackend) :
    b.Fault env earlier error := by
  unfold resolveBaseUrl at failed
  cases looked : resolveEnv env b.name "base_url_env" b.baseUrlEnv with
  | error lookupError =>
      rw [looked] at failed
      cases failed
      rcases resolveEnv_error.mp looked with ⟨invalid, rfl⟩ | ⟨-, unset, rfl⟩
      · exact .invalidEnvName .baseUrl invalid
      · exact .missingEnv .baseUrl unset
  | ok url =>
      rw [looked] at failed
      dsimp only at failed
      split at failed
      · next noScheme =>
          cases failed
          apply Fault.invalidBaseUrl (resolveEnv_ok.mp looked).2
          rw [← hasScheme_iff]
          simpa using noScheme
      · cases failed

theorem resolveApiKey_ok {key : Option Secret} (resolved : b.resolveApiKey env = .ok key) :
    (∀ var, b.apiKeyEnv = some var → IsEnvName var ∧ env var ≠ none) ∧
      key = (b.apiKeyEnv.bind env).map Secret.mk := by
  unfold resolveApiKey at resolved
  cases refers : b.apiKeyEnv with
  | none =>
      rw [refers] at resolved
      cases resolved
      simp
  | some var =>
      rw [refers] at resolved
      dsimp only at resolved
      cases looked : resolveEnv env b.name "api_key_env" var with
      | error error =>
          rw [looked] at resolved
          cases resolved
      | ok value =>
          rw [looked] at resolved
          cases resolved
          rcases resolveEnv_ok.mp looked with ⟨valid, set⟩
          simp [valid, set]

theorem resolveApiKey_error {error : ConfigError}
    (failed : b.resolveApiKey env = .error error) (earlier : List RawBackend) :
    b.Fault env earlier error := by
  unfold resolveApiKey at failed
  cases refers : b.apiKeyEnv with
  | none =>
      rw [refers] at failed
      cases failed
  | some var =>
      rw [refers] at failed
      dsimp only at failed
      cases looked : resolveEnv env b.name "api_key_env" var with
      | error lookupError =>
          rw [looked] at failed
          cases failed
          rcases resolveEnv_error.mp looked with ⟨invalid, rfl⟩ | ⟨-, unset, rfl⟩
          · exact .invalidEnvName (.apiKey refers) invalid
          · exact .missingEnv (.apiKey refers) unset
      | ok value =>
          rw [looked] at failed
          cases failed

theorem checkLists_ok {done : Unit} (passed : b.checkLists = .ok done) :
    b.models ≠ [] ∧ "" ∉ b.models ∧ "" ∉ b.capabilityTags := by
  unfold checkLists at passed
  split at passed
  · cases passed
  · next someModel =>
      split at passed
      · cases passed
      · next models =>
          split at passed
          · cases passed
          · next tags =>
              rw [any_isEmpty_iff] at models tags
              exact ⟨by simpa using someModel, models, tags⟩

theorem checkLists_error {error : ConfigError} (failed : b.checkLists = .error error)
    (earlier : List RawBackend) : b.Fault env earlier error := by
  unfold checkLists at failed
  split at failed
  · next noModel =>
      cases failed
      exact .noModels (List.isEmpty_iff.mp noModel)
  · split at failed
    · next empty =>
        cases failed
        exact .emptyModel ((any_isEmpty_iff _).mp empty)
    · split at failed
      · next empty =>
          cases failed
          exact .emptyTag ((any_isEmpty_iff _).mp empty)
      · cases failed

theorem resolve_error {error : ConfigError} (failed : b.resolve env = .error error)
    (earlier : List RawBackend) : b.Fault env earlier error := by
  rw [resolve_eq] at failed
  rcases bind_eq_error failed with failed | ⟨url, -, failed⟩
  · exact resolveBaseUrl_error failed earlier
  · rcases bind_eq_error failed with failed | ⟨key, -, failed⟩
    · exact resolveApiKey_error failed earlier
    · rcases bind_eq_error failed with failed | ⟨done, -, failed⟩
      · exact checkLists_error failed earlier
      · cases failed

theorem resolve_ok {backend : Backend} (named : b.name ≠ "")
    (resolved : b.resolve env = .ok backend) :
    b.WellFormed env ∧ b.ResolvesTo env backend := by
  rw [resolve_eq] at resolved
  rcases bind_eq_ok resolved with ⟨url, urlResolved, resolved⟩
  rcases bind_eq_ok resolved with ⟨key, keyResolved, resolved⟩
  rcases bind_eq_ok resolved with ⟨done, listsChecked, resolved⟩
  cases resolved
  rcases resolveBaseUrl_ok urlResolved with ⟨urlName, urlSet, scheme⟩
  rcases resolveApiKey_ok keyResolved with ⟨keyRefers, sameKey⟩
  rcases checkLists_ok listsChecked with ⟨someModel, models, tags⟩
  constructor
  · constructor
    · exact named
    · intro field var refers
      cases refers with
      | baseUrl => exact urlName
      | apiKey present => exact (keyRefers var present).1
    · intro field var refers
      cases refers with
      | baseUrl => simp [urlSet]
      | apiKey present => exact (keyRefers var present).2
    · intro other set
      rw [urlSet, Option.some.injEq] at set
      rwa [← set]
    · exact someModel
    · exact models
    · exact tags
  · exact ⟨rfl, ⟨url, urlSet, rfl⟩, sameKey, rfl, rfl, rfl⟩

/-- A well-formed backend with a new name has no fault. -/
theorem WellFormed.noFault (wellFormed : b.WellFormed env) {earlier : List RawBackend}
    (new : b.name ∉ earlier.map name) (error : ConfigError) : ¬ b.Fault env earlier error := by
  intro fault
  cases fault with
  | emptyName unnamed => exact wellFormed.named unnamed
  | duplicate again => exact new again
  | invalidEnvName refers invalid => exact invalid (wellFormed.envNames _ _ refers)
  | missingEnv refers unset => exact wellFormed.set _ _ refers unset
  | invalidBaseUrl value noScheme => exact noScheme (wellFormed.baseUrl _ value)
  | noModels none => exact wellFormed.someModel none
  | emptyModel empty => exact wellFormed.models empty
  | emptyTag empty => exact wellFormed.capabilityTags empty

theorem wellFormed_of_noFault {earlier : List RawBackend}
    (clean : ∀ error, ¬ b.Fault env earlier error) : b.WellFormed env where
  named unnamed := clean _ (.emptyName unnamed)
  envNames field var refers := by
    by_contra invalid
    exact clean _ (.invalidEnvName refers invalid)
  set field var refers unset := clean _ (.missingEnv refers unset)
  baseUrl url value := by
    by_contra noScheme
    exact clean _ (.invalidBaseUrl value noScheme)
  someModel none := clean _ (.noModels none)
  models empty := clean _ (.emptyModel empty)
  capabilityTags empty := clean _ (.emptyTag empty)

/-- One round of the loop: its accumulator holds the names seen. -/
def resolveStep (env : Environment) (names : Finset String) (b : RawBackend) :
    Except ConfigError (Finset String × Backend) :=
  if b.name.isEmpty then .error .emptyBackendName
  else if b.name ∈ names then .error (.duplicateBackend b.name)
  else (b.resolve env).map fun backend => (insert b.name names, backend)

theorem resolveBackends_eq (raw : List RawBackend) (names : Finset String)
    (backends : List Backend) :
    resolveBackends env raw names backends =
      (loop (resolveStep env) names raw).map (backends ++ ·) := by
  induction raw generalizing names backends with
  | nil => simp [resolveBackends, loop, Except.map]
  | cons b rest ih =>
      simp only [resolveBackends, loop, resolveStep]
      split
      · rfl
      · split
        · rfl
        · cases b.resolve env with
          | error error => rfl
          | ok backend =>
              simp only [Except.map, ih]
              cases loop (resolveStep env) (insert b.name names) rest <;> simp

theorem resolveStep_checks :
    Checks (resolveStep env) (Fault env)
      (fun b backend => b.WellFormed env ∧ b.ResolvesTo env backend)
      (fun earlier names => ∀ name, name ∈ names ↔ name ∈ earlier.map RawBackend.name) where
  error := by
    intro earlier names b error seen failed
    simp only [resolveStep] at failed
    split at failed
    · next unnamed =>
        cases failed
        exact .emptyName (String.isEmpty_iff.mp unnamed)
    · split at failed
      · next again =>
          cases failed
          exact .duplicate ((seen b.name).mp again)
      · cases resolved : b.resolve env with
        | error resolveError =>
            rw [resolved] at failed
            cases failed
            exact resolve_error resolved earlier
        | ok backend =>
            rw [resolved] at failed
            cases failed
  ok := by
    intro earlier names b next backend seen succeeded
    simp only [resolveStep] at succeeded
    split at succeeded
    · cases succeeded
    · next named =>
        split at succeeded
        · cases succeeded
        · next new =>
            cases resolved : b.resolve env with
            | error error =>
                rw [resolved] at succeeded
                cases succeeded
            | ok value =>
                rw [resolved] at succeeded
                cases succeeded
                have spec := resolve_ok (mt String.isEmpty_iff.mpr named) resolved
                constructor
                · exact spec.1.noFault (mt (seen b.name).mpr new)
                · constructor
                  · exact spec
                  · intro name
                    simp [seen name, or_comm]

end RawBackend

/-! ## Virtual keys -/

namespace RawVirtualKey

variable {env : Environment} {vk : RawVirtualKey}

theorem resolve_ok {secret : String} (resolved : vk.resolve env = .ok secret) :
    IsEnvName vk.keyEnv ∧ env vk.keyEnv = some secret ∧ secret ≠ "" := by
  unfold resolve at resolved
  split at resolved
  · cases resolved
  · next valid =>
      split at resolved
      · cases resolved
      · next key set =>
          split at resolved
          · cases resolved
          · next nonempty =>
              cases resolved
              rw [Bool.not_eq_true', Bool.not_eq_false, isValidEnvName_iff] at valid
              exact ⟨valid, set, mt String.isEmpty_iff.mpr nonempty⟩

theorem resolve_error {error : ConfigError} (failed : vk.resolve env = .error error)
    (earlier : List RawVirtualKey) : vk.Fault env earlier error := by
  unfold resolve at failed
  split at failed
  · next invalid =>
      cases failed
      apply Fault.invalidEnvName
      rw [← isValidEnvName_iff]
      simpa using invalid
  · split at failed
    · next unset =>
        cases failed
        exact .missingEnv unset
    · next key set =>
        split at failed
        · next empty =>
            cases failed
            apply Fault.emptySecret
            rw [set, String.isEmpty_iff.mp empty]
        · cases failed

theorem WellFormed.noFault (wellFormed : vk.WellFormed env) {earlier : List RawVirtualKey}
    (newName : vk.name ∉ earlier.map name)
    (newSecret : env vk.keyEnv ∉ earlier.map fun other => env other.keyEnv)
    (error : ConfigError) : ¬ vk.Fault env earlier error := by
  rcases wellFormed.secret with ⟨secret, set, nonempty⟩
  intro fault
  cases fault with
  | emptyName unnamed => exact wellFormed.named unnamed
  | duplicate again => exact newName again
  | invalidEnvName invalid => exact invalid wellFormed.envName
  | missingEnv unset => simp [set] at unset
  | emptySecret empty =>
      rw [set, Option.some.injEq] at empty
      exact nonempty empty
  | duplicateSecret before theirs same =>
      apply newSecret
      rw [same, ← theirs]
      exact List.mem_map_of_mem before

theorem wellFormed_of_noFault {earlier : List RawVirtualKey}
    (clean : ∀ error, ¬ vk.Fault env earlier error) : vk.WellFormed env where
  named unnamed := clean _ (.emptyName unnamed)
  envName := by
    by_contra invalid
    exact clean _ (.invalidEnvName invalid)
  secret := by
    cases set : env vk.keyEnv with
    | none => exact (clean _ (.missingEnv set)).elim
    | some secret =>
        use secret, rfl
        rintro rfl
        exact clean _ (.emptySecret set)

/-- The names seen, and the secrets seen with the keys that introduced them. -/
structure Seen (env : Environment) (earlier : List RawVirtualKey)
    (state : Finset String × Table String String) : Prop where
  names : ∀ name, name ∈ state.1 ↔ name ∈ earlier.map RawVirtualKey.name
  secrets : ∀ secret owner, state.2.lookup secret = some owner ↔
    ∃ other ∈ earlier, env other.keyEnv = some secret ∧ other.name = owner

/-- One round of the loop. -/
def resolveStep (env : Environment) (state : Finset String × Table String String)
    (vk : RawVirtualKey) :
    Except ConfigError ((Finset String × Table String String) × VirtualKey) :=
  if vk.name.isEmpty then .error .emptyVirtualKeyName
  else if vk.name ∈ state.1 then .error (.duplicateVirtualKey vk.name)
  else
    match vk.resolve env with
    | .error error => .error error
    | .ok key =>
        match state.2.lookup key with
        | some previous => .error (.duplicateVirtualKeySecret previous vk.name)
        | none => .ok ((insert vk.name state.1, state.2.insert key vk.name),
            { name := vk.name, key := ⟨key⟩, enforcePrivate := vk.enforcePrivate })

theorem resolveVirtualKeys_eq (raw : List RawVirtualKey) (names : Finset String)
    (secrets : Table String String) (keys : List VirtualKey) :
    resolveVirtualKeys env raw names secrets keys =
      (loop (resolveStep env) (names, secrets) raw).map (keys ++ ·) := by
  induction raw generalizing names secrets keys with
  | nil => simp [resolveVirtualKeys, loop, Except.map]
  | cons vk rest ih =>
      simp only [resolveVirtualKeys, loop, resolveStep]
      split
      · rfl
      · split
        · rfl
        · cases vk.resolve env with
          | error error => rfl
          | ok key =>
              dsimp only
              cases secrets.lookup key with
              | some previous => rfl
              | none =>
                  simp only [ih]
                  cases loop (resolveStep env) (insert vk.name names,
                    secrets.insert key vk.name) rest <;> simp [Except.map]

theorem Seen.concat {earlier : List RawVirtualKey} {state : Finset String × Table String String}
    (seen : Seen env earlier state) {secret : String} (set : env vk.keyEnv = some secret)
    (new : state.2.lookup secret = none) :
    Seen env (earlier ++ [vk]) (insert vk.name state.1, state.2.insert secret vk.name) where
  names name := by simp [seen.names name, or_comm]
  secrets other owner := by
    by_cases same : other = secret
    · subst same
      rw [Finmap.lookup_insert, Option.some.injEq]
      constructor
      · rintro rfl
        exact ⟨vk, by simp, set, rfl⟩
      · rintro ⟨key, membership, theirs, rfl⟩
        rcases List.mem_append.mp membership with before | last
        · rw [(seen.secrets other key.name).mpr ⟨key, before, theirs, rfl⟩] at new
          cases new
        · rw [List.mem_singleton.mp last]
    · rw [Finmap.lookup_insert_of_ne _ same, seen.secrets]
      constructor
      · rintro ⟨key, before, theirs⟩
        exact ⟨key, List.mem_append_left _ before, theirs⟩
      · rintro ⟨key, membership, theirs, named⟩
        rcases List.mem_append.mp membership with before | last
        · exact ⟨key, before, theirs, named⟩
        · rw [List.mem_singleton.mp last, set, Option.some.injEq] at theirs
          exact absurd theirs.symm same

theorem resolveStep_checks :
    Checks (resolveStep env) (Fault env)
      (fun vk key => vk.WellFormed env ∧ vk.ResolvesTo env key) (Seen env) where
  error := by
    intro earlier state vk error seen failed
    simp only [resolveStep] at failed
    split at failed
    · next unnamed =>
        cases failed
        exact .emptyName (String.isEmpty_iff.mp unnamed)
    · split at failed
      · next again =>
          cases failed
          exact .duplicate ((seen.names vk.name).mp again)
      · split at failed
        · next resolveError resolved =>
            cases failed
            exact resolve_error resolved earlier
        · next key resolved =>
            split at failed
            · next previous known =>
                cases failed
                rcases (seen.secrets key previous).mp known with ⟨other, before, theirs, rfl⟩
                exact .duplicateSecret before theirs (resolve_ok resolved).2.1
            · cases failed
  ok := by
    intro earlier state vk next value seen succeeded
    simp only [resolveStep] at succeeded
    split at succeeded
    · cases succeeded
    · next named =>
        split at succeeded
        · cases succeeded
        · next newName =>
            split at succeeded
            · cases succeeded
            · next key resolved =>
                split at succeeded
                · cases succeeded
                · next newSecret =>
                    cases succeeded
                    rcases resolve_ok resolved with ⟨valid, set, nonempty⟩
                    have wellFormed : vk.WellFormed env :=
                      ⟨mt String.isEmpty_iff.mpr named, valid, key, set, nonempty⟩
                    constructor
                    · apply wellFormed.noFault (mt (seen.names vk.name).mpr newName)
                      intro again
                      rcases List.mem_map.mp again with ⟨other, before, theirs⟩
                      rw [set] at theirs
                      rw [(seen.secrets key other.name).mpr ⟨other, before, theirs, rfl⟩]
                        at newSecret
                      cases newSecret
                    · exact ⟨⟨wellFormed, rfl, set, rfl⟩, seen.concat set newSecret⟩

end RawVirtualKey

/-! ## Coherence as the absence of faults -/

/-- In a list without repeated keys, an entry's key is new among those before it. -/
theorem notMem_map_of_nodup {α κ : Type} (key : α → κ) {before after : List α} {entry : α}
    (distinct : ((before ++ entry :: after).map key).Nodup) : key entry ∉ before.map key := by
  rw [List.map_append, List.map_cons] at distinct
  intro again
  exact (List.nodup_append.mp distinct).2.2 _ again _ List.mem_cons_self rfl

theorem RawBackend.noFault_iff {env : Environment} {raw : List RawBackend} :
    NoFault (RawBackend.Fault env) raw ↔
      (∀ b ∈ raw, b.WellFormed env) ∧ (raw.map RawBackend.name).Nodup := by
  constructor
  · intro clean
    constructor
    · intro b membership
      rcases clean.of_mem membership with ⟨before, cleanEntry⟩
      exact wellFormed_of_noFault cleanEntry
    · exact clean.nodup fun before b again => ⟨_, .duplicate again⟩
  · rintro ⟨wellFormed, distinct⟩ before b after rfl
    exact (wellFormed b (by simp)).noFault (notMem_map_of_nodup RawBackend.name distinct)

theorem RawVirtualKey.noFault_iff {env : Environment} {raw : List RawVirtualKey} :
    NoFault (RawVirtualKey.Fault env) raw ↔
      (∀ vk ∈ raw, vk.WellFormed env) ∧ (raw.map RawVirtualKey.name).Nodup ∧
        (raw.map fun vk => env vk.keyEnv).Nodup := by
  constructor
  · intro clean
    constructor
    · intro vk membership
      rcases clean.of_mem membership with ⟨before, cleanEntry⟩
      exact wellFormed_of_noFault cleanEntry
    · constructor
      · exact clean.nodup fun before vk again => ⟨_, .duplicate again⟩
      · apply clean.nodup
        intro before vk again
        cases set : env vk.keyEnv with
        | none => exact ⟨_, .missingEnv set⟩
        | some secret =>
            rcases List.mem_map.mp again with ⟨other, membership, theirs⟩
            exact ⟨_, .duplicateSecret membership (theirs.trans set) set⟩
  · rintro ⟨wellFormed, distinctNames, distinctSecrets⟩ before vk after rfl
    apply (wellFormed vk (by simp)).noFault (notMem_map_of_nodup RawVirtualKey.name distinctNames)
    exact notMem_map_of_nodup (fun other : RawVirtualKey => env other.keyEnv) distinctSecrets

theorem inUnitInterval_iff (alpha : F64) :
    alpha.inUnitInterval = true ↔ ∃ value, alpha = .finite value ∧ 0 < value ∧ value ≤ 1 := by
  cases alpha with
  | finite value => simp [F64.inUnitInterval]
  | infinite negative => simp [F64.inUnitInterval]
  | nan => simp [F64.inUnitInterval]

theorem RawPolicy.resolve_ok {policy : RawPolicy} {selection : PolicySelection}
    (resolved : policy.resolve = .ok selection) :
    policy.InRange ∧ policy.ResolvesTo selection := by
  cases policy with
  | staticPriority =>
      cases resolved
      exact ⟨nofun, .staticPriority⟩
  | ewmaLatency alpha =>
      simp only [resolve] at resolved
      split at resolved
      · cases resolved
      · next inside =>
          cases resolved
          rw [Bool.not_eq_true', Bool.not_eq_false, inUnitInterval_iff] at inside
          constructor
          · intro other same
            cases same
            exact inside
          · exact .ewmaLatency alpha

theorem RawPolicy.resolve_error {policy : RawPolicy} {error : ConfigError}
    (failed : policy.resolve = .error error) :
    ∃ alpha, policy = .ewmaLatency alpha ∧ ¬ policy.InRange ∧ error = .invalidAlpha alpha := by
  cases policy with
  | staticPriority => cases failed
  | ewmaLatency alpha =>
      simp only [resolve] at failed
      split at failed
      · next outside =>
          cases failed
          use alpha, rfl
          constructor
          · intro inRange
            have inside := (inUnitInterval_iff alpha).mpr (inRange alpha rfl)
            simp [inside] at outside
          · rfl
      · cases failed

/-! ## The loader -/

section

variable {reader : ConfigReader} {env : Environment} {raw : RawConfig} {text : String}

theorem resolveBackends_spec (raw : List RawBackend) :
    (∀ error, resolveBackends env raw ∅ [] = .error error →
        FirstFault (RawBackend.Fault env) raw error) ∧
      ∀ backends, resolveBackends env raw ∅ [] = .ok backends →
        NoFault (RawBackend.Fault env) raw ∧
          List.Forall₂ (fun b backend => b.WellFormed env ∧ b.ResolvesTo env backend)
            raw backends := by
  have unchanged : resolveBackends env raw ∅ [] =
      loop (RawBackend.resolveStep env) ∅ raw := by
    rw [RawBackend.resolveBackends_eq]
    cases loop (RawBackend.resolveStep env) ∅ raw <;> rfl
  rw [unchanged]
  exact loop_spec RawBackend.resolveStep_checks (by simp) noFault_nil raw

theorem resolveVirtualKeys_spec (raw : List RawVirtualKey) :
    (∀ error, resolveVirtualKeys env raw ∅ ∅ [] = .error error →
        FirstFault (RawVirtualKey.Fault env) raw error) ∧
      ∀ keys, resolveVirtualKeys env raw ∅ ∅ [] = .ok keys →
        NoFault (RawVirtualKey.Fault env) raw ∧
          List.Forall₂ (fun vk key => vk.WellFormed env ∧ vk.ResolvesTo env key) raw keys := by
  have unchanged : resolveVirtualKeys env raw ∅ ∅ [] =
      loop (RawVirtualKey.resolveStep env) (∅, ∅) raw := by
    rw [RawVirtualKey.resolveVirtualKeys_eq]
    cases loop (RawVirtualKey.resolveStep env) (∅, ∅) raw <;> rfl
  rw [unchanged]
  apply loop_spec RawVirtualKey.resolveStep_checks _ noFault_nil raw
  constructor
  · simp
  · simp

theorem mapError_eq_error {ε ε' α : Type} {first : Except ε α} {relabel : ε → ε'} {error : ε'}
    (failed : first.mapError relabel = .error error) :
    ∃ cause, first = .error cause ∧ error = relabel cause := by
  cases first with
  | error cause =>
      cases failed
      exact ⟨cause, rfl, rfl⟩
  | ok value => cases failed

theorem fromTomlStr_error (parsed : reader.toml text = .ok raw) {error : ConfigError}
    (failed : GatewayConfig.fromTomlStr reader text env = .error error) :
    raw.FirstFault reader env error := by
  unfold GatewayConfig.fromTomlStr at failed
  rw [parsed] at failed
  rcases bind_eq_error failed with failed | ⟨_, same, failed⟩
  · cases failed
  cases same
  rcases bind_eq_error failed with failed | ⟨addr, addressed, failed⟩
  · rcases mapError_eq_error failed with ⟨source, invalid, rfl⟩
    exact .listen invalid
  have listens := mapError_eq_ok addressed
  by_cases noBackends : raw.backends = []
  · simp only [noBackends, List.isEmpty_nil, if_true] at failed
    cases failed
    exact .noBackends listens noBackends
  simp only [List.isEmpty_iff, noBackends, if_false] at failed
  rcases bind_eq_error failed with failed | ⟨backends, resolved, failed⟩
  · exact .backend listens ((resolveBackends_spec raw.backends).1 error failed)
  have backendsClean := ((resolveBackends_spec raw.backends).2 backends resolved).1
  rcases bind_eq_error failed with failed | ⟨keys, keysResolved, failed⟩
  · exact .virtualKey listens noBackends backendsClean
      ((resolveVirtualKeys_spec raw.virtualKeys).1 error failed)
  have keysClean := ((resolveVirtualKeys_spec raw.virtualKeys).2 keys keysResolved).1
  rcases bind_eq_error failed with failed | ⟨policy, -, failed⟩
  · rcases RawPolicy.resolve_error failed with ⟨alpha, selected, outside, rfl⟩
    exact .policy listens noBackends backendsClean keysClean selected outside
  · cases failed

theorem fromTomlStr_ok (parsed : reader.toml text = .ok raw) {cfg : GatewayConfig}
    (accepted : GatewayConfig.fromTomlStr reader text env = .ok cfg) :
    raw.Coherent reader env ∧ raw.ResolvesTo reader env cfg := by
  rcases fromTomlStr_stages accepted with
    ⟨_, same, listens, someBackend, backendsResolved, keysResolved, policyResolved⟩
  rw [parsed, Except.ok.injEq] at same
  subst same
  have backends := (resolveBackends_spec raw.backends).2 _ backendsResolved
  have keys := (resolveVirtualKeys_spec raw.virtualKeys).2 _ keysResolved
  have policy := RawPolicy.resolve_ok policyResolved
  have cleanBackends := RawBackend.noFault_iff.mp backends.1
  have cleanKeys := RawVirtualKey.noFault_iff.mp keys.1
  constructor
  · exact ⟨⟨_, listens⟩, someBackend, cleanBackends.1, cleanBackends.2, cleanKeys.1,
      cleanKeys.2.1, cleanKeys.2.2, policy.1⟩
  · exact ⟨listens, backends.2.imp fun _ _ both => both.2, keys.2.imp fun _ _ both => both.2,
      policy.2⟩

/-- A coherent configuration has no fault to report. -/
theorem RawConfig.Coherent.not_firstFault (coherent : raw.Coherent reader env)
    (error : ConfigError) : ¬ raw.FirstFault reader env error := by
  have backends := RawBackend.noFault_iff.mpr ⟨coherent.backends, coherent.backendNames⟩
  have keys := RawVirtualKey.noFault_iff.mpr
    ⟨coherent.virtualKeys, coherent.keyNames, coherent.secrets⟩
  rcases coherent.listen with ⟨addr, listens⟩
  intro fault
  cases fault with
  | listen invalid =>
      rw [listens] at invalid
      cases invalid
  | noBackends _ none => exact coherent.someBackend none
  | backend _ first => exact backends.not_firstFault error first
  | virtualKey _ _ _ first => exact keys.not_firstFault error first
  | policy _ _ _ _ _ outside => exact outside coherent.policy

end

/-- **The loader accepts exactly the coherent configurations.**  It keeps their entries in
file order, and otherwise reports a fault of the first offender. -/
theorem fromTomlStr_accepts_coherent {reader : ConfigReader} {text : String} {raw : RawConfig}
    (parsed : reader.toml text = .ok raw) (env : Environment) :
    ((∃ cfg, GatewayConfig.fromTomlStr reader text env = .ok cfg) ↔ raw.Coherent reader env) ∧
      (∀ cfg, GatewayConfig.fromTomlStr reader text env = .ok cfg →
        raw.ResolvesTo reader env cfg) ∧
      ∀ error, GatewayConfig.fromTomlStr reader text env = .error error →
        raw.FirstFault reader env error := by
  constructor
  · constructor
    · rintro ⟨cfg, accepted⟩
      exact (fromTomlStr_ok parsed accepted).1
    · intro coherent
      cases loaded : GatewayConfig.fromTomlStr reader text env with
      | ok cfg => exact ⟨cfg, rfl⟩
      | error error =>
          exact (coherent.not_firstFault error (fromTomlStr_error parsed loaded)).elim
  · constructor
    · intro cfg accepted
      exact (fromTomlStr_ok parsed accepted).2
    · intro error failed
      exact fromTomlStr_error parsed failed

namespace Sample

/-- A file with one backend and one key. -/
def oneBackendToml : String :=
  "[[backends]]\nname = \"local\"\nbase_url_env = \"LLM_BASE_URL\"\n" ++
    "models = [\"m\"]\nprivacy = \"local\"\n\n" ++
    "[[virtual_keys]]\nname = \"dev\"\nkey_env = \"DEV_KEY\"\n"

def oneBackend : RawConfig where
  listen := "0.0.0.0:8080"
  backends := [
    { name := "local", baseUrlEnv := "LLM_BASE_URL", apiKeyEnv := none, models := ["m"]
      capabilityTags := [], privacy := .Local }]
  virtualKeys := [{ name := "dev", keyEnv := "DEV_KEY", enforcePrivate := false }]
  policy := .staticPriority

/-- Reads that file and its address, and nothing else. -/
def oneBackendReader : ConfigReader where
  toml text := if text = oneBackendToml then .ok oneBackend else .error "unknown"
  socketAddr addr := if addr = "0.0.0.0:8080" then .ok ⟨"0.0.0.0", 8080⟩ else .error "unknown"

/-- An environment with this base URL. -/
def environmentWith (baseUrl : String) : Environment
  | "LLM_BASE_URL" => some baseUrl
  | "DEV_KEY" => some "sk-dev"
  | _ => none

end Sample

theorem fromTomlStr_accepts_coherent_oneBackend :
    let env := Sample.environmentWith "http://127.0.0.1:8000/"
    let load := GatewayConfig.fromTomlStr Sample.oneBackendReader Sample.oneBackendToml env
    ((∃ cfg, load = .ok cfg) ↔ Sample.oneBackend.Coherent Sample.oneBackendReader env) ∧
      (∀ cfg, load = .ok cfg → Sample.oneBackend.ResolvesTo Sample.oneBackendReader env cfg) ∧
      ∀ error, load = .error error →
        Sample.oneBackend.FirstFault Sample.oneBackendReader env error :=
  fromTomlStr_accepts_coherent (by simp [Sample.oneBackendReader]) _

end Patchbay
