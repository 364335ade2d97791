import Mathlib.Algebra.Order.Ring.Rat
import Patchbay.Lib.Table
import Patchbay.Lib.Text

/-!
# Gateway configuration

The on-disk configuration is deserialized by the TOML reader, then resolved
against the environment and validated entry by entry in file order.  A
configuration that is accepted has distinct backend names, distinct virtual-key
names and distinct virtual-key secrets.
-/

namespace Patchbay

/-- Data-placement class of a backend. -/
inductive Privacy where
  | Local
  | External
  deriving DecidableEq, Repr

/-- A secret resolved from the environment. -/
structure Secret where
  expose : String
  deriving DecidableEq

/-- A fully resolved upstream backend. -/
structure Backend where
  name : String
  baseUrl : String
  apiKey : Option Secret
  models : List String
  capabilityTags : List String
  privacy : Privacy
  deriving DecidableEq

namespace Backend

def servesModel (backend : Backend) (model : String) : Bool :=
  backend.models.any (· == model)

def hasCapabilityTags (backend : Backend) (required : List String) : Bool :=
  required.all fun tag => backend.capabilityTags.any (· == tag)

end Backend

/-- A client-facing key the gateway accepts. -/
structure VirtualKey where
  name : String
  key : Secret
  enforcePrivate : Bool
  deriving DecidableEq

/-- A double as the configuration reads it. -/
inductive F64 where
  | finite (value : ℚ)
  | infinite (negative : Bool)
  | nan
  deriving DecidableEq

namespace F64

/-- `alpha > 0.0 && alpha <= 1.0`; no comparison with NaN holds. -/
def inUnitInterval : F64 → Bool
  | .finite value => 0 < value && value ≤ 1
  | .infinite _ => false
  | .nan => false

end F64

/-- Which routing policy the gateway runs with. -/
inductive PolicySelection where
  | staticPriority
  | ewmaLatency (alpha : F64)
  deriving DecidableEq

structure SocketAddr where
  ip : String
  port : UInt16
  deriving DecidableEq

/-- The validated, fully resolved gateway configuration. -/
structure GatewayConfig where
  listen : SocketAddr
  backends : List Backend
  virtualKeys : List VirtualKey
  policy : PolicySelection

inductive ConfigError where
  | parse (message : String)
  | invalidListen (addr source : String)
  | noBackends
  | emptyBackendName
  | duplicateBackend (name : String)
  | invalidEnvName (name field value : String)
  | missingEnv (name field var : String)
  | invalidBaseUrl (name url : String)
  | noModels (name : String)
  | emptyEntry (name field : String)
  | emptyVirtualKeyName
  | duplicateVirtualKey (name : String)
  | invalidKeyEnvName (name value : String)
  | missingKeyEnv (name var : String)
  | emptyVirtualKey (name : String)
  | duplicateVirtualKeySecret (previous name : String)
  | invalidAlpha (alpha : F64)
  deriving DecidableEq

/-! ## The on-disk representation -/

structure RawBackend where
  name : String
  baseUrlEnv : String
  apiKeyEnv : Option String
  models : List String
  capabilityTags : List String
  privacy : Privacy

structure RawVirtualKey where
  name : String
  keyEnv : String
  enforcePrivate : Bool

inductive RawPolicy where
  | staticPriority
  | ewmaLatency (alpha : F64)

structure RawConfig where
  listen : String
  backends : List RawBackend
  virtualKeys : List RawVirtualKey
  policy : RawPolicy

/-- The readers the loader relies on: the TOML deserializer of `RawConfig` and
the parser of socket addresses, each with its error text. -/
structure ConfigReader where
  toml : String → Except String RawConfig
  socketAddr : String → Except String SocketAddr

abbrev Environment := String → Option String

/-! ## Resolution -/

/-- `[A-Za-z_][A-Za-z0-9_]*` -/
def isValidEnvName (name : String) : Bool :=
  match name.toList with
  | [] => false
  | first :: rest =>
      (first.isAlpha || first == '_') && rest.all fun char => char.isAlphanum || char == '_'

/-- Look up the variable a backend field refers to. -/
def resolveEnv (env : Environment) (name field var : String) :
    Except ConfigError String :=
  if !isValidEnvName var then .error (.invalidEnvName name field var)
  else
    match env var with
    | none => .error (.missingEnv name field var)
    | some value => .ok value

/-- The checks on one backend entry after its name was accepted. -/
def RawBackend.resolve (env : Environment) (b : RawBackend) :
    Except ConfigError Backend := do
  let baseUrl ← resolveEnv env b.name "base_url_env" b.baseUrlEnv
  if !(Text.startsWith baseUrl "http://" || Text.startsWith baseUrl "https://") then
    throw (.invalidBaseUrl b.name baseUrl)
  let apiKey ←
    match b.apiKeyEnv with
    | none => pure none
    | some var => (some ∘ Secret.mk) <$> resolveEnv env b.name "api_key_env" var
  if b.models.isEmpty then
    throw (.noModels b.name)
  if b.models.any String.isEmpty then
    throw (.emptyEntry b.name "models")
  if b.capabilityTags.any String.isEmpty then
    throw (.emptyEntry b.name "capability_tags")
  return {
    name := b.name
    baseUrl := Text.trimEndMatches baseUrl '/'
    apiKey
    models := b.models
    capabilityTags := b.capabilityTags
    privacy := b.privacy }

/-- The loop over backend entries: `names` are those already seen, `backends`
those already resolved. -/
def resolveBackends (env : Environment) :
    List RawBackend → Finset String → List Backend → Except ConfigError (List Backend)
  | [], _, backends => .ok backends
  | b :: rest, names, backends =>
      if b.name.isEmpty then .error .emptyBackendName
      else if b.name ∈ names then .error (.duplicateBackend b.name)
      else
        match b.resolve env with
        | .error error => .error error
        | .ok backend => resolveBackends env rest (insert b.name names) (backends ++ [backend])

/-- The checks on one virtual key after its name was accepted: its secret. -/
def RawVirtualKey.resolve (env : Environment) (vk : RawVirtualKey) :
    Except ConfigError String :=
  if !isValidEnvName vk.keyEnv then .error (.invalidKeyEnvName vk.name vk.keyEnv)
  else
    match env vk.keyEnv with
    | none => .error (.missingKeyEnv vk.name vk.keyEnv)
    | some key => if key.isEmpty then .error (.emptyVirtualKey vk.name) else .ok key

/-- The loop over virtual-key entries: `secrets` maps each resolved secret to the
name of the key that introduced it. -/
def resolveVirtualKeys (env : Environment) :
    List RawVirtualKey → Finset String → Table String String → List VirtualKey →
      Except ConfigError (List VirtualKey)
  | [], _, _, keys => .ok keys
  | vk :: rest, names, secrets, keys =>
      if vk.name.isEmpty then .error .emptyVirtualKeyName
      else if vk.name ∈ names then .error (.duplicateVirtualKey vk.name)
      else
        match vk.resolve env with
        | .error error => .error error
        | .ok key =>
            match secrets.lookup key with
            | some previous => .error (.duplicateVirtualKeySecret previous vk.name)
            | none =>
                resolveVirtualKeys env rest (insert vk.name names)
                  (secrets.insert key vk.name)
                  (keys ++ [{
                    name := vk.name
                    key := ⟨key⟩
                    enforcePrivate := vk.enforcePrivate }])

def RawPolicy.resolve : RawPolicy → Except ConfigError PolicySelection
  | .staticPriority => .ok .staticPriority
  | .ewmaLatency alpha =>
      if !alpha.inUnitInterval then .error (.invalidAlpha alpha)
      else .ok (.ewmaLatency alpha)

/-- Parse, resolve and validate a configuration. -/
def GatewayConfig.fromTomlStr (reader : ConfigReader) (raw : String)
    (env : Environment) : Except ConfigError GatewayConfig := do
  let raw ← (reader.toml raw).mapError ConfigError.parse
  let listen ← (reader.socketAddr raw.listen).mapError (ConfigError.invalidListen raw.listen)
  if raw.backends.isEmpty then
    throw .noBackends
  let backends ← resolveBackends env raw.backends ∅ []
  let virtualKeys ← resolveVirtualKeys env raw.virtualKeys ∅ ∅ []
  let policy ← raw.policy.resolve
  return { listen, backends, virtualKeys, policy }

/-! ## What an accepted configuration satisfies -/

theorem bind_eq_ok {ε α β : Type} {first : Except ε α} {next : α → Except ε β} {result : β}
    (run : (first >>= next) = .ok result) :
    ∃ value, first = .ok value ∧ next value = .ok result := by
  cases first with
  | error error => cases run
  | ok value => exact ⟨value, rfl, run⟩

theorem mapError_eq_ok {ε ε' α : Type} {first : Except ε α} {relabel : ε → ε'} {value : α}
    (run : first.mapError relabel = .ok value) : first = .ok value := by
  cases first with
  | error error => cases run
  | ok result =>
      cases run
      rfl

/-- An accepted configuration went through every stage of the loader. -/
theorem fromTomlStr_stages {reader : ConfigReader} {text : String} {env : Environment}
    {cfg : GatewayConfig} (accepted : GatewayConfig.fromTomlStr reader text env = .ok cfg) :
    ∃ raw, reader.toml text = .ok raw ∧ reader.socketAddr raw.listen = .ok cfg.listen ∧
      raw.backends ≠ [] ∧ resolveBackends env raw.backends ∅ [] = .ok cfg.backends ∧
      resolveVirtualKeys env raw.virtualKeys ∅ ∅ [] = .ok cfg.virtualKeys ∧
      raw.policy.resolve = .ok cfg.policy := by
  rcases bind_eq_ok accepted with ⟨raw, parsed, accepted⟩
  rcases bind_eq_ok accepted with ⟨listen, addressed, accepted⟩
  by_cases noBackends : raw.backends.isEmpty
  · simp only [noBackends, if_true] at accepted
    cases accepted
  · simp only [noBackends, Bool.false_eq_true, if_false] at accepted
    rcases bind_eq_ok accepted with ⟨backends, backendsResolved, accepted⟩
    rcases bind_eq_ok accepted with ⟨virtualKeys, keysResolved, accepted⟩
    rcases bind_eq_ok accepted with ⟨policy, policyResolved, accepted⟩
    cases accepted
    exact ⟨raw, mapError_eq_ok parsed, mapError_eq_ok addressed, by simpa using noBackends,
      backendsResolved, keysResolved, policyResolved⟩

/-- The secrets of resolved keys stay distinct as the loop goes on, provided the
secret table records those resolved so far. -/
theorem resolveVirtualKeys_secrets_nodup {env : Environment} {raw : List RawVirtualKey}
    {names : Finset String} {secrets : Table String String} {keys resolved : List VirtualKey}
    (recorded : ∀ vk ∈ keys, vk.key.expose ∈ secrets)
    (distinct : (keys.map (·.key.expose)).Nodup)
    (accepted : resolveVirtualKeys env raw names secrets keys = .ok resolved) :
    (resolved.map (·.key.expose)).Nodup := by
  induction raw generalizing names secrets keys with
  | nil =>
      cases accepted
      exact distinct
  | cons vk rest ih =>
      simp only [resolveVirtualKeys] at accepted
      split at accepted
      · cases accepted
      · split at accepted
        · cases accepted
        · split at accepted
          · cases accepted
          · next key _ =>
              split at accepted
              · cases accepted
              · next unused =>
                  have fresh : key ∉ secrets := Finmap.lookup_eq_none.mp unused
                  apply ih _ _ accepted
                  · intro other membership
                    rw [List.mem_append, List.mem_singleton] at membership
                    rcases membership with earlier | rfl
                    · exact Finmap.mem_insert.mpr (.inr (recorded other earlier))
                    · exact Finmap.mem_insert.mpr (.inl rfl)
                  · rw [List.map_append, List.map_singleton]
                    apply distinct.append (List.nodup_singleton _)
                    intro secret earlier same
                    rcases List.mem_map.mp earlier with ⟨other, membership, rfl⟩
                    have sameKey : other.key.expose = key := List.mem_singleton.mp same
                    exact fresh (sameKey ▸ recorded other membership)

/-- The secrets of an accepted configuration are pairwise distinct. -/
theorem fromTomlStr_secrets_nodup {reader : ConfigReader} {text : String}
    {env : Environment} {cfg : GatewayConfig}
    (accepted : GatewayConfig.fromTomlStr reader text env = .ok cfg) :
    (cfg.virtualKeys.map (·.key.expose)).Nodup := by
  rcases fromTomlStr_stages accepted with ⟨raw, -, -, -, -, keysResolved, -⟩
  exact resolveVirtualKeys_secrets_nodup (by simp) (by simp) keysResolved

end Patchbay
