import Patchbay.Deployment

/-!
# Secrets are opaque

The keys of backends and of clients are compared and passed on, but never looked into.  If
all of them are renamed, in the environment and by the clients, the server comes up or
fails as before, and then goes through the same runs.
-/

namespace Patchbay

/-- Another name for every secret; only the empty one is told apart. -/
structure Disguise where
  rename : String → String
  injective : Function.Injective rename
  empty : rename "" = ""

namespace Disguise

variable (disguise : Disguise)

def secret (original : Secret) : Secret := ⟨disguise.rename original.expose⟩

def backend (original : Backend) : Backend :=
  { original with apiKey := original.apiKey.map disguise.secret }

def virtualKey (original : VirtualKey) : VirtualKey :=
  { original with key := disguise.secret original.key }

def config (cfg : GatewayConfig) : GatewayConfig :=
  { cfg with
    backends := cfg.backends.map disguise.backend
    virtualKeys := cfg.virtualKeys.map disguise.virtualKey }

/-- The header of a client that presents its key. -/
def header (text : String) : String :=
  match Text.stripPrefix text "Bearer " with
  | some token => "Bearer " ++ disguise.rename token
  | none => text

/-- The same environment with other secrets. -/
structure Renames (raw : RawConfig) (env other : Environment) : Prop where
  baseUrls : ∀ b ∈ raw.backends, other b.baseUrlEnv = env b.baseUrlEnv
  apiKeys : ∀ b ∈ raw.backends, ∀ var, b.apiKeyEnv = some var →
    other var = (env var).map disguise.rename
  keys : ∀ vk ∈ raw.virtualKeys, other vk.keyEnv = (env vk.keyEnv).map disguise.rename

/-- The same clients with other keys. -/
structure Presents (toStr : Bytes → Option String) (rewrite : ClientRequest → ClientRequest) :
    Prop where
  header : ∀ request, (rewrite request).authorization.bind toStr =
    (request.authorization.bind toStr).map disguise.header
  body : ∀ request, (rewrite request).body = request.body

variable {disguise} {env other : Environment}

theorem isEmpty_rename (text : String) : (disguise.rename text).isEmpty = text.isEmpty := by
  rw [Bool.eq_iff_iff, String.isEmpty_iff, String.isEmpty_iff, ← disguise.empty,
    disguise.injective.eq_iff, disguise.empty]

/-! ## Loading -/

theorem resolveEnv_renamed {var : String} (renamed : other var = (env var).map disguise.rename)
    (name field : String) :
    resolveEnv other name field var = (resolveEnv env name field var).map disguise.rename := by
  rw [resolveEnv, resolveEnv, renamed]
  split
  · rfl
  · cases env var <;> rfl

theorem resolve_backend {raw : RawConfig} (renames : disguise.Renames raw env other)
    {b : RawBackend} (membership : b ∈ raw.backends) :
    b.resolve other = (b.resolve env).map disguise.backend := by
  have baseUrl : b.resolveBaseUrl other = b.resolveBaseUrl env := by
    rw [RawBackend.resolveBaseUrl, resolveEnv, renames.baseUrls b membership]
    rfl
  have apiKey : b.resolveApiKey other =
      (b.resolveApiKey env).map (Option.map disguise.secret) := by
    rw [RawBackend.resolveApiKey, RawBackend.resolveApiKey]
    cases present : b.apiKeyEnv with
    | none => rfl
    | some var =>
        dsimp only
        rw [resolveEnv_renamed (renames.apiKeys b membership var present)]
        cases resolveEnv env b.name "api_key_env" var <;> rfl
  rw [RawBackend.resolve_eq, RawBackend.resolve_eq, baseUrl, apiKey]
  cases b.resolveBaseUrl env with
  | error error => rfl
  | ok url =>
      cases b.resolveApiKey env with
      | error error => rfl
      | ok key => cases b.checkLists <;> rfl

theorem resolveBackends_renamed {raw : RawConfig} (renames : disguise.Renames raw env other)
    {entries : List RawBackend} (listed : ∀ b ∈ entries, b ∈ raw.backends)
    (names : Finset String) (backends : List Backend) :
    resolveBackends other entries names (backends.map disguise.backend) =
      (resolveBackends env entries names backends).map (List.map disguise.backend) := by
  induction entries generalizing names backends with
  | nil => rfl
  | cons b entries ih =>
      rw [resolveBackends, resolveBackends,
        resolve_backend renames (listed b List.mem_cons_self)]
      split
      · rfl
      · split
        · rfl
        · cases b.resolve env with
          | error error => rfl
          | ok backend =>
              have rest := ih (fun b membership => listed b (List.mem_cons_of_mem _ membership))
                (insert b.name names) (backends ++ [backend])
              rw [List.map_append] at rest
              exact rest

theorem resolve_virtualKey {vk : RawVirtualKey}
    (renamed : other vk.keyEnv = (env vk.keyEnv).map disguise.rename) :
    vk.resolve other = (vk.resolve env).map disguise.rename := by
  rw [RawVirtualKey.resolve, RawVirtualKey.resolve, renamed]
  split
  · rfl
  · cases env vk.keyEnv with
    | none => rfl
    | some key =>
        simp only [Option.map_some, isEmpty_rename]
        split <;> rfl

theorem resolveVirtualKeys_renamed {raw : RawConfig} (renames : disguise.Renames raw env other)
    {entries : List RawVirtualKey} (listed : ∀ vk ∈ entries, vk ∈ raw.virtualKeys)
    (names : Finset String) {secrets renamed : Table String String}
    (seen : ∀ secret, renamed.lookup (disguise.rename secret) = secrets.lookup secret)
    (keys : List VirtualKey) :
    resolveVirtualKeys other entries names renamed (keys.map disguise.virtualKey) =
      (resolveVirtualKeys env entries names secrets keys).map
        (List.map disguise.virtualKey) := by
  induction entries generalizing names secrets renamed keys with
  | nil => rfl
  | cons vk entries ih =>
      rw [resolveVirtualKeys, resolveVirtualKeys,
        resolve_virtualKey (renames.keys vk (listed vk List.mem_cons_self))]
      split
      · rfl
      · split
        · rfl
        · cases vk.resolve env with
          | error error => rfl
          | ok key =>
              simp only [Except.map, seen]
              cases secrets.lookup key with
              | some previous => rfl
              | none =>
                  have seenNext : ∀ secret,
                      (renamed.insert (disguise.rename key) vk.name).lookup
                        (disguise.rename secret) =
                          (secrets.insert key vk.name).lookup secret := by
                    intro secret
                    by_cases same : secret = key
                    · rw [same, Finmap.lookup_insert, Finmap.lookup_insert]
                    · rw [Finmap.lookup_insert_of_ne _ (disguise.injective.ne same),
                        Finmap.lookup_insert_of_ne _ same, seen]
                  have rest := ih
                    (fun vk membership => listed vk (List.mem_cons_of_mem _ membership))
                    (insert vk.name names) seenNext
                    (keys ++ [{ name := vk.name, key := ⟨key⟩, enforcePrivate := vk.enforcePrivate }])
                  rw [List.map_append] at rest
                  exact rest

/-- A configuration is accepted or rejected as before. -/
theorem fromTomlStr_renamed {reader : ConfigReader} {text : String}
    (renames : ∀ raw, reader.toml text = .ok raw → disguise.Renames raw env other) :
    GatewayConfig.fromTomlStr reader text other =
      (GatewayConfig.fromTomlStr reader text env).map disguise.config := by
  rw [GatewayConfig.fromTomlStr, GatewayConfig.fromTomlStr]
  cases parsed : reader.toml text with
  | error error => rfl
  | ok raw =>
      have renames := renames raw parsed
      have backends := resolveBackends_renamed renames (fun _ membership => membership) ∅ []
      have seen : ∀ secret, (∅ : Table String String).lookup (disguise.rename secret) =
          (∅ : Table String String).lookup secret := fun _ => rfl
      have keys := resolveVirtualKeys_renamed renames (fun _ membership => membership) ∅ seen []
      simp only [List.map_nil] at backends keys
      dsimp only [Except.mapError, bind, Except.bind]
      cases reader.socketAddr raw.listen with
      | error error => rfl
      | ok listen =>
          dsimp only
          split
          · rfl
          · rw [backends]
            cases resolveBackends env raw.backends ∅ [] with
            | error error => rfl
            | ok resolved =>
                simp only [Except.map, keys]
                cases resolveVirtualKeys env raw.virtualKeys ∅ ∅ [] with
                | error error => rfl
                | ok known => cases raw.policy.resolve <;> rfl

/-- The configuration that the binary finds is renamed. -/
def RenamesFile (disguise : Disguise) (reader : ConfigReader) (env other : Environment)
    (disk : String → Option (Except String String)) : Prop :=
  ∀ text raw, disk ((env "PATCHBAY_CONFIG").getD "patchbay.toml") = some (.ok text) →
    reader.toml text = .ok raw → disguise.Renames raw env other

/-- The binary comes up or fails as before. -/
theorem load_renamed {reader : ConfigReader} {disk : String → Option (Except String String)}
    (path : other "PATCHBAY_CONFIG" = env "PATCHBAY_CONFIG")
    (renames : disguise.RenamesFile reader env other disk) :
    GatewayConfig.load reader other disk =
      (GatewayConfig.load reader env disk).map disguise.config := by
  rw [GatewayConfig.load, GatewayConfig.load, path]
  cases found : disk ((env "PATCHBAY_CONFIG").getD "patchbay.toml") with
  | none => rfl
  | some content =>
      cases content with
      | error source => rfl
      | ok text =>
          dsimp only
          rw [fromTomlStr_renamed fun raw parsed => renames text raw found parsed]
          cases GatewayConfig.fromTomlStr reader text env <;> rfl

/-! ## Admission -/

theorem isOpen_renamed (keys : List VirtualKey) :
    (KeyStore.fromVirtualKeys (keys.map disguise.virtualKey)).isOpen =
      (KeyStore.fromVirtualKeys keys).isOpen := by
  rw [Bool.eq_iff_iff]
  constructor
  · intro isOpen
    rw [List.map_eq_nil_iff.mp (KeyStore.isOpen_fromVirtualKeys isOpen)]
    rfl
  · intro isOpen
    rw [KeyStore.isOpen_fromVirtualKeys isOpen]
    rfl

theorem authenticate_renamed (keys : List VirtualKey) (token : String) :
    (KeyStore.fromVirtualKeys (keys.map disguise.virtualKey)).authenticate
        (disguise.rename token) = (KeyStore.fromVirtualKeys keys).authenticate token := by
  have collected := Table.lookup_collect_map disguise.injective
    (keys.map fun vk => (vk.key.expose, KeyIdentity.mk vk.name vk.enforcePrivate)) token
  rw [List.map_map] at collected
  rw [KeyStore.authenticate, KeyStore.authenticate, KeyStore.fromVirtualKeys,
    KeyStore.fromVirtualKeys, ← collected, List.map_map]
  rfl

/-- Clients are told apart as before. -/
theorem fromRequestParts_renamed {toStr : Bytes → Option String}
    {rewrite : ClientRequest → ClientRequest} (presents : disguise.Presents toStr rewrite)
    (keys : List VirtualKey) (request : ClientRequest) :
    AuthedKey.fromRequestParts toStr (.fromVirtualKeys (keys.map disguise.virtualKey))
        (rewrite request).authorization =
      AuthedKey.fromRequestParts toStr (.fromVirtualKeys keys) request.authorization := by
  rw [AuthedKey.fromRequestParts, AuthedKey.fromRequestParts, isOpen_renamed,
    presents.header request]
  split
  · rfl
  · cases request.authorization.bind toStr with
    | none => rfl
    | some text =>
        rw [Option.map_some, header]
        cases stripped : Text.stripPrefix text "Bearer " with
        | none => simp only [stripped]
        | some token => simp only [Text.stripPrefix_append, authenticate_renamed, stripped]

/-! ## Runs -/

/-- Clients present other keys, and the calls carry other ones. -/
def translation {toStr : Bytes → Option String} {rewrite : ClientRequest → ClientRequest}
    (presents : disguise.Presents toStr rewrite) : Translation where
  backend := disguise.backend
  request := rewrite
  moves := ⟨fun _ => rfl, fun _ => rfl, fun _ => rfl, fun _ => rfl⟩
  body := presents.body

end Disguise

theorem Policy.builtin_byName : Policy.builtin.ByName := by
  intro state left right sameNames
  cases state with
  | staticPriority => simp only [builtin, staticPriority_byName () sameNames]
  | ewmaLatency ewma => simp only [builtin, ewmaLatency_byName ewma sameNames]

/-- The server over the renamed configuration is a counterpart. -/
theorem AppState.boot_renamed {γ : Type} {crates : Crates γ} {codec : SnapshotCodec}
    {files : FileSystem} {secs : UInt64} {cfg : GatewayConfig} {app : AppState BuiltinPolicy γ}
    (booted : AppState.boot crates codec files secs cfg = some app) {disguise : Disguise}
    {rewrite : ClientRequest → ClientRequest}
    (presents : disguise.Presents crates.toStr rewrite) :
    ∃ renamed, AppState.boot crates codec files secs (disguise.config cfg) = some renamed ∧
      app.Counterpart crates.toStr (Disguise.translation presents) Eq renamed := by
  simp only [boot, Router.fromConfig, Option.map_map, Option.map_eq_some_iff] at booted ⊢
  rcases booted with ⟨state, selected, rfl⟩
  refine ⟨_, ⟨state, selected, rfl⟩, ?_, rfl, ?_, rfl, rfl, rfl⟩
  · have moves := (Disguise.translation presents).moves
    exact ⟨rfl, Policy.builtin_byName.choosesAs moves, rfl⟩
  · exact Disguise.fromRequestParts_renamed presents cfg.virtualKeys

/-- **Opacity.**  If all secrets are renamed, in the environment and by the clients, the
binary comes up or fails with the same error.  Once it is up, every run goes as before:
clients see the same, calls go to the same backends, and the same is recorded. -/
theorem Gateway.secrets_opaque {γ : Type} (crates : Crates γ) (codec : SnapshotCodec)
    (files : FileSystem) (secs : UInt64) {reader : ConfigReader} {env other : Environment}
    {disk : String → Option (Except String String)} {disguise : Disguise}
    (path : other "PATCHBAY_CONFIG" = env "PATCHBAY_CONFIG")
    (renames : disguise.RenamesFile reader env other disk)
    {rewrite : ClientRequest → ClientRequest}
    (presents : disguise.Presents crates.toStr rewrite) :
    GatewayConfig.load reader other disk =
        (GatewayConfig.load reader env disk).map disguise.config ∧
      ∀ cfg app, GatewayConfig.load reader env disk = .ok cfg →
        AppState.boot crates codec files secs cfg = some app →
          ∃ renamed, AppState.boot crates codec files secs (disguise.config cfg) = some renamed ∧
            ∀ events : List (Event BuiltinPolicy),
              let left := (start app).run crates events
              let right := (start renamed).run crates (events.map (Event.map rewrite id))
              List.Forall₂ (Exchange.SameForClient rewrite) left.exchanges right.exchanges ∧
                right.exchanges.map Exchange.calls = left.exchanges.map (fun exchange =>
                  exchange.calls.map (Call.moved (Disguise.translation presents))) ∧
                right.app.budget = left.app.budget ∧ right.app.limits = left.app.limits ∧
                right.app.metrics = left.app.metrics := by
  refine ⟨Disguise.load_renamed path renames, ?_⟩
  intro cfg app _ booted
  rcases AppState.boot_renamed booted presents with ⟨renamed, bootedToo, counterpart⟩
  refine ⟨renamed, bootedToo, fun events => ?_⟩
  intro left right
  have atStart : (start app).Counterpart crates.toStr (Disguise.translation presents) Eq
      (start renamed) := ⟨counterpart, rfl⟩
  have ran : left.Counterpart crates.toStr (Disguise.translation presents) Eq right :=
    atStart.run fun state _ => rfl
  refine ⟨?_, ?_, ran.app.budget, ran.app.limits, ran.app.metrics⟩
  · rw [show right.exchanges = _ from ran.exchanges, List.forall₂_map_right_iff]
    exact List.forall₂_same.mpr fun exchange _ =>
      exchange.sameForClient_moved (Disguise.translation presents)
  · rw [show right.exchanges = _ from ran.exchanges, List.map_map]
    rfl

/-! ### Another key -/

namespace Sample

/-- The key of the sample client, and its successor. -/
def successor : Disguise where
  rename := Equiv.swap "sk-dev" "sk-new"
  injective := (Equiv.swap "sk-dev" "sk-new").injective
  empty := by decide

def rotatedEnvironment : Environment
  | "EXTERNAL_URL" => some "https://api.example.com/"
  | "LOCAL_URL" => some "http://127.0.0.1:8000"
  | "DEV_KEY" => some "sk-new"
  | _ => none

def rotate (request : ClientRequest) : ClientRequest :=
  { request with
    authorization := request.authorization.map
      (Equiv.swap (fromStatic "Bearer sk-dev") (fromStatic "Bearer sk-new")) }

theorem fromStatic_of_headerText {value : Bytes} {text : String}
    (read : headerText value = some text) : value = fromStatic text := by
  have readBack : ∀ byte ∈ value,
      ((fun char => UInt8.ofNat char.toNat) ∘ fun byte : UInt8 => Char.ofNat byte.toNat) byte =
        id byte := by
    intro byte _
    have valid : byte.toNat.isValidChar := .inl (by have := byte.toNat_lt; omega)
    have same : (Char.ofNat byte.toNat).toNat = byte.toNat := by
      rw [Char.ofNat, dif_pos valid]
      rfl
    rw [Function.comp_apply, same, UInt8.ofNat_toNat, id_eq]
  rw [headerText] at read
  split at read
  · cases read
    rw [fromStatic, String.toList_ofList, List.map_map, List.map_congr_left readBack, List.map_id]
  · cases read

/-- Other headers stay as they are. -/
theorem header_successor {text : String} (notDev : text ≠ "Bearer sk-dev")
    (notNew : text ≠ "Bearer sk-new") : successor.header text = text := by
  rw [Disguise.header]
  cases stripped : Text.stripPrefix text "Bearer " with
  | none => rfl
  | some token =>
      have presented := Text.eq_append_of_stripPrefix stripped
      have kept : successor.rename token = token := by
        apply Equiv.swap_apply_of_ne_of_ne
        · rintro rfl
          exact notDev presented
        · rintro rfl
          exact notNew presented
      dsimp only
      rw [kept, ← presented]

theorem rotate_presents : successor.Presents headerText rotate where
  body _ := rfl
  header request := by
    rcases request with ⟨authorization, body⟩
    cases authorization with
    | none => rfl
    | some value =>
        simp only [rotate, Option.map_some, Option.bind_some]
        by_cases isDev : value = fromStatic "Bearer sk-dev"
        · rw [isDev, Equiv.swap_apply_left]
          rfl
        · by_cases isNew : value = fromStatic "Bearer sk-new"
          · rw [isNew, Equiv.swap_apply_right]
            rfl
          · rw [Equiv.swap_apply_of_ne_of_ne isDev isNew]
            cases read : headerText value with
            | none => rfl
            | some text =>
                have same := fromStatic_of_headerText read
                rw [Option.map_some, header_successor]
                · rintro rfl
                  exact isDev same
                · rintro rfl
                  exact isNew same

/-- The rotation is no renaming for this configuration, which reads a key as an address. -/
def confusedConfig : RawConfig :=
  { rawConfig with
    backends := [{ name := "local", baseUrlEnv := "DEV_KEY", apiKeyEnv := none, models := ["m"]
                   capabilityTags := [], privacy := .Local }] }

/-- Reads either configuration. -/
def eitherReader : ConfigReader :=
  { reader with
    toml := fun text => if text = "confused.toml" then .ok confusedConfig else reader.toml text }

/-- The files have their names for contents. -/
def disk : String → Option (Except String String)
  | "patchbay.toml" => some (.ok "patchbay.toml")
  | "confused.toml" => some (.ok "confused.toml")
  | _ => none

theorem rotatedEnvironment_renames :
    successor.RenamesFile eitherReader environment rotatedEnvironment disk := by
  intro text raw found parsed
  cases found
  cases parsed
  constructor
  · simp [rawConfig, environment, rotatedEnvironment]
  · simp [rawConfig]
  · simp [rawConfig, environment, rotatedEnvironment, successor]

end Sample

theorem Gateway.secrets_opaque_rotated :
    GatewayConfig.load Sample.eitherReader Sample.rotatedEnvironment Sample.disk =
        (GatewayConfig.load Sample.eitherReader Sample.environment Sample.disk).map
          Sample.successor.config ∧
      ∀ cfg app, GatewayConfig.load Sample.eitherReader Sample.environment Sample.disk = .ok cfg →
        AppState.boot Sample.crates Sample.noSnapshots (fun _ => none) 0 cfg = some app →
          ∃ renamed, AppState.boot Sample.crates Sample.noSnapshots (fun _ => none) 0
              (Sample.successor.config cfg) = some renamed ∧
            ∀ events : List (Event BuiltinPolicy),
              let left := (start app).run Sample.crates events
              let right := (start renamed).run Sample.crates
                (events.map (Event.map Sample.rotate id))
              List.Forall₂ (Exchange.SameForClient Sample.rotate) left.exchanges
                  right.exchanges ∧
                right.exchanges.map Exchange.calls = left.exchanges.map (fun exchange =>
                  exchange.calls.map
                    (Call.moved (Disguise.translation Sample.rotate_presents))) ∧
                right.app.budget = left.app.budget ∧ right.app.limits = left.app.limits ∧
                right.app.metrics = left.app.metrics := by
  have path : Sample.rotatedEnvironment "PATCHBAY_CONFIG" =
      Sample.environment "PATCHBAY_CONFIG" := rfl
  exact secrets_opaque Sample.crates Sample.noSnapshots (fun _ => none) 0 path
    Sample.rotatedEnvironment_renames Sample.rotate_presents

end Patchbay
