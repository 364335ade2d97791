import Patchbay.Schedules

/-!
# Growing a configuration

Operators add backends at the end of the file, and keys anywhere in it.  What used to be
forwarded goes through the same as before; only requests that were turned away can fare
otherwise.
-/

namespace Patchbay

/-- A configuration with more backends at the end, and more keys.  A gateway that was open to
everyone stays open. -/
structure GatewayConfig.Extends (larger smaller : GatewayConfig) : Prop where
  backends : smaller.backends.IsPrefix larger.backends
  virtualKeys : ∀ vk ∈ smaller.virtualKeys, vk ∈ larger.virtualKeys
  stillOpen : smaller.virtualKeys = [] → larger.virtualKeys = []

namespace GatewayConfig.Extends

variable {γ : Type} {crates : Crates γ} {larger smaller : GatewayConfig}

/-- A caller who is known stays known. -/
theorem fromRequestParts (extension : larger.Extends smaller)
    (distinct : (larger.virtualKeys.map (·.key.expose)).Nodup)
    {toStr : Bytes → Option String} {authorization : Option Bytes} {identity : KeyIdentity}
    (known : AuthedKey.fromRequestParts toStr (.fromVirtualKeys smaller.virtualKeys)
      authorization = .ok identity) :
    AuthedKey.fromRequestParts toStr (.fromVirtualKeys larger.virtualKeys) authorization =
      .ok identity := by
  cases isOpen : (KeyStore.fromVirtualKeys smaller.virtualKeys).isOpen with
  | true =>
      have noKeys := KeyStore.isOpen_fromVirtualKeys isOpen
      rw [noKeys] at known
      rw [extension.stillOpen noKeys]
      exact known
  | false =>
      rcases (AuthedKey.fromRequestParts_ok_iff isOpen).mp known with ⟨token, presented, found⟩
      rcases List.mem_map.mp (Table.mem_of_lookup_collect found) with ⟨vk, membership, same⟩
      rw [Prod.mk.injEq] at same
      rcases same with ⟨rfl, rfl⟩
      have stillFound := KeyStore.authenticate_fromVirtualKeys distinct
        (extension.virtualKeys vk membership)
      have closed := KeyStore.not_isOpen_of_authenticate stillFound
      exact (AuthedKey.fromRequestParts_ok_iff closed).mpr ⟨_, presented, stillFound⟩

/-- The first backend for a model stays the first. -/
theorem firstFor (extension : larger.Extends smaller) {model : String} {markPrivate : Bool}
    {backend : Backend} (first : smaller.firstFor model markPrivate = some backend) :
    larger.firstFor model markPrivate = some backend := by
  rcases extension.backends with ⟨more, same⟩
  rw [GatewayConfig.firstFor] at first
  rw [GatewayConfig.firstFor, ← same, List.find?_append, first, Option.some_or]

/-- What was forwarded is forwarded in the same way. -/
theorem respond (extension : larger.Extends smaller)
    (distinct : (larger.virtualKeys.map (·.key.expose)).Nodup) {request : ClientRequest}
    {job : Job} (admitted : smaller.respond crates request = .ok job) :
    larger.respond crates request = .ok job := by
  rw [GatewayConfig.respond] at admitted ⊢
  cases known : AuthedKey.fromRequestParts crates.toStr (.fromVirtualKeys smaller.virtualKeys)
      request.authorization with
  | error error =>
      rw [known] at admitted
      cases admitted
  | ok identity =>
      rw [known] at admitted
      rw [extension.fromRequestParts distinct known]
      dsimp only at admitted ⊢
      split
      · next empty =>
          rw [if_pos empty] at admitted
          cases admitted
      · next present =>
          rw [if_neg present] at admitted
          cases first : smaller.firstFor
              (CompletionRequest.fromSlice crates.json request.body).model
              identity.enforcePrivate with
          | none =>
              rw [first] at admitted
              cases admitted
          | some backend =>
              rw [first] at admitted
              rw [extension.firstFor first]
              exact admitted

end GatewayConfig.Extends

namespace Exchange

variable {σ γ : Type} (crates : Crates γ)

/-- The state says nothing about the course of an exchange. -/
theorem course_congr (left right : AppState σ γ) (exchange : Exchange)
    (events : List (Event σ)) :
    exchange.course crates left events = exchange.course crates right events := by
  induction events generalizing exchange with
  | nil => rfl
  | cons event events ih =>
      rw [course, course, List.foldl_cons, List.foldl_cons, ← course, ← course,
        Gateway.act_exchange left right event exchange]
      exact ih _

/-- The course of an exchange that was turned away makes no calls. -/
theorem calls_course_refused (app : AppState σ γ) (request : ClientRequest)
    (response : Response) (events : List (Event σ)) :
    ((refused request response).course crates app events).calls = [] := by
  have evolved : Relation.ReflTransGen Evolves (refused request response)
      ((refused request response).course crates app events) := by
    induction events using List.reverseRecOn with
    | nil => exact .refl
    | append_singleton events event ih =>
        rw [course, List.foldl_append, ← course]
        exact ih.tail (Gateway.act_evolves crates app event _)
  exact (answered_stays rfl evolved).2

end Exchange

namespace Gateway

variable {γ : Type} {crates : Crates γ}

/-- **Growth.**  A server over an extended configuration forwards all that a server over the
configuration before would have forwarded, and each of these requests goes through the same
calls and gets the same answer. -/
theorem growth_conservative {larger smaller : GatewayConfig}
    (extension : larger.Extends smaller) {reader : ConfigReader} {text : String}
    {env : Environment} (accepted : GatewayConfig.fromTomlStr reader text env = .ok larger)
    {codec : SnapshotCodec} {files : FileSystem} {secs : UInt64}
    {before after : AppState BuiltinPolicy γ}
    (bootedBefore : AppState.boot crates codec files secs smaller = some before)
    (bootedAfter : AppState.boot crates codec files secs larger = some after)
    {events : List (Event BuiltinPolicy)} (quiet : Quiet events) {index : Nat}
    {exchange : Exchange}
    (found : ((start before).run crates events).exchanges[index]? = some exchange)
    (forwarded : exchange.calls ≠ []) :
    ((start after).run crates events).exchanges[index]? = some exchange := by
  have ofBefore : ((start before).run crates events).exchanges[index]? =
      (Event.fate index 0 events).map (fulfilled crates before smaller) :=
    exchange_of_fate (AppState.deployed_boot bootedBefore) quiet index
  have ofAfter : ((start after).run crates events).exchanges[index]? =
      (Event.fate index 0 events).map (fulfilled crates after larger) :=
    exchange_of_fate (AppState.deployed_boot bootedAfter) quiet index
  rw [ofBefore, Option.map_eq_some_iff] at found
  rcases found with ⟨⟨request, later⟩, fate, rfl⟩
  rw [ofAfter, fate, Option.map_some, fulfilled, fulfilled]
  cases admitted : smaller.respond crates request with
  | error response =>
      rw [fulfilled, admitted] at forwarded
      exact absurd (Exchange.calls_course_refused crates before request response later) forwarded
  | ok job =>
      have stillAdmitted := extension.respond (fromTomlStr_secrets_nodup accepted) admitted
      rw [stillAdmitted, Exchange.course_congr crates after before]

end Gateway

/-! ### One more backend and one more key -/

namespace Sample

def spareBackend : Backend where
  name := "spare"
  baseUrl := "http://127.0.0.1:9000"
  apiKey := none
  models := ["m"]
  capabilityTags := []
  privacy := .Local

def opsKey : VirtualKey := { name := "ops", key := ⟨"sk-ops"⟩, enforcePrivate := false }

def grown : GatewayConfig :=
  { config with
    backends := [cloudBackend, localBackend, spareBackend]
    virtualKeys := [opsKey, devKey] }

def grownReader : ConfigReader :=
  { reader with
    toml := fun _ => .ok { rawConfig with
      backends := rawConfig.backends ++ [
        { name := "spare", baseUrlEnv := "SPARE_URL", apiKeyEnv := none, models := ["m"]
          capabilityTags := [], privacy := .Local }]
      virtualKeys := { name := "ops", keyEnv := "OPS_KEY", enforcePrivate := false } ::
        rawConfig.virtualKeys } }

def grownEnvironment : Environment
  | "SPARE_URL" => some "http://127.0.0.1:9000"
  | "OPS_KEY" => some "sk-ops"
  | name => environment name

theorem grown_accepted :
    GatewayConfig.fromTomlStr grownReader "patchbay.toml" grownEnvironment = .ok grown := by
  rfl

theorem grown_extends : grown.Extends config where
  backends := ⟨[spareBackend], rfl⟩
  virtualKeys vk membership := List.mem_cons_of_mem opsKey membership
  stillOpen noKeys := by cases noKeys

end Sample

/-- The first request of the sample key is served as before. -/
theorem Gateway.growth_conservative_spare :
    ((start (AppState.fromConfig Sample.crates Sample.noSnapshots (fun _ => none) 0 Sample.grown
        .builtin .staticPriority)).run Sample.crates Sample.bootedEvents).exchanges[0]? =
      ((start Sample.booted).run Sample.crates Sample.bootedEvents).exchanges[0]? := by
  have served : ∃ exchange, ((start Sample.booted).run Sample.crates
      Sample.bootedEvents).exchanges[0]? = some exchange ∧ exchange.calls ≠ [] :=
    ⟨_, rfl, List.cons_ne_nil _ _⟩
  rcases served with ⟨exchange, found, forwarded⟩
  rw [found]
  exact growth_conservative Sample.grown_extends Sample.grown_accepted Sample.boot_config rfl
    Sample.quiet_bootedEvents found forwarded

end Patchbay
