import Patchbay.Config
import Patchbay.Upstream.Usage

/-!
# API-key authentication

Clients present their virtual key as a Bearer token.  The key store maps tokens
to identities; without any configured key every request is admitted as an
anonymous, non-private caller.
-/

namespace Patchbay

/-- Information attached to an authenticated request. -/
structure KeyIdentity where
  name : String
  enforcePrivate : Bool
  deriving DecidableEq, Repr

/-- Bearer token to identity. -/
structure KeyStore where
  inner : Table String KeyIdentity

namespace KeyStore

def fromVirtualKeys (keys : List VirtualKey) : KeyStore where
  inner := Table.collect (keys.map fun vk =>
    (vk.key.expose, { name := vk.name, enforcePrivate := vk.enforcePrivate }))

def isOpen (store : KeyStore) : Bool := store.inner.keys.card == 0

def authenticate (store : KeyStore) (token : String) : Option KeyIdentity :=
  store.inner.lookup token

/-- With distinct secrets, a key's secret authenticates as that key. -/
theorem authenticate_fromVirtualKeys {keys : List VirtualKey}
    (distinct : (keys.map (·.key.expose)).Nodup) {vk : VirtualKey} (membership : vk ∈ keys) :
    (fromVirtualKeys keys).authenticate vk.key.expose =
      some { name := vk.name, enforcePrivate := vk.enforcePrivate } := by
  have entry := List.mem_map_of_mem (f := fun vk : VirtualKey =>
    (vk.key.expose, KeyIdentity.mk vk.name vk.enforcePrivate)) membership
  exact Table.lookup_collect_of_mem (by simpa [Function.comp_def] using distinct) entry

/-- With distinct secrets, the known tokens are the secrets of the keys. -/
theorem authenticate_fromVirtualKeys_iff {keys : List VirtualKey}
    (distinct : (keys.map (·.key.expose)).Nodup) {token : String} {identity : KeyIdentity} :
    (fromVirtualKeys keys).authenticate token = some identity ↔
      ∃ vk ∈ keys, vk.key.expose = token ∧
        identity = { name := vk.name, enforcePrivate := vk.enforcePrivate } := by
  constructor
  · intro known
    rcases List.mem_map.mp (Table.mem_of_lookup_collect known) with ⟨vk, membership, same⟩
    rw [Prod.mk.injEq] at same
    exact ⟨vk, membership, same.1, same.2.symm⟩
  · rintro ⟨vk, membership, rfl, rfl⟩
    exact authenticate_fromVirtualKeys distinct membership

/-- Only without keys is a store open. -/
theorem isOpen_fromVirtualKeys {keys : List VirtualKey}
    (isOpen : (fromVirtualKeys keys).isOpen = true) : keys = [] := by
  cases keys using List.reverseRecOn with
  | nil => rfl
  | append_singleton keys last =>
      have present : last.key.expose ∈ (fromVirtualKeys (keys ++ [last])).inner.keys := by
        simp [fromVirtualKeys, Table.collect, Finmap.mem_keys]
      have nonempty := Finset.card_pos.mpr ⟨_, present⟩
      simp only [KeyStore.isOpen, beq_iff_eq] at isOpen
      omega

/-- A store with a known token is not open. -/
theorem not_isOpen_of_authenticate {store : KeyStore} {token : String}
    {identity : KeyIdentity} (known : store.authenticate token = some identity) :
    store.isOpen = false := by
  have present : token ∈ store.inner.keys :=
    Finmap.mem_keys.mpr (Finmap.mem_of_lookup_eq_some known)
  have nonempty := Finset.card_pos.mpr ⟨token, present⟩
  simp only [isOpen, beq_eq_false_iff_ne]
  omega

end KeyStore

/-- Rejection returned when authentication fails, with its message. -/
structure AuthError where
  message : String
  deriving DecidableEq, Repr

namespace AuthedKey

def anonymous : KeyIdentity := { name := "anonymous", enforcePrivate := false }

/-- The extractor.  `toStr` is `HeaderValue::to_str`, which gives up on values
that are not plain text. -/
def fromRequestParts (toStr : Bytes → Option String) (store : KeyStore)
    (authorization : Option Bytes) : Except AuthError KeyIdentity :=
  if store.isOpen then .ok anonymous
  else
    match authorization.bind toStr with
    | none => .error ⟨"missing Authorization header"⟩
    | some header =>
        match Text.stripPrefix header "Bearer " with
        | none => .error ⟨"Authorization header must use the Bearer scheme"⟩
        | some token =>
            match store.authenticate token with
            | none => .error ⟨"invalid API key"⟩
            | some identity => .ok identity

/-- The token a header presents under the Bearer scheme. -/
def bearerToken (toStr : Bytes → Option String) (authorization : Option Bytes) :
    Option String :=
  (authorization.bind toStr).bind fun header => Text.stripPrefix header "Bearer "

/-- A closed store admits the callers who present a known token. -/
theorem fromRequestParts_ok_iff {toStr : Bytes → Option String} {store : KeyStore}
    (closed : store.isOpen = false) {authorization : Option Bytes} {identity : KeyIdentity} :
    fromRequestParts toStr store authorization = .ok identity ↔
      ∃ token, authorization.bind toStr = some ("Bearer " ++ token) ∧
        store.authenticate token = some identity := by
  rw [fromRequestParts, if_neg (by simp [closed])]
  cases text : authorization.bind toStr with
  | none => simp
  | some header =>
      cases stripped : Text.stripPrefix header "Bearer " with
      | none =>
          have other : ∀ token, header ≠ "Bearer " ++ token := by
            intro token same
            rw [same, Text.stripPrefix_append] at stripped
            cases stripped
          simp [stripped, other]
      | some token =>
          have presented := Text.eq_append_of_stripPrefix stripped
          have unique : ∀ other, header = "Bearer " ++ other ↔ token = other := by
            intro other
            rw [presented, String.append_right_inj]
          cases known : store.authenticate token <;> simp [stripped, known, unique]

/-- A known token yields its identity. -/
theorem fromRequestParts_of_token {toStr : Bytes → Option String} {store : KeyStore}
    {authorization : Option Bytes} {token : String} {identity : KeyIdentity}
    (presented : bearerToken toStr authorization = some token)
    (known : store.authenticate token = some identity) :
    fromRequestParts toStr store authorization = .ok identity := by
  rcases Option.bind_eq_some_iff.mp presented with ⟨header, text, stripped⟩
  rw [fromRequestParts, if_neg (by simp [KeyStore.not_isOpen_of_authenticate known]), text]
  simp only [stripped, known]

end AuthedKey

end Patchbay
