import Patchbay.BaseUrls
import Patchbay.Gateway

/-!
# The key table

The key store is collected from a list in which an equal secret would replace the identity
before it.  The loader refuses equal secrets, so an accepted configuration's store answers
with the identity of the one key a caller presents.  Which keys can be presented at all is
up to the text that a header may hold, which the loader does not look at.
-/

namespace Patchbay

/-- The identity a virtual key stands for. -/
def VirtualKey.identity (vk : VirtualKey) : KeyIdentity where
  name := vk.name
  enforcePrivate := vk.enforcePrivate

/-- The Authorization header is text and presents the key's secret as a Bearer token. -/
def VirtualKey.PresentedBy (vk : VirtualKey) (toStr : Bytes → Option String)
    (authorization : Option Bytes) : Prop :=
  ∃ header, authorization = some header ∧ toStr header = some ("Bearer " ++ vk.key.expose)

theorem VirtualKey.presentedBy_iff {vk : VirtualKey} {toStr : Bytes → Option String}
    {authorization : Option Bytes} :
    vk.PresentedBy toStr authorization ↔
      authorization.bind toStr = some ("Bearer " ++ vk.key.expose) :=
  Option.bind_eq_some_iff.symm

/-- No two entries of the key table share a secret. -/
theorem eq_of_expose_eq {keys : List VirtualKey} (distinct : (keys.map (·.key.expose)).Nodup)
    {vk other : VirtualKey} (membership : vk ∈ keys) (otherMembership : other ∈ keys)
    (same : vk.key.expose = other.key.expose) : vk = other :=
  List.inj_on_of_nodup_map distinct membership otherMembership same

/-- **The key table.**  With a key configured the store is not open, its keys have distinct
secrets, and it admits who presents a configured key, as that key. -/
theorem fromRequestParts_inverts_keys {reader : ConfigReader} {text : String}
    {env : Environment} {cfg : GatewayConfig}
    (accepted : GatewayConfig.fromTomlStr reader text env = .ok cfg)
    (keyed : cfg.virtualKeys ≠ []) (toStr : Bytes → Option String)
    (authorization : Option Bytes) :
    (KeyStore.fromVirtualKeys cfg.virtualKeys).isOpen = false ∧
      (cfg.virtualKeys.map (·.key.expose)).Nodup ∧
      ∀ identity,
        AuthedKey.fromRequestParts toStr (KeyStore.fromVirtualKeys cfg.virtualKeys)
            authorization = .ok identity ↔
          ∃ vk ∈ cfg.virtualKeys, vk.PresentedBy toStr authorization ∧
            identity = vk.identity ∧
            ∀ other ∈ cfg.virtualKeys, other.key.expose = vk.key.expose → other = vk := by
  have distinct := fromTomlStr_secrets_nodup accepted
  have closed : (KeyStore.fromVirtualKeys cfg.virtualKeys).isOpen = false := by
    rw [← Bool.not_eq_true]
    intro isOpen
    exact keyed (KeyStore.isOpen_fromVirtualKeys isOpen)
  refine ⟨closed, distinct, fun identity => ?_⟩
  rw [AuthedKey.fromRequestParts_ok_iff closed]
  constructor
  · rintro ⟨token, presented, known⟩
    rcases (KeyStore.authenticate_fromVirtualKeys_iff distinct).mp known
      with ⟨vk, membership, rfl, identified⟩
    exact ⟨vk, membership, VirtualKey.presentedBy_iff.mpr presented, identified,
      fun other otherMembership same => eq_of_expose_eq distinct otherMembership membership same⟩
  · rintro ⟨vk, membership, presented, rfl, -⟩
    exact ⟨_, VirtualKey.presentedBy_iff.mp presented,
      KeyStore.authenticate_fromVirtualKeys distinct membership⟩

theorem fromRequestParts_inverts_keys_oneBackend :
    (KeyStore.fromVirtualKeys
        (Sample.oneBackendConfig "http://127.0.0.1:8000").virtualKeys).isOpen = false ∧
      ((Sample.oneBackendConfig "http://127.0.0.1:8000").virtualKeys.map
        (·.key.expose)).Nodup ∧
      AuthedKey.fromRequestParts Sample.headerText
          (KeyStore.fromVirtualKeys
            (Sample.oneBackendConfig "http://127.0.0.1:8000").virtualKeys)
          (some (fromStatic "Bearer sk-dev")) =
        .ok { name := "dev", enforcePrivate := false } := by
  have inverts := fromRequestParts_inverts_keys Sample.oneBackend_loads
    (by simp [Sample.oneBackendConfig]) Sample.headerText (some (fromStatic "Bearer sk-dev"))
  refine ⟨inverts.1, inverts.2.1, ?_⟩
  rw [inverts.2.2]
  refine ⟨_, List.mem_cons_self, ⟨_, rfl, rfl⟩, rfl, fun other membership _ => ?_⟩
  exact List.mem_singleton.mp membership

/-! ## Keys that can be presented -/

/-- Visible ASCII, a space or a tab. -/
def IsHeaderByte (byte : UInt8) : Prop := byte = 9 ∨ 32 ≤ byte ∧ byte < 127

def IsHeaderChar (char : Char) : Prop := char = '\t' ∨ 32 ≤ char.toNat ∧ char.toNat < 127

/-- `HeaderValue::to_str` reads values of visible ASCII, spaces and tabs, and no others. -/
structure ReadsHeaders (toStr : Bytes → Option String) : Prop where
  reads : ∀ value, (∀ byte ∈ value, IsHeaderByte byte) → toStr value = some (Text.ofBytes value)
  refuses : ∀ value, (∃ byte ∈ value, ¬ IsHeaderByte byte) → toStr value = none

/-- Some Authorization header is taken as this key. -/
def VirtualKey.Usable (vk : VirtualKey) (toStr : Bytes → Option String)
    (keys : List VirtualKey) : Prop :=
  ∃ authorization : Bytes,
    AuthedKey.fromRequestParts toStr (KeyStore.fromVirtualKeys keys) (some authorization) =
      .ok vk.identity

/-- The secret consists of characters that a header may hold. -/
def RawVirtualKey.Presentable (env : Environment) (vk : RawVirtualKey) : Prop :=
  ∀ secret, env vk.keyEnv = some secret → ∀ char ∈ secret.toList, IsHeaderChar char

theorem IsHeaderChar.toNat_lt {char : Char} (plain : IsHeaderChar char) : char.toNat < 127 := by
  rcases plain with rfl | visible
  · decide
  · exact visible.2

theorem IsHeaderChar.byte {char : Char} (plain : IsHeaderChar char) :
    IsHeaderByte (UInt8.ofNat char.toNat) := by
  have small := plain.toNat_lt
  rcases plain with rfl | visible
  · exact .inl rfl
  · right
    have same : (UInt8.ofNat char.toNat).toNat = char.toNat :=
      UInt8.toNat_ofNat_of_lt' (Nat.lt_of_lt_of_le small (by decide))
    rw [UInt8.le_iff_toNat_le, UInt8.lt_iff_toNat_lt, same]
    exact visible

theorem IsHeaderByte.char {byte : UInt8} (plain : IsHeaderByte byte) :
    IsHeaderChar (Char.ofNat byte.toNat) := by
  rcases plain with rfl | visible
  · exact .inl rfl
  · right
    rw [UInt8.le_iff_toNat_le, UInt8.lt_iff_toNat_lt] at visible
    have small : byte.toNat < 127 := visible.2
    have valid : byte.toNat.isValidChar := .inl (by omega)
    have same : (Char.ofNat byte.toNat).toNat = byte.toNat := by
      rw [Char.ofNat, dif_pos valid]
      rfl
    rw [same]
    exact visible

/-- Headers carry exactly the texts of such characters. -/
theorem ReadsHeaders.exists_value_iff {toStr : Bytes → Option String}
    (reads : ReadsHeaders toStr) (text : String) :
    (∃ value, toStr value = some text) ↔ ∀ char ∈ text.toList, IsHeaderChar char := by
  constructor
  · rintro ⟨value, read⟩ char membership
    have plain : ∀ byte ∈ value, IsHeaderByte byte := by
      by_contra other
      simp only [not_forall, exists_prop] at other
      rw [reads.refuses value other] at read
      cases read
    rw [reads.reads value plain, Option.some.injEq] at read
    rw [← read, Text.mem_ofBytes] at membership
    rcases membership with ⟨byte, membership, rfl⟩
    exact (plain byte membership).char
  · intro plain
    have narrow : ∀ char ∈ text.toList, char.toNat < 256 := by
      intro char membership
      have small := (plain char membership).toNat_lt
      omega
    use fromStatic text
    rw [reads.reads, fromStatic, Text.ofBytes_map_ofNat narrow]
    intro byte membership
    rcases List.mem_map.mp membership with ⟨char, charMembership, rfl⟩
    exact (plain char charMembership).byte

/-- A key of the table is usable exactly when its secret can stand in a header. -/
theorem VirtualKey.usable_iff {toStr : Bytes → Option String} (reads : ReadsHeaders toStr)
    {keys : List VirtualKey} (secrets : (keys.map (·.key.expose)).Nodup)
    (names : (keys.map (·.name)).Nodup) {vk : VirtualKey} (membership : vk ∈ keys) :
    vk.Usable toStr keys ↔ ∀ char ∈ vk.key.expose.toList, IsHeaderChar char := by
  have closed : (KeyStore.fromVirtualKeys keys).isOpen = false :=
    KeyStore.not_isOpen_of_authenticate (KeyStore.authenticate_fromVirtualKeys secrets membership)
  have scheme : ∀ char ∈ "Bearer ".toList, IsHeaderChar char := by
    intro char inScheme
    have visible : ("Bearer ".toList.all fun char =>
        32 ≤ char.toNat && char.toNat < 127) = true := rfl
    have isVisible := List.all_eq_true.mp visible char inScheme
    rw [Bool.and_eq_true, decide_eq_true_iff, decide_eq_true_iff] at isVisible
    exact .inr isVisible
  have split : (∀ char ∈ ("Bearer " ++ vk.key.expose).toList, IsHeaderChar char) ↔
      ∀ char ∈ vk.key.expose.toList, IsHeaderChar char := by
    rw [String.toList_append, List.forall_mem_append]
    exact and_iff_right scheme
  rw [← split, ← reads.exists_value_iff]
  constructor
  · rintro ⟨authorization, taken⟩
    rcases (AuthedKey.fromRequestParts_ok_iff closed).mp taken with ⟨token, presented, known⟩
    rcases (KeyStore.authenticate_fromVirtualKeys_iff secrets).mp known
      with ⟨other, otherMembership, rfl, identified⟩
    have sameName : vk.name = other.name := congrArg KeyIdentity.name identified
    have same : vk = other := List.inj_on_of_nodup_map names membership otherMembership sameName
    rw [same]
    exact ⟨authorization, presented⟩
  · rintro ⟨authorization, presented⟩
    exact ⟨authorization, (AuthedKey.fromRequestParts_ok_iff closed).mpr
      ⟨_, presented, KeyStore.authenticate_fromVirtualKeys secrets membership⟩⟩

/-- Resolved keys keep the names of their entries. -/
theorem map_name_of_resolves {env : Environment} {raw : List RawVirtualKey}
    {keys : List VirtualKey} (resolves : List.Forall₂ (RawVirtualKey.ResolvesTo env) raw keys) :
    keys.map (·.name) = raw.map RawVirtualKey.name := by
  induction resolves with
  | nil => rfl
  | cons first _ ih => rw [List.map_cons, List.map_cons, ih, first.name]

/-- **Usable keys.**  A key of an accepted configuration can be presented exactly when its
variable is set to visible ASCII, spaces and tabs. -/
theorem virtualKeys_usable_iff {reader : ConfigReader} {text : String} {raw : RawConfig}
    (parsed : reader.toml text = .ok raw) {env : Environment} {cfg : GatewayConfig}
    (accepted : GatewayConfig.fromTomlStr reader text env = .ok cfg)
    {toStr : Bytes → Option String} (reads : ReadsHeaders toStr) :
    List.Forall₂ (fun entry vk => vk.Usable toStr cfg.virtualKeys ↔ entry.Presentable env)
      raw.virtualKeys cfg.virtualKeys := by
  rcases fromTomlStr_ok parsed accepted with ⟨coherent, resolves⟩
  have names : (cfg.virtualKeys.map (·.name)).Nodup := by
    rw [map_name_of_resolves resolves.virtualKeys]
    exact coherent.keyNames
  rw [List.forall₂_iff_zip]
  refine ⟨resolves.virtualKeys.length_eq, fun {entry vk} paired => ?_⟩
  have resolved := List.forall₂_zip resolves.virtualKeys paired
  rw [VirtualKey.usable_iff reads (fromTomlStr_secrets_nodup accepted) names
    (List.of_mem_zip paired).2, RawVirtualKey.Presentable, resolved.key]
  simp only [Option.some.injEq, forall_eq']

namespace Sample

theorem headerText_reads : ReadsHeaders headerText := by
  have plain_iff : ∀ value : Bytes,
      (value.all fun byte => byte == 9 || (32 ≤ byte && byte < 127)) = true ↔
        ∀ byte ∈ value, IsHeaderByte byte := by
    intro value
    simp [IsHeaderByte]
  constructor
  · intro value plain
    exact if_pos ((plain_iff value).mpr plain)
  · rintro value ⟨byte, membership, other⟩
    exact if_neg fun all => other ((plain_iff value).mp all byte membership)

/-- An environment whose key has a letter outside of ASCII. -/
def accentedEnvironment : Environment
  | "LLM_BASE_URL" => some "http://127.0.0.1:8000/"
  | "DEV_KEY" => some "clé"
  | _ => none

def accentedKey : VirtualKey := { name := "dev", key := ⟨"clé"⟩, enforcePrivate := false }

theorem accentedKey_loads :
    GatewayConfig.fromTomlStr oneBackendReader oneBackendToml accentedEnvironment =
      .ok { oneBackendConfig "http://127.0.0.1:8000" with virtualKeys := [accentedKey] } := by
  rfl

end Sample

theorem virtualKeys_usable_oneBackend :
    List.Forall₂ (fun entry vk =>
        vk.Usable Sample.headerText
            (Sample.oneBackendConfig "http://127.0.0.1:8000").virtualKeys ↔
          entry.Presentable (Sample.environmentWith "http://127.0.0.1:8000/"))
      Sample.oneBackend.virtualKeys
      (Sample.oneBackendConfig "http://127.0.0.1:8000").virtualKeys :=
  virtualKeys_usable_iff (by simp [Sample.oneBackendReader]) Sample.oneBackend_loads
    Sample.headerText_reads

/-- The accented key loads, and no header is taken as it. -/
theorem virtualKeys_not_usable_accented :
    ¬ ∀ cfg, GatewayConfig.fromTomlStr Sample.oneBackendReader Sample.oneBackendToml
        Sample.accentedEnvironment = .ok cfg →
      ∀ vk ∈ cfg.virtualKeys, vk.Usable Sample.headerText cfg.virtualKeys := by
  intro all
  have usable := all _ Sample.accentedKey_loads Sample.accentedKey List.mem_cons_self
  have plain := (VirtualKey.usable_iff Sample.headerText_reads (by simp) (by simp)
    List.mem_cons_self).mp usable
  have accented := (plain 'é' (by decide)).toNat_lt
  exact absurd accented (by decide)

end Patchbay
