import Patchbay.ConfigValidation
import Patchbay.Upstream.Client

/-!
# Base URLs

The loader checks that a base URL starts with a scheme and then trims slashes from its
end.  The trimming reaches into the scheme when nothing but slashes follows it, and the
host of the requests then comes from their path.  Where the authority is left out in some
other way, the requests have no host or take it from their path as well.
-/

namespace Patchbay

/-- Tabs and line breaks in a URL are skipped. -/
def isSkipped (char : Char) : Bool := char == '\t' || char == '\n' || char == '\r'

/-- After the colon of an http scheme a backslash stands for a slash. -/
def isSlash (char : Char) : Bool := char == '/' || char == '\\'

def endsAuthority (char : Char) : Bool := isSlash char || char == '?' || char == '#'

/-- The authority in what follows the scheme's colon. -/
def authorityAfterColon (chars : List Char) : List Char :=
  ((chars.filter fun char => !isSkipped char).dropWhile isSlash).takeWhile fun char =>
    !endsAuthority char

/-- The part of an http URL that names user, host and port.  Any number of slashes may come
before it; a slash, a question mark or a hash ends it. -/
def authority (url : String) : String :=
  String.ofList (authorityAfterColon (url.toList.dropWhile (· != ':')).tail)

/-- The URL library: the host it reads out of an authority, and none where it refuses the
URL.  An http URL has a host. -/
structure UrlLibrary where
  hostIn : String → Option String
  needsHost : hostIn "" = none

/-- The library reads a host where this URL has its authority. -/
def UrlLibrary.FindsHost (urls : UrlLibrary) (url : String) : Prop :=
  ∃ host, urls.hostIn (authority url) = some host

/-- A base URL has a scheme and something after it, and no slash at its end.  The URL that
chat completions are posted to has a host, and its authority is that of the base URL. -/
structure Backend.WellFormedUrl (urls : UrlLibrary) (backend : Backend) : Prop where
  noTrailingSlash : ∀ start, backend.baseUrl ≠ start ++ "/"
  scheme : ∃ rest,
    (backend.baseUrl = "http://" ++ rest ∨ backend.baseUrl = "https://" ++ rest) ∧ rest ≠ ""
  authority : ∀ body, authority (Call.mk backend "/v1/chat/completions" body).url =
    authority backend.baseUrl
  host : ∀ body, urls.FindsHost (Call.mk backend "/v1/chat/completions" body).url

/-- An authority that is there ends before the next slash. -/
theorem authorityAfterColon_path {chars : List Char} (present : authorityAfterColon chars ≠ [])
    (path : List Char) :
    authorityAfterColon (chars ++ '/' :: path) = authorityAfterColon chars := by
  unfold authorityAfterColon at present ⊢
  have begun : (chars.filter fun char => !isSkipped char).dropWhile isSlash ≠ [] := by
    intro nothing
    rw [nothing] at present
    exact present rfl
  have slash : ((('/' :: path).filter fun char => !isSkipped char).takeWhile fun char =>
      !endsAuthority char) = [] := by rfl
  rw [List.filter_append, List.dropWhile_append, if_neg (by simpa using begun),
    List.takeWhile_append, slash, List.append_nil]
  split
  · rename_i whole
    exact ((List.takeWhile_prefix _).eq_of_length whole).symm
  · rfl

/-- Slashes at the end do not change where the authority is. -/
theorem authorityAfterColon_slashes (chars : List Char) (count : Nat) :
    authorityAfterColon (chars ++ List.replicate count '/') = authorityAfterColon chars := by
  cases count with
  | zero => rw [List.replicate_zero, List.append_nil]
  | succ count =>
      by_cases present : authorityAfterColon chars = []
      · unfold authorityAfterColon at present ⊢
        have slashes : ∀ char ∈ List.replicate (count + 1) '/', char = '/' := by
          intro char membership
          exact List.eq_of_mem_replicate membership
        have kept : (List.replicate (count + 1) '/').filter (fun char => !isSkipped char) =
            List.replicate (count + 1) '/' := by
          rw [List.filter_eq_self]
          intro char membership
          rw [slashes char membership]
          rfl
        rw [List.filter_append, kept, List.dropWhile_append]
        split
        · have none : (List.replicate (count + 1) '/').dropWhile isSlash = [] := by
            rw [List.dropWhile_eq_nil_iff]
            intro char membership
            rw [slashes char membership]
            rfl
          rw [none, present]
          rfl
        · rename_i begun
          cases left : (chars.filter fun char => !isSkipped char).dropWhile isSlash with
          | nil => exact absurd (by rw [left]; rfl) begun
          | cons first rest =>
              rw [left] at present
              have ended : (!endsAuthority first) = false := by
                by_contra stays
                simp [Bool.eq_true_of_not_eq_false stays] at present
              simp only [List.cons_append, List.takeWhile_cons, ended, Bool.false_eq_true,
                if_false]
      · exact authorityAfterColon_path present _

theorem authority_scheme {scheme : String} (isScheme : scheme = "http://" ∨ scheme = "https://")
    (rest : String) : authority (scheme ++ rest) =
      String.ofList (authorityAfterColon rest.toList) := by
  rw [authority, String.toList_append]
  rcases isScheme with rfl | rfl <;> rfl

/-- The path does not reach into an authority that is there. -/
theorem authority_append {scheme : String} (isScheme : scheme = "http://" ∨ scheme = "https://")
    {rest : String} (present : authority (scheme ++ rest) ≠ "") (path : String) :
    authority (scheme ++ rest ++ ("/" ++ path)) = authority (scheme ++ rest) := by
  rw [authority_scheme isScheme] at present
  have begun : authorityAfterColon rest.toList ≠ [] := by
    intro none
    rw [none] at present
    exact present rfl
  have chars : (rest ++ ("/" ++ path)).toList = rest.toList ++ '/' :: path.toList := by
    rw [String.toList_append, String.toList_append]
    rfl
  rw [String.append_assoc, authority_scheme isScheme, authority_scheme isScheme, chars,
    authorityAfterColon_path begun]

theorem authority_trimmed {scheme : String} (isScheme : scheme = "http://" ∨ scheme = "https://")
    (rest : String) :
    authority (scheme ++ Text.trimEndMatches rest '/') = authority (scheme ++ rest) := by
  rcases Text.eq_trimEndMatches_append rest '/' with ⟨count, chars⟩
  rw [authority_scheme isScheme, authority_scheme isScheme, chars, authorityAfterColon_slashes]

/-- An authority has something else than slashes. -/
theorem beyondSlashes_of_authority {scheme : String}
    (isScheme : scheme = "http://" ∨ scheme = "https://") {rest : String}
    (present : authority (scheme ++ rest) ≠ "") : ∃ char ∈ rest.toList, char ≠ '/' := by
  by_contra mere
  have all : rest.toList = List.replicate rest.toList.length '/' := by
    rw [List.eq_replicate_iff]
    refine ⟨rfl, fun char membership => ?_⟩
    by_contra different
    exact mere ⟨char, membership, different⟩
  apply present
  rw [authority_scheme isScheme, all]
  exact congrArg String.ofList (authorityAfterColon_slashes [] _)

theorem authority_ne_empty {urls : UrlLibrary} {url : String} (found : urls.FindsHost url) :
    authority url ≠ "" := by
  intro empty
  rcases found with ⟨host, read⟩
  rw [empty, urls.needsHost] at read
  cases read

theorem scheme_of_hasScheme {url : String} (withScheme : HasScheme url) :
    ∃ scheme rest, (scheme = "http://" ∨ scheme = "https://") ∧ url = scheme ++ rest := by
  rcases withScheme with ⟨rest, rfl | rfl⟩
  · exact ⟨_, rest, .inl rfl, rfl⟩
  · exact ⟨_, rest, .inr rfl, rfl⟩

theorem wellFormedUrl_of_findsHost {urls : UrlLibrary} {backend : Backend} {url : String}
    (withScheme : HasScheme url) (trimmed : backend.baseUrl = Text.trimEndMatches url '/')
    (found : urls.FindsHost url) : backend.WellFormedUrl urls := by
  rcases scheme_of_hasScheme withScheme with ⟨scheme, rest, isScheme, rfl⟩
  have present := authority_ne_empty found
  rcases beyondSlashes_of_authority isScheme present with ⟨kept, membership, different⟩
  have baseUrl := trimmed
  rw [Text.trimEndMatches_append membership different] at baseUrl
  have stays := Text.mem_trimEndMatches membership different
  have same : authority backend.baseUrl = authority (scheme ++ rest) := by
    rw [baseUrl, authority_trimmed isScheme]
  have posted : ∀ body, authority (Call.mk backend "/v1/chat/completions" body).url =
      authority backend.baseUrl := by
    intro body
    rw [Call.url, baseUrl]
    exact authority_append isScheme (by rwa [← baseUrl, same]) "v1/chat/completions"
  constructor
  · intro start trailing
    have nonempty : (Text.trimEndMatches (scheme ++ rest) '/').toList ≠ [] := by
      rw [← trimmed, trailing, String.toList_append]
      simp
    apply Text.trimEndMatches_getLast nonempty
    simp only [← trimmed, trailing, String.toList_append]
    simp
  · use Text.trimEndMatches rest '/'
    constructor
    · rw [baseUrl]
      exact isScheme.imp (fun same => by rw [same]) (fun same => by rw [same])
    · intro empty
      rw [empty] at stays
      cases stays
  · exact posted
  · intro body
    unfold UrlLibrary.FindsHost
    rw [posted body, same]
    exact found

/-- Of a mere scheme, trimming leaves no scheme. -/
theorem beyondSlashes_of_wellFormedUrl {urls : UrlLibrary} {backend : Backend}
    {scheme rest : String} (isScheme : scheme = "http://" ∨ scheme = "https://")
    (trimmed : backend.baseUrl = Text.trimEndMatches (scheme ++ rest) '/')
    (wellFormed : backend.WellFormedUrl urls) : ∃ char ∈ rest.toList, char ≠ '/' := by
  by_contra mere
  have all : ∀ char ∈ rest.toList, char = '/' := by
    intro char membership
    by_contra different
    exact mere ⟨char, membership, different⟩
  have left : backend.baseUrl = "http:" ∨ backend.baseUrl = "https:" := by
    rw [trimmed, Text.trimEndMatches_append_of_all all]
    exact isScheme.imp (fun same => by rw [same]; rfl) (fun same => by rw [same]; rfl)
  rcases wellFormed.scheme with ⟨other, withScheme, -⟩
  have chars : backend.baseUrl.toList = "http://".toList ++ other.toList ∨
      backend.baseUrl.toList = "https://".toList ++ other.toList := by
    rcases withScheme with same | same
    · exact .inl (by rw [same, String.toList_append])
    · exact .inr (by rw [same, String.toList_append])
  rcases left with same | same <;> rw [same] at chars <;> simp at chars

theorem findsHost_of_wellFormedUrl {urls : UrlLibrary} {backend : Backend} {url : String}
    (withScheme : HasScheme url) (trimmed : backend.baseUrl = Text.trimEndMatches url '/')
    (wellFormed : backend.WellFormedUrl urls) : urls.FindsHost url := by
  rcases scheme_of_hasScheme withScheme with ⟨scheme, rest, isScheme, rfl⟩
  rcases beyondSlashes_of_wellFormedUrl isScheme trimmed wellFormed with
    ⟨kept, membership, different⟩
  have found := wellFormed.host []
  unfold UrlLibrary.FindsHost at found ⊢
  rwa [wellFormed.authority, trimmed, Text.trimEndMatches_append membership different,
    authority_trimmed isScheme] at found

theorem wellFormedUrl_iff {urls : UrlLibrary} {backend : Backend} {url : String}
    (withScheme : HasScheme url) (trimmed : backend.baseUrl = Text.trimEndMatches url '/') :
    backend.WellFormedUrl urls ↔ urls.FindsHost url :=
  ⟨findsHost_of_wellFormedUrl withScheme trimmed, wellFormedUrl_of_findsHost withScheme trimmed⟩

/-- Related lists satisfy related properties. -/
theorem forall_mem_iff_of_forall₂ {α β : Type} {related : α → β → Prop} {P : α → Prop}
    {Q : β → Prop} {left : List α} {right : List β} (all : List.Forall₂ related left right)
    (alike : ∀ a ∈ left, ∀ b, related a b → (Q b ↔ P a)) :
    (∀ b ∈ right, Q b) ↔ ∀ a ∈ left, P a := by
  induction all with
  | nil => simp
  | cons first rest ih =>
      rw [List.forall_mem_cons, List.forall_mem_cons, alike _ List.mem_cons_self _ first,
        ih fun a membership => alike a (List.mem_cons_of_mem _ membership)]

/-- **Base URLs.**  The backends of an accepted configuration have well-formed base URLs
exactly when the URL library finds a host in each configured one. -/
theorem baseUrls_wellFormed_iff {urls : UrlLibrary} {reader : ConfigReader} {text : String}
    {raw : RawConfig} (parsed : reader.toml text = .ok raw) {env : Environment} {cfg : GatewayConfig}
    (accepted : GatewayConfig.fromTomlStr reader text env = .ok cfg) :
    (∀ backend ∈ cfg.backends, backend.WellFormedUrl urls) ↔
      ∀ b ∈ raw.backends, ∀ url, env b.baseUrlEnv = some url → urls.FindsHost url := by
  rcases fromTomlStr_ok parsed accepted with ⟨coherent, resolves⟩
  apply forall_mem_iff_of_forall₂ resolves.backends
  intro b membership backend resolved
  rcases resolved.baseUrl with ⟨url, set, trimmed⟩
  have scheme := (coherent.backends b membership).baseUrl url set
  rw [wellFormedUrl_iff scheme trimmed]
  constructor
  · intro found other otherSet
    rw [set, Option.some.injEq] at otherSet
    rwa [← otherSet]
  · intro all
    exact all url set

namespace Sample

/-- A host is what stands between the user information and the port. -/
def urlLibrary : UrlLibrary where
  hostIn text :=
    let host := ((text.toList.rtakeWhile (· != '@')).takeWhile (· != ':'))
    if host = [] then none else some (String.ofList host)
  needsHost := rfl

/-- What the file resolves to where its base URL is trimmed to this one. -/
def oneBackendConfig (baseUrl : String) : GatewayConfig where
  listen := ⟨"0.0.0.0", 8080⟩
  backends := [
    { name := "local", baseUrl, apiKey := none, models := ["m"], capabilityTags := []
      privacy := .Local }]
  virtualKeys := [{ name := "dev", key := ⟨"sk-dev"⟩, enforcePrivate := false }]
  policy := .staticPriority

theorem oneBackend_loads :
    GatewayConfig.fromTomlStr oneBackendReader oneBackendToml
      (environmentWith "http://127.0.0.1:8000/") =
        .ok (oneBackendConfig "http://127.0.0.1:8000") := by
  rfl

theorem mereScheme_loads :
    GatewayConfig.fromTomlStr oneBackendReader oneBackendToml (environmentWith "http://") =
      .ok (oneBackendConfig "http:") := by
  rfl

end Sample

theorem baseUrls_wellFormed_oneBackend :
    (∀ backend ∈ (Sample.oneBackendConfig "http://127.0.0.1:8000").backends,
        backend.WellFormedUrl Sample.urlLibrary) ↔
      ∀ b ∈ Sample.oneBackend.backends, ∀ url,
        Sample.environmentWith "http://127.0.0.1:8000/" b.baseUrlEnv = some url →
          Sample.urlLibrary.FindsHost url :=
  baseUrls_wellFormed_iff (by simp [Sample.oneBackendReader]) Sample.oneBackend_loads

/-- A base URL that is a mere scheme loses the scheme. -/
theorem mereScheme_not_wellFormed :
    ¬ ∀ cfg, GatewayConfig.fromTomlStr Sample.oneBackendReader Sample.oneBackendToml
        (Sample.environmentWith "http://") = .ok cfg →
      ∀ backend ∈ cfg.backends, backend.WellFormedUrl Sample.urlLibrary := by
  intro all
  rcases (all _ Sample.mereScheme_loads _ List.mem_cons_self).scheme with ⟨rest, same, -⟩
  rcases same with same | same
  · have chars := congrArg String.toList same
    simp [String.toList_append] at chars
  · have chars := congrArg String.toList same
    simp [String.toList_append] at chars

end Patchbay
