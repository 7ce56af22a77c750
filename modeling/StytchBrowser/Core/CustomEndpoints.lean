import StytchBrowser.Lib.UrlHost

/-!
# Custom endpoints

The base URLs of the API and of the device fingerprinting service can be configured, as a domain or as
a URL. `getHttpsUrl` tries the string as a URL first, and only when that fails as a domain.

* `custom_endpoints_iff`: for which strings it returns a host, and the host that was meant, and when
  the four base URLs are right.
-/

namespace StytchBrowser.Core

open UrlHost

variable (P : HostParser)

/-- `https://${hostname}`. -/
def httpsUrl (host : List Char) : String := "https://" ++ String.ofList host

def getHttpsUrl (urlOrDomain : String) : Option String :=
  match hostname P urlOrDomain.toList with
  | some host => some (httpsUrl host)
  | none => (hostname P ("https://" ++ urlOrDomain).toList).map httpsUrl

/-! ## The options -/

/-- The deprecated options. -/
structure EndpointOptions where
  apiDomain : Option String
  testApiDomain : Option String
  dfppaDomain : Option String
  dfpCdnDomain : Option String

/-- The options of an environment, which are internal. -/
structure Endpoints where
  liveAPIURL : String
  testAPIURL : String
  dfpBackendURL : String

structure InternalStytchClientOptions where
  customBaseUrl : Option String
  dfppaUrl : Option String
  dfpCdnUrl : Option String
  endpointOptions : Option EndpointOptions
  endpoints : Option Endpoints

/-- The URL that a function returns, and the warning it logs. -/
structure Resolved where
  url : String
  warning : Option String

/-- The common body: `domain` is what is configured with `custom`, or else with the deprecated
option. -/
def resolveUrl (custom domain : Option String) (what customKey deprecatedKey fallback : String) :
    Resolved :=
  match domain with
  | none => ⟨fallback, none⟩
  | some domain =>
      if domain = "" then ⟨fallback, none⟩
      else match getHttpsUrl P domain with
        | some url => ⟨url, none⟩
        | none =>
            let key := if (custom.getD "") = "" then deprecatedKey else customKey
            ⟨fallback, some ("Unable to use custom " ++ what ++ " domain `" ++ domain ++ "`. " ++ key ++
              " should be a valid domain.")⟩

def LIVE_API_URL : String := "https://api.stytch.com"

def TEST_API_URL : String := "https://test.stytch.com"

def STYTCH_DFP_BACKEND_URL : String := "https://telemetry.stytch.com"

def STYTCH_DFP_CDN_URL : String := "https://elements.stytch.com"

section
variable (opts : Option InternalStytchClientOptions)

/-- `opts?.custom ?? opts?.endpointOptions?.deprecated`. -/
def configured (custom : InternalStytchClientOptions → Option String)
    (deprecated : EndpointOptions → Option String) : Option String :=
  (opts.bind custom).or ((opts.bind (·.endpointOptions)).bind deprecated)

/-- `opts?.endpoints?.field ?? constant`. -/
def fallback (field : Endpoints → String) (constant : String) : String :=
  ((opts.bind (·.endpoints)).map field).getD constant

def getLiveApiURL : Resolved :=
  resolveUrl P (opts.bind (·.customBaseUrl)) (configured opts (·.customBaseUrl) (·.apiDomain))
    "API" "customBaseUrl" "apiDomain" (fallback opts (·.liveAPIURL) LIVE_API_URL)

def getTestApiURL : Resolved :=
  resolveUrl P (opts.bind (·.customBaseUrl)) (configured opts (·.customBaseUrl) (·.testApiDomain))
    "API" "customBaseUrl" "testApiDomain" (fallback opts (·.testAPIURL) TEST_API_URL)

def getDFPBackendURL : Resolved :=
  resolveUrl P (opts.bind (·.dfppaUrl)) (configured opts (·.dfppaUrl) (·.dfppaDomain))
    "DFPPA" "dfppaUrl" "dfppaDomain" (fallback opts (·.dfpBackendURL) STYTCH_DFP_BACKEND_URL)

def getDFPCdnURL : Resolved :=
  resolveUrl P (opts.bind (·.dfpCdnUrl)) (configured opts (·.dfpCdnUrl) (·.dfpCdnDomain))
    "DFP CDN" "dfpCdnUrl" "dfpCdnDomain" STYTCH_DFP_CDN_URL

end

/-! ## What is expected -/

/-- `https://` and a host. -/
def IsHttpsUrl (url : String) : Prop :=
  ∃ host, url = httpsUrl host ∧ host ≠ [] ∧ ∀ c ∈ host, delimiter c = false

/-- After the scheme there are two slashes and the first character of a host. -/
def HasHost (base : String) : Prop :=
  ∃ c rest, base.toList.dropWhile (· != ':') = ':' :: '/' :: '/' :: c :: rest ∧ delimiter c = false

/-- Nothing is configured that can be used. -/
def Unconfigured (domain : Option String) : Prop :=
  ∀ d, domain = some d → d = "" ∨ getHttpsUrl P d = none

/-- The URL is the one that is configured, when that is valid, and the fallback otherwise, and has a
host. -/
structure Resolves (domain : Option String) (fallback url : String) : Prop where
  configured : ∀ d, domain = some d → d ≠ "" → ∀ u, getHttpsUrl P d = some u → url = u
  fallback : Unconfigured P domain → url = fallback
  hasHost : HasHost url

/-- What the right URL needs: a configured string that is no URL with an empty host, or a fallback with
a host. -/
def Usable (domain : Option String) (fallback : String) : Prop :=
  (∀ d, domain = some d → ¬ EmptyHost P d.toList) ∧ (Unconfigured P domain → HasHost fallback)

/-! ## `getHttpsUrl` -/

variable {P} {s : String} {host : List Char}

theorem toList_https (s : String) : ("https://" ++ s).toList = "https://".toList ++ s.toList :=
  String.toList_append

theorem toList_httpsUrl (host : List Char) : (httpsUrl host).toList = "https://".toList ++ host :=
  (toList_https _).trans (congrArg ("https://".toList ++ ·) String.toList_ofList)

theorem httpsUrl_injective {host' : List Char} (h : httpsUrl host = httpsUrl host') : host = host' := by
  have hlist := congrArg String.toList h
  rw [toList_httpsUrl, toList_httpsUrl] at hlist
  exact List.append_cancel_left hlist

theorem isHttpsUrl_httpsUrl :
    IsHttpsUrl (httpsUrl host) ↔ host ≠ [] ∧ ∀ c ∈ host, delimiter c = false := by
  constructor
  · rintro ⟨host', heq, h⟩
    rwa [httpsUrl_injective heq]
  · exact fun h => ⟨host, rfl, h⟩

/-- A string that is a URL gives its host. -/
theorem getHttpsUrl_of_hostname (h : hostname P s.toList = some host) :
    getHttpsUrl P s = some (httpsUrl host) := by
  unfold getHttpsUrl
  rw [h]

theorem getHttpsUrl_of_none (h : hostname P s.toList = none) :
    getHttpsUrl P s = (hostname P ("https://".toList ++ s.toList)).map httpsUrl := by
  unfold getHttpsUrl
  rw [h, toList_https]

/-- What is returned has a host exactly when the string is not a URL with an empty one. -/
theorem isHttpsUrl_iff : (∀ url, getHttpsUrl P s = some url → IsHttpsUrl url) ↔ ¬ EmptyHost P s.toList := by
  rw [← hostname_eq_nil_iff]
  cases h : hostname P s.toList with
  | some host =>
    rw [getHttpsUrl_of_hostname h]
    constructor
    · rintro hall ⟨⟩
      exact (isHttpsUrl_httpsUrl.1 (hall _ rfl)).1 rfl
    · rintro hne url ⟨⟩
      exact isHttpsUrl_httpsUrl.2 ⟨fun hnil => hne (congrArg some hnil), hostname_delimiter h⟩
  | none =>
    refine ⟨nofun, fun _ url hurl => ?_⟩
    rw [getHttpsUrl_of_none h] at hurl
    obtain ⟨host, hhost, rfl⟩ := Option.map_eq_some_iff.1 hurl
    refine isHttpsUrl_httpsUrl.2 ⟨?_, hostname_delimiter hhost⟩
    rintro rfl
    exact not_emptyHost_https _ (hostname_eq_nil_iff.1 hhost)

/-- Where the port is taken for the authority of a special URL it is not a host. -/
def ReadAsScheme (P : HostParser) (name : List Char) : Option (List Char) → Prop
  | none => False
  | some port => schemeName name ∧ ¬ (name.map Char.toLower ∈ specialSchemes ∧ P.parse port = none)

/-- A host name with a port and a path gives the host name, unless the name and the colon are read as
a scheme. -/
theorem getHttpsUrl_address {name path : List Char} {port : Option (List Char)}
    (h : IsHostName P name) (hport : ∀ p, port = some p → IsPort p) (hpath : IsPath path) :
    getHttpsUrl P (String.ofList (name ++ portText port ++ path)) = some (httpsUrl name) ↔
      ¬ ReadAsScheme P name port := by
  have haddress := hostname_address h hport hpath
  have hhttps : hostname P ("https://".toList ++ (name ++ portText port ++ path)) = some name :=
    hostname_https h hport hpath
  have htext : (String.ofList (name ++ portText port ++ path)).toList = name ++ portText port ++ path :=
    String.toList_ofList
  have hnone : hostname P (name ++ portText port ++ path) = none →
      getHttpsUrl P (String.ofList (name ++ portText port ++ path)) = some (httpsUrl name) := by
    intro hfail
    rw [getHttpsUrl_of_none (by rwa [htext]), htext, hhttps]
    rfl
  have hsome : ∀ host, hostname P (name ++ portText port ++ path) = some host → host ≠ name →
      getHttpsUrl P (String.ofList (name ++ portText port ++ path)) ≠ some (httpsUrl name) := by
    intro host hhost hne heq
    rw [getHttpsUrl_of_hostname (by rwa [htext])] at heq
    exact hne (httpsUrl_injective (Option.some.inj heq))
  cases port with
  | none => exact ⟨fun _ => id, fun _ => hnone haddress⟩
  | some p =>
    by_cases hscheme : schemeName name = true
    · rw [Option.bind_some, if_pos hscheme] at haddress
      by_cases hspecial : name.map Char.toLower ∈ specialSchemes
      · rw [if_pos hspecial] at haddress
        cases hparse : P.parse p with
        | none => exact ⟨fun _ hread => hread.2 ⟨hspecial, hparse⟩, fun _ => hnone (haddress.trans hparse)⟩
        | some host =>
          obtain ⟨hp, hvalid⟩ := hport p rfl
          have hdigits := List.all_eq_true.1 (Bool.and_eq_true_iff.1 hvalid).1
          have hne : host ≠ name := parse_number_ne hp hdigits hscheme hparse
          refine ⟨fun heq => absurd heq (hsome host (haddress.trans hparse) hne), fun hread => ?_⟩
          refine absurd ⟨hscheme, fun h => ?_⟩ hread
          rw [hparse] at h
          cases h.2
      · rw [if_neg hspecial] at haddress
        refine ⟨fun heq => absurd heq (hsome [] haddress h.ne_nil.symm), fun hread => ?_⟩
        exact absurd ⟨hscheme, fun h => hspecial h.1⟩ hread
    · rw [Option.bind_some, if_neg hscheme] at haddress
      exact ⟨fun _ hread => hscheme hread.1, fun _ => hnone haddress⟩

/-! ## The base URLs -/

theorem hasHost_of_isHttpsUrl {url : String} (h : IsHttpsUrl url) : HasHost url := by
  obtain ⟨host, rfl, hne, hchars⟩ := h
  obtain ⟨c, cs, rfl⟩ := List.exists_cons_of_ne_nil hne
  refine ⟨c, cs, ?_, hchars c List.mem_cons_self⟩
  rw [toList_httpsUrl]
  rfl

theorem not_hasHost_https : ¬ HasHost (httpsUrl []) := by
  rintro ⟨c, rest, h, -⟩
  rw [toList_httpsUrl] at h
  cases h

theorem url_resolveUrl (custom domain : Option String)
    (what customKey deprecatedKey fallback : String) :
    (resolveUrl P custom domain what customKey deprecatedKey fallback).url =
      (domain.bind fun d => if d = "" then none else getHttpsUrl P d).getD fallback := by
  unfold resolveUrl
  cases domain with
  | none => rfl
  | some d =>
    rw [Option.bind_some]
    dsimp only
    by_cases hempty : d = ""
    · rw [if_pos hempty, if_pos hempty]
      rfl
    · rw [if_neg hempty, if_neg hempty]
      cases getHttpsUrl P d <;> rfl

/-- When a base URL is right. -/
theorem resolves_iff {domain : Option String} {fallback : String} :
    Resolves P domain fallback
        ((domain.bind fun d => if d = "" then none else getHttpsUrl P d).getD fallback) ↔
      Usable P domain fallback := by
  constructor
  · rintro ⟨hconfigured, hfallback, hhost⟩
    refine ⟨?_, fun hun => hfallback hun ▸ hhost⟩
    rintro d rfl hempty
    have hget := getHttpsUrl_of_hostname (hostname_eq_nil_iff.2 hempty)
    have hne : d ≠ "" := by
      rintro rfl
      obtain ⟨_, _, hsplit, -⟩ := hempty
      cases hsplit
    rw [Option.bind_some, if_neg hne, hget] at hhost
    exact not_hasHost_https hhost
  · rintro ⟨hnot, hfallback⟩
    cases hvalid : domain.bind fun d => if d = "" then none else getHttpsUrl P d with
    | none =>
      have hun : Unconfigured P domain := by
        rintro d rfl
        rw [Option.bind_some] at hvalid
        split_ifs at hvalid with hempty
        · exact .inl hempty
        · exact .inr hvalid
      refine ⟨?_, fun _ => rfl, hfallback hun⟩
      rintro d rfl hne u hu
      rw [Option.bind_some, if_neg hne, hu] at hvalid
      cases hvalid
    | some url =>
      obtain ⟨d, rfl, hd⟩ := Option.bind_eq_some_iff.1 hvalid
      split_ifs at hd with hempty
      refine ⟨?_, fun hun => ?_, hasHost_of_isHttpsUrl (isHttpsUrl_iff.2 (hnot d rfl) url hd)⟩
      · rintro d' ⟨⟩ - u hu
        exact Option.some.inj (hd.symm.trans hu)
      · rcases hun d rfl with h | h
        · exact absurd h hempty
        · rw [h] at hd
          cases hd

variable (P) in
/-- `getHttpsUrl` returns a host unless the string is a URL with an empty one; it returns the host name
of an address unless the name and the colon are read as a scheme, and the host of a URL; and the base
URLs are right when what is configured can be used. -/
theorem custom_endpoints_iff :
    (∀ s, (∀ url, getHttpsUrl P s = some url → IsHttpsUrl url) ↔ ¬ EmptyHost P s.toList) ∧
      (∀ name port path, IsHostName P name → (∀ p, port = some p → IsPort p) → IsPath path →
        (getHttpsUrl P (String.ofList (name ++ portText port ++ path)) = some (httpsUrl name) ↔
          ¬ ReadAsScheme P name port)) ∧
      (∀ s host, hostname P s.toList = some host → getHttpsUrl P s = some (httpsUrl host)) ∧
      ∀ opts,
        (Resolves P (configured opts (·.customBaseUrl) (·.apiDomain))
            (fallback opts (·.liveAPIURL) LIVE_API_URL) (getLiveApiURL P opts).url ↔
          Usable P (configured opts (·.customBaseUrl) (·.apiDomain))
            (fallback opts (·.liveAPIURL) LIVE_API_URL)) ∧
        (Resolves P (configured opts (·.customBaseUrl) (·.testApiDomain))
            (fallback opts (·.testAPIURL) TEST_API_URL) (getTestApiURL P opts).url ↔
          Usable P (configured opts (·.customBaseUrl) (·.testApiDomain))
            (fallback opts (·.testAPIURL) TEST_API_URL)) ∧
        (Resolves P (configured opts (·.dfppaUrl) (·.dfppaDomain))
            (fallback opts (·.dfpBackendURL) STYTCH_DFP_BACKEND_URL) (getDFPBackendURL P opts).url ↔
          Usable P (configured opts (·.dfppaUrl) (·.dfppaDomain))
            (fallback opts (·.dfpBackendURL) STYTCH_DFP_BACKEND_URL)) ∧
        (Resolves P (configured opts (·.dfpCdnUrl) (·.dfpCdnDomain)) STYTCH_DFP_CDN_URL
            (getDFPCdnURL P opts).url ↔
          Usable P (configured opts (·.dfpCdnUrl) (·.dfpCdnDomain)) STYTCH_DFP_CDN_URL) := by
  refine ⟨fun s => isHttpsUrl_iff, fun name port path => getHttpsUrl_address,
    fun s host => getHttpsUrl_of_hostname, fun opts => ⟨?_, ?_, ?_, ?_⟩⟩
  · rw [getLiveApiURL, url_resolveUrl]
    exact resolves_iff
  · rw [getTestApiURL, url_resolveUrl]
    exact resolves_iff
  · rw [getDFPBackendURL, url_resolveUrl]
    exact resolves_iff
  · rw [getDFPCdnURL, url_resolveUrl]
    exact resolves_iff

/-- A parser of domains in lower case, which fails for everything else. -/
def plainHosts : HostParser where
  parse s :=
    if s ≠ [] ∧ s.all (fun c => c.isLower || c.isDigit || c = '-' || c = '.') ∧ ¬ s.all Char.isDigit
    then some s else none
  parse_ne_nil s host h := by
    split_ifs at h with hplain
    exact Option.some.inj h ▸ hplain.1
  parse_delimiter s host h c hc := by
    split_ifs at h with hplain
    obtain rfl := Option.some.inj h
    have hchar := List.all_eq_true.1 hplain.2.1 c hc
    by_contra hd
    rw [Bool.not_eq_false, delimiter] at hd
    simp only [Bool.or_eq_true, decide_eq_true_eq] at hd
    rcases hd with ((rfl | rfl) | rfl) | rfl <;> exact absurd hchar (by decide)
  parse_number s host _ hdigits h := by
    split_ifs at h with hplain
    exact absurd (List.all_eq_true.2 hdigits) hplain.2.2

/-- An address with a port that is not read as a scheme. -/
theorem custom_endpoints_loopback :
    getHttpsUrl plainHosts "127.0.0.1:3000/v1" = some "https://127.0.0.1" := by
  have hname : IsHostName plainHosts "127.0.0.1".toList :=
    ⟨by decide, List.all_eq_true.1 (by decide), by decide⟩
  have hport : ∀ p, some "3000".toList = some p → IsPort p := by
    rintro p ⟨⟩
    exact ⟨by decide, by decide⟩
  refine ((custom_endpoints_iff plainHosts).2.1 "127.0.0.1".toList (some "3000".toList) "/v1".toList
    hname hport (.inr ⟨"v1".toList, rfl⟩)).2 ?_
  rintro ⟨hscheme, -⟩
  exact absurd hscheme (by decide)

/-- A local address with a port is a URL of the scheme `localhost`, which has no host. -/
theorem getHttpsUrl_localhost : ¬ ∀ s url, getHttpsUrl plainHosts s = some url → IsHttpsUrl url := by
  intro hall
  have hhost : hostname plainHosts "localhost:3000".toList = some [] := by decide
  exact (isHttpsUrl_httpsUrl.1 (hall _ _ (getHttpsUrl_of_hostname hhost))).1 rfl

end StytchBrowser.Core
