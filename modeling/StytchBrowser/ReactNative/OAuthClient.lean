import Mathlib.Data.List.Infix
import StytchBrowser.Lib.OrderedMap
import StytchBrowser.Lib.RawQuery
import StytchBrowser.Lib.SearchParams

/-!
# The start URLs of OAuth

`createOAuthURL` of the React Native client puts the query together from the parameters as they are;
the web client sets them on the `searchParams` of a `URL`. `queryParams` is the object that the React
Native client collects the parameters in.
-/

universe u

namespace StytchBrowser.ReactNative.OAuth

open FormUrlEncoded

/-- `OAuthProviders`. -/
inductive OAuthProvider where
  | google
  | microsoft
  | apple
  | github
  | gitlab
  | facebook
  | discord
  | salesforce
  | slack
  | amazon
  | bitbucket
  | linkedin
  | coinbase
  | twitch
  | twitter
  | tiktok
  | snapchat
  | figma
  | yahoo
  deriving DecidableEq

/-- The value of a provider, which stands in the path. -/
def OAuthProvider.name : OAuthProvider → String
  | .google => "google"
  | .microsoft => "microsoft"
  | .apple => "apple"
  | .github => "github"
  | .gitlab => "gitlab"
  | .facebook => "facebook"
  | .discord => "discord"
  | .salesforce => "salesforce"
  | .slack => "slack"
  | .amazon => "amazon"
  | .bitbucket => "bitbucket"
  | .linkedin => "linkedin"
  | .coinbase => "coinbase"
  | .twitch => "twitch"
  | .twitter => "twitter"
  | .tiktok => "tiktok"
  | .snapchat => "snapchat"
  | .figma => "figma"
  | .yahoo => "yahoo"

/-- The start of a URL: a protocol and a host, perhaps with a path. -/
abbrev Origin := {s : String // '?' ∉ s.toList ∧ '#' ∉ s.toList}

/-- What the client is configured with. -/
structure Config where
  publicToken : String
  testAPIURL : Origin
  liveAPIURL : Origin
  /-- The custom domain of the project, without a protocol. -/
  cnameDomain : Option Origin

/-- `isTestPublicToken`. -/
def isTestPublicToken (token : String) : Bool :=
  decide ("public-token-test".toList <:+: token.toList)

/-- `getBaseApiUrl`. -/
def getBaseApiUrl (config : Config) : String :=
  match config.cnameDomain.filter fun domain => domain.1 ≠ "" with
  | some domain => "https://" ++ domain.1
  | none => if isTestPublicToken config.publicToken then config.testAPIURL.1 else config.liveAPIURL.1

/-- `OAuthGetURLOptions`. -/
structure OAuthGetURLOptions where
  login_redirect_url : Option String := none
  signup_redirect_url : Option String := none
  custom_scopes : Option (List String) := none
  provider_params : Option (OrderedMap String String) := none
  oauth_attach_token : Option String := none

/-- `if (value) queryParams[name] = value`. -/
def setIfGiven (params : OrderedMap String String) (name : String) (value : Option String) :
    OrderedMap String String :=
  match value.filter (· ≠ "") with
  | some value => params.set name value
  | none => params

/-- `queryParams`. No key is `__proto__` or an array index, so that the object is a map in the order of
insertion. -/
def queryParams (publicToken code_challenge : String) (options : OAuthGetURLOptions) :
    OrderedMap String String :=
  let params := (OrderedMap.empty.set "public_token" publicToken).set "code_challenge" code_challenge
  let params := options.custom_scopes.elim params fun custom_scopes =>
    params.set "custom_scopes" (String.intercalate " " custom_scopes)
  let params := options.provider_params.elim params fun provider_params =>
    provider_params.entries.foldl (fun params e => params.set ("provider_" ++ e.1) e.2) params
  let params := setIfGiven params "login_redirect_url" options.login_redirect_url
  let params := setIfGiven params "signup_redirect_url" options.signup_redirect_url
  setIfGiven params "oauth_attach_token" options.oauth_attach_token

/-- `queryParamsAsString`: `&name=value` for every parameter, without the first character. -/
def queryParamsAsString (params : OrderedMap String String) : String :=
  String.ofList ((params.entries.foldl (fun prev e => prev ++ "&" ++ e.1 ++ "=" ++ e.2) "").toList.drop 1)

/-- `createOAuthURL`, with the code challenge of the PKCE transaction that it starts. -/
def createOAuthURL (config : Config) (providerType : OAuthProvider) (code_challenge : String)
    (options : OAuthGetURLOptions) : String :=
  getBaseApiUrl config ++ "/v1/public/oauth/" ++ providerType.name ++ "/start?" ++
    queryParamsAsString (queryParams config.publicToken code_challenge options)

/-! ## The web client -/

section Web

variable {Url : Type u} (U : UrlStandard Url)

/-- `if (value) oauthUrl.searchParams.set(name, value)`. -/
def searchParamsSetIfGiven (url : Url) (name : String) (value : Option String) : Url :=
  match value.filter (· ≠ "") with
  | some value => U.set url name value
  | none => url

/-- `startOAuthFlow` of the web client with PKCE, from the URL of the path on, which has no query. -/
def startOAuthFlow (oauthUrl : {url : Url // U.searchParams url = []})
    (publicToken code_challenge : String) (options : OAuthGetURLOptions) : Url :=
  let url := U.set oauthUrl.1 "public_token" publicToken
  let url := U.set url "code_challenge" code_challenge
  let url := options.custom_scopes.elim url fun custom_scopes =>
    U.set url "custom_scopes" (String.intercalate " " custom_scopes)
  let url := options.provider_params.elim url fun provider_params =>
    provider_params.entries.foldl (fun url e => U.set url ("provider_" ++ e.1) e.2) url
  let url := searchParamsSetIfGiven U url "login_redirect_url" options.login_redirect_url
  let url := searchParamsSetIfGiven U url "signup_redirect_url" options.signup_redirect_url
  searchParamsSetIfGiven U url "oauth_attach_token" options.oauth_attach_token

variable {U}

theorem searchParams_set_entries {url : Url} {params : OrderedMap String String}
    (h : U.searchParams url = params.entries) (name value : String) :
    U.searchParams (U.set url name value) = (params.set name value).entries := by
  rw [U.searchParams_set, h, setPair_entries]

theorem searchParams_setIfGiven {url : Url} {params : OrderedMap String String}
    (h : U.searchParams url = params.entries) (name : String) (value : Option String) :
    U.searchParams (searchParamsSetIfGiven U url name value) =
      (setIfGiven params name value).entries := by
  unfold searchParamsSetIfGiven setIfGiven
  cases value.filter (· ≠ "") with
  | none => exact h
  | some value => exact searchParams_set_entries h name value

theorem searchParams_foldl {url : Url} {params : OrderedMap String String}
    (h : U.searchParams url = params.entries) (l : List (String × String)) :
    U.searchParams (l.foldl (fun url e => U.set url ("provider_" ++ e.1) e.2) url) =
      (l.foldl (fun params e => params.set ("provider_" ++ e.1) e.2) params).entries := by
  induction l generalizing url params with
  | nil => exact h
  | cons e l ih => exact ih (searchParams_set_entries h _ _)

/-- The URL of the web client carries the parameters, whatever they are. -/
theorem searchParams_startOAuthFlow (oauthUrl : {url : Url // U.searchParams url = []})
    (publicToken code_challenge : String) (options : OAuthGetURLOptions) :
    U.searchParams (startOAuthFlow U oauthUrl publicToken code_challenge options) =
      (queryParams publicToken code_challenge options).entries := by
  have hempty : U.searchParams oauthUrl.1 = (OrderedMap.empty : OrderedMap String String).entries :=
    oauthUrl.2
  have hstart := searchParams_set_entries
    (searchParams_set_entries hempty "public_token" publicToken) "code_challenge" code_challenge
  unfold startOAuthFlow queryParams
  dsimp only
  refine searchParams_setIfGiven (searchParams_setIfGiven (searchParams_setIfGiven ?_ _ _) _ _) _ _
  cases options.custom_scopes with
  | none =>
    cases options.provider_params with
    | none => exact hstart
    | some provider_params => exact searchParams_foldl hstart _
  | some custom_scopes =>
    have hscopes := searchParams_set_entries hstart "custom_scopes"
      (String.intercalate " " custom_scopes)
    cases options.provider_params with
    | none => exact hscopes
    | some provider_params => exact searchParams_foldl hscopes _

end Web

/-! ## The parameters of the URL -/

/-- The parameters of a start URL: there is the public token, and no name is empty. -/
structure Named (params : OrderedMap String String) : Prop where
  token : params.contains "public_token" = true
  names : ∀ e ∈ params.entries, e.1 ≠ ""

theorem Named.set {params : OrderedMap String String} (h : Named params) {name : String}
    (hname : name ≠ "") (value : String) : Named (params.set name value) where
  token := by
    have htoken := h.token
    rw [OrderedMap.contains] at htoken ⊢
    rw [OrderedMap.get_set]
    split_ifs
    · rfl
    · exact htoken
  names e he := by
    have hget := ((params.set name value).get_eq_some_iff ..).2 he
    rw [OrderedMap.get_set] at hget
    split_ifs at hget with heq
    · rw [heq]
      exact hname
    · exact h.names e ((params.get_eq_some_iff ..).1 hget)

theorem Named.setIfGiven {params : OrderedMap String String} (h : Named params) {name : String}
    (hname : name ≠ "") (value : Option String) : Named (setIfGiven params name value) := by
  unfold OAuth.setIfGiven
  cases value.filter (· ≠ "") with
  | none => exact h
  | some value => exact h.set hname value

theorem provider_ne (key : String) : "provider_" ++ key ≠ "" := by
  intro h
  have := congrArg String.length h
  rw [String.length_append] at this
  have hlen : "provider_".length = 9 := rfl
  have hzero : "".length = 0 := rfl
  omega

theorem Named.foldl {params : OrderedMap String String} (h : Named params)
    (l : List (String × String)) :
    Named (l.foldl (fun params e => params.set ("provider_" ++ e.1) e.2) params) := by
  induction l generalizing params with
  | nil => exact h
  | cons e l ih => exact ih (h.set (provider_ne e.1) e.2)

theorem named_queryParams (publicToken code_challenge : String) (options : OAuthGetURLOptions) :
    Named (queryParams publicToken code_challenge options) := by
  have htoken : Named (OrderedMap.empty.set "public_token" publicToken) := by
    refine ⟨?_, fun e he => ?_⟩
    · rw [OrderedMap.contains, OrderedMap.get_set, if_pos rfl]
      rfl
    · rw [List.mem_singleton.1 he]
      show "public_token" ≠ ""
      decide
  have hstart := htoken.set (show "code_challenge" ≠ "" by decide) code_challenge
  unfold queryParams
  dsimp only
  refine Named.setIfGiven (Named.setIfGiven (Named.setIfGiven ?_ ?_ _) ?_ _) ?_ _
  · cases options.custom_scopes with
    | none =>
      cases options.provider_params with
      | none => exact hstart
      | some provider_params => exact hstart.foldl _
    | some custom_scopes =>
      have hscopes := hstart.set (show "custom_scopes" ≠ "" by decide)
        (String.intercalate " " custom_scopes)
      cases options.provider_params with
      | none => exact hscopes
      | some provider_params => exact hscopes.foldl _
  all_goals decide

theorem Named.ne_nil {params : OrderedMap String String} (h : Named params) :
    params.entries ≠ [] := by
  intro hnil
  have htoken := h.token
  rw [OrderedMap.contains, OrderedMap.get, hnil] at htoken
  cases htoken

/-! ## The text of the URL -/

theorem rawQuery_cons (p : String × String) (l : List (String × String)) :
    rawQuery (p :: l) = rawPair p ++ l.flatMap fun q => '&' :: rawPair q := by
  induction l generalizing p with
  | nil => rw [rawQuery_singleton, List.flatMap_nil, List.append_nil]
  | cons q l ih => rw [rawQuery_cons_cons, ih, List.flatMap_cons, List.cons_append]

theorem toList_foldl_append (l : List (String × String)) (s : String) :
    (l.foldl (fun prev e => prev ++ "&" ++ e.1 ++ "=" ++ e.2) s).toList =
      s.toList ++ l.flatMap fun e => '&' :: rawPair e := by
  induction l generalizing s with
  | nil => rw [List.foldl_nil, List.flatMap_nil, List.append_nil]
  | cons e l ih =>
    rw [List.foldl_cons, ih, List.flatMap_cons]
    simp [rawPair, String.toList_append]

theorem toList_queryParamsAsString {params : OrderedMap String String} (h : params.entries ≠ []) :
    (queryParamsAsString params).toList = rawQuery params.entries := by
  rw [queryParamsAsString, String.toList_ofList, toList_foldl_append]
  cases hl : params.entries with
  | nil => exact absurd hl h
  | cons p l =>
    rw [rawQuery_cons]
    rfl

/-- What stands before the query. -/
def start (config : Config) (providerType : OAuthProvider) : String :=
  getBaseApiUrl config ++ "/v1/public/oauth/" ++ providerType.name ++ "/start"

theorem notMem_getBaseApiUrl (config : Config) :
    '?' ∉ (getBaseApiUrl config).toList ∧ '#' ∉ (getBaseApiUrl config).toList := by
  unfold getBaseApiUrl
  split
  · next domain _ =>
    have hprotocol : '?' ∉ "https://".toList ∧ '#' ∉ "https://".toList := by decide
    rw [String.toList_append, List.mem_append, List.mem_append, not_or, not_or]
    exact ⟨⟨hprotocol.1, domain.2.1⟩, hprotocol.2, domain.2.2⟩
  · split_ifs
    · exact config.testAPIURL.2
    · exact config.liveAPIURL.2

theorem notMem_start (config : Config) (providerType : OAuthProvider) :
    '?' ∉ (start config providerType).toList ∧ '#' ∉ (start config providerType).toList := by
  have hbase := notMem_getBaseApiUrl config
  have hname : '?' ∉ providerType.name.toList ∧ '#' ∉ providerType.name.toList := by
    cases providerType <;> decide
  have hpath : '?' ∉ "/v1/public/oauth/".toList ∧ '#' ∉ "/v1/public/oauth/".toList := by decide
  have hstart : '?' ∉ "/start".toList ∧ '#' ∉ "/start".toList := by decide
  simp only [start, String.toList_append, List.mem_append, not_or]
  exact ⟨⟨⟨⟨hbase.1, hpath.1⟩, hname.1⟩, hstart.1⟩, ⟨⟨hbase.2, hpath.2⟩, hname.2⟩, hstart.2⟩

theorem urlParams_createOAuthURL (config : Config) (providerType : OAuthProvider)
    (code_challenge : String) (options : OAuthGetURLOptions) :
    urlParams (createOAuthURL config providerType code_challenge options) =
      readPairs (shown
        (rawQuery (queryParams config.publicToken code_challenge options).entries)) := by
  have hnamed := named_queryParams config.publicToken code_challenge options
  have hurl : (createOAuthURL config providerType code_challenge options).toList =
      (start config providerType).toList ++ '?' ::
        rawQuery (queryParams config.publicToken code_challenge options).entries := by
    rw [← toList_queryParamsAsString hnamed.ne_nil, createOAuthURL, start]
    simp [String.toList_append]
  obtain ⟨hquestion, hnumber⟩ := notMem_start config providerType
  rw [urlParams, parse_bytesOf, hurl, queryChars_append hquestion hnumber]

/-- The URL carries the parameters that the web client's URL carries for the same inputs exactly when
every one of them is read as it is written and the last one does not end with a blank. -/
theorem createOAuthURL_carries_iff {Url : Type u} (U : UrlStandard Url)
    (oauthUrl : {url : Url // U.searchParams url = []}) (config : Config)
    (providerType : OAuthProvider) (code_challenge : String) (options : OAuthGetURLOptions) :
    U.searchParams (startOAuthFlow U oauthUrl config.publicToken code_challenge options) =
        (queryParams config.publicToken code_challenge options).entries ∧
      ((urlParams (createOAuthURL config providerType code_challenge options)).Perm
          (queryParams config.publicToken code_challenge options).entries ↔
        (∀ e ∈ (queryParams config.publicToken code_challenge options).entries, Plain e) ∧
          (rawQuery (queryParams config.publicToken code_challenge options).entries).rdropWhile blank =
            rawQuery (queryParams config.publicToken code_challenge options).entries) := by
  have hnamed := named_queryParams config.publicToken code_challenge options
  refine ⟨searchParams_startOAuthFlow .., ?_⟩
  rw [urlParams_createOAuthURL]
  exact readPairs_shown_perm_iff hnamed.names hnamed.ne_nil

/-- A live project without a custom domain. -/
def liveConfig : Config where
  publicToken := "public-token-live"
  testAPIURL := ⟨"https://test.stytch.com", by decide⟩
  liveAPIURL := ⟨"https://api.stytch.com", by decide⟩
  cnameDomain := none

/-- A redirect URL with two parameters of its own. -/
def redirectOptions : OAuthGetURLOptions where
  login_redirect_url := some "https://example.com/?a=1&b=2"

/-- The rest of the redirect URL is read as a parameter of the start URL. -/
theorem redirect_url_is_split :
    ¬ (urlParams (createOAuthURL liveConfig .google "challenge" redirectOptions)).Perm
      (queryParams liveConfig.publicToken "challenge" redirectOptions).entries := by
  rw [urlParams_createOAuthURL]
  intro h
  have hnamed := named_queryParams liveConfig.publicToken "challenge" redirectOptions
  have hplain := ((readPairs_shown_perm_iff hnamed.names hnamed.ne_nil).1 h).1
  have hmem : ("login_redirect_url", "https://example.com/?a=1&b=2") ∈
      (queryParams liveConfig.publicToken "challenge" redirectOptions).entries := by
    decide
  exact ((hplain _ hmem).chars '&' (by decide)).1 rfl

end StytchBrowser.ReactNative.OAuth
