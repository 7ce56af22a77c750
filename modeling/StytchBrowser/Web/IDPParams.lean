import StytchBrowser.Lib.FormUrlEncoded
import StytchBrowser.Lib.Splitting

/-!
# The parameters of an identity provider page

`parseIDPParams` reads the parameters of an authorization or a logout from the search part of a URL.

* `parseIDPParams_accepts`: what it accepts are the well-formed flows, each of which is read from the
  search that it prints; and an error names the first required parameter that has no value.
-/

namespace StytchBrowser.Web.IDP

open FormUrlEncoded

/-- Scopes that are asked for when there is no parameter. -/
def FALLBACK_SCOPES : List String := ["openid", "email", "profile"]

structure OAuthAuthorizeParams where
  client_id : String := ""
  redirect_uri : String := ""
  response_type : String := "code"
  scopes : List String := FALLBACK_SCOPES
  code_challenge : Option String := none
  state : Option String := none
  nonce : Option String := none
  prompt : Option String := none
  resources : Option (List String) := none
  deriving DecidableEq

structure OAuthLogoutParams where
  client_id : String := ""
  post_logout_redirect_uri : String := ""
  id_token_hint : Option String := none
  state : Option String := none
  deriving DecidableEq

inductive IDPFlowParams where
  | Authorize (params : OAuthAuthorizeParams)
  | Logout (params : OAuthLogoutParams)
  deriving DecidableEq

/-! ## `URLSearchParams` -/

abbrev SearchParams := List (String × String)

/-- `new URLSearchParams(search)`, of the bytes of the text. -/
def newURLSearchParams : Bytes → SearchParams
  | 0x3F :: search => FormUrlEncoded.parse search
  | search => FormUrlEncoded.parse search

namespace SearchParams

variable (params : SearchParams) (name : String)

def get : Option String := params.lookup name

def has : Bool := params.any fun p => p.1 = name

def getAll : List String := (params.filter fun p => p.1 = name).map Prod.snd

/-- `params.get(name)`, when JavaScript takes it for true. -/
def truthy : Option String := (params.get name).filter (· ≠ "")

end SearchParams

/-! ## Parsing -/

/-- The error for a required parameter. -/
def missing (field : String) : String :=
  "Required parameter is missing: " ++ field ++ ". Please reach out to the application developer."

def parseOAuthAuthorizeParams (params : SearchParams) : Option String × OAuthAuthorizeParams :=
  let authorizeParams : OAuthAuthorizeParams := {}
  match params.truthy "client_id" with
  | none => (some (missing "client_id"), authorizeParams)
  | some client_id =>
      let authorizeParams := { authorizeParams with client_id }
      match params.truthy "redirect_uri" with
      | none => (some (missing "redirect_uri"), authorizeParams)
      | some redirect_uri =>
          (none, { authorizeParams with
            redirect_uri
            response_type := (params.truthy "response_type").getD authorizeParams.response_type
            scopes := (params.truthy "scope").elim authorizeParams.scopes (Splitting.words ' ')
            code_challenge := params.truthy "code_challenge"
            state := params.truthy "state"
            nonce := params.truthy "nonce"
            prompt := params.truthy "prompt"
            resources := if params.has "resource" then some (params.getAll "resource") else none })

def parseOAuthLogoutParams (params : SearchParams) : Option String × OAuthLogoutParams :=
  let logoutParams : OAuthLogoutParams := {}
  match params.truthy "client_id" with
  | none => (some (missing "client_id"), logoutParams)
  | some client_id =>
      let logoutParams := { logoutParams with client_id }
      match params.truthy "post_logout_redirect_uri" with
      | none => (some (missing "post_logout_redirect_uri"), logoutParams)
      | some post_logout_redirect_uri =>
          (none, { logoutParams with
            post_logout_redirect_uri
            id_token_hint := params.truthy "id_token_hint"
            state := params.truthy "state" })

def parseIDPParams (searchParams : Bytes) : Option String × IDPFlowParams :=
  let params := newURLSearchParams searchParams
  if params.has "post_logout_redirect_uri" then
    let logoutResult := parseOAuthLogoutParams params
    (logoutResult.1, .Logout logoutResult.2)
  else
    let authorizeResult := parseOAuthAuthorizeParams params
    (authorizeResult.1, .Authorize authorizeResult.2)

/-! ## What is accepted -/

/-- A parameter that is there has a value. -/
def Given (value : Option String) : Prop := value ≠ some ""

structure OAuthAuthorizeParams.WellFormed (p : OAuthAuthorizeParams) : Prop where
  client_id : p.client_id ≠ ""
  redirect_uri : p.redirect_uri ≠ ""
  response_type : p.response_type ≠ ""
  scopes : ∀ scope ∈ p.scopes, scope ≠ "" ∧ ' ' ∉ scope.toList
  code_challenge : Given p.code_challenge
  state : Given p.state
  nonce : Given p.nonce
  prompt : Given p.prompt
  resources : p.resources ≠ some []

structure OAuthLogoutParams.WellFormed (p : OAuthLogoutParams) : Prop where
  client_id : p.client_id ≠ ""
  post_logout_redirect_uri : p.post_logout_redirect_uri ≠ ""
  id_token_hint : Given p.id_token_hint
  state : Given p.state

def IDPFlowParams.WellFormed : IDPFlowParams → Prop
  | .Authorize p => p.WellFormed
  | .Logout p => p.WellFormed

/-- A parameter that may be missing. -/
def optional (name : String) (value : Option String) : SearchParams :=
  (value.map fun v => (name, v)).toList

/-- The parameters of a flow. No scopes are printed as a blank, since without the parameter there are the
fallback scopes. -/
def IDPFlowParams.print : IDPFlowParams → SearchParams
  | .Authorize p =>
      [("client_id", p.client_id), ("redirect_uri", p.redirect_uri), ("response_type", p.response_type),
        ("scope", if p.scopes = [] then " " else Splitting.join ' ' p.scopes)] ++
      optional "code_challenge" p.code_challenge ++ optional "state" p.state ++ optional "nonce" p.nonce ++
      optional "prompt" p.prompt ++ (p.resources.getD []).map fun r => ("resource", r)
  | .Logout p =>
      [("client_id", p.client_id), ("post_logout_redirect_uri", p.post_logout_redirect_uri)] ++
      optional "id_token_hint" p.id_token_hint ++ optional "state" p.state

/-- The required parameters, in the order in which they are looked for. -/
def requiredFields (params : SearchParams) : List String :=
  if params.has "post_logout_redirect_uri" then ["client_id", "post_logout_redirect_uri"]
  else ["client_id", "redirect_uri"]

/-! ## Reading what was printed -/

section Reading

variable {name key : String}

theorem get_append (l l' : SearchParams) :
    SearchParams.get (l ++ l') name = (l.get name).or (l'.get name) :=
  List.lookup_append

theorem get_cons (value : String) (l : SearchParams) :
    SearchParams.get ((key, value) :: l) name = if name = key then some value else l.get name := by
  rw [SearchParams.get, List.lookup_cons]
  by_cases h : name = key
  · rw [if_pos h, beq_iff_eq.2 h]
  · rw [if_neg h, beq_eq_false_iff_ne.2 h]
    rfl

theorem get_nil : SearchParams.get [] name = none := rfl

theorem get_optional (value : Option String) :
    (optional key value).get name = if name = key then value else none := by
  cases value with
  | none =>
    rw [ite_self]
    rfl
  | some v => exact get_cons v []

theorem get_map (l : List String) :
    SearchParams.get (l.map fun r => (key, r)) name = if name = key then l.head? else none := by
  induction l with
  | nil =>
    rw [List.head?_nil, ite_self]
    rfl
  | cons r l ih =>
    rw [List.map_cons, get_cons, ih]
    split_ifs <;> rfl

theorem has_iff (l : SearchParams) : l.has name = (l.get name).isSome := by
  induction l with
  | nil => rfl
  | cons p l ih =>
    rw [get_cons]
    by_cases h : name = p.1
    · simp [SearchParams.has, h]
    · rw [if_neg h, ← ih]
      simp [SearchParams.has, Ne.symm h]

theorem truthy_ne {l : SearchParams} {v : String} (h : l.truthy name = some v) : v ≠ "" :=
  of_decide_eq_true (Option.filter_eq_some_iff.1 h).2

theorem given_truthy (l : SearchParams) : Given (l.truthy name) := fun h => truthy_ne h rfl

theorem truthy_of_given {l : SearchParams} {value : Option String} (hvalue : Given value)
    (h : l.get name = value) : l.truthy name = value := by
  rw [SearchParams.truthy, h]
  cases value with
  | none => rfl
  | some v => exact Option.filter_eq_some_iff.2 ⟨rfl, decide_eq_true fun hv => hvalue (congrArg some hv)⟩

theorem getAll_append (l l' : SearchParams) :
    SearchParams.getAll (l ++ l') name = l.getAll name ++ l'.getAll name := by
  rw [SearchParams.getAll, List.filter_append, List.map_append]
  rfl

theorem getAll_map (l : List String) : SearchParams.getAll (l.map fun r => (key, r)) key = l := by
  rw [SearchParams.getAll, List.filter_eq_self.2, List.map_map]
  · exact List.map_id l
  · intro p hp
    obtain ⟨r, -, rfl⟩ := List.mem_map.1 hp
    exact decide_eq_true rfl

theorem getAll_optional_of_ne (h : key ≠ name) (value : Option String) :
    (optional key value).getAll name = [] := by
  cases value with
  | none => rfl
  | some v => exact congrArg (List.map Prod.snd) (List.filter_cons_of_neg fun hk => h (of_decide_eq_true hk))

end Reading

/-! ## Round trips -/

/-- The search part of a URL with the parameters. -/
def search (flow : IDPFlowParams) : Bytes := 0x3F :: serialize flow.print

theorem newURLSearchParams_search (flow : IDPFlowParams) : newURLSearchParams (search flow) = flow.print :=
  parse_serialize flow.print

theorem get_print_authorize (p : OAuthAuthorizeParams) (name : String) :
    (IDPFlowParams.Authorize p).print.get name =
      if name = "client_id" then some p.client_id else if name = "redirect_uri" then some p.redirect_uri
      else if name = "response_type" then some p.response_type
      else if name = "scope" then some (if p.scopes = [] then " " else Splitting.join ' ' p.scopes)
      else if name = "code_challenge" then p.code_challenge else if name = "state" then p.state
      else if name = "nonce" then p.nonce else if name = "prompt" then p.prompt
      else if name = "resource" then (p.resources.getD []).head? else none := by
  simp only [IDPFlowParams.print, get_append, get_cons, get_nil, get_optional, get_map]
  split_ifs <;> simp_all

theorem getAll_print_authorize (p : OAuthAuthorizeParams) :
    (IDPFlowParams.Authorize p).print.getAll "resource" = p.resources.getD [] := by
  rw [IDPFlowParams.print, getAll_append, getAll_append, getAll_append, getAll_append, getAll_append,
    getAll_map, getAll_optional_of_ne (by decide), getAll_optional_of_ne (by decide),
    getAll_optional_of_ne (by decide), getAll_optional_of_ne (by decide)]
  rfl

/-- The scopes come back, none of them too. -/
theorem words_scope {scopes : List String} (h : ∀ scope ∈ scopes, scope ≠ "" ∧ ' ' ∉ scope.toList) :
    (if scopes = [] then " " else Splitting.join ' ' scopes) ≠ "" ∧
      Splitting.words ' ' (if scopes = [] then " " else Splitting.join ' ' scopes) = scopes := by
  split_ifs with hnil
  · subst hnil
    exact ⟨by decide, rfl⟩
  · refine ⟨fun hjoin => ?_, Splitting.words_join h⟩
    have hwords := Splitting.words_join h
    rw [hjoin] at hwords
    exact hnil hwords.symm

theorem parse_search_authorize {p : OAuthAuthorizeParams} (h : p.WellFormed) :
    parseIDPParams (search (.Authorize p)) = (none, .Authorize p) := by
  have hget := get_print_authorize p
  have hlogout : (IDPFlowParams.Authorize p).print.has "post_logout_redirect_uri" = false := by
    rw [has_iff, hget]
    rfl
  have hclient : (IDPFlowParams.Authorize p).print.truthy "client_id" = some p.client_id :=
    truthy_of_given (fun hv => h.client_id (Option.some.inj hv)) (hget _)
  have hredirect : (IDPFlowParams.Authorize p).print.truthy "redirect_uri" = some p.redirect_uri :=
    truthy_of_given (fun hv => h.redirect_uri (Option.some.inj hv)) (hget _)
  have hresponse : (IDPFlowParams.Authorize p).print.truthy "response_type" = some p.response_type :=
    truthy_of_given (fun hv => h.response_type (Option.some.inj hv)) (hget _)
  obtain ⟨hscope, hwords⟩ := words_scope h.scopes
  have hscopes : (IDPFlowParams.Authorize p).print.truthy "scope" =
      some (if p.scopes = [] then " " else Splitting.join ' ' p.scopes) :=
    truthy_of_given (fun hv => hscope (Option.some.inj hv)) (hget _)
  have hresources : (if (IDPFlowParams.Authorize p).print.has "resource" then
      some ((IDPFlowParams.Authorize p).print.getAll "resource") else none) = p.resources := by
    have hhas : (IDPFlowParams.Authorize p).print.has "resource" =
        ((p.resources.getD []).head?).isSome := by
      rw [has_iff, hget]
      rfl
    rw [hhas, getAll_print_authorize]
    cases hr : p.resources with
    | none => rfl
    | some resources =>
      cases resources with
      | nil => exact absurd hr h.resources
      | cons resource resources => rfl
  unfold parseIDPParams parseOAuthAuthorizeParams
  simp only [newURLSearchParams_search, hlogout, hclient, hredirect, hresponse, hscopes, hresources,
    truthy_of_given h.code_challenge (hget "code_challenge"), truthy_of_given h.state (hget "state"),
    truthy_of_given h.nonce (hget "nonce"), truthy_of_given h.prompt (hget "prompt"),
    Bool.false_eq_true, if_false, Option.getD_some, Option.elim_some, hwords]

theorem get_print_logout (p : OAuthLogoutParams) (name : String) :
    (IDPFlowParams.Logout p).print.get name =
      if name = "client_id" then some p.client_id
      else if name = "post_logout_redirect_uri" then some p.post_logout_redirect_uri
      else if name = "id_token_hint" then p.id_token_hint else if name = "state" then p.state else none := by
  simp only [IDPFlowParams.print, get_append, get_cons, get_nil, get_optional]
  split_ifs <;> simp_all

theorem parse_search_logout {p : OAuthLogoutParams} (h : p.WellFormed) :
    parseIDPParams (search (.Logout p)) = (none, .Logout p) := by
  have hget := get_print_logout p
  have hlogout : (IDPFlowParams.Logout p).print.has "post_logout_redirect_uri" = true := by
    rw [has_iff, hget]
    rfl
  have hclient : (IDPFlowParams.Logout p).print.truthy "client_id" = some p.client_id :=
    truthy_of_given (fun hv => h.client_id (Option.some.inj hv)) (hget _)
  have hredirect : (IDPFlowParams.Logout p).print.truthy "post_logout_redirect_uri" =
      some p.post_logout_redirect_uri :=
    truthy_of_given (fun hv => h.post_logout_redirect_uri (Option.some.inj hv)) (hget _)
  unfold parseIDPParams parseOAuthLogoutParams
  simp only [newURLSearchParams_search, hlogout, hclient, hredirect, if_true,
    truthy_of_given h.id_token_hint (hget "id_token_hint"), truthy_of_given h.state (hget "state")]

theorem parse_search {flow : IDPFlowParams} (h : flow.WellFormed) :
    parseIDPParams (search flow) = (none, flow) := by
  cases flow with
  | Authorize p => exact parse_search_authorize h
  | Logout p => exact parse_search_logout h

/-! ## Errors -/

theorem authorize_error (params : SearchParams) : (parseOAuthAuthorizeParams params).1 =
    (["client_id", "redirect_uri"].find? fun field => (params.truthy field).isNone).map missing := by
  unfold parseOAuthAuthorizeParams
  cases hclient : params.truthy "client_id" with
  | none => simp [hclient]
  | some client_id =>
    cases hredirect : params.truthy "redirect_uri" with
    | none => simp [hclient, hredirect]
    | some redirect_uri => simp [hclient, hredirect]

theorem logout_error (params : SearchParams) : (parseOAuthLogoutParams params).1 =
    (["client_id", "post_logout_redirect_uri"].find? fun field =>
      (params.truthy field).isNone).map missing := by
  unfold parseOAuthLogoutParams
  cases hclient : params.truthy "client_id" with
  | none => simp [hclient]
  | some client_id =>
    cases hredirect : params.truthy "post_logout_redirect_uri" with
    | none => simp [hclient, hredirect]
    | some redirect_uri => simp [hclient, hredirect]

theorem authorize_wellFormed {params : SearchParams} {p : OAuthAuthorizeParams}
    (h : parseOAuthAuthorizeParams params = (none, p)) : p.WellFormed := by
  unfold parseOAuthAuthorizeParams at h
  dsimp only at h
  split at h
  · cases h
  · next client_id hclient =>
    split at h
    · cases h
    · next redirect_uri hredirect =>
      obtain rfl := (Prod.mk.inj h).2
      refine ⟨truthy_ne hclient, truthy_ne hredirect, ?_, ?_, given_truthy params, given_truthy params,
        given_truthy params, given_truthy params, ?_⟩
      · dsimp only
        cases hresponse : params.truthy "response_type" with
        | none => exact (by decide : "code" ≠ "")
        | some response_type => exact truthy_ne hresponse
      · dsimp only
        cases params.truthy "scope" with
        | none => exact (by decide : ∀ scope ∈ FALLBACK_SCOPES, scope ≠ "" ∧ ' ' ∉ scope.toList)
        | some scope => exact fun s hs => Splitting.mem_words hs
      · dsimp only
        split_ifs with hhas
        · intro hnil
          obtain ⟨r, hr, hname⟩ := List.any_eq_true.1 hhas
          have hmem : r.2 ∈ params.getAll "resource" :=
            List.mem_map_of_mem (List.mem_filter.2 ⟨hr, hname⟩)
          rw [Option.some.inj hnil] at hmem
          exact List.not_mem_nil hmem
        · exact (Option.some_ne_none _).symm

theorem logout_wellFormed {params : SearchParams} {p : OAuthLogoutParams}
    (h : parseOAuthLogoutParams params = (none, p)) : p.WellFormed := by
  unfold parseOAuthLogoutParams at h
  dsimp only at h
  split at h
  · cases h
  · next client_id hclient =>
    split at h
    · cases h
    · next redirect_uri hredirect =>
      obtain rfl := (Prod.mk.inj h).2
      exact ⟨truthy_ne hclient, truthy_ne hredirect, given_truthy params, given_truthy params⟩

theorem parseIDPParams_wellFormed {searchParams : Bytes} {flow : IDPFlowParams}
    (h : parseIDPParams searchParams = (none, flow)) : flow.WellFormed := by
  unfold parseIDPParams at h
  dsimp only at h
  split_ifs at h
  · obtain ⟨herror, rfl⟩ := Prod.mk.inj h
    exact logout_wellFormed (Prod.ext herror rfl)
  · obtain ⟨herror, rfl⟩ := Prod.mk.inj h
    exact authorize_wellFormed (Prod.ext herror rfl)

theorem parseIDPParams_error (searchParams : Bytes) : (parseIDPParams searchParams).1 =
    ((requiredFields (newURLSearchParams searchParams)).find? fun field =>
      ((newURLSearchParams searchParams).truthy field).isNone).map missing := by
  unfold parseIDPParams requiredFields
  dsimp only
  split_ifs
  · exact logout_error _
  · exact authorize_error _

/-- What is accepted are the well-formed flows, and each is read from the search that it prints. An error
names the first required parameter that is missing or empty. -/
theorem parseIDPParams_accepts :
    (∀ flow : IDPFlowParams, (∃ searchParams, parseIDPParams searchParams = (none, flow)) ↔ flow.WellFormed) ∧
      (∀ flow : IDPFlowParams, parseIDPParams (search flow) = (none, flow) ↔ flow.WellFormed) ∧
      ∀ searchParams, (parseIDPParams searchParams).1 =
        ((requiredFields (newURLSearchParams searchParams)).find? fun field =>
          ((newURLSearchParams searchParams).truthy field).isNone).map missing := by
  refine ⟨fun flow => ⟨?_, fun h => ⟨_, parse_search h⟩⟩,
    fun flow => ⟨parseIDPParams_wellFormed, parse_search⟩, parseIDPParams_error⟩
  rintro ⟨searchParams, h⟩
  exact parseIDPParams_wellFormed h

end StytchBrowser.Web.IDP
