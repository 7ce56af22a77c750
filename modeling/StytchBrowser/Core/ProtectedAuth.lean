import StytchBrowser.Core.NetworkClient

/-!
# Requests that device fingerprinting protects

`DFPProtectedAuthProvider` says which tokens go with a login request: a telemetry id, a captcha
token, or both, by the mode of the project. The request goes out through `retriableFetchSDK`, whose
retry callback asks for both again when the server demands a captcha.

A captcha token is accepted once by the server, so that none may go with two requests.

* `protectedFetch_asks`: what is asked follows the script of the mode, each request has the tokens
  that were asked for since the request before it and no others, and only a demand of the server is
  followed by a second request.
-/

namespace StytchBrowser.Core.ProtectedAuth

open StytchBrowser.Core.Network

/-! ## The provider -/

inductive DFPProtectedAuthMode where
  | OBSERVATION
  | DECISIONING
  deriving DecidableEq

/-- The fields of `BootstrapData` that the provider reads. -/
structure BootstrapData where
  runDFPProtectedAuth : Bool
  dfpProtectedAuthMode : Option DFPProtectedAuthMode

/-- What the promise of the provider is fulfilled with. -/
structure DFPProtectedAuthState where
  publicToken : String
  dfpBackendURL : String
  mode : Option DFPProtectedAuthMode
  enabled : Bool
  loaded : Bool
  /-- The mode is there when the protection is on. -/
  mode_isSome : mode.isSome = enabled

/-- What the provider and the client ask for. -/
inductive Question where
  | getTelemetryID (publicToken submitURL : String)
  | executeRecaptcha
  | fetch (url : String) (init : RequestInit)

section
variable {ε : Type}

/-- Where the telemetry and the captcha reject with `ε`. -/
def Question.Answer (ε : Type) : Question → Type
  | .getTelemetryID _ _ => Except ε String
  | .executeRecaptcha => Except ε (Option String)
  | .fetch _ _ => Except String Response

abbrev Async (ε α : Type) := Dialog Question (Question.Answer ε) α

/-- The promise of the constructor: rejected with the bootstrap data or with the script. -/
def newState (publicToken dfpBackendURL : String) (bootstrapPromise : Except ε BootstrapData)
    (loadTelemetryJS : Except ε Unit) : Except ε DFPProtectedAuthState :=
  match bootstrapPromise, loadTelemetryJS with
  | .error e, _ => .error e
  | .ok ⟨false, _⟩, _ => .ok ⟨publicToken, dfpBackendURL, none, false, false, rfl⟩
  | .ok ⟨true, _⟩, .error e => .error e
  | .ok ⟨true, mode⟩, .ok () =>
      .ok ⟨publicToken, dfpBackendURL, some (mode.getD .OBSERVATION), true, true, rfl⟩

variable (state : Except ε DFPProtectedAuthState)

def isEnabled : Except ε Bool := state.map (·.enabled)

def getTelemetryID : Async ε (Except ε (Option String)) :=
  match state with
  | .error e => .done (.error e)
  | .ok s =>
      if s.enabled then
        .ask (.getTelemetryID s.publicToken (s.dfpBackendURL ++ "/submit"))
          fun answer : Except ε String => .done (answer.map some)
      else .done (.ok none)

def executeRecaptcha : Async ε (Except ε (Option String)) :=
  .ask .executeRecaptcha fun answer : Except ε (Option String) => .done answer

/-- The tokens of a request. -/
structure Tokens where
  dfp_telemetry_id : Option String := none
  captcha_token : Option String := none

def getDFPTelemetryIDAndCaptcha : Async ε (Except ε Tokens) :=
  match state with
  | .error e => .done (.error e)
  | .ok s =>
      (if s.enabled then .done (.ok none) else executeRecaptcha).andThen fun captcha_token =>
        match s.mode with
        | some .DECISIONING =>
            (getTelemetryID state).andThen fun dfp_telemetry_id =>
              .done (.ok ⟨dfp_telemetry_id, captcha_token⟩)
        | some .OBSERVATION =>
            (getTelemetryID state).andThen fun dfp_telemetry_id =>
              executeRecaptcha.andThen fun captcha_token =>
                .done (.ok ⟨dfp_telemetry_id, captcha_token⟩)
        | none => .done (.ok ⟨none, captcha_token⟩)

/-- A token in a body. -/
def tokenField (token : Option String) : Value := token.elim .undefined .string

/-- The fields that the retry callback assigns. -/
def assignTokens (body : Fields) (tokens : Tokens) : Fields :=
  (body.set "dfp_telemetry_id" (tokenField tokens.dfp_telemetry_id)).set "captcha_token"
    (tokenField tokens.captcha_token)

/-- `retryWithCaptchaAndDFP`, with its questions. -/
def retryWithCaptchaAndDFP (_ : RetriableErrorType) (req : SDKBaseRequestInfo) :
    Async ε (Except (String ⊕ ε) SDKBaseRequestInfo) :=
  match state with
  | .error e => .done (.error (.inr e))
  | .ok s =>
      if s.enabled then
        match req.body with
        | none => .done (.ok req)
        | some body =>
            ((getTelemetryID state).andThen fun dfp_telemetry_id =>
              executeRecaptcha.andThen fun captcha_token =>
                .done (.ok { req with body := assignTokens body ⟨dfp_telemetry_id, captcha_token⟩ })).bind
              fun r => .done (r.mapError .inr)
      else .done (.error (.inl "Unable to query captcha and/or dfp telemetry ID"))

/-! ## Protected requests -/

/-- A field of a body. -/
inductive BodyField where
  | given (name : String) (value : Value)
  | dfp_telemetry_id
  | captcha_token

def BodyField.name : BodyField → String
  | .given name _ => name
  | .dfp_telemetry_id => "dfp_telemetry_id"
  | .captcha_token => "captcha_token"

def BodyField.value (tokens : Tokens) : BodyField → Value
  | .given _ value => value
  | .dfp_telemetry_id => tokenField tokens.dfp_telemetry_id
  | .captcha_token => tokenField tokens.captcha_token

/-- A request that is sent with the tokens among the fields of its body. -/
structure ProtectedRequest where
  basicAuthHeader : String
  xSDKClientHeader : String
  xSDKParentHostHeader : Option String
  method : Method
  finalURL : String
  fields : List BodyField
  names_nodup : (fields.map BodyField.name).Nodup
  dfp_telemetry_id_mem : .dfp_telemetry_id ∈ fields
  captcha_token_mem : .captcha_token ∈ fields

namespace ProtectedRequest

variable (r : ProtectedRequest) (tokens tokens' : Tokens)

/-- The body, written as an object literal. -/
def body : Fields where
  entries := r.fields.map fun f => (f.name, f.value tokens)
  nodup := by
    rw [List.map_map]
    exact r.names_nodup

def req : SDKBaseRequestInfo where
  basicAuthHeader := r.basicAuthHeader
  xSDKClientHeader := r.xSDKClientHeader
  xSDKParentHostHeader := r.xSDKParentHostHeader
  body := some (r.body tokens)
  method := r.method
  finalURL := r.finalURL

theorem keys_body : (r.body tokens).keys = r.fields.map BodyField.name := by
  rw [OrderedMap.keys, body, List.map_map]
  rfl

theorem get_body {f : BodyField} (h : f ∈ r.fields) : (r.body tokens).get f.name = some (f.value tokens) :=
  ((r.body tokens).get_eq_some_iff ..).2 (List.mem_map_of_mem h)

theorem contains_body {f : BodyField} (h : f ∈ r.fields) : (r.body tokens).contains f.name = true := by
  rw [OrderedMap.contains, r.get_body tokens h]
  rfl

/-- The other fields do not depend on the tokens. -/
theorem get_body_other {k : String} (hdfp : k ≠ "dfp_telemetry_id") (hcaptcha : k ≠ "captcha_token") :
    (r.body tokens).get k = (r.body tokens').get k := by
  have h : ∀ t t' v, (r.body t).get k = some v → (r.body t').get k = some v := by
    intro t t' v hv
    obtain ⟨f, hf, he⟩ := List.mem_map.1 (((r.body t).get_eq_some_iff k v).1 hv)
    obtain ⟨rfl, rfl⟩ := Prod.mk.inj he
    cases f with
    | given name value => exact r.get_body t' hf
    | dfp_telemetry_id => exact absurd rfl hdfp
    | captcha_token => exact absurd rfl hcaptcha
  exact Option.ext fun v => ⟨h tokens tokens' v, h tokens' tokens v⟩

/-- New tokens take the place of the old ones. -/
theorem assignTokens_body : assignTokens (r.body tokens) tokens' = r.body tokens' := by
  have hdfp : (r.body tokens).contains "dfp_telemetry_id" = true :=
    r.contains_body tokens r.dfp_telemetry_id_mem
  have hcaptcha := r.contains_body tokens r.captcha_token_mem
  have hcaptcha' : ((r.body tokens).set "dfp_telemetry_id" (tokenField tokens'.dfp_telemetry_id)).contains
      "captcha_token" = true := (OrderedMap.contains_set_iff ..).2 (.inr hcaptcha)
  refine OrderedMap.ext_of_keys ?_ fun k => ?_
  · rw [assignTokens, OrderedMap.keys_set_of_contains hcaptcha', OrderedMap.keys_set_of_contains hdfp,
      keys_body, keys_body]
  · rw [assignTokens, OrderedMap.get_set, OrderedMap.get_set]
    split_ifs with hk hk'
    · exact hk ▸ (r.get_body tokens' r.captcha_token_mem).symm
    · exact hk' ▸ (r.get_body tokens' r.dfp_telemetry_id_mem).symm
    · exact r.get_body_other tokens tokens' hk' hk

end ProtectedRequest

/-! ### The methods of the password client -/

/-- What the network client adds to a request. -/
structure NetworkClient where
  baseURL : String
  basicAuthHeader : String
  xSDKClientHeader : String
  xSDKParentHostHeader : Option String

def NetworkClient.buildSDKUrl (client : NetworkClient) (url : String) : String :=
  client.baseURL ++ "/sdk/v1" ++ url

/-- A `POST` with the fields. -/
def NetworkClient.post (client : NetworkClient) (url : String) (fields : List BodyField)
    (hnames : (fields.map BodyField.name).Nodup) (hdfp : .dfp_telemetry_id ∈ fields)
    (hcaptcha : .captcha_token ∈ fields) : ProtectedRequest where
  basicAuthHeader := client.basicAuthHeader
  xSDKClientHeader := client.xSDKClientHeader
  xSDKParentHostHeader := client.xSDKParentHostHeader
  method := .POST
  finalURL := client.buildSDKUrl url
  fields := fields
  names_nodup := hnames
  dfp_telemetry_id_mem := hdfp
  captcha_token_mem := hcaptcha

namespace PasswordClient

variable (client : NetworkClient)

def create (email password session_duration_minutes : Value) : ProtectedRequest :=
  client.post "/passwords"
    [.given "email" email, .given "password" password,
      .given "session_duration_minutes" session_duration_minutes, .captcha_token, .dfp_telemetry_id]
    (by simp [BodyField.name]) (by simp) (by simp)

def authenticate (email password session_duration_minutes : Value) : ProtectedRequest :=
  client.post "/passwords/authenticate"
    [.given "email" email, .given "password" password,
      .given "session_duration_minutes" session_duration_minutes, .captcha_token, .dfp_telemetry_id]
    (by simp [BodyField.name]) (by simp) (by simp)

/-- With the verifier of the pair that is stored. -/
def resetByEmail (token password session_duration_minutes code_verifier : Value) : ProtectedRequest :=
  client.post "/passwords/email/reset"
    [.given "token" token, .given "password" password,
      .given "session_duration_minutes" session_duration_minutes, .captcha_token,
      .given "code_verifier" code_verifier, .dfp_telemetry_id]
    (by simp [BodyField.name]) (by simp) (by simp)

def resetByExistingPassword (email existing_password new_password session_duration_minutes : Value) :
    ProtectedRequest :=
  client.post "/passwords/existing_password/reset"
    [.given "email" email, .given "existing_password" existing_password,
      .given "new_password" new_password, .given "session_duration_minutes" session_duration_minutes,
      .dfp_telemetry_id, .captcha_token]
    (by simp [BodyField.name]) (by simp) (by simp)

def resetBySession (password session_duration_minutes : Value) : ProtectedRequest :=
  client.post "/passwords/session/reset"
    [.given "password" password, .given "session_duration_minutes" session_duration_minutes,
      .dfp_telemetry_id, .captcha_token]
    (by simp [BodyField.name]) (by simp) (by simp)

/-- With the challenge that `getCodeChallenge` gives. -/
def resetByEmailStart (email login_redirect_url reset_password_redirect_url
    reset_password_expiration_minutes reset_password_template_id locale code_challenge : Value) :
    ProtectedRequest :=
  client.post "/passwords/email/reset/start"
    [.given "email" email, .given "login_redirect_url" login_redirect_url,
      .given "reset_password_redirect_url" reset_password_redirect_url,
      .given "reset_password_expiration_minutes" reset_password_expiration_minutes,
      .given "reset_password_template_id" reset_password_template_id, .given "locale" locale,
      .given "code_challenge" code_challenge, .captcha_token, .dfp_telemetry_id]
    (by simp [BodyField.name]) (by simp) (by simp)

end PasswordClient

/-- How the questions of `retriableFetchSDK` are answered. -/
def answerCall : ∀ call : Call, Async ε (call.Answer (String ⊕ ε))
  | .fetch url init => .ask (.fetch url init) fun answer : Except String Response => .done answer
  | .retryCallback type req => retryWithCaptchaAndDFP state type req

/-- A method of a client: the tokens first, then the request with `retryWithCaptchaAndDFP`. -/
def protectedFetch (r : ProtectedRequest) : Async ε (Except (Thrown (String ⊕ ε)) Value) :=
  (getDFPTelemetryIDAndCaptcha state).bind fun
    | .error e => .done (.error (.callbackError (.inr e)))
    | .ok tokens => (retriableFetchSDK (r.req tokens)).handle (answerCall state)

end

/-! ## What is expected -/

inductive Kind where
  | telemetry
  | captcha
  | request
  deriving DecidableEq

def Question.kind : Question → Kind
  | .getTelemetryID _ _ => .telemetry
  | .executeRecaptcha => .captcha
  | .fetch _ _ => .request

section
variable {ε : Type}

/-- The tokens that are asked for before the first request. -/
def firstTokens (s : DFPProtectedAuthState) : List Kind :=
  match s.mode with
  | none => [.captcha]
  | some .DECISIONING => [.telemetry]
  | some .OBSERVATION => [.telemetry, .captcha]

/-- Both tokens and a second request, when the protection is on. -/
def retry (s : DFPProtectedAuthState) : List Kind :=
  if s.enabled then [.telemetry, .captcha, .request] else []

def script : Except ε DFPProtectedAuthState → List Kind
  | .error _ => []
  | .ok s => firstTokens s ++ .request :: retry s

/-- The tokens after one more answer. -/
def collect (tokens : Tokens) : Sigma (Question.Answer ε) → Tokens
  | ⟨.getTelemetryID _ _, .ok id⟩ => { tokens with dfp_telemetry_id := some id }
  | ⟨.executeRecaptcha, .ok token⟩ => { tokens with captcha_token := token }
  | _ => tokens

/-- The request that is sent. -/
def Sends (req : SDKBaseRequestInfo) (url : String) (init : RequestInit) : Prop :=
  url = req.finalURL ∧ init.method = req.method ∧ init.headers = headers req ∧
    bodyText req = some init.body

/-- Each request has the tokens that were asked for since the one before, beginning with `tokens`. -/
def FreshTokens (r : ProtectedRequest) : Tokens → List (Sigma (Question.Answer ε)) → Prop
  | _, [] => True
  | tokens, ⟨.fetch url init, _⟩ :: asked => Sends (r.req tokens) url init ∧ FreshTokens r {} asked
  | tokens, q :: asked => FreshTokens r (collect tokens q) asked

/-- Nothing is asked for after a request whose answer is no demand for a captcha. -/
def OnlyOnDemand : List (Sigma (Question.Answer ε)) → Prop
  | [] => True
  | ⟨.fetch _ _, answer⟩ :: asked =>
      (asked = [] ∨
        (readAnswer answer : Except (Thrown (String ⊕ ε)) Value) = .error (.retriable .RequiredCaptcha)) ∧
        OnlyOnDemand asked
  | _ :: asked => OnlyOnDemand asked

/-- The kinds of what was asked. -/
def kinds (asked : List (Sigma (Question.Answer ε))) : List Kind := asked.map fun q => q.1.kind

/-- What is asked, of the kinds `ks`, by a client that has the tokens. -/
structure Follows (r : ProtectedRequest) (ks : List Kind) (tokens : Tokens)
    (asked : List (Sigma (Question.Answer ε))) : Prop where
  kinds_initial : kinds asked <+: ks
  fresh : FreshTokens r tokens asked
  onlyOnDemand : OnlyOnDemand asked

/-! ## Tokens -/

/-- Tokens are asked for, and then what follows with them. -/
theorem Follows.append {r : ProtectedRequest} {ks ks' : List Kind} {tokens : Tokens}
    {asked rest : List (Sigma (Question.Answer ε))} (hkinds : kinds asked = ks) (hks : .request ∉ ks)
    (h : Follows r ks' (asked.foldl collect tokens) rest) :
    Follows r (ks ++ ks') tokens (asked ++ rest) := by
  subst hkinds
  induction asked generalizing tokens with
  | nil => exact h
  | cons q asked ih =>
    rw [kinds, List.map_cons, List.mem_cons, not_or] at hks
    have hrest := ih h hks.2
    have hinitial : kinds (q :: asked ++ rest) <+: kinds (q :: asked) ++ ks' :=
      (List.prefix_cons_inj _).2 hrest.kinds_initial
    obtain ⟨q, answer⟩ := q
    cases q with
    | getTelemetryID _ _ => exact ⟨hinitial, hrest.fresh, hrest.onlyOnDemand⟩
    | executeRecaptcha => exact ⟨hinitial, hrest.fresh, hrest.onlyOnDemand⟩
    | fetch _ _ => exact absurd rfl hks.1

/-- Tokens are asked for, and one is not there. -/
theorem follows_initial {r : ProtectedRequest} {ks : List Kind} {tokens : Tokens}
    {asked : List (Sigma (Question.Answer ε))} (hkinds : kinds asked <+: ks) (hks : .request ∉ ks)
    (ks' : List Kind) : Follows r (ks ++ ks') tokens asked := by
  have hmem : .request ∉ kinds asked := fun h => hks (hkinds.subset h)
  have hnil : Follows r [] (asked.foldl collect tokens) ([] : List (Sigma (Question.Answer ε))) :=
    ⟨List.nil_prefix, trivial, trivial⟩
  have h := Follows.append rfl hmem hnil
  rw [List.append_nil, List.append_nil] at h
  exact ⟨hkinds.trans (List.prefix_append ks ks'), h.fresh, h.onlyOnDemand⟩

variable {s : DFPProtectedAuthState} {asked : List (Sigma (Question.Answer ε))}

theorem getTelemetryID_of_enabled (he : s.enabled = true) :
    getTelemetryID (.ok s : Except ε DFPProtectedAuthState) =
      .ask (.getTelemetryID s.publicToken (s.dfpBackendURL ++ "/submit"))
        fun answer : Except ε String => .done (answer.map some) :=
  if_pos he

/-- A dialog that asks for tokens of the kinds `ks` and goes on with what it was given. -/
def Gathers {α δ : Type} (ks : List Kind) (f : Tokens → α) (asked : List (Sigma (Question.Answer ε))) :
    Except δ α → Prop
  | .ok a => kinds asked = ks ∧ a = f (asked.foldl collect {})
  | .error _ => kinds asked <+: ks

theorem gathers_executeRecaptcha {r : Except ε (Option String)}
    (h : executeRecaptcha.Runs asked r) : Gathers [.captcha] Tokens.captcha_token asked r := by
  obtain ⟨answer, rfl, rfl⟩ := Dialog.runs_once.1 h
  cases r with
  | ok token => exact ⟨rfl, rfl⟩
  | error e => exact List.prefix_rfl

theorem gathers_getTelemetryID (he : s.enabled = true) {r : Except ε (Option String)}
    (h : (getTelemetryID (.ok s)).Runs asked r) :
    Gathers [.telemetry] Tokens.dfp_telemetry_id asked r := by
  rw [getTelemetryID_of_enabled he] at h
  obtain ⟨answer, rfl, rfl⟩ := Dialog.runs_once.1 h
  cases answer with
  | ok id => exact ⟨rfl, rfl⟩
  | error e => exact List.prefix_rfl

/-- The telemetry id, then the captcha token. -/
theorem gathers_both (he : s.enabled = true) {α : Type} {f : Tokens → α} {r : Except ε α}
    (h : ((getTelemetryID (.ok s)).andThen fun dfp_telemetry_id =>
      executeRecaptcha.andThen fun captcha_token =>
        .done (.ok (f ⟨dfp_telemetry_id, captcha_token⟩))).Runs asked r) :
    Gathers [.telemetry, .captcha] f asked r := by
  rw [getTelemetryID_of_enabled he] at h
  rcases Dialog.runs_andThen.1 h with ⟨e, hid, rfl⟩ | ⟨first, rest, id, rfl, hid, hrest⟩
  · obtain ⟨answer, rfl, -⟩ := Dialog.runs_once.1 hid
    exact ⟨[.captcha], rfl⟩
  · obtain ⟨answer, rfl, hanswer⟩ := Dialog.runs_once.1 hid
    rcases Dialog.runs_andThen.1 hrest with ⟨e, htoken, rfl⟩ | ⟨second, _, token, rfl, htoken, rfl, rfl⟩
    · obtain ⟨answer', rfl, -⟩ := Dialog.runs_once.1 htoken
      exact List.prefix_rfl
    · obtain ⟨answer', rfl, rfl⟩ := Dialog.runs_once.1 htoken
      cases answer with
      | ok id' =>
        obtain rfl := Except.ok.inj hanswer
        exact ⟨rfl, rfl⟩
      | error e => cases hanswer

/-- What is asked for before the first request. -/
theorem gathers_getDFPTelemetryIDAndCaptcha {r : Except ε Tokens}
    (h : (getDFPTelemetryIDAndCaptcha (.ok s)).Runs asked r) : Gathers (firstTokens s) id asked r := by
  obtain ⟨publicToken, dfpBackendURL, mode, enabled, loaded, rfl⟩ := s
  cases mode with
  | none =>
    have h : (executeRecaptcha.andThen fun captcha_token =>
        .done (.ok ⟨none, captcha_token⟩)).Runs asked r := h
    rcases Dialog.runs_andThen.1 h with ⟨e, htoken, rfl⟩ | ⟨first, _, token, rfl, htoken, rfl, rfl⟩
    · exact gathers_executeRecaptcha htoken
    · obtain ⟨answer, rfl, rfl⟩ := Dialog.runs_once.1 htoken
      exact ⟨rfl, rfl⟩
  | some mode =>
    cases mode with
    | OBSERVATION => exact gathers_both rfl h
    | DECISIONING =>
      have h : ((getTelemetryID (.ok ⟨publicToken, dfpBackendURL, some .DECISIONING, true, loaded, rfl⟩)).andThen
          fun dfp_telemetry_id => .done (.ok ⟨dfp_telemetry_id, none⟩)).Runs asked r := h
      rcases Dialog.runs_andThen.1 h with ⟨e, hid, rfl⟩ | ⟨first, _, id, rfl, hid, rfl, rfl⟩
      · exact gathers_getTelemetryID rfl hid
      · obtain ⟨answer, rfl, hanswer⟩ := Dialog.runs_once.1 hid
        cases answer with
        | ok id' =>
          obtain rfl := Except.ok.inj hanswer
          exact ⟨rfl, rfl⟩
        | error e => cases hanswer

theorem retryWithCaptchaAndDFP_of_enabled (he : s.enabled = true) (type : RetriableErrorType)
    (r : ProtectedRequest) (tokens : Tokens) :
    retryWithCaptchaAndDFP (.ok s : Except ε DFPProtectedAuthState) type (r.req tokens) =
      ((getTelemetryID (.ok s)).andThen fun dfp_telemetry_id =>
        executeRecaptcha.andThen fun captcha_token =>
          .done (.ok (r.req ⟨dfp_telemetry_id, captcha_token⟩))).bind
        fun answer => .done (answer.mapError .inr) := by
  simp only [retryWithCaptchaAndDFP, he, if_true, ProtectedRequest.req, r.assignTokens_body]

/-- What the retry callback asks for. -/
theorem gathers_retryWithCaptchaAndDFP {r : ProtectedRequest} {tokens : Tokens}
    {type : RetriableErrorType} {answer : Except (String ⊕ ε) SDKBaseRequestInfo}
    (h : (retryWithCaptchaAndDFP (.ok s) type (r.req tokens)).Runs asked answer) :
    (s.enabled = true ∧ Gathers [.telemetry, .captcha] r.req asked answer) ∨
      s.enabled = false ∧ asked = [] ∧ ∃ reason, answer = .error reason := by
  cases he : s.enabled with
  | false =>
    have hrefused : retryWithCaptchaAndDFP (.ok s : Except ε _) type (r.req tokens) =
        .done (.error (.inl "Unable to query captcha and/or dfp telemetry ID")) := by
      simp only [retryWithCaptchaAndDFP, he, Bool.false_eq_true, if_false]
    rw [hrefused] at h
    exact .inr ⟨rfl, h.1, _, h.2⟩
  | true =>
    rw [retryWithCaptchaAndDFP_of_enabled he] at h
    obtain ⟨before, _, result, rfl, hboth, rfl, rfl⟩ := Dialog.runs_bind.1 h
    rw [List.append_nil]
    have hgathers := gathers_both he hboth
    cases result with
    | ok req => exact .inl ⟨rfl, hgathers⟩
    | error e => exact .inl ⟨rfl, hgathers⟩

/-- The same as the callback of the network model, for what is answered here. -/
theorem runs_retryWithCaptchaAndDFP {type : RetriableErrorType} {req : SDKBaseRequestInfo}
    {answer : Except (String ⊕ ε) SDKBaseRequestInfo}
    (h : (retryWithCaptchaAndDFP (.ok s) type req).Runs asked answer) :
    ∃ id token, answer = Network.retryWithCaptchaAndDFP s.enabled id token type req := by
  unfold retryWithCaptchaAndDFP at h
  unfold Network.retryWithCaptchaAndDFP
  dsimp only at h
  cases he : s.enabled with
  | false =>
    rw [he] at h
    exact ⟨.ok none, .ok none, h.2⟩
  | true =>
    rw [he] at h
    cases hbody : req.body with
    | none =>
      simp only [hbody] at h
      exact ⟨.ok none, .ok none, h.2⟩
    | some body =>
      simp only [hbody, if_true] at h
      obtain ⟨before, _, result, rfl, hboth, rfl, rfl⟩ := Dialog.runs_bind.1 h
      rcases Dialog.runs_andThen.1 hboth with ⟨e, hid, rfl⟩ | ⟨first, rest, id, rfl, hid, hrest⟩
      · exact ⟨.error e, .ok none, rfl⟩
      · rcases Dialog.runs_andThen.1 hrest with ⟨e, -, rfl⟩ | ⟨second, _, token, rfl, -, rfl, rfl⟩
        · exact ⟨.ok id, .error e, rfl⟩
        · exact ⟨.ok id, .ok token, rfl⟩

/-! ## Requests -/

/-- One request, with the tokens that the client has. -/
theorem answered_baseFetchSDK {state : Except ε DFPProtectedAuthState} {req : SDKBaseRequestInfo}
    {outer : List (Sigma (Call.Answer (String ⊕ ε)))} {result : Except (Thrown (String ⊕ ε)) Value}
    (hruns : (baseFetchSDK req : Network.Async (String ⊕ ε)).Runs outer result)
    (hasked : Dialog.Answered (answerCall state) outer asked) :
    asked = [] ∧ result = .error .typeError ∨ ∃ url init, ∃ answer : Except String Response,
      asked = [⟨.fetch url init, answer⟩] ∧ Sends req url init ∧ result = readAnswer answer := by
  rcases runs_baseFetchSDK hruns with ⟨rfl, rfl⟩ | ⟨body, answer, hbody, rfl, rfl⟩
  · cases hasked
    exact .inl ⟨rfl, rfl⟩
  · cases hasked with
    | cons hfetch hrest =>
      cases hrest
      obtain ⟨answer', rfl, rfl⟩ := Dialog.runs_once.1 hfetch
      exact .inr ⟨_, _, answer, rfl, ⟨rfl, rfl, rfl, hbody⟩, rfl⟩

/-- The last request, with the tokens that the client has. -/
theorem follows_baseFetchSDK {state : Except ε DFPProtectedAuthState} {r : ProtectedRequest}
    {tokens : Tokens} {outer : List (Sigma (Call.Answer (String ⊕ ε)))}
    {result : Except (Thrown (String ⊕ ε)) Value} {ks : List Kind}
    (hruns : (baseFetchSDK (r.req tokens) : Network.Async (String ⊕ ε)).Runs outer result)
    (hasked : Dialog.Answered (answerCall state) outer asked) :
    Follows r (.request :: ks) tokens asked := by
  rcases answered_baseFetchSDK hruns hasked with ⟨rfl, -⟩ | ⟨url, init, answer, rfl, hsends, -⟩
  · exact ⟨List.nil_prefix, trivial, trivial⟩
  · exact ⟨⟨ks, rfl⟩, ⟨hsends, trivial⟩, .inl rfl, trivial⟩

/-- The retry callback, and the request that it allows. -/
theorem follows_afterRetry {r : ProtectedRequest} {tokens : Tokens} {type : RetriableErrorType}
    {answer : Except (String ⊕ ε) SDKBaseRequestInfo} {rest : List (Sigma (Call.Answer (String ⊕ ε)))}
    {result : Except (Thrown (String ⊕ ε)) Value} (hrest : (afterCallback answer).Runs rest result)
    (hasked : Dialog.Answered (answerCall (.ok s)) (⟨.retryCallback type (r.req tokens), answer⟩ :: rest)
      asked) :
    Follows r (retry s) {} asked ∧
      ∀ type, result = .error (.retriable type) → s.enabled = true ∧ (kinds asked).count .request = 1 := by
  cases hasked with
  | @cons _ _ _ part asked' hcallback hlast =>
    have hcallback : (retryWithCaptchaAndDFP (.ok s) type (r.req tokens)).Runs part answer := hcallback
    rcases gathers_retryWithCaptchaAndDFP hcallback with ⟨he, hgathers⟩ | ⟨he, rfl, reason, rfl⟩
    · rw [retry, if_pos he]
      cases answer with
      | ok req =>
        obtain ⟨hkinds, rfl⟩ := hgathers
        refine ⟨Follows.append hkinds (by decide) (follows_baseFetchSDK hrest hlast), ?_⟩
        rintro type rfl
        rcases answered_baseFetchSDK hrest hlast with ⟨-, htype⟩ | ⟨url, init, answer, rfl, -, -⟩
        · cases htype
        · refine ⟨he, ?_⟩
          rw [kinds, List.map_append, List.count_append, ← kinds, hkinds]
          rfl
      | error reason =>
        obtain ⟨rfl, rfl⟩ := hrest
        cases hlast
        rw [List.append_nil]
        exact ⟨follows_initial hgathers (by decide) [.request], fun _ htype => by cases htype⟩
    · obtain ⟨rfl, rfl⟩ := hrest
      cases hlast
      rw [List.append_nil]
      exact ⟨⟨List.nil_prefix, trivial, trivial⟩, fun _ htype => by cases htype⟩

theorem follows_retriableFetchSDK {r : ProtectedRequest} {tokens : Tokens}
    {result : Except (Thrown (String ⊕ ε)) Value}
    (h : ((retriableFetchSDK (r.req tokens)).handle (answerCall (.ok s))).Runs asked result) :
    Follows r (.request :: retry s) tokens asked ∧
      ∀ type, result = .error (.retriable type) → s.enabled = true ∧ (kinds asked).count .request = 2 := by
  obtain ⟨outer, houter, hasked⟩ := Dialog.runs_handle.1 h
  rcases runs_retriableFetchSDK.1 houter with ⟨hfirst, hother⟩ |
    ⟨first, type, rest, answer, hfirst, rfl, hrest⟩
  · exact ⟨follows_baseFetchSDK hfirst hasked, fun type htype => absurd htype (hother type)⟩
  · obtain ⟨before, after, rfl, hbefore, hafter⟩ := Dialog.Answered.append hasked
    have hretry := follows_afterRetry hrest hafter
    rcases answered_baseFetchSDK hfirst hbefore with ⟨-, htype⟩ | ⟨url, init, first, rfl, hsends, hread⟩
    · cases htype
    · refine ⟨⟨(List.prefix_cons_inj _).2 hretry.1.kinds_initial, ⟨hsends, hretry.1.fresh⟩, .inr hread.symm,
        hretry.1.onlyOnDemand⟩, fun type htype => ?_⟩
      obtain ⟨he, hcount⟩ := hretry.2 type htype
      refine ⟨he, ?_⟩
      rw [kinds, List.map_append, List.count_append]
      exact congrArg (1 + ·) hcount

/-- What is asked follows the script of the mode; each request has exactly the tokens that were asked for
since the request before it; only a demand for a captcha is followed by more, and a demand is an error of
the method only when a second request was made. -/
theorem protectedFetch_asks {state : Except ε DFPProtectedAuthState} {r : ProtectedRequest}
    {result : Except (Thrown (String ⊕ ε)) Value} (h : (protectedFetch state r).Runs asked result) :
    Follows r (script state) {} asked ∧
      ∀ type, result = .error (.retriable type) → (kinds asked).count .request = 2 := by
  obtain ⟨first, rest, tokens, rfl, hfirst, hrest⟩ := Dialog.runs_bind.1 h
  cases state with
  | error e =>
    obtain ⟨rfl, rfl⟩ := hfirst
    obtain ⟨rfl, rfl⟩ := hrest
    exact ⟨⟨List.nil_prefix, trivial, trivial⟩, fun _ htype => by cases htype⟩
  | ok s =>
    have hgathers := gathers_getDFPTelemetryIDAndCaptcha hfirst
    have hrequest : .request ∉ firstTokens s := by
      unfold firstTokens
      split <;> decide
    cases tokens with
    | error e =>
      obtain ⟨rfl, rfl⟩ := hrest
      rw [List.append_nil]
      exact ⟨follows_initial hgathers hrequest _, fun _ htype => by cases htype⟩
    | ok tokens =>
      obtain ⟨hkinds, rfl⟩ := hgathers
      obtain ⟨hfollows, hdemand⟩ := follows_retriableFetchSDK hrest
      refine ⟨Follows.append hkinds hrequest hfollows, fun type htype => ?_⟩
      have hcount : (kinds first).count .request = 0 := List.count_eq_zero.2 (hkinds ▸ hrequest)
      rw [kinds, List.map_append, List.count_append, ← kinds, ← kinds, hcount, Nat.zero_add]
      exact (hdemand type htype).2

end

/-! ### A demand for a captcha -/

def observed : DFPProtectedAuthState :=
  ⟨"public-token-live", "https://telemetry.stytch.com", some .OBSERVATION, true, true, rfl⟩

def newPassword : ProtectedRequest :=
  PasswordClient.resetBySession ⟨"https://api.stytch.com", "Basic", "client", none⟩ (.string "p") .undefined

/-- The answers to the two questions for tokens, and a request with them. -/
def attempt (id token : String) (body : String) (resp : Response) : List (Sigma (Question.Answer String)) :=
  [⟨.getTelemetryID "public-token-live" "https://telemetry.stytch.com/submit", (.ok id : Except String String)⟩,
    ⟨.executeRecaptcha, (.ok (some token) : Except String (Option String))⟩,
    ⟨.fetch "https://api.stytch.com/sdk/v1/passwords/session/reset"
      ⟨.POST, headers (newPassword.req {}), some body⟩, (.ok resp : Except String Response)⟩]

def bodyWith (id token : String) : String :=
  "\x7b\"password\":\"p\",\"dfp_telemetry_id\":\"" ++ id ++ "\",\"captcha_token\":\"" ++ token ++ "\"\x7d"

/-- A request with the tokens, answered by a demand. -/
def demanded (id token : String) : Sigma (Call.Answer (String ⊕ String)) :=
  ⟨.fetch "https://api.stytch.com/sdk/v1/passwords/session/reset"
    ⟨.POST, headers (newPassword.req {}), some (bodyWith id token)⟩,
    (.ok captchaResponse : Except String Response)⟩

theorem runs_demanded (id token : String) (hbody : bodyText (newPassword.req ⟨some id, some token⟩) =
    some (some (bodyWith id token))) :
    (baseFetchSDK (newPassword.req ⟨some id, some token⟩) : Network.Async (String ⊕ String)).Runs
      [demanded id token] (.error (.retriable .RequiredCaptcha)) := by
  have hread : (readResponse captchaResponse : Except (Thrown (String ⊕ String)) Value) =
      .error (.retriable .RequiredCaptcha) := by
    rw [readResponse, if_neg (by decide), if_neg fun h => Bool.false_ne_true h.2]
    exact if_pos (includes_self _)
  rw [baseFetchSDK, hbody]
  exact Dialog.runs_once.2 ⟨(.ok captchaResponse : Except String Response), rfl, hread.symm⟩

theorem protectedFetch_asks_again :
    FreshTokens newPassword {}
        (attempt "t" "c" (bodyWith "t" "c") captchaResponse ++
          attempt "t'" "c'" (bodyWith "t'" "c'") captchaResponse) ∧
      (kinds (attempt "t" "c" (bodyWith "t" "c") captchaResponse ++
        attempt "t'" "c'" (bodyWith "t'" "c'") captchaResponse)).count .request = 2 := by
  have hfetch : ∀ url init, ∀ answer : Except String Response,
      (answerCall (.ok observed : Except String _) (.fetch url init)).Runs [⟨.fetch url init, answer⟩] answer :=
    fun url init answer => ⟨answer, [], rfl, rfl, rfl⟩
  have hretry : (retryWithCaptchaAndDFP (.ok observed : Except String _) .RequiredCaptcha
      (newPassword.req ⟨some "t", some "c"⟩)).Runs ((attempt "t'" "c'" "" captchaResponse).take 2)
        (.ok (newPassword.req ⟨some "t'", some "c'"⟩)) := by
    rw [@retryWithCaptchaAndDFP_of_enabled String observed rfl]
    exact ⟨_, _, rfl, _, _, rfl, rfl, rfl⟩
  have houter : (retriableFetchSDK (newPassword.req ⟨some "t", some "c"⟩) :
      Network.Async (String ⊕ String)).Runs
        [demanded "t" "c", ⟨.retryCallback .RequiredCaptcha (newPassword.req ⟨some "t", some "c"⟩),
          (.ok (newPassword.req ⟨some "t'", some "c'"⟩) : Except (String ⊕ String) SDKBaseRequestInfo)⟩,
          demanded "t'" "c'"] (.error (.retriable .RequiredCaptcha)) :=
    runs_retriableFetchSDK.2 (.inr ⟨[demanded "t" "c"], _, _, _, runs_demanded "t" "c" rfl, rfl,
      runs_demanded "t'" "c'" rfl⟩)
  have hruns : (protectedFetch (.ok observed) newPassword).Runs
      (attempt "t" "c" (bodyWith "t" "c") captchaResponse ++
        attempt "t'" "c'" (bodyWith "t'" "c'") captchaResponse) (.error (.retriable .RequiredCaptcha)) := by
    refine Dialog.runs_bind.2 ⟨(attempt "t" "c" "" captchaResponse).take 2, _, .ok ⟨some "t", some "c"⟩, rfl,
      ⟨_, _, rfl, _, _, rfl, rfl, rfl⟩, Dialog.runs_handle.2 ⟨_, houter, ?_⟩⟩
    have hcallback : (answerCall (.ok observed : Except String _) (.retryCallback .RequiredCaptcha
        (newPassword.req ⟨some "t", some "c"⟩))).Runs ((attempt "t'" "c'" "" captchaResponse).take 2)
          (.ok (newPassword.req ⟨some "t'", some "c'"⟩)) := hretry
    exact .cons (hfetch _ _ _) (.cons hcallback (.cons (hfetch _ _ _) .nil))
  obtain ⟨hfollows, hcount⟩ := protectedFetch_asks hruns
  exact ⟨hfollows.fresh, hcount _ rfl⟩

end StytchBrowser.Core.ProtectedAuth
