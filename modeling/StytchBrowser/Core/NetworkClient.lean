import Mathlib.Data.List.Infix
import StytchBrowser.Core.ErrorMarshaller
import StytchBrowser.JsUtils.PlainObject
import StytchBrowser.Lib.Dialog

/-!
# Requests to the API

`baseFetchSDK` makes a request and sorts the response by its status, its content type and its body;
`retriableFetchSDK` makes a second one when the server asks for a captcha. The requests and the calls
of the retry callback are questions of a `Dialog`.

* `responses_classified_iff`: which responses become data or an error of the SDK, and what
  `retriableFetchSDK` asks.
-/

namespace StytchBrowser.Core.Network

open StytchBrowser.Core.ErrorMarshaller

/-! ## Requests -/

inductive Method where
  | GET
  | DELETE
  | POST
  | PUT

structure SDKBaseRequestInfo where
  basicAuthHeader : String
  xSDKClientHeader : String
  xSDKParentHostHeader : Option String
  body : Option Fields
  method : Method
  finalURL : String

/-- The options of `fetch`; the credentials are always included. -/
structure RequestInit where
  method : Method
  headers : List (String × String)
  body : Option String

def headers (req : SDKBaseRequestInfo) : List (String × String) :=
  let host := req.xSDKParentHostHeader.getD ""
  [("Authorization", req.basicAuthHeader), ("Content-Type", "application/json"),
    ("X-SDK-Client", req.xSDKClientHeader)] ++
  if host = "" then [] else [("X-SDK-Parent-Host", host)]

/-- `JSON.stringify(body)` of the body, `none` where it throws. -/
def bodyText (req : SDKBaseRequestInfo) : Option (Option String) :=
  match req.body with
  | none => some none
  | some fields => (Value.object fields.entries).jsonText

/-! ## Responses -/

/-- What a JSON text can be. -/
inductive JsonBody where
  | null
  | bool (b : Bool)
  | number (text : String)
  | string (s : String)
  | array (elems : List Value)
  | object (fields : Fields)

structure Response where
  status : ℕ
  /-- `headers.get('content-type')`. -/
  contentType : Option String
  /-- What `json()` is fulfilled with, if it is not rejected. -/
  json : Option JsonBody
  /-- What `text()` is fulfilled with, if it is not rejected. -/
  text : Option String

inductive RetriableErrorType where
  | RequiredCaptcha

/-- What a promise is rejected with, where a retry callback rejects with `ε`. -/
inductive Thrown (ε : Type) where
  | apiError (own : Fields)
  | schemaError (own : Fields)
  | unreachable (message : String)
  | retriable (type : RetriableErrorType)
  | typeError
  /-- An error of `fetch`, which has the message. -/
  | fetchError (message : String)
  | callbackError (reason : ε)

/-- The four classes of errors that callers know. -/
def Thrown.Known {ε : Type} : Thrown ε → Prop
  | .apiError _ | .schemaError _ | .unreachable _ | .retriable _ => True
  | .typeError | .fetchError _ | .callbackError _ => False

section
variable {ε : Type}

/-- `s.includes(part)`. -/
def includes (s part : String) : Bool := decide (part.toList <:+: s.toList)

/-- `'body' in respError || 'params' in respError || 'query' in respError`. -/
def looksLikeSchemaError (fields : Fields) : Bool :=
  fields.contains "body" || fields.contains "params" || fields.contains "query"

/-- `throw new ErrorClass(..)`: the constructor may throw itself. -/
def throwNew (wrap : Fields → Thrown ε) (own : Option Fields) : Except (Thrown ε) Value :=
  .error ((own.map wrap).getD .typeError)

/-- What is thrown for the JSON body of an error; the operator `in` throws for what is no object. -/
def throwBody : JsonBody → Except (Thrown ε) Value
  | .object fields =>
      if looksLikeSchemaError fields then throwNew .schemaError (newStytchAPISchemaError fields)
      else throwNew .apiError (newAPIError "StytchAPIError" fields)
  | .array _ => throwNew .apiError (newAPIError "StytchAPIError" .empty)
  | _ => .error .typeError

/-- What `baseFetchSDK` makes of a response. -/
def readResponse (resp : Response) : Except (Thrown ε) Value :=
  if resp.status ≤ 299 then
    match resp.json with
    | none => .error (.unreachable "Invalid JSON response from our servers.")
    -- reading `data` of `null` throws, and is caught
    | some .null => .error (.unreachable "Invalid JSON response from our servers.")
    | some (.object fields) => .ok (readField fields "data")
    | some _ => .ok .undefined
  else if resp.status ≠ 200 ∧ resp.contentType.any (includes · "application/json") then
    match resp.json with
    | none => .error (.unreachable "Invalid or no response from server")
    | some body => throwBody body
  else
    match resp.text with
    | none => .error (.unreachable "Invalid response from our servers.")
    | some text =>
        if includes text "Captcha required" then .error (.retriable .RequiredCaptcha)
        else .error (.unreachable "Invalid response from our servers.")

/-! ## The dialog with the server -/

inductive Call where
  | fetch (url : String) (init : RequestInit)
  | retryCallback (type : RetriableErrorType) (req : SDKBaseRequestInfo)

/-- A response or the message of an error; another request or what the callback rejects with. -/
def Call.Answer (ε : Type) : Call → Type
  | .fetch _ _ => Except String Response
  | .retryCallback _ _ => Except ε SDKBaseRequestInfo

abbrev Async (ε : Type) := Dialog Call (Call.Answer ε) (Except (Thrown ε) Value)

/-- What `baseFetchSDK` makes of the answer of `fetch`. -/
def readAnswer : Except String Response → Except (Thrown ε) Value
  | .error message =>
      .error (if message = "Failed to fetch" then .unreachable "Unable to contact our servers."
        else .fetchError message)
  | .ok resp => readResponse resp

def baseFetchSDK (req : SDKBaseRequestInfo) : Async ε :=
  match bodyText req with
  | none => .done (.error .typeError)
  | some body =>
      .ask (.fetch req.finalURL ⟨req.method, headers req, body⟩)
        fun answer : Except String Response => .done (readAnswer answer)

/-- The rest of `retriableFetchSDK` after the retry callback. -/
def afterCallback : Except ε SDKBaseRequestInfo → Async ε
  | .ok req => baseFetchSDK req
  | .error reason => .done (.error (.callbackError reason))

/-- The rest of `retriableFetchSDK` after the first request. -/
def afterFirst (req : SDKBaseRequestInfo) : Except (Thrown ε) Value → Async ε
  | .error (.retriable type) =>
      .ask (.retryCallback type req) fun answer : Except ε SDKBaseRequestInfo => afterCallback answer
  | result => .done result

def retriableFetchSDK (req : SDKBaseRequestInfo) : Async ε := (baseFetchSDK req).bind (afterFirst req)

end

/-- `retryWithCaptchaAndDFP`, for what the telemetry script and the captcha answer. -/
def retryWithCaptchaAndDFP {ε : Type} (enabled : Bool)
    (getTelemetryID executeRecaptcha : Except ε (Option String)) (_ : RetriableErrorType)
    (req : SDKBaseRequestInfo) : Except (String ⊕ ε) SDKBaseRequestInfo :=
  if enabled then
    match req.body with
    | none => .ok req
    | some body =>
        match getTelemetryID, executeRecaptcha with
        | .ok telemetry, .ok captcha =>
            let body := body.set "dfp_telemetry_id" (telemetry.elim .undefined .string)
            .ok { req with body := some (body.set "captcha_token" (captcha.elim .undefined .string)) }
        | .error e, _ => .error (.inr e)
        | .ok _, .error e => .error (.inr e)
  else .error (.inl "Unable to query captcha and/or dfp telemetry ID")

/-! ## What is expected -/

section
variable {ε : Type}

/-- The data field of an object that came with success, or an error of the SDK. -/
def Classified (resp : Response) : Except (Thrown ε) Value → Prop
  | .ok v => 200 ≤ resp.status ∧ resp.status ≤ 299 ∧
      ∃ fields, resp.json = some (.object fields) ∧ v = readField fields "data"
  | .error e => e.Known

/-- A body that is read without its shape being tested has the shape that is meant. -/
structure ShapeAsMeant (resp : Response) : Prop where
  success : resp.status ≤ 299 → ∀ body, resp.json = some body →
    body = .null ∨ 200 ≤ resp.status ∧ ∃ fields, body = .object fields
  failure : 299 < resp.status → resp.contentType.any (includes · "application/json") →
    ∀ body, resp.json = some body → (∃ elems, body = .array elems) ∨
      ∃ fields, body = .object fields ∧
        if looksLikeSchemaError fields then SchemaReadable (readField fields "body")
        else APIReadable fields

def isFetch : Call → Bool
  | .fetch _ _ => true
  | .retryCallback _ _ => false

/-- A second request is made only after a `RetriableError`, and is what the callback returned. -/
def RetriesOnce (req : SDKBaseRequestInfo) (asked : List (Sigma (Call.Answer ε)))
    (result : Except (Thrown ε) Value) : Prop :=
  (baseFetchSDK req : Async ε).Runs asked result ∧ (∀ type, result ≠ .error (.retriable type)) ∨
    ∃ first type rest, ∃ answer : Except ε SDKBaseRequestInfo,
      (baseFetchSDK req : Async ε).Runs first (.error (.retriable type)) ∧
        asked = first ++ ⟨.retryCallback type req, answer⟩ :: rest ∧
          (afterCallback answer).Runs rest result

/-! ## Responses -/

theorem throwNew_known {wrap : Fields → Thrown ε} (hwrap : ∀ own, (wrap own).Known)
    (own : Option Fields) (resp : Response) :
    Classified resp (throwNew wrap own) ↔ own.isSome := by
  cases own with
  | none => exact ⟨False.elim, nofun⟩
  | some own => exact ⟨fun _ => rfl, fun _ => hwrap own⟩

theorem throwBody_known (body : JsonBody) (resp : Response) :
    Classified resp (throwBody body : Except (Thrown ε) Value) ↔
      (∃ elems, body = .array elems) ∨ ∃ fields, body = .object fields ∧
        if looksLikeSchemaError fields then SchemaReadable (readField fields "body")
        else APIReadable fields := by
  cases body with
  | object fields =>
    have hschema : (newStytchAPISchemaError fields).isSome = true ↔
        SchemaReadable (readField fields "body") := construct_isSome .stytchAPISchemaError fields
    have hapi : (newAPIError "StytchAPIError" fields).isSome = true ↔ APIReadable fields :=
      construct_isSome .stytchAPIError fields
    have hiff : Classified resp (throwBody (.object fields) : Except (Thrown ε) Value) ↔
        if looksLikeSchemaError fields then SchemaReadable (readField fields "body")
        else APIReadable fields := by
      simp only [throwBody]
      split_ifs
      · rw [@throwNew_known ε .schemaError fun _ => trivial, hschema]
      · rw [@throwNew_known ε .apiError fun _ => trivial, hapi]
    rw [hiff]
    constructor
    · exact fun h => .inr ⟨fields, rfl, h⟩
    · rintro (⟨_, ⟨⟩⟩ | ⟨_, ⟨⟩, h⟩)
      exact h
  | array elems =>
    refine ⟨fun _ => .inl ⟨elems, rfl⟩, fun _ => ?_⟩
    unfold throwBody
    rw [@throwNew_known ε .apiError fun _ => trivial]
    rfl
  | _ =>
    refine ⟨False.elim, ?_⟩
    rintro (⟨_, ⟨⟩⟩ | ⟨_, ⟨⟩, -⟩)

/-- A status up to 299: what `json()` gives decides. -/
theorem readResponse_classified_success {resp : Response} (hstatus : resp.status ≤ 299) :
    Classified resp (readResponse resp : Except (Thrown ε) Value) ↔ ShapeAsMeant resp := by
  have hiff : ShapeAsMeant resp ↔ ∀ body, resp.json = some body →
      body = .null ∨ 200 ≤ resp.status ∧ ∃ fields, body = .object fields :=
    ⟨fun h => h.success hstatus, fun h => ⟨fun _ => h, fun hlt => absurd hstatus (Nat.not_le.2 hlt)⟩⟩
  rw [hiff, readResponse, if_pos hstatus]
  split
  · next hnone =>
    rw [hnone]
    exact ⟨fun _ => nofun, fun _ => trivial⟩
  · next hnull =>
    refine ⟨fun _ body hbody => .inl ?_, fun _ => trivial⟩
    exact (Option.some.inj (hnull.symm.trans hbody)).symm
  · next fields hobject =>
    constructor
    · rintro ⟨hok, -⟩ body hbody
      exact .inr ⟨hok, fields, (Option.some.inj (hobject.symm.trans hbody)).symm⟩
    · intro h
      rcases h _ hobject with hnull | ⟨hok, -⟩
      · cases hnull
      · exact ⟨hok, hstatus, fields, hobject, rfl⟩
  · next body hnull hobject hbody =>
    constructor
    · rintro ⟨-, -, fields, hfields, -⟩
      exact absurd (Option.some.inj (hbody.symm.trans hfields)) (hobject fields)
    · intro h
      rcases h body hbody with heq | ⟨-, fields, heq⟩
      · exact absurd heq hnull
      · exact absurd heq (hobject fields)

/-- A status from 300 on: only what is sent as JSON can be anything but a text. -/
theorem readResponse_classified_failure {resp : Response} (hlt : 299 < resp.status) :
    Classified resp (readResponse resp : Except (Thrown ε) Value) ↔ ShapeAsMeant resp := by
  have hstatus := Nat.not_le.2 hlt
  rw [readResponse, if_neg hstatus]
  split_ifs with hcontent
  · have hiff : ShapeAsMeant resp ↔ ∀ body, resp.json = some body →
        (∃ elems, body = .array elems) ∨ ∃ fields, body = .object fields ∧
          if looksLikeSchemaError fields then SchemaReadable (readField fields "body")
          else APIReadable fields :=
      ⟨fun h => h.failure hlt hcontent.2, fun h => ⟨fun hle => absurd hle hstatus, fun _ _ => h⟩⟩
    rw [hiff]
    split
    · next hnone =>
      rw [hnone]
      exact ⟨fun _ => nofun, fun _ => trivial⟩
    · next body hbody =>
      rw [throwBody_known]
      constructor
      · intro h body' hbody'
        obtain rfl := Option.some.inj (hbody.symm.trans hbody')
        exact h
      · exact fun h => h body hbody
  · have hother : ShapeAsMeant resp := by
      refine ⟨fun hle => absurd hle hstatus, fun _ hjson => absurd ⟨?_, hjson⟩ hcontent⟩
      omega
    refine iff_of_true ?_ hother
    split
    · trivial
    · split_ifs
      · trivial
      · trivial

/-- Which responses are sorted. -/
theorem readResponse_classified (resp : Response) :
    Classified resp (readResponse resp : Except (Thrown ε) Value) ↔ ShapeAsMeant resp :=
  (Nat.lt_or_ge 299 resp.status).elim readResponse_classified_failure readResponse_classified_success

/-! ## Retries -/

/-- One request is made, unless its body cannot be written. -/
theorem runs_baseFetchSDK {req : SDKBaseRequestInfo} {asked : List (Sigma (Call.Answer ε))}
    {result : Except (Thrown ε) Value} (h : (baseFetchSDK req : Async ε).Runs asked result) :
    asked = [] ∧ result = .error .typeError ∨ ∃ body, ∃ answer : Except String Response,
      bodyText req = some body ∧
        asked = [⟨.fetch req.finalURL ⟨req.method, headers req, body⟩, answer⟩] ∧
          result = readAnswer answer := by
  unfold baseFetchSDK at h
  split at h
  · exact .inl h
  · next body hbody =>
    obtain ⟨answer, hasked, hresult⟩ := Dialog.runs_once.1 h
    exact .inr ⟨body, answer, hbody, hasked, hresult⟩

theorem runs_retriableFetchSDK {req : SDKBaseRequestInfo} {asked : List (Sigma (Call.Answer ε))}
    {result : Except (Thrown ε) Value} :
    (retriableFetchSDK req : Async ε).Runs asked result ↔ RetriesOnce req asked result := by
  rw [retriableFetchSDK, Dialog.runs_bind]
  constructor
  · rintro ⟨first, rest, result', rfl, hfirst, hrest⟩
    unfold afterFirst at hrest
    split at hrest
    · next type =>
      obtain ⟨answer, rest', rfl, hrest'⟩ := hrest
      exact .inr ⟨first, type, rest', answer, hfirst, rfl, hrest'⟩
    · next hother =>
      obtain ⟨rfl, rfl⟩ := hrest
      rw [List.append_nil]
      exact .inl ⟨hfirst, hother⟩
  · rintro (⟨hfirst, hother⟩ | ⟨first, type, rest, answer, hfirst, rfl, hrest⟩)
    · refine ⟨asked, [], result, (List.append_nil asked).symm, hfirst, ?_⟩
      unfold afterFirst
      split
      · next type => exact absurd rfl (hother type)
      · exact ⟨rfl, rfl⟩
    · exact ⟨first, _, _, rfl, hfirst, answer, rest, rfl, hrest⟩

/-- The questions of the first request, or of the second. -/
theorem count_baseFetchSDK {req : SDKBaseRequestInfo} {asked : List (Sigma (Call.Answer ε))}
    {result : Except (Thrown ε) Value} (h : (baseFetchSDK req : Async ε).Runs asked result) :
    asked.countP (isFetch ·.1) ≤ 1 ∧ asked.countP (!isFetch ·.1) = 0 := by
  rcases runs_baseFetchSDK h with ⟨rfl, -⟩ | ⟨body, answer, -, rfl, -⟩
  · exact ⟨Nat.zero_le _, rfl⟩
  · exact ⟨Nat.le_refl _, rfl⟩

theorem count_afterCallback {answer : Except ε SDKBaseRequestInfo}
    {asked : List (Sigma (Call.Answer ε))} {result : Except (Thrown ε) Value}
    (h : (afterCallback answer).Runs asked result) :
    asked.countP (isFetch ·.1) ≤ 1 ∧ asked.countP (!isFetch ·.1) = 0 := by
  cases answer with
  | ok req => exact count_baseFetchSDK h
  | error reason =>
    obtain ⟨rfl, -⟩ := h
    exact ⟨Nat.zero_le _, rfl⟩

/-- At most two requests are made and the callback is called at most once. -/
theorem RetriesOnce.count {req : SDKBaseRequestInfo} {asked : List (Sigma (Call.Answer ε))}
    {result : Except (Thrown ε) Value} (h : RetriesOnce req asked result) :
    asked.countP (isFetch ·.1) ≤ 2 ∧ asked.countP (!isFetch ·.1) ≤ 1 := by
  rcases h with ⟨hfirst, -⟩ | ⟨first, type, rest, answer, hfirst, rfl, hrest⟩
  · obtain ⟨hfetch, hcallback⟩ := count_baseFetchSDK hfirst
    omega
  · obtain ⟨hfetch, hcallback⟩ := count_baseFetchSDK hfirst
    obtain ⟨hfetch', hcallback'⟩ := count_afterCallback hrest
    have hcall : isFetch (.retryCallback type req) = false := rfl
    rw [List.countP_append, List.countP_append, List.countP_cons, List.countP_cons]
    simp only [hcall, Bool.false_eq_true, if_false, Bool.not_false, if_true]
    omega

/-- A response becomes data or an error of the SDK exactly when its body has the shape that is meant;
and a request is retried once at most, as the retry callback says. -/
theorem responses_classified_iff (req : SDKBaseRequestInfo) :
    (∀ init resp result, (baseFetchSDK req : Async ε).Runs
        [⟨.fetch req.finalURL init, (.ok resp : Except String Response)⟩] result →
      (Classified resp result ↔ ShapeAsMeant resp)) ∧
    ∀ asked result, (retriableFetchSDK req : Async ε).Runs asked result →
      RetriesOnce req asked result ∧ asked.countP (isFetch ·.1) ≤ 2 ∧
        asked.countP (!isFetch ·.1) ≤ 1 := by
  refine ⟨fun init resp result h => ?_, fun asked result h => ?_⟩
  · rcases runs_baseFetchSDK h with ⟨hnil, -⟩ | ⟨body, answer, -, hasked, rfl⟩
    · cases hnil
    · obtain ⟨hfetch, heq⟩ := Sigma.mk.inj (List.cons.inj hasked).1
      obtain ⟨-, rfl⟩ := Call.fetch.inj hfetch
      obtain rfl := eq_of_heq heq
      exact readResponse_classified resp
  · have hretries := runs_retriableFetchSDK.1 h
    exact ⟨hretries, hretries.count⟩

/-- A request without a body. -/
def getRequest : SDKBaseRequestInfo := ⟨"Basic", "client", none, none, .GET, "https://api.stytch.com"⟩

def captchaResponse : Response := ⟨403, none, none, some "Captcha required"⟩

def okResponse : Response :=
  ⟨200, some "application/json", some (.object (.set .empty "data" (.string "done"))), none⟩

def nullError : Response := ⟨400, some "application/json", some .null, some "null"⟩

theorem includes_self (s : String) : includes s s = true := decide_eq_true (List.infix_refl s.toList)

/-- What is asked for the request, and answered with the response. -/
def fetched (resp : Response) : Sigma (Call.Answer String) :=
  ⟨.fetch "https://api.stytch.com" ⟨.GET, headers getRequest, none⟩, (.ok resp : Except String Response)⟩

theorem runs_getRequest (resp : Response) :
    (baseFetchSDK getRequest : Async String).Runs [fetched resp] (readResponse resp) :=
  ⟨(.ok resp : Except String Response), [], rfl, rfl, rfl⟩

/-- The captcha is required once, and the second response has data. -/
theorem responses_classified_captcha :
    Classified okResponse (readResponse okResponse : Except (Thrown String) Value) ∧
      ∃ asked, RetriesOnce getRequest asked
        (.ok (.string "done") : Except (Thrown String) Value) := by
  have hclassified := (@responses_classified_iff String getRequest).1 _ okResponse _
    (runs_getRequest okResponse)
  have hshape : ShapeAsMeant okResponse := by
    refine ⟨fun _ body hbody => .inr ⟨Nat.le_refl _, ?_⟩, fun hlt => absurd hlt (by decide)⟩
    exact ⟨_, (Option.some.inj hbody).symm⟩
  have hretry : (retriableFetchSDK getRequest : Async String).Runs
      [fetched captchaResponse,
        ⟨.retryCallback .RequiredCaptcha getRequest, (.ok getRequest : Except String SDKBaseRequestInfo)⟩,
        fetched okResponse] (.ok (.string "done")) := by
    refine runs_retriableFetchSDK.2 (.inr ⟨[fetched captchaResponse], .RequiredCaptcha,
      [fetched okResponse], .ok getRequest, ?_, rfl, runs_getRequest okResponse⟩)
    have hread : (readResponse captchaResponse : Except (Thrown String) Value) =
        .error (.retriable .RequiredCaptcha) := by
      rw [readResponse, if_neg (by decide), if_neg fun h => Bool.false_ne_true h.2]
      exact if_pos (includes_self _)
    exact hread ▸ runs_getRequest captchaResponse
  exact ⟨hclassified.2 hshape, _, ((@responses_classified_iff String getRequest).2 _ _ hretry).1⟩

/-- The operator `in` throws a `TypeError` for an error whose JSON body is `null`. -/
theorem null_error_not_classified :
    ¬ ∀ req init resp result, (baseFetchSDK req : Async String).Runs
        [⟨.fetch req.finalURL init, (.ok resp : Except String Response)⟩] result →
      Classified resp result := by
  intro hall
  have hread : (readResponse nullError : Except (Thrown String) Value) = .error .typeError := by
    rw [readResponse, if_neg (by decide), if_pos ⟨by decide, includes_self _⟩]
    rfl
  have hnull := hall getRequest _ nullError _ (runs_getRequest nullError)
  rw [hread] at hnull
  exact hnull

end

/-- A retried request differs in the two fields of its body only. -/
theorem retryWithCaptchaAndDFP_body {ε : Type} {enabled : Bool}
    {getTelemetryID executeRecaptcha : Except ε (Option String)} {type : RetriableErrorType}
    {req req' : SDKBaseRequestInfo}
    (h : retryWithCaptchaAndDFP enabled getTelemetryID executeRecaptcha type req = .ok req') :
    req' = { req with body := req'.body } ∧ ∀ k, k ≠ "dfp_telemetry_id" → k ≠ "captcha_token" →
      req'.body.bind (·.get k) = req.body.bind (·.get k) := by
  unfold retryWithCaptchaAndDFP at h
  split_ifs at h
  split at h
  · next hbody =>
    obtain rfl := Except.ok.inj h
    exact ⟨rfl, fun _ _ _ => rfl⟩
  · next body hbody =>
    split at h
    · obtain rfl := Except.ok.inj h
      refine ⟨rfl, fun k hdfp hcaptcha => ?_⟩
      rw [hbody, Option.bind_some, Option.bind_some, OrderedMap.get_set, if_neg hcaptcha,
        OrderedMap.get_set, if_neg hdfp]
    · cases h
    · cases h

end StytchBrowser.Core.Network
