import StytchBrowser.JsUtils.Json

/-!
# The core `SubscriptionService`

The store of `core/SubscriptionService.ts`: the state object, the session tokens and the
intermediate session token of one client, and the operations on them. Each operation returns the
store after it and the value its subscribers are notified with; what `syncToLocalStorage` then
hands to the device storage is `DataLayer.persisted` of the store it returns.

Clock readings (`Date.now()`, in milliseconds) are arguments, one for each reading the code takes.
`Date.parse` is a parameter, `none` standing for `NaN`.
-/

namespace StytchBrowser

/-- `state?.session`. -/
def sessionOf (state : Option JsObject) : Option Json := fieldOf state "session"

/-- `shouldTryRefresh`. -/
def shouldTryRefresh (state : Option JsObject) : Bool := (sessionOf state).any Json.truthy

/-- A string that JavaScript takes for true. -/
def truthyString (s : Option String) : Bool := s.any (· ≠ "")

namespace Core

/-- The fields of `SubscriptionDataLayer`. -/
structure DataLayer where
  state : Option JsObject
  sessionToken : Option String
  sessionJwt : Option String
  intermediateSessionToken : Option String
  intermediateSessionTokenExpiration : Option ℕ

/-- What is persisted under the state key. -/
structure PersistedRecord where
  state : Option JsonObject
  sessionToken : Option String
  sessionJwt : Option String
  intermediateSessionToken : Option String

/-- The text stored under the state key: a record, or text that `JSON.parse` rejects. -/
inductive StoredText where
  | malformed
  | record (r : PersistedRecord)

/-- `StateWithTokensDiff`. -/
structure StateWithTokensDiff where
  state : Option JsObject
  sessionToken : Option String
  sessionJwt : Option String
  intermediateSessionToken : Option String

/-- `InternalSessionUpdateOptions`. -/
inductive SessionUpdateOptions where
  | fromCache
  | fresh (sessionDurationMinutes : Option ℕ)

/-- What the subscribers are called with. -/
structure Notification where
  state : Option JsObject
  sessionDurationMinutes : Option ℕ

/-- `SessionTokens`. -/
structure SessionTokens where
  sessionToken : String
  sessionJwt : String
  deriving DecidableEq

/-- `SessionTokensUpdate`. -/
structure SessionTokensUpdate where
  sessionToken : String
  sessionJwt : Option String

/-- `SubscriptionService`. -/
structure Service where
  datalayer : DataLayer
  fromCache : Bool

namespace DataLayer

/-- The constructor of `SubscriptionDataLayer`. -/
def initial : DataLayer := ⟨none, none, none, none, none⟩

/-- The record `syncToLocalStorage` writes. -/
def persisted (d : DataLayer) : PersistedRecord :=
  ⟨d.state.map stringify, d.sessionToken, d.sessionJwt, d.intermediateSessionToken⟩

/-- `removeIST`. -/
def removeIST (d : DataLayer) : DataLayer :=
  { d with intermediateSessionToken := none, intermediateSessionTokenExpiration := none }

/-- `removeSessionTokens`. -/
def removeSessionTokens (d : DataLayer) : DataLayer :=
  { d with sessionJwt := none, sessionToken := none }

/-- The assignments of `syncFromLocalStorage`. -/
def assign (d : DataLayer) (r : PersistedRecord) : DataLayer :=
  { d with
    state := r.state.map parse
    sessionToken := r.sessionToken
    sessionJwt := r.sessionJwt
    intermediateSessionToken := r.intermediateSessionToken }

end DataLayer

/-- What `syncFromLocalStorage` resolves with after reading a record. -/
def PersistedRecord.diff (r : PersistedRecord) : StateWithTokensDiff :=
  ⟨r.state.map parse, r.sessionToken, r.sessionJwt, r.intermediateSessionToken⟩

/-- The validity period of an intermediate session token, `10 * 60 * 1000`. -/
def istValidity : ℕ := 10 * 60 * 1000

namespace Service

/-- The constructor of `SubscriptionService`: the data layer is new, so there is no session whose
expiry it could find. -/
def initial : Service := ⟨.initial, true⟩

/-- `getState`. -/
def getState (s : Service) : Option JsObject := s.datalayer.state

/-- `getTokens`. -/
def getTokens (s : Service) : Option SessionTokens :=
  match s.datalayer.sessionToken, s.datalayer.sessionJwt with
  | some token, some jwt => some ⟨token, jwt⟩
  | _, _ => none

/-- The guard of `getIntermediateSessionToken`: an expiration that is set and has passed. -/
def istExpired (now : ℕ) (s : Service) : Bool :=
  s.datalayer.intermediateSessionTokenExpiration.any fun e => e ≠ 0 ∧ e < now

/-- The store after `getIntermediateSessionToken`, which removes an expired token. -/
def dropExpiredIST (now : ℕ) (s : Service) : Service :=
  if s.istExpired now then { s with datalayer := s.datalayer.removeIST } else s

/-- `getIntermediateSessionToken`. -/
def getIntermediateSessionToken (now : ℕ) (s : Service) : Option String :=
  (s.dropExpiredIST now).datalayer.intermediateSessionToken

/-- `setCacheRefreshed`. -/
def setCacheRefreshed (s : Service) : Service := { s with fromCache := false }

/-- The data layer after `_updateStateAndTokensInternal`. -/
def updatedDataLayer (now : ℕ) (diff : StateWithTokensDiff) (d : DataLayer) : DataLayer :=
  match diff.state with
  | some state =>
      { d with
        state := some (spread d.state state)
        sessionToken := diff.sessionToken
        sessionJwt := diff.sessionJwt }.removeIST
  | none =>
      if truthyString diff.intermediateSessionToken then
        { d.removeSessionTokens with
          state := none
          intermediateSessionToken := diff.intermediateSessionToken
          intermediateSessionTokenExpiration := some (now + istValidity) }
      else { d.removeSessionTokens.removeIST with state := none }

/-- `_updateStateAndTokensInternal`. -/
def updateStateAndTokensInternal (now : ℕ) (diff : StateWithTokensDiff)
    (options : SessionUpdateOptions) (s : Service) : Service × Notification :=
  let datalayer := updatedDataLayer now diff s.datalayer
  match options with
  | .fromCache => ({ s with datalayer := datalayer }, ⟨datalayer.state, none⟩)
  | .fresh duration =>
      (setCacheRefreshed { s with datalayer := datalayer },
        ⟨datalayer.state, if datalayer.state.isSome then duration else none⟩)

/-- `updateStateAndTokens`. -/
def updateStateAndTokens (now : ℕ) (diff : StateWithTokensDiff) (options : SessionUpdateOptions)
    (s : Service) : Service × Notification :=
  updateStateAndTokensInternal now diff options s

/-- `destroyState`. -/
def destroyState (now : ℕ) (s : Service) : Service × Notification :=
  s.updateStateAndTokens now ⟨none, none, none, none⟩ (.fresh none)

/-- `destroySession`, which reads the clock to get the intermediate session token and again to
store it. -/
def destroySession (now now' : ℕ) (s : Service) : Service × Notification :=
  (s.dropExpiredIST now).updateStateAndTokens now'
    ⟨none, none, none, s.getIntermediateSessionToken now⟩ (.fresh none)

@[simp] theorem datalayer_updateStateAndTokens (now : ℕ) (diff : StateWithTokensDiff)
    (options : SessionUpdateOptions) (s : Service) :
    (s.updateStateAndTokens now diff options).1.datalayer =
      updatedDataLayer now diff s.datalayer := by
  cases options <;> rfl

@[simp] theorem datalayer_destroyState (now : ℕ) (s : Service) :
    (s.destroyState now).1.datalayer =
      updatedDataLayer now ⟨none, none, none, none⟩ s.datalayer := rfl

/-- `updateState`. -/
def updateState (state : Option JsObject) (s : Service) : Service × Notification :=
  let newState := state.map (spread s.datalayer.state)
  (setCacheRefreshed { s with datalayer := { s.datalayer with state := newState } }, ⟨newState, none⟩)

/-- `updateTokens`. -/
def updateTokens (tokens : SessionTokensUpdate) (s : Service) : Service :=
  { s with datalayer :=
    { s.datalayer with sessionToken := some tokens.sessionToken, sessionJwt := tokens.sessionJwt } }

/-! ## `updateSession` -/

end Service

/-- What `updateSession` reads of an authenticate response, consumer or B2B. -/
inductive AuthenticateResponse where
  | consumer (session user : Option Json) (sessionToken sessionJwt : Option String)
  | b2b (memberSession member organization : Option Json)
      (sessionToken sessionJwt intermediateSessionToken : Option String)

/-- The state and tokens an authenticate response carries. A B2B response without a member session
carries an intermediate session token. -/
def AuthenticateResponse.diff : AuthenticateResponse → StateWithTokensDiff
  | .consumer session user token jwt =>
      ⟨some ((OrderedMap.empty.set "session" session).set "user" user), token, jwt, none⟩
  | .b2b session member organization token jwt ist =>
      if session.any Json.truthy then
        ⟨some (((OrderedMap.empty.set "session" session).set "member" member).set
          "organization" organization), token, jwt, none⟩
      else ⟨none, none, none, ist⟩

namespace Service

/-- `updateSession`, which `withUpdateSession` calls once the wrapped call has resolved. -/
def updateSession (now : ℕ) (resp : AuthenticateResponse) (sessionDurationMinutes : Option ℕ)
    (s : Service) : Service × Notification :=
  s.updateStateAndTokens now resp.diff (.fresh sessionDurationMinutes)

/-! ## Reading the device storage -/

/-- `Date.parse(session.expires_at) < Date.now()`, for a session that is there. -/
def sessionExpired (parseDate : String → Option ℤ) (now : ℕ) (state : Option JsObject) : Bool :=
  match sessionOf state with
  | some session =>
      session.truthy &&
        (((session.field "expires_at").bind Json.asString).bind parseDate).any fun t : ℤ => t < now
  | none => false

/-- The first continuation of `syncFromDeviceStorage`: `syncFromLocalStorage` assigns the fields of
the record it read and resolves with them. Empty storage, a failed read and malformed text resolve
with `null`. -/
def syncFromLocalStorage (read : Option StoredText) (s : Service) :
    Service × Option StateWithTokensDiff :=
  match read with
  | some (.record r) => ({ s with datalayer := s.datalayer.assign r }, some r.diff)
  | some .malformed => (s, none)
  | none => (s, none)

/-- The second continuation of `syncFromDeviceStorage`, with the store and whether it wrote to the
device storage. -/
def applySync (parseDate : String → Option ℤ) (now now' : ℕ) (res : Option StateWithTokensDiff)
    (s : Service) : Service × Bool :=
  match res with
  | none => (s.setCacheRefreshed, false)
  | some res =>
      if sessionExpired parseDate now res.state then ((s.destroyState now').1, true)
      else
        ((s.updateStateAndTokens now' res
          (if shouldTryRefresh res.state then .fromCache else .fresh none)).1, true)

/-- A sync writes to the storage just when it has a record to apply. -/
theorem applySync_wrote (parseDate : String → Option ℤ) (now now' : ℕ)
    (res : Option StateWithTokensDiff) (s : Service) :
    (s.applySync parseDate now now' res).2 = res.isSome := by
  cases res with
  | none => rfl
  | some res =>
    unfold applySync
    dsimp only
    split_ifs <;> rfl

theorem datalayer_applySync (parseDate : String → Option ℤ) (now now' : ℕ)
    (res : StateWithTokensDiff) (s : Service) :
    (s.applySync parseDate now now' (some res)).1.datalayer =
      updatedDataLayer now'
        (if sessionExpired parseDate now res.state then ⟨none, none, none, none⟩ else res)
        s.datalayer := by
  unfold applySync
  by_cases hexp : sessionExpired parseDate now res.state
  · simp [hexp]
  · simp [hexp]

/-! ## The intermediate session token after an operation -/

/-- The token and the expiration after `_updateStateAndTokensInternal`. -/
theorem ist_updatedDataLayer (now : ℕ) (diff : StateWithTokensDiff) (d : DataLayer) :
    (diff.state = none ∧ ∃ token, diff.intermediateSessionToken = some token ∧
        (updatedDataLayer now diff d).intermediateSessionToken = some token ∧
        (updatedDataLayer now diff d).intermediateSessionTokenExpiration =
          some (now + istValidity)) ∨
      (updatedDataLayer now diff d).intermediateSessionToken = none := by
  unfold updatedDataLayer
  cases hs : diff.state with
  | some state => exact .inr rfl
  | none =>
    cases hist : diff.intermediateSessionToken with
    | none => exact .inr rfl
    | some token =>
      by_cases ht : truthyString (some token)
      · exact .inl ⟨rfl, token, rfl, by simp [ht], by simp [ht]⟩
      · exact .inr (by simp [ht, DataLayer.removeIST])

theorem ist_updatedDataLayer_none (now : ℕ) {diff : StateWithTokensDiff} (d : DataLayer)
    (hdiff : diff.intermediateSessionToken = none) :
    (updatedDataLayer now diff d).intermediateSessionToken = none := by
  rcases ist_updatedDataLayer now diff d with ⟨-, token, htoken, -⟩ | h
  · rw [hdiff] at htoken
    cases htoken
  · exact h

theorem ist_dropExpiredIST (now : ℕ) (s : Service) :
    (s.dropExpiredIST now).datalayer.intermediateSessionToken = none ∨
      s.dropExpiredIST now = s := by
  unfold dropExpiredIST
  split_ifs
  · exact .inl rfl
  · exact .inr rfl

theorem le_of_getIntermediateSessionToken {now e : ℕ} {token : String} {s : Service}
    (hget : s.getIntermediateSessionToken now = some token)
    (he : s.datalayer.intermediateSessionTokenExpiration = some e) (hpos : 0 < e) : now ≤ e := by
  by_contra hlt
  have hexp : s.istExpired now = true := by
    simp only [istExpired, he, Option.any_some, decide_eq_true_eq]
    omega
  rw [getIntermediateSessionToken, dropExpiredIST, if_pos hexp] at hget
  cases hget

theorem ist_of_getIntermediateSessionToken {now : ℕ} {token : String} {s : Service}
    (hget : s.getIntermediateSessionToken now = some token) :
    s.datalayer.intermediateSessionToken = some token := by
  rcases ist_dropExpiredIST now s with h | h
  · rw [getIntermediateSessionToken, h] at hget
    cases hget
  · rwa [getIntermediateSessionToken, h] at hget

theorem getIntermediateSessionToken_of_none {now : ℕ} {s : Service}
    (hs : s.datalayer.intermediateSessionToken = none) :
    s.getIntermediateSessionToken now = none := by
  rcases ist_dropExpiredIST now s with h | h
  · exact h
  · rw [getIntermediateSessionToken, h, hs]

theorem getIntermediateSessionToken_of_le {now e : ℕ} {s : Service}
    (he : s.datalayer.intermediateSessionTokenExpiration = some e) (hle : now ≤ e) :
    s.getIntermediateSessionToken now = s.datalayer.intermediateSessionToken := by
  have hexp : ¬ s.istExpired now = true := by
    simp only [istExpired, he, Option.any_some, decide_eq_true_eq]
    omega
  rw [getIntermediateSessionToken, dropExpiredIST, if_neg hexp]

/-- `destroySession` starts a new period for the token it keeps. -/
theorem destroySession_renews {now : ℕ} {token : String} {s : Service}
    (hget : s.getIntermediateSessionToken now = some token) (htoken : token ≠ "") (now' : ℕ) :
    (s.destroySession now now').1.datalayer.intermediateSessionToken = some token ∧
      (s.destroySession now now').1.datalayer.intermediateSessionTokenExpiration =
        some (now' + istValidity) := by
  simp [destroySession, updatedDataLayer, hget, truthyString, htoken]

/-- Applying a record that holds a token starts a new period for it. -/
theorem applySync_renews (parseDate : String → Option ℤ) (now now' : ℕ) {token : String}
    {res : StateWithTokensDiff} (hstate : res.state = none)
    (hres : res.intermediateSessionToken = some token) (htoken : token ≠ "") (s : Service) :
    (s.applySync parseDate now now' (some res)).1.datalayer.intermediateSessionToken = some token ∧
      (s.applySync parseDate now now' (some res)).1.datalayer.intermediateSessionTokenExpiration =
        some (now' + istValidity) := by
  have hexp : sessionExpired parseDate now res.state = false := by
    rw [hstate]
    rfl
  rw [datalayer_applySync, hexp]
  simp [updatedDataLayer, hstate, hres, truthyString, htoken]

end Service

end Core

end StytchBrowser
