import StytchBrowser.Core.SubscriptionService
import StytchBrowser.JsUtils.DeepEqual
import StytchBrowser.Web.CookieJar

/-!
# The web `SubscriptionService`

The store of `web/SubscriptionService.ts` in one tab: the state object in memory, and in the
browser the cookies that hold the tokens and the two items of `localStorage` that the store writes,
its state and the domains its cookies were seen under. `Browser.outbox` collects the values written
under the state key, which other tabs are told of.

`parseDate` is the value of `new Date(s)` in milliseconds, `none` when it is invalid. `now` is the
clock reading of a step. Notifications of subscribers are collected, newest first, in
`Tab.notified`.
-/

namespace StytchBrowser.Web

open StytchBrowser.Core (Notification SessionUpdateOptions AuthenticateResponse)

/-- `cookieOptions` of `StytchClientOptions`. -/
structure CookieOptions where
  opaqueTokenCookieName : Option String
  jwtCookieName : Option String
  istCookieName : Option String
  path : Option String
  domain : Option String
  availableToSubdomains : Bool

namespace CookieOptions

def opaqueTokenName (o : CookieOptions) : String :=
  (orNull o.opaqueTokenCookieName).getD "stytch_session"

def jwtName (o : CookieOptions) : String := (orNull o.jwtCookieName).getD "stytch_session_jwt"

def istName (o : CookieOptions) : String :=
  (orNull o.istCookieName).getD "stytch_intermediate_session_token"

end CookieOptions

/-- The text stored under the key of the seen domains. -/
inductive SeenText where
  | malformed
  | notArray
  | domains (ds : List String)

/-- The text stored under the state key. -/
inductive StateText where
  | malformed
  | json (state : Option JsonObject)

/-- What the tabs of a host share. -/
structure Browser where
  jar : Jar
  seenDomains : Option SeenText
  stateItem : Option StateText
  outbox : List (Option JsonObject)

/-- A tab: its `SubscriptionDataLayer` and its subscription service. -/
structure Tab where
  options : CookieOptions
  state : Option JsObject
  fromCache : Bool
  notified : List Notification

/-- `StateWithTokensDiff`. Opaque tokens are held in cookies that the page cannot read. -/
inductive StateWithTokensDiff where
  | loggedIn (state : JsObject) (sessionToken sessionJwt : String)
  | loggedInOpaque (state : JsObject)
  | loggedOut
  | intermediate (token : String)
  | intermediateOpaque

/-- A string argument that may be missing. -/
inductive MaybeString where
  | undefined
  | null
  | string (s : String)

/-- The text `js-cookie` writes for a value. -/
def MaybeString.text : MaybeString → String
  | .undefined => "undefined"
  | .null => "null"
  | .string s => s

/-- `typeof s === 'string'`. -/
def MaybeString.isString : MaybeString → Bool
  | .string _ => true
  | _ => false

/-! ## `SubscriptionDataLayer` -/

section DataLayer

variable (page : Page) (parseDate : String → Option ℤ)

/-- `generateCookieOpts`. -/
def generateCookieOpts (expires : Option ℤ) (availableToSubdomains : Bool)
    (path domain : Option String) : CookieAttributes where
  expires := expires
  path := path
  domain :=
    if isLocalhost page then none
    else if availableToSubdomains then some ((orNull domain).getD page.host) else none

/-- `getSeenDomains`. -/
def getSeenDomains (b : Browser) : List String :=
  match b.seenDomains with
  | some (.domains ds) => ds
  | _ => []

/-- `addSeenDomain`. -/
def addSeenDomain (domain : Option String) (b : Browser) : Browser :=
  match orNull domain with
  | none => b
  | some domain =>
      if domain ∈ getSeenDomains b then b
      else { b with seenDomains := some (.domains (getSeenDomains b ++ [domain])) }

/-- `readSessionCookie`. -/
def readSessionCookie (o : CookieOptions) (b : Browser) : Option String × Option String :=
  (Cookies.get page o.opaqueTokenName b.jar, Cookies.get page o.jwtName b.jar)

/-- `readIntermediateSessionTokenCookie`. -/
def readIntermediateSessionTokenCookie (o : CookieOptions) (b : Browser) : Option String :=
  Cookies.get page o.istName b.jar

/-- `Cookies.set` on the cookies of a browser. -/
def setCookie (now : ℤ) (name value : String) (attributes : CookieAttributes) (b : Browser) :
    Browser :=
  { b with jar := Cookies.set page now name value attributes b.jar }

/-- Remove the alternate cookie of a name when the page sees several. -/
def removeAlternate (name : String) (attributes : CookieAttributes) (b : Browser) : Browser :=
  if Cookies.hasMultipleCookies page name b.jar then
    { b with jar := Cookies.remove page name attributes b.jar }
  else b

/-- `writeSessionCookie`, with the values as `js-cookie` writes them. -/
def writeSessionCookie (now : ℤ) (o : CookieOptions) (state : Option JsObject)
    (sessionToken sessionJwt : String) (b : Browser) : Browser :=
  let expiresAt := (((sessionOf state).bind (·.field "expires_at")).bind Json.asString).getD ""
  let cookieOpts := generateCookieOpts page (parseDate expiresAt) o.availableToSubdomains
    (orNull o.path) (orNull o.domain)
  let alternateCookieOptions := generateCookieOpts page (parseDate expiresAt)
    (!o.availableToSubdomains) (orNull o.path) (orNull o.domain)
  b |> addSeenDomain cookieOpts.domain
    |> setCookie page now o.opaqueTokenName sessionToken cookieOpts
    |> setCookie page now o.jwtName sessionJwt cookieOpts
    |> addSeenDomain alternateCookieOptions.domain
    |> removeAlternate page o.jwtName alternateCookieOptions
    |> removeAlternate page o.opaqueTokenName alternateCookieOptions

/-- `writeIntermediateSessionTokenCookie`. The date of the expiry is in whole seconds. -/
def writeIntermediateSessionTokenCookie (now : ℤ) (o : CookieOptions) (token : String)
    (b : Browser) : Browser :=
  setCookie page now o.istName token
    (generateCookieOpts page (some ((now + 10 * 60000) / 1000 * 1000)) o.availableToSubdomains
      (orNull o.path) (orNull o.domain)) b

/-- The domains `removeCookies` tries. -/
def sweptDomains (o : CookieOptions) (b : Browser) : List (Option String) :=
  (orNull o.domain :: none :: (getSeenDomains b).map some).eraseDups

/-- The attributes `removeCookies` tries. -/
def sweep (o : CookieOptions) (b : Browser) : List CookieAttributes :=
  [true, false].flatMap fun availableToSubdomains =>
    [orNull o.path, none].flatMap fun path =>
      (sweptDomains o b).map fun domain =>
        generateCookieOpts page (some 0) availableToSubdomains path domain

/-- `removeCookies`. -/
def removeCookies (o : CookieOptions) (names : List String) (b : Browser) : Browser :=
  { b with jar := (sweep page o b).foldl (fun jar attributes =>
      names.foldl (fun jar name => Cookies.remove page name attributes jar) jar) b.jar }

/-- `removeSessionCookie`. -/
def removeSessionCookie (o : CookieOptions) (b : Browser) : Browser :=
  removeCookies page o [o.opaqueTokenName, o.jwtName] b

/-- `removeISTCookie`. -/
def removeISTCookie (o : CookieOptions) (b : Browser) : Browser := removeCookies page o [o.istName] b

/-- `syncToLocalStorage`. -/
def syncToLocalStorage (state : Option JsObject) (b : Browser) : Browser :=
  { b with
    stateItem := some (.json (state.map stringify))
    outbox := b.outbox ++ [state.map stringify] }

/-- The constructor of `SubscriptionDataLayer`, with the service on it still to be constructed. -/
def newDataLayer (o : CookieOptions) (b : Browser) : Browser × Tab :=
  match b.stateItem with
  | none => (b, ⟨o, none, true, []⟩)
  | some .malformed => (syncToLocalStorage none b, ⟨o, none, true, []⟩)
  | some (.json state) => (b, ⟨o, state.map parse, true, []⟩)

/-! ## `BaseSubscriptionService` -/

/-- `deepEqualData`. -/
def deepEqualData (s t : Option JsObject) : Bool := DeepEqual.deepEqualState ["last_accessed_at"] s t

/-- `_updateStateAndTokensInternal`, for the state of a diff. -/
def updateStateInternal (state : Option JsObject) (options : SessionUpdateOptions) (t : Tab) : Tab :=
  let newState := state.map (spread t.state)
  let duration := match options with
    | .fromCache => none
    | .fresh duration => if newState.isSome then duration else none
  { t with
    state := newState
    fromCache := false
    notified :=
      if t.fromCache || !deepEqualData t.state newState then ⟨newState, duration⟩ :: t.notified
      else t.notified }

/-- `stateDiff.state`. -/
def StateWithTokensDiff.state : StateWithTokensDiff → Option JsObject
  | .loggedIn state _ _ => some state
  | .loggedInOpaque state => some state
  | _ => none

/-- What `updateStateAndTokens` does to the cookies. -/
def updateCookies (now : ℤ) (o : CookieOptions) (diff : StateWithTokensDiff) (b : Browser) :
    Browser :=
  match diff with
  | .loggedIn state token jwt =>
      removeISTCookie page o (writeSessionCookie page parseDate now o (some state) token jwt b)
  | .loggedInOpaque _ => removeISTCookie page o (removeSessionCookie page o b)
  | .intermediate token =>
      if token ≠ "" then
        removeSessionCookie page o (writeIntermediateSessionTokenCookie page now o token b)
      else removeISTCookie page o (removeSessionCookie page o b)
  | .intermediateOpaque => removeSessionCookie page o (removeISTCookie page o b)
  | .loggedOut => removeISTCookie page o (removeSessionCookie page o b)

/-- `updateStateAndTokens`. -/
def updateStateAndTokens (now : ℤ) (diff : StateWithTokensDiff) (options : SessionUpdateOptions)
    (b : Browser) (t : Tab) : Browser × Tab :=
  let b := updateCookies page parseDate now t.options diff b
  let t := updateStateInternal diff.state options t
  (syncToLocalStorage t.state b, t)

/-- `updateState`. -/
def updateState (state : Option JsObject) (fromExternalSource : Bool) (b : Browser) (t : Tab) :
    Browser × Tab :=
  let newState := state.map (spread t.state)
  let hasStateChanged := !deepEqualData t.state newState
  let t' := { t with
    state := newState
    fromCache := false
    notified := if t.fromCache || hasStateChanged then ⟨newState, none⟩ :: t.notified
      else t.notified }
  (if hasStateChanged && !fromExternalSource then syncToLocalStorage newState b else b, t')

/-- `destroyState`. -/
def destroyState (now : ℤ) (b : Browser) (t : Tab) : Browser × Tab :=
  updateStateAndTokens page parseDate now .loggedOut (.fresh none) b t

/-- `destroySession`. -/
def destroySession (b : Browser) (t : Tab) : Browser × Tab :=
  updateState none false (removeSessionCookie page t.options b) t

/-- `updateTokens`. The diff has no state, so the cookies are written without a valid date. -/
def updateTokens (now : ℤ) (sessionToken sessionJwt : MaybeString) (b : Browser) (t : Tab) :
    Browser × Tab :=
  if sessionToken.isString || sessionJwt.isString then
    (removeISTCookie page t.options
      (writeSessionCookie page parseDate now t.options none sessionToken.text sessionJwt.text b), t)
  else (removeSessionCookie page t.options b, t)

/-- The entry points that write the store. -/
inductive Op where
  | updateStateAndTokens (now : ℤ) (diff : StateWithTokensDiff) (options : SessionUpdateOptions)
  | updateState (state : Option JsObject)
  | updateTokens (now : ℤ) (sessionToken sessionJwt : MaybeString)
  | destroyState (now : ℤ)
  | destroySession

/-- The browser and the tab after an entry point. -/
def Op.run (b : Browser) (t : Tab) : Op → Browser × Tab
  | .updateStateAndTokens now diff options =>
      Web.updateStateAndTokens page parseDate now diff options b t
  | .updateState state => Web.updateState state false b t
  | .updateTokens now token jwt => Web.updateTokens page parseDate now token jwt b t
  | .destroyState now => Web.destroyState page parseDate now b t
  | .destroySession => Web.destroySession page b t

/-- `_listen`, for an event on the state key with the value `newValue`. -/
def listen (newValue : Option JsonObject) (b : Browser) (t : Tab) : Browser × Tab :=
  updateState (newValue.map parse) true b t

/-- `new SubscriptionDataLayer` and the constructor of the service on it. -/
def construct (o : CookieOptions) (usingCustomApiEndpoint : Bool) (b : Browser) : Browser × Tab :=
  let (b, t) := newDataLayer o b
  if usingCustomApiEndpoint then (b, t)
  else if truthyString (readSessionCookie page o b).1 then (b, t)
  else destroySession page b t

/-- The diff an authenticate response carries. -/
def responseDiff : AuthenticateResponse → StateWithTokensDiff
  | .consumer session user token jwt =>
      let state := (OrderedMap.empty.set "session" session).set "user" user
      if truthyString token && truthyString jwt then .loggedIn state (token.getD "") (jwt.getD "")
      else .loggedInOpaque state
  | .b2b session member organization token jwt ist =>
      if session.any Json.truthy then
        let state := ((OrderedMap.empty.set "session" session).set "member" member).set
          "organization" organization
        if truthyString token && truthyString jwt then .loggedIn state (token.getD "") (jwt.getD "")
        else .loggedInOpaque state
      else if truthyString ist then .intermediate (ist.getD "") else .intermediateOpaque

/-- `updateSession`. -/
def updateSession (now : ℤ) (resp : AuthenticateResponse) (sessionDurationMinutes : Option ℕ)
    (b : Browser) (t : Tab) : Browser × Tab :=
  updateStateAndTokens page parseDate now (responseDiff resp) (.fresh sessionDurationMinutes) b t

end DataLayer

end StytchBrowser.Web
