import StytchBrowser.Core.DeviceStorage

/-!
# `session.authenticate` on one client

A client is a subscription service with the calls of `session.authenticate` made on it, by the
application or by the background refresh of the session manager. A call waits at three points: for
the response to its request, for the continuation of `withUpdateSession` that stores the response,
and, when a background refresh is rejected, for the handler of `performBackgroundRefresh`. Between
these points any other step can be taken, a login, an exchange or a revocation among them (`op`).
A step that reads the clock twice carries its first reading and the time until the second.

`idKey` is the field that holds the session id: `session_id`, or `member_session_id` for B2B.
-/

namespace StytchBrowser.Core

/-- `UNRECOVERABLE_ERROR_TYPES`. -/
def unrecoverableErrorTypes : List String :=
  ["unauthorized_credentials", "user_unauthenticated", "invalid_secret_authentication",
    "session_not_found"]

/-- `UNRECOVERABLE_ERROR_TYPES.includes(error.error_type)`. -/
def isUnrecoverableError (errorType : Option String) : Bool :=
  errorType.any unrecoverableErrorTypes.contains

namespace SessionClient

/-- `getSession()?.session_id`. -/
def heldId (idKey : String) (s : Service) : Option String :=
  ((sessionOf s.getState).bind (·.field idKey)).bind Json.asString

/-- Who called `authenticate`. -/
inductive Caller where
  | foreground
  | background

/-- How far a call of `authenticate` is. -/
inductive Phase where
  | sent
  /-- The response passed the staleness check; `withUpdateSession` has not stored it yet. -/
  | returned (resp : AuthenticateResponse)
  /-- The call was rejected; the handler of the background refresh has not run yet. -/
  | rejected
  | settled

/-- A call of `authenticate` with the session id that was held when its request was sent. -/
structure Call where
  caller : Caller
  sessionDurationMinutes : Option ℕ
  initialSession : Option String
  phase : Phase

structure Client where
  service : Service
  calls : List Call

/-- What can happen on a client. -/
inductive Action where
  | authenticate (caller : Caller) (sessionDurationMinutes : Option ℕ)
  | respond (i : ℕ) (resp : AuthenticateResponse)
  | fail (i : ℕ) (errorType : Option String) (now elapsed : ℕ)
  | updateSession (i : ℕ) (now : ℕ)
  | signalLogout (i : ℕ) (now elapsed : ℕ)
  | op (op : Op) (now elapsed : ℕ)

/-- The call whose step an action is. -/
def Action.call : Action → Option ℕ
  | .respond i _ => some i
  | .fail i _ _ _ => some i
  | .updateSession i _ => some i
  | .signalLogout i _ _ => some i
  | .authenticate _ _ => none
  | .op _ _ _ => none

/-- The first clock reading of an action. -/
def Action.clock : Action → ℕ
  | .fail _ _ now _ => now
  | .updateSession _ now => now
  | .signalLogout _ now _ => now
  | .op _ now _ => now
  | .authenticate _ _ => 0
  | .respond _ _ => 0

namespace Client

/-- A call after its unrecoverable error has been thrown on. -/
def afterDestroy : Caller → Phase
  | .foreground => .settled
  | .background => .rejected

/-- The clients on which a stale call sends its request again. -/
def resend (idKey : String) (c : Client) (i : ℕ) (call : Call) : Client :=
  { c with calls := c.calls.set i { call with initialSession := heldId idKey c.service } }

/-- One step of a client, `none` when the step is not possible. -/
def next (idKey : String) (c : Client) : Action → Option Client
  | .authenticate caller duration =>
      some { c with calls := c.calls ++ [⟨caller, duration, heldId idKey c.service, .sent⟩] }
  | .respond i resp =>
      match c.calls[i]? with
      | some ⟨caller, duration, initial, .sent⟩ =>
          if initial ≠ heldId idKey c.service then
            some (c.resend idKey i ⟨caller, duration, initial, .sent⟩)
          else some { c with calls := c.calls.set i ⟨caller, duration, initial, .returned resp⟩ }
      | _ => none
  | .fail i errorType now elapsed =>
      match c.calls[i]? with
      | some ⟨caller, duration, initial, .sent⟩ =>
          if initial ≠ heldId idKey c.service then
            some (c.resend idKey i ⟨caller, duration, initial, .sent⟩)
          else if isUnrecoverableError errorType then
            some ⟨(c.service.destroySession now (now + elapsed)).1,
              c.calls.set i ⟨caller, duration, initial, afterDestroy caller⟩⟩
          else some { c with calls := c.calls.set i ⟨caller, duration, initial, .settled⟩ }
      | _ => none
  | .updateSession i now =>
      match c.calls[i]? with
      | some ⟨caller, duration, initial, .returned resp⟩ =>
          some ⟨(c.service.updateSession now resp duration).1,
            c.calls.set i ⟨caller, duration, initial, .settled⟩⟩
      | _ => none
  | .signalLogout i now elapsed =>
      match c.calls[i]? with
      | some ⟨caller, duration, initial, .rejected⟩ =>
          some ⟨(c.service.destroySession now (now + elapsed)).1,
            c.calls.set i ⟨caller, duration, initial, .settled⟩⟩
      | _ => none
  | .op op now elapsed => some { c with service := c.service.run now (now + elapsed) op }

/-- The steps of a client as a relation. -/
inductive Step (idKey : String) (c : Client) : Action → Client → Prop where
  | authenticate {caller : Caller} {duration : Option ℕ} :
      Step idKey c (.authenticate caller duration)
        { c with calls := c.calls ++ [⟨caller, duration, heldId idKey c.service, .sent⟩] }
  | resend {i : ℕ} {call : Call} {a : Action} : a.call = some i → c.calls[i]? = some call →
      call.phase = .sent → call.initialSession ≠ heldId idKey c.service →
      Step idKey c a (c.resend idKey i call)
  | respond {i : ℕ} {call : Call} {resp : AuthenticateResponse} : c.calls[i]? = some call →
      call.initialSession = heldId idKey c.service →
      Step idKey c (.respond i resp)
        { c with calls := c.calls.set i { call with phase := .returned resp } }
  | destroy {i : ℕ} {call : Call} {errorType : Option String} {now elapsed : ℕ} :
      c.calls[i]? = some call → call.initialSession = heldId idKey c.service →
      Step idKey c (.fail i errorType now elapsed) ⟨(c.service.destroySession now (now + elapsed)).1,
        c.calls.set i { call with phase := afterDestroy call.caller }⟩
  | throw {i : ℕ} {call : Call} {errorType : Option String} {now elapsed : ℕ} :
      c.calls[i]? = some call →
      Step idKey c (.fail i errorType now elapsed)
        { c with calls := c.calls.set i { call with phase := .settled } }
  | updateSession {i : ℕ} {call : Call} {resp : AuthenticateResponse} {now : ℕ} :
      c.calls[i]? = some call → call.phase = .returned resp →
      Step idKey c (.updateSession i now)
        ⟨(c.service.updateSession now resp call.sessionDurationMinutes).1,
          c.calls.set i { call with phase := .settled }⟩
  | signalLogout {i : ℕ} {call : Call} {now elapsed : ℕ} : c.calls[i]? = some call →
      call.phase = .rejected →
      Step idKey c (.signalLogout i now elapsed) ⟨(c.service.destroySession now (now + elapsed)).1,
        c.calls.set i { call with phase := .settled }⟩
  | op {op : Op} {now elapsed : ℕ} :
      Step idKey c (.op op now elapsed) { c with service := c.service.run now (now + elapsed) op }

theorem step_of_next {idKey : String} {c c' : Client} {a : Action}
    (h : c.next idKey a = some c') : Step idKey c a c' := by
  cases a with
  | authenticate caller duration =>
    obtain rfl := Option.some.inj h
    exact .authenticate
  | respond i resp =>
    simp only [next] at h
    split at h
    · next hi =>
      split_ifs at h with hstale
      · obtain rfl := Option.some.inj h
        exact .resend rfl hi rfl hstale
      · obtain rfl := Option.some.inj h
        exact .respond hi (not_not.1 hstale)
    · cases h
  | fail i errorType now elapsed =>
    simp only [next] at h
    split at h
    · next hi =>
      split_ifs at h with hstale herr
      · obtain rfl := Option.some.inj h
        exact .resend rfl hi rfl hstale
      · obtain rfl := Option.some.inj h
        exact .destroy hi (not_not.1 hstale)
      · obtain rfl := Option.some.inj h
        exact .throw hi
    · cases h
  | updateSession i now =>
    simp only [next] at h
    split at h
    · next hi =>
      obtain rfl := Option.some.inj h
      exact .updateSession hi rfl
    · cases h
  | signalLogout i now elapsed =>
    simp only [next] at h
    split at h
    · next hi =>
      obtain rfl := Option.some.inj h
      exact .signalLogout hi rfl
    · cases h
  | op op now elapsed =>
    obtain rfl := Option.some.inj h
    exact .op

end Client

/-- The runs of a client from a new store. -/
def client (idKey : String) : Machine Client Action where
  init c := c = ⟨.initial, []⟩
  next := Client.next idKey

end SessionClient

end StytchBrowser.Core
