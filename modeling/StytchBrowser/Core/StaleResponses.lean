import StytchBrowser.Core.SessionClient

/-!
# Stale responses of `session.authenticate`

`_authenticate` compares session ids when a response or an error arrives, and sends the request again
when the session has changed. What it lets through is applied later: a response by the continuation
of `withUpdateSession`, an unrecoverable error a second time by the handler of the background
refresh, and neither looks at the session again. A stale call leaves the store alone over every run
in which nothing else changes the session, or stores one, while a call is between the two points.
-/

namespace StytchBrowser.Core

open Machine

namespace Service

/-- No state and no session tokens are stored. -/
structure Cleared (s : Service) : Prop where
  state : s.datalayer.state = none
  sessionToken : s.datalayer.sessionToken = none
  sessionJwt : s.datalayer.sessionJwt = none

/-- What a store gives its readers at `now`: the state, the session tokens and the intermediate
session token. -/
def stored (now : ℕ) (s : Service) :
    Option JsObject × Option String × Option String × Option String :=
  (s.datalayer.state, s.datalayer.sessionToken, s.datalayer.sessionJwt,
    s.getIntermediateSessionToken now)

/-- The intermediate session token is never the empty string. -/
def NonemptyIST (s : Service) : Prop := s.datalayer.intermediateSessionToken ≠ some ""

theorem nonemptyIST_updateStateAndTokens (now : ℕ) (diff : StateWithTokensDiff)
    (options : SessionUpdateOptions) (s : Service) :
    (s.updateStateAndTokens now diff options).1.NonemptyIST := by
  unfold NonemptyIST
  rw [datalayer_updateStateAndTokens, updatedDataLayer]
  cases diff.state with
  | some state => exact (Option.some_ne_none "").symm
  | none =>
    dsimp only
    split_ifs with ht
    · intro h
      rw [show diff.intermediateSessionToken = some "" from h] at ht
      exact absurd ht (by decide)
    · exact (Option.some_ne_none "").symm

theorem nonemptyIST_run (now now' : ℕ) (op : Op) {s : Service} (hs : s.NonemptyIST) :
    (s.run now now' op).NonemptyIST := by
  cases op with
  | updateStateAndTokens diff options => exact nonemptyIST_updateStateAndTokens _ _ _ _
  | updateState state => exact hs
  | updateTokens tokens => exact hs
  | destroyState => exact nonemptyIST_updateStateAndTokens _ _ _ _
  | destroySession => exact nonemptyIST_updateStateAndTokens _ _ _ _

theorem cleared_destroySession (now now' : ℕ) (s : Service) :
    (s.destroySession now now').1.Cleared := by
  unfold destroySession
  by_cases ht : truthyString (s.getIntermediateSessionToken now)
  · constructor <;> simp [updatedDataLayer, ht, DataLayer.removeSessionTokens]
  · constructor <;>
      simp [updatedDataLayer, ht, DataLayer.removeSessionTokens, DataLayer.removeIST]

/-- `destroySession` keeps the intermediate session token that its caller can read. -/
theorem getIntermediateSessionToken_destroySession {now now' : ℕ} (hle : now ≤ now') {s : Service}
    (hs : s.NonemptyIST) :
    (s.destroySession now now').1.getIntermediateSessionToken now =
      s.getIntermediateSessionToken now := by
  cases hist : s.getIntermediateSessionToken now with
  | none =>
    refine getIntermediateSessionToken_of_none ?_
    exact ist_updatedDataLayer_none now' (s.dropExpiredIST now).datalayer hist
  | some token =>
    have htoken : token ≠ "" := by
      rintro rfl
      exact hs (ist_of_getIntermediateSessionToken hist)
    obtain ⟨hkeep, hexp⟩ := destroySession_renews hist htoken now'
    have hnow : now ≤ now' + istValidity := by omega
    rw [getIntermediateSessionToken_of_le hexp hnow, hkeep]

/-- On a cleared store `destroySession` changes nothing that can be read. -/
theorem stored_destroySession {now now' : ℕ} (hle : now ≤ now') {s : Service} (hs : s.NonemptyIST)
    (hc : s.Cleared) : (s.destroySession now now').1.stored now = s.stored now := by
  have hd := cleared_destroySession now now' s
  unfold stored
  rw [getIntermediateSessionToken_destroySession hle hs, hd.state, hd.sessionToken, hd.sessionJwt,
    hc.state, hc.sessionToken, hc.sessionJwt]

end Service

namespace SessionClient

/-- What a call relies on between its staleness check and the step that applies its result. -/
def Call.Current (idKey : String) (s : Service) (call : Call) : Prop :=
  match call.phase with
  | .returned _ => call.initialSession = heldId idKey s
  | .rejected => s.Cleared
  | _ => True

/-- A step from `s` to `s'` leaves the session held where the result of `call` is about to be
applied: it keeps the session id while a response waits to be stored, and stores neither a state nor
session tokens while the handler of a rejected refresh waits to run. -/
def Call.Undisturbed (idKey : String) (s s' : Service) (call : Call) : Prop :=
  match call.phase with
  | .returned _ => heldId idKey s' = heldId idKey s
  | .rejected => s'.Cleared
  | _ => True

/-- No step disturbs another call. -/
def undisturbed (idKey : String) : Guard Client Action := fun _ c a =>
  ∀ c', c.next idKey a = some c' → ∀ (i : ℕ) (call : Call), c.calls[i]? = some call →
    a.call ≠ some i → call.Undisturbed idKey c.service c'.service

variable {idKey : String}

theorem undisturbed_of_nil {h : List Action} {c : Client} {a : Action} (hc : c.calls = []) :
    undisturbed idKey h c a := by
  intro c' _ i call hi
  rw [hc] at hi
  cases hi

theorem undisturbed_of_one {h : List Action} {c : Client} {a : Action} {call : Call}
    (hc : c.calls = [call]) (ha : a.call = some 0) : undisturbed idKey h c a := by
  intro c' _ i other hi hne
  rw [hc] at hi
  cases i with
  | zero => exact absurd ha hne
  | succ i => cases hi

theorem Call.Current.of_undisturbed {s s' : Service} {call : Call} (hc : call.Current idKey s)
    (hu : call.Undisturbed idKey s s') : call.Current idKey s' := by
  unfold Call.Current Call.Undisturbed at *
  cases hp : call.phase with
  | returned resp =>
    rw [hp] at hc hu
    exact hc.trans hu.symm
  | rejected =>
    rw [hp] at hu
    exact hu
  | sent => trivial
  | settled => trivial

theorem Call.current_afterDestroy (call : Call) (now now' : ℕ) (s : Service) :
    ({ call with phase := Client.afterDestroy call.caller } : Call).Current idKey
      (s.destroySession now now').1 := by
  unfold Call.Current
  cases call.caller with
  | foreground => trivial
  | background => exact Service.cleared_destroySession now now' s

/-- Every call may rely on what it checked. -/
structure Client.Current (idKey : String) (c : Client) : Prop where
  ist : c.service.NonemptyIST
  calls : ∀ (i : ℕ) (call : Call), c.calls[i]? = some call → call.Current idKey c.service

/-- A step of the call `i` keeps every call current when it does not disturb the others. -/
theorem Client.Current.set {c : Client} (hc : c.Current idKey) {i : ℕ} {call : Call} {s : Service}
    (hist : s.NonemptyIST) (hcall : call.Current idKey s)
    (hu : ∀ (j : ℕ) (other : Call), c.calls[j]? = some other → some i ≠ some j →
      other.Undisturbed idKey c.service s) :
    Client.Current idKey ⟨s, c.calls.set i call⟩ := by
  refine ⟨hist, fun j other hj => ?_⟩
  rcases Slots.of_set hj with ⟨-, rfl⟩ | ⟨hij, hj⟩
  · exact hcall
  · exact (hc.calls j other hj).of_undisturbed (hu j other hj (by simpa using hij))

theorem Client.Current.step {h : List Action} {c c' : Client} {a : Action}
    (hc : c.Current idKey) (hg : undisturbed idKey h c a) (hn : c.next idKey a = some c') :
    c'.Current idKey := by
  have hu := hg c' hn
  cases Client.step_of_next hn with
  | authenticate => exact ⟨hc.ist, Slots.forall_concat hc.calls (by trivial)⟩
  | @resend i call _ _ _ hp =>
    refine ⟨hc.ist, Slots.forall_set hc.calls ?_⟩
    unfold Call.Current
    rw [hp]
    trivial
  | respond _ hid =>
    refine ⟨hc.ist, Slots.forall_set hc.calls ?_⟩
    exact hid
  | @destroy i call _ now elapsed _ _ =>
    exact hc.set (Service.nonemptyIST_updateStateAndTokens _ _ _ _)
      (call.current_afterDestroy now (now + elapsed) c.service) hu
  | throw _ => exact ⟨hc.ist, Slots.forall_set hc.calls (by trivial)⟩
  | updateSession _ _ =>
    exact hc.set (Service.nonemptyIST_updateStateAndTokens _ _ _ _) (by trivial) hu
  | signalLogout _ _ =>
    exact hc.set (Service.nonemptyIST_updateStateAndTokens _ _ _ _) (by trivial) hu
  | @op op now elapsed =>
    refine ⟨Service.nonemptyIST_run now (now + elapsed) op hc.ist, fun j other hj => ?_⟩
    exact (hc.calls j other hj).of_undisturbed (hu j other hj nofun)

theorem current {h : List Action} {c : Client} (hr : Reach (client idKey) (undisturbed idKey) h c) :
    c.Current idKey := by
  refine hr.invariant (I := fun _ c => c.Current idKey) ?_ ?_
  · rintro _ rfl
    exact ⟨nofun, fun i call hi => nomatch hi⟩
  · exact fun _ _ _ _ hc hg hn => hc.step hg hn

/-- A step of a stale call changes nothing in the store that can be read. -/
theorem stored_of_stale {c c' : Client} {a : Action} (hc : c.Current idKey) {i : ℕ} {call : Call}
    (ha : a.call = some i) (hcall : c.calls[i]? = some call)
    (hstale : call.initialSession ≠ heldId idKey c.service) (hn : c.next idKey a = some c') :
    c'.service.stored a.clock = c.service.stored a.clock := by
  have hsame : ∀ {j : ℕ} {other : Call}, some j = some i → c.calls[j]? = some other →
      other = call := by
    intro j other hj hother
    rw [Option.some.inj hj, hcall] at hother
    exact (Option.some.inj hother).symm
  cases Client.step_of_next hn with
  | authenticate => cases ha
  | resend _ _ _ _ => rfl
  | respond _ _ => rfl
  | destroy hi hid =>
    obtain rfl := hsame ha hi
    exact absurd hid hstale
  | throw _ => rfl
  | @updateSession j other resp now hi hp =>
    obtain rfl := hsame ha hi
    have hcur := hc.calls j _ hi
    unfold Call.Current at hcur
    rw [hp] at hcur
    exact absurd hcur hstale
  | @signalLogout j other now elapsed hi hp =>
    obtain rfl := hsame ha hi
    have hcur := hc.calls j _ hi
    unfold Call.Current at hcur
    rw [hp] at hcur
    exact Service.stored_destroySession (Nat.le_add_right now elapsed) hc.ist hcur
  | op => cases ha

/-- Over every undisturbed run, a step of a call of `authenticate` changes what is stored only while
the store holds the session that the request of the call was sent for. -/
theorem stale_authenticate_keeps_store {h : List Action} {c c' : Client} {a : Action} {i : ℕ}
    {call : Call} (hr : Reach (client idKey) (undisturbed idKey) h c)
    (hcall : c.calls[i]? = some call) (hn : c.next idKey a = some c') (ha : a.call = some i)
    (hchange : c'.service.stored a.clock ≠ c.service.stored a.clock) :
    heldId idKey c.service = call.initialSession := by
  by_contra hstale
  exact hchange (stored_of_stale (current hr) ha hcall (Ne.symm hstale) hn)

/-- A login to the session `id`. -/
def loginTo (id : String) : Op :=
  .updateStateAndTokens ⟨some (.set .empty "session" (some (.obj [("session_id", .str id)]))),
    some id, some id, none⟩ (.fresh none)

/-- The response to `authenticate` that renews the tokens of the session `id`. -/
def renewed (id token : String) : AuthenticateResponse :=
  .consumer (some (.obj [("session_id", .str id)])) none (some token) (some token)

/-- The tokens of the session `s1` are renewed while it is held. -/
theorem stale_authenticate_keeps_store_renewal :
    ∃ h c c' call, Reach (client "session_id") (undisturbed "session_id") h c ∧
      c.calls[0]? = some call ∧ c.next "session_id" (.updateSession 0 5) = some c' ∧
      c'.service.stored 5 ≠ c.service.stored 5 ∧
      heldId "session_id" c.service = call.initialSession := by
  obtain ⟨c, c', call, hr, hcall, hn, ht, ht'⟩ : ∃ c c' call,
      Reach (client "session_id") (undisturbed "session_id")
        [.respond 0 (renewed "s1" "t1"), .authenticate .foreground none, .op (loginTo "s1") 0 0] c ∧
      c.calls[0]? = some call ∧ c.next "session_id" (.updateSession 0 5) = some c' ∧
      c.service.datalayer.sessionToken = some "s1" ∧
      c'.service.datalayer.sessionToken = some "t1" :=
    ⟨_, _, _, .step (.step (.step (.start rfl) (undisturbed_of_nil rfl) rfl)
      (undisturbed_of_nil rfl) rfl) (undisturbed_of_one rfl rfl) rfl, rfl, rfl, rfl, rfl⟩
  have hchange : c'.service.stored 5 ≠ c.service.stored 5 := by
    intro h
    have htoken : some "t1" = some "s1" := ht'.symm.trans ((congrArg (fun x => x.2.1) h).trans ht)
    exact absurd htoken (by decide)
  exact ⟨_, c, c', call, hr, hcall, hn, hchange,
    stale_authenticate_keeps_store hr hcall hn rfl hchange⟩

/-- A login to the session `s2` between the staleness check of a response and its storing is
overwritten by the response for the session `s1`. -/
theorem stale_response_overwrites_login :
    ∃ h c c' call, Reach (client "session_id") anyStep h c ∧ c.calls[0]? = some call ∧
      c.next "session_id" (.updateSession 0 5) = some c' ∧ call.initialSession = some "s1" ∧
      heldId "session_id" c.service = some "s2" ∧ heldId "session_id" c'.service = some "s1" ∧
      c'.service.getTokens = some ⟨"t1", "t1"⟩ := by
  have hr : Reach (client "session_id") anyStep
      [.op (loginTo "s2") 4 0, .respond 0 (renewed "s1" "t1"), .authenticate .foreground none,
        .op (loginTo "s1") 0 0] _ :=
    reach_of_exec rfl rfl
  exact ⟨_, _, _, _, hr, rfl, rfl, by decide, by decide, by decide, by decide⟩

end SessionClient

end StytchBrowser.Core
