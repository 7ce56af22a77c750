import StytchBrowser.Core.RecordClients
import StytchBrowser.Web.SubscriptionService

/-!
# Responses that arrive after logout

`updateState` spreads the record of a response over the state that the store holds when the response
arrives, and over an empty object when it holds none. So a user, a member or an organization that is
fetched before a logout comes back after it. Nothing comes back over the runs in which the responses
that store a record without looking at the store arrive while it holds a state.
-/

namespace StytchBrowser.Web

open StytchBrowser.Core StytchBrowser.Core.RecordClients

/-- The subscription service of a tab as a store. -/
def webStore (page : Page) (parseDate : String → Option ℤ) : Store (Browser × Tab) ℤ where
  state s := s.2.state
  updateState o s := updateState (some o) false s.1 s.2
  updateSession now resp duration s := updateSession page parseDate now resp duration s.1 s.2
  destroyState now s := destroyState page parseDate now s.1 s.2
  destroySession _ s := destroySession page s.1 s.2
  state_updateState _ _ := rfl
  state_updateSession now resp duration s := by
    change (responseDiff resp).state.map (spread s.2.state) = resp.diff.state.map (spread s.2.state)
    congr 1
    cases resp with
    | consumer session user token jwt =>
      simp only [responseDiff, AuthenticateResponse.diff]
      split_ifs <;> rfl
    | b2b session member organization token jwt ist =>
      simp only [responseDiff, AuthenticateResponse.diff]
      split_ifs <;> rfl
  state_destroyState _ _ := rfl
  state_destroySession _ _ := rfl

end StytchBrowser.Web

namespace StytchBrowser.Core.RecordClients

open Machine

section Logout

variable {σ τ : Type} (S : Store σ τ)

/-- Whether the response to a method destroys the state. -/
def destroysOnResponse (state : Option JsObject) (method : Method) : Response → Bool
  | .success _ _ =>
      match method.effect with
      | .destroyState => true
      | .destroyStateIfSelf memberId => some memberId = heldMemberId state
      | _ => false
  | .error errorType => method.destroysOnError errorType

/-- A step destroys the state: `destroyState` or `destroySession`, or a response that calls it. -/
def logsOut (c : Client σ) : Action τ → Prop
  | .respond i resp _ =>
      ∃ method, c.requests[i]? = some (some method) ∧
        destroysOnResponse (S.state c.store) method resp = true
  | .destroyState _ => True
  | .destroySession _ => True
  | _ => False

/-- A step stores the state of an authenticate response. -/
def logsIn (_ : Client σ) : Action τ → Prop
  | .updateSession resp _ _ => resp.diff.state ≠ none
  | _ => False

/-- A successful response whose record is stored without looking at the store arrives while the
store holds a state. -/
def current : Guard (Client σ) (Action τ) := fun _ c a =>
  match a with
  | .respond i (.success _ _) _ =>
      match c.requests[i]? with
      | some (some method) => method.effect.isUnchecked = true → S.state c.store ≠ none
      | _ => True
  | _ => True

variable {S}

theorem state_of_logsOut {c c' : Client σ} {a : Action τ} (hn : c.next S a = some c')
    (hout : logsOut S c a) : S.state c'.store = none := by
  cases a with
  | send method => cases hout
  | respond i resp now =>
    obtain ⟨method, hi, hdestroys⟩ := hout
    simp only [Client.next, hi, Option.some.injEq] at hn
    obtain rfl := hn
    cases resp with
    | error errorType =>
      rw [destroysOnResponse] at hdestroys
      simp only [Method.settle, hdestroys, if_true]
      exact S.state_destroyState now c.store
    | success j memberId =>
      simp only [destroysOnResponse] at hdestroys
      simp only [Method.settle]
      split at hdestroys
      · next he =>
        rw [he]
        exact S.state_destroyState now c.store
      · next he =>
        rw [he, Effect.run, if_pos (by simpa using hdestroys)]
        exact S.state_destroyState now c.store
      · cases hdestroys
  | updateSession resp duration now => cases hout
  | destroyState now =>
    obtain rfl := Option.some.inj hn
    exact S.state_destroyState now c.store
  | destroySession now =>
    obtain rfl := Option.some.inj hn
    exact S.state_destroySession now c.store

/-- A step that is no login keeps the store without a state. -/
theorem state_of_not_logsIn {h : List (Action τ)} {c c' : Client σ} {a : Action τ}
    (hs : S.state c.store = none) (hc : current S h c a) (hn : c.next S a = some c')
    (hin : ¬ logsIn c a) : S.state c'.store = none := by
  cases a with
  | send method =>
    obtain rfl := Option.some.inj hn
    exact hs
  | respond i resp now =>
    simp only [Client.next] at hn
    split at hn
    · next method hi =>
      obtain rfl := Option.some.inj hn
      refine (state_settle_of_none method now hs resp).2 ?_
      rintro j memberId rfl
      simp only [current, hi] at hc
      by_contra hunchecked
      exact hc (eq_true_of_ne_false hunchecked) hs
    · cases hn
  | updateSession resp duration now =>
    obtain rfl := Option.some.inj hn
    have hnone : resp.diff.state = none := not_not.1 hin
    rw [S.state_updateSession, hnone, Option.map_none]
  | destroyState now =>
    obtain rfl := Option.some.inj hn
    exact S.state_destroyState now c.store
  | destroySession now =>
    obtain rfl := Option.some.inj hn
    exact S.state_destroySession now c.store

/-- Over the runs in which unchecked records arrive while a state is held, the store holds no state
from a logout on until the next login. -/
theorem state_null_since_logout {h : List (Action τ)} {c : Client σ}
    (hs : Since (client S) (current S) (logsOut S) logsIn h c) : S.state c.store = none := by
  refine hs.invariant (J := fun c => S.state c.store = none) ?_ ?_
  · exact fun _ _ _ _ _ _ hn hout => state_of_logsOut hn hout
  · exact fun _ _ _ _ _ hnone hc hn hin => state_of_not_logsIn hnone hc hn hin

end Logout

/-- A login of the user `id`. -/
def userLogin (id : String) : AuthenticateResponse :=
  .consumer (some (.obj [("session_id", .str "s1")])) (some (.obj [("user_id", .str id)]))
    (some "token") (some "jwt")

/-- The response to `user.get` with the user `id`. -/
def userResponse (id : String) : Response := .success (.obj [("user_id", .str id)]) ""

/-- A user fetched while logged in, then a logout and a late error. -/
theorem state_null_since_logout_revoke :
    ∃ h c, Since (client coreStore) (current coreStore) (logsOut coreStore) logsIn h c ∧
      h.length = 7 ∧ coreStore.state c.store = none := by
  obtain ⟨c, hs⟩ : ∃ c, Since (client coreStore) (current coreStore) (logsOut coreStore) logsIn
      [.respond 1 (.error none) (4, 4), .respond 2 (.success .null "") (3, 3),
        .send (.revoke false), .send .userGet, .respond 0 (userResponse "u2") (2, 2),
        .send .userGet, .updateSession (userLogin "u1") none (1, 1)] c := by
    have hstart : (client coreStore).init ⟨.initial, []⟩ := rfl
    refine ⟨_, .later (.now (.step (.step (.step (.step (.step (.start hstart) trivial rfl)
      trivial rfl) ?_ rfl) trivial rfl) trivial rfl) ?_ rfl ⟨.revoke false, rfl, rfl⟩)
      trivial rfl not_false⟩
    · exact fun _ => Option.some_ne_none _
    · exact fun h => absurd h Bool.false_ne_true
  exact ⟨_, c, hs, rfl, state_null_since_logout hs⟩

/-- A login, a logout while the user is being fetched, and the response. -/
def lateUser {τ : Type} (now : τ) : List (Action τ) :=
  [.respond 0 (userResponse "u1") now, .destroyState now, .send .userGet,
    .updateSession (userLogin "u1") none now]

/-- A user fetched before a logout is in the store after it, without a session, in the core store
and in the web store. -/
theorem late_response_restores_user :
    (∃ c, Since (client coreStore) anyStep (logsOut coreStore) logsIn (lateUser (0, 0)) c ∧
      ∃ state, coreStore.state c.store = some state ∧ sessionOf (some state) = none ∧
        (fieldOf (some state) "user").isSome) ∧
    ∀ page parseDate, let S := Web.webStore page parseDate
      ∃ c, Since (client S) anyStep (logsOut S) logsIn (lateUser 0) c ∧
        ∃ state, S.state c.store = some state ∧ sessionOf (some state) = none ∧
          (fieldOf (some state) "user").isSome := by
  constructor
  · have hstart : (client coreStore).init ⟨.initial, []⟩ := rfl
    exact ⟨_, .later (.now (.step (.step (.start hstart) trivial rfl) trivial rfl) trivial rfl
      trivial) trivial rfl not_false, _, rfl, rfl, rfl⟩
  · intro page parseDate S
    have hstart : (client S).init ⟨(⟨.empty, none, none, []⟩,
      ⟨⟨none, none, none, none, none, false⟩, none, true, []⟩), []⟩ := rfl
    exact ⟨_, .later (.now (.step (.step (.start hstart) trivial rfl) trivial rfl) trivial rfl
      trivial) trivial rfl not_false, _, rfl, rfl, rfl⟩

end StytchBrowser.Core.RecordClients
