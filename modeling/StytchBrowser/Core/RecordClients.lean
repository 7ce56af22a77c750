import StytchBrowser.Core.SessionClient

/-!
# The requests that store a user, a member or an organization

The clients for users, members and organizations send a request and, when its response arrives,
spread the record it carries over the state the store holds by then. Some of the requests on members
first compare the member with the one that is held, and some requests end the session. The requests
wait once, for the response; any number of them can be in flight.

`Store` is what these clients use of a subscription service; both the core service and the web one
are such stores. `τ` is what a step reads off the clock.
-/

namespace StytchBrowser.Core.RecordClients

/-- A subscription service as its clients use it. -/
structure Store (σ τ : Type) where
  state : σ → Option JsObject
  updateState : JsObject → σ → σ
  updateSession : τ → AuthenticateResponse → Option ℕ → σ → σ
  destroyState : τ → σ → σ
  destroySession : τ → σ → σ
  state_updateState : ∀ o s, state (updateState o s) = some (spread (state s) o)
  state_updateSession : ∀ now resp duration s,
    state (updateSession now resp duration s) = resp.diff.state.map (spread (state s))
  state_destroyState : ∀ now s, state (destroyState now s) = none
  state_destroySession : ∀ now s, state (destroySession now s) = none

/-- The methods that wait for a response and then write the store. -/
inductive Method where
  | userGet
  | userUpdate
  | deleteEmail
  | deletePhoneNumber
  | deleteTOTP
  | deleteCryptoWallet
  | deleteOAuthRegistration
  | deleteWebauthnRegistration
  | deleteBiometricRegistration
  | totpsCreate
  | selfGet
  | selfUpdate
  | selfDeleteMFAPhoneNumber
  | selfDeleteMFATOTP
  | selfDeletePassword
  | selfUnlinkRetiredEmail
  | selfStartEmailUpdate
  | organizationGet
  | organizationUpdate
  | organizationDelete
  | membersUpdate
  | membersDeletePassword
  | membersDeleteMFAPhoneNumber
  | membersDeleteMFATOTP
  | membersDelete (memberId : String)
  | membersUnlinkRetiredEmail
  | membersStartEmailUpdate
  | b2bTotpCreate
  | revoke (forceClear : Bool)

/-- The response to a request: the user, member or organization it carries and its `member_id`. -/
inductive Response where
  | success (record : Json) (memberId : String)
  | error (errorType : Option String)

/-- `removeResponseCommon`. -/
def removeResponseCommon : Json → Json
  | .obj fields => .obj (fields.filter fun e => e.1 ≠ "request_id" ∧ e.1 ≠ "status_code")
  | j => j

/-- `{ [field]: record }`. -/
def record (field : String) (j : Json) : JsObject := OrderedMap.empty.set field (some j)

/-- `getMember()?.member_id`. -/
def heldMemberId (state : Option JsObject) : Option String :=
  ((fieldOf state "member").bind (·.field "member_id")).bind Json.asString

/-- What a method does with a successful response. -/
inductive Effect where
  | updateUser
  | updateUserWithoutCommon
  | updateMember
  | updateOrganization
  /-- `updateMemberIfSelf`. -/
  | updateMemberIfSelf
  | destroyState
  | destroyStateIfSelf (memberId : String)

/-- What each method does with its response. -/
def Method.effect : Method → Effect
  | .userGet => .updateUserWithoutCommon
  | .userUpdate => .updateUserWithoutCommon
  | .deleteEmail => .updateUserWithoutCommon
  | .deletePhoneNumber => .updateUserWithoutCommon
  | .deleteTOTP => .updateUserWithoutCommon
  | .deleteCryptoWallet => .updateUserWithoutCommon
  | .deleteOAuthRegistration => .updateUserWithoutCommon
  | .deleteWebauthnRegistration => .updateUserWithoutCommon
  | .deleteBiometricRegistration => .updateUserWithoutCommon
  | .totpsCreate => .updateUser
  | .selfGet => .updateMember
  | .selfUpdate => .updateMember
  | .selfDeleteMFAPhoneNumber => .updateMember
  | .selfDeleteMFATOTP => .updateMember
  | .selfDeletePassword => .updateMember
  | .selfUnlinkRetiredEmail => .updateMember
  | .selfStartEmailUpdate => .updateMember
  | .organizationGet => .updateOrganization
  | .organizationUpdate => .updateOrganization
  | .organizationDelete => .destroyState
  | .membersUpdate => .updateMemberIfSelf
  | .membersDeletePassword => .updateMemberIfSelf
  | .membersDeleteMFAPhoneNumber => .updateMemberIfSelf
  | .membersDeleteMFATOTP => .updateMemberIfSelf
  | .membersDelete memberId => .destroyStateIfSelf memberId
  | .membersUnlinkRetiredEmail => .updateMemberIfSelf
  | .membersStartEmailUpdate => .updateMemberIfSelf
  | .b2bTotpCreate => .updateMemberIfSelf
  | .revoke _ => .destroyState

/-- Whether a method that fails destroys the state all the same. -/
def Method.destroysOnError : Method → Option String → Bool
  | .revoke forceClear, errorType => forceClear || isUnrecoverableError errorType
  | _, _ => false

/-- Whether an effect stores its record without looking at the store. -/
def Effect.isUnchecked : Effect → Bool
  | .updateUser => true
  | .updateUserWithoutCommon => true
  | .updateMember => true
  | .updateOrganization => true
  | .updateMemberIfSelf => false
  | .destroyState => false
  | .destroyStateIfSelf _ => false

section Client

variable {σ τ : Type} (S : Store σ τ)

/-- The store after the effect of a successful response. -/
def Effect.run (now : τ) (j : Json) (memberId : String) (s : σ) : Effect → σ
  | .updateUser => S.updateState (record "user" j) s
  | .updateUserWithoutCommon => S.updateState (record "user" (removeResponseCommon j)) s
  | .updateMember => S.updateState (record "member" j) s
  | .updateOrganization => S.updateState (record "organization" j) s
  | .updateMemberIfSelf =>
      if some memberId = heldMemberId (S.state s) then S.updateState (record "member" j) s else s
  | .destroyState => S.destroyState now s
  | .destroyStateIfSelf id =>
      if some id = heldMemberId (S.state s) then S.destroyState now s else s

/-- The store after the response to a method. -/
def Method.settle (method : Method) (now : τ) (s : σ) : Response → σ
  | .success j memberId => method.effect.run S now j memberId s
  | .error errorType => if method.destroysOnError errorType then S.destroyState now s else s

/-- A store and the requests sent on it, `none` for one that is settled. -/
structure Client (σ : Type) where
  store : σ
  requests : List (Option Method)

/-- What can happen on a client. -/
inductive Action (τ : Type) where
  | send (method : Method)
  | respond (i : ℕ) (resp : Response) (now : τ)
  | updateSession (resp : AuthenticateResponse) (sessionDurationMinutes : Option ℕ) (now : τ)
  | destroyState (now : τ)
  | destroySession (now : τ)

/-- One step of a client, `none` when the step is not possible. -/
def Client.next (c : Client σ) : Action τ → Option (Client σ)
  | .send method => some { c with requests := c.requests ++ [some method] }
  | .respond i resp now =>
      match c.requests[i]? with
      | some (some method) => some ⟨method.settle S now c.store resp, c.requests.set i none⟩
      | _ => none
  | .updateSession resp duration now =>
      some { c with store := S.updateSession now resp duration c.store }
  | .destroyState now => some { c with store := S.destroyState now c.store }
  | .destroySession now => some { c with store := S.destroySession now c.store }

/-- The runs of a client, from any store. -/
def client : Machine (Client σ) (Action τ) where
  init c := c.requests = []
  next := Client.next S

variable {S}

theorem heldMemberId_none : heldMemberId none = none := rfl

/-- In a store without a state a response leaves a state exactly when its effect is unchecked. -/
theorem state_settle_of_none (method : Method) (now : τ) {s : σ} (hs : S.state s = none)
    (resp : Response) :
    S.state (method.settle S now s resp) = none ↔
      ∀ j memberId, resp = .success j memberId → method.effect.isUnchecked = false := by
  cases resp with
  | error errorType =>
    refine ⟨fun _ => nofun, fun _ => ?_⟩
    unfold Method.settle
    dsimp only
    split_ifs
    · exact S.state_destroyState now s
    · exact hs
  | success j memberId =>
    unfold Method.settle
    cases method.effect <;>
      simp [Effect.run, Effect.isUnchecked, hs, heldMemberId_none, S.state_updateState,
        S.state_destroyState]

end Client

/-- The core service as a store. A step reads the clock at most twice. -/
def coreStore : Store Service (ℕ × ℕ) where
  state := Service.getState
  updateState o s := (s.updateState (some o)).1
  updateSession now resp duration s := (s.updateSession now.2 resp duration).1
  destroyState now s := (s.destroyState now.2).1
  destroySession now s := (s.destroySession now.1 now.2).1
  state_updateState _ _ := rfl
  state_updateSession now resp duration s := by
    unfold Service.updateSession Service.getState
    rw [Service.datalayer_updateStateAndTokens]
    unfold Service.updatedDataLayer
    cases resp.diff.state with
    | some state => rfl
    | none =>
      dsimp only
      split_ifs <;> rfl
  state_destroyState _ _ := rfl
  state_destroySession now s := by
    unfold Service.destroySession Service.getState
    rw [Service.datalayer_updateStateAndTokens]
    unfold Service.updatedDataLayer
    dsimp only
    split_ifs <;> rfl

end StytchBrowser.Core.RecordClients
