import StytchBrowser.Core.DeviceStorage

/-!
# The validity period of intermediate session tokens

The expiration of an intermediate session token is kept in memory only, and every update that stores
a token starts a new period. Two operations store a token that nobody supplied anew:
`destroySession`, which hands the token it holds to `updateStateAndTokens`, and a sync that reads a
record holding one. Over the runs in which neither happens, `getIntermediateSessionToken` returns a
token at most ten minutes after it was last supplied.
-/

namespace StytchBrowser.Core

open Machine

/-- A sync is not about to apply a record with an intermediate session token. -/
def Sync.WithoutIST : Sync → Prop
  | .assigned (some res) => res.intermediateSessionToken = none
  | _ => True

namespace Device

/-- The update that supplies `token` at `t`. -/
def supplies (token : String) (t : ℕ) (_ : Device) : Action → Prop
  | .op (.updateStateAndTokens diff _) _ now' _ =>
      diff.state = none ∧ diff.intermediateSessionToken = some token ∧ now' = t
  | _ => False

/-- An update that supplies `token`. -/
def suppliesAgain (token : String) (d : Device) (a : Action) : Prop := ∃ t, supplies token t d a

/-- `destroySession` finds no unexpired intermediate session token, and no sync assigns a record
that holds one. -/
def keepsNoIST (d : Device) : Action → Bool
  | .op .destroySession now _ _ => (d.service.getIntermediateSessionToken now).isNone
  | .assign i _ =>
      match d.syncs[i]? with
      | some (.read (some (.record r))) => r.intermediateSessionToken.isNone
      | _ => true
  | _ => true

/-- The guard of runs that meet `keepsNoIST` at every step. -/
def withoutKeptIST : Guard Device Action := fun _ d a => d.keepsNoIST a

/-- No sync is about to apply a record with an intermediate session token. -/
def SyncsWithoutIST (d : Device) : Prop :=
  ∀ (i : ℕ) (sync : Sync), d.syncs[i]? = some sync → sync.WithoutIST

variable {parseDate : String → Option ℤ}

theorem SyncsWithoutIST.step {d d' : Device} {a : Action} (hd : d.SyncsWithoutIST)
    (hc : d.keepsNoIST a) (hs : Step parseDate d a d') : d'.SyncsWithoutIST := by
  cases hs with
  | op _ _ => exact hd
  | getIntermediateSessionToken _ => exact hd
  | startSync => exact Slots.forall_concat hd (by trivial)
  | read _ => exact Slots.forall_set hd (by trivial)
  | @assign i landed text hi =>
    refine Slots.forall_set hd ?_
    rcases text with _ | _ | r
    · trivial
    · trivial
    · simp only [keepsNoIST, hi, Option.isNone_iff_eq_none] at hc
      exact hc
  | apply _ _ _ => exact Slots.forall_set hd (by trivial)
  | restart => exact fun i sync hi => nomatch hi

/-- What a step does to the intermediate session token: it stores one that is supplied, leaves none,
or changes neither the token nor its expiration. -/
theorem ist_step {d d' : Device} {a : Action} (hd : d.SyncsWithoutIST) (hc : d.keepsNoIST a)
    (hs : Step parseDate d a d') :
    (∃ token t, supplies token t d a ∧
        d'.service.datalayer.intermediateSessionToken = some token ∧
        d'.service.datalayer.intermediateSessionTokenExpiration = some (t + istValidity)) ∨
      d'.service.datalayer.intermediateSessionToken = none ∨
      (∀ token, ¬ suppliesAgain token d a) ∧
        d'.service.datalayer.intermediateSessionToken =
          d.service.datalayer.intermediateSessionToken ∧
        d'.service.datalayer.intermediateSessionTokenExpiration =
          d.service.datalayer.intermediateSessionTokenExpiration := by
  cases hs with
  | @op op now now' landed _ _ =>
    cases op with
    | updateStateAndTokens diff options =>
      simp only [Service.run, Service.datalayer_updateStateAndTokens]
      rcases Service.ist_updatedDataLayer now' diff d.service.datalayer with
        ⟨hs, token, htoken, hist, hexp⟩ | hnone
      · exact .inl ⟨token, now', ⟨hs, htoken, rfl⟩, hist, hexp⟩
      · exact .inr (.inl hnone)
    | updateState state => exact .inr (.inr ⟨fun _ ⟨_, h⟩ => h, rfl, rfl⟩)
    | updateTokens tokens => exact .inr (.inr ⟨fun _ ⟨_, h⟩ => h, rfl, rfl⟩)
    | destroyState => exact .inr (.inl (Service.ist_updatedDataLayer_none _ _ rfl))
    | destroySession =>
      exact .inr (.inl (Service.ist_updatedDataLayer_none _ _ (Option.isNone_iff_eq_none.1 hc)))
  | @getIntermediateSessionToken now _ =>
    rcases Service.ist_dropExpiredIST now d.service with h | h
    · exact .inr (.inl h)
    · refine .inr (.inr ⟨fun _ ⟨_, h⟩ => h, ?_⟩)
      rw [h]
      exact ⟨rfl, rfl⟩
  | startSync => exact .inr (.inr ⟨fun _ ⟨_, h⟩ => h, rfl, rfl⟩)
  | read _ => exact .inr (.inr ⟨fun _ ⟨_, h⟩ => h, rfl, rfl⟩)
  | @assign i landed text hi =>
    rcases text with _ | _ | r
    · exact .inr (.inr ⟨fun _ ⟨_, h⟩ => h, rfl, rfl⟩)
    · exact .inr (.inr ⟨fun _ ⟨_, h⟩ => h, rfl, rfl⟩)
    · simp only [keepsNoIST, hi, Option.isNone_iff_eq_none] at hc
      exact .inr (.inl hc)
  | @apply i now now' landed res hi _ _ =>
    cases res with
    | none => exact .inr (.inr ⟨fun _ ⟨_, h⟩ => h, rfl, rfl⟩)
    | some res =>
      refine .inr (.inl ?_)
      rw [Service.datalayer_applySync]
      split_ifs
      · exact Service.ist_updatedDataLayer_none _ _ rfl
      · exact Service.ist_updatedDataLayer_none _ _ (hd i _ hi)
  | restart => exact .inr (.inl rfl)

/-- The token held was supplied, and its expiration is ten minutes after it was last supplied. -/
def ISTInWindow (parseDate : String → Option ℤ) (h : List Action) (d : Device) : Prop :=
  ∀ token, d.service.datalayer.intermediateSessionToken = some token →
    ∃ t, Since (device parseDate) withoutKeptIST (supplies token t) (suppliesAgain token) h d ∧
      d.service.datalayer.intermediateSessionTokenExpiration = some (t + istValidity)

theorem istInWindow {h : List Action} {d : Device}
    (hr : Reach (device parseDate) withoutKeptIST h d) :
    d.SyncsWithoutIST ∧ ISTInWindow parseDate h d := by
  induction hr with
  | start h0 =>
    obtain rfl := h0
    exact ⟨fun i res hi => (nomatch hi), fun token h => nomatch h⟩
  | @step h d d' a hr hc hn ih =>
    obtain ⟨hsyncs, hist⟩ := ih
    have hs := step_of_next parseDate hn
    refine ⟨hsyncs.step hc hs, fun token htoken => ?_⟩
    rcases ist_step hsyncs hc hs with ⟨token', t, hsup, hist', hexp⟩ | hnone | ⟨hno, hkeep, hexp⟩
    · rw [hist'] at htoken
      cases htoken
      exact ⟨t, .now hr hc hn hsup, hexp⟩
    · rw [hnone] at htoken
      cases htoken
    · rw [hkeep] at htoken
      obtain ⟨t, hsince, ht⟩ := hist token htoken
      exact ⟨t, hsince.later hc hn (hno token), hexp.trans ht⟩

end Device

open Device

/-- Over every run in which `destroySession` finds no intermediate session token and no sync brings
one back, a token is returned only within the validity period that began when it was last
supplied. -/
theorem ist_within_validity (parseDate : String → Option ℤ) {h : List Action} {d : Device}
    (hr : Reach (device parseDate) withoutKeptIST h d) {now : ℕ} {token : String}
    (hget : d.service.getIntermediateSessionToken now = some token) :
    ∃ t, Since (device parseDate) withoutKeptIST (supplies token t) (suppliesAgain token) h d ∧
      now ≤ t + istValidity := by
  obtain ⟨t, hsince, hexp⟩ :=
    (istInWindow hr).2 token (Service.ist_of_getIntermediateSessionToken hget)
  have hpos : 0 < t + istValidity := by
    unfold istValidity
    omega
  exact ⟨t, hsince, Service.le_of_getIntermediateSessionToken hget hexp hpos⟩

/-- A token supplied at 1 is returned at 5. -/
theorem ist_within_validity_five :
    ∃ h d t, Since (device fun _ => none) withoutKeptIST (supplies "ist" t) (suppliesAgain "ist") h d ∧
      h.length = 1 ∧ 5 ≤ t + istValidity := by
  have hr : Reach (device fun _ => none) withoutKeptIST
      [.op (.updateStateAndTokens ⟨none, none, none, some "ist"⟩ (.fresh none)) 1 1 true] _ :=
    .step (.start rfl) rfl rfl
  obtain ⟨t, hsince, ht⟩ := @ist_within_validity (fun _ => none) _ _ hr 5 "ist" rfl
  exact ⟨_, _, t, hsince, rfl, ht⟩

/-- A token supplied at 0 and kept by `destroySession` after five minutes is still returned after
more than ten. -/
theorem destroySession_extends_validity :
    ∃ h d, Since (device fun _ => none) anyStep (supplies "ist" 0) (suppliesAgain "ist") h d ∧
      d.clock ≤ 700000 ∧ d.service.getIntermediateSessionToken 700000 = some "ist" ∧
      0 + istValidity < 700000 := by
  have hs : Since (device fun _ => none) anyStep (supplies "ist" 0) (suppliesAgain "ist")
      [.op .destroySession 300000 300000 true,
        .op (.updateStateAndTokens ⟨none, none, none, some "ist"⟩ (.fresh none)) 0 0 true] _ :=
    .later (.now (.start rfl) trivial rfl ⟨rfl, rfl, rfl⟩) trivial rfl fun ⟨_, h⟩ => h
  exact ⟨_, _, hs, by decide, by decide, by decide⟩

end StytchBrowser.Core
