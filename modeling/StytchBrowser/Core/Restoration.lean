import StytchBrowser.Core.Rehydration

/-!
# Restoring a store from its device storage

A record is written after every operation and read back by `syncFromDeviceStorage` of a service that
is constructed on the same storage, through the general update path: a record without a state yields
no session tokens, and a record with one yields no intermediate session token. A store that holds
either is not restored. `restores_iff` says which stores are, and `rehydration_restores` that these
are the stores of every run that never calls `updateTokens` with a JWT on a store without a state,
`updateState(null)` on one that holds both session tokens, or `updateState` with a state on one that
holds an intermediate session token.
-/

namespace StytchBrowser.Core

open Machine

/-- A new service on a storage, once its `syncFromDeviceStorage` has resolved. -/
def rehydrate (parseDate : String → Option ℤ) (now now' : ℕ) (stored : Option StoredText) :
    Service :=
  let (service, res) := Service.initial.syncFromLocalStorage stored
  (service.applySync parseDate now now' res).1

namespace Device

/-- A sync has assigned the fields of a record and is about to apply it. -/
def Between (d : Device) : Prop := ∃ (i : ℕ) (res : StateWithTokensDiff),
  d.syncs[i]? = some (.assigned (some res))

/-- The service is as it was constructed on a storage that holds a record, and none of its syncs has
assigned the record yet. -/
def Loading (d : Device) : Prop :=
  d.stored ≠ none ∧ d.service.datalayer = .initial ∧
    ∀ (i : ℕ) (sync : Sync), d.syncs[i]? = some sync → sync = .reading ∨ sync = .read d.stored

/-- `getIntermediateSessionToken` finds the token expired, and drops it in memory only. -/
def drops (d : Device) : Action → Prop
  | .getIntermediateSessionToken now => d.service.istExpired now = true
  | _ => False

/-- The steps that write the storage or start anew. -/
def persists (d : Device) : Action → Prop
  | .op .. => True
  | .apply i .. => ∃ res, d.syncs[i]? = some (.assigned (some res))
  | .restart => True
  | _ => False

/-- What is expected of a new service on the storage: it exposes the same state, the same session
tokens and, unless it has expired, the same intermediate session token. -/
structure Restores (parseDate : String → Option ℤ) (C : Guard Device Action) (h : List Action)
    (d : Device) (now now' : ℕ) : Prop where
  state : SameState [] (rehydrate parseDate now now' d.stored).getState d.service.getState
  tokens : (rehydrate parseDate now now' d.stored).getTokens = d.service.getTokens
  ist : ∀ t, now' ≤ t → d.service.istExpired t = false →
    ¬ Since (device parseDate) C drops persists h d →
    (rehydrate parseDate now now' d.stored).getIntermediateSessionToken t =
      d.service.getIntermediateSessionToken t

/-- An operation leaves no session tokens without a state, and no intermediate session token beside
one. -/
def opRestorable (now' : ℕ) (s : Service) : Op → Prop
  | .updateTokens tokens => s.getState = none → tokens.sessionJwt = none
  | .updateState none => s.getTokens = none
  | .updateState (some _) => s.getIntermediateSessionToken now' = none
  | _ => True

/-- The storage can be read, and what is written is stored. -/
def storageWorks : Action → Prop
  | .op _ _ _ landed => landed = true
  | .read _ failed => failed = false
  | .apply _ _ _ landed => landed = true
  | _ => True

/-- The storage works, and the operations are restorable, those apart that a sync is about to
overwrite. -/
def restorable : Guard Device Action := fun _ d a =>
  storageWorks a ∧ ∀ op now now' landed, a = .op op now now' landed →
    d.Between ∨ opRestorable now' d.service op

end Device

/-! ## What a new service exposes -/

theorem sessionOf_parse_stringify (state : Option JsObject) :
    sessionOf ((state.map stringify).map parse) = sessionOf state := by
  cases state with
  | none => rfl
  | some s =>
    simp only [sessionOf, fieldOf, Option.map_some, Option.bind_some, get_parse, get_stringify]
    cases s.get "session" with
    | none => rfl
    | some v => cases v <;> rfl

theorem sessionExpired_parse_stringify (parseDate : String → Option ℤ) (now : ℕ)
    (state : Option JsObject) :
    Service.sessionExpired parseDate now ((state.map stringify).map parse) =
      Service.sessionExpired parseDate now state := by
  rw [Service.sessionExpired, sessionOf_parse_stringify, Service.sessionExpired]

section Rehydrate

variable {parseDate : String → Option ℤ} {now now' : ℕ} {r : PersistedRecord} {s : Service}

theorem datalayer_rehydrate (hexp : Service.sessionExpired parseDate now (r.state.map parse) = false) :
    (rehydrate parseDate now now' (some (.record r))).datalayer =
      Service.updatedDataLayer now' r.diff (DataLayer.initial.assign r) := by
  unfold rehydrate Service.syncFromLocalStorage
  dsimp only
  rw [Service.datalayer_applySync]
  simp [PersistedRecord.diff, hexp, Service.initial]

/-- The record is one of the state and the session tokens of the store. -/
structure RecordOf (r : PersistedRecord) (s : Service) : Prop where
  state : r.state = s.datalayer.state.map stringify
  sessionToken : r.sessionToken = s.datalayer.sessionToken
  sessionJwt : r.sessionJwt = s.datalayer.sessionJwt

theorem recordOf_persisted (s : Service) : RecordOf s.datalayer.persisted s := ⟨rfl, rfl, rfl⟩

theorem RecordOf.expired (hr : RecordOf r s)
    (hexp : Service.sessionExpired parseDate now s.getState = false) :
    Service.sessionExpired parseDate now (r.state.map parse) = false := by
  rw [hr.state, sessionExpired_parse_stringify]
  exact hexp

/-- The state of a store is restored. -/
theorem RecordOf.restores_state (hr : RecordOf r s)
    (hexp : Service.sessionExpired parseDate now s.getState = false) :
    SameState [] (rehydrate parseDate now now' (some (.record r))).getState s.getState := by
  rw [Service.getState, datalayer_rehydrate (hr.expired hexp), Service.getState]
  unfold Service.updatedDataLayer PersistedRecord.diff DataLayer.assign
  rw [hr.state]
  cases s.datalayer.state with
  | none =>
    dsimp only [Option.map_none]
    split_ifs <;> rfl
  | some state =>
    dsimp only [Option.map_some, DataLayer.removeIST]
    rw [spread, Option.getD_some, OrderedMap.merge_self, sameState_some_iff]
    exact tree_parse_stringify state

/-- The session tokens are restored exactly when there is a state beside them. -/
theorem RecordOf.restores_tokens_iff (hr : RecordOf r s)
    (hexp : Service.sessionExpired parseDate now s.getState = false) :
    (rehydrate parseDate now now' (some (.record r))).getTokens = s.getTokens ↔
      (s.getState = none → s.getTokens = none) := by
  have hlayer := @datalayer_rehydrate parseDate now now' r (hr.expired hexp)
  rw [Service.getTokens, hlayer, Service.getState]
  unfold Service.updatedDataLayer PersistedRecord.diff
  rw [hr.state, hr.sessionToken, hr.sessionJwt]
  cases s.datalayer.state with
  | none =>
    dsimp only [Option.map_none]
    split_ifs
    · simp [DataLayer.removeSessionTokens, eq_comm]
    · simp [DataLayer.removeSessionTokens, DataLayer.removeIST, eq_comm]
  | some state => simp [DataLayer.removeIST, Service.getTokens]

/-- The intermediate session token is not empty, and its validity period has begun by `clock`. -/
def InPeriod (clock : ℕ) (s : Service) : Prop :=
  ∀ token, s.datalayer.intermediateSessionToken = some token → token ≠ "" ∧
    ∃ e, s.datalayer.intermediateSessionTokenExpiration = some e ∧ 0 < e ∧
      e ≤ clock + istValidity

theorem istExpired_mono {t t' : ℕ} (ht : t ≤ t') (h : s.istExpired t' = false) :
    s.istExpired t = false := by
  unfold Service.istExpired at h ⊢
  cases he : s.datalayer.intermediateSessionTokenExpiration with
  | none => rfl
  | some e =>
    rw [he] at h
    simp only [Option.any_some, decide_eq_false_iff_not, not_and, not_lt] at h ⊢
    exact fun hne => ht.trans (h hne)

theorem getIntermediateSessionToken_of_unexpired {t : ℕ} (h : s.istExpired t = false) :
    s.getIntermediateSessionToken t = s.datalayer.intermediateSessionToken := by
  rw [Service.getIntermediateSessionToken, Service.dropExpiredIST, if_neg (by simp [h])]

theorem getIntermediateSessionToken_of_expired {t : ℕ} (h : s.istExpired t = true) :
    s.getIntermediateSessionToken t = none := by
  rw [Service.getIntermediateSessionToken, Service.dropExpiredIST, if_pos h]
  rfl

theorem ist_rehydrate_of_none
    (hexp : Service.sessionExpired parseDate now (r.state.map parse) = false)
    (hist : r.intermediateSessionToken = none) (t : ℕ) :
    (rehydrate parseDate now now' (some (.record r))).getIntermediateSessionToken t = none := by
  refine Service.getIntermediateSessionToken_of_none ?_
  rw [datalayer_rehydrate hexp]
  exact Service.ist_updatedDataLayer_none now' _ hist

theorem getIntermediateSessionToken_congr {s' : Service}
    (hist : s'.datalayer.intermediateSessionToken = s.datalayer.intermediateSessionToken)
    (hperiod : s'.datalayer.intermediateSessionTokenExpiration =
      s.datalayer.intermediateSessionTokenExpiration) (t : ℕ) :
    s'.getIntermediateSessionToken t = s.getIntermediateSessionToken t := by
  have hexpired : s'.istExpired t = s.istExpired t := by
    rw [Service.istExpired, hperiod, Service.istExpired]
  cases hlive : s.istExpired t with
  | true =>
    rw [getIntermediateSessionToken_of_expired hlive,
      getIntermediateSessionToken_of_expired (hexpired.trans hlive)]
  | false =>
    rw [getIntermediateSessionToken_of_unexpired hlive,
      getIntermediateSessionToken_of_unexpired (hexpired.trans hlive), hist]

theorem getIntermediateSessionToken_mono {t t' : ℕ} (ht : t ≤ t')
    (h : s.getIntermediateSessionToken t = none) : s.getIntermediateSessionToken t' = none := by
  by_cases hexp : s.istExpired t' = true
  · exact getIntermediateSessionToken_of_expired hexp
  · have hlive : s.istExpired t' = false := by simpa using hexp
    rwa [getIntermediateSessionToken_of_unexpired hlive,
      ← getIntermediateSessionToken_of_unexpired (istExpired_mono ht hlive)]

/-- Beside a state no intermediate session token is restored, and one without a state is. -/
theorem ist_rehydrate (hexp : Service.sessionExpired parseDate now (r.state.map parse) = false)
    (hne : r.intermediateSessionToken ≠ some "") {t : ℕ} (ht : t ≤ now' + istValidity) :
    (rehydrate parseDate now now' (some (.record r))).getIntermediateSessionToken t =
      if r.state = none then r.intermediateSessionToken else none := by
  have hlayer := @datalayer_rehydrate parseDate now now' r hexp
  cases hstate : r.state with
  | some state =>
    refine Service.getIntermediateSessionToken_of_none ?_
    rw [hlayer, Service.updatedDataLayer, PersistedRecord.diff, hstate]
    rfl
  | none =>
    rw [if_pos rfl]
    cases hist : r.intermediateSessionToken with
    | none => exact ist_rehydrate_of_none hexp hist t
    | some token =>
      have htoken : truthyString (some token) = true := by
        have hnonempty : token ≠ "" := fun he => hne (by rw [hist, he])
        simpa [truthyString] using hnonempty
      rw [@Service.getIntermediateSessionToken_of_le t (now' + istValidity) _ ?_ ht, hlayer]
      · simp [Service.updatedDataLayer, PersistedRecord.diff, hstate, hist, htoken]
      · rw [hlayer]
        simp [Service.updatedDataLayer, PersistedRecord.diff, hstate, hist, htoken]

/-- The intermediate session token is restored exactly when there is none beside a state. -/
theorem restores_ist_iff {clock : ℕ} (hperiod : InPeriod clock s) (hclock : clock ≤ now')
    (hexp : Service.sessionExpired parseDate now s.getState = false) :
    (∀ t, now' ≤ t → s.istExpired t = false →
        (rehydrate parseDate now now' (some (.record s.datalayer.persisted))).getIntermediateSessionToken
          t = s.getIntermediateSessionToken t) ↔
      (s.getState ≠ none → s.getIntermediateSessionToken now' = none) := by
  have hexp' := (recordOf_persisted s).expired hexp
  have hne : s.datalayer.persisted.intermediateSessionToken ≠ some "" :=
    fun he => (hperiod "" he).1 rfl
  have hstate : s.datalayer.persisted.state = none ↔ s.getState = none := Option.map_eq_none_iff
  constructor
  · intro hall hsome
    by_cases hold : s.istExpired now' = true
    · exact getIntermediateSessionToken_of_expired hold
    · rw [← hall now' le_rfl (by simpa using hold), ist_rehydrate hexp' hne (Nat.le_add_right _ _),
        if_neg (by rwa [hstate])]
  · intro hnone t ht hlive
    rw [getIntermediateSessionToken_of_unexpired hlive]
    rw [getIntermediateSessionToken_of_unexpired (istExpired_mono ht hlive)] at hnone
    cases hist : s.datalayer.intermediateSessionToken with
    | none => exact ist_rehydrate_of_none hexp' hist t
    | some token =>
      obtain ⟨-, e, he, hpos, hle⟩ := hperiod token hist
      have hte : t ≤ e := by
        simp only [Service.istExpired, he, Option.any_some, decide_eq_false_iff_not, not_and,
          not_lt] at hlive
        exact hlive (by omega)
      have hnostate : s.getState = none := by
        by_contra hsome
        rw [hnone hsome] at hist
        cases hist
      rw [ist_rehydrate hexp' hne (by omega), if_pos (hstate.2 hnostate)]
      exact hist

end Rehydrate

namespace Device

variable {parseDate : String → Option ℤ} {C : Guard Device Action} {h : List Action} {d : Device}
  {now now' : ℕ}

/-- What the storage of a device says is what its service holds, and which services are restored
from it: the ones that hold no session tokens without a state and no intermediate session token
beside one. -/
theorem restores_iff
    (hstored : d.stored = some (.record d.service.datalayer.persisted))
    (hperiod : InPeriod d.clock d.service) (hclock : d.clock ≤ now')
    (hexp : Service.sessionExpired parseDate now d.service.getState = false)
    (hkept : ¬ Since (device parseDate) C drops persists h d) :
    d.Restores parseDate C h now now' ↔
      (d.service.getState = none → d.service.getTokens = none) ∧
        (d.service.getState ≠ none → d.service.getIntermediateSessionToken now' = none) := by
  have hr := recordOf_persisted d.service
  have htokens := @RecordOf.restores_tokens_iff parseDate now now' _ _ hr hexp
  have hist := @restores_ist_iff parseDate now now' _ _ hperiod hclock hexp
  rw [← hstored] at htokens hist
  constructor
  · intro hrestores
    exact ⟨htokens.1 hrestores.tokens,
      hist.1 fun t ht hlive => hrestores.ist t ht hlive hkept⟩
  · rintro ⟨h₁, h₂⟩
    refine ⟨?_, htokens.2 h₁, fun t ht hlive _ => hist.2 h₂ t ht hlive⟩
    rw [hstored]
    exact hr.restores_state hexp

/-! ## The runs that can be restored -/

/-- The service holds no session tokens without a state, no intermediate session token beside one,
and an intermediate session token only within its period. -/
structure Coherent (clock : ℕ) (s : Service) : Prop where
  tokens : s.getState = none → s.getTokens = none
  ist : s.getState ≠ none → s.getIntermediateSessionToken clock = none
  period : InPeriod clock s

/-- The storage holds what the service does, an intermediate session token that it has dropped since
apart, and the service is coherent. -/
def Kept (parseDate : String → Option ℤ) (C : Guard Device Action) (h : List Action) (d : Device) :
    Prop :=
  d.stored = none ∧ d.service.datalayer = .initial ∨
    Coherent d.clock d.service ∧ ∃ r, d.stored = some (.record r) ∧ RecordOf r d.service ∧
      (r = d.service.datalayer.persisted ∨ Since (device parseDate) C drops persists h d)

theorem Kept.restores (hd : d.Kept parseDate C h) (hnow : d.clock ≤ now) (hle : now ≤ now')
    (hexp : Service.sessionExpired parseDate now d.service.getState = false) :
    d.Restores parseDate C h now now' := by
  rcases hd with ⟨hstored, hinitial⟩ | ⟨hcoherent, r, hstored, hr, hsame⟩
  · have hfresh : (rehydrate parseDate now now' d.stored).datalayer = d.service.datalayer := by
      rw [hstored, hinitial]
      rfl
    refine ⟨?_, ?_, fun t _ _ _ => ?_⟩
    · rw [Service.getState, hfresh]
      exact .refl _
    · rw [Service.getTokens, hfresh, Service.getTokens]
    · have hnone : d.service.datalayer.intermediateSessionToken = none := by
        rw [hinitial]
        rfl
      rw [Service.getIntermediateSessionToken_of_none hnone,
        Service.getIntermediateSessionToken_of_none (hfresh ▸ hnone)]
  · by_cases hdropped : Since (device parseDate) C drops persists h d
    · refine ⟨?_, ?_, fun t _ _ hkept => absurd hdropped hkept⟩
      · rw [hstored]
        exact hr.restores_state hexp
      · rw [hstored]
        exact (hr.restores_tokens_iff hexp).2 hcoherent.tokens
    · obtain rfl := hsame.resolve_right hdropped
      refine (restores_iff hstored hcoherent.period (hnow.trans hle) hexp hdropped).2
        ⟨hcoherent.tokens, fun hsome => ?_⟩
      exact getIntermediateSessionToken_mono (hnow.trans hle) (hcoherent.ist hsome)

/-- A store that an update has just left is coherent. -/
theorem coherent_updatedDataLayer (now : ℕ) (diff : StateWithTokensDiff) (layer : DataLayer)
    {s : Service} (hs : s.datalayer = Service.updatedDataLayer now diff layer) : Coherent now s := by
  refine ⟨fun hnone => ?_, fun hsome => ?_, fun token htoken => ?_⟩
  · rw [Service.getState, hs] at hnone
    rw [Service.getTokens, hs]
    unfold Service.updatedDataLayer at hnone ⊢
    cases hstate : diff.state with
    | some state =>
      rw [hstate] at hnone
      cases hnone
    | none =>
      dsimp only
      split_ifs <;> rfl
  · refine Service.getIntermediateSessionToken_of_none ?_
    rw [Service.getState, hs] at hsome
    rw [hs]
    unfold Service.updatedDataLayer at hsome ⊢
    cases hstate : diff.state with
    | some state => rfl
    | none =>
      rw [hstate] at hsome
      dsimp only at hsome
      split_ifs at hsome <;> exact absurd rfl hsome
  · rw [hs] at htoken
    rcases Service.ist_updatedDataLayer now diff layer with
        ⟨hstate, token', hdiff, hist, hperiod⟩ | hnone
    · rw [hist] at htoken
      cases htoken
      refine ⟨?_, _, by rw [hs, hperiod], Nat.add_pos_right _ (by decide), le_rfl⟩
      rintro rfl
      simp [Service.updatedDataLayer, hstate, hdiff, truthyString, DataLayer.removeIST] at hist
    · rw [hnone] at htoken
      cases htoken

theorem Coherent.later {clock clock' : ℕ} {s s' : Service} (hs : Coherent clock s)
    (hle : clock ≤ clock') (hlayer : s'.datalayer = s.datalayer) : Coherent clock' s' := by
  refine ⟨?_, ?_, ?_⟩
  · rw [Service.getState, Service.getTokens, hlayer]
    exact hs.tokens
  · rw [Service.getState, hlayer, getIntermediateSessionToken_congr (congrArg _ hlayer)
      (congrArg _ hlayer)]
    exact fun hsome => getIntermediateSessionToken_mono hle (hs.ist hsome)
  · intro token htoken
    rw [hlayer] at htoken ⊢
    obtain ⟨hne, e, he, hpos, hbound⟩ := hs.period token htoken
    exact ⟨hne, e, he, hpos, by omega⟩

theorem coherent_initial (clock : ℕ) {s : Service} (hs : s.datalayer = .initial) :
    Coherent clock s := by
  refine ⟨fun _ => ?_, fun h => absurd ?_ h, fun token htoken => ?_⟩
  · rw [Service.getTokens, hs]
    rfl
  · rw [Service.getState, hs]
    rfl
  · rw [hs] at htoken
    cases htoken

/-- A restorable operation keeps a store coherent. -/
theorem Coherent.run {clock : ℕ} {s : Service} (hs : Coherent clock s) (hnow : clock ≤ now)
    (hle : now ≤ now') {op : Op} (hop : opRestorable now' s op) :
    Coherent now' (s.run now now' op) := by
  have hlater := hs.later (hnow.trans hle) rfl
  cases op with
  | updateStateAndTokens diff options =>
    exact coherent_updatedDataLayer now' diff _ (Service.datalayer_updateStateAndTokens ..)
  | updateState state =>
    cases state with
    | none => exact ⟨fun _ => hop, fun hsome => absurd rfl hsome, hlater.period⟩
    | some state =>
      refine ⟨fun hnone => ?_, fun _ => ?_, hlater.period⟩
      · cases hnone
      · have hist : (s.run now now' (.updateState (some state))).getIntermediateSessionToken now' =
            s.getIntermediateSessionToken now' := getIntermediateSessionToken_congr (by rfl) (by rfl) now'
        exact hist.trans hop
  | updateTokens tokens =>
    refine ⟨fun hnone => ?_, fun hsome => ?_, hlater.period⟩
    · have hjwt : tokens.sessionJwt = none := hop hnone
      simp [Service.run, Service.getTokens, Service.updateTokens, hjwt]
    · have hist : (s.run now now' (.updateTokens tokens)).getIntermediateSessionToken now' =
          s.getIntermediateSessionToken now' := getIntermediateSessionToken_congr (by rfl) (by rfl) now'
      exact hist.trans (hlater.ist hsome)
  | destroyState => exact coherent_updatedDataLayer now' _ _ (Service.datalayer_destroyState ..)
  | destroySession =>
    exact coherent_updatedDataLayer now' _ _ (Service.datalayer_updateStateAndTokens ..)

/-- What holds of every state of a restorable run. -/
structure Inv (parseDate : String → Option ℤ) (h : List Action) (d : Device) : Prop where
  stored : d.stored ≠ some .malformed
  syncs : ∀ (i : ℕ) (sync : Sync), d.syncs[i]? = some sync → sync ≠ .read (some .malformed)
  kept : ¬ d.Between → d.Loading ∨ d.Kept parseDate restorable h

theorem not_between_set {i : ℕ} {old new : Sync} {d' : Device} (hi : d.syncs[i]? = some old)
    (hold : ∀ res, old ≠ .assigned (some res)) (hsyncs : d'.syncs = d.syncs.set i new)
    (hd' : ¬ d'.Between) : ¬ d.Between := by
  rintro ⟨j, res, hj⟩
  have hij : i ≠ j := by
    rintro rfl
    rw [hi] at hj
    exact hold res (Option.some.inj hj)
  exact hd' ⟨j, res, by rw [hsyncs, List.getElem?_set_ne hij, hj]⟩

/-- A step that writes nothing and changes no data keeps what the storage says. -/
theorem Kept.step {d' : Device} {a : Action} (hd : d.Kept parseDate C h)
    (ha : C h d a) (hn : (device parseDate).next d a = some d') (hw : ¬ persists d a)
    (hstored : d'.stored = d.stored) (hlayer : d'.service.datalayer = d.service.datalayer)
    (hclock : d.clock ≤ d'.clock) : d'.Kept parseDate C (a :: h) := by
  rcases hd with ⟨hnone, hinitial⟩ | ⟨hcoherent, r, hr, hrecord, hsame⟩
  · exact .inl ⟨hstored.trans hnone, hlayer.trans hinitial⟩
  · refine .inr ⟨hcoherent.later hclock hlayer, r, hstored.trans hr, ?_, ?_⟩
    · exact ⟨hlayer ▸ hrecord.state, hlayer ▸ hrecord.sessionToken, hlayer ▸ hrecord.sessionJwt⟩
    · rcases hsame with hsame | hdropped
      · exact .inl (hlayer ▸ hsame)
      · exact .inr (hdropped.later ha hn hw)

/-- A step that writes what a coherent service holds. -/
theorem Kept.write {landed : Bool} {d' : Device} (hlanded : landed = true)
    (hcoherent : Coherent d'.clock d'.service)
    (hstored : d'.stored = syncToLocalStorage landed d'.service d.stored) :
    d'.Kept parseDate C h := by
  refine .inr ⟨hcoherent, _, ?_, recordOf_persisted _, .inl rfl⟩
  rw [hstored, hlanded]
  rfl

/-- Dropping an expired intermediate session token in memory keeps what the storage says, but for that
token. -/
theorem Kept.drop {d' : Device} (hd : d.Kept parseDate C h)
    (hr : Reach (device parseDate) C h d) (ha : C h d (.getIntermediateSessionToken now))
    (hn : (device parseDate).next d (.getIntermediateSessionToken now) = some d')
    (hexpired : d.service.istExpired now = true) (hstored : d'.stored = d.stored)
    (hlayer : d'.service.datalayer = d.service.datalayer.removeIST) :
    d'.Kept parseDate C (.getIntermediateSessionToken now :: h) := by
  rcases hd with ⟨-, hinitial⟩ | ⟨hcoherent, r, hr', hrecord, -⟩
  · rw [Service.istExpired, hinitial] at hexpired
    cases hexpired
  · have hnone : d'.service.datalayer.intermediateSessionToken = none := by
      rw [hlayer]
      rfl
    refine .inr ⟨⟨?_, fun _ => ?_, fun token htoken => ?_⟩, r, hstored.trans hr', ?_,
      .inr (.now hr ha hn hexpired)⟩
    · rw [Service.getState, Service.getTokens, hlayer]
      exact hcoherent.tokens
    · exact Service.getIntermediateSessionToken_of_none hnone
    · exact absurd (htoken.symm.trans hnone) (Option.some_ne_none token)
    · exact ⟨hlayer ▸ hrecord.state, hlayer ▸ hrecord.sessionToken, hlayer ▸ hrecord.sessionJwt⟩

theorem not_between_concat {new : Sync} {d' : Device} (hsyncs : d'.syncs = d.syncs ++ [new])
    (hd' : ¬ d'.Between) : ¬ d.Between := by
  rintro ⟨i, res, hi⟩
  refine hd' ⟨i, res, ?_⟩
  rw [hsyncs]
  exact (List.getElem?_append_left (List.getElem?_eq_some_iff.1 hi).1).trans hi

/-- A step that writes nothing and changes no data, and that keeps a service loading. -/
theorem Inv.kept_step {d' : Device} {a : Action} (hd : Inv parseDate h d) (hbetween : ¬ d.Between)
    (ha : restorable h d a) (hn : (device parseDate).next d a = some d') (hw : ¬ persists d a)
    (hstored : d'.stored = d.stored) (hlayer : d'.service.datalayer = d.service.datalayer)
    (hclock : d.clock ≤ d'.clock) (hloading : d.Loading → d'.Loading) :
    d'.Loading ∨ d'.Kept parseDate restorable (a :: h) :=
  (hd.kept hbetween).imp hloading fun hkept => hkept.step ha hn hw hstored hlayer hclock

theorem syncToLocalStorage_ne_malformed (s : Service) (stored : Option StoredText) :
    syncToLocalStorage true s stored ≠ some .malformed := by
  simp [syncToLocalStorage]

theorem inv_step {d' : Device} {a : Action} (hd : Inv parseDate h d)
    (hr : Reach (device parseDate) restorable h d) (ha : restorable h d a)
    (hn : (device parseDate).next d a = some d') : Inv parseDate (a :: h) d' := by
  cases step_of_device hn with
  | @op op now now' landed hnow hle =>
    have hlanded : landed = true := ha.1
    have hop := ha.2 op now now' landed rfl
    subst hlanded
    refine ⟨syncToLocalStorage_ne_malformed _ d.stored, hd.syncs, fun hbetween => .inr ?_⟩
    have hcoherent : Coherent d.clock d.service := by
      rcases hd.kept hbetween with hloading | ⟨-, hinitial⟩ | ⟨hcoherent, -⟩
      · exact coherent_initial _ hloading.2.1
      · exact coherent_initial _ hinitial
      · exact hcoherent
    exact @Kept.write parseDate restorable _ d true _ rfl
      (hcoherent.run hnow hle (hop.resolve_left hbetween)) rfl
  | @getIntermediateSessionToken now hnow =>
    refine ⟨hd.stored, hd.syncs, fun hbetween => ?_⟩
    cases hexpired : d.service.istExpired now with
    | false =>
      have hsame : d.service.dropExpiredIST now = d.service := by
        rw [Service.dropExpiredIST, if_neg (by simp [hexpired])]
      refine hd.kept_step hbetween ha hn id rfl (congrArg _ hsame) hnow fun hloading => ?_
      exact ⟨hloading.1, (congrArg _ hsame).trans hloading.2.1, hloading.2.2⟩
    | true =>
      have hdropped : d.service.dropExpiredIST now =
          { d.service with datalayer := d.service.datalayer.removeIST } := by
        rw [Service.dropExpiredIST, if_pos hexpired]
      rcases hd.kept hbetween with hloading | hkept
      · -- a service that is loading has no token that could expire
        rw [Service.istExpired, hloading.2.1] at hexpired
        cases hexpired
      · exact .inr (hkept.drop hr ha hn hexpired rfl (congrArg _ hdropped))
  | startSync =>
    refine ⟨hd.stored, Slots.forall_concat hd.syncs (by simp), fun hbetween => ?_⟩
    refine hd.kept_step (not_between_concat rfl hbetween) ha hn id rfl rfl le_rfl fun hloading => ?_
    exact ⟨hloading.1, hloading.2.1, Slots.forall_concat hloading.2.2 (.inl rfl)⟩
  | @read i failed hi =>
    have hread : failed = false := ha.1
    subst hread
    refine ⟨hd.stored, Slots.forall_set hd.syncs (by simpa using hd.stored), fun hbetween => ?_⟩
    refine hd.kept_step (not_between_set hi (by simp) rfl hbetween) ha hn id rfl rfl le_rfl
      fun hloading => ?_
    exact ⟨hloading.1, hloading.2.1, Slots.forall_set hloading.2.2 (.inr rfl)⟩
  | @assign i landed text hi =>
    cases text with
    | none =>
      refine ⟨hd.stored, Slots.forall_set hd.syncs (by simp), fun hbetween => ?_⟩
      refine hd.kept_step (not_between_set hi (by simp) rfl hbetween) ha hn id rfl rfl le_rfl
        fun hloading => ?_
      rcases hloading.2.2 i _ hi with hreading | hread
      · cases hreading
      · exact absurd (Sync.read.inj hread).symm hloading.1
    | some text =>
      cases text with
      | malformed => exact absurd rfl (hd.syncs i _ hi)
      | record r =>
        refine ⟨hd.stored, Slots.forall_set hd.syncs (by simp), fun hbetween => ?_⟩
        exact absurd ⟨i, r.diff, Slots.set_self hi⟩ hbetween
  | @apply i now now' landed res hi hnow hle =>
    have hlanded : landed = true := ha.1
    cases res with
    | none =>
      have hnothing : ¬ persists d (.apply i now now' landed) := by
        rintro ⟨res, hres⟩
        rw [hi] at hres
        cases hres
      rw [Service.applySync_wrote, Option.isSome_none, Bool.and_false] at hn ⊢
      refine ⟨hd.stored, Slots.forall_set hd.syncs (by simp), fun hbetween => ?_⟩
      refine hd.kept_step (not_between_set hi (by simp) rfl hbetween) ha hn hnothing rfl rfl
        (hnow.trans hle) fun hloading => ?_
      rcases hloading.2.2 i _ hi with hreading | hread
      · cases hreading
      · cases hread
    | some res =>
      rw [Service.applySync_wrote, Option.isSome_some, Bool.and_true]
      refine ⟨?_, Slots.forall_set hd.syncs (by simp), fun _ => .inr ?_⟩
      · rw [hlanded]
        exact syncToLocalStorage_ne_malformed _ d.stored
      · exact @Kept.write parseDate restorable _ d landed _ hlanded
          (coherent_updatedDataLayer now' _ _ (Service.datalayer_applySync ..)) rfl
  | restart =>
    refine ⟨hd.stored, by simp, fun _ => ?_⟩
    by_cases hstored : d.stored = none
    · exact .inr (.inl ⟨hstored, rfl⟩)
    · exact .inl ⟨hstored, rfl, by simp⟩

theorem inv_of_reach (hr : Reach (device parseDate) restorable h d) : Inv parseDate h d := by
  induction hr with
  | start hinit =>
    obtain rfl := hinit
    exact ⟨nofun, nofun, fun _ => .inr (.inl ⟨rfl, rfl⟩)⟩
  | step hr ha hn ih => exact inv_step ih hr ha hn

end Device

open Device

/-- In every run that meets `restorable`, a service that is not still loading, none of whose syncs
is about to apply a record, is restored from its storage while its session has not expired. -/
theorem rehydration_restores {parseDate : String → Option ℤ} {h : List Action} {d : Device}
    (hr : Reach (device parseDate) restorable h d) (hbetween : ¬ d.Between)
    (hloading : ¬ d.Loading) {now now' : ℕ} (hnow : d.clock ≤ now) (hle : now ≤ now')
    (hexp : Service.sessionExpired parseDate now d.service.getState = false) :
    d.Restores parseDate restorable h now now' :=
  (((inv_of_reach hr).kept hbetween).resolve_left hloading).restores hnow hle hexp

/-- The store after a login is restored. -/
theorem rehydration_restores_login :
    ∃ (h : List Action) (d : Device),
      h.length = 1 ∧ d.Restores (fun _ => none) restorable h 5 7 := by
  have hr : Reach (device fun _ => none) restorable [loginCall.action] _ :=
    .step (.start rfl) ⟨rfl, by rintro _ _ _ _ ⟨⟩; exact .inr trivial⟩ rfl
  refine ⟨_, _, rfl, rehydration_restores hr ?_ ?_ (Nat.zero_le 5) (Nat.le_add_right 5 2) rfl⟩
  · rintro ⟨i, res, hi⟩
    cases hi
  · rintro ⟨-, hinitial, -⟩
    cases congrArg DataLayer.sessionToken hinitial

/-- Tokens that `updateTokens` has stored before there is a state are not restored. -/
theorem rehydration_loses_tokens :
    ¬ ∀ h d now now', Reach (device fun _ => none) (fun _ _ a => storageWorks a) h d →
      ¬ d.Between → ¬ d.Loading → d.clock ≤ now → now ≤ now' →
      Service.sessionExpired (fun _ => none) now d.service.getState = false →
        d.Restores (fun _ => none) (fun _ _ a => storageWorks a) h now now' := by
  intro hall
  have hr : Reach (device fun _ => none) (fun _ _ a => storageWorks a)
      [.op (.updateTokens ⟨"token", some "jwt"⟩) 0 0 true] _ :=
    .step (.start rfl) rfl rfl
  have hrestores := hall _ _ 0 0 hr ?_ ?_ le_rfl le_rfl rfl
  · cases hrestores.tokens
  · rintro ⟨i, res, hi⟩
    cases hi
  · rintro ⟨-, hinitial, -⟩
    cases congrArg DataLayer.sessionToken hinitial

end StytchBrowser.Core
