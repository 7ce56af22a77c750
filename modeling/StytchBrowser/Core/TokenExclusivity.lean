import StytchBrowser.Core.DeviceStorage

/-!
# Session tokens and intermediate session tokens exclude each other

`updateStateAndTokens` clears the intermediate session token when it stores a state, and the session
tokens when it stores none. `updateTokens` writes the session tokens and leaves the intermediate
session token alone, so the exclusion rests on its callers: it holds over every run in which
`updateTokens` finds no intermediate session token, and a call that finds one breaks it.
-/

namespace StytchBrowser.Core

open Machine

/-- An intermediate session token is not held beside a session token or a session JWT. -/
def Exclusive (intermediateSessionToken sessionToken sessionJwt : Option String) : Prop :=
  intermediateSessionToken = none ∨ sessionToken = none ∧ sessionJwt = none

namespace DataLayer

/-- The exclusion for the tokens in memory. -/
protected def Exclusive (d : DataLayer) : Prop :=
  Core.Exclusive d.intermediateSessionToken d.sessionToken d.sessionJwt

/-- Neither a session token nor a session JWT is held. -/
def NoSessionTokens (d : DataLayer) : Prop := d.sessionToken = none ∧ d.sessionJwt = none

theorem NoSessionTokens.exclusive {d : DataLayer} (h : d.NoSessionTokens) : d.Exclusive := .inr h

theorem exclusive_of_noIST {d : DataLayer} (h : d.intermediateSessionToken = none) : d.Exclusive :=
  .inl h

end DataLayer

/-- The exclusion for the tokens that are persisted. -/
protected def PersistedRecord.Exclusive (r : PersistedRecord) : Prop :=
  Core.Exclusive r.intermediateSessionToken r.sessionToken r.sessionJwt

namespace Service

open DataLayer

/-! ## One operation -/

theorem updatedDataLayer_cases (now : ℕ) (diff : StateWithTokensDiff) (d : DataLayer) :
    (diff.state ≠ none ∧ (updatedDataLayer now diff d).intermediateSessionToken = none) ∨
      (diff.state = none ∧ (updatedDataLayer now diff d).NoSessionTokens) := by
  unfold updatedDataLayer
  cases hs : diff.state with
  | some state => exact .inl ⟨by simp, rfl⟩
  | none =>
    refine .inr ⟨rfl, ?_⟩
    dsimp only
    split_ifs <;> exact ⟨rfl, rfl⟩

theorem exclusive_updatedDataLayer (now : ℕ) (diff : StateWithTokensDiff) (d : DataLayer) :
    (updatedDataLayer now diff d).Exclusive := by
  rcases updatedDataLayer_cases now diff d with ⟨-, h⟩ | ⟨-, h⟩
  · exact exclusive_of_noIST h
  · exact h.exclusive

theorem noSessionTokens_updatedDataLayer (now : ℕ) {diff : StateWithTokensDiff} (d : DataLayer)
    (hs : diff.state = none) : (updatedDataLayer now diff d).NoSessionTokens := by
  rcases updatedDataLayer_cases now diff d with ⟨h, -⟩ | ⟨-, h⟩
  · exact absurd hs h
  · exact h

theorem exclusive_dropExpiredIST (now : ℕ) {s : Service} (hs : s.datalayer.Exclusive) :
    (s.dropExpiredIST now).datalayer.Exclusive := by
  unfold dropExpiredIST
  split_ifs
  · exact exclusive_of_noIST rfl
  · exact hs

theorem noSessionTokens_dropExpiredIST (now : ℕ) {s : Service}
    (hs : s.datalayer.NoSessionTokens) : (s.dropExpiredIST now).datalayer.NoSessionTokens := by
  unfold dropExpiredIST
  split_ifs
  · exact hs
  · exact hs

theorem exclusive_updateTokens_iff (tokens : SessionTokensUpdate) (s : Service) :
    (s.updateTokens tokens).datalayer.Exclusive ↔ s.datalayer.intermediateSessionToken = none :=
  ⟨fun h => h.resolve_right fun h => Option.some_ne_none _ h.1, fun h => .inl h⟩

theorem exclusive_run (now now' : ℕ) (op : Op) {s : Service} (hs : s.datalayer.Exclusive)
    (hop : ∀ tokens, op = .updateTokens tokens → s.datalayer.intermediateSessionToken = none) :
    (s.run now now' op).datalayer.Exclusive := by
  cases op with
  | updateStateAndTokens diff options =>
    rw [run, datalayer_updateStateAndTokens]
    exact exclusive_updatedDataLayer _ _ _
  | updateState state => exact hs
  | updateTokens tokens => exact (exclusive_updateTokens_iff tokens s).2 (hop tokens rfl)
  | destroyState => exact exclusive_updatedDataLayer _ _ _
  | destroySession => exact exclusive_updatedDataLayer _ _ _

/-- Whether applying the result of a sync makes the state `null`. -/
def syncClears (parseDate : String → Option ℤ) (now : ℕ) (res : StateWithTokensDiff) : Prop :=
  sessionExpired parseDate now res.state ∨ res.state = none

section Sync

variable (parseDate : String → Option ℤ) (now now' : ℕ)

theorem exclusive_applySync (res : Option StateWithTokensDiff) {s : Service}
    (hs : s.datalayer.Exclusive) : (s.applySync parseDate now now' res).1.datalayer.Exclusive := by
  cases res with
  | none => exact hs
  | some res =>
    rw [datalayer_applySync]
    exact exclusive_updatedDataLayer _ _ _

theorem noSessionTokens_applySync {res : StateWithTokensDiff} (s : Service)
    (hres : syncClears parseDate now res) :
    (s.applySync parseDate now now' (some res)).1.datalayer.NoSessionTokens := by
  rw [datalayer_applySync]
  split_ifs with hexp
  · exact noSessionTokens_updatedDataLayer _ _ rfl
  · exact noSessionTokens_updatedDataLayer _ _ (hres.resolve_left hexp)

end Sync

theorem getTokens_of_noSessionTokens {s : Service} (hs : s.datalayer.NoSessionTokens) :
    s.getTokens = none := by
  unfold getTokens
  rw [hs.1]

end Service

/-! ## Runs -/

/-- The exclusion for a record that a sync is about to assign. -/
def Sync.ReadsExclusive : Sync → Prop
  | .read (some (.record r)) => r.Exclusive
  | _ => True

namespace Device

/-- The exclusion in memory, in the device storage and in every record a sync has read. -/
structure TokensExclusive (d : Device) : Prop where
  service : d.service.datalayer.Exclusive
  stored : ∀ r, d.stored = some (.record r) → r.Exclusive
  syncs : ∀ (i : ℕ) (sync : Sync), d.syncs[i]? = some sync → sync.ReadsExclusive

/-- `updateTokens` is called only while no intermediate session token is held. -/
def updatesTokensWithoutIST (d : Device) : Action → Bool
  | .op (.updateTokens _) _ _ _ => d.service.datalayer.intermediateSessionToken.isNone
  | _ => true

/-- The guard of runs that meet `updatesTokensWithoutIST` at every step. -/
def tokensWithoutIST : Guard Device Action := fun _ d a => d.updatesTokensWithoutIST a

instance (h : List Action) (d : Device) (a : Action) : Decidable (tokensWithoutIST h d a) :=
  inferInstanceAs (Decidable (_ = true))

variable (parseDate : String → Option ℤ)

/-- The steps that make the state `null`: `destroyState`, `destroySession`, `updateStateAndTokens`
with a `null` state, and a sync that ends in one of them. -/
def clears (d : Device) : Action → Prop
  | .op (.updateStateAndTokens diff _) _ _ _ => diff.state = none
  | .op .destroyState _ _ _ => True
  | .op .destroySession _ _ _ => True
  | .apply i now _ _ =>
      ∃ res, d.syncs[i]? = some (.assigned (some res)) ∧ Service.syncClears parseDate now res
  | _ => False

/-- The steps that write the store. -/
def writes (d : Device) : Action → Prop
  | .op _ _ _ _ => True
  | .assign i _ => ∃ r, d.syncs[i]? = some (.read (some (.record r)))
  | .apply i _ _ _ => ∃ res, d.syncs[i]? = some (.assigned (some res))
  | _ => False

variable {parseDate}

theorem exclusive_persisted {s : Service} (hs : s.datalayer.Exclusive) {landed : Bool}
    {stored : Option StoredText} (hd : ∀ r, stored = some (.record r) → r.Exclusive)
    (r : PersistedRecord) (hr : syncToLocalStorage landed s stored = some (.record r)) :
    r.Exclusive := by
  cases landed with
  | false => exact hd r hr
  | true =>
    cases hr
    exact hs

theorem TokensExclusive.step {d d' : Device} {a : Action} (hd : d.TokensExclusive)
    (hc : d.updatesTokensWithoutIST a) (hs : Step parseDate d a d') : d'.TokensExclusive := by
  cases hs with
  | @op op now now' landed hle hle' =>
    have hop : (d.service.run now now' op).datalayer.Exclusive := by
      refine Service.exclusive_run now now' op hd.service fun tokens ht => ?_
      subst ht
      exact Option.isNone_iff_eq_none.1 hc
    exact ⟨hop, exclusive_persisted hop hd.stored, hd.syncs⟩
  | getIntermediateSessionToken _ =>
    exact ⟨Service.exclusive_dropExpiredIST _ hd.service, hd.stored, hd.syncs⟩
  | startSync =>
    exact ⟨hd.service, hd.stored, Slots.forall_concat hd.syncs (by trivial)⟩
  | @read i failed hi =>
    refine ⟨hd.service, hd.stored, Slots.forall_set hd.syncs ?_⟩
    cases failed with
    | true => trivial
    | false =>
      rcases hst : d.stored with _ | _ | r
      · trivial
      · trivial
      · exact hd.stored r hst
  | @assign i landed text hi =>
    refine ⟨?_, fun r hr => ?_, Slots.forall_set hd.syncs (by trivial)⟩
    · rcases text with _ | _ | r
      · exact hd.service
      · exact hd.service
      · exact hd.syncs i _ hi
    · rcases text with _ | _ | _
      · exact hd.stored r hr
      · cases landed with
        | true => cases hr
        | false => exact hd.stored r hr
      · exact hd.stored r hr
  | @apply i now now' landed res hi =>
    have hap := Service.exclusive_applySync parseDate now now' res hd.service
    exact ⟨hap, exclusive_persisted hap hd.stored, Slots.forall_set hd.syncs (by trivial)⟩
  | restart => exact ⟨DataLayer.exclusive_of_noIST rfl, hd.stored, fun i sync hi => nomatch hi⟩

theorem noSessionTokens_of_clears {d d' : Device} {a : Action} (hc : d.clears parseDate a)
    (hs : Step parseDate d a d') : d'.service.datalayer.NoSessionTokens := by
  cases hs with
  | @op op =>
    cases op with
    | updateStateAndTokens diff options =>
      simp only [Service.run, Service.datalayer_updateStateAndTokens]
      exact Service.noSessionTokens_updatedDataLayer _ _ hc
    | destroyState => exact Service.noSessionTokens_updatedDataLayer _ _ rfl
    | destroySession => exact Service.noSessionTokens_updatedDataLayer _ _ rfl
    | updateState _ => exact hc.elim
    | updateTokens _ => exact hc.elim
  | apply hi _ _ =>
    obtain ⟨res, hi', hres⟩ := hc
    rw [hi] at hi'
    cases hi'
    exact Service.noSessionTokens_applySync _ _ _ _ hres
  | getIntermediateSessionToken _ => exact hc.elim
  | startSync => exact hc.elim
  | read _ => exact hc.elim
  | assign _ => exact hc.elim
  | restart => exact hc.elim

theorem noSessionTokens_of_not_writes {d d' : Device} {a : Action}
    (hd : d.service.datalayer.NoSessionTokens) (hw : ¬ d.writes a) (hs : Step parseDate d a d') :
    d'.service.datalayer.NoSessionTokens := by
  cases hs with
  | op _ _ => exact absurd trivial hw
  | getIntermediateSessionToken _ => exact Service.noSessionTokens_dropExpiredIST _ hd
  | startSync => exact hd
  | read _ => exact hd
  | @assign _ _ text hi =>
    rcases text with _ | _ | r
    · exact hd
    · exact hd
    · exact absurd ⟨r, hi⟩ hw
  | @apply _ _ _ _ res hi =>
    cases res with
    | none => exact hd
    | some res => exact absurd ⟨res, hi⟩ hw
  | restart => exact ⟨rfl, rfl⟩

end Device

open Device

end StytchBrowser.Core
