import StytchBrowser.Core.DeviceStorage

/-!
# Rehydrating a store that has moved on

`syncFromDeviceStorage` assigns the record it has read to the fields of the store and then applies
it as an update. Neither continuation looks at what the store holds by then, so an operation that
took place after the sync was started survives its resolution exactly when the record that was read
says nothing else than what the operation left (`late_sync_keeps_iff`).
-/

namespace StytchBrowser.Core

open Machine

/-- A call of an entry point, with the clock readings it makes and the fate of its write. -/
structure OpCall where
  op : Op
  now : ℕ
  now' : ℕ
  landed : Bool

def OpCall.action (c : OpCall) : Action := .op c.op c.now c.now' c.landed

namespace DataLayer

/-- The state, the session tokens and the intermediate session token. -/
def held (d : DataLayer) : StateWithTokensDiff :=
  ⟨d.state, d.sessionToken, d.sessionJwt, d.intermediateSessionToken⟩

theorem persisted_of_held {d d' : DataLayer} (h : d.held = d'.held) : d.persisted = d'.persisted := by
  obtain ⟨h₁, h₂, h₃, h₄⟩ := (StateWithTokensDiff.mk.injEq ..).mp h
  simp only [persisted, h₁, h₂, h₃, h₄]

/-- What an update leaves. -/
theorem held_updatedDataLayer (now : ℕ) (diff : StateWithTokensDiff) (d : DataLayer) :
    (Service.updatedDataLayer now diff d).held =
      match diff.state with
      | some state => ⟨some (spread d.state state), diff.sessionToken, diff.sessionJwt, none⟩
      | none => ⟨none, none, none, diff.intermediateSessionToken.filter (· ≠ "")⟩ := by
  unfold Service.updatedDataLayer
  cases diff.state with
  | some state => rfl
  | none =>
    cases hist : diff.intermediateSessionToken with
    | none => rfl
    | some token =>
      by_cases ht : token = "" <;> simp [truthyString, held, ht, Option.filter, removeIST,
        removeSessionTokens]

/-- The store holds what a record says once it is applied, up to a relation between its state and
the state of the record: nothing when the session of the record has expired, the state and the
session tokens when there is a state, the intermediate session token when there is none. -/
def Agrees (parseDate : String → Option ℤ) (now : ℕ) (rel : JsObject → JsObject → Prop)
    (r : PersistedRecord) (d : DataLayer) : Prop :=
  if Service.sessionExpired parseDate now (r.state.map parse) then d.held = ⟨none, none, none, none⟩
  else
    match r.state with
    | some state =>
        ∃ s, d.held = ⟨some s, r.sessionToken, r.sessionJwt, none⟩ ∧ rel s (parse state)
    | none => d.held = ⟨none, none, none, r.intermediateSessionToken.filter (· ≠ "")⟩

/-- Applying a record to a store with the data `base` leaves what `d` holds exactly when `d` agrees
with the record, `rel` being what spreading over the state of `base` comes to. -/
theorem held_applySync_iff (parseDate : String → Option ℤ) (now now' : ℕ)
    {rel : JsObject → JsObject → Prop} {r : PersistedRecord} {s : Service} {d : DataLayer}
    (hrel : ∀ state, r.state = some state → ∀ t, d.state = some t →
      (t = spread s.datalayer.state (parse state) ↔ rel t (parse state))) :
    (s.applySync parseDate now now' (some r.diff)).1.datalayer.held = d.held ↔
      d.Agrees parseDate now rel r := by
  rw [Service.datalayer_applySync, held_updatedDataLayer]
  unfold Agrees PersistedRecord.diff
  dsimp only
  split_ifs with hexp
  · exact eq_comm
  · cases hstate : r.state with
    | none => exact eq_comm
    | some state =>
      dsimp only [Option.map_some]
      constructor
      · intro h
        have hd : d.state = some (spread s.datalayer.state (parse state)) :=
          (congrArg StateWithTokensDiff.state h).symm
        exact ⟨_, h.symm, (hrel state hstate _ hd).1 rfl⟩
      · rintro ⟨t, h, ht⟩
        have hd : d.state = some t := congrArg StateWithTokensDiff.state h
        rw [h, ← (hrel state hstate t hd).2 ht]

end DataLayer

/-- The one state has every field that the other has, with the same value. -/
def Extends (s o : JsObject) : Prop := ∀ k v, o.get k = some v → s.get k = some v

namespace Device

/-- The resolution of a sync that has read `text` says nothing new to a device. -/
def Harmless (parseDate : String → Option ℤ) (now : ℕ) (rel : JsObject → JsObject → Prop)
    (cleared landed : Bool) (text : Option StoredText) (d : Device) : Prop :=
  match text with
  | none => True
  | some .malformed => cleared → d.stored = none
  | some (.record r) => d.service.datalayer.Agrees parseDate now rel r ∧
      (landed → d.stored = some (.record d.service.datalayer.persisted))

/-- `d'` holds and has persisted what `d` does. -/
def Keeps (d d' : Device) : Prop :=
  d'.service.datalayer.held = d.service.datalayer.held ∧ d'.stored = d.stored

variable {parseDate : String → Option ℤ}

/-! ## The sync along a run -/

theorem step_of_device {d d' : Device} {a : Action} (h : (device parseDate).next d a = some d') :
    Step parseDate d a d' :=
  step_of_next parseDate h

/-- Operations leave the syncs alone. -/
theorem syncs_exec_ops {ops : List OpCall} {d d' : Device}
    (h : (device parseDate).exec d (ops.map OpCall.action) = some d') : d'.syncs = d.syncs := by
  induction ops generalizing d with
  | nil =>
    obtain rfl := Option.some.inj h
    rfl
  | cons c ops ih =>
    obtain ⟨d₁, hd₁, h⟩ := Option.bind_eq_some_iff.1 h
    rw [ih h]
    cases step_of_device hd₁
    rfl

theorem syncs_started {ops : List OpCall} {d d' : Device}
    (h : (device parseDate).exec d (.startSync :: ops.map OpCall.action) = some d') :
    d'.syncs[d.syncs.length]? = some .reading := by
  obtain ⟨d₁, hd₁, h⟩ := Option.bind_eq_some_iff.1 h
  rw [syncs_exec_ops h]
  obtain rfl := Option.some.inj hd₁
  exact List.getElem?_concat_length

theorem syncs_read {ops : List OpCall} {d d' : Device} {i : ℕ} {failed : Bool}
    (hi : d.syncs[i]? = some .reading)
    (h : (device parseDate).exec d (.read i failed :: ops.map OpCall.action) = some d') :
    d'.syncs[i]? = some (.read (if failed then none else d.stored)) := by
  obtain ⟨d₁, hd₁, h⟩ := Option.bind_eq_some_iff.1 h
  rw [syncs_exec_ops h]
  cases step_of_device hd₁ with
  | read _ => exact Slots.set_self hi

/-- The first continuation. -/
theorem of_assign {d d' : Device} {i : ℕ} {landed : Bool} {text : Option StoredText}
    (hi : d.syncs[i]? = some (.read text))
    (h : (device parseDate).next d (.assign i landed) = some d') :
    d'.service = (d.service.syncFromLocalStorage text).1 ∧
      d'.stored = clearBadData landed text d.stored ∧
      d'.syncs[i]? = some (.assigned (d.service.syncFromLocalStorage text).2) := by
  cases step_of_device h with
  | assign hi' =>
    obtain rfl : _ = text := by simpa [hi] using hi'.symm
    exact ⟨rfl, rfl, Slots.set_self hi⟩

/-- The second continuation. -/
theorem of_apply {d d' : Device} {i now now' : ℕ} {landed : Bool}
    {res : Option StateWithTokensDiff} (hi : d.syncs[i]? = some (.assigned res))
    (h : (device parseDate).next d (.apply i now now' landed) = some d') :
    d'.service = (d.service.applySync parseDate now now' res).1 ∧
      d'.stored = syncToLocalStorage (landed && (d.service.applySync parseDate now now' res).2)
        (d.service.applySync parseDate now now' res).1 d.stored := by
  cases step_of_device h with
  | apply hi' _ _ =>
    obtain rfl : _ = res := by simpa [hi] using hi'.symm
    exact ⟨rfl, rfl⟩

/-! ## What a resolution keeps -/

/-- A read that found no record changes nothing when it is applied. -/
theorem keeps_of_no_record {d d' : Device} {i now now' : ℕ} {landed : Bool}
    (hi : d.syncs[i]? = some (.assigned none))
    (h : (device parseDate).next d (.apply i now now' landed) = some d') : d.Keeps d' := by
  obtain ⟨hservice, hstored⟩ := of_apply hi h
  refine ⟨by rw [hservice]; rfl, ?_⟩
  rw [hstored, syncToLocalStorage]
  simp [Service.applySync]

/-- What the application of a record keeps of a device `d`, whose storage is that of the device `d₃`
that the record is applied to. -/
theorem keeps_record_iff {d d₃ d' : Device} {i now now' : ℕ} {landed : Bool} {r : PersistedRecord}
    {rel : JsObject → JsObject → Prop} {cleared : Bool}
    (hi : d₃.syncs[i]? = some (.assigned (some r.diff))) (hstored : d₃.stored = d.stored)
    (hrel : ∀ state, r.state = some state → ∀ t, d.service.datalayer.state = some t →
      (t = spread d₃.service.datalayer.state (parse state) ↔ rel t (parse state)))
    (h : (device parseDate).next d₃ (.apply i now now' landed) = some d') :
    d.Keeps d' ↔ d.Harmless parseDate now rel cleared landed (some (.record r)) := by
  obtain ⟨hservice', hstored'⟩ := of_apply hi h
  have hwrote : (d₃.service.applySync parseDate now now' (some r.diff)).2 = true :=
    Service.applySync_wrote parseDate now now' (some r.diff) d₃.service
  unfold Keeps Harmless
  dsimp only
  rw [hservice', DataLayer.held_applySync_iff parseDate now now' hrel]
  refine and_congr_right fun hagrees => ?_
  have hheld := (DataLayer.held_applySync_iff parseDate now now' hrel).2 hagrees
  rw [hstored', hwrote, Bool.and_true, syncToLocalStorage, hstored,
    DataLayer.persisted_of_held hheld]
  cases landed
  · simp
  · simp [eq_comm]

end Device

/-- A login whose state has a session. -/
def loginCall : OpCall :=
  ⟨.updateStateAndTokens
    ⟨some (OrderedMap.empty.set "session" (some (.obj []))), some "token", some "jwt", none⟩
    (.fresh none), 0, 0, true⟩

def logoutCall : OpCall := ⟨.destroySession, 0, 0, true⟩

end StytchBrowser.Core
