import StytchBrowser.Core.SubscriptionService
import StytchBrowser.Lib.Machine
import StytchBrowser.Lib.Slots

/-!
# The core store over its device storage

A `Device` is one device storage together with the subscription service that currently runs on it,
the calls of `syncFromDeviceStorage` in flight and the clock. A sync takes three steps, one for each
point at which the code waits: the storage read resolves (with what is stored at that moment), the
fields of the record are assigned, and the result is applied. Restarting the application keeps the
storage only.

Every step that reads the clock carries its readings; the clock never goes back. The writes of a
step go through or fail as the step says (`landed`).
-/

namespace StytchBrowser.Core

/-- The entry points that write the store. -/
inductive Op where
  | updateStateAndTokens (diff : StateWithTokensDiff) (options : SessionUpdateOptions)
  | updateState (state : Option JsObject)
  | updateTokens (tokens : SessionTokensUpdate)
  | destroyState
  | destroySession

/-- The store after an entry point that reads the clock at `now` and `now'`. -/
def Service.run (now now' : ℕ) (s : Service) : Op → Service
  | .updateStateAndTokens diff options => (s.updateStateAndTokens now' diff options).1
  | .updateState state => (s.updateState state).1
  | .updateTokens tokens => s.updateTokens tokens
  | .destroyState => (s.destroyState now').1
  | .destroySession => (s.destroySession now now').1

/-- How far a call of `syncFromDeviceStorage` is. -/
inductive Sync where
  | reading
  | read (text : Option StoredText)
  | assigned (res : Option StateWithTokensDiff)
  | settled

/-- A device storage, the service on it and its syncs in flight. -/
structure Device where
  clock : ℕ
  service : Service
  stored : Option StoredText
  syncs : List Sync

/-- What can happen on a device. -/
inductive Action where
  | op (op : Op) (now now' : ℕ) (landed : Bool)
  | getIntermediateSessionToken (now : ℕ)
  | startSync
  /-- The read of the `i`th sync resolves, or fails. -/
  | read (i : ℕ) (failed : Bool)
  | assign (i : ℕ) (landed : Bool)
  | apply (i : ℕ) (now now' : ℕ) (landed : Bool)
  | restart

namespace Device

/-- A new application on an empty storage. -/
def initial : Device := ⟨0, .initial, none, []⟩

/-- The device storage after `syncToLocalStorage`. -/
def syncToLocalStorage (landed : Bool) (service : Service) (stored : Option StoredText) :
    Option StoredText :=
  if landed then some (.record service.datalayer.persisted) else stored

/-- The storage after the first continuation of a sync, which clears text that is not JSON. -/
def clearBadData (landed : Bool) (text stored : Option StoredText) : Option StoredText :=
  match text with
  | some .malformed => if landed then none else stored
  | _ => stored

variable (parseDate : String → Option ℤ)

/-- One step of a device, `none` when the step is not possible. -/
def next (d : Device) : Action → Option Device
  | .op op now now' landed =>
      if d.clock ≤ now ∧ now ≤ now' then
        let service := d.service.run now now' op
        some ⟨now', service, syncToLocalStorage landed service d.stored, d.syncs⟩
      else none
  | .getIntermediateSessionToken now =>
      if d.clock ≤ now then
        some { d with clock := now, service := d.service.dropExpiredIST now }
      else none
  | .startSync => some { d with syncs := d.syncs ++ [.reading] }
  | .read i failed =>
      match d.syncs[i]? with
      | some .reading =>
          some { d with syncs := d.syncs.set i (.read (if failed then none else d.stored)) }
      | _ => none
  | .assign i landed =>
      match d.syncs[i]? with
      | some (.read text) =>
          let (service, res) := d.service.syncFromLocalStorage text
          some ⟨d.clock, service, clearBadData landed text d.stored, d.syncs.set i (.assigned res)⟩
      | _ => none
  | .apply i now now' landed =>
      match d.syncs[i]? with
      | some (.assigned res) =>
          if d.clock ≤ now ∧ now ≤ now' then
            let (service, wrote) := d.service.applySync parseDate now now' res
            some ⟨now', service, syncToLocalStorage (landed && wrote) service d.stored,
              d.syncs.set i .settled⟩
          else none
      | _ => none
  | .restart => some { d with service := .initial, syncs := [] }

/-- The steps of a device as a relation. -/
inductive Step (d : Device) : Action → Device → Prop where
  | op {op : Op} {now now' : ℕ} {landed : Bool} : d.clock ≤ now → now ≤ now' →
      Step d (.op op now now' landed) ⟨now', d.service.run now now' op,
        syncToLocalStorage landed (d.service.run now now' op) d.stored, d.syncs⟩
  | getIntermediateSessionToken {now : ℕ} : d.clock ≤ now →
      Step d (.getIntermediateSessionToken now)
        { d with clock := now, service := d.service.dropExpiredIST now }
  | startSync : Step d .startSync { d with syncs := d.syncs ++ [.reading] }
  | read {i : ℕ} {failed : Bool} : d.syncs[i]? = some .reading →
      Step d (.read i failed)
        { d with syncs := d.syncs.set i (.read (if failed then none else d.stored)) }
  | assign {i : ℕ} {landed : Bool} {text : Option StoredText} : d.syncs[i]? = some (.read text) →
      Step d (.assign i landed) ⟨d.clock, (d.service.syncFromLocalStorage text).1,
        clearBadData landed text d.stored,
        d.syncs.set i (.assigned (d.service.syncFromLocalStorage text).2)⟩
  | apply {i now now' : ℕ} {landed : Bool} {res : Option StateWithTokensDiff} :
      d.syncs[i]? = some (.assigned res) → d.clock ≤ now → now ≤ now' →
      Step d (.apply i now now' landed) ⟨now', (d.service.applySync parseDate now now' res).1,
        syncToLocalStorage (landed && (d.service.applySync parseDate now now' res).2)
          (d.service.applySync parseDate now now' res).1 d.stored,
        d.syncs.set i .settled⟩
  | restart : Step d .restart { d with service := .initial, syncs := [] }

theorem step_of_next {d d' : Device} {a : Action} (h : next parseDate d a = some d') :
    Step parseDate d a d' := by
  cases a with
  | op op now now' landed =>
    simp only [next, Option.ite_none_right_eq_some, Option.some.injEq] at h
    obtain ⟨⟨hle, hle'⟩, rfl⟩ := h
    exact .op hle hle'
  | getIntermediateSessionToken now =>
    simp only [next, Option.ite_none_right_eq_some, Option.some.injEq] at h
    obtain ⟨hle, rfl⟩ := h
    exact .getIntermediateSessionToken hle
  | startSync =>
    obtain rfl := Option.some.inj h
    exact .startSync
  | read i failed =>
    simp only [next] at h
    split at h
    · next hi =>
      obtain rfl := Option.some.inj h
      exact .read hi
    · cases h
  | assign i landed =>
    simp only [next] at h
    split at h
    · next hi =>
      obtain rfl := Option.some.inj h
      exact .assign hi
    · cases h
  | apply i now now' landed =>
    simp only [next] at h
    split at h
    · next hi =>
      simp only [Option.ite_none_right_eq_some, Option.some.injEq] at h
      obtain ⟨⟨hle, hle'⟩, rfl⟩ := h
      exact .apply hi hle hle'
    · cases h
  | restart =>
    obtain rfl := Option.some.inj h
    exact .restart

end Device

/-- The runs of a device from an empty storage. -/
def device (parseDate : String → Option ℤ) : Machine Device Action where
  init d := d = .initial
  next := Device.next parseDate

end StytchBrowser.Core
