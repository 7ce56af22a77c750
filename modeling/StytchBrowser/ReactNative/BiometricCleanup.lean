import StytchBrowser.Lib.Machine
import StytchBrowser.Lib.Slots
import StytchBrowser.ReactNative.BiometricsClient

/-!
# The cleanup of orphaned biometric registrations

On every change of the user the React Native client compares the registration id that the device
has stored with the registrations of the user record, and deletes the keys of the device when the id
is not among them. The record can be older than a registration, and the stored id older or newer
than the keys: an id is stored before its registration is complete, and the one of an earlier
registration may still be there.

`App` interleaves one call of `register` with such notifications at their awaits. As long as no
comparison of this kind comes out against the id that is found while the keys of the registration
are there, these keys stay (`cleanup_keeps_live_keys`). What follows a step of `register` that fails
is described in `BiometricsClient`.
-/

namespace StytchBrowser.ReactNative

open Machine

/-- How far `register` is. -/
inductive Registering where
  | idle
  /-- No key was there; before `createKeys`. -/
  | available
  | starting
  | signing (biometricRegistrationId : String)
  | completing (biometricRegistrationId : String)
  | completed (biometricRegistrationId : String)
  /-- A step has failed, one of the native module with its error. -/
  | failed (cause : Option BiometricError)

/-- How far the work that a notification starts is. -/
inductive Cleanup where
  /-- Before the last user is read from the storage. -/
  | notified (record : List String)
  /-- Before the stored id is read: the record to compare it with, unless the user has changed. -/
  | looking (record : Option (List String))
  /-- Before the keys are deleted. -/
  | deleting
  | done
  deriving DecidableEq

/-- The device and the storage of an app, its call of `register`, the notifications it has been
given, and the server: the registrations of the user and the records it has answered with. -/
structure App (σ : Type) where
  device : σ
  lastAuthenticatedUserId : Option String
  registering : Registering
  /-- `createKeys` has left a key. -/
  created : Bool
  cleanups : List Cleanup
  /-- The writes of the last user that are under way. -/
  saving : ℕ
  registrations : List String
  served : List (List String)

/-- What can happen to an app. -/
inductive AppAction (κ : Type) where
  | isRegistrationAvailable
  | createKeys (o : RegisterOptions) (k : κ)
  /-- The answer of `/biometrics/register/start`, and whether the user record lists the registration
  from then on. -/
  | start (answer : Option String) (listed : Bool)
  | createSignature (signs : Bool)
  | complete (ok : Bool)
  /-- The server answers a request with the user. -/
  | serve
  | deleteOnServer (id : String)
  /-- The store notifies of the user that an answer has brought. -/
  | notify (k : ℕ)
  | getLastUser (i : ℕ) (failed : Bool)
  | saveLastUser (landed : Bool)
  | getBiometricRegistrationId (i : ℕ) (failed : Bool)
  | deleteKeys (i : ℕ) (works : Bool)

variable {σ κ : Type}

/-- The test of `cleanupPotentiallyOrphanedBiometricRegistrations`, and the one for another user. -/
def orphaned (record : Option (List String)) (localRegistrationId : Option String) : Bool :=
  match localRegistrationId with
  | none => false
  | some id =>
      id ≠ "" && (match record with
        | some record => !record.contains id
        | none => true)

/-- `getBiometricRegistrationId` of the client, which takes an error for no id. -/
def NativeBiometrics.localRegistrationId (native : NativeBiometrics σ κ) (d : σ) : Option String :=
  (native.getBiometricRegistrationId d).toOption.join

/-- The registration is under way, or complete and on the server. -/
def Registering.Alive (registrations : List String) : Registering → Prop
  | .starting | .signing _ | .completing _ => True
  | .completed id => id ∈ registrations
  | .idle | .available | .failed _ => False

namespace App

variable (native : NativeBiometrics σ κ) (userId : String)

/-- The work of notification `i` moves on. -/
def setCleanup (s : App σ) (i : ℕ) (c : Cleanup) : App σ :=
  { s with cleanups := s.cleanups.set i c }

/-- `processPotentialBiometricRegistrationCleanups` after the last user has been read. -/
def comparison (userId : String) (lastAuthenticatedUserId : Option String) (record : List String) :
    Option (List String) :=
  match lastAuthenticatedUserId with
  | none => some record
  | some last => if last = "" ∨ last = userId then some record else none

/-- One step, `none` when it is not possible. -/
def next (s : App σ) : AppAction κ → Option (App σ)
  | .isRegistrationAvailable =>
      match s.registering with
      | .idle =>
          some { s with registering :=
            if native.biometricKeysExist s.device then .failed none else .available }
      | _ => none
  | .createKeys o k =>
      match s.registering with
      | .available =>
          match native.createKeys o k s.device with
          | (.ok (), device) =>
              some { s with device, registering := .starting,
                            created := native.biometricKeysExist device }
          | (.error e, device) => some { s with device, registering := .failed (some e) }
      | _ => none
  | .start answer listed =>
      match s.registering, answer with
      | .starting, some id =>
          some { s with registering := .signing id,
                        registrations := if listed then id :: s.registrations else s.registrations }
      | .starting, none => some { s with registering := .failed none }
      | _, _ => none
  | .createSignature signs =>
      match s.registering with
      | .signing id =>
          match native.createSignature id signs s.device with
          | (.ok (), device) => some { s with device, registering := .completing id }
          | (.error e, device) => some { s with device, registering := .failed (some e) }
      | _ => none
  | .complete ok =>
      match s.registering with
      | .completing id =>
          some (if ok then
            { s with registering := .completed id, registrations := s.registrations.insert id }
          else { s with registering := .failed none })
      | _ => none
  | .serve => some { s with served := s.served ++ [s.registrations] }
  | .deleteOnServer id => some { s with registrations := s.registrations.filter (· ≠ id) }
  | .notify k =>
      match s.served[k]? with
      | some record => some { s with cleanups := s.cleanups ++ [.notified record] }
      | none => none
  | .getLastUser i failed =>
      match s.cleanups[i]? with
      | some (.notified record) =>
          some (if failed then s.setCleanup i .done
          else { s.setCleanup i (.looking (comparison userId s.lastAuthenticatedUserId record)) with
            saving := s.saving + 1 })
      | _ => none
  | .saveLastUser landed =>
      if s.saving = 0 then none
      else some { s with
        saving := s.saving - 1
        lastAuthenticatedUserId := if landed then some userId else s.lastAuthenticatedUserId }
  | .getBiometricRegistrationId i failed =>
      match s.cleanups[i]? with
      | some (.looking record) =>
          some (s.setCleanup i
            (if !failed && orphaned record (native.localRegistrationId s.device) then .deleting
            else .done))
      | _ => none
  | .deleteKeys i works =>
      match s.cleanups[i]? with
      | some .deleting =>
          some { s.setCleanup i .done with
            device := if works then (native.deleteKeys s.device).2 else s.device }
      | _ => none

/-- `register` has created keys, and their registration is under way, or complete and on the
server. -/
def Live (s : App σ) : Prop := s.created = true ∧ s.registering.Alive s.registrations

end App

/-- The runs of an app with one call of `register` and notifications of one user. -/
def app (native : NativeBiometrics σ κ) (userId : String) : Machine (App σ) (AppAction κ) where
  init s := s.registering = .idle ∧ s.created = false ∧ s.cleanups = []
  next := App.next native userId

/-- The steps that keep the keys: `createKeys` comes when no cleanup is about to delete, and while
the keys are live, an id that a cleanup reads is no orphan by its record. -/
def KeepsKeys (native : NativeBiometrics σ κ) : Guard (App σ) (AppAction κ) := fun _ s a =>
  match a with
  | .createKeys _ _ => .deleting ∉ s.cleanups
  | .getBiometricRegistrationId i false => s.Live → ∀ record,
      s.cleanups[i]? = some (.looking record) →
        orphaned record (native.localRegistrationId s.device) = false
  | _ => True

namespace App

variable {native : NativeBiometrics σ κ} {userId : String}

variable (native) in
/-- What the steps that keep the keys keep. -/
structure KeysKept (s : App σ) : Prop where
  /-- Live keys are there, and no cleanup is about to delete them. -/
  live : s.Live → native.biometricKeysExist s.device = true ∧ .deleting ∉ s.cleanups
  /-- `createSignature` has not missed a key that was created. -/
  signed : s.created = true → s.registering ≠ .failed (some .MissingPublicKey)
  fresh : s.registering = .idle ∨ s.registering = .available → s.created = false

namespace KeysKept

variable {s s' : App σ}

theorem alive_mono {l l' : List String} (h : ∀ id ∈ l', id ∈ l) {r : Registering}
    (hr : r.Alive l') : r.Alive l := by
  cases r with
  | completed id => exact h id hr
  | starting => trivial
  | signing _ => trivial
  | completing _ => trivial
  | idle => exact hr
  | available => exact hr
  | failed _ => exact hr

/-- A step that leaves the device, the attempt and the created keys alone, deletes no registration
that is not deleted already, and brings no cleanup to its deletion. -/
theorem of_same (hinv : s.KeysKept native) (hdevice : s'.device = s.device)
    (hcreated : s'.created = s.created) (hreg : s'.registering = s.registering)
    (hlist : ∀ id ∈ s'.registrations, id ∈ s.registrations)
    (hdeleting : .deleting ∈ s'.cleanups → .deleting ∈ s.cleanups) : s'.KeysKept native := by
  have hlive : s'.Live → s.Live := by
    unfold Live
    rw [hcreated, hreg]
    exact And.imp_right (alive_mono hlist)
  refine ⟨fun h => ?_, ?_, ?_⟩
  · obtain ⟨hkeys, hnone⟩ := hinv.live (hlive h)
    exact ⟨hdevice ▸ hkeys, fun hmem => hnone (hdeleting hmem)⟩
  · rw [hcreated, hreg]
    exact hinv.signed
  · rw [hcreated, hreg]
    exact hinv.fresh

/-- A step of an attempt that has its keys and goes on, or fails for a reason that is not their
absence. -/
theorem of_attempt (hinv : s.KeysKept native) {r : Registering} {registrations : List String}
    (halive : s.registering.Alive s.registrations)
    (hmissing : r ≠ .failed (some .MissingPublicKey)) (hidle : r ≠ .idle)
    (havailable : r ≠ .available) :
    { s with registering := r, registrations }.KeysKept native := by
  refine ⟨fun h => ?_, fun _ => hmissing, fun h => (h.elim hidle havailable).elim⟩
  exact hinv.live ⟨h.1, halive⟩

theorem deleting_of_set {l : List Cleanup} {i : ℕ} {c : Cleanup} (hc : c ≠ .deleting)
    (h : .deleting ∈ l.set i c) : .deleting ∈ l :=
  (List.mem_or_eq_of_mem_set h).resolve_right hc.symm

theorem setCleanup (hinv : s.KeysKept native) (i : ℕ) {c : Cleanup} (hc : c ≠ .deleting) :
    (s.setCleanup i c).KeysKept native :=
  hinv.of_same rfl rfl rfl (fun _ => id) (deleting_of_set hc)

theorem isRegistrationAvailable (hinv : s.KeysKept native)
    (hn : next native userId s .isRegistrationAvailable = some s') : s'.KeysKept native := by
  unfold next at hn
  cases hreg : s.registering with
  | idle =>
    rw [hreg] at hn
    obtain rfl := Option.some.inj hn
    have hcreated := hinv.fresh (.inl hreg)
    refine ⟨fun h => ?_, fun h => ?_, fun _ => hcreated⟩
    · cases hcreated.symm.trans h.1
    · cases hcreated.symm.trans h
  | _ => simp [hreg] at hn

theorem createKeys {o : RegisterOptions} {k : κ} (hinv : s.KeysKept native)
    (hsafe : .deleting ∉ s.cleanups)
    (hn : next native userId s (.createKeys o k) = some s') : s'.KeysKept native := by
  unfold next at hn
  cases hreg : s.registering with
  | available =>
    rw [hreg] at hn
    dsimp only at hn
    generalize native.createKeys o k s.device = result at hn
    have hcreated := hinv.fresh (.inr hreg)
    obtain ⟨_ | _, d⟩ := result
    · obtain rfl := Option.some.inj hn
      refine ⟨fun h => h.2.elim, fun h => ?_, fun _ => hcreated⟩
      cases hcreated.symm.trans h
    · obtain rfl := Option.some.inj hn
      exact ⟨fun h => ⟨h.1, hsafe⟩, fun _ => nofun, fun h => h.elim nofun nofun⟩
  | _ => simp [hreg] at hn

theorem start {answer : Option String} {listed : Bool} (hinv : s.KeysKept native)
    (hn : next native userId s (.start answer listed) = some s') : s'.KeysKept native := by
  unfold next at hn
  cases hreg : s.registering with
  | starting =>
    have halive : s.registering.Alive s.registrations := hreg ▸ trivial
    rw [hreg] at hn
    cases answer with
    | some id =>
      obtain rfl := Option.some.inj hn
      exact hinv.of_attempt halive nofun nofun nofun
    | none =>
      obtain rfl := Option.some.inj hn
      exact hinv.of_attempt halive nofun nofun nofun
  | _ => simp [hreg] at hn

theorem createSignature {signs : Bool} (hinv : s.KeysKept native)
    (hn : next native userId s (.createSignature signs) = some s') : s'.KeysKept native := by
  unfold next at hn
  cases hreg : s.registering with
  | signing id =>
    have halive : s.registering.Alive s.registrations := hreg ▸ trivial
    have hkeys := native.keys_createSignature id signs s.device
    have hmissing := native.keys_of_missing id signs s.device
    rw [hreg] at hn
    dsimp only at hn
    generalize native.createSignature id signs s.device = result at hn hkeys hmissing
    obtain ⟨e | _, d⟩ := result
    · obtain rfl := Option.some.inj hn
      refine ⟨fun h => h.2.elim, fun hcreated hfailed => ?_, fun h => h.elim nofun nofun⟩
      injection hfailed with hfailed
      have hgone := hmissing (congrArg Except.error (Option.some.inj hfailed))
      rw [(hinv.live ⟨hcreated, halive⟩).1] at hgone
      cases hgone
    · obtain rfl := Option.some.inj hn
      refine ⟨fun h => ?_, fun _ => nofun, fun h => h.elim nofun nofun⟩
      obtain ⟨hkey, hnone⟩ := hinv.live ⟨h.1, halive⟩
      exact ⟨hkeys.trans hkey, hnone⟩
  | _ => simp [hreg] at hn

theorem complete {ok : Bool} (hinv : s.KeysKept native)
    (hn : next native userId s (.complete ok) = some s') : s'.KeysKept native := by
  unfold next at hn
  cases hreg : s.registering with
  | completing id =>
    have halive : s.registering.Alive s.registrations := hreg ▸ trivial
    rw [hreg] at hn
    obtain rfl := Option.some.inj hn
    cases ok
    · exact hinv.of_attempt halive nofun nofun nofun
    · exact hinv.of_attempt halive nofun nofun nofun
  | _ => simp [hreg] at hn

theorem getBiometricRegistrationId {i : ℕ} {failed : Bool} (hinv : s.KeysKept native)
    {h : List (AppAction κ)} (hsafe : KeepsKeys native h s (.getBiometricRegistrationId i failed))
    (hn : next native userId s (.getBiometricRegistrationId i failed) = some s') :
    s'.KeysKept native := by
  unfold next at hn
  dsimp only at hn
  cases hi : s.cleanups[i]? with
  | none => simp [hi] at hn
  | some c =>
    cases c with
    | looking record =>
      rw [hi] at hn
      obtain rfl := Option.some.inj hn
      by_cases horphan :
          (!failed && orphaned record (native.localRegistrationId s.device)) = true
      · -- the keys are not live, or this id would not be an orphan
        have hdead : ¬ s.Live := fun hlive => by
          cases failed
          · rw [hsafe hlive record hi] at horphan
            cases horphan
          · cases horphan
        exact ⟨fun hlive => absurd hlive hdead, hinv.signed, hinv.fresh⟩
      · rw [if_neg horphan]
        exact hinv.setCleanup i nofun
    | _ => simp [hi] at hn

theorem deleteKeys {i : ℕ} {works : Bool} (hinv : s.KeysKept native)
    (hn : next native userId s (.deleteKeys i works) = some s') : s'.KeysKept native := by
  unfold next at hn
  dsimp only at hn
  cases hi : s.cleanups[i]? with
  | none => simp [hi] at hn
  | some c =>
    cases c with
    | deleting =>
      rw [hi] at hn
      obtain rfl := Option.some.inj hn
      have hdead : ¬ s.Live := fun hlive => (hinv.live hlive).2 (List.mem_of_getElem? hi)
      exact ⟨fun hlive => absurd hlive hdead, hinv.signed, hinv.fresh⟩
    | _ => simp [hi] at hn

theorem getLastUser {i : ℕ} {failed : Bool} (hinv : s.KeysKept native)
    (hn : next native userId s (.getLastUser i failed) = some s') : s'.KeysKept native := by
  unfold next at hn
  dsimp only at hn
  cases hi : s.cleanups[i]? with
  | none => simp [hi] at hn
  | some c =>
    cases c with
    | notified record =>
      rw [hi] at hn
      obtain rfl := Option.some.inj hn
      cases failed
      · have hlooking : ∀ c, (s.setCleanup i (.looking c)).KeysKept native := fun _ =>
          hinv.setCleanup i nofun
        exact (hlooking _).of_same rfl rfl rfl (fun _ => id) fun h => h
      · exact hinv.setCleanup i nofun
    | _ => simp [hi] at hn

/-- A step that the guard admits keeps the keys. -/
theorem step {h : List (AppAction κ)} {a : AppAction κ} (hinv : s.KeysKept native)
    (hsafe : KeepsKeys native h s a) (hn : next native userId s a = some s') :
    s'.KeysKept native := by
  cases a with
  | isRegistrationAvailable => exact hinv.isRegistrationAvailable hn
  | createKeys o k => exact hinv.createKeys hsafe hn
  | start answer listed => exact hinv.start hn
  | createSignature signs => exact hinv.createSignature hn
  | complete ok => exact hinv.complete hn
  | serve =>
    obtain rfl := Option.some.inj hn
    exact hinv.of_same rfl rfl rfl (fun _ => id) id
  | deleteOnServer id =>
    obtain rfl := Option.some.inj hn
    exact hinv.of_same rfl rfl rfl (fun _ h => List.mem_of_mem_filter h) fun h => h
  | notify k =>
    unfold next at hn
    dsimp only at hn
    cases hk : s.served[k]? with
    | none => simp [hk] at hn
    | some record =>
      rw [hk] at hn
      obtain rfl := Option.some.inj hn
      exact hinv.of_same rfl rfl rfl (fun _ => id) fun h => by simpa using h
  | getLastUser i failed => exact hinv.getLastUser hn
  | saveLastUser landed =>
    obtain rfl := Option.some.inj (Option.ite_none_left_eq_some.1 hn).2
    exact hinv.of_same rfl rfl rfl (fun _ => id) id
  | getBiometricRegistrationId i failed => exact hinv.getBiometricRegistrationId hsafe hn
  | deleteKeys i works => exact hinv.deleteKeys hn

end KeysKept

/-- In every run whose steps keep the keys, the keys of a registration that is under way, or
complete and on the server, are there in every state reached, and `createSignature` has not missed
them. -/
theorem cleanup_keeps_live_keys {h : List (AppAction κ)} {s : App σ}
    (hr : Reach (app native userId) (KeepsKeys native) h s) :
    (s.Live → native.biometricKeysExist s.device = true) ∧
      (s.created = true → s.registering ≠ .failed (some .MissingPublicKey)) := by
  have hinv : s.KeysKept native := by
    induction hr with
    | start h0 =>
      obtain ⟨hidle, hcreated, -⟩ := h0
      refine ⟨fun h => ?_, fun h => ?_, fun _ => hcreated⟩
      · cases hcreated.symm.trans h.1
      · cases hcreated.symm.trans h
    | step _ hsafe hn ih => exact ih.step hsafe hn
  exact ⟨fun hlive => (hinv.live hlive).1, hinv.signed⟩

end App

/-- An app on a fresh Android device. -/
def freshApp : App Android.Device := ⟨.initial, none, .idle, false, [], 0, [], []⟩

/-- A registration on Android that goes well, newest step first. -/
def registration : List (AppAction Android.Creation) :=
  [.complete true, .createSignature true, .start (some "new") true,
    .createKeys ⟨false, false⟩ ⟨⟨true, none, none, 7, true⟩, .sealed⟩, .isRegistrationAvailable]

/-- The work of the first notification up to its decision, newest step first. -/
def notification : List (AppAction Android.Creation) :=
  [.getBiometricRegistrationId 0 false, .getLastUser 0 false, .notify 0]

/-- A registration, and then a notification with a record that lists it. -/
theorem cleanup_keeps_live_keys_registration :
    ∃ s, Reach (app android "user") (KeepsKeys android)
        (notification ++ .serve :: registration) s ∧
      s.Live ∧ android.biometricKeysExist s.device = true := by
  have hstart : Reach (app android "user") (KeepsKeys android) [] freshApp := .start ⟨rfl, rfl, rfl⟩
  have hregistered : Reach (app android "user") (KeepsKeys android) registration _ :=
    .step (.step (.step (.step (.step hstart trivial rfl) nofun rfl) trivial rfl) trivial rfl)
      trivial rfl
  have hr : Reach (app android "user") (KeepsKeys android)
      (notification ++ .serve :: registration) _ :=
    .step (.step (.step (.step hregistered trivial rfl) trivial rfl) trivial rfl)
      (fun _ record hrecord => by cases hrecord; decide) rfl
  refine ⟨_, hr, ?_, (App.cleanup_keeps_live_keys hr).1 ?_⟩
  · exact ⟨rfl, List.mem_singleton_self "new"⟩
  · exact ⟨rfl, List.mem_singleton_self "new"⟩

/-- A notification with a record from before the registration deletes its keys. -/
theorem cleanup_deletes_live_keys :
    ∃ s, Reach (app android "user") anyStep
        (.deleteKeys 0 true :: notification ++ registration ++ [.serve]) s ∧
      s.registering = .completed "new" ∧ "new" ∈ s.registrations ∧ s.Live ∧
      android.biometricKeysExist s.device = false := by
  refine ⟨_, @reach_of_exec _ _ (app android "user") freshApp _ ⟨rfl, rfl, rfl⟩ _ rfl, rfl, ?_,
    ⟨rfl, ?_⟩, rfl⟩
  · exact List.mem_singleton_self _
  · exact List.mem_singleton_self _

end StytchBrowser.ReactNative
