import StytchBrowser.Core.PKCEManager
import StytchBrowser.Lib.Machine
import StytchBrowser.Lib.Slots

/-!
# The React Native `PKCEManager`

The managers of a device keep no state of their own: they share the two keys of the device storage
that hold the code challenge and the code verifier. `startPKCETransaction` writes the keys one after
the other and ignores whether the writes go through; `getPKPair` reads them one after the other. So
a pair can be read that was never generated, after two transactions that interleave, a read that
overlaps a transaction, or a transaction that stores one of its keys only.

Every step is one operation of the storage or of the native module. `s256` is the S256 transform.
-/

namespace StytchBrowser.ReactNative

open Machine
open StytchBrowser.Core (ProofkeyPair exampleS256)

/-- `StorageClient.getData`, which takes an empty string for null. -/
def getData (stored : Option String) : Option String := stored.filter (· ≠ "")

/-- The pair `getPKPair` makes of what it has read. -/
def pairOf (codeChallenge codeVerifier : Option String) : Option ProofkeyPair :=
  match codeChallenge, codeVerifier with
  | some codeChallenge, some codeVerifier => some ⟨codeChallenge, codeVerifier⟩
  | _, _ => none

/-- How far a call of a manager is. -/
inductive Call where
  /-- `startPKCETransaction`, before the pair is generated, before the write of the challenge, and
  before the write of the verifier. -/
  | generating
  | generated (pair : ProofkeyPair)
  | setChallenge (pair : ProofkeyPair) (landed : Bool)
  | started (pair : ProofkeyPair)
  | getting
  | gotChallenge (codeChallenge : Option String)
  | got (pair : Option ProofkeyPair)
  | clearing
  | clearedChallenge
  | cleared
  | rejected

/-- The device storage, the calls of the managers on it, and the pairs generated so far. -/
structure Device where
  codeChallenge : Option String
  codeVerifier : Option String
  calls : List Call
  generated : List ProofkeyPair

/-- What can happen on a device. -/
inductive Action where
  | startPKCETransaction
  | getPKPair
  | clearPKPair
  /-- The native module draws a verifier, or rejects. -/
  | generateCodeChallenge (i : ℕ) (codeVerifier : Option String)
  | setChallenge (i : ℕ) (landed : Bool)
  | setVerifier (i : ℕ) (landed : Bool)
  | getChallenge (i : ℕ) (failed : Bool)
  | getVerifier (i : ℕ) (failed : Bool)
  | clearChallenge (i : ℕ) (landed : Bool)
  | clearVerifier (i : ℕ) (landed : Bool)

namespace Device

variable (s256 : String → String)

/-- Call `i` has moved on. -/
def setCall (d : Device) (i : ℕ) (call : Call) : Device := { d with calls := d.calls.set i call }

/-- One step of a device, `none` when the step is not possible. -/
def next (d : Device) : Action → Option Device
  | .startPKCETransaction => some { d with calls := d.calls ++ [.generating] }
  | .getPKPair => some { d with calls := d.calls ++ [.getting] }
  | .clearPKPair => some { d with calls := d.calls ++ [.clearing] }
  | .generateCodeChallenge i verifier =>
      match d.calls[i]?, verifier with
      | some .generating, some v =>
          some { d.setCall i (.generated ⟨s256 v, v⟩) with
            generated := d.generated ++ [⟨s256 v, v⟩] }
      | some .generating, none => some (d.setCall i .rejected)
      | _, _ => none
  | .setChallenge i landed =>
      match d.calls[i]? with
      | some (.generated pair) =>
          some { d.setCall i (.setChallenge pair landed) with
            codeChallenge := if landed then some pair.codeChallenge else d.codeChallenge }
      | _ => none
  | .setVerifier i landed =>
      match d.calls[i]? with
      | some (.setChallenge pair _) =>
          some { d.setCall i (.started pair) with
            codeVerifier := if landed then some pair.codeVerifier else d.codeVerifier }
      | _ => none
  | .getChallenge i failed =>
      match d.calls[i]? with
      | some .getting =>
          some (d.setCall i (if failed then .got none else .gotChallenge (getData d.codeChallenge)))
      | _ => none
  | .getVerifier i failed =>
      match d.calls[i]? with
      | some (.gotChallenge challenge) =>
          some (d.setCall i
            (.got (if failed then none else pairOf challenge (getData d.codeVerifier))))
      | _ => none
  | .clearChallenge i landed =>
      match d.calls[i]? with
      | some .clearing =>
          some { d.setCall i .clearedChallenge with
            codeChallenge := if landed then none else d.codeChallenge }
      | _ => none
  | .clearVerifier i landed =>
      match d.calls[i]? with
      | some .clearedChallenge =>
          some { d.setCall i .cleared with
            codeVerifier := if landed then none else d.codeVerifier }
      | _ => none

/-- The pair in the storage, if any, was generated. -/
def Stored (d : Device) : Prop :=
  ∀ pair, pairOf (getData d.codeChallenge) (getData d.codeVerifier) = some pair →
    pair ∈ d.generated

end Device

/-- The runs of the managers of a device, on an empty storage or one that holds a pair generated
before. -/
def device (s256 : String → String) : Machine Device Action where
  init d := d.calls = [] ∧ d.Stored ∧
    ∀ pair ∈ d.generated, pair.codeChallenge = s256 pair.codeVerifier
  next := Device.next s256

/-! ## What a step can do -/

/-- The steps of a device as a relation. -/
inductive Device.Step (s256 : String → String) (d : Device) : Action → Device → Prop where
  | startPKCETransaction :
      Step s256 d .startPKCETransaction { d with calls := d.calls ++ [.generating] }
  | getPKPair : Step s256 d .getPKPair { d with calls := d.calls ++ [.getting] }
  | clearPKPair : Step s256 d .clearPKPair { d with calls := d.calls ++ [.clearing] }
  | generated {i : ℕ} {v : String} : d.calls[i]? = some .generating →
      Step s256 d (.generateCodeChallenge i (some v))
        { d.setCall i (.generated ⟨s256 v, v⟩) with generated := d.generated ++ [⟨s256 v, v⟩] }
  | rejected {i : ℕ} : d.calls[i]? = some .generating →
      Step s256 d (.generateCodeChallenge i none) (d.setCall i .rejected)
  | setChallenge {i : ℕ} {landed : Bool} {pair : ProofkeyPair} :
      d.calls[i]? = some (.generated pair) → Step s256 d (.setChallenge i landed)
        { d.setCall i (.setChallenge pair landed) with
          codeChallenge := if landed then some pair.codeChallenge else d.codeChallenge }
  | setVerifier {i : ℕ} {landed landed' : Bool} {pair : ProofkeyPair} :
      d.calls[i]? = some (.setChallenge pair landed') → Step s256 d (.setVerifier i landed)
        { d.setCall i (.started pair) with
          codeVerifier := if landed then some pair.codeVerifier else d.codeVerifier }
  | getChallenge {i : ℕ} {failed : Bool} : d.calls[i]? = some .getting →
      Step s256 d (.getChallenge i failed)
        (d.setCall i (if failed then .got none else .gotChallenge (getData d.codeChallenge)))
  | getVerifier {i : ℕ} {failed : Bool} {challenge : Option String} :
      d.calls[i]? = some (.gotChallenge challenge) → Step s256 d (.getVerifier i failed)
        (d.setCall i (.got (if failed then none else pairOf challenge (getData d.codeVerifier))))
  | clearChallenge {i : ℕ} {landed : Bool} : d.calls[i]? = some .clearing →
      Step s256 d (.clearChallenge i landed)
        { d.setCall i .clearedChallenge with
          codeChallenge := if landed then none else d.codeChallenge }
  | clearVerifier {i : ℕ} {landed : Bool} : d.calls[i]? = some .clearedChallenge →
      Step s256 d (.clearVerifier i landed)
        { d.setCall i .cleared with codeVerifier := if landed then none else d.codeVerifier }

theorem Device.step_of_next {s256 : String → String} {d d' : Device} {a : Action}
    (hn : d.next s256 a = some d') : Device.Step s256 d a d' := by
  cases a with
  | startPKCETransaction =>
    obtain rfl := Option.some.inj hn
    exact .startPKCETransaction
  | getPKPair =>
    obtain rfl := Option.some.inj hn
    exact .getPKPair
  | clearPKPair =>
    obtain rfl := Option.some.inj hn
    exact .clearPKPair
  | generateCodeChallenge i verifier =>
    simp only [Device.next] at hn
    split at hn
    · next v hi =>
      obtain rfl := Option.some.inj hn
      exact .generated hi
    · next hi =>
      obtain rfl := Option.some.inj hn
      exact .rejected hi
    · cases hn
  | setChallenge i landed =>
    simp only [Device.next] at hn
    split at hn
    · next pair hi =>
      obtain rfl := Option.some.inj hn
      exact .setChallenge hi
    · cases hn
  | setVerifier i landed =>
    simp only [Device.next] at hn
    split at hn
    · next pair landed' hi =>
      obtain rfl := Option.some.inj hn
      exact .setVerifier hi
    · cases hn
  | getChallenge i failed =>
    simp only [Device.next] at hn
    split at hn
    · next hi =>
      obtain rfl := Option.some.inj hn
      exact .getChallenge hi
    · cases hn
  | getVerifier i failed =>
    simp only [Device.next] at hn
    split at hn
    · next challenge hi =>
      obtain rfl := Option.some.inj hn
      exact .getVerifier hi
    · cases hn
  | clearChallenge i landed =>
    simp only [Device.next] at hn
    split at hn
    · next hi =>
      obtain rfl := Option.some.inj hn
      exact .clearChallenge hi
    · cases hn
  | clearVerifier i landed =>
    simp only [Device.next] at hn
    split at hn
    · next hi =>
      obtain rfl := Option.some.inj hn
      exact .clearVerifier hi
    · cases hn

/-! ## Serialized runs -/

/-- A call has stored its challenge and not yet its verifier. -/
def Storing : Call → Prop
  | .setChallenge _ true => True
  | _ => False

/-- A call has read a challenge and not yet the verifier. -/
def Reading : Call → Prop
  | .gotChallenge (some _) => True
  | _ => False

/-- No call meets `p`. -/
def Device.NoCall (d : Device) (p : Call → Prop) : Prop :=
  ∀ (i : ℕ) (call : Call), d.calls[i]? = some call → ¬ p call

/-- A challenge is written or read only while no other call has stored its challenge alone, a
verifier is written only while no call has read a challenge alone, and when one of the two writes of
a call fails, the key it was to replace is null. -/
def serialized : Guard Device Action := fun _ d a =>
  match a with
  | .setChallenge _ true => d.NoCall Storing
  | .getChallenge _ false => getData d.codeChallenge ≠ none → d.NoCall Storing
  | .setVerifier i landed =>
      match d.calls[i]? with
      | some (.setChallenge _ true) =>
          if landed then d.NoCall Reading
          else getData d.codeChallenge = none ∨ getData d.codeVerifier = none
      | some (.setChallenge _ false) =>
          landed → d.NoCall Reading ∧ getData d.codeChallenge = none
      | _ => True
  | _ => True

section Invariant

variable {s256 : String → String} {d d' : Device}

/-- What holds of a call: a pair it works with was generated, a challenge it has stored is the one
in the storage, and a challenge it has read was generated with the verifier in the storage. -/
def Call.Ok (d : Device) : Call → Prop
  | .generated pair => pair ∈ d.generated
  | .setChallenge pair landed =>
      pair ∈ d.generated ∧
        (landed → d.codeChallenge = none ∨ d.codeChallenge = some pair.codeChallenge)
  | .gotChallenge challenge =>
      ∀ pair, pairOf challenge (getData d.codeVerifier) = some pair → pair ∈ d.generated
  | .got (some pair) => pair ∈ d.generated
  | _ => True

/-- What holds in every state of a serialized run. -/
structure Device.Inv (s256 : String → String) (d : Device) : Prop where
  transform : ∀ pair ∈ d.generated, pair.codeChallenge = s256 pair.codeVerifier
  calls : ∀ (i : ℕ) (call : Call), d.calls[i]? = some call → call.Ok d
  exclusive : Slots.AtMostOne Storing d.calls
  stored : d.NoCall Storing → d.Stored

theorem stored_of_challenge (h : getData d.codeChallenge = none) : d.Stored := by
  intro pair hpair
  rw [h] at hpair
  cases hpair

theorem stored_of_verifier (h : getData d.codeVerifier = none) : d.Stored := by
  intro pair hpair
  rw [h] at hpair
  cases hc : getData d.codeChallenge <;> rw [hc] at hpair <;> cases hpair

/-- The storage of a pair whose challenge was not cleared. -/
theorem stored_of_pair {pair : ProofkeyPair} (hpair : pair ∈ d.generated)
    (hc : d.codeChallenge = none ∨ d.codeChallenge = some pair.codeChallenge)
    (hv : d.codeVerifier = some pair.codeVerifier) : d.Stored := by
  rcases hc with hc | hc
  · exact stored_of_challenge (by rw [hc]; rfl)
  · intro q hq
    rw [hc, hv] at hq
    simp only [getData, Option.filter_some] at hq
    split_ifs at hq
    · exact Option.some.inj hq ▸ hpair
    all_goals cases hq

/-- A step keeps what holds of a call when it keeps or clears the key the call relies on. -/
theorem Call.Ok.frame {call : Call} (h : call.Ok d) (hgen : d.generated ⊆ d'.generated)
    (hc : Storing call → d'.codeChallenge = d.codeChallenge ∨ d'.codeChallenge = none)
    (hv : Reading call → d'.codeVerifier = d.codeVerifier ∨ d'.codeVerifier = none) :
    call.Ok d' := by
  cases call with
  | generated pair => exact hgen h
  | setChallenge pair landed =>
    refine ⟨hgen h.1, fun hlanded => ?_⟩
    subst hlanded
    rcases hc trivial with heq | hnone
    · rw [heq]
      exact h.2 rfl
    · exact .inl hnone
  | gotChallenge challenge =>
    intro pair hpair
    cases challenge with
    | none => cases hpair
    | some challenge =>
      rcases hv trivial with heq | hnone
      · rw [heq] at hpair
        exact hgen (h pair hpair)
      · rw [hnone] at hpair
        cases hpair
  | got pair =>
    cases pair with
    | none => trivial
    | some pair => exact hgen h
  | _ => trivial

/-- The invariant after a step of the call `i`. -/
theorem Device.Inv.move (hd : d.Inv s256) {i : ℕ} {new : Call}
    (hcalls : d'.calls = d.calls.set i new) (hgen : d.generated ⊆ d'.generated)
    (htransform : ∀ pair ∈ d'.generated, pair.codeChallenge = s256 pair.codeVerifier)
    (hc : d.NoCall Storing ∨ d'.codeChallenge = d.codeChallenge ∨ d'.codeChallenge = none)
    (hv : d.NoCall Reading ∨ d'.codeVerifier = d.codeVerifier ∨ d'.codeVerifier = none)
    (hnew : new.Ok d') (hexclusive : Slots.AtMostOne Storing (d.calls.set i new))
    (hstored : d'.NoCall Storing → d'.Stored) : d'.Inv s256 := by
  refine ⟨htransform, ?_, hcalls ▸ hexclusive, hstored⟩
  rw [hcalls]
  intro j call hj
  rcases Slots.of_set hj with ⟨-, rfl⟩ | ⟨-, hj⟩
  · exact hnew
  · refine (hd.calls j call hj).frame hgen (fun hs => ?_) (fun hr => ?_)
    · exact hc.resolve_left fun h => h j call hj hs
    · exact hv.resolve_left fun h => h j call hj hr

/-- A step of a call that leaves the storage as it is. -/
theorem Device.Inv.setCall (hd : d.Inv s256) {i : ℕ} {old new : Call}
    (hi : d.calls[i]? = some old) (hold : ¬ Storing old) (hns : ¬ Storing new)
    (hnew : new.Ok (d.setCall i new)) : (d.setCall i new).Inv s256 := by
  refine hd.move rfl (List.Subset.refl _) hd.transform (.inr (.inl rfl)) (.inr (.inl rfl)) hnew
    (hd.exclusive.set hi fun h => absurd h hns) fun hnone => ?_
  exact hd.stored (Slots.none_of_set hnone hi hold)

/-- A new call, which has neither stored nor read anything. -/
theorem Device.Inv.add (hd : d.Inv s256) {call : Call} (hok : ∀ d : Device, call.Ok d)
    (hns : ¬ Storing call) : Device.Inv s256 { d with calls := d.calls ++ [call] } := by
  refine ⟨hd.transform, ?_, hd.exclusive.add hns, fun hnone => hd.stored ?_⟩
  · refine Slots.forall_concat (fun j other hj => ?_) (hok _)
    exact (hd.calls j other hj).frame (List.Subset.refl _) (fun _ => .inl rfl) fun _ => .inl rfl
  · intro j other hj
    exact hnone j other ((List.getElem?_append_left (List.getElem?_eq_some_iff.1 hj).1).trans hj)

/-- The write of a verifier leaves a pair that was generated, or none. -/
theorem stored_setVerifier (hd : d.Inv s256) {h : List Action} {i : ℕ} {pair : ProofkeyPair}
    {landed landed' : Bool} (hi : d.calls[i]? = some (.setChallenge pair landed))
    (hc : serialized h d (.setVerifier i landed'))
    (hnone : Device.NoCall ⟨d.codeChallenge,
      if landed' then some pair.codeVerifier else d.codeVerifier,
      d.calls.set i (.started pair), d.generated⟩ Storing) :
    Device.Stored ⟨d.codeChallenge,
      if landed' then some pair.codeVerifier else d.codeVerifier,
      d.calls.set i (.started pair), d.generated⟩ := by
  obtain ⟨hpair, hchallenge⟩ := hd.calls i _ hi
  simp only [serialized, hi] at hc
  cases landed with
  | true =>
    cases landed' with
    | true => exact stored_of_pair hpair (hchallenge rfl) rfl
    | false =>
      rcases hc with hc | hv
      · exact stored_of_challenge hc
      · exact stored_of_verifier hv
  | false =>
    cases landed' with
    | true => exact stored_of_challenge (hc rfl).2
    | false => exact hd.stored (Slots.none_of_set hnone hi id)

/-- A pair that is generated. -/
theorem Device.Inv.generateCodeChallenge (hd : d.Inv s256) {i : ℕ}
    (hi : d.calls[i]? = some .generating) (v : String) :
    Device.Inv s256 { d.setCall i (.generated ⟨s256 v, v⟩) with
      generated := d.generated ++ [⟨s256 v, v⟩] } := by
  refine hd.move rfl (List.subset_append_left _ _) ?_ (.inr (.inl rfl)) (.inr (.inl rfl)) ?_
    (hd.exclusive.set hi False.elim) fun hnone pair hpair => ?_
  · intro pair hpair
    rcases List.mem_append.1 hpair with hpair | hpair
    · exact hd.transform pair hpair
    · obtain rfl := List.mem_singleton.1 hpair
      rfl
  · exact List.mem_append_right _ (List.mem_singleton_self _)
  · exact List.mem_append_left _ (hd.stored (Slots.none_of_set hnone hi id) pair hpair)

theorem Device.Inv.setChallenge (hd : d.Inv s256) {h : List Action} {i : ℕ} {landed : Bool}
    {pair : ProofkeyPair} (hi : d.calls[i]? = some (.generated pair))
    (hc : serialized h d (.setChallenge i landed)) :
    Device.Inv s256 { d.setCall i (.setChallenge pair landed) with
      codeChallenge := if landed then some pair.codeChallenge else d.codeChallenge } := by
  have hpair : pair ∈ d.generated := hd.calls i _ hi
  cases landed with
  | true =>
    refine hd.move rfl (List.Subset.refl _) hd.transform (.inl hc) (.inr (.inl rfl))
      ⟨hpair, fun _ => .inr rfl⟩ (.set_of_none hc) fun hnone => ?_
    exact absurd trivial (hnone i (.setChallenge pair true) (Slots.set_self hi))
  | false => exact hd.setCall hi id id ⟨hpair, nofun⟩

theorem Device.Inv.setVerifier (hd : d.Inv s256) {h : List Action} {i : ℕ} {landed landed' : Bool}
    {pair : ProofkeyPair} (hi : d.calls[i]? = some (.setChallenge pair landed'))
    (hc : serialized h d (.setVerifier i landed)) :
    Device.Inv s256 { d.setCall i (.started pair) with
      codeVerifier := if landed then some pair.codeVerifier else d.codeVerifier } := by
  refine hd.move rfl (List.Subset.refl _) hd.transform (.inr (.inl rfl)) ?_ trivial
    (hd.exclusive.set hi False.elim) (stored_setVerifier hd hi hc)
  cases landed with
  | true =>
    simp only [serialized, hi] at hc
    cases landed' with
    | true => exact .inl hc
    | false => exact .inl (hc trivial).1
  | false => exact .inr (.inl rfl)

theorem Device.Inv.getChallenge (hd : d.Inv s256) {h : List Action} {i : ℕ} {failed : Bool}
    (hi : d.calls[i]? = some .getting) (hc : serialized h d (.getChallenge i failed)) :
    (d.setCall i (if failed then .got none
      else .gotChallenge (getData d.codeChallenge))).Inv s256 := by
  cases failed with
  | true => exact hd.setCall hi id id trivial
  | false =>
    refine hd.setCall hi id ?_ ?_
    · exact id
    · intro pair hpair
      have hchallenge : getData d.codeChallenge ≠ none := by
        intro hnone
        rw [hnone] at hpair
        cases hpair
      exact hd.stored (hc hchallenge) pair hpair

theorem Device.Inv.getVerifier (hd : d.Inv s256) {i : ℕ} {failed : Bool}
    {challenge : Option String} (hi : d.calls[i]? = some (.gotChallenge challenge)) :
    (d.setCall i (.got (if failed then none
      else pairOf challenge (getData d.codeVerifier)))).Inv s256 := by
  have hread := hd.calls i _ hi
  refine hd.setCall hi ?_ id ?_
  · cases challenge <;> exact id
  · cases failed with
    | true => trivial
    | false =>
      change Call.Ok _ (.got (pairOf challenge (getData d.codeVerifier)))
      cases hp : pairOf challenge (getData d.codeVerifier) with
      | none => trivial
      | some pair => exact hread pair hp

theorem Device.Inv.clearChallenge (hd : d.Inv s256) {i : ℕ} (landed : Bool)
    (hi : d.calls[i]? = some .clearing) :
    Device.Inv s256 { d.setCall i .clearedChallenge with
      codeChallenge := if landed then none else d.codeChallenge } := by
  cases landed with
  | true =>
    exact hd.move rfl (List.Subset.refl _) hd.transform (.inr (.inr rfl)) (.inr (.inl rfl))
      trivial (hd.exclusive.set hi False.elim) fun _ => stored_of_challenge rfl
  | false => exact hd.setCall hi id id trivial

theorem Device.Inv.clearVerifier (hd : d.Inv s256) {i : ℕ} (landed : Bool)
    (hi : d.calls[i]? = some .clearedChallenge) :
    Device.Inv s256 { d.setCall i .cleared with
      codeVerifier := if landed then none else d.codeVerifier } := by
  cases landed with
  | true =>
    exact hd.move rfl (List.Subset.refl _) hd.transform (.inr (.inl rfl)) (.inr (.inr rfl))
      trivial (hd.exclusive.set hi False.elim) fun _ => stored_of_verifier rfl
  | false => exact hd.setCall hi id id trivial

/-- A serialized step keeps the invariant. -/
theorem Device.Inv.step (hd : d.Inv s256) {h : List Action} {a : Action}
    (hc : serialized h d a) (hn : d.next s256 a = some d') : d'.Inv s256 := by
  cases Device.step_of_next hn with
  | startPKCETransaction | getPKPair | clearPKPair => exact hd.add (fun _ => trivial) id
  | generated hi => exact hd.generateCodeChallenge hi _
  | rejected hi => exact hd.setCall hi id id trivial
  | setChallenge hi => exact hd.setChallenge hi hc
  | setVerifier hi => exact hd.setVerifier hi hc
  | getChallenge hi => exact hd.getChallenge hi hc
  | getVerifier hi => exact hd.getVerifier hi
  | clearChallenge hi => exact hd.clearChallenge _ hi
  | clearVerifier hi => exact hd.clearVerifier _ hi

theorem Device.inv_of_reach {h : List Action} (hr : Reach (device s256) serialized h d) :
    d.Inv s256 := by
  refine hr.invariant (I := fun _ d => d.Inv s256) ?_ ?_
  · rintro d ⟨hcalls, hstored, htransform⟩
    refine ⟨htransform, Slots.forall_of_nil hcalls, ?_, fun _ => hstored⟩
    rw [hcalls]
    exact .nil
  · exact fun _ _ _ _ hd hc hn => hd.step hc hn

/-- In serialized runs every pair `getPKPair` returns was generated by one transaction. -/
theorem getPKPair_generated_together {h : List Action} {i : ℕ} {pair : ProofkeyPair}
    (hr : Reach (device s256) serialized h d) (hi : d.calls[i]? = some (.got (some pair))) :
    pair ∈ d.generated ∧ pair.codeChallenge = s256 pair.codeVerifier := by
  have hd := Device.inv_of_reach hr
  have hpair : pair ∈ d.generated := hd.calls i _ hi
  exact ⟨hpair, hd.transform pair hpair⟩

end Invariant

/-- A device with an empty storage. -/
def newDevice : Device := ⟨none, none, [], []⟩

theorem init_newDevice : (device exampleS256).init newDevice :=
  ⟨rfl, stored_of_challenge rfl, nofun⟩

/-- A transaction, and the pair read after it. -/
theorem getPKPair_generated_together_start :
    ∃ h d, Reach (device exampleS256) serialized h d ∧
      d.calls[1]? = some (.got (some ⟨"S256:a", "a"⟩)) ∧
      (⟨"S256:a", "a"⟩ : ProofkeyPair) ∈ d.generated ∧ "S256:a" = exampleS256 "a" := by
  obtain ⟨d, hr, hgot⟩ : ∃ d, Reach (device exampleS256) serialized
      [.getVerifier 1 false, .getChallenge 1 false, .getPKPair, .setVerifier 0 true,
        .setChallenge 0 true, .generateCodeChallenge 0 (some "a"), .startPKCETransaction] d ∧
      d.calls[1]? = some (.got (some ⟨"S256:a", "a"⟩)) := by
    refine ⟨_, .step (.step (.step (.step (.step (.step (.step (.start init_newDevice) trivial rfl)
      trivial rfl) ?_ rfl) ?_ rfl) trivial rfl) (fun _ => ?_) rfl) trivial rfl, rfl⟩
    · exact Slots.forall_of_mem (List.forall_mem_singleton.2 id)
    · exact Slots.forall_of_mem (List.forall_mem_singleton.2 id)
    · exact Slots.forall_of_mem (List.forall_mem_cons.2 ⟨id, List.forall_mem_singleton.2 id⟩)
  exact ⟨_, d, hr, hgot, getPKPair_generated_together hr hgot⟩

/-- Two transactions that interleave, and a transaction whose second write fails, leave a challenge
and a verifier that do not belong together. -/
theorem getPKPair_mixed :
    (∃ d, Reach (device exampleS256) anyStep
        [.getVerifier 2 false, .getChallenge 2 false, .getPKPair, .setVerifier 0 true,
          .setVerifier 1 true, .setChallenge 1 true, .setChallenge 0 true,
          .generateCodeChallenge 1 (some "b"), .generateCodeChallenge 0 (some "a"),
          .startPKCETransaction, .startPKCETransaction] d ∧
      d.calls[2]? = some (.got (some ⟨"S256:b", "a"⟩))) ∧
    (∃ d, Reach (device exampleS256) anyStep
        [.getVerifier 2 false, .getChallenge 2 false, .getPKPair, .setVerifier 1 false,
          .setChallenge 1 true, .generateCodeChallenge 1 (some "b"), .startPKCETransaction,
          .setVerifier 0 true, .setChallenge 0 true, .generateCodeChallenge 0 (some "a"),
          .startPKCETransaction] d ∧
      d.calls[2]? = some (.got (some ⟨"S256:b", "a"⟩))) ∧
    "S256:b" ≠ exampleS256 "a" :=
  ⟨⟨_, reach_of_exec init_newDevice rfl, rfl⟩, ⟨_, reach_of_exec init_newDevice rfl, rfl⟩,
    by decide⟩

end StytchBrowser.ReactNative
