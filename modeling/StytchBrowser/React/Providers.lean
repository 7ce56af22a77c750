import StytchBrowser.Core.DeviceStorage
import StytchBrowser.JsUtils.StableProps
import StytchBrowser.Lib.Snapshots
import StytchBrowser.Web.CrossTab

/-!
# The React providers

A provider is a reader of the subscription service of its client: it keeps what `getInfo()` returned
for each slice of the state, registers with `onStateChange` in an effect, and on every notification
queues a state updater that calls `getInfo()` again when React applies it. The web provider that does
not assume it is hydrated queues one such updater in the effect.

The React Native stores are `Core.Device`s, from any point of a run on; the web store is one tab, in
a browser that other tabs and scripts may change at any time.
-/

namespace StytchBrowser.React

open StytchBrowser.Core (Device device)
open DeepEqual (Operand deepEqual Revealed)
open Machine

/-- `mergeWithStableProps`: a property of the old value is kept where it passes for the new one. -/
def mergeWithStableProps (oldValue newValue : JsonObject) : JsonObject :=
  newValue.mergeIf (fun k x => ((Operand.value (.obj newValue.entries)).prop k).any (deepEqual [] x))
    oldValue

/-- On objects that are not the same one and name no `__proto__`, this is what the merge of objects in
memory does to their data. -/
theorem data_mergeWithStableProps {α : Type} [DecidableEq α] (fresh : α)
    {oldValue newValue : StableProps.Obj α} (h : oldValue.ref ≠ newValue.ref)
    (hp : oldValue.props.get "__proto__" = none) :
    (StableProps.mergeWithStableProps fresh oldValue newValue).data =
      mergeWithStableProps oldValue.data newValue.data := by
  -- The two tests agree on the properties of the old value.
  have htest : ∀ k x, oldValue.props.get k = some x →
      ((Operand.value (.obj newValue.data.entries)).prop k).any (deepEqual [] x.json) =
        StableProps.keeps newValue k x := by
    intro k x hx
    have hk : k ≠ "__proto__" := by
      rintro rfl
      rw [hp] at hx
      cases hx
    have hget := newValue.get_data k
    cases hy : newValue.props.get k with
    | some y =>
      rw [hy, Option.map_some] at hget
      rw [DeepEqual.prop_field hget, StableProps.keeps, hy]
      rfl
    | none =>
      rw [hy, Option.map_none] at hget
      rw [StableProps.keeps, hy, Option.any_none, ← StableProps.passes_inherited hy hk x,
        StableProps.passes, StableProps.Obj.held, StableProps.Held.json]
      dsimp only [Operand.prop]
      rw [show List.lookup k newValue.data.entries = none from hget,
        newValue.get_json, hy, Option.map_none]
  refine OrderedMap.ext_of_keys ?_ fun k => ?_
  · rw [StableProps.Obj.keys_data, StableProps.keys_mergeWithStableProps, mergeWithStableProps,
      OrderedMap.keys_mergeIf, StableProps.Obj.keys_data]
    intro k j hj hpass
    rw [StableProps.Obj.get_data, Option.map_eq_some_iff] at hj
    obtain ⟨x, hx, rfl⟩ := hj
    rw [OrderedMap.contains_congr newValue.keys_data]
    exact StableProps.contains_of_keeps ((htest k x hx).symm.trans hpass)
  · rw [StableProps.Obj.get_data, StableProps.props_mergeWithStableProps fresh h,
      OrderedMap.get_mergeIf, mergeWithStableProps, OrderedMap.get_mergeIf,
      StableProps.Obj.get_data, StableProps.Obj.get_data]
    cases hx : oldValue.props.get k with
    | none => rfl
    | some x =>
      rw [Option.map_some, Option.filter_some, Option.filter_some, htest k x hx]
      split_ifs <;> rfl

/-! ## The slices of the state -/

/-- The two kinds of clients. -/
inductive Variant where
  | consumer
  | b2b
  deriving DecidableEq

/-- The slices that a provider exposes. -/
def Variant.slices : Variant → List String
  | .consumer => ["session", "user"]
  | .b2b => ["session", "member", "organization"]

/-- `getState()` and `getFromCache()`. -/
abbrev StoreState := Option JsObject × Bool

/-- `getInfo()` of the client of a slice. -/
def getInfo (s : StoreState) (k : String) : Json :=
  .obj [(k, (fieldOf s.1 k).getD .null), ("fromCache", .bool s.2)]

/-- `{ ...getInfo(), isInitialized: true }`. -/
def getHydratedInfo (s : StoreState) (k : String) : Json :=
  .obj [(k, (fieldOf s.1 k).getD .null), ("fromCache", .bool s.2), ("isInitialized", .bool true)]

/-- `initialUser`, `initialSession`, `initialMember` and the like. -/
def initialInfo (k : String) : Json :=
  .obj [(k, .null), ("fromCache", .bool false), ("isInitialized", .bool false)]

/-- The client state of a provider. -/
def clientState (v : Variant) (slice : String → Json) : JsonObject :=
  v.slices.foldl (fun o k => o.set k (slice k)) .empty

theorem get_clientState {v : Variant} {k : String} (hk : k ∈ v.slices) (slice : String → Json) :
    (clientState v slice).get k = some (slice k) := by
  cases v with
  | consumer =>
    simp only [Variant.slices, List.mem_cons, List.not_mem_nil, or_false] at hk
    rcases hk with rfl | rfl <;> rfl
  | b2b =>
    simp only [Variant.slices, List.mem_cons, List.not_mem_nil, or_false] at hk
    rcases hk with rfl | rfl | rfl <;> rfl

/-! ## What a provider exposes -/

/-- The data of a slice and whether it is from the cache, up to the order of fields. -/
def infoOf (k : String) (slice : Option Json) : Option JsonTree × Option JsonTree :=
  ((slice.bind (·.field k)).map (Json.tree []), (slice.bind (·.field "fromCache")).map (Json.tree []))

/-- What the contexts of a provider expose. -/
def exposed (v : Variant) (held : JsonObject) : List (Option JsonTree × Option JsonTree) :=
  v.slices.map fun k => infoOf k (held.get k)

/-- What the client's `getInfo()`s return. -/
def current (v : Variant) (s : StoreState) : List (Option JsonTree × Option JsonTree) :=
  v.slices.map fun k => infoOf k (some (getInfo s k))

theorem infoOf_getHydratedInfo (s : StoreState) (k : String) :
    infoOf k (some (getHydratedInfo s k)) = infoOf k (some (getInfo s k)) := by
  simp only [infoOf, getHydratedInfo, getInfo, Option.bind_some, Json.field, List.lookup_cons,
    beq_self_eq_true]

theorem infoOf_congr {a b : Json} (h : a.tree [] = b.tree []) (k : String) :
    infoOf k (some a) = infoOf k (some b) := by
  have hfield : ∀ q, (a.field q).map (Json.tree []) = (b.field q).map (Json.tree []) := by
    intro q
    cases a with
    | obj xs =>
      obtain ⟨ys, rfl, hf⟩ := DeepEqual.of_tree_obj h
      exact hf q List.not_mem_nil
    | arr xs =>
      obtain ⟨ys, rfl, -⟩ := DeepEqual.of_tree_arr h
      rfl
    | null | bool | num | str => cases b <;> first | rfl | cases h
  exact Prod.ext (hfield k) (hfield "fromCache")

/-- The client state after an updater exposes the new slices, unless a difference goes unseen. -/
theorem exposed_mergeWithStableProps {v : Variant} {held : JsonObject} {slice : String → Json}
    (h : ∀ k ∈ v.slices, ∀ x, held.get k = some x → Revealed [] x (slice k)) :
    exposed v (mergeWithStableProps held (clientState v slice)) =
      v.slices.map fun k => infoOf k (some (slice k)) := by
  apply List.map_congr_left
  intro k hk
  have hnew := get_clientState hk slice
  have hprop : (Operand.value (.obj (clientState v slice).entries)).prop k =
      some (.value (slice k)) := DeepEqual.prop_field hnew
  rw [mergeWithStableProps, OrderedMap.get_mergeIf, hnew, hprop]
  cases hx : held.get k with
  | none => rfl
  | some x =>
    by_cases hd : deepEqual [] x (.value (slice k)) = true
    · have ht := DeepEqual.tree_eq_of_deepEqual (h k hk x hx) hd
      rw [Option.filter_some, Option.any_some, if_pos hd, Option.some_or, infoOf_congr ht]
    · rw [Option.filter_some, Option.any_some, if_neg hd, Option.none_or]

/-! ## The providers -/

/-- `StytchProvider` and `StytchB2BProvider` of React Native. -/
def nativeProvider (v : Variant) : ReaderPolicy StoreState JsonObject where
  first s := clientState v (getInfo s)
  refresh held s := mergeWithStableProps held (clientState v (getInfo s))
  refreshes := false

/-- `StytchProvider` and `StytchB2BProvider` of the web. -/
def webProvider (v : Variant) (assumeHydrated : Bool) : ReaderPolicy StoreState JsonObject where
  first s := clientState v (if assumeHydrated then getHydratedInfo s else initialInfo)
  refresh held s := mergeWithStableProps held (clientState v (getHydratedInfo s))
  refreshes := !assumeHydrated

/-- The steps of a device that notify the subscribers of its service. -/
def notifies (d : Device) : Core.Action → Bool
  | .op (.updateTokens _) .. => false
  | .op .. => true
  | .apply i .. =>
      match d.syncs[i]? with
      | some (.assigned (some _)) => true
      | _ => false
  | _ => false

/-- What `getInfo()` reads of a device. -/
def stateOf (d : Device) : StoreState := (d.service.getState, d.service.fromCache)

/-- The store of a React Native client. A restart ends the life of its provider. -/
def nativeStore (parseDate : String → Option ℤ) : NotifyingStore Device Core.Action StoreState where
  init d := ∃ h, (device parseDate).Reach anyStep h d
  next d a := match a with
    | .restart => none
    | a => d.next parseDate a
  notifies := notifies
  read := stateOf

/-- What can happen to the store of a tab. -/
inductive TabAction where
  | op (op : Web.Op)
  /-- A storage event on the state key. -/
  | listen (newValue : Option JsonObject)
  /-- Other tabs and scripts change the browser. -/
  | browser (b : Web.Browser)

/-- What a step spreads over the state of its tab. -/
def TabAction.update : TabAction → Option (Option JsObject)
  | .op o => Web.CrossTab.updateOf o
  | .listen newValue => some (newValue.map parse)
  | .browser _ => none

/-- The store of a web client. -/
def webStore (page : Web.Page) (parseDate : String → Option ℤ) :
    NotifyingStore (Web.Browser × Web.Tab) TabAction StoreState where
  init s := ∃ options custom b, s = Web.construct page options custom b
  next s a := some (match a with
    | .op op => op.run page parseDate s.1 s.2
    | .listen newValue => Web.listen newValue s.1 s.2
    | .browser b => (b, s.2))
  notifies s a := match a.update with
    | some update =>
        s.2.fromCache || !Web.deepEqualData s.2.state (update.map (spread s.2.state))
    | none => false
  read s := (s.2.state, s.2.fromCache)

/-! ## Steps that do not notify -/

theorem length_notified (c : Bool) (n : Core.Notification) (l : List Core.Notification) :
    (if c then n :: l else l).length = l.length + c.toNat := by
  cases c <;> rfl

/-- A step with an update stores it, is not from the cache any more, and calls the subscribers when
it `notifies`. -/
theorem webStore_of_update {page : Web.Page} {parseDate : String → Option ℤ}
    {s s' : Web.Browser × Web.Tab} {a : TabAction} {update : Option JsObject}
    (h : (webStore page parseDate).next s a = some s') (ha : a.update = some update) :
    s'.2.state = update.map (spread s.2.state) ∧ s'.2.fromCache = false ∧
      s'.2.notified.length =
        s.2.notified.length + ((webStore page parseDate).notifies s a).toNat := by
  obtain rfl := Option.some.inj h
  have hn : (webStore page parseDate).notifies s a =
      (s.2.fromCache || !Web.deepEqualData s.2.state (update.map (spread s.2.state))) := by
    dsimp only [webStore]
    rw [ha]
  rw [hn]
  cases a with
  | op o =>
    cases o with
    | updateTokens now token jwt => cases ha
    | updateStateAndTokens | updateState | destroyState | destroySession =>
      obtain rfl := Option.some.inj ha
      exact ⟨rfl, rfl, length_notified _ _ _⟩
  | listen newValue =>
    obtain rfl := Option.some.inj ha
    exact ⟨rfl, rfl, length_notified _ _ _⟩
  | browser b => cases ha

theorem webStore_of_update_none {page : Web.Page} {parseDate : String → Option ℤ}
    {s s' : Web.Browser × Web.Tab} {a : TabAction}
    (h : (webStore page parseDate).next s a = some s') (ha : a.update = none) : s'.2 = s.2 := by
  obtain rfl := Option.some.inj h
  cases a with
  | op o =>
    cases o with
    | updateTokens now token jwt =>
      dsimp only [Web.Op.run, Web.updateTokens]
      split_ifs <;> rfl
    | updateStateAndTokens | updateState | destroyState | destroySession => cases ha
  | listen newValue => cases ha
  | browser b => rfl

/-- A step of a device that does not notify leaves what `getInfo()` reads, assigns the record that a
sync has read, or applies that there was none. -/
theorem stateOf_of_not_notifies {parseDate : String → Option ℤ} {d d' : Device} {a : Core.Action}
    (h : (nativeStore parseDate).next d a = some d') (hn : notifies d a = false) :
    stateOf d' = stateOf d ∨
      (∃ i landed r, a = .assign i landed ∧ d.syncs[i]? = some (.read (some (.record r))) ∧
        stateOf d' = (r.state.map parse, d.service.fromCache)) ∨
      ∃ i now now' landed, a = .apply i now now' landed ∧ d.syncs[i]? = some (.assigned none) ∧
        stateOf d' = (d.service.getState, false) := by
  have hd : d.next parseDate a = some d' := by
    cases a with
    | restart => cases h
    | _ => exact h
  cases Device.step_of_next parseDate hd with
  | @op op _ _ _ _ _ =>
    cases op with
    | updateTokens => exact Or.inl rfl
    | _ => cases hn
  | getIntermediateSessionToken _ =>
    left
    unfold stateOf Core.Service.dropExpiredIST
    dsimp only
    split_ifs <;> rfl
  | startSync => exact Or.inl rfl
  | read _ => exact Or.inl rfl
  | @assign i landed text hi =>
    match text, hi with
    | none, _ => exact Or.inl rfl
    | some .malformed, _ => exact Or.inl rfl
    | some (.record r), hi => exact Or.inr (Or.inl ⟨i, landed, r, rfl, hi, rfl⟩)
  | @apply i now now' landed res hi _ _ =>
    cases res with
    | none => exact Or.inr (Or.inr ⟨i, now, now', landed, rfl, hi, rfl⟩)
    | some res =>
      simp only [notifies, hi] at hn
      cases hn
  | restart => cases h

/-! ## Providers that miss nothing -/

/-- Two states have the same data in the slices, up to the order of fields. -/
def SameSlices (v : Variant) (s t : Option JsObject) : Prop :=
  ∀ k ∈ v.slices, ((fieldOf s k).getD .null).tree [] = ((fieldOf t k).getD .null).tree []

theorem current_congr {v : Variant} {s t : StoreState} (h : SameSlices v s.1 t.1)
    (hc : s.2 = t.2) : current v s = current v t := by
  apply List.map_congr_left
  intro k hk
  apply infoOf_congr
  simp only [getInfo, Json.tree, Json.treeFields, h k hk, hc]

/-- No updater that a provider applies last takes a slice that has changed for unchanged. -/
def RevealedIn (v : Variant) (held : JsonObject) (slice : String → Json) : Prop :=
  ∀ k ∈ v.slices, ∀ x, held.get k = some x → Revealed [] x (slice k)

/-- The condition on the steps of a React Native provider and its store. -/
def NativeTold (v : Variant) (s : Device × Reader JsonObject) (a : ReaderAction Core.Action) :
    Prop :=
  match a, s.2 with
  | .attach, .shown held => exposed v held = current v (stateOf s.1)
  | .store (.assign i _), .attached _ 0 => ∀ r, s.1.syncs[i]? = some (.read (some (.record r))) →
      SameSlices v (r.state.map parse) s.1.service.getState
  | .store (.apply i _ _ _), .attached _ 0 =>
      s.1.syncs[i]? = some (.assigned none) → s.1.service.fromCache = false
  | .refresh, .attached held 1 => RevealedIn v held (getInfo (stateOf s.1))
  | _, _ => True

/-- The condition on the steps of a web provider and its store. -/
def WebTold (v : Variant) (assumeHydrated : Bool)
    (s : (Web.Browser × Web.Tab) × Reader JsonObject) (a : ReaderAction TabAction) : Prop :=
  match a, s.2 with
  | .attach, .shown held =>
      assumeHydrated = true → exposed v held = current v (s.1.2.state, s.1.2.fromCache)
  | .store a, .attached _ 0 => ∀ update, a.update = some update → s.1.2.fromCache = false →
      Web.deepEqualData s.1.2.state (update.map (spread s.1.2.state)) = true →
      SameSlices v (update.map (spread s.1.2.state)) s.1.2.state
  | .refresh, .attached held 1 =>
      RevealedIn v held (getHydratedInfo (s.1.2.state, s.1.2.fromCache))
  | _, _ => True

theorem kept_of_nativeTold {parseDate : String → Option ℤ} {v : Variant}
    {s : Device × Reader JsonObject} {a : ReaderAction Core.Action} (h : NativeTold v s a) :
    Reader.Kept (nativeStore parseDate) (nativeProvider v) (current v) (exposed v) s a := by
  obtain ⟨d, r⟩ := s
  unfold Reader.Kept
  split
  · next a held hr =>
    intro hn d' hd'
    dsimp only at hr
    subst hr
    rcases stateOf_of_not_notifies hd' hn with hs | ⟨i, landed, r, rfl, hi, hs⟩ |
      ⟨i, now, now', landed, rfl, hi, hs⟩
    · exact congrArg (current v) hs
    · refine (congrArg (current v) hs).trans (current_congr (h r hi) rfl)
    · refine (congrArg (current v) hs).trans (current_congr (fun _ _ => rfl) ?_)
      exact (h hi).symm
  · next held hr =>
    dsimp only at hr
    subst hr
    exact Or.inr h
  · next held hr =>
    dsimp only at hr
    subst hr
    exact exposed_mergeWithStableProps h
  · trivial

theorem kept_of_webTold {page : Web.Page} {parseDate : String → Option ℤ} {v : Variant}
    {assumeHydrated : Bool} {s : (Web.Browser × Web.Tab) × Reader JsonObject}
    {a : ReaderAction TabAction} (h : WebTold v assumeHydrated s a) :
    Reader.Kept (webStore page parseDate) (webProvider v assumeHydrated) (current v) (exposed v)
      s a := by
  obtain ⟨⟨b, t⟩, r⟩ := s
  unfold Reader.Kept
  split
  · next a held hr =>
    intro hn s' hs'
    dsimp only at hr
    subst hr
    cases ha : a.update with
    | none =>
      have := webStore_of_update_none hs' ha
      dsimp only [webStore]
      rw [this]
    | some update =>
      obtain ⟨hstate, hcache, -⟩ := webStore_of_update hs' ha
      dsimp only [webStore] at hn ⊢
      rw [ha] at hn
      dsimp only at hn
      rw [Bool.or_eq_false_iff, Bool.not_eq_false'] at hn
      rw [hstate, hcache]
      exact current_congr (h update ha hn.1 hn.2) hn.1.symm
  · next held hr =>
    dsimp only at hr
    subst hr
    cases assumeHydrated with
    | true => exact Or.inr (h rfl)
    | false => exact Or.inl rfl
  · next held hr =>
    dsimp only at hr
    subst hr
    refine (exposed_mergeWithStableProps h).trans ?_
    exact List.map_congr_left fun k _ => infoOf_getHydratedInfo _ k
  · trivial

/-- What `getInfo()` returns determines the slices and whether they are from the cache. -/
theorem of_current_eq {v : Variant} {s t : StoreState} (h : current v s = current v t) :
    SameSlices v s.1 t.1 ∧ s.2 = t.2 := by
  have hk := List.map_inj_left.1 h
  have hfield : ∀ u : StoreState, ∀ k, (infoOf k (some (getInfo u k))).1 =
      some (((fieldOf u.1 k).getD .null).tree []) := by
    intro u k
    simp only [infoOf, getInfo, Option.bind_some, Json.field, List.lookup_cons, beq_self_eq_true,
      Option.map_some]
  constructor
  · intro k hm
    have := congrArg Prod.fst (hk k hm)
    rw [hfield, hfield] at this
    exact Option.some.inj this
  · have hm : "session" ∈ v.slices := by cases v <;> decide
    have hcache : some (JsonTree.bool s.2) = some (JsonTree.bool t.2) :=
      congrArg Prod.snd (hk "session" hm)
    exact JsonTree.bool.inj (Option.some.inj hcache)

section

variable {parseDate : String → Option ℤ} {v : Variant}

theorem stateOf_assign {d d' : Device} {i : ℕ} {landed : Bool} {r : Core.PersistedRecord}
    (h : (nativeStore parseDate).next d (.assign i landed) = some d')
    (hi : d.syncs[i]? = some (.read (some (.record r)))) :
    stateOf d' = (r.state.map parse, d.service.fromCache) := by
  dsimp only [nativeStore, Device.next] at h
  rw [hi] at h
  obtain rfl := Option.some.inj h
  rfl

theorem stateOf_apply_none {d d' : Device} {i now now' : ℕ} {landed : Bool}
    (h : (nativeStore parseDate).next d (.apply i now now' landed) = some d')
    (hi : d.syncs[i]? = some (.assigned none)) : stateOf d' = (d.service.getState, false) := by
  dsimp only [nativeStore, Device.next] at h
  rw [hi] at h
  dsimp only at h
  split_ifs at h
  obtain rfl := Option.some.inj h
  rfl

/-- A step other than an updater after which a React Native provider is up to date meets the
condition. -/
theorem nativeTold_of_upToDate {s s' : Device × Reader JsonObject}
    {a : ReaderAction Core.Action} (ha : a ≠ .refresh)
    (hs : Reader.UpToDate (nativeStore parseDate) (current v) (exposed v) s)
    (h : Reader.next (nativeStore parseDate) (nativeProvider v) s a = some s')
    (hs' : Reader.UpToDate (nativeStore parseDate) (current v) (exposed v) s') :
    NativeTold v s a := by
  have hk := not_imp_not.1 (Reader.not_upToDate_of_not_kept hs · h) hs'
  obtain ⟨d, r⟩ := s
  unfold NativeTold
  split
  · next held hr =>
    dsimp only at hr
    subst hr
    rcases hk with hk | hk
    · cases hk
    · exact hk
  · next i landed held hr =>
    dsimp only at hr
    subst hr
    intro r hi
    have ht := (Reader.next_store h).1
    have hc : current v (stateOf s'.1) = current v (stateOf d) := hk rfl s'.1 ht
    rw [stateOf_assign ht hi] at hc
    exact (of_current_eq hc).1
  · next i now now' landed held hr =>
    dsimp only at hr
    subst hr
    intro hi
    have hi' : d.syncs[i]? = some (.assigned none) := hi
    have ht := (Reader.next_store h).1
    have hn : notifies d (.apply i now now' landed) = false := by
      simp only [notifies, hi']
    have hc : current v (stateOf s'.1) = current v (stateOf d) := hk hn s'.1 ht
    rw [stateOf_apply_none ht hi] at hc
    exact (of_current_eq hc).2.symm
  · exact absurd rfl ha
  · trivial

/-- The same of a web provider. -/
theorem webTold_of_upToDate {page : Web.Page} {assumeHydrated : Bool}
    {s s' : (Web.Browser × Web.Tab) × Reader JsonObject} {a : ReaderAction TabAction}
    (ha : a ≠ .refresh)
    (hs : Reader.UpToDate (webStore page parseDate) (current v) (exposed v) s)
    (h : Reader.next (webStore page parseDate) (webProvider v assumeHydrated) s a = some s')
    (hs' : Reader.UpToDate (webStore page parseDate) (current v) (exposed v) s') :
    WebTold v assumeHydrated s a := by
  have hk := not_imp_not.1 (Reader.not_upToDate_of_not_kept hs · h) hs'
  obtain ⟨⟨b, t⟩, r⟩ := s
  unfold WebTold
  split
  · next held hr =>
    dsimp only at hr
    subst hr
    rintro rfl
    rcases hk with hk | hk
    · cases hk
    · exact hk
  · next a held hr =>
    dsimp only at hr
    subst hr
    intro update hu hcache hd
    have ht := (Reader.next_store h).1
    obtain ⟨hstate, -, -⟩ := webStore_of_update ht hu
    have hn : (webStore page parseDate).notifies (b, t) a = false := by
      dsimp only [webStore] at hcache hd ⊢
      rw [hu]
      dsimp only
      rw [hcache, hd]
      rfl
    have hc := (of_current_eq (hk hn s'.1 ht)).1
    dsimp only [webStore] at hc
    rwa [hstate] at hc
  · exact absurd rfl ha
  · trivial

end

/-- A provider that is not passed over by its store exposes what `getInfo()` returns, once its effect
has run and the updaters of all notifications are applied; a step that passes it over, an updater
apart, leaves it behind. -/
theorem providers_up_to_date (page : Web.Page) (parseDate : String → Option ℤ) (v : Variant) :
    (∀ h s, (Reader.machine (nativeStore parseDate) (nativeProvider v)).Reach
        (fun _ => NativeTold v) h s →
      Reader.UpToDate (nativeStore parseDate) (current v) (exposed v) s ∧
        ∀ a s', a ≠ .refresh →
          Reader.next (nativeStore parseDate) (nativeProvider v) s a = some s' →
          Reader.UpToDate (nativeStore parseDate) (current v) (exposed v) s' →
          NativeTold v s a) ∧
    ∀ assumeHydrated h s,
      (Reader.machine (webStore page parseDate) (webProvider v assumeHydrated)).Reach
        (fun _ => WebTold v assumeHydrated) h s →
      Reader.UpToDate (webStore page parseDate) (current v) (exposed v) s ∧
        ∀ a s', a ≠ .refresh →
          Reader.next (webStore page parseDate) (webProvider v assumeHydrated) s a = some s' →
          Reader.UpToDate (webStore page parseDate) (current v) (exposed v) s' →
          WebTold v assumeHydrated s a := by
  constructor
  · intro h s hr
    have hs := Reader.upToDate_of_reach (fun _ _ _ => kept_of_nativeTold) hr
    exact ⟨hs, fun a s' ha hn => nativeTold_of_upToDate ha hs hn⟩
  · intro assumeHydrated h s hr
    have hs := Reader.upToDate_of_reach (fun _ _ _ => kept_of_webTold) hr
    exact ⟨hs, fun a s' ha hn => webTold_of_upToDate ha hs hn⟩

/-- A login on a device. -/
def deviceLogin : Core.Action :=
  .op (.updateStateAndTokens
    ⟨some (OrderedMap.empty.set "session" (some (.str "s1"))), some "t", some "j", none⟩
    (.fresh none)) 0 0 true

/-- A new application, with its provider yet to appear. -/
def newDevice : Device × Reader JsonObject := (.initial, .absent)

theorem init_newDevice (v : Variant) : (Reader.machine (nativeStore fun _ => none)
    (nativeProvider v)).init newDevice := ⟨⟨[], .start rfl⟩, rfl⟩

/-- A slice with another boolean field than before has changed visibly. -/
theorem revealed_of_bool {fields : List (String × Json)} {k : String} {b : Bool} {c : Operand}
    {y : Json} (hk : (k, Json.bool b) ∈ fields)
    (hy : (Operand.value y).read k = c) (hc : c ≠ .value (.bool b)) :
    Revealed [] (.obj fields) y := fun _ =>
  ⟨.bool b, c, .field hk List.not_mem_nil (hy ▸ .refl _ _), hc⟩

/-- A login after the effect, in a React Native provider. -/
theorem providers_up_to_date_login :
    ∃ s, (Reader.machine (nativeStore fun _ => none) (nativeProvider .consumer)).Reach
        (fun _ => NativeTold .consumer)
        [.refresh, .store deviceLogin, .attach, .appear] s ∧
      Reader.UpToDate (nativeStore fun _ => none) (current .consumer) (exposed .consumer) s := by
  obtain ⟨s, hr⟩ : ∃ s, (Reader.machine (nativeStore fun _ => none)
      (nativeProvider .consumer)).Reach (fun _ => NativeTold .consumer)
      [.refresh, .store deviceLogin, .attach, .appear] s := by
    refine ⟨_, .step (.step (.step (.step (.start (init_newDevice .consumer)) trivial rfl)
      (by rfl) rfl) trivial rfl) ?_ rfl⟩
    intro k hk x hx
    simp only [Variant.slices, List.mem_cons, List.not_mem_nil, or_false] at hk
    rcases hk with rfl | rfl
    · obtain rfl := Option.some.inj hx
      exact revealed_of_bool (List.mem_cons_of_mem _ List.mem_cons_self) rfl nofun
    · obtain rfl := Option.some.inj hx
      exact revealed_of_bool (List.mem_cons_of_mem _ List.mem_cons_self) rfl nofun
  exact ⟨s, hr, ((providers_up_to_date Web.CrossTab.examplePage (fun _ => none) .consumer).1 _ s hr).1⟩

/-- A login in a tab. -/
def tabLogin : TabAction := .op (Web.CrossTab.loginWith "s1")

/-- A new tab on a custom endpoint, with its provider yet to appear. -/
def newTab : (Web.Browser × Web.Tab) × Reader JsonObject :=
  (Web.construct Web.CrossTab.examplePage Web.CrossTab.defaults true Web.CrossTab.emptyBrowser,
    .absent)

theorem init_newTab (v : Variant) (assumeHydrated : Bool) :
    (Reader.machine (webStore Web.CrossTab.examplePage fun _ => none)
      (webProvider v assumeHydrated)).init newTab :=
  ⟨⟨Web.CrossTab.defaults, true, Web.CrossTab.emptyBrowser, rfl⟩, rfl⟩

/-- A login between the first render and the effect, in a React Native provider and in a web provider
that assumes it is hydrated. -/
theorem providers_miss_login :
    (¬ ∀ h s, (Reader.machine (nativeStore fun _ => none) (nativeProvider .consumer)).Reach
        anyStep h s →
      Reader.UpToDate (nativeStore fun _ => none) (current .consumer) (exposed .consumer) s) ∧
    ¬ ∀ h s, (Reader.machine (webStore Web.CrossTab.examplePage fun _ => none)
        (webProvider .consumer true)).Reach anyStep h s →
      Reader.UpToDate (webStore Web.CrossTab.examplePage fun _ => none) (current .consumer)
        (exposed .consumer) s := by
  constructor
  · intro hall
    have hmissed := hall [.attach, .store deviceLogin, .appear] _
      (reach_of_exec (init_newDevice .consumer) rfl) _ rfl
    have hsession : some JsonTree.null = some (JsonTree.str "s1") :=
      congrArg (fun l => l.head?.bind Prod.fst) hmissed
    cases hsession
  · intro hall
    have hmissed := hall [.attach, .store tabLogin, .appear] _
      (reach_of_exec (init_newTab .consumer true) rfl) _ rfl
    have hsession : some JsonTree.null = some (JsonTree.str "s1") :=
      congrArg (fun l => l.head?.bind Prod.fst) hmissed
    cases hsession

end StytchBrowser.React
