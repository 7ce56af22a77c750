import Mathlib.Data.Finset.Card
import Mathlib.Data.List.Nodup
import StytchBrowser.Lib.Machine

/-!
# Unsaved changes and navigation

The router of the admin portal holds a navigation back while a blocker is registered. A component
with `useBlockNavigation` registers its callback in an effect when its flag is set, and the cleanup of
the effect removes it; the reducer performs the navigation that is held back when the last blocker is
removed. In a commit all cleanups run before the effects of the new flags.

`Ok` ties the registered callbacks to the flags of the mounted components. A navigation gets through
with an edit open exactly when in one commit all open edits are closed and another is opened
(`HandsOver`).
-/

namespace StytchBrowser.AdminPortal.Router

open Machine (Reach)

/-- `RouterState`. A callback is known by the number of its creation. -/
@[ext]
structure RouterState (ρ : Type) where
  currentRoute : ρ
  pendingRoute : Option ρ
  blockersActive : Finset ℕ

inductive RouterAction (ρ : Type) where
  | navigate (payload : ρ)
  | addBlocker (callback : ℕ)
  | removeBlocker (callback : ℕ)
  | approveNavigation
  | cancelNavigation

variable {ι ρ : Type}

def routerReducer (state : RouterState ρ) : RouterAction ρ → RouterState ρ
  | .navigate payload =>
      if state.blockersActive.card > 0 then { state with pendingRoute := some payload }
      else { state with currentRoute := payload, pendingRoute := none }
  | .addBlocker callback => { state with blockersActive := insert callback state.blockersActive }
  | .removeBlocker callback =>
      let blockersActive := state.blockersActive.erase callback
      match state.pendingRoute with
      | some route =>
          if blockersActive.card = 0 then ⟨route, none, blockersActive⟩
          else { state with blockersActive }
      | none => { state with blockersActive }
  | .approveNavigation =>
      match state.pendingRoute with
      | some route => { state with currentRoute := route, pendingRoute := none }
      | none => state
  | .cancelNavigation => { state with pendingRoute := none }

/-! ## The components -/

/-- A mounted component that calls `useBlockNavigation`, with the callback it has memoized. -/
structure Hook (ι : Type) where
  key : ι
  enableBlock : Bool
  callback : ℕ
  deriving DecidableEq

/-- The router and the components mounted under it. -/
structure Page (ι ρ : Type) where
  router : RouterState ρ
  mounted : List (Hook ι)
  nextCallback : ℕ

/-- The components of a commit in the order of their effects, with their flags. A component that was
mounted with the same flag keeps its callback, the others make a new one. -/
def render [DecidableEq ι] (mounted : List (Hook ι)) : ℕ → List (ι × Bool) → List (Hook ι)
  | _, [] => []
  | nextCallback, c :: components =>
      let callback :=
        match mounted.find? fun m => m.key = c.1 && m.enableBlock = c.2 with
        | some m => m.callback
        | none => nextCallback
      ⟨c.1, c.2, callback⟩ :: render mounted (nextCallback + 1) components

section Commit

variable [DecidableEq ι]

/-- The callbacks registered by the components of `hooks`, those of `others` apart. -/
def registered (hooks others : List (Hook ι)) : List ℕ :=
  (hooks.filter fun m => m.enableBlock && m ∉ others).map Hook.callback

/-- A commit: the cleanups of the effects whose dependencies changed or whose components are
unmounted, then the new effects. -/
def commit (s : Page ι ρ) (components : List (ι × Bool)) : Page ι ρ :=
  let mounted := render s.mounted s.nextCallback components
  let cleanups := (registered s.mounted mounted).map .removeBlocker
  let effects := (registered mounted s.mounted).map .addBlocker
  { router := (cleanups ++ effects).foldl routerReducer s.router
    mounted
    nextCallback := s.nextCallback + components.length }

inductive Action (ι ρ : Type) where
  | navigate (destination : ρ)
  | allowNavigation
  | cancelNavigation
  | commit (components : List (ι × Bool))

def next (s : Page ι ρ) : Action ι ρ → Option (Page ι ρ)
  | .navigate destination => some { s with router := routerReducer s.router (.navigate destination) }
  | .allowNavigation => some { s with router := routerReducer s.router .approveNavigation }
  | .cancelNavigation => some { s with router := routerReducer s.router .cancelNavigation }
  | .commit components =>
      if (components.map Prod.fst).Nodup then some (commit s components) else none

/-- `RouterProvider` with its initial route. -/
def opened (initialRoute : ρ) : Page ι ρ := ⟨⟨initialRoute, none, ∅⟩, [], 0⟩

/-- The runs of the portal from any initial route. -/
def pages : Machine (Page ι ρ) (Action ι ρ) where
  init s := ∃ initialRoute, s = opened initialRoute
  next := next

end Commit

/-- The destination navigated to last, if it was not cancelled since. -/
def latest : List (Action ι ρ) → Option ρ
  | [] => none
  | .navigate destination :: _ => some destination
  | .cancelNavigation :: _ => none
  | _ :: h => latest h

/-- What is claimed of a step: a navigation is held back only by a blocker, the route changes to the
latest destination only and, unless the user allows it, only when no edit is open after the step. -/
structure Guarded (h : List (Action ι ρ)) (s : Page ι ρ) (a : Action ι ρ) (s' : Page ι ρ) :
    Prop where
  pending : s'.router.pendingRoute ≠ none → s'.router.blockersActive.Nonempty
  destination : s'.router.currentRoute ≠ s.router.currentRoute →
    latest (a :: h) = some s'.router.currentRoute
  closed : s'.router.currentRoute ≠ s.router.currentRoute → a ≠ .allowNavigation →
    ∀ m ∈ s'.mounted, m.enableBlock = false

/-- A commit that closes all open edits and opens another while a navigation elsewhere is held
back. -/
def HandsOver (s : Page ι ρ) (a : Action ι ρ) : Prop :=
  ∃ components route, a = .commit components ∧ s.router.pendingRoute = some route ∧
    route ≠ s.router.currentRoute ∧
    (∀ m ∈ s.mounted, m.enableBlock = true → (m.key, true) ∉ components) ∧
    ∃ key, (key, true) ∈ components

/-! ## Cleanups and effects on the router -/

theorem foldl_addBlocker (callbacks : List ℕ) (state : RouterState ρ) :
    (callbacks.map .addBlocker).foldl routerReducer state =
      { state with blockersActive := state.blockersActive ∪ callbacks.toFinset } := by
  induction callbacks generalizing state with
  | nil => simp
  | cons c callbacks ih =>
    rw [List.map_cons, List.foldl_cons, ih]
    simp only [routerReducer, List.toFinset_cons, Finset.insert_union, Finset.union_insert]

theorem sdiff_cons (active : Finset ℕ) (c : ℕ) (callbacks : List ℕ) :
    active \ (c :: callbacks).toFinset = active.erase c \ callbacks.toFinset := by
  rw [List.toFinset_cons, Finset.sdiff_insert, Finset.erase_sdiff_comm]

theorem foldl_removeBlocker_of_none (callbacks : List ℕ) {state : RouterState ρ}
    (hpending : state.pendingRoute = none) :
    (callbacks.map .removeBlocker).foldl routerReducer state =
      { state with blockersActive := state.blockersActive \ callbacks.toFinset } := by
  induction callbacks generalizing state with
  | nil => simp
  | cons c callbacks ih =>
    have hremove : routerReducer state (.removeBlocker c) =
        { state with blockersActive := state.blockersActive.erase c } := by
      simp only [routerReducer, hpending]
    rw [List.map_cons, List.foldl_cons, hremove, sdiff_cons]
    exact ih hpending

/-- The navigation is performed by the cleanup that removes the last blocker. -/
theorem foldl_removeBlocker_of_some (callbacks : List ℕ) {state : RouterState ρ} {route : ρ}
    (hpending : state.pendingRoute = some route) (hblocked : state.blockersActive.Nonempty) :
    (callbacks.map .removeBlocker).foldl routerReducer state =
      if state.blockersActive \ callbacks.toFinset = ∅ then ⟨route, none, ∅⟩
      else { state with blockersActive := state.blockersActive \ callbacks.toFinset } := by
  induction callbacks generalizing state with
  | nil => simp [hblocked.ne_empty]
  | cons c callbacks ih =>
    rw [List.map_cons, List.foldl_cons, sdiff_cons]
    by_cases hlast : state.blockersActive.erase c = ∅
    · have hremove : routerReducer state (.removeBlocker c) = ⟨route, none, ∅⟩ := by
        simp only [routerReducer, hpending, hlast, Finset.card_empty, if_true]
      rw [hremove, foldl_removeBlocker_of_none _ rfl, hlast]
      simp
    · have hcard : (state.blockersActive.erase c).card ≠ 0 := by
        rwa [Ne, Finset.card_eq_zero]
      have hremove : routerReducer state (.removeBlocker c) =
          { state with blockersActive := state.blockersActive.erase c } := by
        simp only [routerReducer, hpending, if_neg hcard]
      rw [hremove]
      exact ih hpending (Finset.nonempty_iff_ne_empty.2 hlast)

/-! ## What is rendered -/

section Render

variable [DecidableEq ι] {mounted : List (Hook ι)} {n : ℕ} {components : List (ι × Bool)}

theorem render_map : (render mounted n components).map (fun m => (m.key, m.enableBlock)) =
    components := by
  induction components generalizing n with
  | nil => rfl
  | cons c components ih => exact congrArg (c :: ·) ih

theorem keys_render : (render mounted n components).map Hook.key = components.map Prod.fst := by
  have h := congrArg (List.map Prod.fst) (@render_map _ _ mounted n components)
  rwa [List.map_map] at h

theorem mem_of_mem_render {m : Hook ι} (hm : m ∈ render mounted n components) :
    (m.key, m.enableBlock) ∈ components := by
  have h := List.mem_map_of_mem (f := fun m : Hook ι => (m.key, m.enableBlock)) hm
  rwa [render_map] at h

/-- A hook that is rendered was mounted, or it has a callback of its own. -/
theorem mem_render_cases {m : Hook ι} (hm : m ∈ render mounted n components) :
    m ∈ mounted ∨ n ≤ m.callback ∧ m.callback < n + components.length := by
  induction components generalizing n with
  | nil => exact absurd hm List.not_mem_nil
  | cons c components ih =>
    rw [List.length_cons]
    rcases List.mem_cons.1 hm with rfl | hm
    · cases hfind : mounted.find? fun m => m.key = c.1 && m.enableBlock = c.2 with
      | none =>
        dsimp only
        exact .inr ⟨Nat.le_refl n, by omega⟩
      | some m =>
        have hfound := List.find?_some hfind
        rw [Bool.and_eq_true, decide_eq_true_iff, decide_eq_true_iff] at hfound
        refine .inl ?_
        dsimp only
        rw [← hfound.1, ← hfound.2]
        exact List.mem_of_find?_eq_some hfind
    · rcases ih hm with h | ⟨hle, hlt⟩
      · exact .inl h
      · exact .inr ⟨by omega, by omega⟩

/-- A component that keeps its flag keeps its hook. -/
theorem mem_render_of_mem (hkeys : (mounted.map Hook.key).Nodup) {m : Hook ι} (hm : m ∈ mounted)
    (hc : (m.key, m.enableBlock) ∈ components) : m ∈ render mounted n components := by
  induction components generalizing n with
  | nil => exact absurd hc List.not_mem_nil
  | cons c components ih =>
    apply List.mem_cons.2
    rcases List.mem_cons.1 hc with rfl | hc
    · refine .inl ?_
      have hfind : mounted.find? (fun m' => m'.key = m.key && m'.enableBlock = m.enableBlock) =
          some m := by
        cases hfind : mounted.find? fun m' => m'.key = m.key && m'.enableBlock = m.enableBlock with
        | none => exact absurd (List.find?_eq_none.1 hfind m hm) (by simp)
        | some m' =>
          have hfound := List.find?_some hfind
          rw [Bool.and_eq_true, decide_eq_true_iff] at hfound
          exact congrArg some (List.inj_on_of_nodup_map hkeys (List.mem_of_find?_eq_some hfind) hm
            hfound.1)
      dsimp only
      rw [hfind]
    · exact .inr (ih hc)

theorem nodup_callbacks_render (hcallbacks : (mounted.map Hook.callback).Nodup)
    (hfresh : ∀ m ∈ mounted, m.callback < n) (hkeys : (components.map Prod.fst).Nodup) :
    ((render mounted n components).map Hook.callback).Nodup := by
  induction components generalizing n with
  | nil => exact List.nodup_nil
  | cons c components ih =>
    rw [List.map_cons, List.nodup_cons] at hkeys
    have htail := ih (fun m hm => Nat.lt_succ_of_lt (hfresh m hm)) hkeys.2
    refine List.nodup_cons.2 ⟨fun hmem => ?_, htail⟩
    obtain ⟨m, hm, hcallback⟩ := List.mem_map.1 hmem
    have hkey : m.key ≠ c.1 := by
      intro h
      have hmem := List.mem_map_of_mem (f := Prod.fst) (mem_of_mem_render hm)
      rw [← h] at hkeys
      exact hkeys.1 hmem
    dsimp only at hcallback
    cases hfind : mounted.find? fun m => m.key = c.1 && m.enableBlock = c.2 with
    | none =>
      rw [hfind] at hcallback
      dsimp only at hcallback
      rcases mem_render_cases hm with h | ⟨hle, -⟩
      · exact absurd (hfresh m h) (by omega)
      · omega
    | some m' =>
      rw [hfind] at hcallback
      dsimp only at hcallback
      have hmem' := List.mem_of_find?_eq_some hfind
      have hfound := List.find?_some hfind
      rw [Bool.and_eq_true, decide_eq_true_iff] at hfound
      rcases mem_render_cases hm with h | ⟨hle, -⟩
      · obtain rfl := List.inj_on_of_nodup_map hcallbacks h hmem' hcallback
        exact hkey hfound.1
      · exact absurd (hfresh m' hmem') (by omega)

end Render

/-! ## The invariant -/

section Invariant

variable [DecidableEq ι]

/-- The registered callbacks are those of the components whose flags are set, and a navigation is held
back only when there are some. -/
structure Ok (h : List (Action ι ρ)) (s : Page ι ρ) : Prop where
  keys : (s.mounted.map Hook.key).Nodup
  callbacks : (s.mounted.map Hook.callback).Nodup
  fresh : ∀ m ∈ s.mounted, m.callback < s.nextCallback
  blockers : ∀ c, c ∈ s.router.blockersActive ↔
    ∃ m ∈ s.mounted, m.enableBlock = true ∧ m.callback = c
  pending : s.router.pendingRoute ≠ none → s.router.blockersActive.Nonempty
  destination : ∀ route, s.router.pendingRoute = some route → latest h = some route

/-- Every open edit is closed by a commit. -/
def Closes (s : Page ι ρ) (components : List (ι × Bool)) : Prop :=
  ∀ m ∈ s.mounted, m.enableBlock = true → (m.key, true) ∉ components

variable {h : List (Action ι ρ)} {s s' : Page ι ρ} {a : Action ι ρ}
  {components : List (ι × Bool)}

theorem mem_registered {hooks others : List (Hook ι)} {c : ℕ} :
    c ∈ (registered hooks others).toFinset ↔
      ∃ m ∈ hooks, m.enableBlock = true ∧ m ∉ others ∧ m.callback = c := by
  simp only [registered, List.mem_toFinset, List.mem_map, List.mem_filter, Bool.and_eq_true,
    decide_eq_true_iff, and_assoc]

/-- The cleanups leave the callbacks of the hooks that are kept. -/
theorem Ok.mem_sdiff (hs : Ok h s) (mounted : List (Hook ι)) (c : ℕ) :
    c ∈ s.router.blockersActive \ (registered s.mounted mounted).toFinset ↔
      ∃ m ∈ s.mounted, m.enableBlock = true ∧ m ∈ mounted ∧ m.callback = c := by
  rw [Finset.mem_sdiff, hs.blockers, mem_registered]
  constructor
  · rintro ⟨⟨m, hm, hblock, rfl⟩, hkept⟩
    exact ⟨m, hm, hblock, by_contra fun hnot => hkept ⟨m, hm, hblock, hnot, rfl⟩, rfl⟩
  · rintro ⟨m, hm, hblock, hkept, rfl⟩
    refine ⟨⟨m, hm, hblock, rfl⟩, ?_⟩
    rintro ⟨m', hm', -, hnot, hcallback⟩
    obtain rfl := List.inj_on_of_nodup_map hs.callbacks hm' hm hcallback
    exact hnot hkept

theorem Ok.mem_render_iff (hs : Ok h s) {m : Hook ι} (hm : m ∈ s.mounted)
    (hblock : m.enableBlock = true) :
    m ∈ render s.mounted s.nextCallback components ↔ (m.key, true) ∈ components := by
  constructor
  · intro hmem
    have hc := mem_of_mem_render hmem
    rwa [hblock] at hc
  · intro hc
    rw [← hblock] at hc
    exact mem_render_of_mem hs.keys hm hc

theorem Ok.sdiff_eq_empty_iff (hs : Ok h s) :
    s.router.blockersActive \
        (registered s.mounted (render s.mounted s.nextCallback components)).toFinset = ∅ ↔
      Closes s components := by
  rw [Finset.eq_empty_iff_forall_notMem]
  constructor
  · intro hempty m hm hblock hc
    exact hempty m.callback
      ((hs.mem_sdiff _ _).2 ⟨m, hm, hblock, (hs.mem_render_iff hm hblock).2 hc, rfl⟩)
  · intro hcloses c hc
    obtain ⟨m, hm, hblock, hkept, -⟩ := (hs.mem_sdiff _ _).1 hc
    exact hcloses m hm hblock ((hs.mem_render_iff hm hblock).1 hkept)

/-- After the effects the registered callbacks are those of the new flags. -/
theorem Ok.mem_union (hs : Ok h s) (mounted : List (Hook ι)) (c : ℕ) :
    c ∈ s.router.blockersActive \ (registered s.mounted mounted).toFinset ∪
        (registered mounted s.mounted).toFinset ↔
      ∃ m ∈ mounted, m.enableBlock = true ∧ m.callback = c := by
  rw [Finset.mem_union, hs.mem_sdiff, mem_registered]
  constructor
  · rintro (⟨m, -, hblock, hm, rfl⟩ | ⟨m, hm, hblock, -, rfl⟩)
    · exact ⟨m, hm, hblock, rfl⟩
    · exact ⟨m, hm, hblock, rfl⟩
  · rintro ⟨m, hm, hblock, rfl⟩
    by_cases hold : m ∈ s.mounted
    · exact .inl ⟨m, hold, hblock, hm, rfl⟩
    · exact .inr ⟨m, hm, hblock, hold, rfl⟩

/-- What a commit does to the router: a navigation that is held back is performed when the commit
closes every edit. -/
theorem Ok.commit_router (hs : Ok h s) (components : List (ι × Bool)) :
    ∃ active : Finset ℕ, (∀ c, c ∈ active ↔
        ∃ m ∈ (commit s components).mounted, m.enableBlock = true ∧ m.callback = c) ∧
      ((s.router.pendingRoute = none ∨ ¬Closes s components) ∧
          (commit s components).router = { s.router with blockersActive := active } ∨
        ∃ route, s.router.pendingRoute = some route ∧ Closes s components ∧
          (commit s components).router = ⟨route, none, active⟩) := by
  refine ⟨_, hs.mem_union _, ?_⟩
  dsimp only [commit]
  rw [List.foldl_append]
  cases hpending : s.router.pendingRoute with
  | none =>
    rw [foldl_removeBlocker_of_none _ hpending, foldl_addBlocker, hpending]
    exact .inl ⟨.inl rfl, rfl⟩
  | some route =>
    have hblocked : s.router.blockersActive.Nonempty := hs.pending (by simp [hpending])
    rw [foldl_removeBlocker_of_some _ hpending hblocked]
    by_cases hcloses : Closes s components
    · have hempty := hs.sdiff_eq_empty_iff.2 hcloses
      rw [if_pos hempty, foldl_addBlocker, hempty]
      exact .inr ⟨route, rfl, hcloses, rfl⟩
    · have hempty := mt hs.sdiff_eq_empty_iff.1 hcloses
      rw [if_neg hempty, foldl_addBlocker, hpending]
      exact .inl ⟨.inr hcloses, rfl⟩

omit [DecidableEq ι] in
theorem ok_opened (initialRoute : ρ) : Ok [] (opened initialRoute : Page ι ρ) where
  keys := List.nodup_nil
  callbacks := List.nodup_nil
  fresh _ hm := absurd hm List.not_mem_nil
  blockers c := by simp [opened]
  pending hp := absurd rfl hp
  destination _ := nofun

omit [DecidableEq ι] in
/-- What a step that only concerns the router has to keep. -/
theorem Ok.of_router (hs : Ok h s) {router : RouterState ρ}
    (hactive : router.blockersActive = s.router.blockersActive)
    (hpending : router.pendingRoute ≠ none → router.blockersActive.Nonempty)
    (hdestination : ∀ route, router.pendingRoute = some route → latest (a :: h) = some route) :
    Ok (a :: h) { s with router } where
  keys := hs.keys
  callbacks := hs.callbacks
  fresh := hs.fresh
  blockers := hactive ▸ hs.blockers
  pending := hpending
  destination := hdestination

theorem Ok.commit (hs : Ok h s) (hkeys : (components.map Prod.fst).Nodup) :
    Ok (.commit components :: h) (Router.commit s components) := by
  obtain ⟨active, hactive, hrouter⟩ := hs.commit_router components
  have hrendered : ∀ m ∈ (Router.commit s components).mounted,
      m.callback < (Router.commit s components).nextCallback := by
    intro m hm
    have hm : m ∈ render s.mounted s.nextCallback components := hm
    rcases mem_render_cases hm with hold | ⟨-, hlt⟩
    · exact Nat.lt_of_lt_of_le (hs.fresh m hold) (Nat.le_add_right _ _)
    · exact hlt
  refine ⟨?_, nodup_callbacks_render hs.callbacks hs.fresh hkeys, hrendered, ?_, ?_, ?_⟩
  · rw [Router.commit, keys_render]
    exact hkeys
  · rcases hrouter with ⟨-, hrouter⟩ | ⟨route, -, -, hrouter⟩
    · rw [hrouter]
      exact hactive
    · rw [hrouter]
      exact hactive
  · rcases hrouter with ⟨hkept, hrouter⟩ | ⟨route, -, -, hrouter⟩
    · rw [hrouter]
      intro hpending
      rcases hkept with hnone | hopen
      · exact absurd hnone hpending
      · simp only [Closes, not_forall, not_not] at hopen
        obtain ⟨m, hm, hblock, hc⟩ := hopen
        exact ⟨m.callback,
          (hactive _).2 ⟨m, (hs.mem_render_iff hm hblock).2 hc, hblock, rfl⟩⟩
    · rw [hrouter]
      exact fun hpending => absurd rfl hpending
  · rcases hrouter with ⟨-, hrouter⟩ | ⟨route, -, -, hrouter⟩
    · rw [hrouter]
      exact hs.destination
    · rw [hrouter]
      exact fun _ => nofun

theorem Ok.step (hs : Ok h s) (hn : next s a = some s') : Ok (a :: h) s' := by
  cases a with
  | navigate destination =>
    obtain rfl := Option.some.inj hn
    by_cases hblocked : s.router.blockersActive.card > 0
    · have hreduce : routerReducer s.router (.navigate destination) =
          { s.router with pendingRoute := some destination } := if_pos hblocked
      rw [hreduce]
      exact hs.of_router rfl (fun _ => Finset.card_pos.1 hblocked) fun _ hroute => hroute
    · have hreduce : routerReducer s.router (.navigate destination) =
          { s.router with currentRoute := destination, pendingRoute := none } := if_neg hblocked
      rw [hreduce]
      exact hs.of_router rfl (fun hp => absurd rfl hp) fun _ => nofun
  | allowNavigation =>
    obtain rfl := Option.some.inj hn
    cases hpending : s.router.pendingRoute with
    | none =>
      have hreduce : routerReducer s.router .approveNavigation = s.router := by
        simp only [routerReducer, hpending]
      rw [hreduce]
      exact hs.of_router rfl hs.pending hs.destination
    | some route =>
      have hreduce : routerReducer s.router .approveNavigation =
          { s.router with currentRoute := route, pendingRoute := none } := by
        simp only [routerReducer, hpending]
      rw [hreduce]
      exact hs.of_router rfl (fun hp => absurd rfl hp) fun _ => nofun
  | cancelNavigation =>
    obtain rfl := Option.some.inj hn
    exact hs.of_router rfl (fun hp => absurd rfl hp) fun _ => nofun
  | commit components =>
    obtain ⟨hkeys, rfl⟩ := Option.ite_some_none_eq_some.1 hn
    exact hs.commit hkeys

theorem ok_of_reach {C : Machine.Guard (Page ι ρ) (Action ι ρ)} (hr : Reach pages C h s) :
    Ok h s := by
  refine hr.invariant (I := Ok) ?_ ?_
  · rintro _ ⟨initialRoute, rfl⟩
    exact ok_opened initialRoute
  · exact fun _ _ _ _ hs _ hn => hs.step hn

/-! ## When the route changes -/

omit [DecidableEq ι] in
/-- No flag is set when no blocker is registered. -/
theorem Ok.enableBlock_eq_false (hs : Ok h s) (hactive : ¬s.router.blockersActive.card > 0) :
    ∀ m ∈ s.mounted, m.enableBlock = false := by
  intro m hm
  rw [Bool.eq_false_iff]
  intro hblock
  exact hactive (Finset.card_pos.2 ⟨m.callback, (hs.blockers _).2 ⟨m, hm, hblock, rfl⟩⟩)

/-- The steps that commit nothing are as claimed. -/
theorem Ok.guarded_of_ne_commit (hs : Ok h s) (hn : next s a = some s')
    (hne : ∀ components, a ≠ .commit components) : Guarded h s a s' := by
  have hs' := hs.step hn
  cases a with
  | navigate destination =>
    refine ⟨hs'.pending, ?_, ?_⟩
    · obtain rfl := Option.some.inj hn
      dsimp only [routerReducer]
      split_ifs
      · exact fun hchanged => absurd rfl hchanged
      · exact fun _ => rfl
    · obtain rfl := Option.some.inj hn
      dsimp only [routerReducer]
      split_ifs with hblocked
      · exact fun hchanged => absurd rfl hchanged
      · exact fun _ _ => hs.enableBlock_eq_false hblocked
  | allowNavigation =>
    refine ⟨hs'.pending, ?_, fun _ hallow => absurd rfl hallow⟩
    obtain rfl := Option.some.inj hn
    dsimp only [routerReducer]
    cases hpending : s.router.pendingRoute with
    | none => exact fun hchanged => absurd rfl hchanged
    | some route => exact fun _ => hs.destination route hpending
  | cancelNavigation =>
    obtain rfl := Option.some.inj hn
    exact ⟨hs'.pending, fun hchanged => absurd rfl hchanged, fun hchanged => absurd rfl hchanged⟩
  | commit components => exact absurd rfl (hne components)

/-- A commit is as claimed unless it hands an edit over. -/
theorem Ok.guarded_commit_iff {components : List (ι × Bool)} (hs : Ok h s)
    (hn : next s (.commit components) = some s') :
    Guarded h s (.commit components) s' ↔ ¬HandsOver s (.commit components) := by
  have hs' := hs.step hn
  obtain ⟨-, rfl⟩ := Option.ite_some_none_eq_some.1 hn
  obtain ⟨active, -, hrouter⟩ := hs.commit_router components
  rcases hrouter with ⟨hkept, hrouter⟩ | ⟨route, hpending, hcloses, hrouter⟩
  · have hsame : (Router.commit s components).router.currentRoute = s.router.currentRoute := by
      rw [hrouter]
    refine iff_of_true ⟨hs'.pending, fun hchanged => absurd hsame hchanged,
      fun hchanged => absurd hsame hchanged⟩ ?_
    rintro ⟨_, route, ha, hpending, -, hcloses, -⟩
    obtain rfl := Action.commit.inj ha
    rcases hkept with hnone | hopen
    · rw [hpending] at hnone
      cases hnone
    · exact hopen hcloses
  · have hcurrent : (Router.commit s components).router.currentRoute = route := by rw [hrouter]
    constructor
    · rintro hguarded ⟨_, route', ha, hpending', hne, -, key, hkey⟩
      obtain rfl := Action.commit.inj ha
      obtain rfl := Option.some.inj (hpending.symm.trans hpending')
      have hclosed := hguarded.closed (hcurrent ▸ hne) nofun
      have hrendered : (key, true) ∈ (Router.commit s components).mounted.map
          fun m => (m.key, m.enableBlock) := by
        rw [Router.commit, render_map]
        exact hkey
      obtain ⟨m, hm, hmap⟩ := List.mem_map.1 hrendered
      rw [hclosed m hm] at hmap
      exact Bool.noConfusion (Prod.mk.inj hmap).2
    · intro hnot
      refine ⟨hs'.pending, fun _ => ?_, fun hchanged _ m hm => ?_⟩
      · rw [hcurrent]
        exact hs.destination route hpending
      · rw [Bool.eq_false_iff]
        intro hblock
        have hc := mem_of_mem_render hm
        rw [hblock] at hc
        exact hnot ⟨components, route, rfl, hpending, hcurrent ▸ hchanged, hcloses, m.key, hc⟩

/-- A step is as claimed unless it hands an edit over. -/
theorem Ok.guarded_iff (hs : Ok h s) (hn : next s a = some s') :
    Guarded h s a s' ↔ ¬HandsOver s a := by
  by_cases hcommit : ∃ components, a = .commit components
  · obtain ⟨components, rfl⟩ := hcommit
    exact hs.guarded_commit_iff hn
  · have hguarded := hs.guarded_of_ne_commit hn fun components ha => hcommit ⟨components, ha⟩
    refine iff_of_true hguarded ?_
    rintro ⟨components, _, ha, -⟩
    exact hcommit ⟨components, ha⟩

end Invariant

/-- In the runs that an environment admits every step is as claimed if and only if no commit hands
an edit over. -/
theorem editing_guarded_iff [DecidableEq ι] (C : Machine.Guard (Page ι ρ) (Action ι ρ)) :
    (∀ h s a s', Reach pages C h s → C h s a → next s a = some s' → Guarded h s a s') ↔
      ∀ h s a s', Reach pages C h s → C h s a → next s a = some s' → ¬HandsOver s a := by
  constructor
  · intro hguarded h s a s' hr hc hn
    exact ((ok_of_reach hr).guarded_iff hn).1 (hguarded h s a s' hr hc hn)
  · intro hnot h s a s' hr hc hn
    exact ((ok_of_reach hr).guarded_iff hn).2 (hnot h s a s' hr hc hn)

/-- Two sections, one of which is being edited and one of which is saving, and a navigation that is
held back. -/
def heldBack : Page ℕ ℕ := ⟨⟨0, some 1, {0}⟩, [⟨0, true, 0⟩, ⟨1, false, 1⟩], 2⟩

/-- When the saving fails in the commit in which the edit is closed, the portal leaves an open edit. -/
theorem navigation_leaves_open_edit :
    ¬∀ (h : List (Action ℕ ℕ)) s a s', Reach pages Machine.anyStep h s → next s a = some s' →
      Guarded h s a s' := by
  intro hguarded
  have hinit : (pages : Machine (Page ℕ ℕ) (Action ℕ ℕ)).init (opened 0) := ⟨0, rfl⟩
  have hr : Reach pages Machine.anyStep
      [.navigate 1, .commit [(0, true), (1, false)]] heldBack :=
    Machine.reach_of_exec hinit rfl
  have hstep := hguarded _ _ (.commit [(0, false), (1, true)]) _ hr rfl
  exact absurd (hstep.closed (by decide) nofun ⟨1, true, 3⟩ (by decide)) (by decide)

end StytchBrowser.AdminPortal.Router
