import StytchBrowser.JsUtils.PlainObject
import StytchBrowser.Lib.Machine
import StytchBrowser.Lib.Slots

/-!
# Loading external scripts

`loadESModule` puts a script element into the page and takes its module from the global scope when the
script has loaded. Every copy of the SDK on the page keeps the promises of its own calls; the copies
share the document, in which an element whose script has loaded is marked.

A promise keeps how its module is looked up, a page the calls that were made and the global scopes that
there have been, and an element whether a marked one was there before it; the code has no such fields.

* `scripts_loaded_once`: in which runs no element is put beside a marked one, and what holds of the
  calls.
-/

universe u v w

namespace StytchBrowser.Core.ModuleLoader

open Machine

/-- A URL. It is no name that objects inherit, and is itself in the quotes of a selector. -/
structure Url where
  text : String
  own : text ∉ "__proto__" :: objectPrototypeNames
  quotable : ∀ c ∈ text.toList, c ≠ '"' ∧ c ≠ '\\' ∧ c ≠ '\n'
  deriving DecidableEq

/-- A promise; the reason of a rejection is the message of the error. -/
inductive PromiseState (μ : Type v) where
  | pending
  | resolved (module : μ)
  | rejected (message : String)

structure Promise (γ : Type u) (μ : Type v) where
  url : Url
  /-- `moduleFromGlobalScope`; it may throw an error with the text. -/
  moduleFromGlobalScope : γ → Except String μ
  state : PromiseState μ

/-- A script element. -/
structure Script where
  src : Url
  /-- `dataset.loaded === 'true'`. -/
  marked : Bool
  /-- Its script has loaded or failed. -/
  finished : Bool
  /-- The promise that its listeners settle. -/
  listener : Option ℕ
  /-- A marked element with the URL was there before it. -/
  besideMarked : Bool

/-- A page with copies `κ` of the SDK. -/
structure Page (κ : Type w) (γ : Type u) (μ : Type v) where
  /-- The elements of the head, to which new ones are added, and of the body. -/
  head : List Script
  body : List Script
  promises : List (Promise γ μ)
  /-- `ModulePromiseCache` of a copy. -/
  cache : κ → Url → Option ℕ
  /-- What `loadESModule` was called with, and the promise it returned. -/
  calls : List (κ × Url × ℕ)
  global : γ
  scopes : List γ

inductive PageAction (κ : Type w) (γ : Type u) (μ : Type v) where
  | loadESModule (copy : κ) (url : Url) (moduleFromGlobalScope : γ → Except String μ)
  /-- The script of an element of the head runs, and its `load` event is fired. -/
  | load (i : ℕ) (global : γ)
  /-- The `error` event is fired. -/
  | error (i : ℕ) (message : String)
  /-- Other code changes the global scope. -/
  | setGlobal (global : γ)

variable {κ : Type w} {γ : Type u} {μ : Type v} [DecidableEq κ]

namespace Page

/-- `findScript`. -/
def findScript (s : Page κ γ μ) (url : Url) : Option Script :=
  (s.head ++ s.body).find? (·.src = url)

/-- What the promise is settled with at once, where the first element is marked. -/
def early (s : Page κ γ μ) (url : Url) (moduleFromGlobalScope : γ → Except String μ) :
    PromiseState μ :=
  match s.findScript url with
  | none => .pending
  | some script =>
      if script.marked then
        match moduleFromGlobalScope s.global with
        | .ok module => .resolved module
        | .error message => .rejected (url.text ++
            " already loaded, but module was not found in global scope: " ++ message)
      else .pending

/-- An element for the URL is marked. -/
def hasMarked (s : Page κ γ μ) (url : Url) : Bool :=
  (s.head ++ s.body).any fun script => script.src = url && script.marked

/-- A new promise, which the copy keeps. -/
def newPromise (s : Page κ γ μ) (copy : κ) (url : Url)
    (moduleFromGlobalScope : γ → Except String μ) (state : PromiseState μ) : Page κ γ μ :=
  { s with
    promises := s.promises ++ [⟨url, moduleFromGlobalScope, state⟩]
    cache := Function.update s.cache copy (Function.update (s.cache copy) url (some s.promises.length))
    calls := (copy, url, s.promises.length) :: s.calls }

/-- `createScript`, with the listeners. -/
def createScript (s : Page κ γ μ) (url : Url) (promise : ℕ) : Page κ γ μ :=
  { s with head := s.head ++ [⟨url, false, false, some promise, s.hasMarked url⟩] }

/-- `loadESModuleFromNetwork`: a rejection returns, a resolution does not. -/
def loadFromNetwork (s : Page κ γ μ) (copy : κ) (url : Url)
    (moduleFromGlobalScope : γ → Except String μ) : Page κ γ μ :=
  match s.early url moduleFromGlobalScope with
  | .rejected message => s.newPromise copy url moduleFromGlobalScope (.rejected message)
  | state => (s.createScript url s.promises.length).newPromise copy url moduleFromGlobalScope state

def loadESModule (s : Page κ γ μ) (copy : κ) (url : Url)
    (moduleFromGlobalScope : γ → Except String μ) : Page κ γ μ :=
  match s.cache copy url with
  | some promise => { s with calls := (copy, url, promise) :: s.calls }
  | none => s.loadFromNetwork copy url moduleFromGlobalScope

/-- `resolve` or `reject`, which do nothing for a promise that is settled. -/
def settle (promises : List (Promise γ μ)) (i : ℕ) (f : Promise γ μ → PromiseState μ) :
    List (Promise γ μ) :=
  match promises[i]? with
  | some promise =>
      match promise.state with
      | .pending => promises.set i { promise with state := f promise }
      | _ => promises
  | none => promises

/-- What the `load` listener settles a promise with. -/
def afterLoad (global : γ) (promise : Promise γ μ) : PromiseState μ :=
  match promise.moduleFromGlobalScope global with
  | .ok module => .resolved module
  | .error message => .rejected (promise.url.text ++
      " was loaded, but module was not found in global scope: " ++ message)

/-- What the `error` listener settles it with. -/
def afterError (message : String) (promise : Promise γ μ) : PromiseState μ :=
  .rejected (promise.url.text ++ " could not be loaded: " ++ message)

/-- The events of an element, with its listeners. -/
def fire (s : Page κ γ μ) (i : ℕ) (marks : Bool) (f : Promise γ μ → PromiseState μ) :
    Option (Page κ γ μ) :=
  match s.head[i]? with
  | none => none
  | some script =>
      if script.finished then none
      else match script.listener with
        | none => some { s with head := s.head.set i { script with finished := true } }
        | some promise => some { s with
            head := s.head.set i { script with finished := true, marked := marks || script.marked }
            promises := settle s.promises promise f }

def setGlobal (s : Page κ γ μ) (global : γ) : Page κ γ μ :=
  { s with global := global, scopes := global :: s.scopes }

def next (s : Page κ γ μ) : PageAction κ γ μ → Option (Page κ γ μ)
  | .loadESModule copy url moduleFromGlobalScope => some (s.loadESModule copy url moduleFromGlobalScope)
  | .load i global => (s.setGlobal global).fire i true (afterLoad global)
  | .error i message => s.fire i false (afterError message)
  | .setGlobal global => some (s.setGlobal global)

end Page

/-- A page with any elements of its own, before the SDK is used. -/
def pages : Machine (Page κ γ μ) (PageAction κ γ μ) where
  init s := (∀ script ∈ s.head ++ s.body, script.listener = none ∧ script.besideMarked = false) ∧
    s.promises = [] ∧ (∀ copy url, s.cache copy url = none) ∧ s.calls = [] ∧ s.scopes = [s.global]
  next := Page.next

/-- No element is put beside a marked one; the calls of a copy for a URL share a promise, for which
there is one element at most; a promise is pending only while its element has neither loaded nor
failed; and it is resolved only with the module found in a global scope. -/
structure LoadedOnce (s : Page κ γ μ) : Prop where
  once : ∀ script ∈ s.head, script.besideMarked = false
  promised : ∀ copy url i, (copy, url, i) ∈ s.calls →
    ∃ promise, s.promises[i]? = some promise ∧ promise.url = url
  shared : ∀ copy url i j, (copy, url, i) ∈ s.calls → (copy, url, j) ∈ s.calls → i = j
  element : (s.head.filterMap (·.listener)).Nodup
  settles : ∀ i promise, s.promises[i]? = some promise → promise.state = .pending →
    ∃ script ∈ s.head, script.listener = some i ∧ script.src = promise.url ∧ script.finished = false
  found : ∀ promise ∈ s.promises, ∀ module, promise.state = .resolved module →
    ∃ global ∈ s.scopes, promise.moduleFromGlobalScope global = .ok module

/-- A call for a URL that has a marked element is answered from the cache, or the first element is
marked and the module is not found. -/
def CallsMarked : Guard (Page κ γ μ) (PageAction κ γ μ) := fun _ s a =>
  match a with
  | .loadESModule copy url moduleFromGlobalScope => s.hasMarked url →
      (s.cache copy url).isSome ∨ ∃ message, s.early url moduleFromGlobalScope = .rejected message
  | _ => True

/-! ## What holds of every page -/

/-- What is known of the promises and the elements. -/
structure Ok (s : Page κ γ μ) : Prop where
  cached : ∀ copy url i, s.cache copy url = some i →
    ∃ promise, s.promises[i]? = some promise ∧ promise.url = url
  called : ∀ copy url i, (copy, url, i) ∈ s.calls → s.cache copy url = some i
  listens : ∀ script ∈ s.head, ∀ i, script.listener = some i → i < s.promises.length
  element : (s.head.filterMap (·.listener)).Nodup
  settles : ∀ i promise, s.promises[i]? = some promise → promise.state = .pending →
    ∃ script ∈ s.head, script.listener = some i ∧ script.src = promise.url ∧ script.finished = false
  found : ∀ promise ∈ s.promises, ∀ module, promise.state = .resolved module →
    ∃ global ∈ s.scopes, promise.moduleFromGlobalScope global = .ok module
  scope : s.global ∈ s.scopes

variable {s s' : Page κ γ μ} {copy : κ} {url : Url} {moduleFromGlobalScope : γ → Except String μ}

omit [DecidableEq κ] in
theorem Ok.loadedOnce (hs : Ok s) (honce : ∀ script ∈ s.head, script.besideMarked = false) :
    LoadedOnce s where
  once := honce
  promised copy url i h := hs.cached copy url i (hs.called copy url i h)
  shared copy url i j hi hj :=
    Option.some.inj ((hs.called copy url i hi).symm.trans (hs.called copy url j hj))
  element := hs.element
  settles := hs.settles
  found := hs.found

theorem cache_newPromise (state : PromiseState μ) (c : κ) (u : Url) :
    (s.newPromise copy url moduleFromGlobalScope state).cache c u =
      if c = copy ∧ u = url then some s.promises.length else s.cache c u := by
  show Function.update s.cache copy _ c u = _
  by_cases hc : c = copy
  · subst hc
    rw [Function.update_self]
    by_cases hu : u = url
    · rw [hu, Function.update_self, if_pos ⟨rfl, rfl⟩]
    · rw [Function.update_of_ne hu, if_neg fun h => hu h.2]
  · rw [Function.update_of_ne hc, if_neg fun h => hc h.1]

/-- An element that listens for a new promise is the only one. -/
theorem nodup_listener_append {l added : List Script} {n : ℕ}
    (hl : (l.filterMap (·.listener)).Nodup)
    (hlt : ∀ script ∈ l, ∀ i, script.listener = some i → i < n)
    (hadded : added = [] ∨ ∃ script, added = [script] ∧ script.listener = some n) :
    ((l ++ added).filterMap (·.listener)).Nodup := by
  rcases hadded with rfl | ⟨script, rfl, hlistener⟩
  · rwa [List.append_nil]
  · have hlast : [script].filterMap (·.listener) = [n] := List.filterMap_cons_some hlistener
    rw [List.filterMap_append, hlast, List.nodup_append]
    refine ⟨hl, List.nodup_singleton _, fun i hi j hj => ?_⟩
    obtain ⟨old, hmem, hold⟩ := List.mem_filterMap.1 hi
    rw [List.mem_singleton.1 hj]
    exact Nat.ne_of_lt (hlt old hmem i hold)

/-- A new promise, with a new element if it is pending. -/
theorem Ok.newPromise (hs : Ok s) (hnone : s.cache copy url = none) {state : PromiseState μ}
    (hfound : ∀ module, state = .resolved module → moduleFromGlobalScope s.global = .ok module)
    {added : List Script}
    (hadded : added = [] ∧ state ≠ .pending ∨
      ∃ beside, added = [⟨url, false, false, some s.promises.length, beside⟩]) :
    Ok (({ s with head := s.head ++ added } : Page κ γ μ).newPromise copy url moduleFromGlobalScope
      state) := by
  have hlistener : ∀ script ∈ added, script.listener = some s.promises.length := by
    rcases hadded with ⟨rfl, -⟩ | ⟨beside, rfl⟩
    · exact nofun
    · intro script hmem
      rw [List.mem_singleton.1 hmem]
  have hnew : (s.promises ++ [⟨url, moduleFromGlobalScope, state⟩])[s.promises.length]? =
      some ⟨url, moduleFromGlobalScope, state⟩ := List.getElem?_concat_length
  constructor
  · intro c u i h
    rw [cache_newPromise] at h
    split_ifs at h with heq
    · obtain rfl := Option.some.inj h
      exact ⟨_, hnew, heq.2.symm⟩
    · obtain ⟨promise, hpromise, hurl⟩ := hs.cached c u i h
      exact ⟨promise, List.getElem?_append_left (List.getElem?_eq_some_iff.1 hpromise).1 ▸ hpromise, hurl⟩
  · intro c u i h
    rw [cache_newPromise]
    rcases List.mem_cons.1 h with h | h
    · obtain ⟨rfl, rfl, rfl⟩ : c = copy ∧ u = url ∧ i = s.promises.length := by simpa using h
      exact if_pos ⟨rfl, rfl⟩
    · have hold := hs.called c u i h
      rw [if_neg]
      · exact hold
      · rintro ⟨rfl, rfl⟩
        rw [show s.cache c u = none from hnone] at hold
        cases hold
  · intro script hmem i h
    show i < (s.promises ++ [_]).length
    rw [List.length_append, List.length_singleton]
    rcases List.mem_append.1 hmem with hmem | hmem
    · exact Nat.lt_succ_of_lt (hs.listens script hmem i h)
    · obtain rfl := Option.some.inj ((hlistener script hmem).symm.trans h)
      exact Nat.lt_succ_self _
  · refine nodup_listener_append hs.element hs.listens ?_
    exact hadded.imp And.left fun ⟨_, heq⟩ => ⟨_, heq, rfl⟩
  · intro i promise hi hpending
    rcases Slots.of_concat hi with ⟨rfl, rfl⟩ | hi
    · rcases hadded with ⟨-, hne⟩ | ⟨beside, rfl⟩
      · exact absurd hpending hne
      · exact ⟨_, List.mem_append_right _ (List.mem_singleton_self _), rfl, rfl, rfl⟩
    · obtain ⟨script, hmem, hscript⟩ := hs.settles i promise hi hpending
      exact ⟨script, List.mem_append_left _ hmem, hscript⟩
  · intro promise hmem module h
    rcases List.mem_append.1 hmem with hmem | hmem
    · exact hs.found promise hmem module h
    · obtain rfl := List.mem_singleton.1 hmem
      exact ⟨s.global, hs.scope, hfound module h⟩
  · exact hs.scope

omit [DecidableEq κ] in
/-- What is resolved at once is found in the global scope of the call. -/
theorem early_resolved {module : μ} (h : s.early url moduleFromGlobalScope = .resolved module) :
    moduleFromGlobalScope s.global = .ok module := by
  unfold Page.early at h
  split at h
  · cases h
  · split_ifs at h
    split at h
    · next heq =>
      cases h
      exact heq
    · cases h

/-- A call puts at most one element into the page, and none beside a marked one unless the module is
found at once. -/
theorem loadESModule_cases (s : Page κ γ μ) (copy : κ) (url : Url)
    (moduleFromGlobalScope : γ → Except String μ) :
    (∃ promise, s.cache copy url = some promise ∧
      s.loadESModule copy url moduleFromGlobalScope =
        { s with calls := (copy, url, promise) :: s.calls }) ∨
    s.cache copy url = none ∧ ∃ added,
      s.loadESModule copy url moduleFromGlobalScope =
        ({ s with head := s.head ++ added } : Page κ γ μ).newPromise copy url moduleFromGlobalScope
          (s.early url moduleFromGlobalScope) ∧
      ((∃ message, s.early url moduleFromGlobalScope = .rejected message) ∧ added = [] ∨
        (∀ message, s.early url moduleFromGlobalScope ≠ .rejected message) ∧
          added = [⟨url, false, false, some s.promises.length, s.hasMarked url⟩]) := by
  unfold Page.loadESModule
  split
  · next promise hpromise => exact .inl ⟨promise, hpromise, rfl⟩
  · next hnone =>
    refine .inr ⟨hnone, ?_⟩
    unfold Page.loadFromNetwork
    split
    · next message hrejected =>
      refine ⟨[], ?_, .inl ⟨⟨message, hrejected⟩, rfl⟩⟩
      rw [hrejected, List.append_nil]
    · next hother => exact ⟨_, rfl, .inr ⟨hother, rfl⟩⟩

theorem Ok.loadESModule (hs : Ok s) (copy : κ) (url : Url)
    (moduleFromGlobalScope : γ → Except String μ) :
    Ok (s.loadESModule copy url moduleFromGlobalScope) := by
  rcases loadESModule_cases s copy url moduleFromGlobalScope with
    ⟨promise, hcache, heq⟩ | ⟨hnone, added, heq, hadded⟩
  · rw [heq]
    refine ⟨hs.cached, fun c u i h => ?_, hs.listens, hs.element, hs.settles, hs.found, hs.scope⟩
    rcases List.mem_cons.1 h with h | h
    · obtain ⟨rfl, rfl, rfl⟩ : c = copy ∧ u = url ∧ i = promise := by simpa using h
      exact hcache
    · exact hs.called c u i h
  · rw [heq]
    refine hs.newPromise hnone (fun module h => early_resolved h) ?_
    rcases hadded with ⟨⟨message, hrejected⟩, rfl⟩ | ⟨-, rfl⟩
    · refine .inl ⟨rfl, ?_⟩
      rw [hrejected]
      exact nofun
    · exact .inr ⟨_, rfl⟩

/-- A promise is what it was, and settled if it is the one, or it was pending and is settled now. -/
theorem of_settle {promises : List (Promise γ μ)} {i j : ℕ} {f : Promise γ μ → PromiseState μ}
    {promise : Promise γ μ} (h : (Page.settle promises i f)[j]? = some promise) :
    promises[j]? = some promise ∧ (j = i → promise.state ≠ .pending) ∨
      ∃ old, promises[j]? = some old ∧ promise = { old with state := f old } := by
  unfold Page.settle at h
  split at h
  · next old hold =>
    split at h
    · next hpending =>
      rcases Slots.of_set h with ⟨rfl, rfl⟩ | ⟨hne, h⟩
      · exact .inr ⟨old, hold, rfl⟩
      · exact .inl ⟨h, fun heq => absurd heq.symm hne⟩
    · next hsettled =>
      refine .inl ⟨h, ?_⟩
      rintro rfl
      obtain rfl := Option.some.inj (hold.symm.trans h)
      exact hsettled
  · next hnone =>
    refine .inl ⟨h, ?_⟩
    rintro rfl
    rw [hnone] at h
    cases h

theorem length_settle (promises : List (Promise γ μ)) (i : ℕ) (f : Promise γ μ → PromiseState μ) :
    (Page.settle promises i f).length = promises.length := by
  unfold Page.settle
  split
  · split
    · exact List.length_set
    · rfl
  · rfl

/-- A promise keeps its URL. -/
theorem settle_url {promises : List (Promise γ μ)} {i j : ℕ} {f : Promise γ μ → PromiseState μ}
    {promise : Promise γ μ} (h : promises[j]? = some promise) :
    ∃ promise', (Page.settle promises i f)[j]? = some promise' ∧ promise'.url = promise.url := by
  have hlt : j < (Page.settle promises i f).length := by
    rw [length_settle]
    exact (List.getElem?_eq_some_iff.1 h).1
  refine ⟨_, List.getElem?_eq_getElem hlt, ?_⟩
  rcases of_settle (List.getElem?_eq_getElem hlt) with ⟨hold, -⟩ | ⟨old, hold, heq⟩
  · rw [Option.some.inj (hold.symm.trans h)]
  · rw [heq, Option.some.inj (hold.symm.trans h)]

/-- What the listeners of an element do to the promises. -/
def heard (promises : List (Promise γ μ)) (listener : Option ℕ) (f : Promise γ μ → PromiseState μ) :
    List (Promise γ μ) :=
  match listener with
  | none => promises
  | some i => Page.settle promises i f

theorem of_heard {promises : List (Promise γ μ)} {listener : Option ℕ} {j : ℕ}
    {f : Promise γ μ → PromiseState μ} {promise : Promise γ μ}
    (h : (heard promises listener f)[j]? = some promise) :
    promises[j]? = some promise ∧ (listener = some j → promise.state ≠ .pending) ∨
      ∃ old, promises[j]? = some old ∧ promise = { old with state := f old } := by
  cases listener with
  | none => exact .inl ⟨h, nofun⟩
  | some i =>
    rcases of_settle h with ⟨hold, hne⟩ | hnew
    · exact .inl ⟨hold, fun heq => hne (Option.some.inj heq).symm⟩
    · exact .inr hnew

theorem length_heard (promises : List (Promise γ μ)) (listener : Option ℕ)
    (f : Promise γ μ → PromiseState μ) : (heard promises listener f).length = promises.length := by
  cases listener with
  | none => rfl
  | some i => exact length_settle promises i f

theorem heard_url {promises : List (Promise γ μ)} {listener : Option ℕ} {j : ℕ}
    {f : Promise γ μ → PromiseState μ} {promise : Promise γ μ} (h : promises[j]? = some promise) :
    ∃ promise', (heard promises listener f)[j]? = some promise' ∧ promise'.url = promise.url := by
  cases listener with
  | none => exact ⟨promise, h, rfl⟩
  | some i => exact settle_url h

omit [DecidableEq κ] in
/-- The events of an element. -/
theorem fire_cases {i : ℕ} {marks : Bool} {f : Promise γ μ → PromiseState μ}
    (h : s.fire i marks f = some s') :
    ∃ script marked, s.head[i]? = some script ∧ script.finished = false ∧
      s' = { s with
        head := s.head.set i { script with finished := true, marked := marked }
        promises := heard s.promises script.listener f } := by
  unfold Page.fire at h
  split at h
  · cases h
  · next script hscript =>
    split_ifs at h with hfinished
    rw [Bool.not_eq_true] at hfinished
    split at h
    · next hlistener =>
      refine ⟨script, script.marked, hscript, hfinished, ?_⟩
      rw [← Option.some.inj h, hlistener, heard]
    · next promise hlistener =>
      refine ⟨script, marks || script.marked, hscript, hfinished, ?_⟩
      rw [← Option.some.inj h, hlistener, heard]

omit [DecidableEq κ] in
theorem Ok.fire (hs : Ok s) {i : ℕ} {marks : Bool} {f : Promise γ μ → PromiseState μ}
    (hsettles : ∀ promise, f promise ≠ .pending)
    (hfound : ∀ promise module, f promise = .resolved module →
      promise.moduleFromGlobalScope s.global = .ok module)
    (h : s.fire i marks f = some s') : Ok s' := by
  obtain ⟨script, marked, hscript, hfinished, rfl⟩ := fire_cases h
  have hold : ∀ script' ∈ s.head.set i { script with finished := true, marked := marked },
      ∃ old ∈ s.head, script'.listener = old.listener := by
    intro script' hmem
    obtain ⟨k, hk⟩ := List.mem_iff_getElem?.1 hmem
    rcases Slots.of_set hk with ⟨-, rfl⟩ | ⟨-, hk⟩
    · exact ⟨script, List.mem_of_getElem? hscript, rfl⟩
    · exact ⟨script', List.mem_of_getElem? hk, rfl⟩
  constructor
  · intro c u j hj
    obtain ⟨promise, hget, hurl⟩ := hs.cached c u j hj
    obtain ⟨promise', hget', hurl'⟩ := heard_url hget
    exact ⟨promise', hget', hurl'.trans hurl⟩
  · exact hs.called
  · intro script' hmem j hj
    obtain ⟨old, hmem', hlistener⟩ := hold script' hmem
    rw [length_heard]
    exact hs.listens old hmem' j (hlistener ▸ hj)
  · have hkeys : (s.head.set i { script with finished := true, marked := marked }).filterMap
        (·.listener) = s.head.filterMap (·.listener) := Slots.filterMap_set hscript rfl
    exact hkeys.symm ▸ hs.element
  · intro j promise hj hpending
    rcases of_heard hj with ⟨hget, hne⟩ | ⟨old, -, rfl⟩
    · -- its element is another one, or it would be settled
      obtain ⟨script', hmem, hlistener, hsrc, hunfinished⟩ := hs.settles j promise hget hpending
      obtain ⟨k, hk⟩ := List.mem_iff_getElem?.1 hmem
      refine ⟨script', List.mem_of_getElem? (i := k) ?_, hlistener, hsrc, hunfinished⟩
      rw [List.getElem?_set_ne]
      · exact hk
      · rintro rfl
        obtain rfl := Option.some.inj (hscript.symm.trans hk)
        exact hne hlistener hpending
    · exact absurd hpending (hsettles old)
  · intro promise hmem module hmodule
    obtain ⟨j, hj⟩ := List.mem_iff_getElem?.1 hmem
    rcases of_heard hj with ⟨hget, -⟩ | ⟨old, -, rfl⟩
    · exact hs.found promise (List.mem_of_getElem? hget) module hmodule
    · exact ⟨s.global, hs.scope, hfound old module hmodule⟩
  · exact hs.scope

omit [DecidableEq κ] in
theorem Ok.setGlobal (hs : Ok s) (global : γ) : Ok (s.setGlobal global) where
  cached := hs.cached
  called := hs.called
  listens := hs.listens
  element := hs.element
  settles := hs.settles
  found promise hmem module h := by
    obtain ⟨g, hg, hmodule⟩ := hs.found promise hmem module h
    exact ⟨g, List.mem_cons_of_mem _ hg, hmodule⟩
  scope := List.mem_cons_self

theorem Ok.next (hs : Ok s) {a : PageAction κ γ μ} (hn : s.next a = some s') : Ok s' := by
  cases a with
  | loadESModule copy url moduleFromGlobalScope =>
    obtain rfl := Option.some.inj hn
    exact hs.loadESModule copy url moduleFromGlobalScope
  | load i global =>
    have hfire : (s.setGlobal global).fire i true (Page.afterLoad global) = some s' := hn
    refine (hs.setGlobal global).fire (fun promise => ?_) (fun promise module h => ?_) hfire
    · unfold Page.afterLoad
      split <;> exact nofun
    · unfold Page.afterLoad at h
      split at h
      · next heq =>
        cases h
        exact heq
      · cases h
  | error i message =>
    have hfire : s.fire i false (Page.afterError message) = some s' := hn
    refine hs.fire (fun promise => ?_) (fun promise module h => ?_) hfire
    · unfold Page.afterError
      exact nofun
    · cases h
  | setGlobal global =>
    obtain rfl := Option.some.inj hn
    exact hs.setGlobal global

/-- A step that meets the condition puts no element beside a marked one. -/
theorem once_next (honce : ∀ script ∈ s.head, script.besideMarked = false)
    {h : List (PageAction κ γ μ)} {a : PageAction κ γ μ} (hc : CallsMarked h s a)
    (hn : s.next a = some s') : ∀ script ∈ s'.head, script.besideMarked = false := by
  have hfire : ∀ {t : Page κ γ μ} {i : ℕ} {marks : Bool} {f : Promise γ μ → PromiseState μ},
      t.head = s.head → t.fire i marks f = some s' →
        ∀ script ∈ s'.head, script.besideMarked = false := by
    intro t i marks f hhead hfire script' hmem
    obtain ⟨script, marked, hscript, -, rfl⟩ := fire_cases hfire
    obtain ⟨k, hk⟩ := List.mem_iff_getElem?.1 hmem
    rw [hhead] at hscript
    rcases Slots.of_set hk with ⟨-, rfl⟩ | ⟨-, hk⟩
    · exact honce script (List.mem_of_getElem? hscript)
    · exact honce script' (List.mem_of_getElem? (hhead ▸ hk))
  cases a with
  | loadESModule copy url moduleFromGlobalScope =>
    obtain rfl := Option.some.inj hn
    rcases loadESModule_cases s copy url moduleFromGlobalScope with
      ⟨promise, -, heq⟩ | ⟨hnone, added, heq, hadded⟩
    · rw [heq]
      exact honce
    · rw [heq]
      intro script hmem
      rcases List.mem_append.1 hmem with hmem | hmem
      · exact honce script hmem
      · rcases hadded with ⟨-, rfl⟩ | ⟨hresolved, rfl⟩
        · cases hmem
        · obtain rfl := List.mem_singleton.1 hmem
          by_contra hmarked
          rcases hc (Bool.not_eq_false _ ▸ hmarked) with hcached | ⟨message, hrejected⟩
          · rw [hnone] at hcached
            cases hcached
          · exact hresolved message hrejected
  | load i global =>
    have hn : (s.setGlobal global).fire i true (Page.afterLoad global) = some s' := hn
    exact hfire (t := s.setGlobal global) rfl hn
  | error i message =>
    have hn : s.fire i false (Page.afterError message) = some s' := hn
    exact hfire rfl hn
  | setGlobal global =>
    obtain rfl := Option.some.inj hn
    exact honce

/-- In every run in which no call meets a marked element that its copy does not know, scripts are
loaded once. -/
theorem scripts_loaded_once {h : List (PageAction κ γ μ)} (hr : Reach pages CallsMarked h s) :
    LoadedOnce s := by
  have hboth : Ok s ∧ ∀ script ∈ s.head, script.besideMarked = false := by
    refine hr.invariant (I := fun _ s => Ok s ∧ ∀ script ∈ s.head, script.besideMarked = false) ?_
      fun h s a s' hs hc hn => ⟨hs.1.next hn, once_next hs.2 hc hn⟩
    rintro s ⟨hscripts, hpromises, hcache, hcalls, hscopes⟩
    have hhead : ∀ script ∈ s.head, script.listener = none ∧ script.besideMarked = false :=
      fun script hmem => hscripts script (List.mem_append_left _ hmem)
    refine ⟨⟨fun c u i h => ?_, fun c u i h => ?_, fun script hmem i h => ?_, ?_, fun i promise h => ?_,
      fun promise h => ?_, ?_⟩, fun script hmem => (hhead script hmem).2⟩
    · rw [hcache c u] at h
      cases h
    · rw [hcalls] at h
      cases h
    · rw [(hhead script hmem).1] at h
      cases h
    · rw [List.filterMap_eq_nil_iff.2 fun script hmem => (hhead script hmem).1]
      exact List.nodup_nil
    · rw [hpromises] at h
      cases h
    · rw [hpromises] at h
      cases h
    · rw [hscopes]
      exact List.mem_singleton_self _
  exact hboth.1.loadedOnce hboth.2

def telemetryUrl : Url := ⟨"https://elements.stytch.com/telemetry.js", by decide, by simp⟩

/-- A page without elements, where no module is in the global scope. -/
def emptyPage : Page Bool (Option ℕ) ℕ :=
  ⟨[], [], [], fun _ _ => none, [], none, [none]⟩

theorem init_emptyPage : pages.init emptyPage :=
  ⟨nofun, rfl, fun _ _ => rfl, rfl, rfl⟩

def getModule : Option ℕ → Except String ℕ
  | none => .error "not defined"
  | some module => .ok module

/-- Two calls of one copy are answered when the script has loaded. -/
theorem scripts_loaded_once_telemetry :
    ∃ h, ∃ s : Page Bool (Option ℕ) ℕ, Reach pages CallsMarked h s ∧ s.promises.map (·.url) = [telemetryUrl] ∧
      s.calls = [(true, telemetryUrl, 0), (true, telemetryUrl, 0)] ∧ LoadedOnce s := by
  have hr : Reach pages CallsMarked
      [.load 0 (some 5), .loadESModule true telemetryUrl getModule,
        .loadESModule true telemetryUrl getModule] _ :=
    .step (.step (.step (.start init_emptyPage) nofun rfl) (fun _ => .inl rfl) rfl) trivial rfl
  exact ⟨_, _, hr, rfl, rfl, scripts_loaded_once hr⟩

/-- Another copy is called when the script has loaded: it is resolved, and puts a second element into
the page. -/
theorem script_loaded_twice :
    ¬ ∀ h (s : Page Bool (Option ℕ) ℕ), Reach pages anyStep h s → LoadedOnce s := by
  intro hall
  have hr : Reach pages anyStep
      [.loadESModule false telemetryUrl getModule, .load 0 (some 5),
        .loadESModule true telemetryUrl getModule] _ := reach_of_exec init_emptyPage rfl
  exact absurd ((hall _ _ hr).once _ (List.mem_cons_of_mem _ (List.mem_singleton_self _))) (by decide)

end StytchBrowser.Core.ModuleLoader
