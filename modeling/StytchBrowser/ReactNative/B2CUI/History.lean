import StytchBrowser.ReactNative.B2BUI.Reducers
import StytchBrowser.ReactNative.B2CUI.Reducers

/-!
# The history of the React Native consumer screens

React may evaluate a reducer as often as it likes, on any state it still has. A `World` has the arrays
and all states that were made, and a run evaluates the reducer on any of them. `navigate/goBack` takes
the last screen out of the array of the state it is given, which other states share; all other actions
leave the arrays as they are. `history_iff` says for which evaluations that matters.
-/

namespace StytchBrowser.ReactNative.B2C

/-- What a state means, where the arrays hold what they do. -/
def UIState.read (state : UIState Ref) (arrays : Heap (List Screen)) : UIState (List Screen) where
  screen := state.screen
  history := arrays.read state.history
  screenState := state.screenState
  userState := state.userState
  authenticationState := state.authenticationState

/-! ## Runs -/

/-- The arrays, and the states that were made and may be used again. -/
structure World where
  arrays : Heap (List Screen)
  states : List (UIState Ref)

/-- An action, and the place of the state on which the reducer is evaluated. -/
abbrev Evaluation := ℕ × B2CUIAction

namespace World

/-- `useReducer(GlobalReducer, initialState ?? DEFAULT_UI_STATE)`. -/
def start (initial : UIState (List Screen)) : World where
  arrays := [initial.history]
  states := [⟨initial.screen, 0, initial.screenState, initial.userState, initial.authenticationState⟩]

/-- The reducer is evaluated, and its result kept. -/
def reduce (w : World) (state : UIState Ref) (action : B2CUIAction) : World :=
  let (next, arrays) := GlobalReducer state action w.arrays
  ⟨arrays, w.states ++ [next]⟩

def evaluate (w : World) (e : Evaluation) : World :=
  match w.states[e.1]? with
  | some state => w.reduce state e.2
  | none => w

def run (w : World) (es : List Evaluation) : World := es.foldl evaluate w

end World

/-- The reducer evaluated `n` times on the same state and action. -/
def evaluations (state : UIState Ref) (action : B2CUIAction) :
    ℕ → StateM (Heap (List Screen)) (List (UIState Ref))
  | 0 => return []
  | n + 1 => do
      let next ← GlobalReducer state action
      return next :: (← evaluations state action n)

/-! ## What is claimed of the history -/

/-- Evaluated any number of times, the reducer leaves the state alone, and the results are equal. -/
structure Repeatable (arrays : Heap (List Screen)) (state : UIState Ref) (action : B2CUIAction) :
    Prop where
  unchanged : ∀ n, state.read (evaluations state action n arrays).2 = state.read arrays
  equal : ∀ n, ∀ s ∈ (evaluations state action n arrays).1,
    ∀ t ∈ (evaluations state action n arrays).1,
      s.read (evaluations state action n arrays).2 = t.read (evaluations state action n arrays).2

/-- An action that puts the screen on top of the history. -/
def Pushes (arrays : Heap (List Screen)) (state : UIState Ref) (action : B2CUIAction) : Prop :=
  let (next, arrays') := GlobalReducer state action arrays
  arrays'.read next.history = arrays.read state.history ++ [state.screen]

/-- When other evaluations come after an action, going back from its result restores the screen and
the history. -/
def Restores (w : World) (state : UIState Ref) (action : B2CUIAction) (between : List Evaluation) :
    Prop :=
  let (pushed, arrays) := GlobalReducer state action w.arrays
  let w' := World.run ⟨arrays, w.states ++ [pushed]⟩ between
  let (back, arrays') := GlobalReducer pushed goBack w'.arrays
  back.screen = state.screen ∧ arrays'.read back.history = w.arrays.read state.history

/-- Going back does what it does on the B2B screens, of which `f` tells the one for each screen. -/
def AgreesWithB2B (arrays : Heap (List Screen)) (state : UIState Ref) : Prop :=
  ∀ (f : Screen → B2B.Screen) (b2b : B2B.UIState), f .Main = .Main → b2b.screen = f state.screen →
    b2b.history = (arrays.read state.history).map f →
      let (back, arrays') := NavigationReducer state .goBack arrays
      (B2B.NavigationReducer b2b .goBack).screen = f back.screen ∧
        (B2B.NavigationReducer b2b .goBack).history = (arrays'.read back.history).map f

/-- No evaluation goes back from a state that has the array. -/
def NoGoBackOn (array : Ref) (w : World) : List Evaluation → Prop
  | [] => True
  | (i, action) :: es =>
      (action = goBack → ∀ state, w.states[i]? = some state → state.history ≠ array) ∧
        NoGoBackOn array (w.evaluate (i, action)) es

/-! ## One evaluation -/

/-- The states have arrays that were made. -/
def World.Allocated (w : World) : Prop := ∀ state ∈ w.states, state.history < w.arrays.length

/-- An evaluation that does not take a screen out of an array. -/
def Harmless (arrays : Heap (List Screen)) (state : UIState Ref) (action : B2CUIAction) : Prop :=
  action = goBack → arrays.read state.history = []

section Evaluate

variable {arrays arrays' : Heap (List Screen)} {state : UIState Ref} {action : B2CUIAction}
  {ref : Ref}

theorem UIState.read_congr (h : arrays.read state.history = arrays'.read state.history) :
    state.read arrays = state.read arrays' := by
  rw [UIState.read, UIState.read, h]

theorem length_le (state : UIState Ref) (action : B2CUIAction) (arrays : Heap (List Screen)) :
    arrays.length ≤ (GlobalReducer state action arrays).2.length := by
  by_cases h : action = goBack
  · subst h
    exact (Heap.length_modify _).ge
  · obtain ⟨next, ⟨-, hnext⟩ | hnext⟩ := GlobalReducer_cases state h
    · rw [hnext]
    · rw [hnext]
      exact (Nat.le_succ _).trans (Heap.length_alloc _).ge

theorem history_lt (h : state.history < arrays.length) (action : B2CUIAction) :
    (GlobalReducer state action arrays).1.history <
      (GlobalReducer state action arrays).2.length := by
  by_cases haction : action = goBack
  · subst haction
    exact h.trans_eq (Heap.length_modify _).symm
  · obtain ⟨next, ⟨hhistory, hnext⟩ | hnext⟩ := GlobalReducer_cases state haction
    · rw [hnext, hhistory]
      exact h
    · rw [hnext]
      exact (Nat.lt_succ_self _).trans_eq (Heap.length_alloc _).symm

/-- Actions other than going back keep what the arrays hold. -/
theorem read_of_ne_goBack (h : action ≠ goBack) (href : ref < arrays.length) :
    (GlobalReducer state action arrays).2.read ref = arrays.read ref := by
  obtain ⟨next, ⟨-, hnext⟩ | hnext⟩ := GlobalReducer_cases state h
  · rw [hnext]
  · rw [hnext]
    exact Heap.read_alloc_of_lt href _

theorem modify_of_harmless (h : Harmless arrays state goBack) :
    arrays.modify state.history List.dropLast = arrays :=
  Heap.modify_of_fixed (by rw [h rfl]; rfl)

theorem read_of_harmless (h : Harmless arrays state action) (href : ref < arrays.length) :
    (GlobalReducer state action arrays).2.read ref = arrays.read ref := by
  by_cases haction : action = goBack
  · subst haction
    rw [GlobalReducer_goBack, modify_of_harmless h]
  · exact read_of_ne_goBack haction href

/-- What the result means depends on what the history holds, and on nothing else in the heap. -/
theorem result_of_harmless (h : Harmless arrays state action)
    (heq : arrays'.read state.history = arrays.read state.history) :
    (GlobalReducer state action arrays').1.read (GlobalReducer state action arrays').2 =
      (GlobalReducer state action arrays).1.read (GlobalReducer state action arrays).2 := by
  by_cases haction : action = goBack
  · subst haction
    have h' : Harmless arrays' state goBack := fun _ => heq.trans (h rfl)
    rw [GlobalReducer_goBack, GlobalReducer_goBack, modify_of_harmless h, modify_of_harmless h', heq]
    exact UIState.read_congr heq
  · obtain ⟨next, ⟨hhistory, hnext⟩ | hnext⟩ := GlobalReducer_cases state haction
    · rw [hnext, hnext]
      exact UIState.read_congr (by rw [hhistory, heq])
    · rw [hnext, hnext, UIState.read, UIState.read]
      have hread : ∀ a : Heap (List Screen), (concat state.history state.screen a).2.read
          (concat state.history state.screen a).1 = a.read state.history ++ [state.screen] :=
        fun _ => Heap.read_alloc _
      simp only [hread, heq]

theorem evaluations_zero : evaluations state action 0 arrays = ([], arrays) := rfl

theorem evaluations_succ (n : ℕ) : evaluations state action (n + 1) arrays =
    ((GlobalReducer state action arrays).1 ::
        (evaluations state action n (GlobalReducer state action arrays).2).1,
      (evaluations state action n (GlobalReducer state action arrays).2).2) := rfl

theorem evaluations_of_harmless (hlt : state.history < arrays.length)
    (h : Harmless arrays state action) (n : ℕ) :
    (∀ ref < arrays.length, (evaluations state action n arrays).2.read ref = arrays.read ref) ∧
      ∀ s ∈ (evaluations state action n arrays).1,
        s.read (evaluations state action n arrays).2 =
          (GlobalReducer state action arrays).1.read (GlobalReducer state action arrays).2 := by
  induction n generalizing arrays with
  | zero =>
    rw [evaluations_zero]
    exact ⟨fun _ _ => rfl, fun s hs => absurd hs List.not_mem_nil⟩
  | succ n ih =>
    have hkept : (GlobalReducer state action arrays).2.read state.history =
        arrays.read state.history := read_of_harmless h hlt
    obtain ⟨hreads, hresults⟩ := ih (hlt.trans_le (length_le state action arrays))
      fun haction => hkept.trans (h haction)
    rw [evaluations_succ]
    refine ⟨fun ref href => ?_, fun s hs => ?_⟩
    · exact (hreads ref (href.trans_le (length_le _ _ _))).trans (read_of_harmless h href)
    · rcases List.mem_cons.1 hs with rfl | hs
      · exact UIState.read_congr (hreads _ (history_lt hlt action))
      · exact (hresults s hs).trans (result_of_harmless h hkept)

theorem repeatable_iff (hlt : state.history < arrays.length) :
    Repeatable arrays state action ↔ Harmless arrays state action := by
  constructor
  · rintro h rfl
    have hread : arrays.read state.history =
        (arrays.modify state.history List.dropLast).read state.history :=
      (congrArg UIState.history (h.unchanged 1)).symm
    rw [Heap.read_modify hlt] at hread
    have hlength := congrArg List.length hread
    rw [List.length_dropLast] at hlength
    exact List.eq_nil_of_length_eq_zero (by omega)
  · intro h
    refine ⟨fun n => UIState.read_congr ((evaluations_of_harmless hlt h n).1 _ hlt),
      fun n s hs t ht => ?_⟩
    rw [(evaluations_of_harmless hlt h n).2 s hs, (evaluations_of_harmless hlt h n).2 t ht]

theorem agreesWithB2B (hlt : state.history < arrays.length) : AgreesWithB2B arrays state := by
  intro f b2b hmain hscreen hhistory
  constructor
  · show b2b.history.getLast?.getD .Main = f ((arrays.read state.history).getLast?.getD .Main)
    rw [hhistory, List.getLast?_map]
    cases (arrays.read state.history).getLast? with
    | none => exact hmain.symm
    | some screen => rfl
  · show b2b.history.dropLast =
      ((arrays.modify state.history List.dropLast).read state.history).map f
    rw [hhistory, Heap.read_modify hlt, List.map_dropLast]

end Evaluate

/-! ## Runs of evaluations -/

namespace World

variable {w : World} {ref : Ref}

theorem evaluate_cases (w : World) (e : Evaluation) :
    w.evaluate e = w ∨ ∃ state, w.states[e.1]? = some state ∧ w.evaluate e = w.reduce state e.2 := by
  unfold evaluate
  cases h : w.states[e.1]? with
  | none => exact .inl rfl
  | some state => exact .inr ⟨state, rfl, rfl⟩

theorem allocated_start (initial : UIState (List Screen)) : (start initial).Allocated := by
  intro state hstate
  rw [List.mem_singleton.1 hstate]
  exact Nat.zero_lt_one

theorem Allocated.reduce (h : w.Allocated) {state : UIState Ref}
    (hstate : state.history < w.arrays.length) (action : B2CUIAction) :
    (w.reduce state action).Allocated := by
  intro s hs
  rcases List.mem_append.1 hs with hs | hs
  · exact (h s hs).trans_le (length_le state action w.arrays)
  · rw [List.mem_singleton.1 hs]
    exact history_lt hstate action

theorem Allocated.evaluate (h : w.Allocated) (e : Evaluation) : (w.evaluate e).Allocated := by
  rcases evaluate_cases w e with heq | ⟨state, hstate, heq⟩
  · rwa [heq]
  · rw [heq]
    exact h.reduce (h state (List.mem_of_getElem? hstate)) e.2

theorem Allocated.run (h : w.Allocated) (es : List Evaluation) : (w.run es).Allocated := by
  induction es generalizing w with
  | nil => exact h
  | cons e es ih => exact ih (h.evaluate e)

theorem length_evaluate (w : World) (e : Evaluation) :
    w.arrays.length ≤ (w.evaluate e).arrays.length := by
  rcases evaluate_cases w e with heq | ⟨state, -, heq⟩
  · rw [heq]
  · rw [heq]
    exact length_le state e.2 w.arrays

theorem length_run (w : World) (es : List Evaluation) :
    w.arrays.length ≤ (w.run es).arrays.length := by
  induction es generalizing w with
  | nil => exact le_rfl
  | cons e es ih => exact (length_evaluate w e).trans (ih _)

/-- Where no state that has the array is gone back from, it keeps its screens. -/
theorem read_evaluate_of_kept (href : ref < w.arrays.length) {e : Evaluation}
    (h : e.2 = goBack → ∀ state, w.states[e.1]? = some state → state.history ≠ ref) :
    (w.evaluate e).arrays.read ref = w.arrays.read ref := by
  rcases evaluate_cases w e with heq | ⟨state, hstate, heq⟩
  · rw [heq]
  · rw [heq]
    by_cases haction : e.2 = goBack
    · show (GlobalReducer state e.2 w.arrays).2.read ref = _
      rw [haction]
      exact Heap.read_modify_of_ne (h haction state hstate) _
    · exact read_of_ne_goBack haction href

/-- Otherwise it loses one. -/
theorem read_evaluate_of_popped (href : ref < w.arrays.length) {e : Evaluation}
    (h : ¬(e.2 = goBack → ∀ state, w.states[e.1]? = some state → state.history ≠ ref)) :
    (w.evaluate e).arrays.read ref = (w.arrays.read ref).dropLast := by
  simp only [Classical.not_imp, not_forall, not_not] at h
  obtain ⟨haction, state, hstate, rfl⟩ := h
  have heq : w.evaluate e = w.reduce state e.2 := by
    rw [evaluate, hstate]
  rw [heq]
  show (GlobalReducer state e.2 w.arrays).2.read _ = _
  rw [haction]
  exact Heap.read_modify href _

theorem read_run_of_noGoBackOn (href : ref < w.arrays.length) {es : List Evaluation}
    (h : NoGoBackOn ref w es) : (w.run es).arrays.read ref = w.arrays.read ref := by
  induction es generalizing w with
  | nil => rfl
  | cons e es ih =>
    exact (ih (href.trans_le (length_evaluate w e)) h.2).trans (read_evaluate_of_kept href h.1)

/-- An array only ever loses screens. -/
theorem isPrefix_read_run (href : ref < w.arrays.length) (es : List Evaluation) :
    (w.run es).arrays.read ref <+: w.arrays.read ref := by
  induction es generalizing w with
  | nil => exact List.prefix_rfl
  | cons e es ih =>
    refine (ih (href.trans_le (length_evaluate w e))).trans ?_
    by_cases h : e.2 = goBack → ∀ state, w.states[e.1]? = some state → state.history ≠ ref
    · exact ⟨[], (List.append_nil _).trans (read_evaluate_of_kept href h)⟩
    · rw [read_evaluate_of_popped href h]
      exact List.dropLast_prefix _

theorem length_run_of_popped (href : ref < w.arrays.length) {es : List Evaluation}
    (h : ¬NoGoBackOn ref w es) :
    ((w.run es).arrays.read ref).length ≤ (w.arrays.read ref).length - 1 := by
  induction es generalizing w with
  | nil => exact absurd trivial h
  | cons e es ih =>
    have href' := href.trans_le (length_evaluate w e)
    by_cases he : e.2 = goBack → ∀ state, w.states[e.1]? = some state → state.history ≠ ref
    · rw [← read_evaluate_of_kept href he]
      exact ih href' fun hes => h ⟨he, hes⟩
    · rw [← List.length_dropLast, ← read_evaluate_of_popped href he]
      exact (isPrefix_read_run href' es).length_le

end World

/-- Going back restores what was pushed as long as the array is left alone. Where it was not, it
happens to when the history was empty on the main screen, to which going back leads without a
history. -/
theorem restores_iff {w : World} {state : UIState Ref} {action : B2CUIAction}
    (hlt : state.history < w.arrays.length) (hpush : Pushes w.arrays state action)
    (between : List Evaluation) :
    Restores w state action between ↔
      NoGoBackOn (GlobalReducer state action w.arrays).1.history (w.reduce state action) between ∨
        w.arrays.read state.history = [] ∧ state.screen = .Main := by
  let array := (GlobalReducer state action w.arrays).1.history
  let w' := (w.reduce state action).run between
  have hpushed : (w.reduce state action).arrays.read array =
      w.arrays.read state.history ++ [state.screen] := hpush
  have href : array < (w.reduce state action).arrays.length := history_lt hlt action
  have hrestores : Restores w state action between ↔
      (w'.arrays.read array).getLast?.getD .Main = state.screen ∧
        (w'.arrays.read array).dropLast = w.arrays.read state.history := by
    rw [← Heap.read_modify (href.trans_le (World.length_run _ between)) List.dropLast]
    rfl
  rw [hrestores]
  by_cases h : NoGoBackOn array (w.reduce state action) between
  · have hread : w'.arrays.read array = w.arrays.read state.history ++ [state.screen] :=
      (World.read_run_of_noGoBackOn href h).trans hpushed
    rw [hread, List.getLast?_concat, List.dropLast_concat]
    exact iff_of_true ⟨rfl, rfl⟩ (.inl h)
  · have hlength : (w'.arrays.read array).length ≤ (w.arrays.read state.history).length := by
      have hle := World.length_run_of_popped href h
      rwa [hpushed, List.length_append] at hle
    -- One screen too few is left, unless there was none to begin with.
    have hnil : (w'.arrays.read array).dropLast = w.arrays.read state.history ↔
        w.arrays.read state.history = [] := by
      constructor
      · intro hdrop
        have hdropped := congrArg List.length hdrop
        rw [List.length_dropLast] at hdropped
        exact List.eq_nil_of_length_eq_zero (by omega)
      · intro hempty
        rw [hempty] at hlength ⊢
        rw [List.eq_nil_of_length_eq_zero (Nat.le_zero.1 hlength)]
        rfl
    rw [or_iff_right h, hnil, and_comm]
    refine and_congr_right fun hempty => ?_
    rw [hempty] at hlength
    rw [List.eq_nil_of_length_eq_zero (Nat.le_zero.1 hlength)]
    exact eq_comm

/-- In every state that any run reaches: the reducer can be evaluated again unless it takes a screen
out of the history; going back undoes a push unless the array was gone back on meanwhile; and going
back once does the same as on the B2B screens. -/
theorem history_iff (initial : UIState (List Screen)) (es : List Evaluation) (i : ℕ)
    (state : UIState Ref) (hstate : ((World.start initial).run es).states[i]? = some state) :
    let w := (World.start initial).run es
    (∀ action, Repeatable w.arrays state action ↔
      (action = goBack → w.arrays.read state.history = [])) ∧
    (∀ action, Pushes w.arrays state action → ∀ between, Restores w state action between ↔
      NoGoBackOn (GlobalReducer state action w.arrays).1.history (w.reduce state action) between ∨
        w.arrays.read state.history = [] ∧ state.screen = .Main) ∧
    AgreesWithB2B w.arrays state := by
  intro w
  have hlt : state.history < w.arrays.length :=
    (World.allocated_start initial).run es state (List.mem_of_getElem? hstate)
  exact ⟨fun _ => repeatable_iff hlt, fun _ => restores_iff hlt, agreesWithB2B hlt⟩

/-- A code is sent by SMS, and a magic link is opened on the screen for the code. -/
def magicLinkOpened : List Evaluation :=
  [(0, .otp (.loginOrCreateSuccess .sms "method")), (1, .deeplink (.parseSuccess .magic_links "token"))]

theorem history_iff_magicLinkOpened :
    ∃ state, ((World.start DEFAULT_UI_STATE).run magicLinkOpened).states[1]? = some state ∧
      Restores ((World.start DEFAULT_UI_STATE).run magicLinkOpened) state
        (.deeplink (.parseSuccess .magic_links "token")) [] := by
  refine ⟨_, rfl, ?_⟩
  have hiff := (history_iff DEFAULT_UI_STATE magicLinkOpened 1 _ rfl).2.1
    (.deeplink (.parseSuccess .magic_links "token")) rfl []
  exact hiff.2 (.inl trivial)

/-- The second evaluation of going back leads to another screen than the first. -/
theorem goBack_twice :
    ∃ state, ((World.start DEFAULT_UI_STATE).run magicLinkOpened).states[2]? = some state ∧
      ((evaluations state goBack 2
        ((World.start DEFAULT_UI_STATE).run magicLinkOpened).arrays).1.map UIState.screen) =
          [.OTPConfirmation, .Main] ∧
      ¬Repeatable ((World.start DEFAULT_UI_STATE).run magicLinkOpened).arrays state goBack := by
  refine ⟨_, rfl, rfl, fun h => ?_⟩
  have hhistory := congrArg UIState.history (h.unchanged 1)
  exact absurd hhistory (by decide)

end StytchBrowser.ReactNative.B2C
