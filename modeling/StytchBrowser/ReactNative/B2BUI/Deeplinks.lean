import StytchBrowser.Lib.Machine
import StytchBrowser.Lib.Slots
import StytchBrowser.ReactNative.B2BUI.DeeplinkParser

/-!
# Deeplinks

A link that opens the app is parsed and the token in it authenticated. `isParsingDeeplink` and
`deeplinksHandled` keep a second link out while one is parsed, and a link from being parsed again.
They are read from the state of the render that the handler belongs to, and written by the reducer.

`Container` interleaves links, renders and the actions of other components at the awaits of
`parseDeeplink`. The listener that is registered is the handler of the first render; here a link is
delivered to the handler of any render. In every run without a link that resets a password in an
organization, whose handlers know of the links they are given again, each link is parsed once, and
`isParsingDeeplink` is cleared with every link (`links_handled_once`).
-/

namespace StytchBrowser.ReactNative.B2B

open Machine

/-- A render: the deeplink state that its handler has closed over, and whether no link was being
parsed then. -/
structure Render where
  deeplinkState : DeeplinkState
  idle : Bool

structure Container where
  ui : UIState
  renders : List Render
  /-- What the calls of `parseDeeplink` have left to dispatch. -/
  parsing : List (List B2BUIAction)
  /-- The links that were delivered. -/
  arrived : List String
  /-- The links that got past the guards of the handler and of `parseDeeplink`. -/
  processed : List String
  /-- `isParsingDeeplink` at the end of each call of `parseDeeplink` that has ended. -/
  completed : List Bool

inductive ContainerAction where
  | render (now : ℤ)
  /-- The handler of render `k` is called. -/
  | deliver (now : ℤ) (k : ℕ) (url : String) (answer : Answer)
  /-- The next dispatch of call `i`. -/
  | resume (now : ℤ) (i : ℕ)
  /-- A dispatch of another component. -/
  | dispatch (now : ℤ) (action : B2BUIAction)

/-- `url.startsWith('stytch-ui')`. -/
def isStytchDeeplink (url : String) : Bool := "stytch-ui".toList.isPrefixOf url.toList

namespace Container

/-- No call of `parseDeeplink` is under way. -/
def idle (s : Container) : Bool := s.parsing.all List.isEmpty

/-- The call that has this left has ended if it is nothing. -/
def ended (s : Container) (left : List B2BUIAction) : Container :=
  if left.isEmpty then { s with completed := s.completed ++ [s.ui.deeplinkState.isParsingDeeplink] }
  else s

section Next

variable (parseUrl : String → Option DeeplinkParams)
  (includedMfaMethods : Option (List B2BMFAProducts))

/-- `deeplinkHandler` of a render, and `parseDeeplink` of the same render. -/
def deeplinkHandler (s : Container) (now : ℤ) (render : Render) (url : String) (answer : Answer) :
    Container :=
  if isStytchDeeplink url then
    match parseDeeplink includedMfaMethods answer parseUrl render.deeplinkState url with
    | none => { s with arrived := s.arrived ++ [url] }
    | some call =>
        { s with
          ui := dispatchAll now s.ui call.before
          parsing := s.parsing ++ [call.after]
          arrived := s.arrived ++ [url]
          processed := s.processed ++ [url] }.ended call.after
  else s

/-- One step, `none` when it is not possible. -/
def next (s : Container) : ContainerAction → Option Container
  | .render now =>
      -- the first render registers the listener
      some { s with
        renders := s.renders ++ [⟨s.ui.deeplinkState, s.idle⟩]
        ui := if s.ui.deeplinkState.handlerRegistered then s.ui
          else GlobalReducer now s.ui (.deeplink .handlerRegistered) }
  | .deliver now k url answer =>
      s.renders[k]?.map fun render =>
        s.deeplinkHandler parseUrl includedMfaMethods now render url answer
  | .resume now i =>
      match s.parsing[i]? with
      | some (action :: left) =>
          some ({ s with
            ui := GlobalReducer now s.ui action
            parsing := s.parsing.set i left }.ended left)
      | _ => none
  | .dispatch now action =>
      match action with
      | .deeplink _ => none
      | action => some { s with ui := GlobalReducer now s.ui action }

end Next

end Container

/-- The runs of a container that starts with no link handled. -/
def container (parseUrl : String → Option DeeplinkParams)
    (includedMfaMethods : Option (List B2BMFAProducts)) : Machine Container ContainerAction where
  init s := s.ui.deeplinkState = DEFAULT_UI_STATE.deeplinkState ∧ s.renders = [] ∧
    s.parsing = [] ∧ s.arrived = [] ∧ s.processed = [] ∧ s.completed = []
  next := Container.next parseUrl includedMfaMethods

/-- No link resets a password in an organization, and the handler that gets a link was rendered
after it was processed or, if it was not processed before, while no link was parsed. -/
def KnowsLinks (parseUrl : String → Option DeeplinkParams) : Guard Container ContainerAction :=
  fun _ s a => match a with
  | .deliver _ k url _ => isStytchDeeplink url = true → ¬ resetsPassword parseUrl url ∧
      ∀ render, s.renders[k]? = some render →
        (url ∈ s.processed → url ∈ render.deeplinkState.deeplinksHandled) ∧
          (url ∉ s.processed → render.idle = true)
  | _ => True

namespace Container

variable {parseUrl : String → Option DeeplinkParams}
  {includedMfaMethods : Option (List B2BMFAProducts)}

/-- What a call of `parseDeeplink` has left is nothing, or it ends. -/
def Left (actions : List B2BUIAction) : Prop := actions = [] ∨ Ending actions

/-- The invariant of the runs whose handlers know of the links they are given. -/
structure Orderly (s : Container) : Prop where
  left : ∀ (i : ℕ) (actions : List B2BUIAction), s.parsing[i]? = some actions → Left actions
  settled : s.idle = true → s.ui.deeplinkState.isParsingDeeplink = false
  cleared : ∀ flag ∈ s.completed, flag = false
  handled : s.ui.deeplinkState.deeplinksHandled = s.processed
  nodup : s.processed.Nodup
  arrived : ∀ url ∈ s.arrived, url ∈ s.processed
  renders : ∀ render ∈ s.renders,
    (render.idle = true → render.deeplinkState.isParsingDeeplink = false) ∧
      ∀ url ∈ render.deeplinkState.deeplinksHandled, url ∈ s.processed

theorem idle_iff (s : Container) : s.idle = true ↔ ∀ actions ∈ s.parsing, actions = [] := by
  simp [idle]

@[simp] theorem ended_ui (s : Container) (left : List B2BUIAction) : (s.ended left).ui = s.ui := by
  unfold ended
  split <;> rfl

@[simp] theorem ended_renders (s : Container) (left : List B2BUIAction) :
    (s.ended left).renders = s.renders := by
  unfold ended
  split <;> rfl

@[simp] theorem ended_parsing (s : Container) (left : List B2BUIAction) :
    (s.ended left).parsing = s.parsing := by
  unfold ended
  split <;> rfl

@[simp] theorem ended_arrived (s : Container) (left : List B2BUIAction) :
    (s.ended left).arrived = s.arrived := by
  unfold ended
  split <;> rfl

@[simp] theorem ended_processed (s : Container) (left : List B2BUIAction) :
    (s.ended left).processed = s.processed := by
  unfold ended
  split <;> rfl

theorem ended_completed (s : Container) (left : List B2BUIAction) :
    (s.ended left).completed =
      if left = [] then s.completed ++ [s.ui.deeplinkState.isParsingDeeplink] else s.completed := by
  cases left <;> rfl

theorem cleared_ended {s : Container} {left : List B2BUIAction}
    (h : ∀ flag ∈ s.completed, flag = false)
    (hclear : left = [] → s.ui.deeplinkState.isParsingDeeplink = false) :
    ∀ flag ∈ (s.ended left).completed, flag = false := by
  intro flag hflag
  rw [ended_completed] at hflag
  split at hflag
  · rename_i hnil
    rcases List.mem_append.1 hflag with hflag | hflag
    · exact h flag hflag
    · exact (List.mem_singleton.1 hflag).trans (hclear hnil)
  · exact h flag hflag

namespace Orderly

variable {s : Container}

theorem init (h : (container parseUrl includedMfaMethods).init s) : s.Orderly := by
  obtain ⟨hui, hrenders, hparsing, harrived, hprocessed, hcompleted⟩ := h
  constructor
  · exact Slots.forall_of_nil hparsing
  · intro _
    rw [hui]
    rfl
  · simp [hcompleted]
  · rw [hui, hprocessed]
    rfl
  · simp [hprocessed]
  · simp [harrived]
  · simp [hrenders]

/-- A step that concerns no link, and leaves the links that are handled and the flag alone. -/
theorem of_ui (hinv : s.Orderly) {ui : UIState}
    (hparsing : ui.deeplinkState.isParsingDeeplink = s.ui.deeplinkState.isParsingDeeplink)
    (hhandled : ui.deeplinkState.deeplinksHandled = s.ui.deeplinkState.deeplinksHandled) :
    { s with ui }.Orderly where
  left := hinv.left
  settled hidle := hparsing.trans (hinv.settled hidle)
  cleared := hinv.cleared
  handled := hhandled.trans hinv.handled
  nodup := hinv.nodup
  arrived := hinv.arrived
  renders := hinv.renders

/-- The handler of the state that is current. -/
theorem render (hinv : s.Orderly) :
    { s with renders := s.renders ++ [(⟨s.ui.deeplinkState, s.idle⟩ : Render)] }.Orderly := by
  refine ⟨hinv.left, hinv.settled, hinv.cleared, hinv.handled, hinv.nodup, hinv.arrived, ?_⟩
  intro render hrender
  rcases List.mem_append.1 hrender with hrender | hrender
  · exact hinv.renders render hrender
  · obtain rfl := List.mem_singleton.1 hrender
    exact ⟨hinv.settled, fun url hurl => hinv.handled ▸ hurl⟩

/-- A link that is turned away: it was processed before. -/
theorem refused (hinv : s.Orderly) {url : String} (hurl : url ∈ s.processed) :
    { s with arrived := s.arrived ++ [url] }.Orderly := by
  refine ⟨hinv.left, hinv.settled, hinv.cleared, hinv.handled, hinv.nodup, ?_, hinv.renders⟩
  intro other hother
  rcases List.mem_append.1 hother with hother | hother
  · exact hinv.arrived other hother
  · exact List.mem_singleton.1 hother ▸ hurl

/-- A link that is processed for the first time. -/
theorem accepted (hinv : s.Orderly) {url : String} (hurl : url ∉ s.processed) {ui : UIState}
    {left : List B2BUIAction} (hleft : Left left)
    (hclear : left = [] → ui.deeplinkState.isParsingDeeplink = false)
    (hhandled : ui.deeplinkState.deeplinksHandled = s.ui.deeplinkState.deeplinksHandled ++ [url]) :
    ({ s with
      ui
      parsing := s.parsing ++ [left]
      arrived := s.arrived ++ [url]
      processed := s.processed ++ [url] }.ended left).Orderly where
  left := by
    rw [ended_parsing]
    exact Slots.forall_concat hinv.left hleft
  settled hidle := by
    rw [ended_ui]
    rw [idle_iff, ended_parsing] at hidle
    exact hclear (hidle left (by simp))
  cleared := cleared_ended hinv.cleared hclear
  handled := by
    rw [ended_ui, ended_processed, hhandled, hinv.handled]
  nodup := by
    rw [ended_processed]
    have hnodup := hinv.nodup.concat hurl
    rwa [List.concat_eq_append] at hnodup
  arrived := by
    rw [ended_arrived, ended_processed]
    intro other hother
    rcases List.mem_append.1 hother with hother | hother
    · exact List.mem_append_left _ (hinv.arrived other hother)
    · exact List.mem_append_right _ hother
  renders := by
    rw [ended_renders, ended_processed]
    intro render hrender
    obtain ⟨hidle, hknown⟩ := hinv.renders render hrender
    exact ⟨hidle, fun other hother => List.mem_append_left _ (hknown other hother)⟩

/-- A call of `parseDeeplink` dispatches the next action. -/
theorem resume (hinv : s.Orderly) {i : ℕ} {action : B2BUIAction} {left : List B2BUIAction}
    (hi : s.parsing[i]? = some (action :: left)) (now : ℤ) :
    ({ s with
      ui := GlobalReducer now s.ui action
      parsing := s.parsing.set i left }.ended left).Orderly := by
  obtain hnil | hending := hinv.left i _ hi
  · cases hnil
  have hleft : Left left := by
    cases hending with
    | last => exact .inl rfl
    | more _ hrest => exact .inr hrest
  have hclear : left = [] →
      (GlobalReducer now s.ui action).deeplinkState.isParsingDeeplink = false := by
    rintro rfl
    exact congrArg DeeplinkState.isParsingDeeplink (hending.dispatchAll now s.ui)
  have hhandled : (GlobalReducer now s.ui action).deeplinkState.deeplinksHandled =
      s.ui.deeplinkState.deeplinksHandled := by
    cases hending with
    | last ha =>
      exact (congrArg DeeplinkState.deeplinksHandled (DeeplinkReducer_ends s.ui ha)).trans rfl
    | more haction _ =>
      exact congrArg DeeplinkState.deeplinksHandled (GlobalReducer_deeplinkState now s.ui haction)
  constructor
  · rw [ended_parsing]
    exact Slots.forall_set hinv.left hleft
  · intro hidle
    rw [ended_ui]
    rw [idle_iff, ended_parsing] at hidle
    exact hclear (hidle left (List.mem_of_getElem? (Slots.set_self hi)))
  · exact cleared_ended hinv.cleared hclear
  · rw [ended_ui, ended_processed]
    exact hhandled.trans hinv.handled
  · rw [ended_processed]
    exact hinv.nodup
  · rw [ended_arrived, ended_processed]
    exact hinv.arrived
  · rw [ended_renders, ended_processed]
    exact hinv.renders

theorem Left.of_ending {actions : List B2BUIAction} (h : Ending actions) :
    Left actions ∧ actions ≠ [] := by
  refine ⟨.inr h, ?_⟩
  rintro rfl
  cases h

/-- A link that its handler does not refuse. -/
theorem parse (hinv : s.Orderly) {url : String} (hurl : url ∉ s.processed)
    {dispatches : Dispatches} (hends : dispatches.Ends) (now : ℤ) :
    ({ s with
      ui := dispatchAll now s.ui (.deeplink (.parse url) :: dispatches.before)
      parsing := s.parsing ++ [dispatches.after]
      arrived := s.arrived ++ [url]
      processed := s.processed ++ [url] }.ended dispatches.after).Orderly := by
  cases hends with
  | atOnce hbefore =>
    have hstate := hbefore.dispatchAll now (DeeplinkReducer s.ui (.parse url))
    exact hinv.accepted hurl (.inl rfl)
      (fun _ => (congrArg DeeplinkState.isParsingDeeplink hstate).trans rfl)
      ((congrArg DeeplinkState.deeplinksHandled hstate).trans rfl)
  | later hbefore hafter =>
    have hstate := dispatchAll_deeplinkState hbefore now (DeeplinkReducer s.ui (.parse url))
    obtain ⟨hleft, hne⟩ := Left.of_ending hafter
    exact hinv.accepted hurl hleft (fun hnil => absurd hnil hne)
      ((congrArg DeeplinkState.deeplinksHandled hstate).trans rfl)

theorem deeplinkHandler (hinv : s.Orderly) {render : Render} (hrender : render ∈ s.renders)
    {url : String} (hguard : isStytchDeeplink url = true → ¬ resetsPassword parseUrl url ∧
      (url ∈ s.processed → url ∈ render.deeplinkState.deeplinksHandled) ∧
        (url ∉ s.processed → render.idle = true)) (now : ℤ) (answer : Answer) :
    (s.deeplinkHandler parseUrl includedMfaMethods now render url answer).Orderly := by
  unfold Container.deeplinkHandler
  split
  · rename_i hstytch
    obtain ⟨hpassword, hknown, hidle⟩ := hguard hstytch
    obtain ⟨hclear, hhandled⟩ := hinv.renders render hrender
    unfold parseDeeplink
    by_cases hurl : url ∈ s.processed
    · have hrefuses := DeeplinkState.refuses_of_mem (hknown hurl)
      rw [if_pos hrefuses]
      exact hinv.refused hurl
    · have hrefuses := DeeplinkState.refuses_iff (hclear (hidle hurl)) url
      rw [if_neg fun h => hurl (hhandled url (hrefuses.1 h))]
      exact hinv.parse hurl (handleDeeplink_ends hpassword) now
  · exact hinv

theorem step {h : List ContainerAction} {a : ContainerAction} {s' : Container} (hinv : s.Orderly)
    (hguard : KnowsLinks parseUrl h s a) (hn : s.next parseUrl includedMfaMethods a = some s') :
    s'.Orderly := by
  cases a with
  | render now =>
    obtain rfl := Option.some.inj hn
    refine hinv.render.of_ui ?_ ?_
    · split <;> rfl
    · split <;> rfl
  | deliver now k url answer =>
    obtain ⟨render, hk, rfl⟩ := Option.map_eq_some_iff.1 hn
    refine hinv.deeplinkHandler (List.mem_of_getElem? hk) (fun hstytch => ?_) now answer
    obtain ⟨hpassword, hknows⟩ := hguard hstytch
    exact ⟨hpassword, hknows render hk⟩
  | resume now i =>
    unfold Container.next at hn
    dsimp only at hn
    split at hn
    · rename_i action left hi
      obtain rfl := Option.some.inj hn
      exact hinv.resume hi now
    · cases hn
  | dispatch now action =>
    unfold Container.next at hn
    dsimp only at hn
    split at hn
    · cases hn
    · rename_i haction
      obtain rfl := Option.some.inj hn
      have hstate := GlobalReducer_deeplinkState now s.ui haction
      exact hinv.of_ui (congrArg DeeplinkState.isParsingDeeplink hstate)
        (congrArg DeeplinkState.deeplinksHandled hstate)

end Orderly

/-- In every run without a link that resets a password in an organization, whose handlers know of
the links they are given: `isParsingDeeplink` is cleared when a call of `parseDeeplink` ends, and
while none is under way, and each link that was delivered has been processed once. -/
theorem links_handled_once {h : List ContainerAction} {s : Container}
    (hr : Reach (container parseUrl includedMfaMethods) (KnowsLinks parseUrl) h s) :
    (∀ flag ∈ s.completed, flag = false) ∧
      (s.idle = true → s.ui.deeplinkState.isParsingDeeplink = false) ∧
      ∀ url ∈ s.arrived, s.processed.count url = 1 := by
  have hinv : s.Orderly := by
    induction hr with
    | start h0 => exact .init h0
    | step _ hguard hn ih => exact ih.step hguard hn
  refine ⟨hinv.cleared, hinv.settled, fun url hurl => ?_⟩
  exact List.count_eq_one_of_mem hinv.nodup (hinv.arrived url hurl)

/-- A link that resets a password in an organization is parsed to the end with the flag still set,
unless its handler refuses it. -/
theorem resetsPassword_keeps_flag (s : Container) {render : Render} {url : String}
    (hstytch : isStytchDeeplink url = true) (hpassword : resetsPassword parseUrl url)
    (hrefuses : render.deeplinkState.refuses url = false) (now : ℤ) (answer : Answer) :
    (s.deeplinkHandler parseUrl includedMfaMethods now render url answer).completed =
      s.completed ++ [true] := by
  obtain ⟨token, hcall⟩ : ∃ token, handleDeeplink includedMfaMethods answer parseUrl url =
      ⟨[.passwords (.resetPassword token "multi_tenant_passwords")], []⟩ :=
    handleDeeplink_resetsPassword hpassword
  unfold deeplinkHandler parseDeeplink
  rw [if_pos hstytch, hrefuses, hcall]
  rfl

/-- Of the handlers that were rendered while no link was parsed, those that know of a link if it was
processed, and only those, see to it that it has been processed once. -/
theorem processed_once_iff {s : Container} (hinv : s.Orderly) {render : Render}
    (hrender : render ∈ s.renders) (hidle : render.idle = true) {url : String}
    (hstytch : isStytchDeeplink url = true) (now : ℤ) (answer : Answer) :
    (s.deeplinkHandler parseUrl includedMfaMethods now render url answer).processed.count url = 1 ↔
      (url ∈ s.processed → url ∈ render.deeplinkState.deeplinksHandled) := by
  obtain ⟨hclear, hhandled⟩ := hinv.renders render hrender
  have hrefuses := DeeplinkState.refuses_iff (hclear hidle) url
  unfold deeplinkHandler parseDeeplink
  rw [if_pos hstytch]
  by_cases hurl : url ∈ render.deeplinkState.deeplinksHandled
  · rw [if_pos (hrefuses.2 hurl)]
    have hcount := List.count_eq_one_of_mem hinv.nodup (hhandled url hurl)
    exact ⟨fun _ _ => hurl, fun _ => hcount⟩
  · rw [if_neg (mt hrefuses.1 hurl)]
    dsimp only
    rw [ended_processed, List.count_append, List.count_singleton_self]
    simp [hurl, List.count_eq_zero]

end Container

/-- Two links of an app, and what the parameters in them are. -/
def passwordLink : String :=
  "stytch-ui-app://deeplink?stytch_token_type=multi_tenant_passwords&token=my_token"

def oauthLink : String := "stytch-ui-app://deeplink?stytch_token_type=oauth&token=my_token"

def linkParams (url : String) : Option DeeplinkParams :=
  if url = passwordLink then some ⟨some "multi_tenant_passwords", some "my_token", none⟩
  else if url = oauthLink then some ⟨some "oauth", some "my_token", none⟩
  else none

def freshContainer : Container := ⟨DEFAULT_UI_STATE, [], [], [], [], []⟩

def noAnswer : Answer := ⟨.error none, .error none⟩

/-- A link whose token is rejected, handled by the listener of the first render. -/
theorem links_handled_once_oauth :
    ∃ s, Reach (container linkParams none) (KnowsLinks linkParams)
        [.resume 2 0, .resume 2 0, .deliver 1 0 oauthLink noAnswer, .render 0] s ∧
      s.completed = [false] ∧ s.processed.count oauthLink = 1 := by
  have hstart : Reach (container linkParams none) (KnowsLinks linkParams) [] freshContainer :=
    .start ⟨rfl, rfl, rfl, rfl, rfl, rfl⟩
  have hpassword : ¬ resetsPassword linkParams oauthLink := by
    rintro ⟨params, token, hparams, -, -, htype⟩
    obtain rfl := Option.some.inj hparams
    exact absurd (Option.some.inj htype) (by decide)
  have hr : Reach (container linkParams none) (KnowsLinks linkParams)
      [.resume 2 0, .resume 2 0, .deliver 1 0 oauthLink noAnswer, .render 0] _ :=
    .step (.step (.step (.step hstart trivial rfl)
      (fun _ => ⟨hpassword, fun render hk => by cases hk; exact ⟨nofun, fun _ => rfl⟩⟩) rfl)
      trivial rfl) trivial rfl
  exact ⟨_, hr, rfl, (Container.links_handled_once hr).2.2 oauthLink (List.mem_singleton_self _)⟩

/-- A link that resets a password in an organization leaves `isParsingDeeplink` set, and the handler
that is rendered next refuses every other link. -/
theorem password_link_wedges :
    ∃ s, Reach (container linkParams none) anyStep
        [.deliver 3 1 oauthLink noAnswer, .render 2, .deliver 1 0 passwordLink noAnswer,
          .render 0] s ∧
      s.idle = true ∧ s.completed = [true] ∧ s.ui.deeplinkState.isParsingDeeplink = true ∧
      oauthLink ∈ s.arrived ∧ s.processed.count oauthLink = 0 := by
  refine ⟨_, @reach_of_exec _ _ (container linkParams none) freshContainer _
    ⟨rfl, rfl, rfl, rfl, rfl, rfl⟩ _ rfl, rfl, rfl, rfl, ?_, ?_⟩
  · exact List.mem_cons_of_mem _ (List.mem_singleton_self _)
  · decide

end StytchBrowser.ReactNative.B2B
