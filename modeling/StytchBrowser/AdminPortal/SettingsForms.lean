import StytchBrowser.Lib.Machine
import Mathlib.Logic.Function.Basic

/-!
# The sections of a settings page

A settings page shows an organization in several sections. Each has a form (`useFormState`) in a
`SettingsContainer`: "Edit" starts it from the organization that was fetched last, "Save" asks for a
confirmation and sends what differs from the organization then, and the answer comes at any time
later, while the dialog may have been closed and the form may be used. What is fetched and what the
member may do can change at any time, and others can change the organization on the server.

A `Section` is what the sections have of their own. The two results are about every run of a page:

* `not_sent_of_guarded`: a property that no control offers without its permission is not sent without
  it, unless the property has changed since the edit was started (`Guarded`);
* `shows_of_saves`: once a save is answered the server has what the form showed, whatever the other
  sections have saved in between (`Saves`).
-/

namespace StytchBrowser.AdminPortal.Settings

open Machine (Reach Since Guard anyStep)

/-- Some properties of a record. -/
abbrev Patch {κ : Type} (V : κ → Type) : Type := ∀ k, Option (V k)

namespace Patch

variable {κ : Type} {V : κ → Type}

/-- `{ ...record, ...patch }`. -/
def apply (patch : Patch V) (record : ∀ k, V k) : ∀ k, V k := fun k => (patch k).getD (record k)

theorem apply_of_none {patch : Patch V} {k : κ} (h : patch k = none) (record : ∀ k, V k) :
    patch.apply record k = record k := by
  rw [apply, h]
  rfl

theorem apply_of_some {patch : Patch V} {k : κ} {v : V k} (h : patch k = some v)
    (record : ∀ k, V k) : patch.apply record k = v := by
  rw [apply, h]
  rfl

end Patch

/-- A section of a page about records with properties of types `V`, for a member who has some of the
permissions `π`. -/
structure Section {κ : Type} (V : κ → Type) (π : Type) where
  /-- What the form holds. -/
  State : Type
  /-- What the member can do to the form, and the dialogs for it. -/
  Edit : Type
  Dialog : Type
  dialogEq : DecidableEq Dialog
  remoteState : (∀ k, V k) → State
  hasCTA : (π → Bool) → Bool
  /-- The form after "Cancel", from the remote and the local state. -/
  onCancel : State → State → State
  /-- The page offers an edit, or the button that opens a dialog, in a form that is being edited. -/
  offered : (π → Bool) → State → Edit → Bool
  opens : (π → Bool) → State → Dialog → Bool
  /-- The dialog that an edit is confirmed in. -/
  dialogOf : Edit → Option Dialog
  /-- The local state after an edit, from what is shown and the local state. -/
  apply : State → State → Edit → State
  disableSave : State → State → Bool
  /-- The body of the request that saves the local state, `none` when there is none to make. -/
  handleSave : State → State → Option (Patch V)

attribute [instance] Section.dialogEq

variable {ι κ π : Type} {V : κ → Type}

/-- What is sent to save the local state. -/
def Section.changes (S : Section V π) (localState remoteState : S.State) : Patch V :=
  (S.handleSave localState remoteState).getD fun _ => none

/-! ## A section -/

/-- A section that is mounted. -/
structure Form (S : Section V π) where
  localState : S.State
  editing : Bool
  /-- The dialog "Save changes?" is open. -/
  isOpen : Bool
  /-- The dialog of the section that is open. -/
  dialog : Option S.Dialog
  /-- The request that the dialog waits for. -/
  confirming : Option (Patch V)

inductive FormEvent (S : Section V π) where
  | edit
  | cancel
  /-- The button "Save", and the one of the dialog. -/
  | save
  | confirm
  | openDialog (dialog : S.Dialog)
  /-- The dialog that is open is closed, with its button or with Escape. -/
  | close
  | change (edit : S.Edit)
  /-- The request is answered. -/
  | settled (ok : Bool)

namespace Form

variable {S : Section V π}

/-- No dialog covers the page. -/
def free (form : Form S) : Bool := !form.isOpen && form.dialog.isNone

/-- `save` of `SettingsContainer`: without a request to wait for the form is closed. -/
def confirm (form : Form S) (remoteState : S.State) : Form S :=
  match S.handleSave form.localState remoteState with
  | none => { form with editing := false, isOpen := false }
  | some body => { form with confirming := some body }

def next (orgInfo : ∀ k, V k) (can : π → Bool) (form : Form S) : FormEvent S → Option (Form S)
  | .edit =>
      if form.free ∧ form.editing = false ∧ S.hasCTA can then
        some { form with localState := S.remoteState orgInfo, editing := true }
      else none
  | .cancel =>
      if form.free ∧ form.editing ∧ S.hasCTA can then
        some { form with
          localState := S.onCancel (S.remoteState orgInfo) form.localState, editing := false }
      else none
  | .save =>
      if form.free ∧ form.editing ∧ S.hasCTA can ∧
          S.disableSave form.localState (S.remoteState orgInfo) = false then
        some { form with isOpen := true }
      else none
  | .confirm =>
      if form.isOpen ∧ form.confirming.isNone then some (form.confirm (S.remoteState orgInfo))
      else none
  | .openDialog dialog =>
      if form.free ∧ form.editing ∧ S.opens can form.localState dialog then
        some { form with dialog := some dialog }
      else none
  | .close => if form.free then none else some { form with isOpen := false, dialog := none }
  | .change edit =>
      match S.dialogOf edit with
      | none =>
          if form.free ∧ form.editing ∧ S.offered can form.localState edit then
            some { form with localState := S.apply form.localState form.localState edit }
          else none
      | some dialog =>
          if form.dialog = some dialog then
            let shown := if form.editing then form.localState else S.remoteState orgInfo
            some { form with localState := S.apply shown form.localState edit, dialog := none }
          else none
  | .settled ok =>
      if form.confirming.isSome then
        some { form with editing := form.editing && !ok, isOpen := false, confirming := none }
      else none

end Form

/-! ## The page -/

/-- A page with its sections, what was fetched last, and the server. -/
structure Page (S : ι → Section V π) where
  server : ∀ k, V k
  orgInfo : ∀ k, V k
  can : π → Bool
  form : ∀ n, Form (S n)

inductive PageEvent (S : ι → Section V π) where
  | form (n : ι) (event : FormEvent (S n))
  /-- The organization is fetched, or what is expected of a request is shown or taken back. -/
  | organization (orgInfo : ∀ k, V k)
  | rbac (can : π → Bool)
  /-- The organization is changed by others. -/
  | elsewhere (server : ∀ k, V k)

namespace Page

variable [DecidableEq ι] {S : ι → Section V π}

/-- The server after an event of a section: it carries out a request that it grants. -/
def serve (server : ∀ k, V k) {S : Section V π} (form : Form S) :
    FormEvent S → ∀ k, V k
  | .settled true => (form.confirming.getD fun _ => none).apply server
  | _ => server

def next (page : Page S) : PageEvent S → Option (Page S)
  | .form n event =>
      ((page.form n).next page.orgInfo page.can event).map fun form =>
        { page with
          form := Function.update page.form n form
          server := serve page.server (page.form n) event }
  | .organization orgInfo => some { page with orgInfo }
  | .rbac can => some { page with can }
  | .elsewhere server => some { page with server }

/-- The page when it is opened. -/
def Opened (page : Page S) : Prop :=
  ∀ n, page.form n = ⟨(S n).remoteState page.orgInfo, false, false, none, none⟩

end Page

variable [DecidableEq ι]

def page (S : ι → Section V π) : Machine (Page S) (PageEvent S) where
  init := Page.Opened
  next := Page.next

/-! ## What an event can do -/

section Steps

variable {S : Section V π} {orgInfo : ∀ k, V k} {can : π → Bool} {form form' : Form S}

/-- The steps of a form as a relation. -/
inductive Form.Step (orgInfo : ∀ k, V k) (can : π → Bool) (form : Form S) :
    FormEvent S → Form S → Prop where
  | edit : form.free = true → Step orgInfo can form .edit
      { form with localState := S.remoteState orgInfo, editing := true }
  | cancel : form.free = true → Step orgInfo can form .cancel
      { form with
        localState := S.onCancel (S.remoteState orgInfo) form.localState, editing := false }
  | save : form.free = true → form.editing = true →
      S.disableSave form.localState (S.remoteState orgInfo) = false →
      Step orgInfo can form .save { form with isOpen := true }
  | confirm : form.isOpen = true → form.confirming = none →
      Step orgInfo can form .confirm (form.confirm (S.remoteState orgInfo))
  | openDialog {dialog : S.Dialog} : form.free = true → form.editing = true →
      S.opens can form.localState dialog = true →
      Step orgInfo can form (.openDialog dialog) { form with dialog := some dialog }
  | close : Step orgInfo can form .close { form with isOpen := false, dialog := none }
  | change {edit : S.Edit} : S.dialogOf edit = none → form.free = true → form.editing = true →
      S.offered can form.localState edit = true → Step orgInfo can form (.change edit)
        { form with localState := S.apply form.localState form.localState edit }
  | confirmDialog {edit : S.Edit} {dialog : S.Dialog} {shown : S.State} :
      S.dialogOf edit = some dialog → form.dialog = some dialog →
      (form.editing = true → shown = form.localState) → Step orgInfo can form (.change edit)
        { form with localState := S.apply shown form.localState edit, dialog := none }
  | settled {ok : Bool} {body : Patch V} : form.confirming = some body →
      Step orgInfo can form (.settled ok)
        { form with editing := form.editing && !ok, isOpen := false, confirming := none }

theorem Form.step_of_next {event : FormEvent S} (h : form.next orgInfo can event = some form') :
    Form.Step orgInfo can form event form' := by
  cases event with
  | edit =>
    simp only [Form.next, Option.ite_none_right_eq_some, Option.some.injEq] at h
    obtain ⟨⟨hfree, -⟩, rfl⟩ := h
    exact .edit hfree
  | cancel =>
    simp only [Form.next, Option.ite_none_right_eq_some, Option.some.injEq] at h
    obtain ⟨⟨hfree, -⟩, rfl⟩ := h
    exact .cancel hfree
  | save =>
    simp only [Form.next, Option.ite_none_right_eq_some, Option.some.injEq] at h
    obtain ⟨⟨hfree, hediting, -, hsave⟩, rfl⟩ := h
    exact .save hfree hediting hsave
  | confirm =>
    simp only [Form.next, Option.ite_none_right_eq_some, Option.some.injEq] at h
    obtain ⟨⟨hopen, hnone⟩, rfl⟩ := h
    exact .confirm hopen (Option.isNone_iff_eq_none.1 hnone)
  | openDialog dialog =>
    simp only [Form.next, Option.ite_none_right_eq_some, Option.some.injEq] at h
    obtain ⟨⟨hfree, hediting, hopens⟩, rfl⟩ := h
    exact .openDialog hfree hediting hopens
  | close =>
    simp only [Form.next, Option.ite_none_left_eq_some, Option.some.injEq] at h
    obtain ⟨-, rfl⟩ := h
    exact .close
  | change edit =>
    simp only [Form.next] at h
    split at h
    · next hdialog =>
      simp only [Option.ite_none_right_eq_some, Option.some.injEq] at h
      obtain ⟨⟨hfree, hediting, hoffered⟩, rfl⟩ := h
      exact .change hdialog hfree hediting hoffered
    · next dialog hdialog =>
      simp only [Option.ite_none_right_eq_some, Option.some.injEq] at h
      obtain ⟨hform, rfl⟩ := h
      exact .confirmDialog hdialog hform fun hediting => if_pos hediting
  | settled ok =>
    simp only [Form.next, Option.ite_none_right_eq_some, Option.some.injEq] at h
    obtain ⟨hsome, rfl⟩ := h
    obtain ⟨body, hbody⟩ := Option.isSome_iff_exists.1 hsome
    exact .settled hbody

theorem Form.dialog_of_free (h : form.free = true) : form.dialog = none := by
  simp only [Form.free, Bool.and_eq_true, Option.isNone_iff_eq_none] at h
  exact h.2

theorem Form.isOpen_of_free (h : form.free = true) : form.isOpen = false := by
  simp only [Form.free, Bool.and_eq_true, Bool.not_eq_true'] at h
  exact h.1

/-- What a confirmed form waits for is what saves it. -/
theorem Form.confirming_confirm (form : Form S) (remoteState : S.State)
    (h : form.confirming = none) :
    (form.confirm remoteState).confirming = S.handleSave form.localState remoteState := by
  unfold Form.confirm
  cases hsave : S.handleSave form.localState remoteState with
  | none => exact h
  | some body => rfl

end Steps

/-! ## Properties that are guarded by a permission -/

/-- Without the permission no control changes what is sent of the property. -/
structure Section.Guarded (S : Section V π) (k : κ) (permission : π) : Prop where
  started : ∀ r, S.changes (S.remoteState r) (S.remoteState r) k = none
  remote : ∀ l {r r' : ∀ k, V k}, r k = r' k →
    S.changes l (S.remoteState r) k = S.changes l (S.remoteState r') k
  offered : ∀ {can l edit}, can permission = false → S.dialogOf edit = none →
    S.offered can l edit = true → ∀ r, S.changes (S.apply l l edit) r k = S.changes l r k
  dialogs : ∀ {can l dialog}, can permission = false → S.opens can l dialog = true →
    ∀ edit, S.dialogOf edit = some dialog →
      ∀ l r, S.changes (S.apply l l edit) r k = S.changes l r k

/-- While the form is edited nothing is sent of the property, and the dialog that is open is one that
opens without the permission. -/
structure Form.Untouched {S : Section V π} (form : Form S) (k : κ) (permission : π)
    (orgInfo : ∀ k, V k) : Prop where
  editing : form.isOpen = true → form.editing = true
  unchanged : form.editing = true → S.changes form.localState (S.remoteState orgInfo) k = none
  dialog : ∀ d, form.dialog = some d → ∃ can l, can permission = false ∧ S.opens can l d = true

section Guarded

variable {S : Section V π} {k : κ} {permission : π} {orgInfo : ∀ k, V k} {can : π → Bool}
  {form form' : Form S}

theorem Form.Untouched.step (hg : S.Guarded k permission) (h : form.Untouched k permission orgInfo)
    (hcan : can permission = false) {event : FormEvent S}
    (hs : Form.Step orgInfo can form event form') : form'.Untouched k permission orgInfo := by
  cases hs with
  | edit hfree =>
    exact ⟨fun _ => rfl, fun _ => hg.started orgInfo, h.dialog⟩
  | cancel hfree =>
    refine ⟨fun hopen => ?_, nofun, h.dialog⟩
    rw [Form.isOpen_of_free hfree] at hopen
    cases hopen
  | save hfree hediting _ => exact ⟨fun _ => hediting, h.unchanged, h.dialog⟩
  | confirm hopen hnone =>
    unfold Form.confirm
    cases S.handleSave form.localState (S.remoteState orgInfo) with
    | none => exact ⟨nofun, nofun, h.dialog⟩
    | some body => exact ⟨h.editing, h.unchanged, h.dialog⟩
  | openDialog hfree hediting hopens =>
    refine ⟨h.editing, h.unchanged, fun d hd => ?_⟩
    obtain rfl := Option.some.inj hd
    exact ⟨can, _, hcan, hopens⟩
  | close => exact ⟨nofun, h.unchanged, nofun⟩
  | change hdialog hfree hediting hoffered =>
    refine ⟨h.editing, fun hediting => ?_, h.dialog⟩
    exact (hg.offered hcan hdialog hoffered _).trans (h.unchanged hediting)
  | confirmDialog hdialog hform hshown =>
    obtain ⟨can', l, hcan', hopens⟩ := h.dialog _ hform
    refine ⟨h.editing, fun hediting => ?_, nofun⟩
    rw [hshown hediting]
    exact (hg.dialogs hcan' hopens _ hdialog _ _).trans (h.unchanged hediting)
  | settled _ =>
    refine ⟨nofun, fun hediting => h.unchanged ?_, h.dialog⟩
    exact (Bool.and_eq_true_iff.1 hediting).1

end Guarded

variable {S : ι → Section V π} {k : κ} {permission : π} {n : ι}

/-- "Edit" is pressed by a member who does not have the permission. -/
def Page.Started (n : ι) (permission : π) (page : Page S) (event : PageEvent S) : Prop :=
  event = .form n .edit ∧ page.can permission = false

/-- The member is granted the permission, or the property is fetched with another value. -/
def Page.Touched (k : κ) (permission : π) (page : Page S) (event : PageEvent S) : Prop :=
  (∃ can, event = .rbac can ∧ can permission = true) ∨
    ∃ orgInfo, event = .organization orgInfo ∧ orgInfo k ≠ page.orgInfo k

/-- The steps of the form of a section within those of the page. -/
theorem Page.form_of_next {s s' : Page S} {m : ι} {event : FormEvent (S m)}
    (h : s.next (.form m event) = some s') :
    Form.Step s.orgInfo s.can (s.form m) event (s'.form m) ∧
      (∀ n, n ≠ m → s'.form n = s.form n) ∧ s'.orgInfo = s.orgInfo ∧ s'.can = s.can ∧
        s'.server = serve s.server (s.form m) event := by
  obtain ⟨form', hform, rfl⟩ := Option.map_eq_some_iff.1 h
  refine ⟨?_, fun n hne => Function.update_of_ne hne _ _, rfl, rfl, rfl⟩
  dsimp only
  rw [Function.update_self]
  exact Form.step_of_next hform

/-- Since "Edit" was pressed without the permission of a guarded property, nothing is sent of it. -/
theorem untouched_of_since (hg : (S n).Guarded k permission) {h : List (PageEvent S)} {s : Page S}
    (hs : Since (page S) anyStep (Page.Started n permission) (Page.Touched k permission) h s) :
    s.can permission = false ∧ (s.form n).Untouched k permission s.orgInfo := by
  refine hs.invariant (J := fun s => s.can permission = false ∧
    (s.form n).Untouched k permission s.orgInfo) ?_ ?_
  · rintro h s _ s' - - hnext ⟨rfl, hcan⟩
    obtain ⟨hstep, -, hinfo, hcan', -⟩ := Page.form_of_next hnext
    rw [hcan', hinfo]
    refine ⟨hcan, ?_⟩
    generalize s'.form n = form' at hstep
    cases hstep with
    | edit hfree =>
      refine ⟨fun _ => rfl, fun _ => hg.started _, fun d hd => ?_⟩
      rw [Form.dialog_of_free hfree] at hd
      cases hd
  · rintro h s event s' - ⟨hcan, hform⟩ - hnext htouched
    cases event with
    | form m event =>
      obtain ⟨hstep, hothers, hinfo, hcan', -⟩ := Page.form_of_next hnext
      rw [hcan', hinfo]
      refine ⟨hcan, ?_⟩
      by_cases hm : n = m
      · subst hm
        exact hform.step hg hcan hstep
      · rw [hothers n hm]
        exact hform
    | organization orgInfo =>
      obtain rfl := Option.some.inj hnext
      have hk : orgInfo k = s.orgInfo k := by
        by_contra hne
        exact htouched (.inr ⟨orgInfo, rfl, hne⟩)
      refine ⟨hcan, hform.editing, fun hediting => ?_, hform.dialog⟩
      exact (hg.remote _ hk).trans (hform.unchanged hediting)
    | rbac can =>
      obtain rfl := Option.some.inj hnext
      refine ⟨?_, hform⟩
      by_contra htrue
      exact htouched (.inl ⟨can, rfl, by simpa using htrue⟩)
    | elsewhere server =>
      obtain rfl := Option.some.inj hnext
      exact ⟨hcan, hform⟩

/-- A request that is sent since "Edit" was pressed without the permission has nothing of a guarded
property, unless it was touched. -/
theorem not_sent_of_guarded (hg : (S n).Guarded k permission) {h : List (PageEvent S)}
    {s s' : Page S}
    (hs : Since (page S) anyStep (Page.Started n permission) (Page.Touched k permission) h s)
    (hnext : s.next (.form n .confirm) = some s') {body : Patch V}
    (hbody : (s'.form n).confirming = some body) : body k = none := by
  obtain ⟨-, hform⟩ := untouched_of_since hg hs
  obtain ⟨hstep, -⟩ := Page.form_of_next hnext
  generalize s'.form n = form' at hstep hbody
  cases hstep with
  | confirm hopen hnone =>
    rw [Form.confirming_confirm _ _ hnone] at hbody
    have hunchanged := hform.unchanged (hform.editing hopen)
    rwa [Section.changes, hbody] at hunchanged

/-! ## What a save leaves on the server -/

/-- Each section sends properties of its own, and a record that has what is sent in the place of what
was fetched shows the form. What `disableSave` lets through is acceptable. -/
structure Saves (S : ι → Section V π) (owner : κ → ι)
    (Shows : ∀ n, (S n).State → (∀ k, V k) → Prop) (Acceptable : ∀ n, (S n).State → Prop) :
    Prop where
  own : ∀ n l r k, owner k ≠ n → (S n).changes l r k = none
  shows : ∀ n l {r r' : ∀ k, V k}, (∀ k, owner k = n → r' k = r k) →
    Shows n l (((S n).changes l ((S n).remoteState r)).apply r')
  congr : ∀ n l {r r' : ∀ k, V k}, (∀ k, owner k = n → r' k = r k) → Shows n l r → Shows n l r'
  acceptable : ∀ n l r, (S n).disableSave l r = false → Acceptable n l

/-- The save of a section is confirmed, with the local state `l`, and what was fetched of the section
is what the server has. -/
def Page.Confirmed (owner : κ → ι) (n : ι) (l : (S n).State) (page : Page S)
    (event : PageEvent S) : Prop :=
  event = .form n .confirm ∧ (page.form n).localState = l ∧
    ∀ k, owner k = n → page.server k = page.orgInfo k

/-- The request is refused, another one is confirmed, or others change a property of the section. -/
def Page.Disturbed (owner : κ → ι) (n : ι) (page : Page S) (event : PageEvent S) : Prop :=
  event = .form n (.settled false) ∨ event = .form n .confirm ∨
    ∃ server, event = .elsewhere server ∧ ∃ k, owner k = n ∧ server k ≠ page.server k

section Saves

variable {owner : κ → ι} {Shows : ∀ n, (S n).State → (∀ k, V k) → Prop}
  {Acceptable : ∀ n, (S n).State → Prop}

/-- One dialog is open at most, what is asked to be saved is acceptable, and what is sent are
properties of the section. -/
structure Form.Sound {S : Section V π} (form : Form S) (own : κ → Prop)
    (Acceptable : S.State → Prop) : Prop where
  dialog : form.isOpen = true → form.dialog = none
  acceptable : form.isOpen = true → Acceptable form.localState
  own : ∀ body, form.confirming = some body → ∀ k, ¬own k → body k = none

theorem Form.Sound.step {S : Section V π} {own : κ → Prop} {Acceptable : S.State → Prop}
    (hown : ∀ l r k, ¬own k → S.changes l r k = none)
    (hacceptable : ∀ l r, S.disableSave l r = false → Acceptable l) {form form' : Form S}
    (h : form.Sound own Acceptable) {orgInfo : ∀ k, V k} {can : π → Bool} {event : FormEvent S}
    (hs : Form.Step orgInfo can form event form') : form'.Sound own Acceptable := by
  -- the dialog covers the page, so that the form stays as it was when it was opened
  have hclosed : form.free = true → ∀ {p : Prop}, form.isOpen = true → p := by
    intro hfree p hopen
    rw [Form.isOpen_of_free hfree] at hopen
    cases hopen
  cases hs with
  | edit hfree => exact ⟨hclosed hfree, hclosed hfree, h.own⟩
  | cancel hfree => exact ⟨hclosed hfree, hclosed hfree, h.own⟩
  | save hfree _ hsave =>
    have hdialog := Form.dialog_of_free hfree
    exact ⟨fun _ => hdialog, fun _ => hacceptable _ _ hsave, h.own⟩
  | confirm hopen hnone =>
    unfold Form.confirm
    cases hsave : S.handleSave form.localState (S.remoteState orgInfo) with
    | none => exact ⟨nofun, nofun, h.own⟩
    | some body =>
      refine ⟨h.dialog, h.acceptable, fun body' hbody k hk => ?_⟩
      obtain rfl := Option.some.inj hbody
      have hnone := hown form.localState (S.remoteState orgInfo) k hk
      rwa [Section.changes, hsave] at hnone
  | openDialog hfree _ _ => exact ⟨hclosed hfree, hclosed hfree, h.own⟩
  | close => exact ⟨nofun, nofun, h.own⟩
  | change _ hfree _ _ => exact ⟨hclosed hfree, hclosed hfree, h.own⟩
  | confirmDialog _ hdialog _ =>
    refine ⟨fun _ => rfl, fun hopen => ?_, h.own⟩
    rw [h.dialog hopen] at hdialog
    cases hdialog
  | settled _ => exact ⟨nofun, nofun, nofun⟩

theorem sound_of_reach (hsaves : Saves S owner Shows Acceptable) {h : List (PageEvent S)}
    {s : Page S} (hr : Reach (page S) anyStep h s) (n : ι) :
    (s.form n).Sound (owner · = n) (Acceptable n) := by
  refine hr.invariant (I := fun _ s => (s.form n).Sound (owner · = n) (Acceptable n)) ?_ ?_
  · intro s hs
    rw [hs n]
    exact ⟨nofun, nofun, nofun⟩
  · rintro h s event s' hsound - hnext
    cases event with
    | form m event =>
      obtain ⟨hstep, hothers, -⟩ := Page.form_of_next hnext
      by_cases hm : n = m
      · subst hm
        exact hsound.step (hsaves.own n) (hsaves.acceptable n) hstep
      · rw [hothers n hm]
        exact hsound
    | organization orgInfo =>
      obtain rfl := Option.some.inj hnext
      exact hsound
    | rbac can =>
      obtain rfl := Option.some.inj hnext
      exact hsound
    | elsewhere server =>
      obtain rfl := Option.some.inj hnext
      exact hsound

/-- The request that carries `l` is on its way to a server that has what was fetched, or the server
shows `l`. -/
def Page.Saved (owner : κ → ι) (Shows : ∀ n, (S n).State → (∀ k, V k) → Prop) (n : ι)
    (l : (S n).State) (s : Page S) : Prop :=
  (∃ body, (s.form n).confirming = some body ∧
      ∀ server, (∀ k, owner k = n → server k = s.server k) → Shows n l (body.apply server)) ∨
    (s.form n).confirming = none ∧ Shows n l s.server

omit [DecidableEq ι] in
/-- What the other sections and the environment do to a save. -/
theorem Page.Saved.of_eq (hsaves : Saves S owner Shows Acceptable) {l : (S n).State} {s s' : Page S}
    (h : s.Saved owner Shows n l) (hform : (s'.form n).confirming = (s.form n).confirming)
    (hserver : ∀ k, owner k = n → s'.server k = s.server k) : s'.Saved owner Shows n l := by
  rcases h with ⟨body, hbody, hshows⟩ | ⟨hnone, hshows⟩
  · refine .inl ⟨body, hform.trans hbody, fun server hagree => hshows server fun k hk => ?_⟩
    exact (hagree k hk).trans (hserver k hk)
  · exact .inr ⟨hform.trans hnone, hsaves.congr n l hserver hshows⟩

/-- A step of the section itself that is no refusal and no further save. -/
theorem Page.Saved.step {l : (S n).State} {s s' : Page S} (h : s.Saved owner Shows n l)
    {event : FormEvent (S n)} (hnext : s.next (.form n event) = some s')
    (hrefused : event ≠ .settled false) (hconfirm : event ≠ .confirm) : s'.Saved owner Shows n l := by
  obtain ⟨hstep, -, -, -, hserver⟩ := Page.form_of_next hnext
  rw [Page.Saved, hserver]
  generalize s'.form n = form' at hstep
  cases hstep with
  | confirm _ _ => exact absurd rfl hconfirm
  | @settled ok body hbody =>
    cases ok with
    | false => exact absurd rfl hrefused
    | true =>
      rcases h with ⟨body', hbody', hshows⟩ | ⟨hnone, -⟩
      · refine .inr ⟨rfl, ?_⟩
        obtain rfl := Option.some.inj (hbody.symm.trans hbody')
        rw [serve, hbody]
        exact hshows s.server fun _ _ => rfl
      · cases hnone.symm.trans hbody
  | _ => exact h

theorem saved_of_confirmed (hsaves : Saves S owner Shows Acceptable) {l : (S n).State}
    {s s' : Page S} {event : PageEvent S} (hconfirmed : s.Confirmed owner n l event)
    (hsound : (s.form n).Sound (owner · = n) (Acceptable n)) (hnext : s.next event = some s') :
    s'.Saved owner Shows n l ∧ Acceptable n l := by
  obtain ⟨rfl, rfl, hagree⟩ := hconfirmed
  obtain ⟨hstep, -, -, -, hserver⟩ := Page.form_of_next hnext
  rw [Page.Saved, hserver]
  generalize s'.form n = form' at hstep
  cases hstep with
  | confirm hopen hnone =>
    refine ⟨?_, hsound.acceptable hopen⟩
    rw [Form.confirming_confirm _ _ hnone]
    have hshows : ∀ server : ∀ k, V k, (∀ k, owner k = n → server k = s.orgInfo k) →
        Shows n (s.form n).localState
          (((S n).changes (s.form n).localState ((S n).remoteState s.orgInfo)).apply server) :=
      fun _ hserver => hsaves.shows n _ hserver
    unfold Section.changes at hshows
    cases hsave : (S n).handleSave (s.form n).localState ((S n).remoteState s.orgInfo) with
    | none =>
      rw [hsave] at hshows
      exact .inr ⟨rfl, hshows s.server hagree⟩
    | some body =>
      rw [hsave] at hshows
      exact .inl ⟨body, rfl, fun server hserver =>
        hshows server fun k hk => (hserver k hk).trans (hagree k hk)⟩

/-- Once the save is answered the server shows what was saved, and it was acceptable. -/
theorem shows_of_saves (hsaves : Saves S owner Shows Acceptable) {l : (S n).State}
    {h : List (PageEvent S)} {s : Page S}
    (hs : Since (page S) anyStep (Page.Confirmed owner n l) (Page.Disturbed owner n) h s)
    (hanswered : (s.form n).confirming = none) : Shows n l s.server ∧ Acceptable n l := by
  have hsaved : s.Saved owner Shows n l ∧ Acceptable n l := by
    refine hs.invariant (J := fun s => s.Saved owner Shows n l ∧ Acceptable n l) ?_ ?_
    · intro h s event s' hr _ hnext hconfirmed
      exact saved_of_confirmed hsaves hconfirmed (sound_of_reach hsaves hr n) hnext
    · rintro h s event s' hs' ⟨hsaved, hacceptable⟩ - hnext hdisturbed
      refine ⟨?_, hacceptable⟩
      cases event with
      | form m event =>
        by_cases hm : n = m
        · subst hm
          refine hsaved.step hnext ?_ ?_
          · rintro rfl
            exact hdisturbed (.inl rfl)
          · rintro rfl
            exact hdisturbed (.inr (.inl rfl))
        · obtain ⟨hstep, hothers, -, -, hserver⟩ := Page.form_of_next hnext
          refine hsaved.of_eq hsaves (by rw [hothers n hm]) fun k hk => ?_
          rw [hserver]
          have hown := (sound_of_reach hsaves hs'.reach m).own
          cases event with
          | settled ok =>
            cases ok with
            | false => rfl
            | true =>
              refine Patch.apply_of_none ?_ _
              cases hbody : (s.form m).confirming with
              | none => rfl
              | some body => exact hown body hbody k fun hkm => hm (hk.symm.trans hkm)
          | _ => rfl
      | organization orgInfo =>
        obtain rfl := Option.some.inj hnext
        exact hsaved
      | rbac can =>
        obtain rfl := Option.some.inj hnext
        exact hsaved
      | elsewhere server =>
        obtain rfl := Option.some.inj hnext
        refine hsaved.of_eq hsaves rfl fun k hk => ?_
        by_contra hne
        exact hdisturbed (.inr (.inr ⟨server, rfl, k, hk, hne⟩))
  rcases hsaved with ⟨⟨body, hbody, -⟩ | ⟨-, hshows⟩, hacceptable⟩
  · cases hbody.symm.trans hanswered
  · exact ⟨hshows, hacceptable⟩

end Saves

end StytchBrowser.AdminPortal.Settings
