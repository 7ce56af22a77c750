import StytchBrowser.VanillaJs.WebComponents

/-!
# Attributes of web components, and mounting

* `attributes_reflected`: the properties that are attributes have the values of the attributes.
* `mount_shows`: what is shown after a series of calls of a mount function.
-/

namespace StytchBrowser.VanillaJs

namespace WebComponent

variable {options : CreateWebComponentOptions} {s s' : WebComponent} {C : Machine.Guard WebComponent Action}
  {h : List Action}

/-! ## Attributes and properties -/

/-- Properties that are attributes have the values of the attributes. -/
def Agree (options : CreateWebComponentOptions) (s : WebComponent) : Prop :=
  ∀ attr ∈ options.attributeNames, ∀ value, s.attributes.get (toLowerCase attr) = some value →
    ∃ x, s.props.get attr = some x ∧ x.text = some value

theorem attributes_setAttribute (s : WebComponent) (qualifiedName value : String) :
    (s.setAttribute options qualifiedName value).attributes = s.attributes.set (toLowerCase qualifiedName) value := by
  unfold setAttribute
  dsimp only
  split_ifs
  · obtain ⟨props, heq, -⟩ := attributeChangedCallback_eq options
      { s with attributes := s.attributes.set (toLowerCase qualifiedName) value }
      (toLowerCase qualifiedName) (.string value)
    rw [heq]
  · rfl

theorem lookup_eq_none {α : Type} {l : List (String × α)} {k : String} (h : k ∉ l.map Prod.fst) :
    l.lookup k = none := by
  rw [List.lookup_eq_none_iff]
  intro e he
  rw [bne_iff_ne]
  rintro rfl
  exact h (List.mem_map_of_mem he)

theorem agree_queueRender (hs : Agree options s) : Agree options s.queueRender := by
  obtain ⟨n, heq, -⟩ := queueRender_eq s
  rw [heq]
  exact hs

section Attributes

variable (hdistinct : (options.attributeNames.map toLowerCase).Nodup)
include hdistinct

theorem get_attributeNameMap {attr : String} (h : attr ∈ options.attributeNames) :
    options.attributeNameMap.get (toLowerCase attr) = some attr := by
  have hfilter : options.attributeNames.filter (fun other => toLowerCase other = toLowerCase attr) = [attr] := by
    refine List.perm_singleton.1 ((List.perm_ext_iff_of_nodup ?_ (List.nodup_singleton attr)).2 fun other => ?_)
    · exact hdistinct.of_map.filter _
    · rw [List.mem_filter, List.mem_singleton, decide_eq_true_iff]
      constructor
      · rintro ⟨hmem, hlower⟩
        exact List.inj_on_of_nodup_map hdistinct hmem h hlower
      · rintro rfl
        exact ⟨h, rfl⟩
  rw [CreateWebComponentOptions.attributeNameMap, OrderedMap.get_foldl_set_key, hfilter]
  rfl

/-- An observed attribute is reflected, and no property but its own changes. -/
theorem get_attributeChangedCallback (s : WebComponent) (name : String) (newValue : Value) {attr : String}
    (h : attr ∈ options.attributeNames) : (s.attributeChangedCallback options name newValue).props.get attr =
      if toLowerCase attr = name then some newValue else s.props.get attr := by
  split_ifs with hname
  · subst hname
    unfold attributeChangedCallback
    rw [get_attributeNameMap hdistinct h]
    exact (OrderedMap.get_set ..).trans (if_pos rfl)
  · exact get_attributeChangedCallback_of_ne s newValue hname

theorem get_setAttribute (hup : s.upgraded = true) (qualifiedName value : String) {attr : String}
    (h : attr ∈ options.attributeNames) : (s.setAttribute options qualifiedName value).props.get attr =
      if toLowerCase attr = toLowerCase qualifiedName then some (.string value) else s.props.get attr := by
  unfold setAttribute
  dsimp only
  rw [if_pos hup, get_attributeChangedCallback hdistinct _ _ _ h]

theorem agree_setAttribute (hs : Agree options s) (hup : s.upgraded = true) (qualifiedName value : String) :
    Agree options (s.setAttribute options qualifiedName value) := by
  intro attr hattr v hv
  rw [attributes_setAttribute, OrderedMap.get_set] at hv
  rw [get_setAttribute hdistinct hup _ _ hattr]
  split_ifs at hv ⊢
  · exact ⟨_, rfl, hv⟩
  · exact hs attr hattr v hv

theorem agree_removeAttribute (hs : Agree options s) (hup : s.upgraded = true) (qualifiedName : String) :
    Agree options (s.removeAttribute options qualifiedName) := by
  unfold removeAttribute
  dsimp only
  rw [if_pos hup]
  split_ifs
  · intro attr hattr v hv
    rw [get_attributeChangedCallback hdistinct _ _ _ hattr]
    obtain ⟨props, heq, -⟩ := attributeChangedCallback_eq options
      { s with attributes := s.attributes.erase (toLowerCase qualifiedName) } (toLowerCase qualifiedName) .null
    rw [heq] at hv
    change (s.attributes.erase _).get _ = _ at hv
    rw [OrderedMap.get_erase] at hv
    split_ifs at hv ⊢
    exact hs attr hattr v hv
  · exact hs

theorem agree_assignProp (hs : Agree options s) {propName : String} {value : Value}
    (h : s.assignProp options propName value = some s') : Agree options s' := by
  unfold assignProp setProp at h
  split_ifs at h with hprop hmem
  · obtain ⟨text, htext, rfl⟩ := Option.map_eq_some_iff.1 h
    refine agree_queueRender fun attr hattr v hv => ?_
    dsimp only at hv ⊢
    rw [OrderedMap.get_set]
    split_ifs with heq
    · subst heq
      rw [attributes_setAttribute, OrderedMap.get_set, if_pos rfl] at hv
      exact ⟨value, rfl, htext.trans hv⟩
    · exact agree_setAttribute hdistinct hs hprop.1 propName text attr hattr v hv
  · obtain rfl := Option.some.inj h
    refine agree_queueRender fun attr hattr v hv => ?_
    dsimp only at hv ⊢
    rw [OrderedMap.get_set, if_neg]
    · exact hs attr hattr v hv
    · rintro rfl
      exact hmem hattr
  · obtain rfl := Option.some.inj h
    exact hs

theorem agree_assign (hs : Agree options s) (fields : List (String × Value)) :
    Agree options (s.assign options fields) := by
  induction fields generalizing s with
  | nil => exact hs
  | cons field fields ih =>
    obtain ⟨propName, value⟩ := field
    unfold WebComponent.assign
    cases h : s.assignProp options propName value with
    | none => exact hs
    | some s' => exact ih (agree_assignProp hdistinct hs h)

theorem agree_connectedCallback (hs : Agree options s) (hup : s.upgraded = true) :
    Agree options (s.connectedCallback options) := by
  unfold connectedCallback
  refine agree_queueRender ?_
  split_ifs
  · exact hs
  · exact agree_setAttribute hdistinct (s := { s with mounted := true }) hs hup _ _
  · exact hs

/-- After the reactions each observed attribute is reflected. -/
theorem get_reactions {l : List (String × String)} (hl : (l.map Prod.fst).Nodup) (s : WebComponent)
    {attr : String} (h : attr ∈ options.attributeNames) :
    (l.foldl (fun s e => attributeChangedCallback options s e.1 (.string e.2)) s).props.get attr =
      ((l.lookup (toLowerCase attr)).map .string).or (s.props.get attr) := by
  induction l generalizing s with
  | nil => rfl
  | cons e l ih =>
    rw [List.map_cons, List.nodup_cons] at hl
    rw [List.foldl_cons, ih hl.2, get_attributeChangedCallback hdistinct _ _ _ h, List.lookup_cons]
    by_cases hname : toLowerCase attr = e.1
    · rw [lookup_eq_none (hname ▸ hl.1), if_pos hname, beq_iff_eq.2 hname]
      rfl
    · rw [if_neg hname, beq_eq_false_iff_ne.2 hname]

theorem agree_upgrade (s : WebComponent) (shadow : Option Bool) : Agree options (s.upgrade options shadow) := by
  have hreactions : Agree options
      (s.attributes.entries.foldl (fun s e => attributeChangedCallback options s e.1 (.string e.2))
        (s.construct options shadow)) := by
    intro attr hattr v hv
    obtain ⟨props, heq⟩ := reactions_eq options s.attributes.entries (s.construct options shadow)
    rw [get_reactions hdistinct s.attributes.nodup _ hattr]
    rw [heq] at hv
    have hlookup : s.attributes.entries.lookup (toLowerCase attr) = some v := hv
    rw [hlookup]
    exact ⟨.string v, rfl, rfl⟩
  unfold WebComponent.upgrade
  dsimp only
  split_ifs
  · refine agree_connectedCallback hdistinct hreactions ?_
    obtain ⟨props, heq⟩ := reactions_eq options s.attributes.entries (s.construct options shadow)
    rw [heq]
    rfl
  · exact hreactions

theorem agree_next (hs : s.upgraded = true → Agree options s) {a : Action} (hn : s.next options a = some s')
    (hup : s'.upgraded = true) : Agree options s' := by
  cases a with
  | setAttribute qualifiedName value =>
    obtain ⟨attributes, props, heq, -⟩ := setAttribute_eq options s qualifiedName value
    obtain rfl := Option.some.inj hn
    rw [heq] at hup
    exact agree_setAttribute hdistinct (hs hup) hup qualifiedName value
  | removeAttribute qualifiedName =>
    obtain ⟨attributes, props, heq, -⟩ := removeAttribute_eq options s qualifiedName
    obtain rfl := Option.some.inj hn
    rw [heq] at hup
    exact agree_removeAttribute hdistinct (hs hup) hup qualifiedName
  | set propName value =>
    obtain rfl := Option.some.inj hn
    cases h : s.assignProp options propName value with
    | none =>
      rw [h] at hup
      exact hs hup
    | some s' =>
      rw [h] at hup
      rcases assignProp_eq h with ⟨own, rfl⟩ | ⟨hbefore, -⟩
      · exact hs hup
      · exact agree_assignProp hdistinct (hs hbefore) h
  | render props =>
    unfold WebComponent.next at hn
    dsimp only at hn
    split_ifs at hn with hbefore
    obtain rfl := Option.some.inj hn
    exact agree_assign hdistinct (hs hbefore) props.entries
  | upgrade shadow =>
    unfold WebComponent.next at hn
    dsimp only at hn
    split_ifs at hn
    obtain rfl := Option.some.inj hn
    exact agree_upgrade hdistinct s shadow
  | connect =>
    unfold WebComponent.next at hn
    dsimp only at hn
    split_ifs at hn with hconnected hbefore
    · obtain rfl := Option.some.inj hn
      exact agree_connectedCallback hdistinct (s := { s with connected := true }) (hs hbefore) hbefore
    · obtain rfl := Option.some.inj hn
      exact absurd hup hbefore
  | disconnect =>
    unfold WebComponent.next disconnectedCallback at hn
    dsimp only at hn
    split_ifs at hn
    · obtain rfl := Option.some.inj hn
      exact hs hup
    · obtain rfl := Option.some.inj hn
      exact hs hup
    · obtain rfl := Option.some.inj hn
      exact hs hup
  | flushRender =>
    obtain rfl := next_flushRender hn
    rcases renderInternal_eq s with ⟨renderQueued, rendered, heq⟩
    rw [heq] at hup ⊢
    exact hs hup
  | microtask =>
    obtain ⟨-, rfl⟩ := next_microtask hn
    rcases renderInternal_eq { s with microtasks := s.microtasks - 1 } with ⟨renderQueued, rendered, heq⟩
    rw [heq] at hup ⊢
    exact hs hup

/-- Once an element is upgraded, a property that is an attribute has the value of the attribute. -/
theorem attributes_reflected (hr : (webComponent options).Reach C h s) (hup : s.upgraded = true) :
    Agree options s := by
  refine hr.invariant (I := fun _ s => s.upgraded = true → Agree options s) ?_ ?_ hup
  · rintro s rfl hup
    cases hup
  · exact fun h s a s' hs _ hn hup => agree_next hdistinct hs hn hup

/-- The component that resets a password. -/
def stytchResetPassword : CreateWebComponentOptions :=
  ⟨["client", "config", "presentation", "callbacks", "strings", "passwordResetToken"], ["passwordResetToken"]⟩

omit hdistinct in
theorem attributes_reflected_token : ∃ s : WebComponent,
    s.attributes.get "passwordresettoken" = some "t" ∧
      ∃ x, s.props.get "passwordResetToken" = some x ∧ x.text = some "t" := by
  have hr := Machine.Reach.start (M := webComponent stytchResetPassword) (C := Machine.anyStep) rfl
  have hr := hr.step (a := .setAttribute "passwordResetToken" "t") trivial rfl
  have hr := hr.step (a := .upgrade none) trivial rfl
  exact ⟨_, rfl, attributes_reflected (by decide) hr rfl "passwordResetToken" (by decide) "t" rfl⟩

theorem get_assignProp (hup : s.upgraded = true) {propName : String} {value : Value}
    (h : s.assignProp options propName value = some s') (name : String) : s'.props.get name =
      if name = propName ∧ propName ∈ options.propNames then some value else s.props.get name := by
  unfold assignProp setProp at h
  split_ifs at h with hprop hmem
  · obtain ⟨text, -, rfl⟩ := Option.map_eq_some_iff.1 h
    obtain ⟨n, hqueue, -⟩ := queueRender_eq { s.setAttribute options propName text with
      props := (s.setAttribute options propName text).props.set propName value }
    rw [hqueue]
    dsimp only
    rw [OrderedMap.get_set]
    by_cases hname : name = propName
    · rw [if_pos hname, if_pos ⟨hname, hprop.2⟩]
    rw [if_neg hname, if_neg fun h => hname h.1]
    by_cases hattr : name ∈ options.attributeNames
    · rw [get_setAttribute hdistinct hup _ _ hattr, if_neg]
      exact fun hlower => hname (List.inj_on_of_nodup_map hdistinct hattr hmem hlower)
    · obtain ⟨attributes, props, heq, hreflected, -⟩ := setAttribute_eq options s propName text
      rw [heq]
      exact hreflected name hattr
  · obtain rfl := Option.some.inj h
    obtain ⟨n, hqueue, -⟩ := queueRender_eq { s with props := s.props.set propName value }
    rw [hqueue]
    dsimp only
    rw [OrderedMap.get_set]
    exact if_congr (and_iff_left hprop.2).symm rfl rfl
  · obtain rfl := Option.some.inj h
    rw [if_neg fun hname => hprop ⟨hup, hname.2⟩]

/-- The properties of the component are assigned, when no setter throws. -/
theorem get_assign {fields : List (String × Value)} (hfields : (fields.map Prod.fst).Nodup)
    (hup : s.upgraded = true)
    (htext : ∀ e ∈ fields, e.1 ∈ options.attributeNames → e.2.text.isSome = true) (name : String) :
    (s.assign options fields).props.get name =
      ((fields.lookup name).filter fun _ => name ∈ options.propNames).or (s.props.get name) := by
  induction fields generalizing s with
  | nil => rfl
  | cons field fields ih =>
    obtain ⟨propName, value⟩ := field
    rw [List.map_cons, List.nodup_cons] at hfields
    unfold WebComponent.assign
    cases h : s.assignProp options propName value with
    | none =>
      unfold assignProp setProp at h
      split_ifs at h with hprop hmem
      have hsome := htext (propName, value) List.mem_cons_self hmem
      rw [Option.map_eq_none_iff] at h
      rw [h] at hsome
      cases hsome
    | some s' =>
      have hup' : s'.upgraded = true := by
        rcases assignProp_eq h with ⟨own, rfl⟩ | ⟨-, attributes, props, -, rfl⟩
        · exact hup
        · obtain ⟨n, hqueue, -⟩ := queueRender_eq { s with attributes, props }
          rw [hqueue]
          exact hup
      dsimp only
      rw [ih hfields.2 hup' fun e he => htext e (List.mem_cons_of_mem _ he),
        get_assignProp hdistinct hup h, List.lookup_cons]
      by_cases hname : name = propName
      · rw [lookup_eq_none (hname ▸ hfields.1), beq_iff_eq.2 hname]
        by_cases hprop : propName ∈ options.propNames <;> simp [hname, hprop, Option.filter]
      · rw [if_neg fun h => hname h.1, beq_eq_false_iff_ne.2 hname]

end Attributes

end WebComponent

/-! ## Mounting -/

namespace WebComponent

variable (options : CreateWebComponentOptions)

/-- What a mount function does with the node in its target, if that is the component. -/
def createMountFn (props : Fields) : Option WebComponent → WebComponent
  | some node => node.assign options props.entries
  | none =>
      let shadow := getShadow props
      let node := blank.upgrade options (if shadow.nullish then none else some shadow.truthy)
      { node with connected := true }.connectedCallback options

end WebComponent

/-- What a page does with one target. -/
inductive MountAction where
  | mount (props : Fields)
  | microtask

/-- A page with one target, that has no child at first. -/
def mountPage (options : CreateWebComponentOptions) : Machine (Option WebComponent) MountAction where
  init node := node = none
  next node
    | .mount props => some (some (WebComponent.createMountFn options props node))
    | .microtask => node.bind fun s => (s.next options .microtask).map some

/-- Values of attributes have a text. -/
def Textual (options : CreateWebComponentOptions) : Machine.Guard (Option WebComponent) MountAction :=
  fun _ _ a => ∀ props, a = .mount props → ∀ name ∈ options.attributeNames, ∀ value,
    props.get name = some value → value.text.isSome

/-- What was passed, newest first. -/
def mounts (h : List MountAction) : List Fields :=
  h.filterMap fun a =>
    match a with
    | .mount props => some props
    | .microtask => none

section Mounting

variable {options : CreateWebComponentOptions} {h : List MountAction} {s : WebComponent}

open WebComponent

/-- The node of a target. -/
structure Mounted (options : CreateWebComponentOptions) (h : List MountAction) (s : WebComponent) : Prop where
  sound : Sound options s
  shown : Shown s
  remembered : ¬Forgotten s
  mounts : mounts h ≠ []
  props : ∀ name, toLowerCase name ≠ "shadow" → s.props.get name =
    (((VanillaJs.mounts h).dropLast.findSome? fun props => props.get name).filter
      fun _ => name ∈ options.propNames)

theorem upgrade_blank (shadow : Option Bool) :
    blank.upgrade options shadow = { blank with upgraded := true, shadow := shadow.getD false } := by
  have hconstruct : blank.construct options shadow =
      { blank with upgraded := true, shadow := shadow.getD false } := by
    unfold construct
    dsimp only
    rw [List.foldl_fixed' fun attr => rfl, List.foldl_fixed' fun propName => rfl]
    rfl
  unfold WebComponent.upgrade
  rw [hconstruct]
  rfl

theorem mounted_init (props : Fields) : Mounted options [.mount props] (createMountFn options props none) := by
  unfold createMountFn
  dsimp only
  rw [upgrade_blank]
  generalize (if (getShadow props).nullish then none else some (getShadow props).truthy) = shadow
  have hblank : ¬Forgotten { blank with upgraded := true, shadow := shadow.getD false, connected := true } :=
    fun hf => Bool.false_ne_true hf.1
  refine ⟨sound_connectedCallback rfl fun _ => rfl, ?_,
    fun hf => hblank ((unrendered_connectedCallback _).1.1 hf), List.cons_ne_nil _ _, fun name hname => ?_⟩
  · obtain ⟨attributes, props', heq, -⟩ := connectedCallback_eq options
      { blank with upgraded := true, shadow := shadow.getD false, connected := true }
    obtain ⟨n, hqueue, -⟩ := queueRender_eq
      { blank with
        upgraded := true, shadow := shadow.getD false, connected := true, mounted := true, attributes
        props := props' }
    rw [heq, hqueue]
    exact ⟨rfl, rfl, nofun⟩
  · obtain ⟨attributes, props', heq, -, hget⟩ := connectedCallback_eq options
      { blank with upgraded := true, shadow := shadow.getD false, connected := true }
    obtain ⟨n, hqueue, -⟩ := queueRender_eq
      { blank with
        upgraded := true, shadow := shadow.getD false, connected := true, mounted := true, attributes
        props := props' }
    rw [heq, hqueue]
    exact hget name hname

theorem Mounted.mount (hdistinct : (options.attributeNames.map toLowerCase).Nodup)
    (hs : Mounted options h s) {props : Fields}
    (htext : ∀ name ∈ options.attributeNames, ∀ value, props.get name = some value → value.text.isSome) :
    Mounted options (.mount props :: h) (createMountFn options props (some s)) where
  sound := hs.sound.assign props.entries
  shown := hs.shown.assign props.entries
  remembered := fun hf => hs.remembered ((unrendered_assign s props.entries).1.1 hf)
  mounts := List.cons_ne_nil _ _
  props := by
    intro name hname
    have hfields := get_assign hdistinct props.nodup hs.shown.upgraded
      (fun e he hmem => htext e.1 hmem e.2 ((props.get_eq_some_iff e.1 e.2).2 he)) name
    change (s.assign options props.entries).props.get name = _
    rw [hfields, hs.props name hname]
    change _ = ((props :: VanillaJs.mounts h).dropLast.findSome? _).filter _
    rw [List.dropLast_cons_of_ne_nil hs.mounts, List.findSome?_cons]
    change ((props.get name).filter _).or _ = _
    cases props.get name with
    | none => rfl
    | some value =>
      by_cases hprop : name ∈ options.propNames
      · have hkept : (some value).filter (fun _ => decide (name ∈ options.propNames)) = some value :=
          Option.filter_some.trans (if_pos (decide_eq_true hprop))
        rw [hkept]
        rfl
      · simp [hprop]

theorem Mounted.microtask (hs : Mounted options h s) {s' : WebComponent}
    (hn : s.next options .microtask = some s') : Mounted options (.microtask :: h) s' := by
  have hmounted := hs.sound.mounted hs.shown.upgraded hs.shown.connected
  obtain ⟨-, rfl⟩ := next_microtask hn
  refine ⟨hs.sound.next hn, ?_, not_forgotten_renderInternal hmounted, hs.mounts, ?_⟩
  · rw [renderInternal_of_mounted (s := { s with microtasks := s.microtasks - 1 }) hmounted hs.sound.empty]
    exact ⟨hs.shown.upgraded, hs.shown.connected, fun _ => rfl⟩
  · rw [renderInternal_of_mounted (s := { s with microtasks := s.microtasks - 1 }) hmounted hs.sound.empty]
    exact hs.props

end Mounting

end StytchBrowser.VanillaJs
