import StytchBrowser.JsUtils.Value
import StytchBrowser.Lib.Machine

/-!
# Web components

`createWebComponent` wraps a component of the UI in a custom element. Setting a property queues one
render for the end of the tick; a change of an attribute is reflected to its property.

* `rendered_props`: once no render is queued, a connected element shows its properties, up to those
  that are attributes, and all of them when no attribute has changed since the last render.
-/

namespace StytchBrowser.VanillaJs

/-- The DOM lowers the ASCII letters of the names of attributes. -/
def toLowerCase (s : String) : String := String.ofList (s.toList.map Char.toLower)

structure CreateWebComponentOptions where
  propNames : List String
  attributeNames : List String

namespace CreateWebComponentOptions

variable (options : CreateWebComponentOptions)

/-- From the names of attributes, which are lower case, to the names of properties. -/
def attributeNameMap : OrderedMap String String :=
  options.attributeNames.foldl (fun map attr => map.set (toLowerCase attr) attr) OrderedMap.empty

def observedAttributes : List String := options.attributeNameMap.keys

end CreateWebComponentOptions

/-! ## The properties of the component -/

/-- `props.presentation?.options?.enableShadowDOM ?? props.config?.enableShadowDOM`. -/
def getShadow (props : Fields) : Value :=
  let presentation := (props.get "presentation").getD .undefined
  let shadow := (presentation.field "options").field "enableShadowDOM"
  if shadow.nullish then ((props.get "config").getD .undefined).field "enableShadowDOM" else shadow

/-- `{ ...v, [k]: x }` of an object or a nullish value. -/
def withField (v : Value) (k : String) (x : Value) : Value :=
  match v with
  | .object fields =>
      .object (if (fields.lookup k).isSome then fields.map fun e => if e.1 = k then (k, x) else e
        else fields ++ [(k, x)])
  | _ => .object [(k, x)]

def setShadow (props : Fields) : Fields :=
  if (getShadow props).truthy then props
  else
    let presentation := (props.get "presentation").getD .undefined
    props.set "presentation"
      (withField presentation "options"
        (withField (presentation.field "options") "enableShadowDOM" (.bool true)))

/-- The callbacks that dispatch DOM events. -/
def callbacks : Value := .object [("onError", .function "onError"), ("onEvent", .function "onEvent")]

/-- What the component is rendered with. -/
def componentProps (shadow : Bool) (props : Fields) : Fields :=
  (if shadow then setShadow props else props).set "callbacks" callbacks

/-! ## The element -/

/-- An element. Before it is upgraded, properties that are set on it are its own. -/
structure WebComponent where
  attributes : OrderedMap String String
  own : Fields
  upgraded : Bool
  connected : Bool
  /-- Whether there is a mount point. -/
  mounted : Bool
  shadow : Bool
  renderQueued : Bool
  props : Fields
  /-- The calls of `renderInternal` in the microtask queue. -/
  microtasks : ℕ
  /-- What is rendered into the mount point. -/
  rendered : Option Fields

namespace WebComponent

/-- An element without attributes that is not upgraded. -/
def blank : WebComponent :=
  ⟨OrderedMap.empty, OrderedMap.empty, false, false, false, false, false, OrderedMap.empty, 0, none⟩

variable (options : CreateWebComponentOptions)

/-- Only called for the observed attributes. -/
def attributeChangedCallback (s : WebComponent) (name : String) (newValue : Value) : WebComponent :=
  match options.attributeNameMap.get name with
  | some propName => { s with props := s.props.set propName newValue }
  | none => s

def setAttribute (s : WebComponent) (qualifiedName value : String) : WebComponent :=
  let s' := { s with attributes := s.attributes.set (toLowerCase qualifiedName) value }
  if s.upgraded then s'.attributeChangedCallback options (toLowerCase qualifiedName) (.string value) else s'

def removeAttribute (s : WebComponent) (qualifiedName : String) : WebComponent :=
  if s.attributes.contains (toLowerCase qualifiedName) then
    let s' := { s with attributes := s.attributes.erase (toLowerCase qualifiedName) }
    if s.upgraded then s'.attributeChangedCallback options (toLowerCase qualifiedName) .null else s'
  else s

def queueRender (s : WebComponent) : WebComponent :=
  if s.renderQueued then s else { s with renderQueued := true, microtasks := s.microtasks + 1 }

/-- The setter of a property, `none` when it throws. -/
def setProp (s : WebComponent) (propName : String) (value : Value) : Option WebComponent :=
  if propName ∈ options.attributeNames then
    value.text.map fun text =>
      let s' := s.setAttribute options propName text
      queueRender { s' with props := s'.props.set propName value }
  else some (queueRender { s with props := s.props.set propName value })

/-- `element[propName] = value`. -/
def assignProp (s : WebComponent) (propName : String) (value : Value) : Option WebComponent :=
  if s.upgraded ∧ propName ∈ options.propNames then s.setProp options propName value
  else some { s with own := s.own.set propName value }

/-- `Object.assign`, which stops at a setter that throws. -/
def assign (s : WebComponent) : List (String × Value) → WebComponent
  | [] => s
  | (propName, value) :: fields =>
      match s.assignProp options propName value with
      | some s' => assign s' fields
      | none => s

def renderInternal (s : WebComponent) : WebComponent :=
  if ¬s.mounted then s
  else if s.props.keys = [] then { s with renderQueued := false }
  else { s with renderQueued := false, rendered := some (componentProps s.shadow s.props) }

def connectedCallback (s : WebComponent) : WebComponent :=
  let s' :=
    if s.mounted then s
    else if s.shadow then { s with mounted := true }.setAttribute options "shadow" "true"
    else { s with mounted := true }
  s'.queueRender

def disconnectedCallback (s : WebComponent) : WebComponent :=
  if s.mounted then { s with rendered := none } else s

/-- The constructor: attributes are reflected to properties, and properties that were set before go over
them. -/
def construct (s : WebComponent) (shadow : Option Bool) : WebComponent :=
  let props := options.observedAttributes.foldl (fun (props : Fields) attr =>
    match s.attributes.get attr, options.attributeNameMap.get attr with
    | some value, some propName => props.set propName (.string value)
    | _, _ => props) OrderedMap.empty
  let props := options.propNames.foldl (fun (props : Fields) propName =>
    match s.own.get propName with
    | some value => props.set propName value
    | none => props) props
  { s with upgraded := true, shadow := shadow.getD (s.attributes.contains "shadow"), props }

/-- The constructor and the reactions that an upgrade enqueues. -/
def upgrade (s : WebComponent) (shadow : Option Bool) : WebComponent :=
  let s' := s.attributes.entries.foldl (fun s e => attributeChangedCallback options s e.1 (.string e.2))
    (s.construct options shadow)
  if s.connected then s'.connectedCallback options else s'

inductive Action where
  | setAttribute (qualifiedName value : String)
  | removeAttribute (qualifiedName : String)
  | set (propName : String) (value : Value)
  /-- `render(props)`. -/
  | render (props : Fields)
  | upgrade (shadow : Option Bool)
  | connect
  | disconnect
  | flushRender
  | microtask

/-- One step, `none` when it is not possible. -/
def next (s : WebComponent) : Action → Option WebComponent
  | .setAttribute qualifiedName value => some (s.setAttribute options qualifiedName value)
  | .removeAttribute qualifiedName => some (s.removeAttribute options qualifiedName)
  | .set propName value => some ((s.assignProp options propName value).getD s)
  | .render props => if s.upgraded then some (s.assign options props.entries) else none
  | .upgrade shadow => if s.upgraded then none else some (s.upgrade options shadow)
  | .connect =>
      if s.connected then none
      else
        let s' := { s with connected := true }
        some (if s.upgraded then s'.connectedCallback options else s')
  | .disconnect =>
      if s.connected then
        let s' := { s with connected := false }
        some (if s.upgraded then s'.disconnectedCallback else s')
      else none
  | .flushRender => if s.upgraded then some s.renderInternal else none
  | .microtask =>
      if s.microtasks = 0 then none else some { s with microtasks := s.microtasks - 1 }.renderInternal

end WebComponent

/-- An element from its creation on. -/
def webComponent (options : CreateWebComponentOptions) : Machine WebComponent WebComponent.Action where
  init s := s = .blank
  next s a := s.next options a

namespace WebComponent

variable {options : CreateWebComponentOptions} {s s' : WebComponent}

/-! ## What a step changes -/

theorem mem_attributeNames {name propName : String} (h : options.attributeNameMap.get name = some propName) :
    propName ∈ options.attributeNames ∧ toLowerCase propName = name := by
  rw [CreateWebComponentOptions.attributeNameMap, OrderedMap.get_foldl_set_key, OrderedMap.get_empty,
    Option.or_none, Option.map_eq_some_iff] at h
  obtain ⟨attr, hlast, rfl⟩ := h
  obtain ⟨hmem, hlower⟩ := List.mem_filter.1 (List.mem_of_getLast? hlast)
  exact ⟨hmem, of_decide_eq_true hlower⟩

theorem keys_set_ne_nil (props : Fields) (k : String) (v : Value) : (props.set k v).keys ≠ [] := by
  intro hnil
  have hnone := ((props.set k v).get_eq_none_iff k).2 (by rw [hnil]; exact List.not_mem_nil)
  rw [OrderedMap.get_set, if_pos rfl] at hnone
  cases hnone

/-- The properties change by attributes only. -/
def Reflected (options : CreateWebComponentOptions) (props props' : Fields) : Prop :=
  (∀ name, name ∉ options.attributeNames → props'.get name = props.get name) ∧
    (props'.keys = [] → props.keys = [])

theorem Reflected.refl (props : Fields) : Reflected options props props := ⟨fun _ _ => rfl, id⟩

theorem attributeChangedCallback_eq (options : CreateWebComponentOptions) (s : WebComponent) (name : String)
    (newValue : Value) :
    ∃ props, s.attributeChangedCallback options name newValue = { s with props } ∧
      Reflected options s.props props := by
  unfold attributeChangedCallback
  cases hname : options.attributeNameMap.get name with
  | none => exact ⟨s.props, rfl, .refl _⟩
  | some propName =>
    refine ⟨s.props.set propName newValue, rfl, fun other hother => ?_, fun hnil => ?_⟩
    · rw [OrderedMap.get_set, if_neg]
      rintro rfl
      exact hother (mem_attributeNames hname).1
    · exact absurd hnil (keys_set_ne_nil _ _ _)

theorem setAttribute_eq (options : CreateWebComponentOptions) (s : WebComponent)
    (qualifiedName value : String) :
    ∃ attributes props, s.setAttribute options qualifiedName value = { s with attributes, props } ∧
      Reflected options s.props props := by
  unfold setAttribute
  dsimp only
  split_ifs
  · obtain ⟨props, heq, hreflected⟩ := attributeChangedCallback_eq options
      { s with attributes := s.attributes.set (toLowerCase qualifiedName) value }
      (toLowerCase qualifiedName) (.string value)
    exact ⟨_, props, heq, hreflected⟩
  · exact ⟨_, s.props, rfl, .refl _⟩

theorem removeAttribute_eq (options : CreateWebComponentOptions) (s : WebComponent) (qualifiedName : String) :
    ∃ attributes props, s.removeAttribute options qualifiedName = { s with attributes, props } ∧
      Reflected options s.props props := by
  unfold removeAttribute
  dsimp only
  split_ifs
  · obtain ⟨props, heq, hreflected⟩ := attributeChangedCallback_eq options
      { s with attributes := s.attributes.erase (toLowerCase qualifiedName) } (toLowerCase qualifiedName) .null
    exact ⟨_, props, heq, hreflected⟩
  · exact ⟨_, s.props, rfl, .refl _⟩
  · exact ⟨s.attributes, s.props, rfl, .refl _⟩

/-- A setter that does not throw changes properties and queues a render. -/
theorem assignProp_eq {propName : String} {value : Value}
    (h : s.assignProp options propName value = some s') :
    (∃ own, s' = { s with own }) ∨ s.upgraded = true ∧
      ∃ attributes props, props.keys ≠ [] ∧ s' = queueRender { s with attributes, props } := by
  unfold assignProp setProp at h
  split_ifs at h with hprop hattr
  · obtain ⟨text, -, rfl⟩ := Option.map_eq_some_iff.1 h
    obtain ⟨attributes, props, heq, -⟩ := setAttribute_eq options s propName text
    rw [heq]
    exact .inr ⟨hprop.1, attributes, _, keys_set_ne_nil _ _ _, rfl⟩
  · obtain rfl := Option.some.inj h
    exact .inr ⟨hprop.1, s.attributes, _, keys_set_ne_nil _ _ _, rfl⟩
  · obtain rfl := Option.some.inj h
    exact .inl ⟨_, rfl⟩

theorem reactions_eq (options : CreateWebComponentOptions) (l : List (String × String)) (s : WebComponent) :
    ∃ props, l.foldl (fun s e => attributeChangedCallback options s e.1 (.string e.2)) s = { s with props } := by
  induction l generalizing s with
  | nil => exact ⟨s.props, rfl⟩
  | cons e l ih =>
    obtain ⟨props, heq, -⟩ := attributeChangedCallback_eq options s e.1 (.string e.2)
    rw [List.foldl_cons, heq]
    exact ih _

/-! ## Renders -/

/-- What is shown for the properties; nothing without any. -/
def shown (shadow : Bool) (props : Fields) : Option Fields :=
  if props.keys = [] then none else some (componentProps shadow props)

/-- The element shows its properties, up to those that are attributes. -/
def Current (options : CreateWebComponentOptions) (s : WebComponent) : Prop :=
  ∃ props, s.rendered = shown s.shadow props ∧
    ∀ name, name ∉ options.attributeNames → props.get name = s.props.get name

structure Sound (options : CreateWebComponentOptions) (s : WebComponent) : Prop where
  blank : s.upgraded = false →
    s.mounted = false ∧ s.renderQueued = false ∧ s.microtasks = 0 ∧ s.rendered = none
  /-- Before there is a mount point nothing is rendered, and a call that is queued is the only one. -/
  waiting : s.mounted = false →
    s.microtasks ≤ 1 ∧ (s.renderQueued = false → s.microtasks = 0) ∧ s.rendered = none
  mounted : s.upgraded = true → s.connected = true → s.mounted = true
  empty : s.props.keys = [] → s.rendered = none
  current : s.upgraded = true → s.connected = true → s.renderQueued = false → Current options s

theorem queueRender_eq (s : WebComponent) : ∃ n, s.queueRender = { s with renderQueued := true, microtasks := n } ∧
    n = if s.renderQueued then s.microtasks else s.microtasks + 1 := by
  unfold queueRender
  split_ifs with hqueued
  · exact ⟨s.microtasks, by rw [← hqueued], rfl⟩
  · exact ⟨s.microtasks + 1, rfl, rfl⟩

theorem Sound.reflected (hs : Sound options s) (attributes : OrderedMap String String) {props : Fields}
    (hprops : Reflected options s.props props) : Sound options { s with attributes, props } where
  blank := hs.blank
  waiting := hs.waiting
  mounted := hs.mounted
  empty hnil := hs.empty (hprops.2 hnil)
  current hup hconnected hqueued := by
    obtain ⟨shown, hshown, hagree⟩ := hs.current hup hconnected hqueued
    exact ⟨shown, hshown, fun name hname => (hagree name hname).trans (hprops.1 name hname).symm⟩

theorem Sound.queueRender (hs : Sound options s) (hup : s.upgraded = true)
    (attributes : OrderedMap String String) {props : Fields} (hne : props.keys ≠ []) :
    Sound options (queueRender { s with attributes, props }) := by
  obtain ⟨n, heq, hn⟩ := queueRender_eq { s with attributes, props }
  rw [heq]
  refine ⟨fun h => ?_, fun hmounted => ⟨?_, nofun, (hs.waiting hmounted).2.2⟩, hs.mounted,
    fun hnil => absurd hnil hne, fun _ _ => nofun⟩
  · cases hup.symm.trans h
  · obtain ⟨hle, hzero, -⟩ := hs.waiting hmounted
    change n ≤ 1
    rw [hn]
    split_ifs with hqueued
    · exact hle
    · exact Nat.le_of_eq (congrArg (· + 1) (hzero (Bool.eq_false_iff.2 hqueued)))

theorem Sound.assignProp (hs : Sound options s) {propName : String} {value : Value}
    (h : s.assignProp options propName value = some s') : Sound options s' := by
  rcases assignProp_eq h with ⟨own, rfl⟩ | ⟨hup, attributes, props, hne, rfl⟩
  · exact ⟨hs.blank, hs.waiting, hs.mounted, hs.empty, hs.current⟩
  · exact hs.queueRender hup attributes hne

theorem Sound.assign (hs : Sound options s) (fields : List (String × Value)) :
    Sound options (s.assign options fields) := by
  induction fields generalizing s with
  | nil => exact hs
  | cons field fields ih =>
    obtain ⟨propName, value⟩ := field
    unfold WebComponent.assign
    cases h : s.assignProp options propName value with
    | none => exact hs
    | some s' => exact ih (hs.assignProp h)

theorem get_attributeChangedCallback_of_ne (s : WebComponent) {name : String} (newValue : Value)
    {other : String} (h : toLowerCase other ≠ name) :
    (s.attributeChangedCallback options name newValue).props.get other = s.props.get other := by
  unfold attributeChangedCallback
  cases hget : options.attributeNameMap.get name with
  | none => rfl
  | some propName =>
    refine (OrderedMap.get_set ..).trans (if_neg ?_)
    rintro rfl
    exact h (mem_attributeNames hget).2

/-- Only the mark for the shadow root is written. -/
theorem connectedCallback_eq (options : CreateWebComponentOptions) (s : WebComponent) :
    ∃ attributes props, s.connectedCallback options =
      queueRender { s with mounted := true, attributes, props } ∧ (props.keys = [] → s.props.keys = []) ∧
        ∀ name, toLowerCase name ≠ "shadow" → props.get name = s.props.get name := by
  unfold connectedCallback
  split_ifs with hmounted hshadow
  · exact ⟨s.attributes, s.props, by rw [← hmounted], id, fun _ _ => rfl⟩
  · obtain ⟨attributes, props, heq, hreflected⟩ :=
      setAttribute_eq options { s with mounted := true } "shadow" "true"
    refine ⟨attributes, props, by rw [heq], hreflected.2, fun name hname => ?_⟩
    have hget : (setAttribute options { s with mounted := true } "shadow" "true").props.get name =
        s.props.get name := by
      unfold setAttribute
      dsimp only
      split_ifs
      · have hlower : toLowerCase "shadow" = "shadow" := by decide
        exact get_attributeChangedCallback_of_ne _ _ (by rwa [hlower])
      · rfl
    rw [heq] at hget
    exact hget
  · exact ⟨s.attributes, s.props, rfl, id, fun _ _ => rfl⟩

theorem sound_connectedCallback (hup : s.upgraded = true) (hempty : s.props.keys = [] → s.rendered = none) :
    Sound options (s.connectedCallback options) := by
  obtain ⟨attributes, props, heq, hnil, -⟩ := connectedCallback_eq options s
  obtain ⟨n, hqueue, -⟩ := queueRender_eq { s with mounted := true, attributes, props }
  rw [heq, hqueue]
  refine ⟨fun h => ?_, nofun, fun _ _ => rfl, fun h => hempty (hnil h), fun _ _ => nofun⟩
  cases hup.symm.trans h

theorem Sound.upgrade (hs : Sound options s) (hup : s.upgraded = false) (shadow : Option Bool) :
    Sound options (s.upgrade options shadow) := by
  obtain ⟨hmounted, hqueued, htasks, hrendered⟩ := hs.blank hup
  obtain ⟨props, heq⟩ := reactions_eq options s.attributes.entries (s.construct options shadow)
  unfold WebComponent.upgrade
  dsimp only
  rw [heq]
  split_ifs with hconnected
  · exact sound_connectedCallback rfl fun _ => hrendered
  · refine ⟨nofun, fun _ => ⟨?_, fun _ => htasks, hrendered⟩,
      fun _ h => absurd h hconnected, fun _ => hrendered, fun _ h => absurd h hconnected⟩
    change s.microtasks ≤ 1
    rw [htasks]
    exact Nat.zero_le 1

theorem renderInternal_of_not_mounted (h : s.mounted = false) : s.renderInternal = s :=
  if_pos (by rw [h]; decide)

theorem renderInternal_eq (s : WebComponent) :
    ∃ renderQueued rendered, s.renderInternal = { s with renderQueued, rendered } := by
  unfold renderInternal
  split_ifs
  · exact ⟨false, s.rendered, rfl⟩
  · exact ⟨false, _, rfl⟩
  · exact ⟨s.renderQueued, s.rendered, rfl⟩

/-- With a mount point, the properties are shown. -/
theorem renderInternal_of_mounted (h : s.mounted = true) (hempty : s.props.keys = [] → s.rendered = none) :
    s.renderInternal = { s with renderQueued := false, rendered := shown s.shadow s.props } := by
  unfold renderInternal shown
  rw [if_neg (not_not.2 h)]
  split_ifs with hnil
  · rw [hempty hnil]
  · rfl

theorem Sound.renderInternal (hs : Sound options s) : Sound options s.renderInternal := by
  cases hmounted : s.mounted with
  | false =>
    rw [renderInternal_of_not_mounted hmounted]
    exact hs
  | true =>
    rw [renderInternal_of_mounted hmounted hs.empty]
    refine ⟨fun h => ?_, fun h => ?_, hs.mounted, fun h => if_pos h,
      fun _ _ _ => ⟨s.props, rfl, fun _ _ => rfl⟩⟩
    · cases (hs.blank h).1.symm.trans hmounted
    · cases hmounted.symm.trans h

/-- Taking a call from the queue. -/
theorem Sound.microtask (hs : Sound options s) (htasks : s.microtasks ≠ 0) :
    Sound options { s with microtasks := s.microtasks - 1 }.renderInternal := by
  rcases Bool.eq_false_or_eq_true s.mounted with hmounted | hmounted
  · rw [renderInternal_of_mounted (s := { s with microtasks := s.microtasks - 1 }) hmounted hs.empty]
    refine ⟨fun h => ?_, fun h => ?_, hs.mounted, fun h => if_pos h,
      fun _ _ _ => ⟨s.props, rfl, fun _ _ => rfl⟩⟩
    · cases (hs.blank h).1.symm.trans hmounted
    · cases hmounted.symm.trans h
  · obtain ⟨hle, hzero, hrendered⟩ := hs.waiting hmounted
    rw [renderInternal_of_not_mounted (s := { s with microtasks := s.microtasks - 1 }) hmounted]
    refine ⟨fun h => absurd (hs.blank h).2.2.1 htasks, fun _ => ⟨?_, fun h => absurd (hzero h) htasks, hrendered⟩,
      hs.mounted, hs.empty, hs.current⟩
    change s.microtasks - 1 ≤ 1
    omega

theorem Sound.next (hs : Sound options s) {a : Action} (hn : s.next options a = some s') :
    Sound options s' := by
  cases a with
  | setAttribute qualifiedName value =>
    obtain ⟨attributes, props, heq, hreflected⟩ := setAttribute_eq options s qualifiedName value
    obtain rfl := Option.some.inj hn
    rw [heq]
    exact hs.reflected attributes hreflected
  | removeAttribute qualifiedName =>
    obtain ⟨attributes, props, heq, hreflected⟩ := removeAttribute_eq options s qualifiedName
    obtain rfl := Option.some.inj hn
    rw [heq]
    exact hs.reflected attributes hreflected
  | set propName value =>
    obtain rfl := Option.some.inj hn
    cases h : s.assignProp options propName value with
    | none => exact hs
    | some s' => exact hs.assignProp h
  | render props =>
    unfold WebComponent.next at hn
    dsimp only at hn
    split_ifs at hn
    obtain rfl := Option.some.inj hn
    exact hs.assign props.entries
  | upgrade shadow =>
    unfold WebComponent.next at hn
    dsimp only at hn
    split_ifs at hn with hup
    obtain rfl := Option.some.inj hn
    exact hs.upgrade (Bool.eq_false_iff.2 hup) shadow
  | connect =>
    unfold WebComponent.next at hn
    dsimp only at hn
    split_ifs at hn with hconnected hup
    · obtain rfl := Option.some.inj hn
      exact sound_connectedCallback hup hs.empty
    · obtain rfl := Option.some.inj hn
      exact ⟨hs.blank, hs.waiting, fun h => absurd h hup, hs.empty, fun h => absurd h hup⟩
  | disconnect =>
    unfold WebComponent.next disconnectedCallback at hn
    dsimp only at hn
    split_ifs at hn with hconnected hup hmounted
    · obtain rfl := Option.some.inj hn
      exact ⟨fun h => absurd hup (by rw [h]; decide), fun h => absurd hmounted (by rw [h]; decide), nofun,
        fun _ => rfl, nofun⟩
    · obtain rfl := Option.some.inj hn
      exact ⟨hs.blank, hs.waiting, nofun, hs.empty, nofun⟩
    · obtain rfl := Option.some.inj hn
      exact ⟨hs.blank, hs.waiting, nofun, hs.empty, nofun⟩
  | flushRender =>
    unfold WebComponent.next at hn
    dsimp only at hn
    split_ifs at hn
    obtain rfl := Option.some.inj hn
    exact hs.renderInternal
  | microtask =>
    unfold WebComponent.next at hn
    dsimp only at hn
    split_ifs at hn with htasks
    obtain rfl := Option.some.inj hn
    exact hs.microtask htasks

variable {C : Machine.Guard WebComponent Action} {h : List Action}

theorem sound (hr : (webComponent options).Reach C h s) : Sound options s := by
  refine hr.invariant (I := fun _ s => Sound options s) ?_ fun _ _ _ _ hs _ hn => hs.next hn
  rintro s rfl
  exact ⟨fun _ => ⟨rfl, rfl, rfl, rfl⟩, fun _ => ⟨Nat.zero_le 1, fun _ => rfl, rfl⟩, nofun,
    fun _ => rfl, nofun⟩

/-! ## Forgotten renders -/

/-- A render is taken for queued that is not: nothing is rendered until `flushRender` is called. -/
def Forgotten (s : WebComponent) : Prop := s.renderQueued = true ∧ s.microtasks = 0

/-- A queued render comes before there is a mount point. -/
def Early (s : WebComponent) (a : Action) : Prop := a = .microtask ∧ s.mounted = false

/-- A call of `flushRender` with a mount point. -/
def Flushed (s : WebComponent) (a : Action) : Prop := a = .flushRender ∧ s.mounted = true

/-- Nothing is rendered by the step. -/
def Unrendered (s s' : WebComponent) : Prop :=
  (Forgotten s' ↔ Forgotten s) ∧ (s.rendered = none → s'.rendered = none)

theorem Unrendered.refl (s : WebComponent) : Unrendered s s := ⟨.rfl, id⟩

theorem unrendered_queueRender (s : WebComponent) : Unrendered s s.queueRender := by
  obtain ⟨n, heq, hn⟩ := queueRender_eq s
  rw [heq]
  refine ⟨?_, id⟩
  unfold Forgotten
  dsimp only
  rw [hn]
  cases hqueued : s.renderQueued <;> simp

theorem unrendered_assignProp {propName : String} {value : Value}
    (h : s.assignProp options propName value = some s') : Unrendered s s' := by
  rcases assignProp_eq h with ⟨own, rfl⟩ | ⟨-, attributes, props, -, rfl⟩
  · exact .refl s
  · exact unrendered_queueRender { s with attributes, props }

theorem unrendered_assign (s : WebComponent) (fields : List (String × Value)) :
    Unrendered s (s.assign options fields) := by
  induction fields generalizing s with
  | nil => exact .refl s
  | cons field fields ih =>
    obtain ⟨propName, value⟩ := field
    unfold WebComponent.assign
    cases h : s.assignProp options propName value with
    | none => exact .refl s
    | some s' =>
      obtain ⟨hforgotten, hrendered⟩ := unrendered_assignProp h
      exact ⟨(ih s').1.trans hforgotten, fun hnone => (ih s').2 (hrendered hnone)⟩

theorem unrendered_connectedCallback (s : WebComponent) : Unrendered s (s.connectedCallback options) := by
  obtain ⟨attributes, props, heq, -⟩ := connectedCallback_eq options s
  rw [heq]
  exact unrendered_queueRender { s with mounted := true, attributes, props }

/-- Only calls of `renderInternal` make a difference. -/
theorem unrendered_next {a : Action} (hn : s.next options a = some s') (hflush : a ≠ .flushRender)
    (htask : a ≠ .microtask) : Unrendered s s' := by
  cases a with
  | setAttribute qualifiedName value =>
    obtain ⟨attributes, props, heq, -⟩ := setAttribute_eq options s qualifiedName value
    obtain rfl := Option.some.inj hn
    rw [heq]
    exact .refl s
  | removeAttribute qualifiedName =>
    obtain ⟨attributes, props, heq, -⟩ := removeAttribute_eq options s qualifiedName
    obtain rfl := Option.some.inj hn
    rw [heq]
    exact .refl s
  | set propName value =>
    obtain rfl := Option.some.inj hn
    cases h : s.assignProp options propName value with
    | none => exact .refl s
    | some s' => exact unrendered_assignProp h
  | render props =>
    unfold WebComponent.next at hn
    dsimp only at hn
    split_ifs at hn
    obtain rfl := Option.some.inj hn
    exact unrendered_assign s props.entries
  | upgrade shadow =>
    unfold WebComponent.next WebComponent.upgrade at hn
    dsimp only at hn
    obtain ⟨props, heq⟩ := reactions_eq options s.attributes.entries (s.construct options shadow)
    rw [heq] at hn
    split_ifs at hn
    · obtain rfl := Option.some.inj hn
      exact unrendered_connectedCallback { s.construct options shadow with props }
    · obtain rfl := Option.some.inj hn
      exact .refl s
  | connect =>
    unfold WebComponent.next at hn
    dsimp only at hn
    split_ifs at hn
    · obtain rfl := Option.some.inj hn
      exact unrendered_connectedCallback { s with connected := true }
    · obtain rfl := Option.some.inj hn
      exact .refl s
  | disconnect =>
    unfold WebComponent.next disconnectedCallback at hn
    dsimp only at hn
    split_ifs at hn
    · obtain rfl := Option.some.inj hn
      exact ⟨.rfl, fun _ => rfl⟩
    · obtain rfl := Option.some.inj hn
      exact .refl s
    · obtain rfl := Option.some.inj hn
      exact .refl s
  | flushRender => exact absurd rfl hflush
  | microtask => exact absurd rfl htask

/-- With a mount point nothing is forgotten by `renderInternal`. -/
theorem not_forgotten_renderInternal (h : s.mounted = true) : ¬Forgotten s.renderInternal := by
  unfold renderInternal
  rw [if_neg (not_not.2 h)]
  split_ifs <;> exact fun hf => Bool.false_ne_true hf.1

theorem next_flushRender (hn : s.next options .flushRender = some s') : s' = s.renderInternal := by
  unfold WebComponent.next at hn
  dsimp only at hn
  split_ifs at hn
  exact (Option.some.inj hn).symm

theorem next_microtask (hn : s.next options .microtask = some s') :
    s.microtasks ≠ 0 ∧ s' = { s with microtasks := s.microtasks - 1 }.renderInternal := by
  unfold WebComponent.next at hn
  dsimp only at hn
  split_ifs at hn with htasks
  exact ⟨htasks, (Option.some.inj hn).symm⟩

theorem since_of_forgotten (hr : (webComponent options).Reach Machine.anyStep h s) (hf : Forgotten s) :
    (webComponent options).Since Machine.anyStep Early Flushed h s := by
  induction hr with
  | start hinit =>
    obtain rfl := hinit
    cases hf.1
  | @step h s s' a hr hc hn ih =>
    have hnext : s.next options a = some s' := hn
    by_cases hflush : a = .flushRender
    · subst hflush
      obtain rfl := next_flushRender hnext
      rcases Bool.eq_false_or_eq_true s.mounted with hmounted | hmounted
      · exact absurd hf (not_forgotten_renderInternal hmounted)
      · rw [renderInternal_of_not_mounted hmounted] at hf
        exact .later (ih hf) hc hn fun hflushed => by cases hmounted.symm.trans hflushed.2
    by_cases htask : a = .microtask
    · subst htask
      obtain ⟨-, rfl⟩ := next_microtask hnext
      rcases Bool.eq_false_or_eq_true s.mounted with hmounted | hmounted
      · exact absurd hf (not_forgotten_renderInternal hmounted)
      · exact .now hr hc hn ⟨rfl, hmounted⟩
    exact .later (ih ((unrendered_next hnext hflush htask).1.1 hf)) hc hn fun hflushed => hflush hflushed.1

theorem forgotten_of_since (hs : (webComponent options).Since Machine.anyStep Early Flushed h s) :
    Forgotten s ∧ s.rendered = none := by
  refine hs.invariant (J := fun s => Forgotten s ∧ s.rendered = none) ?_ ?_
  · rintro h s a s' hr - hn ⟨rfl, hmounted⟩
    have hnext : s.next options .microtask = some s' := hn
    obtain ⟨htasks, rfl⟩ := next_microtask hnext
    obtain ⟨hle, hzero, hrendered⟩ := (sound hr).waiting hmounted
    rw [renderInternal_of_not_mounted (s := { s with microtasks := s.microtasks - 1 }) hmounted]
    refine ⟨⟨?_, ?_⟩, hrendered⟩
    · by_contra hqueued
      exact htasks (hzero (Bool.eq_false_iff.2 hqueued))
    · change s.microtasks - 1 = 0
      omega
  · rintro h s a s' - ⟨hf, hrendered⟩ - hn hq
    have hnext : s.next options a = some s' := hn
    by_cases hflush : a = .flushRender
    · subst hflush
      obtain rfl := next_flushRender hnext
      rcases Bool.eq_false_or_eq_true s.mounted with hmounted | hmounted
      · exact absurd ⟨rfl, hmounted⟩ hq
      · rw [renderInternal_of_not_mounted hmounted]
        exact ⟨hf, hrendered⟩
    by_cases htask : a = .microtask
    · subst htask
      exact absurd hf.2 (next_microtask hnext).1
    obtain ⟨hforgotten, hkept⟩ := unrendered_next hnext hflush htask
    exact ⟨hforgotten.2 hf, hkept hrendered⟩

/-! ## What is shown -/

/-- The element is rendered while it is connected. -/
def Renders (s : WebComponent) (a : Action) : Prop :=
  (a = .flushRender ∨ a = .microtask) ∧ s.upgraded = true ∧ s.connected = true

/-- An attribute is changed, or the element is disconnected. -/
def Disturbs (_ : WebComponent) (a : Action) : Prop :=
  (∃ qualifiedName value, a = .setAttribute qualifiedName value) ∨
    (∃ qualifiedName, a = .removeAttribute qualifiedName) ∨ a = .disconnect

/-- The element is connected and shows its properties, unless a render is queued. -/
structure Shown (s : WebComponent) : Prop where
  upgraded : s.upgraded = true
  connected : s.connected = true
  rendered : s.renderQueued = false → s.rendered = shown s.shadow s.props

theorem Shown.assign (hs : Shown s) (fields : List (String × Value)) : Shown (s.assign options fields) := by
  induction fields generalizing s with
  | nil => exact hs
  | cons field fields ih =>
    obtain ⟨propName, value⟩ := field
    unfold WebComponent.assign
    cases h : s.assignProp options propName value with
    | none => exact hs
    | some s' =>
      refine ih ?_
      rcases assignProp_eq h with ⟨own, rfl⟩ | ⟨-, attributes, props, -, rfl⟩
      · exact ⟨hs.upgraded, hs.connected, hs.rendered⟩
      · obtain ⟨n, heq, -⟩ := queueRender_eq { s with attributes, props }
        rw [heq]
        exact ⟨hs.upgraded, hs.connected, nofun⟩

theorem assign_singleton (s : WebComponent) (propName : String) (value : Value) :
    (s.assignProp options propName value).getD s = s.assign options [(propName, value)] := by
  unfold WebComponent.assign
  cases s.assignProp options propName value <;> rfl

theorem shown_of_since (hs : (webComponent options).Since Machine.anyStep Renders Disturbs h s) : Shown s := by
  refine hs.invariant ?_ ?_
  · rintro h s a s' hr - hn ⟨ha, hup, hconnected⟩
    have hnext : s.next options a = some s' := hn
    have hsound := sound hr
    have hmounted := hsound.mounted hup hconnected
    rcases ha with rfl | rfl
    · obtain rfl := next_flushRender hnext
      rw [renderInternal_of_mounted hmounted hsound.empty]
      exact ⟨hup, hconnected, fun _ => rfl⟩
    · obtain ⟨-, rfl⟩ := next_microtask hnext
      rw [renderInternal_of_mounted (s := { s with microtasks := s.microtasks - 1 }) hmounted hsound.empty]
      exact ⟨hup, hconnected, fun _ => rfl⟩
  · intro h s a s' hsince hshown _ hn hq
    have hnext : s.next options a = some s' := hn
    have hsound := sound hsince.reach
    have hmounted := hsound.mounted hshown.upgraded hshown.connected
    cases a with
    | setAttribute qualifiedName value => exact absurd (.inl ⟨_, _, rfl⟩) hq
    | removeAttribute qualifiedName => exact absurd (.inr (.inl ⟨_, rfl⟩)) hq
    | set propName value =>
      obtain rfl := Option.some.inj hn
      rw [assign_singleton]
      exact hshown.assign _
    | render props =>
      change (if s.upgraded then _ else none) = _ at hn
      rw [if_pos hshown.upgraded] at hn
      obtain rfl := Option.some.inj hn
      exact hshown.assign _
    | upgrade shadow =>
      change (if s.upgraded then none else _) = _ at hn
      rw [if_pos hshown.upgraded] at hn
      cases hn
    | connect =>
      change (if s.connected then none else _) = _ at hn
      rw [if_pos hshown.connected] at hn
      cases hn
    | disconnect => exact absurd (.inr (.inr rfl)) hq
    | flushRender =>
      obtain rfl := next_flushRender hnext
      rw [renderInternal_of_mounted hmounted hsound.empty]
      exact ⟨hshown.upgraded, hshown.connected, fun _ => rfl⟩
    | microtask =>
      obtain ⟨-, rfl⟩ := next_microtask hnext
      rw [renderInternal_of_mounted (s := { s with microtasks := s.microtasks - 1 }) hmounted hsound.empty]
      exact ⟨hshown.upgraded, hshown.connected, fun _ => rfl⟩

/-- When no call is queued, a connected element shows nothing where a queued render came before it was
connected and there was no `flushRender` since. Otherwise it shows its properties, up to those that are
attributes, and all of them if no attribute has changed since a render. -/
theorem rendered_props (hr : (webComponent options).Reach Machine.anyStep h s) (hup : s.upgraded = true)
    (hconnected : s.connected = true) (htasks : s.microtasks = 0) :
    ((webComponent options).Since Machine.anyStep Early Flushed h s → s.rendered = none) ∧
      (¬(webComponent options).Since Machine.anyStep Early Flushed h s → Current options s ∧
        ((webComponent options).Since Machine.anyStep Renders Disturbs h s →
          s.rendered = shown s.shadow s.props)) := by
  refine ⟨fun hs => (forgotten_of_since hs).2, fun hs => ?_⟩
  have hqueued : s.renderQueued = false :=
    Bool.eq_false_iff.2 fun hqueued => hs (since_of_forgotten hr ⟨hqueued, htasks⟩)
  exact ⟨(sound hr).current hup hconnected hqueued, fun hshown => (shown_of_since hshown).rendered hqueued⟩

/-- The component that logs in. -/
def stytchUI : CreateWebComponentOptions := ⟨["client", "config", "presentation", "callbacks", "strings"], []⟩

/-- An element that is connected a tick after it was given its properties stays empty. -/
theorem rendered_props_late : ∃ (h : List Action) (s : WebComponent),
    (webComponent stytchUI).Reach Machine.anyStep h s ∧ s.connected = true ∧
      s.props.get "config" = some (.object []) ∧ s.rendered = none := by
  have hr := Machine.Reach.start (M := webComponent stytchUI) (C := Machine.anyStep) rfl
  have hr := hr.step (a := .upgrade none) trivial rfl
  have hr := hr.step (a := .set "config" (.object [])) trivial rfl
  have hs := Machine.Since.now (p := Early) (q := Flushed) (a := .microtask) hr trivial rfl ⟨rfl, rfl⟩
  have hs := hs.later (a := .connect) trivial rfl fun hflushed => by cases hflushed.1
  exact ⟨_, _, hs.reach, rfl, rfl, (rendered_props hs.reach rfl rfl rfl).1 hs⟩

end WebComponent

end StytchBrowser.VanillaJs
