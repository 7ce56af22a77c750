import StytchBrowser.Web.B2BUI.SlugPattern

/-!
# `styleToTheme`

A legacy style configuration is turned into a theme by a sequence of assignments to an object. A
later assignment also writes the members that are `undefined`.

* `withColors`, `withContainer`, `withButtons`, `withInputs`: the assignments;
* `styleToTheme_own`, `styleToTheme_shared`: what the colors of the theme are;
* `styleToTheme_roundedBase`, `styleToTheme_buttonRadius`, `styleToTheme_inputRadius`: what the radii
  are.
-/

namespace StytchBrowser.Web.Compat

/-! ## The configuration and the theme -/

structure Colors where
  primary : Option String
  secondary : Option String
  success : Option String
  warning : Option String
  accent : Option String
  error : Option String

structure Container where
  backgroundColor : Option String
  borderColor : Option String
  width : Option String
  borderRadius : Option String

/-- The style of the primary or secondary buttons; their border color is only logged. -/
structure Button where
  backgroundColor : Option String
  textColor : Option String
  borderRadius : Option String

structure Buttons where
  primary : Option Button
  secondary : Option Button

/-- The style of the inputs; their background color is only logged. -/
structure Inputs where
  textColor : Option String
  placeholderColor : Option String
  borderColor : Option String
  borderRadius : Option String

structure StyleConfig where
  colors : Option Colors
  container : Option Container
  inputs : Option Inputs
  hideHeaderText : Option Bool
  buttons : Option Buttons
  /-- `logo`, with its `logoImageUrl`. -/
  logo : Option (Option String)
  fontFamily : Option String

/-- The keys of `Theme` that are written. -/
inductive ThemeVariable where
  | fontFamily
  | primary
  | primaryForeground
  | secondary
  | secondaryForeground
  | success
  | warning
  | accent
  | destructive
  | background
  | foreground
  | mutedForeground
  | border
  | input
  | containerWidth
  | roundedBase
  | buttonRadius
  | inputRadius
  deriving DecidableEq

/-- The values of a theme; `none` is `undefined`. -/
abbrev Theme := ThemeVariable → Option String

structure PresentationOptions where
  hideHeaderText : Option Bool
  /-- The `url` and `alt` of the logo. -/
  logo : Option (String × String)
  deriving DecidableEq

/-- A string as a condition: it is there and not empty. -/
def truthy (s : Option String) : Bool := s.any (· ≠ "")

/-- `Object.assign(theme, values)`. -/
def assign (theme : Theme) (values : List (ThemeVariable × Option String)) : Theme := fun v =>
  (values.lookup v).getD (theme v)

/-! ## Lengths -/

/-- `parseFloat` reads a number at the start: digits, a point with digits, or `Infinity`. -/
def startsWithNumber (text : List Char) : Bool :=
  match text with
  | '.' :: c :: _ => c.isDigit
  | c :: _ => c.isDigit || "Infinity".toList.isPrefixOf text
  | [] => false

/-- `Number.isNaN(parseFloat(length))`. -/
def isNaN (length : String) : Bool :=
  match length.toList.dropWhile B2B.isSpace with
  | '+' :: text | '-' :: text => !startsWithNumber text
  | text => !startsWithNumber text

/-- `updateLength`, with the factor as it is written. -/
def updateLength (length : Option String) (factor : String) : Option String :=
  match length with
  | none => none
  | some length =>
      if length = "" then some length
      else if isNaN length then some length
      else some ("calc(" ++ length ++ " * " ++ factor ++ ")")

/-! ## The assignments -/

def withColors (theme : Theme) : Option Colors → Theme
  | none => theme
  | some colors =>
      assign theme [(.primary, colors.primary), (.secondary, colors.secondary),
        (.success, colors.success), (.warning, colors.warning), (.accent, colors.accent),
        (.destructive, colors.error)]

def withContainer (theme : Theme) : Option Container → Theme
  | none => theme
  | some container =>
      assign theme [(.background, container.backgroundColor), (.border, container.borderColor),
        (.containerWidth, container.width),
        (.roundedBase, updateLength container.borderRadius "0.25")]

/-- The border radius of the buttons. -/
def setButtonRadius (theme : Theme) (primaryRadius secondaryRadius : Option String) : Theme :=
  if truthy primaryRadius || truthy secondaryRadius then
    let baseRadius := (updateLength primaryRadius "0.5").or (updateLength secondaryRadius "0.5")
    if truthy (theme .roundedBase) then
      if theme .roundedBase ≠ baseRadius then assign theme [(.buttonRadius, primaryRadius)]
      else theme
    else assign theme [(.roundedBase, baseRadius)]
  else theme

def withButtons (theme : Theme) : Option Buttons → Theme
  | none => theme
  | some buttons =>
      let theme := assign theme
        [(.primary, buttons.primary.bind (·.backgroundColor)),
          (.primaryForeground, buttons.primary.bind (·.textColor)),
          (.secondary, buttons.secondary.bind (·.backgroundColor)),
          (.secondaryForeground, buttons.secondary.bind (·.textColor))]
      setButtonRadius theme (buttons.primary.bind (·.borderRadius))
        (buttons.secondary.bind (·.borderRadius))

/-- The border radius of the inputs. -/
def setInputRadius (theme : Theme) (borderRadius : Option String) : Theme :=
  if truthy (theme .roundedBase) then
    if theme .roundedBase ≠ borderRadius then assign theme [(.inputRadius, borderRadius)]
    else theme
  else assign theme [(.roundedBase, borderRadius)]

def withInputs (theme : Theme) : Option Inputs → Theme
  | none => theme
  | some inputs =>
      let theme := assign theme [(.foreground, inputs.textColor), (.input, inputs.borderColor),
        (.mutedForeground, inputs.placeholderColor)]
      setInputRadius theme inputs.borderRadius

/-- `removeEmptyValues`. -/
def removeEmptyValues (theme : Theme) : Theme := fun v => (theme v).filter (· ≠ "")

def styleToTheme (styleConfig : StyleConfig) : Theme × PresentationOptions :=
  let theme := assign (fun _ => none) [(.fontFamily, styleConfig.fontFamily)]
  let theme := withColors theme styleConfig.colors
  let theme := withContainer theme styleConfig.container
  let theme := withButtons theme styleConfig.buttons
  let theme := withInputs theme styleConfig.inputs
  let logo := styleConfig.logo.bind fun logoImageUrl =>
    if truthy logoImageUrl then logoImageUrl.map (·, "") else none
  (removeEmptyValues theme, ⟨styleConfig.hideHeaderText, logo⟩)

/-! ## The settings -/

/-- The colors and radii of the legacy style that have a place in the theme. -/
inductive Setting where
  | colorsPrimary
  | colorsSecondary
  | colorsSuccess
  | colorsWarning
  | colorsAccent
  | colorsError
  | containerBackground
  | containerBorder
  | containerRadius
  | primaryBackground
  | primaryText
  | primaryRadius
  | secondaryBackground
  | secondaryText
  | secondaryRadius
  | inputsText
  | inputsPlaceholder
  | inputsBorder
  | inputsRadius
  deriving DecidableEq

namespace Setting

/-- The value of a setting. -/
def value (config : StyleConfig) : Setting → Option String
  | colorsPrimary => config.colors.bind (·.primary)
  | colorsSecondary => config.colors.bind (·.secondary)
  | colorsSuccess => config.colors.bind (·.success)
  | colorsWarning => config.colors.bind (·.warning)
  | colorsAccent => config.colors.bind (·.accent)
  | colorsError => config.colors.bind (·.error)
  | containerBackground => config.container.bind (·.backgroundColor)
  | containerBorder => config.container.bind (·.borderColor)
  | containerRadius => config.container.bind (·.borderRadius)
  | primaryBackground => config.buttons.bind fun b => b.primary.bind (·.backgroundColor)
  | primaryText => config.buttons.bind fun b => b.primary.bind (·.textColor)
  | primaryRadius => config.buttons.bind fun b => b.primary.bind (·.borderRadius)
  | secondaryBackground => config.buttons.bind fun b => b.secondary.bind (·.backgroundColor)
  | secondaryText => config.buttons.bind fun b => b.secondary.bind (·.textColor)
  | secondaryRadius => config.buttons.bind fun b => b.secondary.bind (·.borderRadius)
  | inputsText => config.inputs.bind (·.textColor)
  | inputsPlaceholder => config.inputs.bind (·.placeholderColor)
  | inputsBorder => config.inputs.bind (·.borderColor)
  | inputsRadius => config.inputs.bind (·.borderRadius)

/-- A setting is specified: its value is not empty. -/
def Specified (config : StyleConfig) (s : Setting) : Prop := truthy (s.value config) = true

/-- The more specific setting that overrides another. The theme has one radius for all buttons, which
is that of the primary ones when they have one. -/
def override : Setting → Option Setting
  | colorsPrimary => some primaryBackground
  | colorsSecondary => some secondaryBackground
  | secondaryRadius => some primaryRadius
  | _ => none

/-- The variables that a setting governs, each with what it is set to; a radius is written as an
override or, converted, as the base radius. -/
def governs (value : Option String) : Setting → List (ThemeVariable × Option String)
  | colorsPrimary => [(.primary, value)]
  | colorsSecondary => [(.secondary, value)]
  | colorsSuccess => [(.success, value)]
  | colorsWarning => [(.warning, value)]
  | colorsAccent => [(.accent, value)]
  | colorsError => [(.destructive, value)]
  | containerBackground => [(.background, value)]
  | containerBorder => [(.border, value)]
  | containerRadius => [(.roundedBase, updateLength value "0.25")]
  | primaryBackground => [(.primary, value)]
  | primaryText => [(.primaryForeground, value)]
  | primaryRadius => [(.buttonRadius, value), (.roundedBase, updateLength value "0.5")]
  | secondaryBackground => [(.secondary, value)]
  | secondaryText => [(.secondaryForeground, value)]
  | secondaryRadius => [(.buttonRadius, value), (.roundedBase, updateLength value "0.5")]
  | inputsText => [(.foreground, value)]
  | inputsPlaceholder => [(.mutedForeground, value)]
  | inputsBorder => [(.input, value)]
  | inputsRadius => [(.inputRadius, value), (.roundedBase, value)]

/-- A setting appears in a theme. -/
def Appears (theme : Theme) (value : Option String) (s : Setting) : Prop :=
  ∃ e ∈ s.governs value, theme e.1 = e.2

end Setting

/-- A setting that is specified appears in the theme, unless a more specific setting that is itself
specified overrides it. -/
def Setting.Kept (config : StyleConfig) (s : Setting) : Prop :=
  s.Specified config → (∃ t, s.override = some t ∧ t.Specified config) ∨
    s.Appears (styleToTheme config).1 (s.value config)

/-! ## The variables of the theme -/

theorem filter_of_not_truthy {o : Option String} (h : ¬truthy o = true) :
    o.filter (· ≠ "") = none := by
  cases o with
  | none => rfl
  | some x => simpa [truthy] using h

theorem filter_eq_iff {o x : Option String} (hx : truthy x = true) :
    o.filter (· ≠ "") = x ↔ o = x := by
  by_cases ho : truthy o = true
  · cases o with
    | none => rfl
    | some y =>
      have hy : y ≠ "" := by simpa [truthy] using ho
      rw [Option.filter_some, if_pos (decide_eq_true hy)]
  · rw [filter_of_not_truthy ho]
    constructor
    · rintro rfl
      exact absurd hx Bool.false_ne_true
    · rintro rfl
      exact absurd hx ho

theorem truthy_updateLength (length : Option String) (factor : String) :
    truthy (updateLength length factor) = truthy length := by
  cases length with
  | none => rfl
  | some length =>
    unfold updateLength
    dsimp only
    split_ifs with hempty hnan
    · rfl
    · rfl
    · have hcalc : "calc(" ++ length ++ " * " ++ factor ++ ")" ≠ "" := by
        intro h
        have := congrArg String.toList h
        simp at this
      simp [truthy, hempty, hcalc]

theorem assign_other {theme : Theme} {values : List (ThemeVariable × Option String)}
    {v : ThemeVariable} (h : v ∉ values.map Prod.fst) : assign theme values v = theme v := by
  have hnone : values.lookup v = none := by
    refine List.lookup_eq_none_iff.2 fun e he => bne_iff_ne.2 fun hv => h ?_
    rw [hv]
    exact List.mem_map_of_mem he
  rw [assign, hnone]
  rfl

theorem assign_one_other (theme : Theme) {v w : ThemeVariable} (h : v ≠ w) (x : Option String) :
    assign theme [(w, x)] v = theme v :=
  assign_other (by simpa using h)

theorem assign_one_self (theme : Theme) (v : ThemeVariable) (x : Option String) :
    assign theme [(v, x)] v = x := by
  rw [assign, List.lookup_cons_self]
  rfl

theorem setButtonRadius_other (theme : Theme) (p s : Option String) {v : ThemeVariable}
    (hbase : v ≠ .roundedBase) (hradius : v ≠ .buttonRadius) :
    setButtonRadius theme p s v = theme v := by
  unfold setButtonRadius
  dsimp only
  split_ifs
  · exact assign_one_other theme hradius p
  · rfl
  · exact assign_one_other theme hbase _
  · rfl

theorem setButtonRadius_roundedBase (theme : Theme) (p s : Option String) :
    setButtonRadius theme p s .roundedBase =
      if (truthy p || truthy s) && !truthy (theme .roundedBase) then
        (updateLength p "0.5").or (updateLength s "0.5")
      else theme .roundedBase := by
  unfold setButtonRadius
  dsimp only
  split_ifs with hspecified hbase hne h h h h
  · simp [hbase] at h
  · exact assign_one_other theme (by decide) p
  · simp [hbase] at h
  · rfl
  · exact assign_one_self theme .roundedBase _
  · simp [hspecified, hbase] at h
  · simp [hspecified] at h
  · rfl

theorem setButtonRadius_buttonRadius (theme : Theme) (p s : Option String) :
    setButtonRadius theme p s .buttonRadius =
      if (truthy p || truthy s) && truthy (theme .roundedBase) &&
          theme .roundedBase ≠ (updateLength p "0.5").or (updateLength s "0.5") then p
      else theme .buttonRadius := by
  unfold setButtonRadius
  dsimp only
  split_ifs with hspecified hbase hne h h h h
  · exact assign_one_self theme .buttonRadius p
  · simp [hspecified, hbase, hne] at h
  · simp [hne] at h
  · rfl
  · simp [hbase] at h
  · exact assign_one_other theme (by decide) _
  · simp [hspecified] at h
  · rfl

theorem setInputRadius_other (theme : Theme) (r : Option String) {v : ThemeVariable}
    (hbase : v ≠ .roundedBase) (hradius : v ≠ .inputRadius) :
    setInputRadius theme r v = theme v := by
  unfold setInputRadius
  split_ifs
  · exact assign_one_other theme hradius r
  · rfl
  · exact assign_one_other theme hbase r

theorem setInputRadius_roundedBase (theme : Theme) (r : Option String) :
    setInputRadius theme r .roundedBase =
      if truthy (theme .roundedBase) then theme .roundedBase else r := by
  unfold setInputRadius
  split_ifs
  · exact assign_one_other theme (by decide) r
  · rfl
  · exact assign_one_self theme .roundedBase r

theorem setInputRadius_inputRadius (theme : Theme) (r : Option String) :
    setInputRadius theme r .inputRadius =
      if truthy (theme .roundedBase) && theme .roundedBase ≠ r then r
      else theme .inputRadius := by
  unfold setInputRadius
  split_ifs with hbase hne h h h
  · exact assign_one_self theme .inputRadius r
  · simp [hbase, hne] at h
  · simp [hne] at h
  · rfl
  · simp [hbase] at h
  · exact assign_one_other theme (by decide) r

theorem withButtons_other (theme : Theme) (buttons : Option Buttons) {v : ThemeVariable}
    (h : v ∉ [ThemeVariable.primary, .primaryForeground, .secondary, .secondaryForeground])
    (hbase : v ≠ .roundedBase) (hradius : v ≠ .buttonRadius) :
    withButtons theme buttons v = theme v := by
  cases buttons with
  | none => rfl
  | some buttons =>
    rw [withButtons, setButtonRadius_other _ _ _ hbase hradius]
    exact assign_other h

theorem withInputs_other (theme : Theme) (inputs : Option Inputs) {v : ThemeVariable}
    (h : v ∉ [ThemeVariable.foreground, .input, .mutedForeground])
    (hbase : v ≠ .roundedBase) (hradius : v ≠ .inputRadius) :
    withInputs theme inputs v = theme v := by
  cases inputs with
  | none => rfl
  | some inputs =>
    rw [withInputs, setInputRadius_other _ _ hbase hradius]
    exact assign_other h

/-- The theme before the buttons. -/
def beforeButtons (config : StyleConfig) : Theme :=
  withContainer (withColors (assign (fun _ => none) [(.fontFamily, config.fontFamily)])
    config.colors) config.container

theorem styleToTheme_apply (config : StyleConfig) (v : ThemeVariable) :
    (styleToTheme config).1 v =
      (withInputs (withButtons (beforeButtons config) config.buttons) config.inputs v).filter
        (· ≠ "") := rfl

namespace Setting

/-- The variable of a color that no other setting writes. -/
def ownVariable : Setting → Option ThemeVariable
  | colorsSuccess => some .success
  | colorsWarning => some .warning
  | colorsAccent => some .accent
  | colorsError => some .destructive
  | containerBackground => some .background
  | containerBorder => some .border
  | primaryText => some .primaryForeground
  | secondaryText => some .secondaryForeground
  | inputsText => some .foreground
  | inputsPlaceholder => some .mutedForeground
  | inputsBorder => some .input
  | _ => none

end Setting

theorem styleToTheme_own (config : StyleConfig) {s : Setting} {v : ThemeVariable}
    (h : s.ownVariable = some v) :
    (styleToTheme config).1 v = (s.value config).filter (· ≠ "") := by
  obtain ⟨colors, container, inputs, hideHeaderText, buttons, logo, fontFamily⟩ := config
  rw [styleToTheme_apply]
  congr 1
  cases s <;> simp only [Setting.ownVariable, Option.some.injEq, reduceCtorEq] at h <;> subst h
  case colorsSuccess | colorsWarning | colorsAccent | colorsError | containerBackground |
      containerBorder =>
    rw [withInputs_other _ _ (by decide) (by decide) (by decide),
      withButtons_other _ _ (by decide) (by decide) (by decide)]
    cases container <;> cases colors <;> rfl
  case primaryText | secondaryText =>
    rw [withInputs_other _ _ (by decide) (by decide) (by decide)]
    cases buttons with
    | none => cases container <;> cases colors <;> rfl
    | some buttons =>
      rw [withButtons, setButtonRadius_other _ _ _ (by decide) (by decide)]
      rfl
  case inputsText | inputsPlaceholder | inputsBorder =>
    cases inputs with
    | none =>
      rw [withInputs, withButtons_other _ _ (by decide) (by decide) (by decide)]
      cases container <;> cases colors <;> rfl
    | some inputs =>
      rw [withInputs, setInputRadius_other _ _ (by decide) (by decide)]
      rfl

/-- The buttons, when there are any, write both colors even without having them. -/
theorem styleToTheme_shared (config : StyleConfig) :
    (styleToTheme config).1 .primary = ((if config.buttons.isSome then Setting.primaryBackground
        else .colorsPrimary).value config).filter (· ≠ "") ∧
      (styleToTheme config).1 .secondary = ((if config.buttons.isSome then
        Setting.secondaryBackground else .colorsSecondary).value config).filter (· ≠ "") := by
  obtain ⟨colors, container, inputs, hideHeaderText, buttons, logo, fontFamily⟩ := config
  simp only [styleToTheme_apply]
  rw [withInputs_other _ _ (by decide) (by decide) (by decide),
    withInputs_other _ _ (by decide) (by decide) (by decide)]
  cases buttons with
  | none => cases container <;> cases colors <;> exact ⟨rfl, rfl⟩
  | some buttons =>
    rw [withButtons, setButtonRadius_other _ _ _ (by decide) (by decide),
      setButtonRadius_other _ _ _ (by decide) (by decide)]
    exact ⟨rfl, rfl⟩

/-! ## The radii -/

/-- The base radius before the inputs. -/
def baseBeforeInputs (config : StyleConfig) : Option String :=
  let container := updateLength (Setting.containerRadius.value config) "0.25"
  let primary := Setting.primaryRadius.value config
  let secondary := Setting.secondaryRadius.value config
  if (truthy primary || truthy secondary) && !truthy container then
    (updateLength primary "0.5").or (updateLength secondary "0.5")
  else container

theorem beforeButtons_roundedBase (config : StyleConfig) :
    beforeButtons config .roundedBase =
      updateLength (Setting.containerRadius.value config) "0.25" := by
  obtain ⟨colors, container, inputs, hideHeaderText, buttons, logo, fontFamily⟩ := config
  cases container <;> cases colors <;> rfl

theorem beforeButtons_radius (config : StyleConfig) :
    beforeButtons config .buttonRadius = none ∧ beforeButtons config .inputRadius = none := by
  obtain ⟨colors, container, inputs, hideHeaderText, buttons, logo, fontFamily⟩ := config
  cases container <;> cases colors <;> exact ⟨rfl, rfl⟩

theorem withButtons_roundedBase (config : StyleConfig) :
    withButtons (beforeButtons config) config.buttons .roundedBase = baseBeforeInputs config := by
  have hbase := beforeButtons_roundedBase config
  unfold baseBeforeInputs
  rw [← hbase]
  obtain ⟨colors, container, inputs, hideHeaderText, buttons, logo, fontFamily⟩ := config
  cases buttons with
  | none => rfl
  | some buttons => exact setButtonRadius_roundedBase _ _ _

theorem styleToTheme_roundedBase (config : StyleConfig) :
    (styleToTheme config).1 .roundedBase = (if truthy (baseBeforeInputs config) then
      baseBeforeInputs config else Setting.inputsRadius.value config).filter (· ≠ "") := by
  have hbase := withButtons_roundedBase config
  rw [styleToTheme_apply, ← hbase]
  obtain ⟨colors, container, inputs, hideHeaderText, buttons, logo, fontFamily⟩ := config
  cases inputs with
  | none =>
    -- a base radius that is not given is empty, and is removed
    dsimp only [withInputs]
    split_ifs with h
    · rfl
    · exact (filter_of_not_truthy h).trans rfl
  | some inputs =>
    congr 1
    exact setInputRadius_roundedBase _ _

theorem styleToTheme_buttonRadius (config : StyleConfig) :
    let container := updateLength (Setting.containerRadius.value config) "0.25"
    let primary := Setting.primaryRadius.value config
    let secondary := Setting.secondaryRadius.value config
    (styleToTheme config).1 .buttonRadius =
      (if (truthy primary || truthy secondary) && truthy container &&
          container ≠ (updateLength primary "0.5").or (updateLength secondary "0.5") then primary
        else none).filter (· ≠ "") := by
  intro container primary secondary
  rw [styleToTheme_apply, withInputs_other _ _ (by decide) (by decide) (by decide)]
  congr 1
  have hbase : container = _ := (beforeButtons_roundedBase config).symm
  have hradius := (beforeButtons_radius config).1
  rw [hbase, ← hradius]
  obtain ⟨colors, container, inputs, hideHeaderText, buttons, logo, fontFamily⟩ := config
  cases buttons with
  | none => rfl
  | some buttons => exact setButtonRadius_buttonRadius _ _ _

theorem styleToTheme_inputRadius (config : StyleConfig) :
    (styleToTheme config).1 .inputRadius = (if truthy (baseBeforeInputs config) &&
      baseBeforeInputs config ≠ Setting.inputsRadius.value config then
        Setting.inputsRadius.value config else none).filter (· ≠ "") := by
  have hbase := withButtons_roundedBase config
  have hradius : withButtons (beforeButtons config) config.buttons .inputRadius = none := by
    rw [withButtons_other _ _ (by decide) (by decide) (by decide)]
    exact (beforeButtons_radius config).2
  rw [styleToTheme_apply, ← hbase, ← hradius]
  congr 1
  obtain ⟨colors, container, inputs, hideHeaderText, buttons, logo, fontFamily⟩ := config
  cases inputs with
  | none =>
    rw [hradius]
    exact hradius.trans (ite_self none).symm
  | some inputs => exact setInputRadius_inputRadius _ _

end StytchBrowser.Web.Compat
