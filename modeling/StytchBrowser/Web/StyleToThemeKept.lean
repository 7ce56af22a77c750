import StytchBrowser.Web.StyleToTheme

/-!
# What `styleToTheme` keeps

A setting is kept when the theme has it, or when a setting that overrides it is specified. `kept_iff`
says when every setting that is specified is kept.
-/

namespace StytchBrowser.Web.Compat

/-! ## What is kept -/

/-- The general settings that the code keeps: colors that the buttons, when there are any, have too,
and a radius of the secondary buttons that is also the one of the primary ones, or ends up as the
base radius anyway. -/
structure Covered (config : StyleConfig) : Prop where
  primary : config.buttons.isSome = true → Setting.colorsPrimary.Specified config →
    Setting.primaryBackground.Specified config
  secondary : config.buttons.isSome = true → Setting.colorsSecondary.Specified config →
    Setting.secondaryBackground.Specified config
  /-- With a radius of the container. -/
  radius : Setting.secondaryRadius.Specified config → ¬Setting.primaryRadius.Specified config →
    Setting.containerRadius.Specified config →
    updateLength (Setting.containerRadius.value config) "0.25" =
      updateLength (Setting.secondaryRadius.value config) "0.5"
  /-- Without one: an empty radius of the primary buttons counts as theirs. -/
  emptyRadius : Setting.secondaryRadius.Specified config →
    ¬Setting.containerRadius.Specified config → Setting.primaryRadius.value config = some "" →
    Setting.inputsRadius.value config = updateLength (Setting.secondaryRadius.value config) "0.5"

section

variable {config : StyleConfig}

theorem baseBeforeInputs_of_container (h : Setting.containerRadius.Specified config) :
    baseBeforeInputs config = updateLength (Setting.containerRadius.value config) "0.25" := by
  have hc : truthy (updateLength (Setting.containerRadius.value config) "0.25") = true :=
    (truthy_updateLength _ _).trans h
  simp only [baseBeforeInputs, hc, Bool.not_true, Bool.and_false, Bool.false_eq_true, if_false]

theorem baseBeforeInputs_of_buttons (h : ¬Setting.containerRadius.Specified config)
    (hbuttons : Setting.primaryRadius.Specified config ∨ Setting.secondaryRadius.Specified config) :
    baseBeforeInputs config = (updateLength (Setting.primaryRadius.value config) "0.5").or
      (updateLength (Setting.secondaryRadius.value config) "0.5") := by
  have hc : truthy (updateLength (Setting.containerRadius.value config) "0.25") = false :=
    (truthy_updateLength _ _).trans (Bool.not_eq_true _ ▸ h)
  have hb : (truthy (Setting.primaryRadius.value config) ||
      truthy (Setting.secondaryRadius.value config)) = true := Bool.or_eq_true_iff.2 hbuttons
  simp only [baseBeforeInputs, hc, hb, Bool.not_false, Bool.and_true, if_true]

/-- The radius of the secondary buttons appears as the base radius or not at all, unless the primary
ones have one. -/
theorem appears_secondaryRadius_iff (hs : Setting.secondaryRadius.Specified config)
    (hp : ¬Setting.primaryRadius.Specified config) :
    Setting.secondaryRadius.Appears (styleToTheme config).1
        (Setting.secondaryRadius.value config) ↔
      (if truthy (baseBeforeInputs config) then baseBeforeInputs config
        else Setting.inputsRadius.value config) =
        updateLength (Setting.secondaryRadius.value config) "0.5" := by
  have hu : truthy (updateLength (Setting.secondaryRadius.value config) "0.5") = true :=
    (truthy_updateLength _ _).trans hs
  rw [← filter_eq_iff hu, ← styleToTheme_roundedBase]
  constructor
  · rintro ⟨e, he, happears⟩
    rcases List.mem_pair.1 he with rfl | rfl
    · -- the override is the radius of the primary buttons
      rw [styleToTheme_buttonRadius, filter_eq_iff hs] at happears
      split_ifs at happears with h
      · rw [Setting.Specified, happears] at hp
        exact absurd hs hp
      · rw [Setting.Specified, ← happears] at hs
        exact absurd hs Bool.false_ne_true
    · exact happears
  · exact fun h => ⟨_, List.mem_cons_of_mem _ (List.mem_singleton_self _), h⟩

theorem base_eq_iff (hs : Setting.secondaryRadius.Specified config)
    (hp : ¬Setting.primaryRadius.Specified config) :
    (if truthy (baseBeforeInputs config) then baseBeforeInputs config
      else Setting.inputsRadius.value config) =
        updateLength (Setting.secondaryRadius.value config) "0.5" ↔
      (Setting.containerRadius.Specified config →
        updateLength (Setting.containerRadius.value config) "0.25" =
          updateLength (Setting.secondaryRadius.value config) "0.5") ∧
      (¬Setting.containerRadius.Specified config → Setting.primaryRadius.value config = some "" →
        Setting.inputsRadius.value config =
          updateLength (Setting.secondaryRadius.value config) "0.5") := by
  have hu : truthy (updateLength (Setting.secondaryRadius.value config) "0.5") = true :=
    (truthy_updateLength _ _).trans hs
  by_cases hc : Setting.containerRadius.Specified config
  · have htruthy : truthy (updateLength (Setting.containerRadius.value config) "0.25") = true :=
      (truthy_updateLength _ _).trans hc
    rw [baseBeforeInputs_of_container hc, if_pos htruthy]
    exact ⟨fun h => ⟨fun _ => h, fun hn => absurd hc hn⟩, fun h => h.1 hc⟩
  · rw [baseBeforeInputs_of_buttons hc (.inr hs)]
    cases hprimary : Setting.primaryRadius.value config with
    | none =>
      rw [updateLength, Option.none_or, if_pos hu]
      exact ⟨fun _ => ⟨fun h => absurd h hc, fun _ h => nomatch h⟩, fun _ => rfl⟩
    | some radius =>
      -- what is given for the primary buttons is the empty string, and is taken
      have hempty : radius = "" := by
        rw [Setting.Specified, hprimary] at hp
        simpa [truthy] using hp
      subst hempty
      have hnot : ¬truthy ((updateLength (some "") "0.5").or
          (updateLength (Setting.secondaryRadius.value config) "0.5")) = true := Bool.false_ne_true
      rw [if_neg hnot]
      exact ⟨fun h => ⟨fun hn => absurd hn hc, fun _ _ => h⟩, fun h => h.2 hc rfl⟩

theorem kept_secondaryRadius : Setting.secondaryRadius.Kept config ↔
    (Setting.secondaryRadius.Specified config → ¬Setting.primaryRadius.Specified config →
      (if truthy (baseBeforeInputs config) then baseBeforeInputs config
        else Setting.inputsRadius.value config) =
          updateLength (Setting.secondaryRadius.value config) "0.5") := by
  constructor
  · intro h hs hp
    rcases h hs with ⟨t, ht, hspec⟩ | happears
    · obtain rfl := Option.some.inj ht
      exact absurd hspec hp
    · exact (appears_secondaryRadius_iff hs hp).1 happears
  · intro h hs
    by_cases hp : Setting.primaryRadius.Specified config
    · exact .inl ⟨_, rfl, hp⟩
    · exact .inr ((appears_secondaryRadius_iff hs hp).2 (h hs hp))

/-- A color that the buttons write too is kept if they have it, or if there are none. -/
theorem kept_shared (general : Setting) {specific : Setting} {v : ThemeVariable}
    (hgoverns : ∀ x, general.governs x = [(v, x)]) (hoverride : general.override = some specific)
    (htheme : (styleToTheme config).1 v =
      ((if config.buttons.isSome then specific else general).value config).filter (· ≠ "")) :
    general.Kept config ↔
      (config.buttons.isSome = true → general.Specified config → specific.Specified config) := by
  constructor
  · intro h hb hs
    rcases h hs with ⟨t, ht, hspec⟩ | ⟨e, he, happears⟩
    · obtain rfl := Option.some.inj (hoverride.symm.trans ht)
      exact hspec
    · rw [hgoverns] at he
      obtain rfl := List.mem_singleton.1 he
      rw [htheme, if_pos hb, filter_eq_iff hs] at happears
      rw [Setting.Specified, happears]
      exact hs
  · intro h hs
    by_cases hb : config.buttons.isSome = true
    · exact .inl ⟨specific, hoverride, h hb hs⟩
    · refine .inr ⟨(v, general.value config), ?_, ?_⟩
      · rw [hgoverns]
        exact List.mem_singleton_self _
      · rw [htheme, if_neg hb]
        exact (filter_eq_iff hs).2 rfl

/-- The colors of the buttons are always kept. -/
theorem kept_specific {general specific : Setting} {v : ThemeVariable}
    (hgoverns : ∀ x, (v, x) ∈ specific.governs x)
    (hbuttons : specific.Specified config → config.buttons.isSome = true)
    (htheme : (styleToTheme config).1 v =
      ((if config.buttons.isSome then specific else general).value config).filter (· ≠ "")) :
    specific.Kept config := by
  intro hs
  refine .inr ⟨_, hgoverns _, ?_⟩
  rw [htheme, if_pos (hbuttons hs)]
  exact (filter_eq_iff hs).2 rfl

theorem kept_own {s : Setting} {v : ThemeVariable} (hown : s.ownVariable = some v)
    (hgoverns : ∀ x, (v, x) ∈ s.governs x) : s.Kept config := fun hs =>
  .inr ⟨_, hgoverns _, (styleToTheme_own config hown).trans ((filter_eq_iff hs).2 rfl)⟩

theorem kept_containerRadius : Setting.containerRadius.Kept config := by
  intro hs
  have hc : truthy (updateLength (Setting.containerRadius.value config) "0.25") = true :=
    (truthy_updateLength _ _).trans hs
  refine .inr ⟨_, List.mem_singleton_self _, ?_⟩
  rw [styleToTheme_roundedBase, baseBeforeInputs_of_container hs, if_pos hc]
  exact (filter_eq_iff hc).2 rfl

theorem kept_primaryRadius : Setting.primaryRadius.Kept config := by
  intro hs
  have hu : truthy (updateLength (Setting.primaryRadius.value config) "0.5") = true :=
    (truthy_updateLength _ _).trans hs
  have hor : (updateLength (Setting.primaryRadius.value config) "0.5").or
      (updateLength (Setting.secondaryRadius.value config) "0.5") =
        updateLength (Setting.primaryRadius.value config) "0.5" := by
    cases h : updateLength (Setting.primaryRadius.value config) "0.5" with
    | none =>
      rw [h] at hu
      exact absurd hu Bool.false_ne_true
    | some radius => rfl
  by_cases hc : Setting.containerRadius.Specified config
  · have htruthy : truthy (updateLength (Setting.containerRadius.value config) "0.25") = true :=
      (truthy_updateLength _ _).trans hc
    by_cases heq : updateLength (Setting.containerRadius.value config) "0.25" =
        updateLength (Setting.primaryRadius.value config) "0.5"
    · -- the base radius of the container is the one of the buttons
      refine .inr ⟨_, List.mem_cons_of_mem _ (List.mem_singleton_self _), ?_⟩
      rw [styleToTheme_roundedBase, baseBeforeInputs_of_container hc, if_pos htruthy]
      exact (filter_eq_iff hu).2 heq
    · refine .inr ⟨_, List.mem_cons_self, ?_⟩
      rw [styleToTheme_buttonRadius, hor, htruthy, if_pos]
      · exact (filter_eq_iff hs).2 rfl
      · rw [show truthy (Setting.primaryRadius.value config) = true from hs]
        simpa using heq
  · refine .inr ⟨_, List.mem_cons_of_mem _ (List.mem_singleton_self _), ?_⟩
    rw [styleToTheme_roundedBase, baseBeforeInputs_of_buttons hc (.inl hs), hor, if_pos hu]
    exact (filter_eq_iff hu).2 rfl

theorem kept_inputsRadius : Setting.inputsRadius.Kept config := by
  intro hs
  by_cases hbase : truthy (baseBeforeInputs config) = true
  · by_cases heq : baseBeforeInputs config = Setting.inputsRadius.value config
    · refine .inr ⟨_, List.mem_cons_of_mem _ (List.mem_singleton_self _), ?_⟩
      rw [styleToTheme_roundedBase, if_pos hbase]
      exact (filter_eq_iff hs).2 heq
    · refine .inr ⟨_, List.mem_cons_self, ?_⟩
      rw [styleToTheme_inputRadius, hbase, if_pos (by simpa using heq)]
      exact (filter_eq_iff hs).2 rfl
  · refine .inr ⟨_, List.mem_cons_of_mem _ (List.mem_singleton_self _), ?_⟩
    rw [styleToTheme_roundedBase, if_neg hbase]
    exact (filter_eq_iff hs).2 rfl

end

theorem specified_buttons {config : StyleConfig} {f : Buttons → Option String}
    (h : truthy (config.buttons.bind f) = true) : config.buttons.isSome = true := by
  cases hb : config.buttons with
  | none =>
    rw [hb] at h
    exact absurd h Bool.false_ne_true
  | some buttons => rfl

/-- Everything that is specified is kept exactly when the general settings are covered. -/
theorem kept_iff (config : StyleConfig) : (∀ s : Setting, s.Kept config) ↔ Covered config := by
  have hshared := styleToTheme_shared config
  have hprimary := kept_shared .colorsPrimary (fun _ => rfl) rfl hshared.1
  have hsecondary := kept_shared .colorsSecondary (fun _ => rfl) rfl hshared.2
  constructor
  · intro h
    have hradius := kept_secondaryRadius.1 (h .secondaryRadius)
    refine ⟨hprimary.1 (h _), hsecondary.1 (h _), fun hs hp => ?_, fun hs hc hp => ?_⟩
    · exact ((base_eq_iff hs hp).1 (hradius hs hp)).1
    · have hnot : ¬Setting.primaryRadius.Specified config := by
        rw [Setting.Specified, hp]
        exact Bool.false_ne_true
      exact ((base_eq_iff hs hnot).1 (hradius hs hnot)).2 hc hp
  · intro h s
    cases s with
    | colorsPrimary => exact hprimary.2 h.primary
    | colorsSecondary => exact hsecondary.2 h.secondary
    | primaryBackground =>
      exact kept_specific (fun _ => List.mem_singleton_self _) specified_buttons hshared.1
    | secondaryBackground =>
      exact kept_specific (fun _ => List.mem_singleton_self _) specified_buttons hshared.2
    | containerRadius => exact kept_containerRadius
    | primaryRadius => exact kept_primaryRadius
    | secondaryRadius =>
      exact kept_secondaryRadius.2 fun hs hp => (base_eq_iff hs hp).2 ⟨h.radius hs hp,
        h.emptyRadius hs⟩
    | inputsRadius => exact kept_inputsRadius
    | colorsSuccess | colorsWarning | colorsAccent | colorsError | containerBackground
    | containerBorder | primaryText | secondaryText | inputsText | inputsPlaceholder
    | inputsBorder => exact kept_own rfl fun _ => List.mem_singleton_self _

/-- The buttons have a text color only, and the primary color is gone. -/
theorem primary_color_erased :
    ¬∀ s : Setting, s.Kept ⟨some ⟨some "#19303D", none, none, none, none, none⟩, none, none, none,
      some ⟨some ⟨none, some "#FFFFFF", none⟩, none⟩, none, none⟩ := by
  intro h
  rcases h .colorsPrimary rfl with ⟨t, ht, hspec⟩ | ⟨e, he, happears⟩
  · obtain rfl := Option.some.inj ht
    exact absurd hspec Bool.false_ne_true
  · obtain rfl := List.mem_singleton.1 he
    exact absurd happears (by decide)

end StytchBrowser.Web.Compat
