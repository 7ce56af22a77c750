import StytchBrowser.AdminPortal.DetailsRequests

/-!
# When a save of the details keeps its promises

* `Shaped.exists_carriedBy`: every edit that applies is in what is sent after the deletions;
* `appliesOrReports_iff`: a save keeps its promises unless it is cut short with something to do.
-/

namespace StytchBrowser.AdminPortal.Details

open DeepEqual Requests

variable (connection : TaggedConnection) (form : DetailsFormState)

/-! ## The edits that are sent -/

/-- The texts that differ from the connection's have been entered, and a derived value only where
there is one. -/
def Shaped : Prop :=
  ∀ slice, form.text slice = connection.remoteState.text slice ∨
    (form.text slice).isSome = true ∧
      (slice = .issuerDerivedValue → connection.issuerTransformer.isSome = true)

section

variable {connection form}

theorem Shaped.setSlice (h : Shaped connection form) {slice : Slice} {value : String}
    (hs : slice = .issuerDerivedValue → connection.issuerTransformer.isSome = true) :
    Shaped connection (form.setSlice slice (some value)) := by
  intro slice'
  unfold DetailsFormState.setSlice
  dsimp only
  by_cases hk : slice' = slice
  · subst hk
    rw [Function.update_self]
    exact .inr ⟨rfl, hs⟩
  · rw [Function.update_of_ne hk]
    exact h slice'

theorem Shaped.step (h : Shaped connection form) {edit : Edit}
    (ho : edit.offered connection form = true) : Shaped connection (edit.apply connection form) := by
  cases edit with
  | setText slice value =>
    apply h.setSlice
    rintro rfl
    cases connection with
    | oidc => exact ho
    | saml => cases ho
    | external => cases ho
  | setCertificate certificate =>
    cases certificate with
    | some value => exact h.setSlice nofun
    | none =>
      intro slice
      simp only [Edit.apply, DetailsFormState.setSlice]
      by_cases hk : slice = .certificate
      · subst hk
        left
        rw [Function.update_self]
        cases connection <;> rfl
      · rw [Function.update_of_ne hk]
        exact h slice
  | deleteCertificate | toggleManualConfiguration | setAttributeMapping => exact h

variable (connection) in
theorem shaped_edited (edits : List Edit) : Shaped connection (edited connection edits) := by
  rw [edited]
  have hstart : Shaped connection connection.remoteState := fun _ => .inl rfl
  generalize connection.remoteState = form at hstart
  induction edits generalizing form with
  | nil => exact hstart
  | cons edit edits ih =>
    rw [List.foldl_cons]
    split_ifs with ho
    · exact ih _ (hstart.step ho)
    · exact ih _ hstart

/-- A text that shows a difference makes a property. -/
theorem Shaped.mem_changed (h : Shaped connection form) {slice : Slice} (property : Property)
    (hne : form.shownText slice ≠ connection.remoteState.shownText slice) :
    (property, some (.str (form.shownText slice))) ∈ changed connection form property slice := by
  rcases h slice with heq | ⟨hsome, -⟩
  · rw [DetailsFormState.shownText, DetailsFormState.shownText, heq] at hne
    exact absurd rfl hne
  · obtain ⟨value, hv⟩ := Option.isSome_iff_exists.1 hsome
    have hdiff : form.text slice ≠ connection.remoteState.text slice := fun heq =>
      hne (by rw [DetailsFormState.shownText, DetailsFormState.shownText, heq])
    rw [changed, if_pos hdiff, DetailsFormState.shownText, hv]
    exact List.mem_singleton_self _

/-- The issuer that a derived value gives is what `getIssuer` finds when it is another one. -/
theorem Shaped.getIssuer_derived (h : Shaped connection form)
    (ht : connection.issuerTransformer.isSome = true)
    (hne : meant connection form .issuerDerivedValue ≠ connection.remoteState.shownText .issuer) :
    getIssuer connection form = some (meant connection form .issuerDerivedValue) := by
  obtain ⟨idp, hidp⟩ := Option.isSome_iff_exists.1 ht
  unfold meant at hne ⊢
  split_ifs at hne ⊢ with hshown
  · exact absurd rfl hne
  · rw [getIssuer]
    cases hv : form.text .issuerDerivedValue with
    | none =>
      rcases h .issuerDerivedValue with heq | ⟨hsome, -⟩
      · rw [DetailsFormState.shownText, DetailsFormState.shownText, heq] at hshown
        exact absurd rfl hshown
      · rw [hv] at hsome
        cases hsome
    | some value =>
      have hval : form.shownText .issuerDerivedValue = value := by
        rw [DetailsFormState.shownText, hv, Option.getD_some]
      dsimp only
      rw [if_neg, hidp, hval]
      · rfl
      · rintro ⟨rfl, hr⟩
        exact hshown (hval.trans hr.symm)

/-- Without a transformer the issuer is what the input for it shows. -/
theorem Shaped.getIssuer_shown (h : Shaped connection form)
    (ht : connection.issuerTransformer = none)
    (hne : form.shownText .issuer ≠ connection.remoteState.shownText .issuer) :
    getIssuer connection form = some (form.shownText .issuer) := by
  have hderived : form.text .issuerDerivedValue = none := by
    rcases h .issuerDerivedValue with heq | ⟨-, hs⟩
    · rw [heq]
      cases connection with
      | oidc c =>
        have ht : (oidcIdpInfo c.identityProvider).issuerTransformer = none := ht
        simp only [TaggedConnection.remoteState, ht, Option.bind_none]
      | saml => rfl
      | external => rfl
    · rw [ht] at hs
      cases hs rfl
  rw [getIssuer, hderived]
  dsimp only
  rcases h .issuer with heq | ⟨hsome, -⟩
  · rw [DetailsFormState.shownText, DetailsFormState.shownText, heq] at hne
    exact absurd rfl hne
  · obtain ⟨value, hv⟩ := Option.isSome_iff_exists.1 hsome
    rw [DetailsFormState.shownText, hv, Option.getD_some]

theorem text_of_shownText_ne {slice : Slice} (h : form.shownText slice ≠ "") :
    form.text slice = some (form.shownText slice) := by
  unfold DetailsFormState.shownText at h ⊢
  cases ht : form.text slice with
  | none =>
    rw [ht] at h
    exact absurd rfl h
  | some value => rfl

theorem Shaped.mem_mutatedProperties_saml {c : SamlConnection} (h : Shaped (.saml c) form)
    {slice : Slice} {property : Property} (hp : propertyOf slice = some property)
    (hi : hasInput (.saml c) form slice = true)
    (hne : meant (.saml c) form slice ≠
      meant (.saml c) (TaggedConnection.saml c).remoteState slice) :
    (property, some (.str (meant (.saml c) form slice))) ∈ mutatedProperties (.saml c) form := by
  unfold mutatedProperties
  rw [List.mem_append, List.mem_append]
  cases slice <;> cases hp
  case displayName.refl => exact .inl (.inl (h.mem_changed _ hne))
  case identityProvider.refl => exact .inl (.inr (h.mem_changed _ hne))
  case ssoUrl.refl =>
    have hm : isManualConfig (.saml c) form = true := hi
    simp only [hm, if_true, List.mem_append]
    exact .inr (.inl (.inl (.inl (h.mem_changed _ hne))))
  case entityId.refl =>
    have hm : isManualConfig (.saml c) form = true := hi
    simp only [hm, if_true, List.mem_append]
    exact .inr (.inl (.inl (.inr (h.mem_changed _ hne))))
  case certificate.refl =>
    have hm : isManualConfig (.saml c) form = true := hi
    have hne : form.shownText .certificate ≠ "" := hne
    simp only [hm, if_true, List.mem_append]
    rw [if_pos hne, text_of_shownText_ne hne]
    exact .inr (.inl (.inr (List.mem_singleton_self _)))
  all_goals cases hi

/-- An issuer that is not the one of the connection is sent. -/
theorem mem_issuer {connection : TaggedConnection} {issuer : String}
    (hg : getIssuer connection form = some issuer)
    (hne : issuer ≠ connection.remoteState.shownText .issuer)
    (before : List (Property × Option Json)) :
    (Property.issuer, some (Json.str issuer)) ∈ before ++
      match getIssuer connection form with
      | some issuer =>
          if some issuer ≠ connection.remoteState.text .issuer then
            [(.issuer, some (.str issuer))]
          else []
      | none => [] := by
  have hd : some issuer ≠ connection.remoteState.text .issuer := by
    intro he
    rw [DetailsFormState.shownText, ← he] at hne
    exact hne rfl
  rw [hg]
  dsimp only
  rw [if_pos hd]
  exact List.mem_append_right _ (List.mem_singleton_self _)

theorem Shaped.mem_mutatedProperties_oidc {c : OidcConnection} (h : Shaped (.oidc c) form)
    {slice : Slice} {property : Property} (hp : propertyOf slice = some property)
    (hi : hasInput (.oidc c) form slice = true)
    (hne : meant (.oidc c) form slice ≠
      meant (.oidc c) (TaggedConnection.oidc c).remoteState slice) :
    (property, some (.str (meant (.oidc c) form slice))) ∈ mutatedProperties (.oidc c) form := by
  unfold mutatedProperties
  rw [List.mem_append, List.mem_append]
  cases slice <;> cases hp
  case displayName.refl => exact .inl (.inl (h.mem_changed _ hne))
  case identityProvider.refl => exact .inl (.inr (h.mem_changed _ hne))
  case clientId.refl =>
    simp only [List.mem_append]
    exact .inr (.inl (.inl (.inl (h.mem_changed _ hne))))
  case clientSecret.refl =>
    simp only [List.mem_append]
    exact .inr (.inl (.inl (.inr (h.mem_changed _ hne))))
  case authorizationUrl.refl =>
    have hm : isManualConfig (.oidc c) form = true := hi
    simp only [hm, if_true, List.mem_append]
    exact .inr (.inl (.inr (.inl (.inl (.inl (h.mem_changed _ hne))))))
  case tokenUrl.refl =>
    have hm : isManualConfig (.oidc c) form = true := hi
    simp only [hm, if_true, List.mem_append]
    exact .inr (.inl (.inr (.inl (.inl (.inr (h.mem_changed _ hne))))))
  case userInfoUrl.refl =>
    have hm : isManualConfig (.oidc c) form = true := hi
    simp only [hm, if_true, List.mem_append]
    exact .inr (.inl (.inr (.inl (.inr (h.mem_changed _ hne)))))
  case jwksUrl.refl =>
    have hm : isManualConfig (.oidc c) form = true := hi
    simp only [hm, if_true, List.mem_append]
    exact .inr (.inl (.inr (.inr (h.mem_changed _ hne))))
  case issuer.refl =>
    have hg := h.getIssuer_shown (Option.isNone_iff_eq_none.1 hi) hne
    exact .inr (mem_issuer hg hne _)
  case issuerDerivedValue.refl =>
    have hi : (TaggedConnection.oidc c).issuerTransformer.isSome = true := hi
    have hheld : meant (.oidc c) (TaggedConnection.oidc c).remoteState .issuerDerivedValue =
        (TaggedConnection.oidc c).remoteState.shownText .issuer := if_pos rfl
    rw [hheld] at hne
    have hg := h.getIssuer_derived hi hne
    exact .inr (mem_issuer hg hne _)
  all_goals cases hi

/-- Every edit of a text that has a property makes one. -/
theorem Shaped.mem_mutatedProperties (h : Shaped connection form) {slice : Slice}
    {property : Property} (hp : propertyOf slice = some property)
    (hi : hasInput connection form slice = true)
    (hne : meant connection form slice ≠ meant connection connection.remoteState slice) :
    (property, some (.str (meant connection form slice))) ∈ mutatedProperties connection form := by
  cases connection with
  | saml c => exact h.mem_mutatedProperties_saml hp hi hne
  | oidc c => exact h.mem_mutatedProperties_oidc hp hi hne
  | external c =>
    unfold mutatedProperties
    rw [List.mem_append, List.mem_append]
    cases slice <;> cases hp
    case displayName.refl => exact .inl (.inl (h.mem_changed _ hne))
    all_goals cases hi

theorem mem_afterDeletions_of_mem {p : Property × Option Json}
    (h : p ∈ mutatedProperties connection form) :
    .mutate connection.connectionId (mutatedProperties connection form) ∈
      afterDeletions connection form := by
  have hne : mutatedProperties connection form ≠ [] := List.ne_nil_of_mem h
  rw [afterDeletions, if_neg hne]
  exact List.mem_append_right _ (List.mem_singleton_self _)

/-- Every edit that applies is among what is sent after the deletions. -/
theorem Shaped.exists_carriedBy (h : Shaped connection form) {change : Change}
    (he : change.Edited connection form) :
    ∃ r ∈ afterDeletions connection form, change.CarriedBy connection form r := by
  cases change with
  | text slice =>
    obtain ⟨hi, hne⟩ := he
    cases hp : propertyOf slice with
    | some property =>
      have hmem := h.mem_mutatedProperties hp hi hne
      refine ⟨_, mem_afterDeletions_of_mem hmem, ?_⟩
      rw [Change.CarriedBy, hp]
      exact ⟨_, rfl, hmem⟩
    | none =>
      cases slice <;> cases hp
      cases connection with
      | saml c =>
        have hne : form.shownText .metadataUrl ≠ "" := hne
        have hm : (!isManualConfig (.saml c) form) = true := hi
        refine ⟨_, List.mem_append_left _ ?_, rfl⟩
        simp only [mutateByUrl, hm, Bool.true_and, decide_eq_true_eq]
        rw [if_pos hne]
        exact List.mem_singleton_self _
      | oidc => cases hi
      | external => cases hi
  | attributeMapping =>
    obtain ⟨ht, k, hk⟩ := he
    cases connection with
    | saml c =>
      have hd : deepEqual [] (record (TaggedConnection.saml c).remoteState.attributeMapping)
          (.value (record form.attributeMapping)) = false := by
        rw [Bool.eq_false_iff, Ne, deepEqual_record_iff]
        exact fun heq => hk (heq k).symm
      have hmem : (Property.attribute_mapping, some (record form.attributeMapping)) ∈
          mutatedProperties (.saml c) form := by
        simp only [mutatedProperties, hd, List.mem_append]
        exact .inr (.inr (List.mem_singleton_self _))
      exact ⟨_, mem_afterDeletions_of_mem hmem, _, rfl, hmem⟩
    | oidc => cases ht
    | external => cases ht

/-! ## Nothing to send -/

/-- The issuer of a derived value is what the value was derived from. -/
theorem transformInputToIssuer_of_extract {input id : String}
    (h : extractIssuerFromInput input = some id) :
    id ≠ "" ∧ transformInputToIssuer id = input := by
  obtain ⟨rest, hrest, h⟩ := Option.bind_eq_some_iff.1 h
  obtain ⟨cs, hcs, h⟩ := Option.bind_eq_some_iff.1 h
  obtain ⟨p, hin, hp⟩ := List.dropPrefix?_eq_some_iff.1 hrest
  obtain ⟨s, hr, hs⟩ := List.dropSuffix?_eq_some_iff.1 hcs
  split_ifs at h with hid
  obtain rfl := Option.some.inj h
  constructor
  · intro he
    exact hid.1 (by simpa using congrArg String.toList he)
  · rw [transformInputToIssuer, String.toList_ofList, ← eq_of_beq hp, ← eq_of_beq hs,
      List.append_assoc, ← hr, ← hin, String.ofList_toList]

variable (connection) in
theorem changed_remoteState (property : Property) (slice : Slice) :
    changed connection connection.remoteState property slice = [] :=
  if_neg (not_not.2 rfl)

/-- `idp` is the transformer of some provider. -/
theorem transformer_eq {provider : String} {idp : IssuerTransformer}
    (h : (oidcIdpInfo provider).issuerTransformer = some idp) :
    idp = ⟨"Directory (tenant) ID", extractIssuerFromInput, transformInputToIssuer⟩ := by
  unfold oidcIdpInfo oidcIdpMap at h
  simp only [List.lookup_cons, List.lookup_nil] at h
  split at h
  · cases h
  · split at h
    · exact (Option.some.inj h).symm
    · split at h <;> cases h

theorem getIssuer_remoteState (c : OidcConnection) {issuer : String}
    (h : getIssuer (.oidc c) (TaggedConnection.oidc c).remoteState = some issuer) :
    issuer = c.issuer := by
  unfold getIssuer at h
  cases hv : (TaggedConnection.oidc c).remoteState.text .issuerDerivedValue with
  | none =>
    rw [hv] at h
    exact (Option.some.inj h).symm
  | some value =>
    rw [hv] at h
    dsimp only at h
    split_ifs at h
    obtain ⟨idp, hidp, hex⟩ := Option.bind_eq_some_iff.1 hv
    obtain rfl := transformer_eq hidp
    have hidp : (TaggedConnection.oidc c).issuerTransformer = _ := hidp
    rw [hidp] at h
    exact (Option.some.inj h).symm.trans (transformInputToIssuer_of_extract hex).2

variable (connection) in
theorem afterDeletions_remoteState : afterDeletions connection connection.remoteState = [] := by
  have hprops : mutatedProperties connection connection.remoteState = [] := by
    unfold mutatedProperties
    rw [changed_remoteState, changed_remoteState]
    cases connection with
    | saml c =>
      have hmap : deepEqual [] (record (TaggedConnection.saml c).remoteState.attributeMapping)
          (.value (record (TaggedConnection.saml c).remoteState.attributeMapping)) = true :=
        (deepEqual_record_iff _ _).2 fun _ => rfl
      have hcert : (TaggedConnection.saml c).remoteState.shownText .certificate = "" := rfl
      simp [changed_remoteState, hmap, hcert]
    | oidc c =>
      simp only [changed_remoteState, List.append_nil, List.nil_append, ite_self]
      cases hg : getIssuer (.oidc c) (TaggedConnection.oidc c).remoteState with
      | none => rfl
      | some issuer =>
        obtain rfl := getIssuer_remoteState c hg
        exact if_neg (not_not.2 rfl)
    | external c => rfl
  have hurl : mutateByUrl connection connection.remoteState = [] := by
    cases connection with
    | saml c => exact if_neg (by simp [DetailsFormState.shownText, TaggedConnection.remoteState])
    | oidc c => rfl
    | external c => rfl
  rw [afterDeletions, hurl, hprops, if_pos rfl, List.append_nil]

end

/-! ## When a save keeps its promises -/

section

variable {answers : ℕ → Except MutationError Unit} {server : List String}

variable {connection form} in
theorem not_carriedBy_deleteCertificate (change : Change) (connectionId id : String) :
    ¬change.CarriedBy connection form (.deleteCertificate connectionId id) := by
  cases change with
  | text slice =>
    rw [Change.CarriedBy]
    split
    · exact nofun
    · rintro ⟨_, h, -⟩
      cases h
  | attributeMapping =>
    rintro ⟨_, h, -⟩
    cases h

/-- What is gone after deletions that succeed. -/
theorem exists_removes {connectionId id : String} {ids : List String} (h : id ∈ ids)
    (rest : Log Request MutationError) :
    ∃ entry ∈ allSent (deletions connectionId ids) ++ rest, removes id entry = true := by
  refine ⟨(.deleteCertificate connectionId id, .ok ()), List.mem_append_left _ ?_, ?_⟩
  · exact mem_allSent.2 ⟨List.mem_map_of_mem h, rfl⟩
  · simp [removes]

variable {connection form}

/-- The save resolves at the deletion that finds no certificate. -/
theorem handleSave_of_not_found {done rest : List String} {id : String} {e : MutationError}
    (hids : toDelete connection form = done ++ id :: rest)
    (hs : Succeed answers 0 done.length) (hf : answers done.length = .error e)
    (hnf : e.isNotFound = true) :
    handleSave connection form answers =
      (⟨form.unmarkAll done, allSent (deletions connection.connectionId done) ++
          [(.deleteCertificate connection.connectionId id, .error e)]⟩, .ok ()) := by
  rw [← Nat.zero_add done.length] at hf
  rcases handleSave_cases connection form answers with
    ⟨done', id', rest', e', hids', hs', hf', he⟩ | ⟨hs', -⟩
  · rw [← Nat.zero_add done'.length] at hf'
    have hlen : done.length = done'.length :=
      Nat.le_antisymm (hs.le_of_error hf') (hs'.le_of_error hf)
    rw [hids] at hids'
    obtain ⟨rfl, htail⟩ := List.append_inj hids' hlen
    obtain ⟨rfl, rfl⟩ := List.cons.inj htail
    obtain rfl := Except.error.inj (hf.symm.trans hf')
    rw [he, if_pos hnf]
  · have hle := hs'.le_of_error hf
    rw [hids, List.length_append, List.length_cons] at hle
    omega

/-- A save that is cut short resolves with something left to do. -/
theorem CutShort.not_appliesOrReports (h : CutShort connection form server answers) :
    ¬AppliesOrReports connection form server answers := by
  obtain ⟨done, id, rest, e, hids, hs, hf, hnf, hleft⟩ := h
  have he := handleSave_of_not_found hids hs hf hnf
  intro hp
  obtain ⟨hgone, hsent⟩ := hp.resolved (by rw [he])
  rw [he] at hgone hsent
  have hentry : ∀ entry ∈ allSent (deletions connection.connectionId done) ++
      [(.deleteCertificate connection.connectionId id, .error e)], ∃ id' ∈ id :: done,
        entry.1 = .deleteCertificate connection.connectionId id' := by
    intro entry hmem
    rcases List.mem_append.1 hmem with hmem | hmem
    · obtain ⟨id', hid', heq⟩ := List.mem_map.1 (mem_allSent.1 hmem).1
      exact ⟨id', List.mem_cons_of_mem _ hid', heq.symm⟩
    · rw [List.mem_singleton.1 hmem]
      exact ⟨id, List.mem_cons_self, rfl⟩
  rcases hleft with ⟨id', hrest, hserver, hnew⟩ | ⟨change, hedited⟩
  · have hmarked : id' ∈ toDelete connection form := by
      rw [hids]
      exact List.mem_append_right _ (List.mem_cons_of_mem _ hrest)
    obtain ⟨⟨r, a⟩, hmem, hr⟩ := not_mem_certificatesAfter.1 (hgone id' hmarked) hserver
    obtain ⟨id'', hid'', heq⟩ := hentry _ hmem
    obtain rfl : r = _ := heq
    have : id'' = id' := by
      cases a <;> simp_all [removes]
    exact hnew (this ▸ hid'')
  · obtain ⟨r, hmem, hr⟩ := hsent change hedited
    obtain ⟨id', -, heq⟩ := hentry _ hmem
    obtain rfl : r = _ := heq
    exact not_carriedBy_deleteCertificate change _ _ hr

/-- What a save that resolves has done: it was stopped by a deletion that found no certificate, or
all requests have succeeded. -/
theorem handleSave_resolved (hok : (handleSave connection form answers).2 = .ok ()) :
    (∃ done id rest e, toDelete connection form = done ++ id :: rest ∧
        Succeed answers 0 done.length ∧ answers done.length = .error e ∧ e.isNotFound = true ∧
        (handleSave connection form answers).1.log =
          allSent (deletions connection.connectionId done) ++
            [(.deleteCertificate connection.connectionId id, .error e)]) ∨
      (handleSave connection form answers).1.log =
        allSent (deletions connection.connectionId (toDelete connection form)) ++
          allSent (afterDeletions connection form) := by
  rcases handleSave_cases connection form answers with
    ⟨done, id, rest, e, hids, hs, hf, he⟩ | ⟨-, he⟩
  · left
    refine ⟨done, id, rest, e, hids, hs, hf, ?_, by rw [he]⟩
    by_contra hnf
    rw [he, if_neg hnf] at hok
    cases hok
  · right
    rw [he] at hok ⊢
    rcases sendAll_cases answers (afterDeletions connection form)
      (allSent (deletions connection.connectionId (toDelete connection form))) with
      ⟨-, hall⟩ | ⟨done, r, rest, e, -, -, -, hfail⟩
    · rw [hall]
    · rw [hfail] at hok
      cases hok

/-- A save that resolves without being cut short has applied every edit. -/
theorem Shaped.resolved (h : Shaped connection form)
    (hc : ¬CutShort connection form server answers)
    (hok : (handleSave connection form answers).2 = .ok ()) :
    (∀ certificateId ∈ toDelete connection form,
      certificateId ∉ certificatesAfter server (handleSave connection form answers).1.log) ∧
    ∀ change : Change, change.Edited connection form → ∃ request,
      (request, .ok ()) ∈ (handleSave connection form answers).1.log ∧
        change.CarriedBy connection form request := by
  rcases handleSave_resolved hok with ⟨done, id, rest, e, hids, hs, hf, hnf, hlog⟩ | hlog
  · constructor
    · intro id' hid'
      rw [hlog, not_mem_certificatesAfter]
      intro hserver
      have hmem : id' ∈ id :: done := by
        by_contra hnew
        have hrest : id' ∈ rest := by
          rw [hids, List.mem_append, List.mem_cons] at hid'
          rw [List.mem_cons] at hnew
          tauto
        exact hc ⟨done, id, rest, e, hids, hs, hf, hnf, .inl ⟨id', hrest, hserver, hnew⟩⟩
      rcases List.mem_cons.1 hmem with rfl | hmem
      · exact ⟨_, List.mem_append_right _ (List.mem_singleton_self _), by simp [removes, hnf]⟩
      · exact exists_removes hmem _
    · intro change hedited
      exact absurd ⟨done, id, rest, e, hids, hs, hf, hnf, .inr ⟨change, hedited⟩⟩ hc
  · rw [hlog]
    constructor
    · intro id hid
      exact not_mem_certificatesAfter.2 fun _ => exists_removes hid _
    · intro change hedited
      obtain ⟨r, hr, hcarried⟩ := h.exists_carriedBy hedited
      exact ⟨r, List.mem_append_right _ (mem_allSent.2 ⟨hr, rfl⟩), hcarried⟩

variable (connection) in
theorem log_remoteState : (handleSave connection connection.remoteState answers).1.log = [] := by
  have hnone : toDelete connection connection.remoteState = [] := by cases connection <;> rfl
  rcases handleSave_cases connection connection.remoteState answers with
    ⟨done, id, rest, e, hids, -⟩ | ⟨-, he⟩
  · rw [hnone] at hids
    simp at hids
  · rw [he, afterDeletions_remoteState, hnone]
    rfl

/-- Saving a form applies every edit or reports a failure if and only if it is not cut short. -/
theorem appliesOrReports_iff (connection : TaggedConnection) (edits : List Edit)
    (server : List String) (answers : ℕ → Except MutationError Unit) :
    AppliesOrReports connection (edited connection edits) server answers ↔
      ¬CutShort connection (edited connection edits) server answers := by
  refine ⟨fun hp hc => hc.not_appliesOrReports hp, fun hc => ?_⟩
  constructor
  case resolved => exact (shaped_edited connection edits).resolved hc
  case rejected =>
    intro e he
    refine ⟨?_, localState_handleSave⟩
    rw [save]
    split
    · next s heq =>
      rw [heq] at he
      cases he
    · rfl
  case retried =>
    intro e _
    rw [localState_handleSave, requestsOf_unmarkAll]
  case unchanged =>
    intro heq
    rw [heq, log_remoteState]

end

/-- A connection with two certificates. -/
def workforce : TaggedConnection :=
  .saml ⟨"connection", "Okta", "okta", .empty, "entity", "https://idp", ["old", "new"]⟩

/-- The name is changed and a certificate marked that the server no longer has: the name is lost. -/
theorem display_name_lost_on_missing_certificate :
    ¬AppliesOrReports workforce
      (edited workforce [.setText .displayName "Workforce", .deleteCertificate "old"])
      ["new"] fun _ => .error (.stytchSDKAPIError "sso_verification_key_not_found") := by
  intro h
  obtain ⟨-, hsent⟩ := h.resolved rfl
  obtain ⟨r, hmem, -⟩ := hsent (.text .displayName) ⟨rfl, by decide⟩
  have hlog : (r, Except.ok ()) ∈ [(Request.deleteCertificate "connection" "old",
    Except.error (MutationError.stytchSDKAPIError "sso_verification_key_not_found"))] := hmem
  simp at hlog

end StytchBrowser.AdminPortal.Details
