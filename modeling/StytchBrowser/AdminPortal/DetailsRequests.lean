import StytchBrowser.AdminPortal.DetailsSection

/-!
# What saving the details of a connection sends

The promises of a save, and its requests by the first answer that is not a success.

* `deleteCertificates_cases`, `handleSave_cases`: what is sent;
* `requestsOf_unmarkAll`: a retry sends what the first try would have sent but for what is done.
-/

namespace StytchBrowser.AdminPortal.Details

open DeepEqual Requests

variable (connection : TaggedConnection) (form : DetailsFormState)

/-! ## What a save promises -/

/-- What a user can have changed. -/
inductive Change where
  | text (slice : Slice)
  | attributeMapping

/-- What an input stands for: the text it shows, and for a derived value the issuer it gives. -/
def meant : Slice → String
  | .issuerDerivedValue =>
      if form.shownText .issuerDerivedValue =
          connection.remoteState.shownText .issuerDerivedValue then
        connection.remoteState.shownText .issuer
      else connection.issuerTransformer.elim "" fun idp =>
        idp.transformInputToIssuer (form.shownText .issuerDerivedValue)
  | slice => form.shownText slice

/-- The form differs from the connection in something that applies to the mode it is in. -/
def Change.Edited : Change → Prop
  | .text slice =>
      hasInput connection form slice = true ∧
        meant connection form slice ≠ meant connection connection.remoteState slice
  | .attributeMapping =>
      hasAttributeTable connection = true ∧
        ∃ k, form.attributeMapping.get k ≠ connection.remoteState.attributeMapping.get k

/-- The property of an update for a text that has one. -/
def propertyOf : Slice → Option Property
  | .displayName => some .display_name
  | .identityProvider => some .identity_provider
  | .metadataUrl => none
  | .ssoUrl => some .idp_sso_url
  | .entityId => some .idp_entity_id
  | .certificate => some .x509_certificate
  | .clientId => some .client_id
  | .clientSecret => some .client_secret
  | .issuer => some .issuer
  | .issuerDerivedValue => some .issuer
  | .authorizationUrl => some .authorization_url
  | .tokenUrl => some .token_url
  | .userInfoUrl => some .userinfo_url
  | .jwksUrl => some .jwks_url

/-- The request carries a change. -/
def Change.CarriedBy (request : Request) : Change → Prop
  | .text slice =>
      match propertyOf slice with
      | none => request = .mutateByUrl connection.connectionId (form.shownText slice)
      | some property => ∃ mutatedProperties,
          request = .mutate connection.connectionId mutatedProperties ∧
            (property, some (.str (meant connection form slice))) ∈ mutatedProperties
  | .attributeMapping => ∃ mutatedProperties,
      request = .mutate connection.connectionId mutatedProperties ∧
        (.attribute_mapping, some (record form.attributeMapping)) ∈ mutatedProperties

/-- After a request was answered so, the certificate is not on the server. -/
def removes (certificateId : String) : Request × Except MutationError Unit → Bool
  | (.deleteCertificate _ certificate_id, .ok ()) => certificate_id = certificateId
  | (.deleteCertificate _ certificate_id, .error e) => certificate_id = certificateId && e.isNotFound
  | _ => false

/-- The certificates on the server after a save. -/
def certificatesAfter (server : List String) (log : Log Request MutationError) : List String :=
  server.filter fun certificateId => !log.any (removes certificateId)

/-- The certificates that were deleted by a save. -/
def deletedBy (log : Log Request MutationError) : List String :=
  log.filterMap fun entry =>
    match entry with
    | (.deleteCertificate _ certificate_id, .ok ()) => some certificate_id
    | _ => none

/-- The request does not delete one of the certificates. -/
def Request.leaves (deleted : List String) : Request → Bool
  | .deleteCertificate _ certificate_id => !deleted.contains certificate_id
  | _ => true

/-- The certificates are not marked any more. -/
def DetailsFormState.unmarkAll (form : DetailsFormState) (deleted : List String) :
    DetailsFormState :=
  { form with deletedCertificateIds :=
      form.deletedCertificateIds.map fun ids => ids.filter fun id => !deleted.contains id }

/-- The requests of a save of which all mutations succeed. -/
def requestsOf : List Request :=
  (handleSave connection form fun _ => .ok ()).1.log.map Prod.fst

/-- Saving the form applies every edit or reports a failure, with the certificates `server` on the
server when it starts and these answers. -/
structure AppliesOrReports (server : List String) (answers : ℕ → Except MutationError Unit) :
    Prop where
  /-- When it resolves, the marked certificates are gone and the other edits have been sent. -/
  resolved : (handleSave connection form answers).2 = .ok () →
    (∀ certificateId ∈ toDelete connection form,
      certificateId ∉ certificatesAfter server (handleSave connection form answers).1.log) ∧
    ∀ change : Change, change.Edited connection form → ∃ request,
      (request, .ok ()) ∈ (handleSave connection form answers).1.log ∧
        change.CarriedBy connection form request
  /-- When it rejects, the certificates that were deleted are not marked any more, and all else in
  the form, which stays open, is as it was. -/
  rejected : ∀ e, (handleSave connection form answers).2 = .error e →
    (save connection form answers).2 = true ∧
    (handleSave connection form answers).1.localState =
      form.unmarkAll (deletedBy (handleSave connection form answers).1.log)
  /-- When it rejects, a retry sends what the first try would have sent but for the deletions that
  are done. -/
  retried : ∀ e, (handleSave connection form answers).2 = .error e →
    requestsOf connection (handleSave connection form answers).1.localState =
      (requestsOf connection form).filter
        (Request.leaves (deletedBy (handleSave connection form answers).1.log))
  /-- Nothing is sent for a form that is equal to the connection. -/
  unchanged : form = connection.remoteState →
    (handleSave connection form answers).1.log = []

/-- The save is cut short: a deletion finds no certificate before any mutation has failed, and
after it there is a marked certificate that is still on the server, or an edit that applies. -/
def CutShort (server : List String) (answers : ℕ → Except MutationError Unit) : Prop :=
  ∃ done certificateId rest e, toDelete connection form = done ++ certificateId :: rest ∧
    Succeed answers 0 done.length ∧ answers done.length = .error e ∧ e.isNotFound = true ∧
    ((∃ id ∈ rest, id ∈ server ∧ id ∉ certificateId :: done) ∨
      ∃ change : Change, change.Edited connection form)

/-! ## The requests of a save -/

section

variable {connection form} {answers : ℕ → Except MutationError Unit} {connectionId : String}

/-- The requests that delete certificates. -/
def deletions (connectionId : String) (ids : List String) : List Request :=
  ids.map (.deleteCertificate connectionId)

theorem unmarkAll_nil : form.unmarkAll [] = form := by
  obtain ⟨text, attributeMapping, manualConfiguration, ids⟩ := form
  cases ids <;> simp [DetailsFormState.unmarkAll]

theorem unmarkAll_cons (id : String) (done : List String) :
    form.unmarkAll (id :: done) = (form.unmark id).unmarkAll done := by
  obtain ⟨text, attributeMapping, manualConfiguration, ids⟩ := form
  cases ids with
  | none => rfl
  | some ids =>
    simp only [DetailsFormState.unmarkAll, DetailsFormState.unmark, Option.map_some,
      List.filter_filter, List.contains_cons]
    congr 2
    apply List.filter_congr
    intro x _
    by_cases hx : x = id <;> simp [hx]

variable (answers connectionId) in
/-- Either all certificates are deleted, or those before the first failure are, which ends the save
or fails it. -/
theorem deleteCertificates_cases (ids : List String) (s : Saving) :
    (Succeed answers s.log.length ids.length ∧
        deleteCertificates answers connectionId ids s =
          (⟨s.localState.unmarkAll ids, s.log ++ allSent (deletions connectionId ids)⟩, none)) ∨
      ∃ done id rest e, ids = done ++ id :: rest ∧ Succeed answers s.log.length done.length ∧
        answers (s.log.length + done.length) = .error e ∧
        deleteCertificates answers connectionId ids s =
          (⟨s.localState.unmarkAll done, s.log ++ allSent (deletions connectionId done) ++
              [(.deleteCertificate connectionId id, .error e)]⟩,
            some (if e.isNotFound then .ok () else .error e)) := by
  induction ids generalizing s with
  | nil => exact .inl ⟨.zero _, by simp [deleteCertificates, deletions, unmarkAll_nil]⟩
  | cons id ids ih =>
    rw [deleteCertificates]
    cases ha : answers s.log.length with
    | error e =>
      exact .inr ⟨[], id, ids, e, rfl, .zero _, ha, by simp [deletions, unmarkAll_nil]⟩
    | ok u =>
      have ih := ih ⟨s.localState.unmark id,
        s.log ++ [(.deleteCertificate connectionId id, .ok ())]⟩
      rw [List.length_append, List.length_singleton] at ih
      rcases ih with ⟨hs, he⟩ | ⟨done, id', rest, e, rfl, hs, hf, he⟩
      · refine .inl ⟨succeed_succ.2 ⟨ha, hs⟩, he.trans ?_⟩
        simp [deletions, unmarkAll_cons]
      · refine .inr ⟨id :: done, id', rest, e, rfl, succeed_succ.2 ⟨ha, hs⟩, ?_, he.trans ?_⟩
        · rw [List.length_cons, ← hf]
          congr 1
          omega
        · simp [deletions, unmarkAll_cons]

variable (connection form answers) in
/-- A save is stopped by the first deletion that fails, or it sends what follows the deletions. -/
theorem handleSave_cases :
    (∃ done id rest e, toDelete connection form = done ++ id :: rest ∧
        Succeed answers 0 done.length ∧ answers done.length = .error e ∧
        handleSave connection form answers =
          (⟨form.unmarkAll done, allSent (deletions connection.connectionId done) ++
              [(.deleteCertificate connection.connectionId id, .error e)]⟩,
            if e.isNotFound then .ok () else .error e)) ∨
      (Succeed answers 0 (toDelete connection form).length ∧
        handleSave connection form answers =
          (⟨form.unmarkAll (toDelete connection form),
              (sendAll answers (afterDeletions connection form)
                (allSent (deletions connection.connectionId (toDelete connection form)))).1⟩,
            (sendAll answers (afterDeletions connection form)
              (allSent (deletions connection.connectionId (toDelete connection form)))).2)) := by
  rcases deleteCertificates_cases answers connection.connectionId (toDelete connection form)
    ⟨form, []⟩ with ⟨hs, he⟩ | ⟨done, id, rest, e, hids, hs, hf, he⟩
  · right
    refine ⟨hs, ?_⟩
    rw [handleSave, he]
    rfl
  · left
    rw [List.length_nil, Nat.zero_add] at hf
    refine ⟨done, id, rest, e, hids, hs, hf, ?_⟩
    rw [handleSave, he]
    rfl

/-! ## What the log tells -/

/-- The request is not a deletion. -/
def Request.IsUpdate : Request → Prop
  | .deleteCertificate _ _ => False
  | _ => True

theorem isUpdate_of_mem_afterDeletions {r : Request} (h : r ∈ afterDeletions connection form) :
    r.IsUpdate := by
  rw [afterDeletions, List.mem_append] at h
  rcases h with h | h
  · unfold mutateByUrl at h
    split at h
    · split_ifs at h
      · rw [List.mem_singleton.1 h]
        trivial
      · cases h
    · cases h
  · split_ifs at h
    · cases h
    · rw [List.mem_singleton.1 h]
      trivial

theorem deletedBy_append (log log' : Log Request MutationError) :
    deletedBy (log ++ log') = deletedBy log ++ deletedBy log' :=
  List.filterMap_append

theorem deletedBy_deletions (ids : List String) :
    deletedBy (allSent (deletions connectionId ids)) = ids := by
  induction ids with
  | nil => rfl
  | cons id ids ih => exact congrArg (id :: ·) ih

theorem deletedBy_error (r : Request) (e : MutationError) : deletedBy [(r, .error e)] = [] := by
  cases r <;> rfl

theorem deletedBy_updates {rs : List Request} (h : ∀ r ∈ rs, r.IsUpdate) :
    deletedBy (allSent rs) = [] := by
  induction rs with
  | nil => rfl
  | cons r rs ih =>
    rw [List.forall_mem_cons] at h
    cases r with
    | deleteCertificate => exact h.1.elim
    | mutateByUrl => exact ih h.2
    | mutate => exact ih h.2

/-- The deletions that a log tells of are those before the updates. -/
theorem deletedBy_sendAll (ids : List String) :
    deletedBy (sendAll answers (afterDeletions connection form)
      (allSent (deletions connectionId ids))).1 = ids := by
  rcases sendAll_cases answers (afterDeletions connection form)
    (allSent (deletions connectionId ids)) with ⟨-, he⟩ | ⟨done, r, rest, e, hrs, -, -, he⟩
  · rw [he, deletedBy_append, deletedBy_deletions,
      deletedBy_updates fun r => isUpdate_of_mem_afterDeletions, List.append_nil]
  · have hdone : ∀ r ∈ done, r.IsUpdate := fun r hr =>
      isUpdate_of_mem_afterDeletions (hrs ▸ List.mem_append_left _ hr)
    rw [he, deletedBy_append, deletedBy_append, deletedBy_deletions, deletedBy_updates hdone,
      deletedBy_error, List.append_nil, List.append_nil]

/-- However a save ends, what it has deleted is not marked any more. -/
theorem localState_handleSave :
    (handleSave connection form answers).1.localState =
      form.unmarkAll (deletedBy (handleSave connection form answers).1.log) := by
  rcases handleSave_cases connection form answers with
    ⟨done, id, rest, e, -, -, -, he⟩ | ⟨-, he⟩
  · rw [he, deletedBy_append, deletedBy_deletions, deletedBy_error, List.append_nil]
  · rw [he, deletedBy_sendAll]

theorem not_mem_certificatesAfter {server : List String} {log : Log Request MutationError}
    {id : String} : id ∉ certificatesAfter server log ↔
      (id ∈ server → ∃ entry ∈ log, removes id entry = true) := by
  simp [certificatesAfter]

/-! ## A retry -/

theorem requestsOf_eq : requestsOf connection form =
    deletions connection.connectionId (toDelete connection form) ++
      afterDeletions connection form := by
  rcases handleSave_cases connection form fun _ => .ok () with
    ⟨done, id, rest, e, -, -, hf, -⟩ | ⟨-, he⟩
  · cases hf
  · rw [requestsOf, he, sendAll_of_succeed fun _ _ => rfl]
    simp [allSent, Function.comp_def]

theorem toDelete_unmarkAll (ids : List String) :
    toDelete connection (form.unmarkAll ids) =
      (toDelete connection form).filter fun id => !ids.contains id := by
  obtain ⟨text, attributeMapping, manualConfiguration, marked⟩ := form
  cases connection with
  | saml => cases marked <;> rfl
  | oidc => rfl
  | external => rfl

theorem requestsOf_unmarkAll (ids : List String) :
    requestsOf connection (form.unmarkAll ids) =
      (requestsOf connection form).filter (Request.leaves ids) := by
  have hupdates : (afterDeletions connection form).filter (Request.leaves ids) =
      afterDeletions connection form := by
    refine List.filter_eq_self.2 fun r hr => ?_
    have := isUpdate_of_mem_afterDeletions hr
    cases r with
    | deleteCertificate => exact this.elim
    | mutateByUrl => rfl
    | mutate => rfl
  have hafter : afterDeletions connection (form.unmarkAll ids) = afterDeletions connection form :=
    rfl
  rw [requestsOf_eq, requestsOf_eq, List.filter_append, hupdates, hafter, toDelete_unmarkAll,
    deletions, deletions, List.filter_map]
  rfl

end

end StytchBrowser.AdminPortal.Details
