import StytchBrowser.Core.ErrorMarshaller
import StytchBrowser.JsUtils.PlainObject

/-!
# Calls into the iframe

The host posts a request with a port; `runHandler` looks the method up in an object of handlers, runs
the handler and posts its result or the error that it threw, as a plain object of fields
(`marshallError`), on the port; the host restores the error (`Core.ErrorMarshaller`) and settles its
promise.

`relays_iff` says for which requests the outcome of the handler arrives. The four gaps are:

* the object of handlers inherits properties, and a method that names one is answered although nobody
  registered it (`toString_answered`);
* `undefined` and `null` have no `name`, so nothing is posted when they are thrown;
* an error whose fields the clone or the constructor of its class refuses never arrives, and one of a
  class that the switch has no case for arrives as an `Error`;
* the class of API errors in the iframe does not keep the error details.
-/

universe u

namespace StytchBrowser.ClientsideServices

open StytchBrowser.Core.ErrorMarshaller (JsError)

/-! ## Errors in the iframe -/

/-- A thrown value: `undefined` or `null`, or one with enumerable fields of its own and with other
properties, which the object inherits or does not enumerate. -/
inductive Thrown where
  | nullish
  | value (enumerable : Fields) (others : String → Value)

namespace Thrown

/-- `error.k`, where it does not throw. -/
def read : Thrown → String → Value
  | .nullish, _ => .undefined
  | .value enumerable others, k => (enumerable.get k).getD (others k)

end Thrown

/-- `marshallError`. -/
def marshallError (t : Thrown) : Except TypeError Fields :=
  match t with
  | .nullish => .error .typeError
  | .value enumerable _ =>
    .ok (((enumerable.set "name" (t.read "name")).set "message" (t.read "message")).set "stack"
      (t.read "stack"))

/-- An error as the API sends it. -/
structure APIError where
  status_code : String
  request_id : Option String
  error_type : String
  error_message : String
  error_url : String
  error_details : Option (List (String × Value))

namespace APIError

def requestId (details : APIError) : Value := (details.request_id.map .string).getD .undefined

/-- The message of a `StytchAPIError`. -/
def message (details : APIError) : String :=
  "[" ++ details.status_code ++ "] " ++ details.error_type ++ "\n" ++ details.error_message ++ "\n" ++
    "See " ++ details.error_url ++ " for more information.\n" ++
    match details.request_id with
    | some id => if id = "" then "" else "request_id: " ++ id ++ "\n"
    | none => ""

/-- The fields that the API sent. -/
def received (details : APIError) : List (String × Value) :=
  [("status_code", .number details.status_code), ("error_type", .string details.error_type),
      ("error_message", .string details.error_message), ("error_url", .string details.error_url)] ++
    (details.request_id.map fun id => ("request_id", Value.string id)).toList ++
      (details.error_details.map fun fields => ("error_details", Value.object fields)).toList

/-- The fields that the constructor of a `StytchAPIError` assigns. -/
def fields (details : APIError) : Fields :=
  (((((OrderedMap.empty.set "name" (.string "StytchAPIError")).set "error_type"
    (.string details.error_type)).set "error_message" (.string details.error_message)).set
      "error_url" (.string details.error_url)).set "request_id" details.requestId).set
        "status_code" (.number details.status_code)

end APIError

/-- `new StytchAPIError(details)`, with the stack that the engine gives it. -/
def newStytchAPIError (details : APIError) (stack : String) : Thrown :=
  .value details.fields fun k =>
    if k = "message" then .string details.message
    else if k = "stack" then .string stack else .undefined

/-- `StytchAPIError.from`, for a value that is not an error; `none` where `String(err)` throws. -/
def stytchAPIErrorFrom (err : Value) (stack : String) : Option Thrown :=
  match err.field "status_code", err.field "error_type", err.field "error_message",
      err.field "error_url" with
  | .number status_code, .string error_type, .string error_message, .string error_url =>
    let request_id := match err.field "request_id" with
      | .string id => some id
      | _ => none
    some (newStytchAPIError ⟨status_code, request_id, error_type, error_message, error_url, none⟩ stack)
  | _, _, _, _ =>
    err.text.map fun t =>
      newStytchAPIError ⟨"400", none, "unknown_error", "Unknown error: " ++ t, "", none⟩ stack

/-- What `from` makes of an error that the API sent is what the constructor makes of it. -/
theorem stytchAPIErrorFrom_received (details : APIError) (stack : String) :
    stytchAPIErrorFrom (.object details.received) stack = some (newStytchAPIError details stack) := by
  obtain ⟨status_code, request_id, error_type, error_message, error_url, error_details⟩ := details
  cases request_id <;> cases error_details <;> rfl

/-! ## The iframe -/

/-- What a handler does: it returns a value or throws one; an error of the API is thrown as a new
`StytchAPIError`. -/
inductive Outcome where
  | returned (v : Value)
  | threw (t : Thrown)
  | threwAPIError (details : APIError) (stack : String)

inductive Response where
  | success (payload : Value)
  | failure (error : Fields)

structure RequestPayload where
  method : String
  args : List Value

/-- A call of `registerHandler`, for handlers `H`. -/
structure Registration (H : Type u) where
  handler : String
  handlerImpl : H

/-- A handler that ran: one that was registered, or a property that the handlers inherit. -/
inductive Ran (H : Type u) where
  | registered (handlerImpl : H) (args : List Value)
  | inherited (args : List Value)

/-- What `runHandler` does. -/
structure Run (H : Type u) where
  ran : Option (Ran H)
  posted : List Response

/-- The `catch` block: nothing is posted when reading the error or cloning its fields throws. -/
def respondError (t : Thrown) : List Response :=
  match marshallError t with
  | .error _ => []
  | .ok error => if error.cloneable then [.failure error] else []

/-- What is posted; `cloneError` is what `postMessage` throws at a value that is not cloneable. -/
def respond (cloneError : Thrown) : Outcome → List Response
  | .returned v => if v.cloneable then [.success v] else respondError cloneError
  | .threw t => respondError t
  | .threwAPIError details stack => respondError (newStytchAPIError details stack)

variable {H : Type u}

/-- The handlers after the registrations. -/
def handlers (registrations : List (Registration H)) : PlainObject (Registration H) :=
  PlainObject.index Registration.handler registrations

/-- `runHandler`. The properties that a registered function itself has are given by `fields`. -/
def runHandler (fields : Registration H → String → Option Bool) (cloneError : Thrown)
    (registrations : List (Registration H)) (req : RequestPayload) (port : Bool) (outcome : Outcome) :
    Run H :=
  match (handlers registrations).get fields req.method with
  | .undefined => ⟨none, []⟩
  | .foreign false => ⟨none, []⟩
  | .foreign true =>
    if port then ⟨some (.inherited req.args), respond cloneError outcome⟩ else ⟨none, []⟩
  | .value r =>
    if port then ⟨some (.registered r.handlerImpl req.args), respond cloneError outcome⟩
    else ⟨none, []⟩

/-! ## The host -/

/-- The promise of `IframeHostClient.call`. -/
inductive HostPromise where
  | pending
  | resolved (payload : Value)
  | rejected (error : JsError)

/-- The listener of the host's port. Where restoring the error throws, the promise stays pending. -/
def onmessage : Response → HostPromise
  | .success payload => .resolved payload
  | .failure error =>
    match Core.ErrorMarshaller.unmarshall error with
    | some e => .rejected e
    | none => .pending

/-- The port is closed after the first response. -/
def hostPromise : List Response → HostPromise
  | [] => .pending
  | r :: _ => onmessage r

/-! ## What is relayed -/

/-- The promise is rejected with an error that is like the thrown one. -/
def RelaysError (t : Thrown) (also : JsError → Prop) (promise : HostPromise) : Prop :=
  ∃ e, promise = .rejected e ∧ e.own.get "name" = some (t.read "name") ∧
    e.own.get "message" = some (t.read "message") ∧ e.own.get "stack" = some (t.read "stack") ∧
      Core.ErrorMarshaller.Designates (t.read "name") e.errorClass ∧ also e

/-- The promise has the outcome of the handler. -/
def RelaysOutcome : Outcome → HostPromise → Prop
  | .returned v, promise => promise = .resolved v
  | .threw t, promise => RelaysError t (fun _ => True) promise
  | .threwAPIError details stack, promise =>
    RelaysError (newStytchAPIError details stack)
      (fun e => ∀ f ∈ details.received, e.own.get f.1 = some f.2) promise

/-- The last registration of a method. -/
def registered (registrations : List (Registration H)) (method : String) : Option (Registration H) :=
  PlainObject.lastWith Registration.handler registrations method

/-- A registered method is answered once and its outcome relayed, and no other is answered. -/
def Relays (registrations : List (Registration H)) (req : RequestPayload) (outcome : Outcome)
    (run : Run H) : Prop :=
  match registered registrations req.method with
  | some r =>
    run.ran = some (.registered r.handlerImpl req.args) ∧ run.posted.length = 1 ∧
      RelaysOutcome outcome (hostPromise run.posted)
  | none => run.ran = none ∧ run.posted = []

/-! ## When an error arrives -/

open StytchBrowser.Core.ErrorMarshaller

/-- The error is not `undefined` or `null`, its fields are cloneable, and its name designates a class
that the switch knows and whose constructor accepts the fields. -/
def Restorable : Thrown → Prop
  | .nullish => False
  | .value enumerable others =>
    (enumerable.cloneable = true ∧
      ∀ k ∈ ["name", "message", "stack"], ((Thrown.value enumerable others).read k).cloneable = true) ∧
        Accepts (classOf ((Thrown.value enumerable others).read "name")) enumerable ∧
          ∀ s, (Thrown.value enumerable others).read "name" = .string s → s ∉ otherClassNames

/-- The fields that are sent for an error. -/
def marshalled (enumerable : Fields) (others : String → Value) : Fields :=
  ((enumerable.set "name" ((Thrown.value enumerable others).read "name")).set "message"
    ((Thrown.value enumerable others).read "message")).set "stack"
      ((Thrown.value enumerable others).read "stack")

section Marshalling

variable {enumerable : Fields} {others : String → Value}

theorem get_marshalled (k : String) :
    (marshalled enumerable others).get k =
      if k ∈ ["name", "message", "stack"] then some ((Thrown.value enumerable others).read k)
      else enumerable.get k := by
  unfold marshalled
  rw [OrderedMap.get_set, OrderedMap.get_set, OrderedMap.get_set]
  by_cases hs : k = "stack"
  · simp [hs]
  · by_cases hm : k = "message"
    · simp [hm]
    · by_cases hn : k = "name"
      · simp [hn]
      · simp [hs, hm, hn]

/-- A field that is enumerated is sent as it is. -/
theorem get_marshalled_of_enumerable {k : String} {v : Value} (h : enumerable.get k = some v) :
    (marshalled enumerable others).get k = some v := by
  rw [get_marshalled]
  split_ifs
  · rw [Thrown.read, h]
    rfl
  · exact h

theorem marshalled_cloneable :
    (marshalled enumerable others).cloneable = true ↔ enumerable.cloneable = true ∧
      ∀ k ∈ ["name", "message", "stack"],
        ((Thrown.value enumerable others).read k).cloneable = true := by
  rw [Fields.cloneable_iff, Fields.cloneable_iff]
  constructor
  · intro h
    refine ⟨fun k v hv => h k v (get_marshalled_of_enumerable hv), fun k hk => h k _ ?_⟩
    rw [get_marshalled, if_pos hk]
  · rintro ⟨henum, hread⟩ k v hv
    rw [get_marshalled] at hv
    split_ifs at hv with hk
    · obtain rfl := Option.some.inj hv
      exact hread k hk
    · exact henum k v hv

theorem accepts_marshalled (errorClass : ErrorClass) :
    Accepts errorClass (marshalled enumerable others) ↔ Accepts errorClass enumerable := by
  refine Accepts.congr fun k hk => ?_
  have hne : k ∉ ["name", "message", "stack"] := by
    revert k
    decide
  rw [get_marshalled, if_neg hne]

end Marshalling

/-- The errors that arrive. -/
theorem rejected_iff {t : Thrown} {e : JsError} :
    hostPromise (respondError t) = .rejected e ↔
      ∃ enumerable others, t = .value enumerable others ∧
        (marshalled enumerable others).cloneable = true ∧
          inflate (classOf (t.read "name")) (marshalled enumerable others) = some e := by
  cases t with
  | nullish =>
    constructor
    · intro h
      cases h
    · rintro ⟨enumerable, others, ht, -⟩
      cases ht
  | value enumerable others =>
    have hname : (marshalled enumerable others).get "name" =
        some ((Thrown.value enumerable others).read "name") := by
      rw [get_marshalled, if_pos (by decide)]
    have hpost : respondError (.value enumerable others) =
        if (marshalled enumerable others).cloneable then [.failure (marshalled enumerable others)]
        else [] := rfl
    constructor
    · intro h
      refine ⟨enumerable, others, rfl, ?_⟩
      rw [hpost] at h
      split_ifs at h with hc
      · refine ⟨hc, ?_⟩
        rw [← unmarshall_eq hname]
        dsimp only [hostPromise, onmessage] at h
        split at h
        · rename_i e' he
          rw [he, HostPromise.rejected.inj h]
        · cases h
      · cases h
    · rintro ⟨_, _, ⟨⟩, hc, he⟩
      rw [hpost, if_pos hc]
      dsimp only [hostPromise, onmessage]
      rw [unmarshall_eq hname, he]

/-- An error that arrives came in the only response. -/
theorem length_of_rejected {t : Thrown} {e : JsError}
    (h : hostPromise (respondError t) = .rejected e) : (respondError t).length = 1 := by
  unfold respondError at h ⊢
  split at h
  · cases h
  · split_ifs at h ⊢
    · rfl
    · cases h

/-- A field that was sent is a field of the error that arrives, which has the class that the switch
takes for the name. -/
theorem fields_of_rejected {t : Thrown} {e : JsError}
    (h : hostPromise (respondError t) = .rejected e) :
    e.errorClass = classOf (t.read "name") ∧
      (∀ k ∈ ["name", "message", "stack"], e.own.get k = some (t.read k)) ∧
        ∀ enumerable others, t = .value enumerable others → ∀ k v, k ≠ "__proto__" →
          enumerable.get k = some v → e.own.get k = some v := by
  obtain ⟨enumerable, others, rfl, -, he⟩ := rejected_iff.1 h
  have hread : ∀ k ∈ ["name", "message", "stack"],
      e.errorClass = classOf ((Thrown.value enumerable others).read "name") ∧
        e.own.get k = some ((Thrown.value enumerable others).read k) := by
    intro k hk
    have hne : k ≠ "__proto__" := by
      rintro rfl
      exact absurd hk (by decide)
    refine get_inflate he hne ?_
    rw [get_marshalled, if_pos hk]
  refine ⟨(hread "name" (by decide)).1, fun k hk => (hread k hk).2, ?_⟩
  rintro _ _ ⟨⟩ k v hk hv
  exact (get_inflate he hk (get_marshalled_of_enumerable hv)).2

/-- The promise is rejected with an error like the thrown one where that is restorable. -/
theorem relaysError_iff (t : Thrown) (also : JsError → Prop) :
    ((respondError t).length = 1 ∧ RelaysError t also (hostPromise (respondError t))) ↔
      Restorable t ∧ ∀ e, hostPromise (respondError t) = .rejected e → also e := by
  constructor
  · rintro ⟨-, e, he, -, -, -, hclass, halso⟩
    refine ⟨?_, fun e' he' => HostPromise.rejected.inj (he.symm.trans he') ▸ halso⟩
    obtain ⟨enumerable, others, rfl, hclone, hinflate⟩ := rejected_iff.1 he
    refine ⟨marshalled_cloneable.1 hclone, ?_, ?_⟩
    · rw [← accepts_marshalled, ← inflate_isSome, hinflate]
      rfl
    · rw [(fields_of_rejected he).1] at hclass
      exact (designates_classOf _).1 hclass
  · rintro ⟨hr, halso⟩
    obtain ⟨e, he⟩ : ∃ e, hostPromise (respondError t) = .rejected e := by
      cases t with
      | nullish => exact hr.elim
      | value enumerable others =>
        obtain ⟨hclone, haccepts, -⟩ := hr
        obtain ⟨e, he⟩ := Option.isSome_iff_exists.1
          ((inflate_isSome _ _).2 ((@accepts_marshalled enumerable others _).2 haccepts))
        exact ⟨e, rejected_iff.2 ⟨enumerable, others, rfl, marshalled_cloneable.2 hclone, he⟩⟩
    obtain ⟨hclass, hread, -⟩ := fields_of_rejected he
    refine ⟨length_of_rejected he, e, he, hread "name" (by decide), hread "message" (by decide),
      hread "stack" (by decide), ?_, halso e he⟩
    rw [hclass, designates_classOf]
    obtain ⟨enumerable, others, rfl, -⟩ := rejected_iff.1 he
    exact hr.2.2

/-! ## Errors of the API -/

theorem APIError.get_fields (details : APIError) (k : String) :
    details.fields.get k =
      if k = "status_code" then some (.number details.status_code)
      else if k = "request_id" then some details.requestId
      else if k = "error_url" then some (.string details.error_url)
      else if k = "error_message" then some (.string details.error_message)
      else if k = "error_type" then some (.string details.error_type)
      else if k = "name" then some (.string "StytchAPIError") else none := by
  unfold APIError.fields
  simp only [OrderedMap.get_set]
  rfl

theorem APIError.requestId_text (details : APIError) : details.requestId.text.isSome = true := by
  unfold requestId
  cases details.request_id <;> simp [Value.text]

theorem read_newStytchAPIError (details : APIError) (stack k : String) :
    (newStytchAPIError details stack).read k =
      (details.fields.get k).getD
        (if k = "message" then .string details.message
        else if k = "stack" then .string stack else .undefined) :=
  rfl

theorem name_newStytchAPIError (details : APIError) (stack : String) :
    (newStytchAPIError details stack).read "name" = .string "StytchAPIError" := by
  rw [read_newStytchAPIError, APIError.get_fields]
  rfl

theorem APIError.fields_cloneable (details : APIError) : details.fields.cloneable = true := by
  rw [Fields.cloneable_iff]
  intro k v hv
  rw [APIError.get_fields] at hv
  split_ifs at hv <;> obtain rfl := Option.some.inj hv
  all_goals try rfl
  unfold requestId
  cases details.request_id <;> rfl

/-- Every field is a number or a string, so the message can be written. -/
theorem APIError.fields_readable (details : APIError) : APIReadable details.fields := by
  constructor
  · rw [readField, get_fields]
    rfl
  · rw [readField, get_fields]
    rfl
  · rw [readField, get_fields]
    rfl
  · rw [readField, get_fields]
    rfl
  · intro
    rw [readField, get_fields]
    exact details.requestId_text
  · intro h
    rw [readField, get_fields] at h
    exact absurd h Bool.false_ne_true

/-- The error that the class in the iframe makes can be restored. -/
theorem restorable_newStytchAPIError (details : APIError) (stack : String) :
    Restorable (newStytchAPIError details stack) := by
  have hname := name_newStytchAPIError details stack
  refine ⟨⟨details.fields_cloneable, fun k hk => ?_⟩, ?_, ?_⟩
  · change ((newStytchAPIError details stack).read k).cloneable = true
    simp only [List.mem_cons, List.not_mem_nil, or_false] at hk
    rcases hk with rfl | rfl | rfl
    · rw [hname]
      rfl
    · rw [read_newStytchAPIError, APIError.get_fields]
      rfl
    · rw [read_newStytchAPIError, APIError.get_fields]
      rfl
  · change Accepts (classOf ((newStytchAPIError details stack).read "name")) _
    rw [hname]
    exact details.fields_readable
  · change ∀ s, (newStytchAPIError details stack).read "name" = .string s → _
    rw [hname]
    rintro _ ⟨⟩
    decide

/-- Of the fields that the API sent only the error details are not assigned. -/
theorem APIError.get_fields_of_received {details : APIError} (hd : details.error_details = none)
    {f : String × Value} (hf : f ∈ details.received) : details.fields.get f.1 = some f.2 := by
  rw [APIError.get_fields]
  unfold received at hf
  rw [hd] at hf
  cases hr : details.request_id with
  | none =>
    rw [hr] at hf
    simp only [Option.map_none, Option.toList_none, List.append_nil, List.mem_cons, List.not_mem_nil,
      or_false] at hf
    rcases hf with rfl | rfl | rfl | rfl <;> rfl
  | some id =>
    have hid : details.requestId = .string id := by
      rw [requestId, hr]
      rfl
    rw [hr] at hf
    simp only [Option.map_none, Option.map_some, Option.toList_none, Option.toList_some,
      List.append_nil, List.cons_append, List.nil_append, List.mem_cons, List.not_mem_nil,
      or_false] at hf
    rcases hf with rfl | rfl | rfl | rfl | rfl
    · rfl
    · rfl
    · rfl
    · rfl
    · exact congrArg some hid

/-- The error details that the API sent do not arrive, and all other fields do. -/
theorem received_iff {details : APIError} {stack : String} {e : JsError}
    (he : hostPromise (respondError (newStytchAPIError details stack)) = .rejected e) :
    (∀ f ∈ details.received, e.own.get f.1 = some f.2) ↔ details.error_details = none := by
  obtain ⟨enumerable, others, ⟨⟩, -, hinflate⟩ := rejected_iff.1 he
  have hsent : ∀ k v, details.fields.get k = some v → e.own.get k = some v := by
    intro k v hv
    refine (fields_of_rejected he).2.2 _ _ rfl k v ?_ hv
    rintro rfl
    rw [APIError.get_fields] at hv
    cases hv
  have hlost : e.own.get "error_details" = some .undefined := by
    refine get_inflate_stytchAPIError hinflate (by decide) ?_
    rw [get_marshalled, APIError.get_fields]
    rfl
  constructor
  · intro hall
    cases hd : details.error_details with
    | none => rfl
    | some fields =>
      have hmem : ("error_details", Value.object fields) ∈ details.received := by
        simp [APIError.received, hd]
      rw [hall _ hmem] at hlost
      cases hlost
  · exact fun hd f hf => hsent f.1 f.2 (APIError.get_fields_of_received hd hf)

/-! ## Which requests are relayed -/

/-- The value that a handler returns is cloneable. -/
def Outcome.Cloneable : Outcome → Prop
  | .returned v => v.cloneable = true
  | .threw _ => True
  | .threwAPIError _ _ => True

/-- The outcomes that arrive. -/
def Outcome.Relayable : Outcome → Prop
  | .returned _ => True
  | .threw t => Restorable t
  | .threwAPIError details _ => details.error_details = none

/-- The handlers do not inherit a truthy property of the method's name: it is not `__proto__`, not
one of a function registered as `__proto__`, and not one of `Object.prototype`. -/
def NotInherited (fields : Registration H → String → Option Bool)
    (registrations : List (Registration H)) (method : String) : Prop :=
  method ≠ "__proto__" ∧
    match (registered registrations "__proto__").bind fun r => fields r method with
    | some truthy => truthy = false
    | none => method ∉ objectPrototypeNames

/-- The requests that are relayed. -/
def Relayable (fields : Registration H → String → Option Bool)
    (registrations : List (Registration H)) (req : RequestPayload) (outcome : Outcome) : Prop :=
  match registered registrations req.method with
  | some _ => outcome.Relayable
  | none => NotInherited fields registrations req.method

variable {fields : Registration H → String → Option Bool} {cloneError : Thrown}
  {registrations : List (Registration H)} {req : RequestPayload} {outcome : Outcome}

theorem respond_iff (h : outcome.Cloneable) :
    ((respond cloneError outcome).length = 1 ∧
      RelaysOutcome outcome (hostPromise (respond cloneError outcome))) ↔ outcome.Relayable := by
  cases outcome with
  | returned v =>
    have hv : v.cloneable = true := h
    rw [respond, if_pos hv]
    exact ⟨fun _ => trivial, fun _ => ⟨rfl, rfl⟩⟩
  | threw t => exact (relaysError_iff t _).trans (and_iff_left fun e _ => trivial)
  | threwAPIError details stack =>
    have hr := restorable_newStytchAPIError details stack
    have hiff := relaysError_iff (newStytchAPIError details stack)
    constructor
    · intro hrelays
      obtain ⟨-, e, he, -⟩ := (hiff fun _ => True).2 ⟨hr, fun _ _ => trivial⟩
      exact (received_iff he).1 (((hiff _).1 hrelays).2 e he)
    · exact fun hd => (hiff _).2 ⟨hr, fun e he => (received_iff he).2 hd⟩

theorem runHandler_registered {r : Registration H} (hr : registered registrations req.method = some r) :
    runHandler fields cloneError registrations req true outcome =
      ⟨some (.registered r.handlerImpl req.args), respond cloneError outcome⟩ := by
  unfold registered at hr
  rw [runHandler, handlers, PlainObject.get_index, hr]
  rfl

/-- A method that nobody registered is answered where the handlers inherit it. -/
theorem runHandler_unregistered (hr : registered registrations req.method = none) :
    ((runHandler fields cloneError registrations req true outcome).ran = none ∧
      (runHandler fields cloneError registrations req true outcome).posted = []) ↔
        NotInherited fields registrations req.method := by
  unfold registered at hr
  rw [runHandler, handlers, PlainObject.get_index, hr]
  unfold NotInherited registered
  by_cases hp : req.method = "__proto__"
  · simp [hp]
  · simp only [ne_eq, hp, not_false_iff, true_and]
    cases (PlainObject.lastWith Registration.handler registrations "__proto__").bind
      fun r => fields r req.method with
    | some truthy => cases truthy <;> simp
    | none =>
      by_cases hm : req.method ∈ objectPrototypeNames
      · simp [hm]
      · simp [hm]

/-- Without a port nothing runs and nothing is posted. -/
theorem runHandler_no_port :
    runHandler fields cloneError registrations req false outcome = ⟨none, []⟩ := by
  unfold runHandler
  split <;> rfl

/-- A request is relayed faithfully where its method is registered and the outcome of the handler is
relayable, or the method is not registered and not inherited. -/
theorem relays_iff (fields : Registration H → String → Option Bool) (cloneError : Thrown)
    (registrations : List (Registration H)) (req : RequestPayload) (outcome : Outcome)
    (h : outcome.Cloneable) :
    Relays registrations req outcome
        (runHandler fields cloneError registrations req true outcome) ↔
      Relayable fields registrations req outcome := by
  unfold Relays Relayable
  cases hr : registered registrations req.method with
  | some r =>
    rw [runHandler_registered hr]
    exact (and_iff_right rfl).trans (respond_iff h)
  | none => exact runHandler_unregistered hr

/-- `oneTapStart` returns an object, and the host receives it. -/
theorem oneTapStart_relayed :
    Relays [⟨"oneTapStart", ()⟩] ⟨"oneTapStart", []⟩
      (.returned (.object [("requestId", .string "request-id")]))
      (runHandler (fun _ _ => none) .nullish [⟨"oneTapStart", ()⟩] ⟨"oneTapStart", []⟩ true
        (.returned (.object [("requestId", .string "request-id")]))) :=
  have hclone : (Outcome.returned (.object [("requestId", .string "request-id")])).Cloneable := rfl
  (relays_iff _ _ _ _ _ hclone).2 trivial

/-- `toString` is registered nowhere, and a request for it is answered. -/
theorem toString_answered :
    ¬ Relays [⟨"oneTapStart", ()⟩] ⟨"toString", []⟩ (.returned (.string "[object Undefined]"))
      (runHandler (fun _ _ => none) .nullish [⟨"oneTapStart", ()⟩] ⟨"toString", []⟩ true
        (.returned (.string "[object Undefined]"))) := by
  rintro ⟨h, -⟩
  cases h

end StytchBrowser.ClientsideServices
