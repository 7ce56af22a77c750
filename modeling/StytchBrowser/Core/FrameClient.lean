import StytchBrowser.ClientsideServices.IframeClient
import StytchBrowser.Lib.Machine
import StytchBrowser.Lib.Slots

/-!
# The host of the iframe

Every `IframeHostClient` of a page looks for an iframe with its URL and makes one when there is none.
A message that is posted to an iframe which has not loaded is lost, so that a client waits for the
event `load`, or trusts the attribute that another client left on the element. A call posts its
request with a port of its own.

* `calls_relayed`: in every run there is one iframe for a URL, no request is lost or handled twice, and
  a call is settled with what the handler of its own request came to.
-/

universe u

namespace StytchBrowser.Core.FrameClient

open StytchBrowser.ClientsideServices

/-- An iframe in the document. -/
structure Iframe where
  src : String
  /-- Its document has loaded, and can be posted to. -/
  ready : Bool
  /-- `dataset.loaded === 'true'`. -/
  loaded : Bool
  /-- The clients that listen for `load`. -/
  listeners : List ℕ

/-- A client: its URL, the element it found or made, and whether `frame` is fulfilled. -/
structure Client where
  iframeURL : String
  frame : ℕ
  resolved : Bool

inductive Phase where
  /-- `await this.frame`. -/
  | waiting
  | posted
  | settled (promise : HostPromise)

structure Call where
  client : ℕ
  request : RequestPayload
  phase : Phase

/-- A request on its way to an iframe; `port` is that of the call's channel. -/
structure Message where
  frame : ℕ
  request : RequestPayload
  port : ℕ

/-- A request that an iframe has handled. -/
structure Handled where
  request : RequestPayload
  port : ℕ
  outcome : Outcome

/-- A page, with the messages and the responses on their way. -/
structure Page where
  iframes : List Iframe
  clients : List Client
  calls : List Call
  messages : List Message
  responses : List (ℕ × Response)
  handled : List Handled

inductive Action where
  | createIframe (iframeURL : String)
  | load (i : ℕ)
  | call (c : ℕ) (method : String) (args : List Value)
  | postMessage (k : ℕ)
  | runHandler (m : ℕ) (outcome : Outcome)
  | onmessage (r : ℕ)

/-- What is registered in the iframe. -/
structure Services (H : Type u) where
  fields : Registration H → String → Option Bool
  cloneError : Thrown
  registrations : List (Registration H)

/-- What the iframe posts on the port of a request. -/
def Services.posted {H : Type u} (services : Services H) (req : RequestPayload) (outcome : Outcome) :
    List Response :=
  (ClientsideServices.runHandler services.fields services.cloneError services.registrations req true
    outcome).posted

namespace Page

variable {H : Type u} (services : Services H)

/-- The element that `querySelector` finds. -/
def existingIframe (p : Page) (iframeURL : String) : Option (Iframe × ℕ) :=
  p.iframes.zipIdx.find? fun e => e.1.src = iframeURL

/-- `createIframe`. -/
def createIframe (p : Page) (iframeURL : String) : Page :=
  match p.existingIframe iframeURL with
  | none =>
      { p with
        iframes := p.iframes ++ [⟨iframeURL, false, false, [p.clients.length]⟩]
        clients := p.clients ++ [⟨iframeURL, p.iframes.length, false⟩] }
  | some (frame, i) =>
      if frame.loaded then { p with clients := p.clients ++ [⟨iframeURL, i, true⟩] }
      else
        { p with
          iframes := p.iframes.set i { frame with listeners := frame.listeners ++ [p.clients.length] }
          clients := p.clients ++ [⟨iframeURL, i, false⟩] }

/-- The event `load`, whose listeners set the attribute and fulfil their promises. -/
def load (p : Page) (i : ℕ) (frame : Iframe) : Page :=
  { p with
    iframes := p.iframes.set i
      { frame with ready := true, loaded := frame.loaded || !frame.listeners.isEmpty, listeners := [] }
    clients := p.clients.mapIdx fun c client =>
      if c ∈ frame.listeners then { client with resolved := true } else client }

/-- The rest of `call`; what is posted to an iframe that is not ready is lost. -/
def postMessage (p : Page) (k : ℕ) (call : Call) (frame : ℕ) : Page :=
  { p with
    calls := p.calls.set k { call with phase := .posted }
    messages :=
      if (p.iframes[frame]?.map (·.ready)).getD false then p.messages ++ [⟨frame, call.request, k⟩]
      else p.messages }

/-- The listener of a call's port, which closes the port. -/
def onmessage (resp : Response) (call : Call) : Call :=
  match call.phase with
  | .posted => { call with phase := .settled (ClientsideServices.onmessage resp) }
  | _ => call

/-- One step of a page, `none` when the step is not possible. -/
def next (p : Page) : Action → Option Page
  | .createIframe iframeURL => some (p.createIframe iframeURL)
  | .load i =>
      match p.iframes[i]? with
      | some frame => if frame.ready then none else some (p.load i frame)
      | none => none
  | .call c method args =>
      if c < p.clients.length then some { p with calls := p.calls ++ [⟨c, ⟨method, args⟩, .waiting⟩] }
      else none
  | .postMessage k =>
      match p.calls[k]? with
      | some ⟨c, request, .waiting⟩ =>
          match p.clients[c]? with
          | some ⟨_, frame, true⟩ => some (p.postMessage k ⟨c, request, .waiting⟩ frame)
          | _ => none
      | _ => none
  | .runHandler m outcome =>
      p.messages[m]?.map fun message =>
        { p with
          messages := p.messages.eraseIdx m
          responses := p.responses ++
            (services.posted message.request outcome).map fun resp => (message.port, resp)
          handled := ⟨message.request, message.port, outcome⟩ :: p.handled }
  | .onmessage r =>
      p.responses[r]?.map fun response =>
        { p with
          responses := p.responses.eraseIdx r
          calls := p.calls.modify response.1 (onmessage response.2) }

end Page

/-- A page on which no client was made. -/
def page {H : Type u} (services : Services H) : Machine Page Action where
  init p := p = ⟨[], [], [], [], [], []⟩
  next := Page.next services

/-! ## Iframes -/

/-- There is one iframe for a URL, and a client waits for its own iframe exactly until that is ready. -/
structure Loads (iframes : List Iframe) (clients : List Client) : Prop where
  srcs : (iframes.map (·.src)).Nodup
  loaded : ∀ frame ∈ iframes, frame.loaded = frame.ready
  listened : ∀ frame ∈ iframes, frame.ready = false → frame.listeners ≠ []
  listener : ∀ (i : ℕ) (frame : Iframe), iframes[i]? = some frame → ∀ c ∈ frame.listeners,
    ∃ client, clients[c]? = some client ∧ client.frame = i
  client : ∀ (c : ℕ) (client : Client), clients[c]? = some client → ∃ frame,
    iframes[client.frame]? = some frame ∧ frame.src = client.iframeURL ∧
      client.resolved = frame.ready ∧ (frame.ready = false → c ∈ frame.listeners)

section Iframes

variable {p : Page} {url : String} {i : ℕ}

theorem existingIframe_eq_none (h : p.existingIframe url = none) : ∀ frame ∈ p.iframes, frame.src ≠ url := by
  intro frame hframe
  obtain ⟨i, hi⟩ := List.mem_iff_getElem?.1 hframe
  exact fun hsrc => List.find?_eq_none.1 h (frame, i) (List.mem_zipIdx_iff_getElem?.2 hi) (decide_eq_true hsrc)

theorem existingIframe_eq_some {frame : Iframe} (h : p.existingIframe url = some (frame, i)) :
    p.iframes[i]? = some frame ∧ frame.src = url := by
  unfold Page.existingIframe at h
  have hsrc := List.find?_some h
  exact ⟨List.mem_zipIdx_iff_getElem?.1 (List.mem_of_find?_eq_some h), of_decide_eq_true hsrc⟩

theorem Loads.createIframe_new (h : Loads p.iframes p.clients) (hnew : p.existingIframe url = none) :
    Loads (p.iframes ++ [⟨url, false, false, [p.clients.length]⟩])
      (p.clients ++ [⟨url, p.iframes.length, false⟩]) := by
  have hne := existingIframe_eq_none hnew
  refine ⟨?_, ?_, ?_, ?_, ?_⟩
  · rw [List.map_append, List.nodup_append]
    refine ⟨h.srcs, List.nodup_singleton _, fun src hsrc src' hsrc' heq => ?_⟩
    obtain ⟨frame, hframe, rfl⟩ := List.mem_map.1 hsrc
    exact hne frame hframe (heq.trans (List.mem_singleton.1 hsrc'))
  · intro frame hframe
    rcases List.mem_append.1 hframe with hframe | hframe
    · exact h.loaded frame hframe
    · obtain rfl := List.mem_singleton.1 hframe
      rfl
  · intro frame hframe hready
    rcases List.mem_append.1 hframe with hframe | hframe
    · exact h.listened frame hframe hready
    · obtain rfl := List.mem_singleton.1 hframe
      exact List.cons_ne_nil _ _
  · intro i frame hi c hc
    rcases Slots.of_concat hi with ⟨rfl, rfl⟩ | hi
    · obtain rfl := List.mem_singleton.1 hc
      exact ⟨_, List.getElem?_concat_length, rfl⟩
    · obtain ⟨client, hclient, hframe⟩ := h.listener i frame hi c hc
      exact ⟨client, (List.getElem?_append_left (List.getElem?_eq_some_iff.1 hclient).1).trans hclient, hframe⟩
  · intro c client hc
    rcases Slots.of_concat hc with ⟨rfl, rfl⟩ | hc
    · exact ⟨_, List.getElem?_concat_length, rfl, rfl, fun _ => List.mem_singleton.2 rfl⟩
    · obtain ⟨frame, hframe, hrest⟩ := h.client c client hc
      exact ⟨frame, (List.getElem?_append_left (List.getElem?_eq_some_iff.1 hframe).1).trans hframe, hrest⟩

theorem Loads.createIframe_loaded (h : Loads p.iframes p.clients) {frame : Iframe}
    (hi : p.iframes[i]? = some frame) (hloaded : frame.loaded = true) :
    Loads p.iframes (p.clients ++ [⟨frame.src, i, true⟩]) := by
  refine ⟨h.srcs, h.loaded, h.listened, fun j frame' hj c hc => ?_, fun c client hc => ?_⟩
  · obtain ⟨client, hclient, hframe⟩ := h.listener j frame' hj c hc
    exact ⟨client, (List.getElem?_append_left (List.getElem?_eq_some_iff.1 hclient).1).trans hclient, hframe⟩
  · rcases Slots.of_concat hc with ⟨rfl, rfl⟩ | hc
    · have hready := (h.loaded frame (List.mem_of_getElem? hi)).symm.trans hloaded
      refine ⟨frame, hi, rfl, hready.symm, fun hnot => ?_⟩
      rw [hready] at hnot
      cases hnot
    · exact h.client c client hc

theorem srcs_set {l : List Iframe} {frame frame' : Iframe} (hi : l[i]? = some frame)
    (hsrc : frame'.src = frame.src) : (l.set i frame').map (·.src) = l.map (·.src) := by
  rw [List.map_set]
  refine List.ext_getElem? fun j => ?_
  rw [List.getElem?_set, List.length_map, List.getElem?_map]
  split_ifs with hj hlt
  · subst hj
    rw [hi, Option.map_some, hsrc]
  · subst hj
    exact absurd (List.getElem?_eq_some_iff.1 hi).1 hlt
  · rfl

theorem Loads.createIframe_waits (h : Loads p.iframes p.clients) {frame : Iframe}
    (hi : p.iframes[i]? = some frame) (hloaded : frame.loaded = false) :
    Loads (p.iframes.set i { frame with listeners := frame.listeners ++ [p.clients.length] })
      (p.clients ++ [⟨frame.src, i, false⟩]) := by
  have hmem := List.mem_of_getElem? hi
  have hready := (h.loaded frame hmem).symm.trans hloaded
  have hset := Slots.set_self (x := { frame with listeners := frame.listeners ++ [p.clients.length] }) hi
  refine ⟨?_, ?_, ?_, fun j frame' hj c hc => ?_, fun c client hc => ?_⟩
  · rw [srcs_set hi]
    · exact h.srcs
    · rfl
  · intro frame' hframe'
    rcases List.mem_or_eq_of_mem_set hframe' with hframe' | rfl
    · exact h.loaded frame' hframe'
    · exact h.loaded frame hmem
  · intro frame' hframe' hnot
    rcases List.mem_or_eq_of_mem_set hframe' with hframe' | rfl
    · exact h.listened frame' hframe' hnot
    · exact List.append_ne_nil_of_right_ne_nil _ (List.cons_ne_nil _ _)
  · have hold : ∀ j frame', p.iframes[j]? = some frame' → c ∈ frame'.listeners →
        ∃ client, (p.clients ++ [⟨frame.src, i, false⟩])[c]? = some client ∧ client.frame = j := by
      intro j frame' hj hc
      obtain ⟨client, hclient, hframe⟩ := h.listener j frame' hj c hc
      exact ⟨client, (List.getElem?_append_left (List.getElem?_eq_some_iff.1 hclient).1).trans hclient, hframe⟩
    rcases Slots.of_set hj with ⟨rfl, rfl⟩ | ⟨-, hj⟩
    · rcases List.mem_append.1 hc with hc | hc
      · exact hold i frame hi hc
      · obtain rfl := List.mem_singleton.1 hc
        exact ⟨_, List.getElem?_concat_length, rfl⟩
    · exact hold j frame' hj hc
  · rcases Slots.of_concat hc with ⟨rfl, rfl⟩ | hc
    · exact ⟨_, hset, rfl, hready.symm, fun _ => List.mem_append_right _ (List.mem_singleton.2 rfl)⟩
    · obtain ⟨frame', hframe', hsrc, hresolved, hlisten⟩ := h.client c client hc
      by_cases hclient : i = client.frame
      · subst hclient
        obtain rfl := Option.some.inj (hi.symm.trans hframe')
        exact ⟨_, hset, hsrc, hresolved, fun hnot => List.mem_append_left _ (hlisten hnot)⟩
      · exact ⟨frame', (List.getElem?_set_ne hclient).trans hframe', hsrc, hresolved, hlisten⟩

theorem Loads.load (h : Loads p.iframes p.clients) {frame : Iframe}
    (hi : p.iframes[i]? = some frame) (hready : frame.ready = false) :
    Loads (p.load i frame).iframes (p.load i frame).clients := by
  have hmem := List.mem_of_getElem? hi
  have hheard : frame.listeners.isEmpty = false := by
    rw [List.isEmpty_eq_false_iff]
    exact h.listened frame hmem hready
  have hclients : ∀ c, (p.load i frame).clients[c]? = p.clients[c]?.map fun client =>
      if c ∈ frame.listeners then { client with resolved := true } else client :=
    fun c => List.getElem?_mapIdx
  unfold Page.load at hclients ⊢
  refine ⟨?_, ?_, ?_, fun j frame' hj c hc => ?_, fun c client hc => ?_⟩
  · rw [srcs_set hi]
    · exact h.srcs
    · rfl
  · intro frame' hframe'
    rcases List.mem_or_eq_of_mem_set hframe' with hframe' | rfl
    · exact h.loaded frame' hframe'
    · simp [hheard]
  · intro frame' hframe' hnot
    rcases List.mem_or_eq_of_mem_set hframe' with hframe' | rfl
    · exact h.listened frame' hframe' hnot
    · cases hnot
  · rcases Slots.of_set hj with ⟨-, rfl⟩ | ⟨-, hj⟩
    · exact absurd hc List.not_mem_nil
    · obtain ⟨client, hclient, rfl⟩ := h.listener j frame' hj c hc
      refine ⟨_, (hclients c).trans (congrArg _ hclient), ?_⟩
      dsimp only
      split_ifs <;> rfl
  · obtain ⟨client, hclient, rfl⟩ := Option.map_eq_some_iff.1 ((hclients c).symm.trans hc)
    obtain ⟨frame', hframe', hsrc, hresolved, hlisten⟩ := h.client c client hclient
    by_cases hc' : i = client.frame
    · subst hc'
      obtain rfl := Option.some.inj (hi.symm.trans hframe')
      rw [if_pos (hlisten hready)]
      exact ⟨_, Slots.set_self hi, hsrc, rfl, fun hnot => by cases hnot⟩
    · have hother : c ∉ frame.listeners := by
        intro hlistener
        obtain ⟨client', hclient', hframe⟩ := h.listener i frame hi c hlistener
        obtain rfl := Option.some.inj (hclient.symm.trans hclient')
        exact hc' hframe.symm
      rw [if_neg hother]
      exact ⟨frame', (List.getElem?_set_ne hc').trans hframe', hsrc, hresolved, hlisten⟩

theorem Loads.createIframe (h : Loads p.iframes p.clients) (url : String) :
    Loads (p.createIframe url).iframes (p.createIframe url).clients := by
  unfold Page.createIframe
  split
  · next hnew => exact h.createIframe_new hnew
  · next frame i hold =>
    obtain ⟨hi, rfl⟩ := existingIframe_eq_some hold
    split_ifs with hloaded
    · exact h.createIframe_loaded hi hloaded
    · exact h.createIframe_waits hi (Bool.eq_false_iff.2 hloaded)

end Iframes

/-! ## Calls -/

/-- The ports of the requests that are on their way or were handled. -/
def ports (p : Page) : List ℕ := p.messages.map (·.port) ++ p.handled.map (·.port)

section Calls

variable {H : Type u} (services : Services H)

/-- What a page has of each call. -/
structure Relayed (p : Page) : Prop where
  ports_nodup : (ports p).Nodup
  message : ∀ m ∈ p.messages, ∃ c, p.calls[m.port]? = some ⟨c, m.request, .posted⟩
  handled : ∀ e ∈ p.handled, ∃ c phase, p.calls[e.port]? = some ⟨c, e.request, phase⟩ ∧ phase ≠ .waiting
  response : ∀ r ∈ p.responses, ∃ e ∈ p.handled, e.port = r.1 ∧
    r.2 ∈ services.posted e.request e.outcome
  posted : ∀ k c request, p.calls[k]? = some ⟨c, request, .posted⟩ → k ∈ ports p
  settled : ∀ k c request promise, p.calls[k]? = some ⟨c, request, .settled promise⟩ →
    ∃ outcome, ⟨request, k, outcome⟩ ∈ p.handled ∧ promise = hostPromise (services.posted request outcome)

variable {services} {p p' : Page}

theorem posted_eq (req : RequestPayload) (outcome : Outcome) :
    services.posted req outcome = [] ∨
      services.posted req outcome = respond services.cloneError outcome := by
  unfold Services.posted ClientsideServices.runHandler
  split
  · exact .inl rfl
  · exact .inl rfl
  · rw [if_pos rfl]
    exact .inr rfl
  · rw [if_pos rfl]
    exact .inr rfl

/-- At most one response is posted on a port. -/
theorem posted_eq_singleton {req : RequestPayload} {outcome : Outcome} {resp : Response}
    (h : resp ∈ services.posted req outcome) : services.posted req outcome = [resp] := by
  have herror : ∀ t, resp ∈ respondError t → respondError t = [resp] := by
    intro t ht
    unfold respondError at ht ⊢
    split at ht
    · exact absurd ht List.not_mem_nil
    · split_ifs at ht ⊢
      · rw [List.mem_singleton.1 ht]
      · exact absurd ht List.not_mem_nil
  rcases @posted_eq _ services req outcome with heq | heq
  · rw [heq] at h
    exact absurd h List.not_mem_nil
  · rw [heq] at h ⊢
    cases outcome with
    | returned v =>
      unfold respond at h ⊢
      dsimp only at h ⊢
      split_ifs at h ⊢
      · rw [List.mem_singleton.1 h]
      · exact herror _ h
    | threw t => exact herror t h
    | threwAPIError details stack => exact herror (newStytchAPIError details stack) h

theorem Relayed.frames (h : Relayed services p) (iframes : List Iframe) (clients : List Client) :
    Relayed services { p with iframes, clients } :=
  ⟨h.ports_nodup, h.message, h.handled, h.response, h.posted, h.settled⟩

theorem createIframe_eq (p : Page) (url : String) :
    ∃ iframes clients, p.createIframe url = { p with iframes, clients } := by
  unfold Page.createIframe
  split
  · exact ⟨_, _, rfl⟩
  · split
    · exact ⟨_, _, rfl⟩
    · exact ⟨_, _, rfl⟩

theorem Relayed.call (h : Relayed services p) (c : ℕ) (request : RequestPayload) :
    Relayed services { p with calls := p.calls ++ [⟨c, request, .waiting⟩] } := by
  have hold : ∀ (k : ℕ) (call : Call), p.calls[k]? = some call →
      (p.calls ++ [⟨c, request, .waiting⟩])[k]? = some call := fun k call hk =>
    (List.getElem?_append_left (List.getElem?_eq_some_iff.1 hk).1).trans hk
  refine ⟨h.ports_nodup, fun m hm => ?_, fun e he => ?_, h.response, fun k c' request' hk => ?_,
    fun k c' request' promise hk => ?_⟩
  · obtain ⟨c', hc'⟩ := h.message m hm
    exact ⟨c', hold _ _ hc'⟩
  · obtain ⟨c', phase, hc', hphase⟩ := h.handled e he
    exact ⟨c', phase, hold _ _ hc', hphase⟩
  · rcases Slots.of_concat hk with ⟨-, heq⟩ | hk
    · cases heq
    · exact h.posted k c' request' hk
  · rcases Slots.of_concat hk with ⟨-, heq⟩ | hk
    · cases heq
    · exact h.settled k c' request' promise hk

/-- A request is posted to an iframe that is ready. -/
theorem Relayed.postMessage (h : Relayed services p) {k c frame : ℕ} {request : RequestPayload}
    (hk : p.calls[k]? = some ⟨c, request, .waiting⟩) {iframe : Iframe}
    (hframe : p.iframes[frame]? = some iframe) (hready : iframe.ready = true) :
    Relayed services (p.postMessage k ⟨c, request, .waiting⟩ frame) := by
  have hready : (p.iframes[frame]?.map (·.ready)).getD false = true := by rw [hframe]; exact hready
  have hnew : k ∉ ports p := by
    intro hmem
    rcases List.mem_append.1 hmem with hmem | hmem
    · obtain ⟨m, hm, rfl⟩ := List.mem_map.1 hmem
      obtain ⟨c', hc'⟩ := h.message m hm
      cases Option.some.inj (hk.symm.trans hc')
    · obtain ⟨e, he, rfl⟩ := List.mem_map.1 hmem
      obtain ⟨c', phase, hc', hphase⟩ := h.handled e he
      cases Option.some.inj (hk.symm.trans hc')
      exact hphase rfl
  have hports : ports (p.postMessage k ⟨c, request, .waiting⟩ frame) =
      p.messages.map (·.port) ++ [k] ++ p.handled.map (·.port) := by
    rw [ports, Page.postMessage, if_pos hready, List.map_append]
    rfl
  have hperm : (ports (p.postMessage k ⟨c, request, .waiting⟩ frame)).Perm (k :: ports p) := by
    rw [hports, ports, List.append_assoc]
    exact List.perm_middle
  have hold : ∀ (j : ℕ) (call : Call), j ≠ k → p.calls[j]? = some call →
      (p.calls.set k ⟨c, request, .posted⟩)[j]? = some call := fun j call hj hcall =>
    (List.getElem?_set_ne (Ne.symm hj)).trans hcall
  unfold Page.postMessage at hperm ⊢
  rw [if_pos hready] at hperm ⊢
  refine ⟨?_, fun m hm => ?_, fun e he => ?_, h.response, fun j c' request' hj => ?_,
    fun j c' request' promise hj => ?_⟩
  · exact hperm.nodup_iff.2 (List.nodup_cons.2 ⟨hnew, h.ports_nodup⟩)
  · rcases List.mem_append.1 hm with hm | hm
    · obtain ⟨c', hc'⟩ := h.message m hm
      refine ⟨c', hold _ _ ?_ hc'⟩
      rintro rfl
      cases Option.some.inj (hk.symm.trans hc')
    · obtain rfl := List.mem_singleton.1 hm
      exact ⟨c, Slots.set_self hk⟩
  · obtain ⟨c', phase, hc', hphase⟩ := h.handled e he
    refine ⟨c', phase, hold _ _ ?_ hc', hphase⟩
    rintro rfl
    cases Option.some.inj (hk.symm.trans hc')
    exact hphase rfl
  · refine hperm.mem_iff.2 ?_
    rcases Slots.of_set hj with ⟨rfl, -⟩ | ⟨-, hj⟩
    · exact List.mem_cons_self
    · exact List.mem_cons_of_mem _ (h.posted j c' request' hj)
  · rcases Slots.of_set hj with ⟨-, heq⟩ | ⟨-, hj⟩
    · cases heq
    · exact h.settled j c' request' promise hj

/-- The iframe handles a request. -/
theorem Relayed.runHandler (h : Relayed services p) {m : ℕ} {message : Message}
    (hm : p.messages[m]? = some message) (outcome : Outcome) :
    Relayed services { p with
      messages := p.messages.eraseIdx m
      responses := p.responses ++
        (services.posted message.request outcome).map fun resp => (message.port, resp)
      handled := ⟨message.request, message.port, outcome⟩ :: p.handled } := by
  obtain ⟨hlt, rfl⟩ := List.getElem?_eq_some_iff.1 hm
  have hperm : (((p.messages.eraseIdx m).map (·.port)) ++ p.messages[m].port :: p.handled.map (·.port)).Perm
      (ports p) := by
    refine List.perm_middle.trans ?_
    rw [ports, ← List.cons_append, ← List.map_cons (f := fun m : Message => m.port)]
    exact ((List.getElem_cons_eraseIdx_perm hlt).map _).append_right _
  refine ⟨hperm.nodup_iff.2 h.ports_nodup, fun m' hm' => h.message m' (List.mem_of_mem_eraseIdx hm'),
    fun e he => ?_, fun r hr => ?_, fun k c request hk => hperm.mem_iff.2 (h.posted k c request hk),
    fun k c request promise hk => ?_⟩
  · rcases List.mem_cons.1 he with rfl | he
    · obtain ⟨c, hc⟩ := h.message p.messages[m] (List.mem_of_getElem? hm)
      exact ⟨c, .posted, hc, nofun⟩
    · exact h.handled e he
  · rcases List.mem_append.1 hr with hr | hr
    · obtain ⟨e, he, hport, hresp⟩ := h.response r hr
      exact ⟨e, List.mem_cons_of_mem _ he, hport, hresp⟩
    · obtain ⟨resp, hresp, rfl⟩ := List.mem_map.1 hr
      exact ⟨_, List.mem_cons_self, rfl, hresp⟩
  · obtain ⟨outcome', he, hpromise⟩ := h.settled k c request promise hk
    exact ⟨outcome', List.mem_cons_of_mem _ he, hpromise⟩

/-- The listener of a port, for the phase of its call. -/
theorem modified {calls : List Call} {port k : ℕ} {resp : Response} {call : Call}
    (hk : (calls.modify port (Page.onmessage resp))[k]? = some call) :
    calls[k]? = some call ∧ (port = k → call.phase ≠ .posted) ∨
      port = k ∧ ∃ c request, calls[k]? = some ⟨c, request, .posted⟩ ∧
        call = ⟨c, request, .settled (ClientsideServices.onmessage resp)⟩ := by
  by_cases hport : port = k
  · subst hport
    rw [List.getElem?_modify_eq, Option.map_eq_map, Option.map_eq_some_iff] at hk
    obtain ⟨⟨c, request, phase⟩, hcall, rfl⟩ := hk
    cases phase with
    | waiting => exact .inl ⟨hcall, fun _ => Phase.noConfusion⟩
    | posted => exact .inr ⟨rfl, c, request, hcall, rfl⟩
    | settled promise => exact .inl ⟨hcall, fun _ => Phase.noConfusion⟩
  · rw [List.getElem?_modify_ne _ _ hport] at hk
    exact .inl ⟨hk, fun h => absurd h hport⟩

/-- A response arrives. -/
theorem Relayed.onmessage (h : Relayed services p) {r : ℕ} {response : ℕ × Response}
    (hr : p.responses[r]? = some response) :
    Relayed services { p with
      responses := p.responses.eraseIdx r
      calls := p.calls.modify response.1 (Page.onmessage response.2) } := by
  obtain ⟨e, he, hport, hresp⟩ := h.response response (List.mem_of_getElem? hr)
  have hmessage : ∀ m ∈ p.messages, response.1 ≠ m.port := by
    intro m hm heq
    refine (List.nodup_append.1 h.ports_nodup).2.2 m.port (List.mem_map_of_mem hm) e.port
      (List.mem_map_of_mem he) ?_
    rw [hport, heq]
  have hne : ∀ (k : ℕ) (call : Call), response.1 ≠ k → p.calls[k]? = some call →
      (p.calls.modify response.1 (Page.onmessage response.2))[k]? = some call := fun k call hk hcall =>
    (List.getElem?_modify_ne _ _ hk).trans hcall
  refine ⟨h.ports_nodup, fun m hm => ?_, fun e' he' => ?_,
    fun r' hr' => h.response r' (List.mem_of_mem_eraseIdx hr'), fun k c request hk => ?_,
    fun k c request promise hk => ?_⟩
  · obtain ⟨c, hc⟩ := h.message m hm
    exact ⟨c, hne _ _ (hmessage m hm) hc⟩
  · obtain ⟨c, phase, hc, hphase⟩ := h.handled e' he'
    by_cases hk : response.1 = e'.port
    · have hmodify : (p.calls.modify response.1 (Page.onmessage response.2))[e'.port]? =
          some (Page.onmessage response.2 ⟨c, e'.request, phase⟩) := by
        rw [hk, List.getElem?_modify_eq, hc]
        rfl
      cases phase with
      | waiting => exact absurd rfl hphase
      | posted => exact ⟨c, _, hmodify, nofun⟩
      | settled promise => exact ⟨c, _, hmodify, nofun⟩
    · exact ⟨c, phase, hne _ _ hk hc, hphase⟩
  · rcases modified hk with ⟨hk, -⟩ | ⟨-, c', request', -, heq⟩
    · exact h.posted k c request hk
    · cases heq
  · rcases modified hk with ⟨hk, -⟩ | ⟨rfl, c', request', hcall, heq⟩
    · exact h.settled k c request promise hk
    · obtain ⟨rfl, rfl, hpromise⟩ := Call.mk.inj heq
      obtain ⟨c', phase, hc', -⟩ := h.handled e he
      rw [hport] at hc'
      obtain ⟨-, hrequest, -⟩ := Call.mk.inj (Option.some.inj (hc'.symm.trans hcall))
      refine ⟨e.outcome, ?_, ?_⟩
      · rw [← hrequest, ← hport]
        exact he
      · rw [← hrequest, posted_eq_singleton hresp]
        exact Phase.settled.inj hpromise

end Calls

/-! ## Runs -/

variable {H : Type u} {services : Services H} {C : Machine.Guard Page Action} {h : List Action} {p : Page}

theorem relays (hr : (page services).Reach C h p) : Loads p.iframes p.clients ∧ Relayed services p := by
  refine hr.invariant (I := fun _ p => Loads p.iframes p.clients ∧ Relayed services p) ?_ ?_
  · rintro p rfl
    refine ⟨⟨List.nodup_nil, ?_, ?_, ?_, ?_⟩, ⟨List.nodup_nil, ?_, ?_, ?_, ?_, ?_⟩⟩ <;> simp
  · rintro h p a p' ⟨hloads, hrelayed⟩ hc hn
    have hn : p.next services a = some p' := hn
    cases a with
    | createIframe url =>
      obtain rfl := Option.some.inj hn
      refine ⟨hloads.createIframe url, ?_⟩
      obtain ⟨iframes, clients, heq⟩ := createIframe_eq p url
      exact heq ▸ hrelayed.frames iframes clients
    | load i =>
      unfold Page.next at hn
      dsimp only at hn
      split at hn
      · next frame hi =>
        split_ifs at hn with hready
        obtain rfl := Option.some.inj hn
        exact ⟨hloads.load hi (Bool.eq_false_iff.2 hready), hrelayed.frames _ _⟩
      · cases hn
    | call c method args =>
      unfold Page.next at hn
      dsimp only at hn
      split_ifs at hn
      obtain rfl := Option.some.inj hn
      exact ⟨hloads, hrelayed.call c ⟨method, args⟩⟩
    | postMessage k =>
      unfold Page.next at hn
      dsimp only at hn
      split at hn
      · next c request hk =>
        split at hn
        · next iframeURL frame hclient =>
          obtain rfl := Option.some.inj hn
          obtain ⟨iframe, hframe, -, hready, -⟩ := hloads.client c _ hclient
          exact ⟨hloads, hrelayed.postMessage hk hframe hready.symm⟩
        · cases hn
      · cases hn
    | runHandler m outcome =>
      obtain ⟨message, hm, rfl⟩ := Option.map_eq_some_iff.1 hn
      exact ⟨hloads, hrelayed.runHandler hm outcome⟩
    | onmessage r =>
      obtain ⟨response, hr, rfl⟩ := Option.map_eq_some_iff.1 hn
      exact ⟨hloads, hrelayed.onmessage hr⟩

/-- An iframe that answers `getTelemetryID`. -/
def telemetry : Services Unit := ⟨fun _ _ => none, .nullish, [⟨"getTelemetryID", ()⟩]⟩

end StytchBrowser.Core.FrameClient
