import StytchBrowser.Web.PKCEManager

/-!
# Which challenges can be redeemed

The verifier of a namespace that is stored when the calls have settled is the only one that can be
sent later. Every challenge that was sent is its challenge over the runs in which a call that finds
no pair is the only one of its namespace that is about to store one.
-/

namespace StytchBrowser.Web.PKCE

open Machine
open StytchBrowser.Core (ProofkeyPair exampleS256)

/-- A call is about to store a pair in the namespace `n`. -/
def Creating (n : Namespace) (call : Call) : Prop :=
  call.method.namespace = n ∧
    match call.phase with
    | .pair none => True
    | .digest _ => True
    | .created _ => True
    | _ => False

/-- No call is about to store a pair in the namespace `n`. -/
def Client.NoneCreating (c : Client) (n : Namespace) : Prop :=
  ∀ (i : ℕ) (call : Call), c.calls[i]? = some call → ¬ Creating n call

/-- A call finds no pair only when none is stored and no other call of the namespace is about to
store one, and the writes go through. -/
def serialized (config : DynamicConfig) : Guard Client Action := fun _ c a =>
  match a with
  | .getPKPair i failed =>
      match c.calls[i]? with
      | some ⟨method, .config⟩ =>
          config.pkceRequired method = true → getPKPair failed (c.stored method.namespace) = none →
            pairIn (c.stored method.namespace) = none ∧ c.NoneCreating method.namespace
      | _ => True
  | .setItem _ landed => landed = true
  | _ => True

section Invariant

variable {s256 : String → String} {config : DynamicConfig} {c c' : Client}

/-- What holds of a call: a challenge it sends is that of the stored pair. -/
def Call.Ok (s256 : String → String) (c : Client) (call : Call) : Prop :=
  match call.phase with
  | .pair (some pair) => pairIn (c.stored call.method.namespace) = some pair
  | .created pair => pair.codeChallenge = s256 pair.codeVerifier
  | .telemetry (some challenge) =>
      ∃ pair, pairIn (c.stored call.method.namespace) = some pair ∧ challenge = pair.codeChallenge
  | .sent (some challenge) =>
      ∃ pair, pairIn (c.stored call.method.namespace) = some pair ∧ challenge = pair.codeChallenge
  | _ => True

/-- What holds in every state of a serialized run. -/
structure Client.Inv (s256 : String → String) (c : Client) : Prop where
  transform : ∀ n pair, pairIn (c.stored n) = some pair →
    pair.codeChallenge = s256 pair.codeVerifier
  exclusive : ∀ n, Slots.AtMostOne (Creating n) c.calls
  empty : ∀ n, pairIn (c.stored n) = none ∨ c.NoneCreating n
  calls : ∀ (i : ℕ) (call : Call), c.calls[i]? = some call → call.Ok s256 c

/-- A call keeps what holds of it when its namespace is left alone or has been empty. -/
theorem Call.Ok.frame {call : Call} (h : call.Ok s256 c)
    (hstored : c'.stored call.method.namespace = c.stored call.method.namespace ∨
      pairIn (c.stored call.method.namespace) = none) : call.Ok s256 c' := by
  unfold Call.Ok at *
  rcases hstored with heq | hnone
  · rw [heq]
    exact h
  · rw [hnone] at h
    split at h <;> simp_all

/-- The invariant after a call has moved on and nothing was stored. -/
theorem Client.Inv.setPhase (hc : c.Inv s256) {i : ℕ} {method : Method} {old new : Phase}
    (hi : c.calls[i]? = some ⟨method, old⟩) (hnew : Call.Ok s256 c ⟨method, new⟩)
    (hcreating : ∀ n, (Creating n ⟨method, new⟩ → Creating n ⟨method, old⟩) ∨
      pairIn (c.stored n) = none ∧ c.NoneCreating n) :
    (c.setPhase i method new).Inv s256 := by
  refine ⟨hc.transform, fun n => ?_, fun n => ?_, ?_⟩
  · rcases hcreating n with hback | ⟨-, hnone⟩
    · exact (hc.exclusive n).set hi hback
    · exact .set_of_none hnone
  · rcases hcreating n with hback | ⟨hempty, -⟩
    · rcases hc.empty n with hempty | hnone
      · exact .inl hempty
      · exact .inr (Slots.forall_set hnone fun h => hnone i _ hi (hback h))
    · exact .inl hempty
  · exact Slots.forall_set (fun j call hj => (hc.calls j call hj).frame (.inl rfl))
      (hnew.frame (.inl rfl))

theorem stored_setItem (n n' : Namespace) (pair : ProofkeyPair) (c : Client) :
    (c.setItem true n pair).stored n' = if n' = n then some (.pair pair) else c.stored n' :=
  Function.update_apply c.stored n _ n'

/-- A call that fails leaves what the others wait for. -/
theorem Client.Inv.rejected (hc : c.Inv s256) {i : ℕ} {method : Method} {old : Phase}
    (hi : c.calls[i]? = some ⟨method, old⟩) : (c.setPhase i method .rejected).Inv s256 :=
  hc.setPhase hi trivial fun _ => .inl fun h => h.2.elim

/-- The invariant after the pair of a call was stored. -/
theorem Client.Inv.setItem (hc : c.Inv s256) {i : ℕ} {method : Method} {pair : ProofkeyPair}
    (hi : c.calls[i]? = some ⟨method, .created pair⟩) :
    ((c.setItem true method.namespace pair).setPhase i method
      (.telemetry (some pair.codeChallenge))).Inv s256 := by
  have hcreating : Creating method.namespace ⟨method, .created pair⟩ := ⟨rfl, trivial⟩
  have hempty : pairIn (c.stored method.namespace) = none :=
    (hc.empty method.namespace).resolve_right fun h => h i _ hi hcreating
  have hstored : ∀ n, ((c.setItem true method.namespace pair).setPhase i method
      (.telemetry (some pair.codeChallenge))).stored n =
        if n = method.namespace then some (.pair pair) else c.stored n :=
    fun n => stored_setItem method.namespace n pair c
  refine ⟨fun n q hq => ?_, fun n => (hc.exclusive n).set hi fun h => h.2.elim, fun n => ?_, ?_⟩
  · rw [hstored] at hq
    split_ifs at hq
    · exact Option.some.inj hq ▸ hc.calls i _ hi
    · exact hc.transform n q hq
  · rw [hstored]
    by_cases hn : n = method.namespace
    · subst hn
      refine .inr fun j call hj hcall => ?_
      rcases Slots.of_set hj with ⟨-, rfl⟩ | ⟨hij, hj⟩
      · exact hcall.2
      · exact hij (hc.exclusive _ i j _ call hi hj hcreating hcall)
    · rw [if_neg hn]
      exact (hc.empty n).imp_right fun h => Slots.forall_set h fun hnew => hnew.2
  · refine Slots.forall_set (fun j call hj => (hc.calls j call hj).frame ?_) ?_
    · rw [hstored]
      split_ifs with hn
      · exact .inr (hn ▸ hempty)
      · exact .inl rfl
    · refine ⟨pair, ?_, rfl⟩
      rw [hstored, if_pos rfl]
      rfl

/-- A pair that is found is the stored one. -/
theorem pairIn_of_getPKPair {failed : Bool} {stored : Option StoredText} {pair : ProofkeyPair}
    (h : getPKPair failed stored = some pair) : pairIn stored = some pair := by
  unfold getPKPair at h
  split_ifs at h
  exact h

/-- A call that finds no pair is the only one of its namespace that makes one. -/
theorem Client.Inv.getPKPair (hc : c.Inv s256) {h : List Action} {i : ℕ} {failed : Bool}
    (hg : serialized config h c (.getPKPair i failed))
    (hn : c.next s256 config (.getPKPair i failed) = some c') : c'.Inv s256 := by
  simp only [Client.next] at hn
  split at hn
  · next method hi =>
    obtain rfl := Option.some.inj hn
    simp only [serialized, hi] at hg
    split_ifs with hrequired
    · cases hfound : PKCE.getPKPair failed (c.stored method.namespace) with
      | none =>
        obtain ⟨hempty, hnone⟩ := hg hrequired hfound
        refine hc.setPhase hi trivial fun n => ?_
        by_cases hn : n = method.namespace
        · exact hn ▸ .inr ⟨hempty, hnone⟩
        · exact .inl fun h => absurd h.1.symm hn
      | some pair =>
        refine hc.setPhase hi ?_ fun n => .inl fun h => h.2.elim
        exact pairIn_of_getPKPair hfound
    · exact hc.setPhase hi trivial fun n => .inl fun h => h.2.elim
  · cases hn

/-- A serialized step keeps the invariant. -/
theorem Client.Inv.step (hc : c.Inv s256) {h : List Action} {a : Action}
    (hg : serialized config h c a) (hn : c.next s256 config a = some c') : c'.Inv s256 := by
  cases a with
  | call method =>
    obtain rfl := Option.some.inj hn
    have hnew : ∀ n, ¬ Creating n ⟨method, .config⟩ := fun n h => h.2
    refine ⟨hc.transform, fun n => (hc.exclusive n).add (hnew n), fun n => ?_, ?_⟩
    · exact (hc.empty n).imp_right fun h => Slots.forall_concat h (hnew n)
    · exact Slots.forall_concat (fun j call hj => (hc.calls j call hj).frame (.inl rfl)) trivial
  | getPKPair i failed => exact hc.getPKPair hg hn
  | useKeyPair i words =>
    simp only [Client.next] at hn
    split at hn
    · next method pair hi =>
      obtain rfl := Option.some.inj hn
      exact hc.setPhase hi ⟨pair, hc.calls i _ hi, rfl⟩ fun n => .inl fun h => h.2.elim
    · next method hi =>
      obtain rfl := Option.some.inj hn
      exact hc.setPhase hi trivial fun n => .inl id
    · cases hn
  | digest i =>
    simp only [Client.next] at hn
    split at hn
    · next method verifier hi =>
      obtain rfl := Option.some.inj hn
      exact hc.setPhase hi rfl fun n => .inl id
    · cases hn
  | setItem i landed =>
    simp only [Client.next] at hn
    split at hn
    · next method pair hi =>
      obtain rfl := Option.some.inj hn
      obtain rfl : landed = true := hg
      exact hc.setItem hi
    · cases hn
  | send i =>
    simp only [Client.next] at hn
    split at hn
    · next method challenge hi =>
      obtain rfl := Option.some.inj hn
      refine hc.setPhase hi ?_ fun n => .inl fun h => h.2.elim
      have hok := hc.calls i _ hi
      cases challenge with
      | none => trivial
      | some challenge => exact hok
    · cases hn
  | reject i =>
    simp only [Client.next] at hn
    split at hn
    · next hi =>
      obtain rfl := Option.some.inj hn
      exact hc.rejected hi
    · next hi =>
      obtain rfl := Option.some.inj hn
      exact hc.rejected hi
    · next hi =>
      obtain rfl := Option.some.inj hn
      exact hc.rejected hi
    · cases hn

theorem Client.inv_of_reach {h : List Action}
    (hr : Reach (client s256 config) (serialized config) h c) : c.Inv s256 := by
  refine hr.invariant (I := fun _ c => c.Inv s256) ?_ ?_
  · rintro c ⟨hcalls, htransform⟩
    refine ⟨htransform, fun n => ?_, fun n => .inr (Slots.forall_of_nil hcalls),
      Slots.forall_of_nil hcalls⟩
    rw [hcalls]
    exact .nil
  · exact fun _ _ _ _ hc hg hn => hc.step hg hn

/-- In serialized runs every challenge that was sent is that of the verifier stored in its
namespace, from then on and so once all calls have settled. -/
theorem sent_challenge_redeemable {h : List Action} {i : ℕ} {method : Method} {challenge : String}
    (hr : Reach (client s256 config) (serialized config) h c)
    (hi : c.calls[i]? = some ⟨method, .sent (some challenge)⟩) :
    ∃ pair, pairIn (c.stored method.namespace) = some pair ∧
      challenge = s256 pair.codeVerifier := by
  have hc := Client.inv_of_reach hr
  obtain ⟨pair, hpair, rfl⟩ := hc.calls i _ hi
  exact ⟨pair, hpair, hc.transform _ pair hpair⟩

end Invariant

/-- A client that requires challenges, with an empty storage. -/
def newClient : Client := ⟨fun _ => none, []⟩

def exampleConfig : DynamicConfig := ⟨true, true⟩

theorem init_newClient : (client exampleS256 exampleConfig).init newClient :=
  ⟨rfl, nofun⟩

/-- Two emails one after the other. -/
theorem sent_challenge_redeemable_twice :
    ∃ h c challenge, Reach (client exampleS256 exampleConfig) (serialized exampleConfig) h c ∧
      c.calls[1]? = some ⟨.loginOrCreate, .sent (some challenge)⟩ ∧
      ∃ pair, pairIn (c.stored .magicLinks) = some pair ∧
        challenge = exampleS256 pair.codeVerifier := by
  obtain ⟨c, challenge, hr, hsent⟩ : ∃ c challenge,
      Reach (client exampleS256 exampleConfig) (serialized exampleConfig)
        [.send 1, .useKeyPair 1 fun _ => 0, .getPKPair 1 false, .call .loginOrCreate, .send 0,
          .setItem 0 true, .digest 0, .useKeyPair 0 fun _ => 1, .getPKPair 0 false,
          .call .send] c ∧
      c.calls[1]? = some ⟨.loginOrCreate, .sent (some challenge)⟩ := by
    refine ⟨_, _, .step (.step (.step (.step (.step (.step (.step (.step (.step (.step
      (.start init_newClient) trivial rfl) ?_ rfl) trivial rfl) trivial rfl) rfl rfl)
      trivial rfl) trivial rfl) ?_ rfl) trivial rfl) trivial rfl, rfl⟩
    · exact fun _ _ => ⟨rfl, Slots.forall_of_mem (List.forall_mem_singleton.2 And.right)⟩
    · exact fun _ h => absurd h (Option.some_ne_none _)
  exact ⟨_, c, challenge, hr, hsent, sent_challenge_redeemable hr hsent⟩

/-- Two emails at once: both find no pair, both send the challenge of a pair of their own, and only
the verifier of the second is left. -/
theorem sent_challenge_lost :
    ∃ c, Reach (client exampleS256 exampleConfig) anyStep
        [.send 1, .send 0, .setItem 1 true, .setItem 0 true, .digest 1, .digest 0,
          .useKeyPair 1 fun _ => 2, .useKeyPair 0 fun _ => 1, .getPKPair 1 false,
          .getPKPair 0 false, .call .loginOrCreate, .call .send] c ∧
      (∀ call ∈ c.calls, ∃ challenge, call.phase = .sent challenge) ∧
      ∃ challenge pair, c.calls[0]? = some ⟨.send, .sent (some challenge)⟩ ∧
        pairIn (c.stored .magicLinks) = some pair ∧ challenge ≠ exampleS256 pair.codeVerifier := by
  refine ⟨_, reach_of_exec init_newClient rfl, ?_, _, _, rfl, rfl, by decide +kernel⟩
  exact List.forall_mem_cons.2 ⟨⟨_, rfl⟩, List.forall_mem_singleton.2 ⟨_, rfl⟩⟩

end StytchBrowser.Web.PKCE
