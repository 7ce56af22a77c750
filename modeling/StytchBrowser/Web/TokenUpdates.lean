import StytchBrowser.Web.Logout

/-!
# The tokens that `updateTokens` stores

`updateTokens` writes both session cookies when one of the two tokens is a string, with the text of
a token that was not supplied; the store of the core package stores no JWT then. With both tokens
supplied the web store keeps what was supplied and agrees with the core store, in the runs in which
the page reads back the cookies that it wrote (`ReadsBack`).
-/

namespace StytchBrowser.Web

open Machine
open StytchBrowser.Core (SessionTokens SessionUpdateOptions)

/-- The string of a `SessionTokensUpdate` field, `s ?? null`. -/
def MaybeString.orNone : MaybeString → Option String
  | .string s => some s
  | _ => none

/-- The session token and the JWT that a caller or a response supplies with a step. -/
def LifetimeAction.supplies : LifetimeAction → MaybeString × MaybeString
  | .op (.updateStateAndTokens _ (.loggedIn _ token jwt) _) => (.string token, .string jwt)
  | .op (.updateTokens _ token jwt) => (token, jwt)
  | _ => (.undefined, .undefined)

section

variable (page : Page) (parseDate : String → Option ℤ)

/-- `getTokens`. -/
def getTokens (o : CookieOptions) (b : Browser) : Option SessionTokens :=
  match readSessionCookie page o b with
  | (some token, some jwt) => some ⟨token, jwt⟩
  | _ => none

/-- What is expected of the store after `updateTokens`, the last step of the history `h`. -/
structure StoresSupplied (o : CookieOptions) (h : List LifetimeAction) (s : Lifetime)
    (token : String) (jwt : MaybeString) : Prop where
  tokens : ∀ key v, s.browser.jar.get key = some v → key.name = o.opaqueTokenName →
    ∃ a ∈ h, a.supplies.1 = .string v
  jwts : ∀ key v, s.browser.jar.get key = some v → key.name = o.jwtName →
    ∃ a ∈ h, a.supplies.2 = .string v
  supplied : match jwt with
    | .string jwt => (readSessionCookie page s.tab.options s.browser).2 = some jwt
    | _ => ∀ j, (readSessionCookie page s.tab.options s.browser).2 = some j →
        ∃ a ∈ h, a.supplies = (.string token, .string j)
  agrees : ∀ core : Core.Service,
    getTokens page s.tab.options s.browser = (core.updateTokens ⟨token, jwt.orNone⟩).getTokens

/-- The attributes `updateTokens` writes with: there is no expiry. -/
def writtenUnder (o : CookieOptions) : CookieAttributes :=
  generateCookieOpts page none o.availableToSubdomains (orNull o.path) (orNull o.domain)

/-- The attributes it removes the alternate cookie with. -/
def alternateTo (o : CookieOptions) : CookieAttributes :=
  generateCookieOpts page none (!o.availableToSubdomains) (orNull o.path) (orNull o.domain)

/-- A cookie that `updateTokens` writes is the one the page reads: the browser accepts it, and no
other cookie of the name is older, the alternate one and cookies of the same value apart. -/
def ReadsBack (o : CookieOptions) (name value : String) (jar : Jar) : Prop :=
  ∃ key, Cookies.keyOf page name (writtenUnder page o) = some key ∧
    ∀ e, (Cookies.remove page name (alternateTo page o) (Cookies.named name jar)).oldest = some e →
      e.1 = key ∨ e.2 = value

/-- The names of the three cookies differ and the page sees their path. -/
structure DistinctNames (o : CookieOptions) : Prop where
  nodup : [o.opaqueTokenName, o.jwtName, o.istName].Nodup
  visible : page.pathVisible (cookiePath o) = true

/-- `js-cookie` writes the names of the session cookies as they are. -/
structure PlainNames (o : CookieOptions) : Prop where
  token : page.encodeName o.opaqueTokenName = o.opaqueTokenName
  jwt : page.encodeName o.jwtName = o.jwtName

/-- The updates of the tokens that callers pass, with a JWT, and that the page reads back. -/
def SuppliesJwt (o : CookieOptions) : Guard Lifetime LifetimeAction := fun _ s a =>
  match a with
  | .op (.updateTokens _ token jwt) => ∃ t j, token = .string t ∧ jwt = .string j ∧
      DistinctNames page o ∧ PlainNames page o ∧
      ReadsBack page s.tab.options o.opaqueTokenName t s.browser.jar ∧
      ReadsBack page s.tab.options o.jwtName j s.browser.jar
  | _ => True

variable {page parseDate} {o : CookieOptions}

/-! ## Writing one cookie and removing its alternate -/

theorem oldest_set_value (m : Jar) (key : CookieKey) (value : String) :
    (m.set key value).oldest.map Prod.snd = some value ↔
      ∀ e, m.oldest = some e → e.1 = key ∨ e.2 = value := by
  rw [OrderedMap.oldest_set]
  cases hm : m.oldest with
  | none => simp
  | some e =>
    by_cases he : e.1 = key
    · simp [he]
    · simp [he]

/-- What the page reads after a write and the removal of the alternate cookie. -/
theorem oldest_removeAlternate (m : Jar) (name value : String) (key : CookieKey)
    (attributes : CookieAttributes) :
    ((if 1 < (m.set key value).entries.length then
        Cookies.remove page name attributes (m.set key value) else m.set key value).oldest.map
      Prod.snd = some value) ↔
      ∀ e, (Cookies.remove page name attributes m).oldest = some e → e.1 = key ∨ e.2 = value := by
  have hget : (m.set key value).get key = some value := by rw [OrderedMap.get_set, if_pos rfl]
  by_cases hmany : 1 < (m.set key value).entries.length
  · rw [if_pos hmany]
    unfold Cookies.remove
    cases hkey : Cookies.keyOf page name attributes with
    | none => exact oldest_set_value m key value
    | some alternate =>
      dsimp only
      by_cases heq : key = alternate
      · subst heq
        have hsome := OrderedMap.oldest_erase_isSome hmany key
        rw [OrderedMap.erase_set_self] at hsome ⊢
        obtain ⟨e, he⟩ := Option.isSome_iff_exists.1 hsome
        rw [he]
        simp [OrderedMap.oldest_erase_ne he]
      · rw [OrderedMap.erase_set_of_ne m heq]
        exact oldest_set_value _ key value
  · rw [if_neg hmany]
    have hone : ∀ k v, (m.set key value).get k = some v → k = key ∧ v = value := fun k v hkv =>
      OrderedMap.get_unique (not_lt.1 hmany) hkv hget
    have hread : (m.set key value).oldest.map Prod.snd = some value := by
      obtain ⟨e, he⟩ : ∃ e, (m.set key value).oldest = some e := ⟨_, OrderedMap.oldest_set m key value⟩
      rw [he, Option.map_some, (hone _ _ (OrderedMap.get_of_oldest he)).2]
    refine iff_of_true hread fun e he => .inl ?_
    by_contra hne
    have hold : m.get e.1 = some e.2 := by
      have hleft := OrderedMap.get_of_oldest he
      rw [Cookies.get_remove] at hleft
      split_ifs at hleft
      exact hleft
    have hnew : (m.set key value).get e.1 = some e.2 := by rw [OrderedMap.get_set, if_neg hne, hold]
    exact hne (hone _ _ hnew).1

/-! ## The jar after `updateTokens` -/

/-- `removeAlternate`, on a jar. -/
def dropAlternate (page : Page) (name : String) (attributes : CookieAttributes) (jar : Jar) : Jar :=
  if Cookies.hasMultipleCookies page name jar then Cookies.remove page name attributes jar else jar

theorem jar_addSeenDomain (domain : Option String) (b : Browser) :
    (addSeenDomain domain b).jar = b.jar := by
  unfold addSeenDomain
  split
  · rfl
  · split_ifs <;> rfl

theorem jar_removeAlternate (name : String) (attributes : CookieAttributes) (b : Browser) :
    (removeAlternate page name attributes b).jar = dropAlternate page name attributes b.jar := by
  unfold removeAlternate dropAlternate
  split_ifs <;> rfl

/-- The expiry that a session cookie is written with. -/
def sessionExpires (parseDate : String → Option ℤ) (state : Option JsObject) : Option ℤ :=
  parseDate ((((sessionOf state).bind (·.field "expires_at")).bind Json.asString).getD "")

theorem jar_writeSessionCookie (now : ℤ) (o : CookieOptions) (state : Option JsObject)
    (token jwt : String) (b : Browser) :
    (writeSessionCookie page parseDate now o state token jwt b).jar =
      dropAlternate page o.opaqueTokenName (alternateTo page o)
        (dropAlternate page o.jwtName (alternateTo page o)
          (Cookies.set page now o.jwtName jwt
            (generateCookieOpts page (sessionExpires parseDate state) o.availableToSubdomains
              (orNull o.path) (orNull o.domain))
            (Cookies.set page now o.opaqueTokenName token
              (generateCookieOpts page (sessionExpires parseDate state) o.availableToSubdomains
                (orNull o.path) (orNull o.domain)) b.jar))) := by
  simp only [writeSessionCookie, jar_removeAlternate, jar_addSeenDomain, setCookie]
  rfl

theorem named_dropAlternate_of_ne {name name' : String} (hne : name' ≠ name)
    (attributes : CookieAttributes) (jar : Jar) :
    Cookies.named name (dropAlternate page name' attributes jar) = Cookies.named name jar := by
  unfold dropAlternate
  split_ifs
  · exact Cookies.named_remove_of_ne hne jar
  · rfl

theorem named_dropAlternate {path : String} {jar : Jar} (h : Cookies.OnePath page path jar)
    {name : String} (hname : page.encodeName name = name) (attributes : CookieAttributes) :
    Cookies.named name (dropAlternate page name attributes jar) =
      if 1 < (Cookies.named name jar).entries.length then
        Cookies.remove page name attributes (Cookies.named name jar) else Cookies.named name jar := by
  unfold dropAlternate
  rw [Cookies.hasMultipleCookies_of_onePath h hname]
  simp only [decide_eq_true_eq]
  split_ifs
  · exact Cookies.named_remove ..
  · rfl

theorem named_removeCookies {names : List String} {name : String} (hname : name ∉ names)
    (o : CookieOptions) (b : Browser) :
    Cookies.named name (removeCookies page o names b).jar = Cookies.named name b.jar := by
  have hnames : ∀ attributes (jar : Jar), Cookies.named name (names.foldl (fun jar name =>
      Cookies.remove page name attributes jar) jar) = Cookies.named name jar := by
    intro attributes jar
    induction names generalizing jar with
    | nil => rfl
    | cons name' names ih =>
      rw [List.mem_cons, not_or] at hname
      rw [List.foldl_cons, ih hname.2, Cookies.named_remove_of_ne (Ne.symm hname.1)]
  change Cookies.named name ((sweep page o b).foldl _ b.jar) = _
  generalize b.jar = jar
  induction sweep page o b generalizing jar with
  | nil => rfl
  | cons attributes attrs ih => rw [List.foldl_cons, ih, hnames]

/-- The cookies of a name after a value was written under the key and the alternate removed. -/
def rewritten (page : Page) (o : CookieOptions) (name value : String) (key : CookieKey)
    (jar : Jar) : Jar :=
  if 1 < ((Cookies.named name jar).set key value).entries.length then
    Cookies.remove page name (alternateTo page o) ((Cookies.named name jar).set key value)
  else (Cookies.named name jar).set key value

/-- The browser after `updateTokens` with a string. -/
def tokensWritten (page : Page) (parseDate : String → Option ℤ) (now : ℤ) (o : CookieOptions)
    (token jwt : String) (b : Browser) : Browser :=
  removeISTCookie page o (writeSessionCookie page parseDate now o none token jwt b)

variable {o' : CookieOptions} {b : Browser}

theorem OnePath.dropAlternate {path : String} {jar : Jar} (h : Cookies.OnePath page path jar)
    (name : String) (attributes : CookieAttributes) :
    Cookies.OnePath page path (dropAlternate page name attributes jar) := by
  unfold Web.dropAlternate
  split_ifs
  · exact h.remove name attributes
  · exact h

/-- A tab that was given the same names has distinct names. -/
theorem SameNames.nodup (h : SameNames o o')
    (hnodup : [o.opaqueTokenName, o.jwtName, o.istName].Nodup) :
    [o'.opaqueTokenName, o'.jwtName, o'.istName].Nodup := by
  rw [h.opaqueToken, h.jwt, h.ist]
  exact hnodup

theorem SameNames.plain (h : SameNames o o') (hplain : PlainNames page o) : PlainNames page o' where
  token := by
    rw [h.opaqueToken]
    exact hplain.token
  jwt := by
    rw [h.jwt]
    exact hplain.jwt

/-- What `updateTokens` leaves of the cookies of the session token and of the JWT. -/
theorem named_tokensWritten (hdate : parseDate "" = none)
    (hjar : Cookies.OnePath page (cookiePath o) b.jar)
    (hnodup : [o.opaqueTokenName, o.jwtName, o.istName].Nodup) (hplain : PlainNames page o) (now : ℤ)
    (token jwt : String) {key key' : CookieKey}
    (hkey : Cookies.keyOf page o.opaqueTokenName (writtenUnder page o) = some key)
    (hkey' : Cookies.keyOf page o.jwtName (writtenUnder page o) = some key') :
    Cookies.named o.opaqueTokenName (tokensWritten page parseDate now o token jwt b).jar =
        rewritten page o o.opaqueTokenName token key b.jar ∧
      Cookies.named o.jwtName (tokensWritten page parseDate now o token jwt b).jar =
        rewritten page o o.jwtName jwt key' b.jar := by
  simp only [List.nodup_cons, List.mem_cons, List.not_mem_nil, or_false, not_or, not_false_eq_true,
    List.nodup_nil, and_true] at hnodup
  obtain ⟨⟨hne, hist⟩, hist'⟩ := hnodup
  have hwritten : (writeSessionCookie page parseDate now o none token jwt b).jar =
      dropAlternate page o.opaqueTokenName (alternateTo page o)
        (dropAlternate page o.jwtName (alternateTo page o)
          (Cookies.set page now o.jwtName jwt (writtenUnder page o)
            (Cookies.set page now o.opaqueTokenName token (writtenUnder page o) b.jar))) := by
    have hexpires : sessionExpires parseDate none = none := hdate
    rw [jar_writeSessionCookie, hexpires]
    rfl
  have hpath : (writtenUnder page o).path.getD "/" = cookiePath o := rfl
  have htoken := hjar.set now o.opaqueTokenName token hpath
  have hjwt := htoken.set now o.jwtName jwt hpath
  unfold tokensWritten removeISTCookie
  constructor
  · rw [named_removeCookies (by simpa using hist), hwritten,
      named_dropAlternate (OnePath.dropAlternate hjwt _ _) hplain.token,
      named_dropAlternate_of_ne (Ne.symm hne),
      Cookies.named_set_of_ne (Ne.symm hne), Cookies.named_set_self hkey rfl]
    rfl
  · rw [named_removeCookies (by simpa using hist'), hwritten,
      named_dropAlternate_of_ne hne, named_dropAlternate hjwt hplain.jwt, Cookies.named_set_self hkey' rfl,
      Cookies.named_set_of_ne hne]
    rfl

/-! ## What is in the jar was supplied -/

/-- The session tokens and the JWTs in a jar were supplied with a step of `h`. -/
def JarSupplied (o : CookieOptions) (h : List LifetimeAction) (jar : Jar) : Prop :=
  ∀ key v, jar.get key = some v →
    (key.name = o.opaqueTokenName → ∃ a ∈ h, a.supplies.1 = .string v) ∧
      (key.name = o.jwtName → ∃ a ∈ h, a.supplies.2 = .string v)

variable {h : List LifetimeAction} {jar : Jar}

theorem JarSupplied.of_subset {jar' : Jar} (hj : JarSupplied o h jar)
    (hsub : ∀ key v, jar'.get key = some v → jar.get key = some v) : JarSupplied o h jar' :=
  fun key v hv => hj key v (hsub key v hv)

theorem JarSupplied.cons (hj : JarSupplied o h jar) (a : LifetimeAction) :
    JarSupplied o (a :: h) jar := by
  intro key v hv
  obtain ⟨htoken, hjwt⟩ := hj key v hv
  constructor
  · intro hname
    obtain ⟨a', ha', hv'⟩ := htoken hname
    exact ⟨a', List.mem_cons_of_mem _ ha', hv'⟩
  · intro hname
    obtain ⟨a', ha', hv'⟩ := hjwt hname
    exact ⟨a', List.mem_cons_of_mem _ ha', hv'⟩

theorem JarSupplied.set (hj : JarSupplied o h jar) (now : ℤ) {name value : String}
    (attributes : CookieAttributes)
    (htoken : name = o.opaqueTokenName → ∃ a ∈ h, a.supplies.1 = .string value)
    (hjwt : name = o.jwtName → ∃ a ∈ h, a.supplies.2 = .string value) :
    JarSupplied o h (Cookies.set page now name value attributes jar) := by
  intro key v hv
  rcases Cookies.get_set_eq_some hv with ⟨hkey, rfl⟩ | hold
  · rw [(Cookies.keyOf_spec hkey).1]
    exact ⟨htoken, hjwt⟩
  · exact hj key v hold

theorem JarSupplied.dropAlternate (hj : JarSupplied o h jar) (name : String)
    (attributes : CookieAttributes) : JarSupplied o h (dropAlternate page name attributes jar) := by
  unfold Web.dropAlternate
  split_ifs
  · refine hj.of_subset fun key v hv => ?_
    rw [Cookies.get_remove] at hv
    split_ifs at hv
    exact hv
  · exact hj

theorem JarSupplied.removeCookies (hj : JarSupplied o h b.jar) (names : List String) :
    JarSupplied o h (removeCookies page o' names b).jar :=
  hj.of_subset fun key v hv => ((get_removeCookies o' names b key v).1 hv).1

theorem JarSupplied.writeSessionCookie (hj : JarSupplied o h b.jar) (hsame : SameNames o o')
    (hne : o.opaqueTokenName ≠ o.jwtName) (now : ℤ) (state : Option JsObject) {token jwt : String}
    (htoken : ∃ a ∈ h, a.supplies.1 = .string token) (hjwt : ∃ a ∈ h, a.supplies.2 = .string jwt) :
    JarSupplied o h (writeSessionCookie page parseDate now o' state token jwt b).jar := by
  rw [jar_writeSessionCookie, hsame.opaqueToken, hsame.jwt]
  refine JarSupplied.dropAlternate (JarSupplied.dropAlternate (JarSupplied.set
    (hj.set now _ (fun _ => htoken) fun hname => absurd hname hne) now _
    (fun hname => absurd hname.symm hne) fun _ => hjwt) _ _) _ _

theorem JarSupplied.updateCookies (hj : JarSupplied o h b.jar) (hsame : SameNames o o')
    (hnodup : [o.opaqueTokenName, o.jwtName, o.istName].Nodup) (now : ℤ)
    (diff : StateWithTokensDiff) (options : SessionUpdateOptions) :
    JarSupplied o (.op (.updateStateAndTokens now diff options) :: h)
      (updateCookies page parseDate now o' diff b).jar := by
  simp only [List.nodup_cons, List.mem_cons, List.not_mem_nil, or_false, not_or, not_false_eq_true,
    List.nodup_nil, and_true] at hnodup
  obtain ⟨⟨hne, hist⟩, hist'⟩ := hnodup
  have hj' := hj.cons (.op (.updateStateAndTokens now diff options))
  cases diff with
  | loggedIn state token jwt =>
    exact (hj'.writeSessionCookie hsame hne now (some state) ⟨_, List.mem_cons_self, rfl⟩
      ⟨_, List.mem_cons_self, rfl⟩).removeCookies _
  | loggedInOpaque state => exact (hj'.removeCookies _).removeCookies _
  | loggedOut => exact (hj'.removeCookies _).removeCookies _
  | intermediate token =>
    simp only [Web.updateCookies]
    split_ifs
    · refine JarSupplied.removeCookies (JarSupplied.set hj' now _ ?_ ?_) _
      · exact fun hname => absurd (hname.symm.trans hsame.ist) hist
      · exact fun hname => absurd (hname.symm.trans hsame.ist) hist'
    · exact (hj'.removeCookies _).removeCookies _
  | intermediateOpaque => exact (hj'.removeCookies _).removeCookies _

theorem jar_updateState (state : Option JsObject) (fromExternalSource : Bool) (b : Browser)
    (t : Tab) : (updateState state fromExternalSource b t).1.jar = b.jar := by
  unfold updateState
  dsimp only
  split_ifs <;> rfl

theorem jar_newDataLayer (o : CookieOptions) (b : Browser) : (newDataLayer o b).1.jar = b.jar := by
  unfold newDataLayer
  split <;> rfl

/-- Loading the page writes no cookie. -/
theorem get_construct {custom : Bool} {key : CookieKey} {v : String}
    (hv : (construct page o custom b).1.jar.get key = some v) : b.jar.get key = some v := by
  simp only [construct] at hv
  split_ifs at hv
  · rwa [jar_newDataLayer] at hv
  · rwa [jar_newDataLayer] at hv
  · change (updateState _ _ _ _).1.jar.get key = some v at hv
    rw [jar_updateState] at hv
    have hleft := ((get_removeCookies _ _ _ key v).1 hv).1
    rwa [jar_newDataLayer] at hleft

theorem JarSupplied.load (hj : JarSupplied o h b.jar) (domain : Option String)
    (avail custom : Bool) :
    JarSupplied o h (Lifetime.load page o domain avail custom b).browser.jar :=
  hj.of_subset fun _ _ hv => get_construct hv

/-- A step keeps the jar supplied. -/
theorem JarSupplied.next {s : Lifetime} (hj : JarSupplied o h s.browser.jar) (hs : s.Ok page o)
    (hnodup : [o.opaqueTokenName, o.jwtName, o.istName].Nodup) {a : LifetimeAction}
    (ha : SuppliesJwt page o h s a) : JarSupplied o (a :: h) (s.next page parseDate o a).browser.jar := by
  have hj' := hj.cons a
  cases a with
  | load domain avail custom => exact hj'.load domain avail custom
  | op op =>
    cases op with
    | updateStateAndTokens now diff options => exact hj.updateCookies hs.names hnodup now diff options
    | updateState state =>
      change JarSupplied o _ (updateState _ _ _ _).1.jar
      rwa [jar_updateState]
    | updateTokens now token jwt =>
      obtain ⟨t, j, rfl, rfl, -⟩ := ha
      rw [List.nodup_cons] at hnodup
      exact (hj'.writeSessionCookie hs.names (fun he => hnodup.1 (by simp [he])) now none
        ⟨_, List.mem_cons_self, rfl⟩ ⟨_, List.mem_cons_self, rfl⟩).removeCookies _
    | destroyState now => exact (hj'.removeCookies _).removeCookies _
    | destroySession =>
      change JarSupplied o _ (updateState _ _ _ _).1.jar
      rw [jar_updateState]
      exact hj'.removeCookies _
  | evict key =>
    refine hj'.of_subset fun k v hv => ?_
    simp only [Lifetime.next, OrderedMap.get_erase] at hv
    split_ifs at hv
    exact hv

theorem jarSupplied_of_reach {s : Lifetime}
    (hnodup : [o.opaqueTokenName, o.jwtName, o.istName].Nodup)
    (hr : Reach (lifetimes page parseDate o) (SuppliesJwt page o) h s) :
    JarSupplied o h s.browser.jar := by
  induction hr with
  | start hinit =>
    obtain ⟨domain, avail, custom, rfl⟩ := hinit
    refine JarSupplied.load (fun key v hv => ?_) domain avail custom
    cases hv
  | step hr ha hn ih =>
    cases hn
    exact ih.next (Lifetime.ok_of_reach hr) hnodup ha

/-! ## The two stores -/

/-- What the page reads of a name after `updateTokens`. -/
theorem get_rewritten {jar' : Jar} (hjar : Cookies.OnePath page (cookiePath o) jar')
    {name value : String} {key : CookieKey}
    (hnamed : Cookies.named name jar' = rewritten page o' name value key jar) :
    Cookies.get page name jar' = some value ↔
      ∀ e, (Cookies.remove page name (alternateTo page o') (Cookies.named name jar)).oldest =
        some e → e.1 = key ∨ e.2 = value := by
  rw [Cookies.get_of_onePath hjar, hnamed]
  exact oldest_removeAlternate ..

/-- After a write both session cookies are there. -/
theorem get_rewritten_isSome {jar' : Jar} (hjar : Cookies.OnePath page (cookiePath o) jar')
    {name value : String} {key : CookieKey}
    (hnamed : Cookies.named name jar' = rewritten page o' name value key jar) :
    (Cookies.get page name jar').isSome := by
  have hset : ((Cookies.named name jar).set key value).oldest.isSome := by
    rw [OrderedMap.oldest_set]
    rfl
  rw [Cookies.get_of_onePath hjar, hnamed, Option.isSome_map, rewritten]
  split_ifs with hmany
  · unfold Cookies.remove
    split
    · exact hset
    · exact OrderedMap.oldest_erase_isSome hmany _
  · exact hset

/-- Where the browser accepts the cookies, an update stores what was supplied and agrees with the
core store exactly when it comes with a JWT and the page reads back both cookies. -/
theorem storesSupplied_iff (hdate : parseDate "" = none) {s : Lifetime}
    (hr : Reach (lifetimes page parseDate o) (SuppliesJwt page o) h s)
    (hnames : DistinctNames page o) (hplain : PlainNames page o) {key key' : CookieKey}
    (hkey : Cookies.keyOf page o.opaqueTokenName (writtenUnder page s.tab.options) = some key)
    (hkey' : Cookies.keyOf page o.jwtName (writtenUnder page s.tab.options) = some key')
    (now : ℤ) (token : String) (jwt : MaybeString) :
    StoresSupplied page o (.op (.updateTokens now (.string token) jwt) :: h)
        (s.next page parseDate o (.op (.updateTokens now (.string token) jwt))) token jwt ↔
      ∃ j, jwt = .string j ∧
        ReadsBack page s.tab.options o.opaqueTokenName token s.browser.jar ∧
        ReadsBack page s.tab.options o.jwtName j s.browser.jar := by
  have hs := Lifetime.ok_of_reach hr
  have hjar : Cookies.OnePath page (cookiePath s.tab.options) s.browser.jar := by
    rw [hs.names.path]
    exact ⟨hs.tracked.path, hnames.visible⟩
  have hafter : Cookies.OnePath page (cookiePath o)
      (tokensWritten page parseDate now s.tab.options token jwt.text s.browser).jar :=
    ⟨((hs.tracked.writeSessionCookie hs.names.path now none token jwt.text).removeCookies _).path,
      hnames.visible⟩
  obtain ⟨hleft, hright⟩ := named_tokensWritten hdate hjar (hs.names.nodup hnames.nodup)
    (hs.names.plain hplain) now token jwt.text (hs.names.opaqueToken ▸ hkey) (hs.names.jwt ▸ hkey')
  have hread := get_rewritten hafter hleft
  have hread' := get_rewritten hafter hright
  rw [hs.names.opaqueToken] at hread
  rw [hs.names.jwt] at hread'
  constructor
  · intro hstores
    have hagrees := hstores.agrees .initial
    change getTokens page s.tab.options
      (tokensWritten page parseDate now s.tab.options token jwt.text s.browser) = _ at hagrees
    obtain ⟨t, ht⟩ := Option.isSome_iff_exists.1 (get_rewritten_isSome hafter hleft)
    obtain ⟨j, hj⟩ := Option.isSome_iff_exists.1 (get_rewritten_isSome hafter hright)
    have htokens : getTokens page s.tab.options
        (tokensWritten page parseDate now s.tab.options token jwt.text s.browser) =
        some ⟨t, j⟩ := by
      rw [getTokens, readSessionCookie, ht, hj]
    rw [htokens] at hagrees
    cases jwt with
    | undefined => cases hagrees
    | null => cases hagrees
    | string jwt =>
      cases hagrees
      rw [hs.names.opaqueToken] at ht
      rw [hs.names.jwt] at hj
      exact ⟨_, rfl, ⟨key, hkey, hread.1 ht⟩, ⟨key', hkey', hread'.1 hj⟩⟩
  · rintro ⟨j, rfl, ⟨k, hk, htoken⟩, ⟨k', hk', hjwt⟩⟩
    obtain rfl : key = k := Option.some.inj (hkey.symm.trans hk)
    obtain rfl : key' = k' := Option.some.inj (hkey'.symm.trans hk')
    have hok : SuppliesJwt page o h s (.op (.updateTokens now (.string token) (.string j))) :=
      ⟨_, _, rfl, rfl, hnames, hplain, ⟨key, hkey, htoken⟩, ⟨key', hkey', hjwt⟩⟩
    have hsupplied := @JarSupplied.next page parseDate o h s (jarSupplied_of_reach hnames.nodup hr)
      hs hnames.nodup _ hok
    have hcookie : readSessionCookie page s.tab.options
        (tokensWritten page parseDate now s.tab.options token j s.browser) =
        (some token, some j) := by
      rw [readSessionCookie, hs.names.opaqueToken, hs.names.jwt]
      exact Prod.ext (hread.2 htoken) (hread'.2 hjwt)
    refine ⟨fun key v hv => (hsupplied key v hv).1, fun key v hv => (hsupplied key v hv).2,
      congrArg Prod.snd hcookie, fun core => ?_⟩
    change getTokens page s.tab.options
      (tokensWritten page parseDate now s.tab.options token j s.browser) = some ⟨token, j⟩
    rw [getTokens, hcookie]

/-- In every run whose updates of the tokens come with a JWT and are read back by the page, an
update stores only what was supplied and agrees with the core store. -/
theorem updateTokens_stores_supplied (hdate : parseDate "" = none) {s : Lifetime} {now : ℤ}
    {token : String} {jwt : MaybeString}
    (hr : Reach (lifetimes page parseDate o) (SuppliesJwt page o)
      (.op (.updateTokens now (.string token) jwt) :: h) s) :
    StoresSupplied page o (.op (.updateTokens now (.string token) jwt) :: h) s token jwt := by
  cases hr with
  | step hr₀ ha hn =>
    obtain ⟨t, j, ht, hj, hnames, hplain, htoken, hjwt⟩ := ha
    cases ht
    obtain ⟨key, hkey, -⟩ := id htoken
    obtain ⟨key', hkey', -⟩ := id hjwt
    cases hn
    exact (storesSupplied_iff hdate hr₀ hnames hplain hkey hkey' now token jwt).2 ⟨j, hj, htoken, hjwt⟩

end

/-- The cookies after a login in the first lifetime. -/
def loggedInLifetime : Lifetime :=
  firstLifetime.next appPage (fun _ => none) defaultOptions
    (.op (.updateStateAndTokens 0 (.loggedIn .empty "old token" "old jwt") (.fresh none)))

/-- A login on `example.com`, and an update with both tokens. -/
theorem updateTokens_stores_supplied_login :
    ∃ h s, h.length = 1 ∧ StoresSupplied appPage defaultOptions
      (.op (.updateTokens 1 (.string "token") (.string "jwt")) :: h) s "token" (.string "jwt") := by
  have hlogin : Reach (lifetimes appPage (fun _ => none) defaultOptions)
      (SuppliesJwt appPage defaultOptions)
      [.op (.updateStateAndTokens 0 (.loggedIn .empty "old token" "old jwt") (.fresh none))]
      loggedInLifetime := .step (.start init_firstLifetime) trivial rfl
  have holdest : ∀ name ∈ [defaultOptions.opaqueTokenName, defaultOptions.jwtName],
      Cookies.keyOf appPage name (writtenUnder appPage loggedInLifetime.tab.options) =
          some ⟨name, some "example.com", "/"⟩ ∧
        ((Cookies.remove appPage name (alternateTo appPage loggedInLifetime.tab.options)
          (Cookies.named name loggedInLifetime.browser.jar)).oldest.map Prod.fst =
            some ⟨name, some "example.com", "/"⟩) := by
    decide +kernel
  have hread : ∀ name ∈ [defaultOptions.opaqueTokenName, defaultOptions.jwtName], ∀ value,
      ReadsBack appPage loggedInLifetime.tab.options name value loggedInLifetime.browser.jar := by
    intro name hname value
    obtain ⟨hkey, hfirst⟩ := holdest name hname
    refine ⟨_, hkey, fun e he => .inl ?_⟩
    rw [he] at hfirst
    exact Option.some.inj hfirst
  have hok : SuppliesJwt appPage defaultOptions
      [.op (.updateStateAndTokens 0 (.loggedIn .empty "old token" "old jwt") (.fresh none))]
      loggedInLifetime (.op (.updateTokens 1 (.string "token") (.string "jwt"))) :=
    ⟨_, _, rfl, rfl, ⟨by decide, rfl⟩, ⟨rfl, rfl⟩, hread _ (by simp) _, hread _ (by simp) _⟩
  exact ⟨_, _, rfl, updateTokens_stores_supplied rfl (hlogin.step hok rfl)⟩

/-- An update without a JWT writes the text of `undefined`. -/
theorem updateTokens_stores_undefined :
    ¬ ∀ h s now token jwt, Reach (lifetimes appPage (fun _ => none) defaultOptions) anyStep
      (.op (.updateTokens now (.string token) jwt) :: h) s →
        StoresSupplied appPage defaultOptions (.op (.updateTokens now (.string token) jwt) :: h) s
          token jwt := by
  intro hall
  obtain ⟨s, hr, hjwt⟩ : ∃ s, Reach (lifetimes appPage (fun _ => none) defaultOptions) anyStep
      [.op (.updateTokens 0 (.string "token") .undefined)] s ∧
      s.browser.jar.get ⟨"stytch_session_jwt", some "example.com", "/"⟩ = some "undefined" :=
    ⟨_, reach_of_exec init_firstLifetime rfl, by decide +kernel⟩
  obtain ⟨a, ha, hsupplied⟩ := (hall [] s 0 "token" .undefined hr).jwts _ _ hjwt rfl
  rw [List.mem_singleton] at ha
  subst ha
  cases hsupplied

end StytchBrowser.Web
