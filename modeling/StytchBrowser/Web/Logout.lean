import StytchBrowser.Lib.Machine
import StytchBrowser.Web.SubscriptionService

/-!
# Logout and the cookies of earlier lifetimes

A cookie can be removed only under the domain it was filed under. `writeSessionCookie` records the
domains it uses and `removeCookies` tries all of them, so the session cookies of every lifetime of
the SDK on a host are removed. `writeIntermediateSessionTokenCookie` records nothing, so whether
`destroyState` removes an intermediate session token cookie depends on the domain it was filed
under.
-/

namespace StytchBrowser.Web

open Machine
open StytchBrowser.Core (SessionUpdateOptions)

/-! ## What `removeCookies` removes -/

section Sweep

variable (page : Page)

/-- The path the cookies are written under. -/
def cookiePath (o : CookieOptions) : String := (orNull o.path).getD "/"

/-- The `Domain` attributes `removeCookies` tries. -/
def triedDomains (o : CookieOptions) (b : Browser) : List String :=
  if isLocalhost page then []
  else (sweptDomains o b).map fun domain => (orNull domain).getD page.host

/-- A cookie is host-only or filed under one of the domains `ds`. -/
def FiledUnder (ds : List String) (key : CookieKey) : Prop :=
  key.domain = none ∨ ∃ d ∈ ds, d ≠ "" ∧ page.fileDomain d = some key.domain

/-- The attributes under which `removeCookies` finds a cookie. -/
def Swept (o : CookieOptions) (b : Browser) (key : CookieKey) : Prop :=
  ∃ attributes ∈ sweep page o b, Cookies.keyOf page key.name attributes = some key

variable {page}

theorem orNull_eq_some {s : Option String} {t : String} :
    orNull s = some t ↔ s = some t ∧ t ≠ "" := by
  simp [orNull, Option.filter_eq_some_iff]

theorem keyOf_none {name : String} {attributes : CookieAttributes} {key : CookieKey}
    (h : orNull attributes.domain = none) :
    Cookies.keyOf page name attributes = some key ↔
      key = ⟨name, none, attributes.path.getD "/"⟩ := by
  rw [Cookies.keyOf, h, Option.some.injEq, eq_comm]

theorem keyOf_some {name d : String} {attributes : CookieAttributes} {key : CookieKey}
    (h : orNull attributes.domain = some d) :
    Cookies.keyOf page name attributes = some key ↔
      page.fileDomain d = some key.domain ∧ key.name = name ∧
        key.path = attributes.path.getD "/" := by
  obtain ⟨n, dom, path⟩ := key
  rw [Cookies.keyOf, h, Option.map_eq_some_iff]
  constructor
  · rintro ⟨domain, hd, hkey⟩
    cases hkey
    exact ⟨hd, rfl, rfl⟩
  · rintro ⟨hd, rfl, rfl⟩
    exact ⟨dom, hd, rfl⟩

/-- Where a cookie is filed that is written with the options of `generateCookieOpts`. -/
theorem keyOf_generateCookieOpts {name : String} {expires : Option ℤ} {avail : Bool}
    {path domain : Option String} {key : CookieKey}
    (h : Cookies.keyOf page name (generateCookieOpts page expires avail path domain) = some key) :
    key.name = name ∧ key.path = path.getD "/" ∧
      (key.domain = none ∨ isLocalhost page = false ∧ avail = true ∧
        (orNull domain).getD page.host ≠ "" ∧
        page.fileDomain ((orNull domain).getD page.host) = some key.domain) := by
  cases hd : orNull (generateCookieOpts page expires avail path domain).domain with
  | none =>
    rw [keyOf_none hd] at h
    subst h
    exact ⟨rfl, rfl, .inl rfl⟩
  | some d =>
    obtain ⟨hfile, hname, hpath⟩ := (keyOf_some hd).1 h
    refine ⟨hname, hpath, .inr ?_⟩
    rw [orNull_eq_some] at hd
    obtain ⟨hdom, hne⟩ := hd
    simp only [generateCookieOpts] at hdom
    split_ifs at hdom with hl ha
    cases hdom
    exact ⟨by simpa using hl, ha, hne, hfile⟩

theorem mem_sweep {o : CookieOptions} {b : Browser} {attributes : CookieAttributes} :
    attributes ∈ sweep page o b ↔ ∃ avail path domain, (path = orNull o.path ∨ path = none) ∧
      domain ∈ sweptDomains o b ∧
      attributes = generateCookieOpts page (some 0) avail path domain := by
  simp only [sweep, List.mem_flatMap, List.mem_map, List.mem_cons, List.not_mem_nil, or_false]
  constructor
  · rintro ⟨avail, -, path, hpath, domain, hdomain, rfl⟩
    exact ⟨avail, path, domain, hpath, hdomain, rfl⟩
  · rintro ⟨avail, path, domain, hpath, hdomain, rfl⟩
    refine ⟨avail, ?_, path, hpath, domain, hdomain, rfl⟩
    cases avail <;> simp

theorem none_mem_sweptDomains (o : CookieOptions) (b : Browser) : none ∈ sweptDomains o b := by
  simp [sweptDomains]

theorem mem_sweptDomains_of_seen (o : CookieOptions) {b : Browser} {d : String}
    (hd : d ∈ getSeenDomains b) : some d ∈ sweptDomains o b := by
  simp [sweptDomains, hd]

/-- A cookie at a path of the sweep is found when it is filed under a domain of the sweep. -/
theorem swept_of_filedUnder {o : CookieOptions} {b : Browser} {key : CookieKey}
    (hpath : key.path = cookiePath o) (hd : FiledUnder page (triedDomains page o b) key) :
    Swept page o b key := by
  rcases hd with hnone | ⟨d, hd, hne, hfile⟩
  · refine ⟨generateCookieOpts page (some 0) false (orNull o.path) none,
      mem_sweep.2 ⟨_, _, _, .inl rfl, none_mem_sweptDomains o b, rfl⟩, ?_⟩
    have hopt : orNull (generateCookieOpts page (some 0) false (orNull o.path) none).domain =
        none := by
      simp [generateCookieOpts, orNull]
    rw [keyOf_none hopt]
    obtain ⟨name, domain, path⟩ := key
    subst hnone hpath
    rfl
  · unfold triedDomains at hd
    split_ifs at hd with hl
    · cases hd
    · obtain ⟨domain, hdomain, rfl⟩ := List.mem_map.1 hd
      refine ⟨generateCookieOpts page (some 0) true (orNull o.path) domain,
        mem_sweep.2 ⟨_, _, _, .inl rfl, hdomain, rfl⟩, ?_⟩
      have hopt : orNull (generateCookieOpts page (some 0) true (orNull o.path) domain).domain =
          some ((orNull domain).getD page.host) := by
        rw [orNull_eq_some]
        exact ⟨by simp [generateCookieOpts, hl], hne⟩
      exact (keyOf_some hopt).2 ⟨hfile, rfl, hpath⟩

theorem filedUnder_of_swept {o : CookieOptions} {b : Browser} {key : CookieKey}
    (h : Swept page o b key) : FiledUnder page (triedDomains page o b) key := by
  obtain ⟨attributes, hmem, hkey⟩ := h
  obtain ⟨avail, path, domain, -, hdomain, rfl⟩ := mem_sweep.1 hmem
  obtain ⟨-, -, hd⟩ := keyOf_generateCookieOpts hkey
  rcases hd with hnone | ⟨hl, -, hne, hfile⟩
  · exact .inl hnone
  · refine .inr ⟨_, ?_, hne, hfile⟩
    rw [triedDomains, if_neg (by simp [hl])]
    exact List.mem_map.2 ⟨domain, hdomain, rfl⟩

theorem get_foldl_remove_names (names : List String) (attributes : CookieAttributes) (jar : Jar)
    (key : CookieKey) :
    (names.foldl (fun jar name => Cookies.remove page name attributes jar) jar).get key =
      if key.name ∈ names ∧ Cookies.keyOf page key.name attributes = some key then none
      else jar.get key := by
  induction names generalizing jar with
  | nil => simp
  | cons name names ih =>
    rw [List.foldl_cons, ih, Cookies.get_remove]
    by_cases hkey : Cookies.keyOf page name attributes = some key
    · obtain rfl := (Cookies.keyOf_spec hkey).1
      simp [hkey]
    · by_cases hname : key.name = name
      · subst hname
        simp [hkey]
      · simp [hname, hkey]

theorem get_foldl_remove (names : List String) (attrs : List CookieAttributes) (jar : Jar)
    (key : CookieKey) (v : String) :
    (attrs.foldl (fun jar attributes =>
        names.foldl (fun jar name => Cookies.remove page name attributes jar) jar) jar).get key =
        some v ↔
      jar.get key = some v ∧ ¬ (key.name ∈ names ∧
        ∃ attributes ∈ attrs, Cookies.keyOf page key.name attributes = some key) := by
  induction attrs generalizing jar with
  | nil => simp
  | cons attributes attrs ih =>
    rw [List.foldl_cons, ih, get_foldl_remove_names]
    simp only [List.mem_cons, exists_eq_or_imp]
    by_cases h : key.name ∈ names ∧ Cookies.keyOf page key.name attributes = some key
    · simp [h]
    · rw [if_neg h, and_or_left, not_or, and_iff_right h]

/-- `removeCookies` removes the cookies of the given names that it finds. -/
theorem get_removeCookies (o : CookieOptions) (names : List String) (b : Browser)
    (key : CookieKey) (v : String) :
    (removeCookies page o names b).jar.get key = some v ↔
      b.jar.get key = some v ∧ ¬ (key.name ∈ names ∧ Swept page o b key) :=
  get_foldl_remove names (sweep page o b) b.jar key v

end Sweep

/-! ## The lifetimes of the SDK on a host -/

section Lifetimes

variable (page : Page) (parseDate : String → Option ℤ)

/-- One lifetime of the SDK: the browser and the tab it runs in. -/
structure Lifetime where
  browser : Browser
  tab : Tab

/-- What can happen on a host. -/
inductive LifetimeAction where
  /-- The page is loaded anew with other cookie options. -/
  | load (domain : Option String) (availableToSubdomains usingCustomApiEndpoint : Bool)
  | op (op : Op)
  /-- The browser drops a cookie that has expired. -/
  | evict (key : CookieKey)

namespace Lifetime

def ofPair (p : Browser × Tab) : Lifetime := ⟨p.1, p.2⟩

/-- A lifetime with the names and the path of `o`. -/
def load (o : CookieOptions) (domain : Option String) (availableToSubdomains custom : Bool)
    (b : Browser) : Lifetime :=
  ofPair (construct page
    { o with domain := domain, availableToSubdomains := availableToSubdomains } custom b)

def next (o : CookieOptions) (s : Lifetime) : LifetimeAction → Lifetime
  | .load domain avail custom => load page o domain avail custom s.browser
  | .op op => ofPair (op.run page parseDate s.browser s.tab)
  | .evict key => { s with browser := { s.browser with jar := s.browser.jar.erase key } }

end Lifetime

/-- The lifetimes with the cookie names and the path of `o`, from a browser without cookies and with
an empty `localStorage`. -/
def lifetimes (o : CookieOptions) : Machine Lifetime LifetimeAction where
  init s := ∃ domain avail custom,
    s = Lifetime.load page o domain avail custom ⟨.empty, none, none, []⟩
  next s a := some (s.next page parseDate o a)

/-- The names and the path a tab was given. -/
structure SameNames (o o' : CookieOptions) : Prop where
  opaqueToken : o'.opaqueTokenName = o.opaqueTokenName
  jwt : o'.jwtName = o.jwtName
  ist : o'.istName = o.istName
  path : cookiePath o' = cookiePath o

/-- What holds of the cookies in the jar: they are filed at the path of the SDK, and the session
cookies host-only or under a domain that was recorded. -/
structure Tracked (o : CookieOptions) (b : Browser) : Prop where
  localhost : isLocalhost page → getSeenDomains b = []
  path : ∀ key v, b.jar.get key = some v → key.path = cookiePath o
  session : ∀ key v, b.jar.get key = some v → key.name ≠ o.istName →
    FiledUnder page (getSeenDomains b) key

variable {page parseDate} {o o' : CookieOptions} {b : Browser}

theorem FiledUnder.mono {ds ds' : List String} {key : CookieKey} (h : FiledUnder page ds key)
    (hds : ds ⊆ ds') : FiledUnder page ds' key := by
  rcases h with h | ⟨d, hd, hne, hfile⟩
  · exact .inl h
  · exact .inr ⟨d, hds hd, hne, hfile⟩

theorem subset_triedDomains (hb : Tracked page o b) :
    ∀ d ∈ getSeenDomains b, d ≠ "" → d ∈ triedDomains page o' b := by
  intro d hd hne
  unfold triedDomains
  split_ifs with hl
  · rw [hb.localhost hl] at hd
    cases hd
  · refine List.mem_map.2 ⟨some d, mem_sweptDomains_of_seen o' hd, ?_⟩
    rw [orNull_eq_some.2 ⟨rfl, hne⟩]
    rfl

theorem Tracked.of_subset (hb : Tracked page o b) {jar : Jar}
    (hsub : ∀ key v, jar.get key = some v → b.jar.get key = some v) :
    Tracked page o { b with jar := jar } :=
  ⟨hb.localhost, fun key v hv => hb.path key v (hsub key v hv),
    fun key v hv => hb.session key v (hsub key v hv)⟩

theorem Tracked.removeCookies (hb : Tracked page o b) (names : List String) :
    Tracked page o (removeCookies page o' names b) :=
  hb.of_subset fun key v hv => ((get_removeCookies o' names b key v).1 hv).1

theorem Tracked.erase (hb : Tracked page o b) (key : CookieKey) :
    Tracked page o { b with jar := b.jar.erase key } := by
  refine hb.of_subset fun k v hv => ?_
  rw [OrderedMap.get_erase] at hv
  split_ifs at hv
  exact hv

theorem Tracked.removeAlternate (hb : Tracked page o b) (name : String)
    (attributes : CookieAttributes) : Tracked page o (removeAlternate page name attributes b) := by
  unfold Web.removeAlternate
  split_ifs
  · refine hb.of_subset fun key v hv => ?_
    rw [Cookies.get_remove] at hv
    split_ifs at hv
    exact hv
  · exact hb

theorem getSeenDomains_addSeenDomain (domain : Option String) (b : Browser) :
    getSeenDomains b ⊆ getSeenDomains (addSeenDomain domain b) ∧
      ∀ d, orNull domain = some d → d ∈ getSeenDomains (addSeenDomain domain b) := by
  unfold addSeenDomain
  cases hd : orNull domain with
  | none => exact ⟨List.Subset.refl _, nofun⟩
  | some d =>
    dsimp only
    split_ifs with hmem
    · refine ⟨List.Subset.refl _, ?_⟩
      rintro _ ⟨⟩
      exact hmem
    · refine ⟨List.subset_append_left _ _, ?_⟩
      rintro _ ⟨⟩
      exact List.mem_append_right _ (List.mem_singleton_self d)

theorem Tracked.addSeenDomain (hb : Tracked page o b) {domain : Option String}
    (hd : isLocalhost page → domain = none) : Tracked page o (addSeenDomain domain b) := by
  have hjar : (Web.addSeenDomain domain b).jar = b.jar := by
    unfold Web.addSeenDomain
    split
    · rfl
    · split_ifs <;> rfl
  refine ⟨fun hl => ?_, ?_, ?_⟩
  · rw [hd hl]
    exact hb.localhost hl
  · rw [hjar]
    exact hb.path
  · rw [hjar]
    exact fun key v hv hn =>
      (hb.session key v hv hn).mono (getSeenDomains_addSeenDomain domain b).1

/-- A write keeps the jar tracked when it records the domain of a session cookie first. -/
theorem Tracked.setCookie (hb : Tracked page o b) (hpath : cookiePath o' = cookiePath o) (now : ℤ)
    (name value : String) (expires : Option ℤ) {avail : Bool} {domain : Option String}
    (hrec : name ≠ o.istName → isLocalhost page = false → avail = true →
      (orNull domain).getD page.host ≠ "" → (orNull domain).getD page.host ∈ getSeenDomains b) :
    Tracked page o (setCookie page now name value
      (generateCookieOpts page expires avail (orNull o'.path) domain) b) := by
  refine ⟨hb.localhost, fun key v hv => ?_, fun key v hv hn => ?_⟩
  · rcases Cookies.get_set_eq_some hv with ⟨hkey, -⟩ | hold
    · rw [(keyOf_generateCookieOpts hkey).2.1]
      exact hpath
    · exact hb.path key v hold
  · rcases Cookies.get_set_eq_some hv with ⟨hkey, -⟩ | hold
    · obtain ⟨rfl, -, hdomain⟩ := keyOf_generateCookieOpts hkey
      rcases hdomain with hnone | ⟨hl, ha, hne, hfile⟩
      · exact .inl hnone
      · exact .inr ⟨_, hrec hn hl ha hne, hne, hfile⟩
    · exact hb.session key v hold hn

theorem domain_of_localhost {expires : Option ℤ} {avail : Bool} {path domain : Option String}
    (hl : isLocalhost page) : (generateCookieOpts page expires avail path domain).domain = none := by
  simp [generateCookieOpts, hl]

theorem Tracked.writeSessionCookie (hb : Tracked page o b) (hpath : cookiePath o' = cookiePath o)
    (now : ℤ) (state : Option JsObject) (token jwt : String) :
    Tracked page o (writeSessionCookie page parseDate now o' state token jwt b) := by
  unfold Web.writeSessionCookie
  dsimp only
  generalize parseDate _ = expires
  have hseen := hb.addSeenDomain fun hl => @domain_of_localhost page expires
    o'.availableToSubdomains (orNull o'.path) (orNull o'.domain) hl
  have hrec : isLocalhost page = false → o'.availableToSubdomains = true →
      (orNull (orNull o'.domain)).getD page.host ≠ "" →
      (orNull (orNull o'.domain)).getD page.host ∈ getSeenDomains (Web.addSeenDomain
        (generateCookieOpts page expires o'.availableToSubdomains (orNull o'.path)
          (orNull o'.domain)).domain b) := by
    intro hl ha hne
    refine (getSeenDomains_addSeenDomain _ b).2 _ (orNull_eq_some.2 ⟨?_, hne⟩)
    simp [generateCookieOpts, hl, ha]
  have htoken := hseen.setCookie hpath now o'.opaqueTokenName token expires fun _ => hrec
  have hjwt := htoken.setCookie hpath now o'.jwtName jwt expires fun _ => hrec
  have halternate := hjwt.addSeenDomain fun hl => @domain_of_localhost page expires
    (!o'.availableToSubdomains) (orNull o'.path) (orNull o'.domain) hl
  exact (halternate.removeAlternate o'.jwtName _).removeAlternate o'.opaqueTokenName _

theorem Tracked.sync (hb : Tracked page o b) (state : Option JsObject) :
    Tracked page o (syncToLocalStorage state b) :=
  ⟨hb.localhost, hb.path, hb.session⟩

theorem Tracked.writeIST (hb : Tracked page o b) (hnames : SameNames o o') (now : ℤ)
    (token : String) : Tracked page o (writeIntermediateSessionTokenCookie page now o' token b) :=
  hb.setCookie hnames.path now _ token _ fun hne => absurd hnames.ist hne

theorem Tracked.updateCookies (hb : Tracked page o b) (hnames : SameNames o o') (now : ℤ)
    (diff : StateWithTokensDiff) : Tracked page o (updateCookies page parseDate now o' diff b) := by
  cases diff with
  | loggedIn state token jwt =>
    exact (hb.writeSessionCookie hnames.path now (some state) token jwt).removeCookies _
  | loggedInOpaque state => exact (hb.removeCookies _).removeCookies _
  | loggedOut => exact (hb.removeCookies _).removeCookies _
  | intermediate token =>
    simp only [Web.updateCookies]
    split_ifs
    · exact (hb.writeIST hnames now token).removeCookies _
    · exact (hb.removeCookies _).removeCookies _
  | intermediateOpaque => exact (hb.removeCookies _).removeCookies _

/-- The cookies of a lifetime are tracked, and its tab has the names and the path of `o`. -/
structure Lifetime.Ok (page : Page) (o : CookieOptions) (s : Lifetime) : Prop where
  tracked : Tracked page o s.browser
  names : SameNames o s.tab.options

theorem Lifetime.Ok.updateState {s : Lifetime} (hs : s.Ok page o) (state : Option JsObject)
    (fromExternalSource : Bool) :
    Lifetime.Ok page o (ofPair (updateState state fromExternalSource s.browser s.tab)) := by
  refine ⟨?_, hs.names⟩
  change Tracked page o (if _ then _ else s.browser)
  split_ifs
  · exact hs.tracked.sync _
  · exact hs.tracked

theorem Lifetime.Ok.updateStateAndTokens {s : Lifetime} (hs : s.Ok page o) (now : ℤ)
    (diff : StateWithTokensDiff) (options : SessionUpdateOptions) :
    Lifetime.Ok page o
      (ofPair (updateStateAndTokens page parseDate now diff options s.browser s.tab)) :=
  ⟨(hs.tracked.updateCookies hs.names now diff).sync _, hs.names⟩

theorem Lifetime.Ok.updateTokens {s : Lifetime} (hs : s.Ok page o) (now : ℤ)
    (token jwt : MaybeString) :
    Lifetime.Ok page o (ofPair (updateTokens page parseDate now token jwt s.browser s.tab)) := by
  unfold Web.updateTokens
  split_ifs
  · exact ⟨(hs.tracked.writeSessionCookie hs.names.path _ _ _ _).removeCookies _, hs.names⟩
  · exact ⟨hs.tracked.removeCookies _, hs.names⟩

theorem Lifetime.Ok.destroySession {s : Lifetime} (hs : s.Ok page o) :
    Lifetime.Ok page o (ofPair (destroySession page s.browser s.tab)) :=
  @Lifetime.Ok.updateState page o ⟨removeSessionCookie page s.tab.options s.browser, s.tab⟩
    ⟨hs.tracked.removeCookies _, hs.names⟩ none false

theorem Lifetime.ok_load (hb : Tracked page o b) (domain : Option String) (avail custom : Bool) :
    Lifetime.Ok page o (load page o domain avail custom b) := by
  have hnew : ∀ o', SameNames o o' → Lifetime.Ok page o (ofPair (newDataLayer o' b)) := by
    intro o' hnames
    unfold newDataLayer
    split
    · exact ⟨hb, hnames⟩
    · exact ⟨hb.sync _, hnames⟩
    · exact ⟨hb, hnames⟩
  have hs := hnew { o with domain := domain, availableToSubdomains := avail } ⟨rfl, rfl, rfl, rfl⟩
  unfold load construct
  dsimp only
  split_ifs
  · exact hs
  · exact hs
  · exact hs.destroySession

theorem Lifetime.Ok.next {s : Lifetime} (hs : s.Ok page o) (a : LifetimeAction) :
    (s.next page parseDate o a).Ok page o := by
  cases a with
  | load domain avail custom => exact ok_load hs.tracked domain avail custom
  | op op =>
    cases op with
    | updateStateAndTokens now diff options => exact hs.updateStateAndTokens now diff options
    | updateState state => exact hs.updateState state false
    | updateTokens now token jwt => exact hs.updateTokens now token jwt
    | destroyState now => exact hs.updateStateAndTokens now .loggedOut (.fresh none)
    | destroySession => exact hs.destroySession
  | evict key => exact ⟨hs.tracked.erase key, hs.names⟩

theorem Lifetime.ok_of_reach {C : Guard Lifetime LifetimeAction} {h : List LifetimeAction}
    {s : Lifetime} (hr : Reach (lifetimes page parseDate o) C h s) : s.Ok page o := by
  refine hr.invariant (I := fun _ s => s.Ok page o) ?_ ?_
  · rintro _ ⟨domain, avail, custom, rfl⟩
    refine ok_load ⟨fun _ => rfl, fun key v hv => ?_, fun key v hv => ?_⟩ domain avail custom
    · cases hv
    · cases hv
  · rintro _ s a _ hs - hn
    cases hn
    exact hs.next a

/-- What is left in the jar after `destroyState`. -/
theorem get_destroyState (now : ℤ) (b : Browser) (t : Tab) (key : CookieKey) (v : String) :
    (destroyState page parseDate now b t).1.jar.get key = some v ↔
      b.jar.get key = some v ∧
        ¬ (key.name ∈ [t.options.opaqueTokenName, t.options.jwtName] ∧ Swept page t.options b key) ∧
        ¬ (key.name ∈ [t.options.istName] ∧ Swept page t.options b key) := by
  refine Iff.trans (get_removeCookies t.options [t.options.istName]
    (removeSessionCookie page t.options b) key v) ?_
  rw [removeSessionCookie, get_removeCookies, and_assoc]
  rfl

/-- In every lifetime reached, `destroyState` leaves no cookie of the SDK exactly when every
intermediate session token cookie is filed host-only or under a domain that `removeCookies` tries:
the page's host, the `domain` option, and the domains recorded for session cookies. -/
theorem destroyState_removes_cookies_iff {h : List LifetimeAction} {s : Lifetime}
    (hr : Reach (lifetimes page parseDate o) anyStep h s) (now : ℤ) :
    (∀ key v, (destroyState page parseDate now s.browser s.tab).1.jar.get key = some v →
        key.name ∉ [o.opaqueTokenName, o.jwtName, o.istName]) ↔
      ∀ key v, s.browser.jar.get key = some v → key.name = o.istName →
        FiledUnder page (triedDomains page s.tab.options s.browser) key := by
  obtain ⟨htracked, hnames⟩ := Lifetime.ok_of_reach hr
  constructor
  · intro hgone key v hv hname
    by_contra hfiled
    have hswept : ¬ Swept page s.tab.options s.browser key :=
      fun h => hfiled (filedUnder_of_swept h)
    refine hgone key v ((get_destroyState now _ _ key v).2 ⟨hv, ?_, ?_⟩) (by simp [hname])
    · exact fun h => hswept h.2
    · exact fun h => hswept h.2
  · intro hfiled key v hv hmem
    obtain ⟨hv, hsession, hist⟩ := (get_destroyState now _ _ key v).1 hv
    have hpath : key.path = cookiePath s.tab.options := by
      rw [htracked.path key v hv, hnames.path]
    by_cases hname : key.name = o.istName
    · refine hist ⟨by simp [hname, hnames.ist], swept_of_filedUnder hpath ?_⟩
      exact hfiled key v hv hname
    · refine hsession ⟨?_, swept_of_filedUnder hpath ?_⟩
      · rw [hnames.opaqueToken, hnames.jwt]
        simpa [hname] using hmem
      · rcases htracked.session key v hv hname with hnone | ⟨d, hd, hne, hfile⟩
        · exact .inl hnone
        · exact .inr ⟨d, subset_triedDomains htracked d hd hne, hne, hfile⟩

end Lifetimes

/-- A page on `app.example.com`, where cookies may be filed under its host or `example.com`. -/
def appPage : Page where
  host := "app.example.com"
  hostname := "app.example.com"
  fileDomain d := if d = "example.com" ∨ d = "app.example.com" then some (some d) else none
  pathVisible _ := true
  encodeName name := name
  encodeName_injective _ _ h := h

/-- An SDK with the default cookie names and path. -/
def defaultOptions : CookieOptions := ⟨none, none, none, none, none, false⟩

/-- A first lifetime with cookies for `example.com`. -/
def firstLifetime : Lifetime :=
  .load appPage defaultOptions (some "example.com") true false ⟨.empty, none, none, []⟩

theorem init_firstLifetime :
    (lifetimes appPage (fun _ => none) defaultOptions).init firstLifetime :=
  ⟨some "example.com", true, false, rfl⟩

/-- A login, a new lifetime with another domain, and a logout. -/
theorem destroyState_removes_cookies_session :
    ∃ h s, Reach (lifetimes appPage (fun _ => none) defaultOptions) anyStep h s ∧ h.length = 2 ∧
      ∀ key v, (destroyState appPage (fun _ => none) 0 s.browser s.tab).1.jar.get key = some v →
        key.name ∉ [defaultOptions.opaqueTokenName, defaultOptions.jwtName,
          defaultOptions.istName] := by
  obtain ⟨s, hr, hsession⟩ : ∃ s, Reach (lifetimes appPage (fun _ => none) defaultOptions) anyStep
      [.load none false false,
        .op (.updateStateAndTokens 0 (.loggedIn .empty "token" "jwt") (.fresh none))] s ∧
      ∀ e ∈ s.browser.jar.entries, e.1.name ≠ defaultOptions.istName :=
    ⟨_, reach_of_exec init_firstLifetime rfl, by decide +kernel⟩
  refine ⟨_, s, hr, rfl, (destroyState_removes_cookies_iff hr 0).2 fun key v hv hname => ?_⟩
  exact absurd hname (hsession (key, v) ((OrderedMap.get_eq_some_iff _ key v).1 hv))

/-- An intermediate session token cookie written for `example.com` outlives a logout under other
cookie options. -/
theorem destroyState_leaves_IST :
    ∃ h s, Reach (lifetimes appPage (fun _ => none) defaultOptions) anyStep h s ∧
      (destroyState appPage (fun _ => none) 0 s.browser s.tab).1.jar.get
        ⟨"stytch_intermediate_session_token", some "example.com", "/"⟩ = some "ist" := by
  have hr : Reach (lifetimes appPage (fun _ => none) defaultOptions) anyStep
      [.load none false false,
        .op (.updateStateAndTokens 0 (.intermediate "ist") (.fresh none))] _ :=
    reach_of_exec init_firstLifetime rfl
  exact ⟨_, _, hr, by decide +kernel⟩

end StytchBrowser.Web
