import StytchBrowser.Web.TokenUpdates

/-!
# Cookies across flips of `availableToSubdomains`

The lifetimes of the SDK on a host with the same cookie names, path and domain, where only
`availableToSubdomains` changes. A cookie is then filed in one of two places, and the page reads the
older one when a name is in both.

* `named_dropAlternate_entries`: a session cookie that is written and the alternate removed is the
  only cookie of its name;
* `cookies_written_back`: the writes after which the page reads what was written, and sees the name
  once. An intermediate session token is written without the removal.
-/

namespace StytchBrowser.Web

open Machine

section

variable (page : Page) (parseDate : String → Option ℤ)

/-- What a name is filed under with the given value of `availableToSubdomains`. -/
def filedAs (o : CookieOptions) (availableToSubdomains : Bool) (name : String) : Option CookieKey :=
  Cookies.keyOf page name
    (generateCookieOpts page none availableToSubdomains (orNull o.path) (orNull o.domain))

/-- What happens on the host. -/
inductive CookieAction where
  /-- The page is loaded anew. -/
  | load (availableToSubdomains usingCustomApiEndpoint : Bool)
  | writeSession (now : ℤ) (state : Option JsObject) (token jwt : String)
  | writeIST (now : ℤ) (token : String)
  | removeSession
  | removeIST
  /-- The browser drops a cookie that has expired. -/
  | evict (key : CookieKey)

/-- A lifetime with the options of `o`, but for `availableToSubdomains`. -/
def flipLoad (o : CookieOptions) (availableToSubdomains custom : Bool) (b : Browser) : Lifetime :=
  .load page o o.domain availableToSubdomains custom b

def CookieAction.next (o : CookieOptions) (s : Lifetime) : CookieAction → Lifetime
  | .load avail custom => flipLoad page o avail custom s.browser
  | .writeSession now state token jwt =>
      { s with browser := writeSessionCookie page parseDate now s.tab.options state token jwt s.browser }
  | .writeIST now token =>
      { s with browser := writeIntermediateSessionTokenCookie page now s.tab.options token s.browser }
  | .removeSession => { s with browser := removeSessionCookie page s.tab.options s.browser }
  | .removeIST => { s with browser := removeISTCookie page s.tab.options s.browser }
  | .evict key => { s with browser := { s.browser with jar := s.browser.jar.erase key } }

/-- The lifetimes with the options of `o`, from a browser without cookies and with an empty
`localStorage`. -/
def flips (o : CookieOptions) : Machine Lifetime CookieAction where
  init s := ∃ avail custom, s = flipLoad page o avail custom ⟨.empty, none, none, []⟩
  next s a := some (a.next page parseDate o s)

/-- The page sees exactly one cookie of the name. -/
def SeenOnce (name : String) (jar : Jar) : Prop :=
  ((Cookies.documentCookie page jar).filter fun e => e.1 = name).length = 1

/-- The page reads what was written, and sees each cookie that was written once. -/
def WrittenBack (s : Lifetime) : CookieAction → Prop
  | .writeSession _ _ token jwt =>
      readSessionCookie page s.tab.options s.browser = (some token, some jwt) ∧
        SeenOnce page s.tab.options.opaqueTokenName s.browser.jar ∧
        SeenOnce page s.tab.options.jwtName s.browser.jar
  | .writeIST _ token =>
      readIntermediateSessionTokenCookie page s.tab.options s.browser = some token ∧
        SeenOnce page s.tab.options.istName s.browser.jar
  | _ => True

/-- No cookie of the name is filed elsewhere than under the current options. -/
def NoAlternate (o : CookieOptions) (name : String) (jar : Jar) : Prop :=
  ∀ key v, jar.get key = some v → key.name = name →
    filedAs page o o.availableToSubdomains name = some key

/-- The browser accepts the cookies that are written, and those of the session do not expire at
once. The page can tell whether there are several session cookies of a name, as it can when
`js-cookie` writes the name as it is, or there is no alternate one. There is no alternate cookie of
an intermediate session token. -/
def Settles : Guard Lifetime CookieAction := fun _ s a =>
  let o := s.tab.options
  match a with
  | .writeSession now state _ _ =>
      Cookies.expired now (generateCookieOpts page (sessionExpires parseDate state)
          o.availableToSubdomains (orNull o.path) (orNull o.domain)) = false ∧
        ∀ name ∈ [o.opaqueTokenName, o.jwtName],
          (filedAs page o o.availableToSubdomains name).isSome ∧
            (page.encodeName name = name ∨ NoAlternate page o name s.browser.jar)
  | .writeIST _ _ =>
      (filedAs page o o.availableToSubdomains o.istName).isSome ∧
        NoAlternate page o o.istName s.browser.jar
  | _ => True

/-- Every cookie is filed where one of the two values of `availableToSubdomains` puts it. -/
def Filed (o : CookieOptions) (jar : Jar) : Prop :=
  ∀ key v, jar.get key = some v → ∃ avail, filedAs page o avail key.name = some key

variable {page parseDate} {o : CookieOptions} {jar : Jar}

/-! ## Where cookies are filed -/

theorem filedAs_spec {avail : Bool} {name : String} {key : CookieKey}
    (h : filedAs page o avail name = some key) : key.name = name ∧ key.path = cookiePath o :=
  Cookies.keyOf_spec h

/-- The expiry does not matter. -/
theorem keyOf_of_filedAs {avail : Bool} {name : String} {key : CookieKey}
    (h : filedAs page o avail name = some key) (expires : Option ℤ) :
    Cookies.keyOf page name (generateCookieOpts page expires avail (orNull o.path)
      (orNull o.domain)) = some key := h

/-- Two names are filed alike. -/
theorem filedAs_rename (avail : Bool) (name name' : String) :
    filedAs page o avail name' = (filedAs page o avail name).map fun key => { key with name := name' } := by
  unfold filedAs Cookies.keyOf
  split
  · rfl
  · rw [Option.map_map]
    rfl

theorem Filed.of_subset {jar' : Jar} (h : Filed page o jar)
    (hsub : ∀ key v, jar'.get key = some v → jar.get key = some v) : Filed page o jar' :=
  fun key v hv => h key v (hsub key v hv)

theorem Filed.set (h : Filed page o jar) (now : ℤ) (name value : String) (expires : Option ℤ)
    (avail : Bool) :
    Filed page o (Cookies.set page now name value
      (generateCookieOpts page expires avail (orNull o.path) (orNull o.domain)) jar) := by
  intro key v hv
  rcases Cookies.get_set_eq_some hv with ⟨hkey, -⟩ | hold
  · obtain ⟨rfl, -⟩ := Cookies.keyOf_spec hkey
    exact ⟨avail, hkey⟩
  · exact h key v hold

theorem get_dropAlternate {name : String} {attributes : CookieAttributes} {key : CookieKey}
    {v : String} (hv : (dropAlternate page name attributes jar).get key = some v) :
    jar.get key = some v := by
  unfold dropAlternate at hv
  split_ifs at hv
  · rw [Cookies.get_remove] at hv
    split_ifs at hv
    exact hv
  · exact hv

theorem Filed.onePath (h : Filed page o jar) (hvisible : page.pathVisible (cookiePath o) = true) :
    Cookies.OnePath page (cookiePath o) jar := by
  refine ⟨fun key v hv => ?_, hvisible⟩
  obtain ⟨avail, hkey⟩ := h key v hv
  exact (filedAs_spec hkey).2

/-! ## One cookie of a name -/

theorem get_named {name : String} {key : CookieKey} {v : String} :
    (Cookies.named name jar).get key = some v ↔ jar.get key = some v ∧ key.name = name := by
  rw [Cookies.named, OrderedMap.get_restrict_eq_some, decide_eq_true_eq]

/-- A jar with at most one cookie for each name has no name several times. -/
theorem hasMultipleCookies_of_unique (hpath : Cookies.OnePath page (cookiePath o) jar)
    (hunique : ∀ key v key' v', jar.get key = some v → jar.get key' = some v' →
      key.name = key'.name → key = key') (name : String) :
    Cookies.hasMultipleCookies page name jar = false := by
  rw [Cookies.hasMultipleCookies, Cookies.documentCookie_of_onePath hpath, List.filter_map,
    List.length_map, decide_eq_false_iff_not, not_lt]
  let wire : Jar := jar.restrict fun key => page.encodeName key.name = name
  have hwire : ∀ key v, wire.get key = some v →
      jar.get key = some v ∧ page.encodeName key.name = name := by
    intro key v hv
    rwa [OrderedMap.get_restrict_eq_some, decide_eq_true_eq] at hv
  change wire.entries.length ≤ 1
  cases hone : wire.entries with
  | nil => exact Nat.zero_le 1
  | cons e l =>
    have he : wire.get e.1 = some e.2 :=
      (wire.get_eq_some_iff e.1 e.2).2 (hone ▸ List.mem_cons_self)
    have hsingle := OrderedMap.entries_eq_singleton he fun key v hv => by
      obtain ⟨hkey, hname⟩ := hwire key v hv
      obtain ⟨hkey', hname'⟩ := hwire e.1 e.2 he
      exact hunique key v e.1 e.2 hkey hkey' (page.encodeName_injective (hname.trans hname'.symm))
    rw [← hone, hsingle]
    exact le_rfl

/-- Where both values of `availableToSubdomains` file a name alike, no name is there twice. -/
theorem hasMultipleCookies_of_same (hfiled : Filed page o jar)
    (hvisible : page.pathVisible (cookiePath o) = true) {avail : Bool} {name : String}
    (hsame : filedAs page o (!avail) name = filedAs page o avail name) (name' : String) :
    Cookies.hasMultipleCookies page name' jar = false := by
  have hall : ∀ key v, jar.get key = some v → filedAs page o avail key.name = some key := by
    intro key v hv
    obtain ⟨avail', hkey⟩ := hfiled key v hv
    rcases Bool.eq_or_eq_not avail' avail with rfl | rfl
    · exact hkey
    · rwa [filedAs_rename _ name, hsame, ← filedAs_rename] at hkey
  refine hasMultipleCookies_of_unique (hfiled.onePath hvisible) ?_ name'
  intro key v key' v' hv hv' hname
  have hkey := hall key v hv
  rw [hname, hall key' v' hv'] at hkey
  exact (Option.some.inj hkey).symm

/-- What is left of the cookies of a name: `jar` is the jar before the write, `jar'` the one before
the alternate is removed. -/
theorem named_dropAlternate_entries {jar' : Jar} (hfiled : Filed page o jar')
    (hvisible : page.pathVisible (cookiePath o) = true) {name value : String} {key : CookieKey}
    (hkey : filedAs page o o.availableToSubdomains name = some key)
    (hwritten : Cookies.named name jar' = (Cookies.named name jar).set key value)
    (hplain : page.encodeName name = name ∨ NoAlternate page o name jar) :
    (Cookies.named name (dropAlternate page name (alternateTo page o) jar')).entries =
      [(key, value)] := by
  have hpath := hfiled.onePath hvisible
  have hget : (Cookies.named name jar').get key = some value := by
    rw [hwritten, OrderedMap.get_set, if_pos rfl]
  have hplace : ∀ key' v, (Cookies.named name jar').get key' = some v →
      key' = key ∨ filedAs page o (!o.availableToSubdomains) name = some key' := by
    intro key' v hv
    obtain ⟨hv, hname⟩ := get_named.1 hv
    obtain ⟨avail, hkey'⟩ := hfiled key' v hv
    rw [hname] at hkey'
    rcases Bool.eq_or_eq_not avail o.availableToSubdomains with rfl | rfl
    · exact .inl (Option.some.inj (hkey'.symm.trans hkey))
    · exact .inr hkey'
  by_cases hsame : filedAs page o (!o.availableToSubdomains) name = some key
  · -- the alternate place is the same, and there is nothing to remove
    rw [dropAlternate, hasMultipleCookies_of_same hfiled hvisible (hsame.trans hkey.symm) name]
    refine OrderedMap.entries_eq_singleton hget fun key' v hv => ?_
    rcases hplace key' v hv with h | h
    · exact h
    · exact Option.some.inj (h.symm.trans hsame)
  · unfold dropAlternate
    split_ifs with hmany
    · rw [Cookies.named_remove]
      refine OrderedMap.entries_eq_singleton ?_ fun key' v hv => ?_
      · rw [Cookies.get_remove]
        exact (if_neg hsame).trans hget
      · rw [Cookies.get_remove] at hv
        split_ifs at hv with halternate
        exact (hplace key' v hv).resolve_right halternate
    · refine OrderedMap.entries_eq_singleton hget fun key' v hv => ?_
      rcases hplain with hplain | hplain
      · rw [Cookies.hasMultipleCookies_of_onePath hpath hplain, decide_eq_true_eq, not_lt] at hmany
        exact (OrderedMap.get_unique hmany hv hget).1
      · rw [hwritten, OrderedMap.get_set] at hv
        split_ifs at hv with heq
        · exact heq
        · obtain ⟨hold, hname⟩ := get_named.1 hv
          exact Option.some.inj ((hplain key' v hold hname).symm.trans hkey)

/-- A name with one cookie in the jar is read, and seen once. -/
theorem read_of_entries (hfiled : Filed page o jar)
    (hvisible : page.pathVisible (cookiePath o) = true) {name value : String} {key : CookieKey}
    (hentries : (Cookies.named name jar).entries = [(key, value)]) :
    Cookies.get page name jar = some value ∧ SeenOnce page name jar := by
  have hpath := hfiled.onePath hvisible
  constructor
  · rw [Cookies.get_of_onePath hpath, OrderedMap.oldest, hentries]
    rfl
  · rw [SeenOnce, Cookies.documentCookie_of_onePath hpath, List.filter_map, List.length_map]
    exact congrArg List.length hentries

/-! ## The writes -/

variable {b : Browser}

theorem Filed.writeSessionCookie (h : Filed page o b.jar) (now : ℤ) (state : Option JsObject)
    (token jwt : String) :
    Filed page o (writeSessionCookie page parseDate now o state token jwt b).jar := by
  rw [jar_writeSessionCookie]
  exact ((h.set now _ token _ _).set now _ jwt _ _).of_subset fun key v hv =>
    get_dropAlternate (get_dropAlternate hv)

theorem Filed.writeIST (h : Filed page o b.jar) (now : ℤ) (token : String) :
    Filed page o (writeIntermediateSessionTokenCookie page now o token b).jar :=
  h.set now _ token _ _

theorem Filed.removeCookies (h : Filed page o b.jar) (names : List String) :
    Filed page o (removeCookies page o names b).jar :=
  h.of_subset fun key v hv => ((get_removeCookies o names b key v).1 hv).1

/-- Both session cookies are read back: each is the only one of its name. -/
theorem writeSessionCookie_written (hfiled : Filed page o b.jar) (hnames : DistinctNames page o)
    {now : ℤ} {state : Option JsObject}
    (hexpires : Cookies.expired now (generateCookieOpts page (sessionExpires parseDate state)
      o.availableToSubdomains (orNull o.path) (orNull o.domain)) = false)
    (hwrite : ∀ name ∈ [o.opaqueTokenName, o.jwtName],
      (filedAs page o o.availableToSubdomains name).isSome ∧
        (page.encodeName name = name ∨ NoAlternate page o name b.jar)) (token jwt : String) :
    ∃ key key', (Cookies.named o.opaqueTokenName
        (writeSessionCookie page parseDate now o state token jwt b).jar).entries = [(key, token)] ∧
      (Cookies.named o.jwtName
        (writeSessionCookie page parseDate now o state token jwt b).jar).entries = [(key', jwt)] := by
  obtain ⟨⟨hsome, hplain⟩, ⟨hsome', hplain'⟩⟩ : _ ∧ _ :=
    ⟨hwrite o.opaqueTokenName (by simp), hwrite o.jwtName (by simp)⟩
  obtain ⟨key, hkey⟩ := Option.isSome_iff_exists.1 hsome
  obtain ⟨key', hkey'⟩ := Option.isSome_iff_exists.1 hsome'
  have hne : o.jwtName ≠ o.opaqueTokenName := fun he =>
    (List.nodup_cons.1 hnames.nodup).1 (by simp [he])
  have htoken := hfiled.set now o.opaqueTokenName token (sessionExpires parseDate state)
    o.availableToSubdomains
  have hjwt := htoken.set now o.jwtName jwt (sessionExpires parseDate state)
    o.availableToSubdomains
  rw [jar_writeSessionCookie]
  refine ⟨key, key', named_dropAlternate_entries ?_ hnames.visible hkey ?_ hplain, ?_⟩
  · exact hjwt.of_subset fun k v hv => get_dropAlternate hv
  · rw [named_dropAlternate_of_ne hne, Cookies.named_set_of_ne hne,
      Cookies.named_set_self (keyOf_of_filedAs hkey _) hexpires]
  · rw [named_dropAlternate_of_ne (Ne.symm hne)]
    refine named_dropAlternate_entries hjwt hnames.visible hkey' ?_ hplain'
    rw [Cookies.named_set_self (keyOf_of_filedAs hkey' _) hexpires, Cookies.named_set_of_ne (Ne.symm hne)]

/-- An intermediate session token is read back when there is no alternate cookie. -/
theorem writeIST_written {now : ℤ}
    (hsome : (filedAs page o o.availableToSubdomains o.istName).isSome)
    (hnone : NoAlternate page o o.istName b.jar) (token : String) :
    ∃ key, (Cookies.named o.istName
      (writeIntermediateSessionTokenCookie page now o token b).jar).entries = [(key, token)] := by
  obtain ⟨key, hkey⟩ := Option.isSome_iff_exists.1 hsome
  have hexpires : Cookies.expired now (generateCookieOpts page
      (some ((now + 10 * 60000) / 1000 * 1000)) o.availableToSubdomains (orNull o.path)
      (orNull o.domain)) = false := by
    simp only [Cookies.expired, generateCookieOpts, Option.any_some, decide_eq_false_iff_not]
    omega
  refine ⟨key, ?_⟩
  rw [writeIntermediateSessionTokenCookie, setCookie,
    Cookies.named_set_self (keyOf_of_filedAs hkey _) hexpires]
  refine OrderedMap.entries_eq_singleton (by rw [OrderedMap.get_set, if_pos rfl]) fun k v hv => ?_
  rw [OrderedMap.get_set] at hv
  split_ifs at hv with heq
  · exact heq
  · obtain ⟨hold, hname⟩ := get_named.1 hv
    exact Option.some.inj ((hnone k v hold hname).symm.trans hkey)

/-! ## Runs -/

/-- The options of a lifetime, and where its cookies are. -/
structure Flipped (page : Page) (o : CookieOptions) (s : Lifetime) : Prop where
  options : ∃ avail, s.tab.options = { o with availableToSubdomains := avail }
  filed : Filed page o s.browser.jar

theorem Flipped.filed' {s : Lifetime} (h : Flipped page o s) :
    Filed page s.tab.options s.browser.jar := by
  obtain ⟨avail, hoptions⟩ := h.options
  rw [hoptions]
  exact h.filed

theorem Flipped.of_filed {s : Lifetime} (h : Flipped page o s) {b : Browser}
    (hb : Filed page s.tab.options b.jar) : Flipped page o { s with browser := b } := by
  obtain ⟨avail, hoptions⟩ := h.options
  refine ⟨⟨avail, hoptions⟩, ?_⟩
  rw [hoptions] at hb
  exact hb

theorem options_construct (o : CookieOptions) (custom : Bool) (b : Browser) :
    (construct page o custom b).2.options = o := by
  have hnew : (newDataLayer o b).2.options = o := by
    unfold newDataLayer
    split <;> rfl
  simp only [construct]
  split_ifs <;> exact hnew

theorem Flipped.load (h : Filed page o b.jar) (avail custom : Bool) :
    Flipped page o (flipLoad page o avail custom b) :=
  ⟨⟨avail, options_construct _ custom b⟩, h.of_subset fun _ _ hv => get_construct hv⟩

theorem Flipped.next {s : Lifetime} (h : Flipped page o s) (a : CookieAction) :
    Flipped page o (a.next page parseDate o s) := by
  cases a with
  | load avail custom => exact .load h.filed avail custom
  | writeSession now state token jwt =>
    exact h.of_filed (h.filed'.writeSessionCookie now state token jwt)
  | writeIST now token => exact h.of_filed (h.filed'.writeIST now token)
  | removeSession => exact h.of_filed (h.filed'.removeCookies _)
  | removeIST => exact h.of_filed (h.filed'.removeCookies _)
  | evict key =>
    refine h.of_filed (h.filed'.of_subset fun k v hv => ?_)
    rw [OrderedMap.get_erase] at hv
    split_ifs at hv
    exact hv

theorem flipped_of_reach {C : Guard Lifetime CookieAction} {h : List CookieAction} {s : Lifetime}
    (hr : Reach (flips page parseDate o) C h s) : Flipped page o s := by
  refine hr.invariant (I := fun _ s => Flipped page o s) ?_ ?_
  · rintro _ ⟨avail, custom, rfl⟩
    exact .load (fun key v hv => by cases hv) avail custom
  · rintro _ s a _ hs - hn
    cases hn
    exact hs.next a

theorem Flipped.distinctNames {s : Lifetime} (h : Flipped page o s)
    (hnames : DistinctNames page o) : DistinctNames page s.tab.options := by
  obtain ⟨avail, hoptions⟩ := h.options
  rw [hoptions]
  exact ⟨hnames.nodup, hnames.visible⟩

/-- A write that settles is read back and seen once. -/
theorem Flipped.writtenBack {s : Lifetime} (h : Flipped page o s) (hnames : DistinctNames page o)
    {hist : List CookieAction} {a : CookieAction} (hc : Settles page parseDate hist s a) :
    WrittenBack page (a.next page parseDate o s) a := by
  have hnames' := h.distinctNames hnames
  cases a with
  | writeSession now state token jwt =>
    obtain ⟨key, key', htoken, hjwt⟩ :=
      writeSessionCookie_written h.filed' hnames' hc.1 hc.2 token jwt
    have hfiled := @Filed.writeSessionCookie page parseDate _ s.browser h.filed' now state token jwt
    obtain ⟨hread, honce⟩ := read_of_entries hfiled hnames'.visible htoken
    obtain ⟨hread', honce'⟩ := read_of_entries hfiled hnames'.visible hjwt
    rw [CookieAction.next]
    refine ⟨?_, honce, honce'⟩
    rw [readSessionCookie, hread, hread']
  | writeIST now token =>
    obtain ⟨key, htoken⟩ := @writeIST_written page _ s.browser now hc.1 hc.2 token
    rw [CookieAction.next]
    exact read_of_entries (h.filed'.writeIST now token) hnames'.visible htoken
  | load _ _ => trivial
  | removeSession => trivial
  | removeIST => trivial
  | evict _ => trivial

/-- In every run whose writes settle, what is written is read back and seen once. -/
theorem cookies_written_back (hnames : DistinctNames page o) {h : List CookieAction}
    {a : CookieAction} {s : Lifetime}
    (hr : Reach (flips page parseDate o) (Settles page parseDate) (a :: h) s) :
    WrittenBack page s a := by
  cases hr with
  | step hr hc hn =>
    cases hn
    exact (flipped_of_reach hr).writtenBack hnames hc

end

/-- The reading of the dates below. -/
def readDate (s : String) : Option ℤ := if s = "2100-01-01T00:00:00Z" then some 4102444800000 else none

/-- A state whose session is valid for long. -/
def longSession : JsObject :=
  .set .empty "session" (some (.obj [("expires_at", .str "2100-01-01T00:00:00Z")]))

/-- A lifetime of an SDK with the default options, on a browser without cookies. -/
def emptyLifetime : Lifetime := flipLoad appPage defaultOptions true false ⟨.empty, none, none, []⟩

theorem init_emptyLifetime : (flips appPage readDate defaultOptions).init emptyLifetime :=
  ⟨true, false, rfl⟩

/-- A login with cookies for all subdomains, and another one in a lifetime with host-only cookies. -/
theorem cookies_written_back_flip :
    ∃ s, Reach (flips appPage readDate defaultOptions) (Settles appPage readDate)
        [.writeSession 1 (some longSession) "token" "jwt", .load false false,
          .writeSession 0 (some longSession) "old token" "old jwt"] s ∧
      WrittenBack appPage s (.writeSession 1 (some longSession) "token" "jwt") := by
  have haccepted : ∀ avail, ∀ name ∈ [defaultOptions.opaqueTokenName, defaultOptions.jwtName],
      (filedAs appPage { defaultOptions with availableToSubdomains := avail } avail name).isSome := by
    decide +kernel
  have hsettles : ∀ h avail s now token jwt,
      s.tab.options = { defaultOptions with availableToSubdomains := avail } → now ≤ 1 →
        Settles appPage readDate h s (.writeSession now (some longSession) token jwt) := by
    intro h avail s now token jwt hoptions hnow
    unfold Settles
    rw [hoptions]
    refine ⟨?_, fun name hname => ⟨haccepted avail name hname, .inl rfl⟩⟩
    show decide ((4102444800000 : ℤ) / 1000 * 1000 ≤ now) = false
    rw [decide_eq_false_iff_not]
    omega
  have hr : Reach (flips appPage readDate defaultOptions) (Settles appPage readDate)
      [.writeSession 1 (some longSession) "token" "jwt", .load false false,
        .writeSession 0 (some longSession) "old token" "old jwt"] _ :=
    .step (.step (.step (.start init_emptyLifetime) (hsettles _ true _ _ _ _ rfl (by decide)) rfl)
      trivial rfl) (hsettles _ false _ _ _ _ rfl (by decide)) rfl
  exact ⟨_, hr, cookies_written_back ⟨by decide, rfl⟩ hr⟩

/-- An intermediate session token that is written after a flip is not the one that is read. -/
theorem ist_not_written_back :
    ¬ ∀ h a s, Reach (flips appPage readDate defaultOptions) anyStep (a :: h) s →
      WrittenBack appPage s a := by
  intro hall
  have hr : Reach (flips appPage readDate defaultOptions) anyStep
      [.writeIST 1 "new", .load false false, .writeIST 0 "old"] _ :=
    reach_of_exec (s := emptyLifetime) init_emptyLifetime rfl
  have hread : readIntermediateSessionTokenCookie appPage _ _ = some "new" := (hall _ _ _ hr).1
  revert hread
  decide +kernel

end StytchBrowser.Web
