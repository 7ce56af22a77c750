import StytchBrowser.Lib.Machine
import StytchBrowser.Lib.OrderedMap
import StytchBrowser.Lib.Splitting

/-!
# The safe storage

The clients of a page keep their entries in the one storage of the browser, under keys that are put
together from the public token of the client and a key of its own. A storage that is missing takes
nothing; an empty value is not written.

* `getPersistentStorageKey_injective`: no two entries have one name;
* `getItem_eq_lastWritten`: an entry is what was last written to it, whatever was done to others;
* `safe_storage_iff`: when that is what was last set;
* `initialValue_setValue`: what the hook over the storage reads when it is mounted again.
-/

namespace StytchBrowser.Web.SafeStorage

open Machine

/-- A public token, which has no colon. -/
structure PublicToken where
  text : String
  noColon : ':' ∉ text.toList
  deriving DecidableEq

def persistentStorageKeyPrefix : String := "stytch_sdk_state_"

/-- The name of an entry in the storage. -/
def getPersistentStorageKey (publicToken key : String) : String :=
  persistentStorageKeyPrefix ++ publicToken ++ if key = "" then "" else "::" ++ key

/-- The storage of the browser, if there is one. -/
abbrev Storage := Option (OrderedMap String String)

def getItem (storage : Storage) (publicToken key : String) : Option String :=
  storage.bind fun entries => entries.get (getPersistentStorageKey publicToken key)

def setItem (storage : Storage) (publicToken key value : String) : Storage :=
  storage.map fun entries =>
    if value = "" then entries else entries.set (getPersistentStorageKey publicToken key) value

def removeItem (storage : Storage) (publicToken key : String) : Storage :=
  storage.map fun entries => entries.erase (getPersistentStorageKey publicToken key)

/-- The functions of a client. -/
structure KeyBoundStorage where
  getItem : Storage → String → Option String
  setItem : Storage → String → String → Storage
  removeItem : Storage → String → Storage

def getKeyBoundStorage (publicToken : String) : KeyBoundStorage :=
  ⟨(getItem · publicToken), (setItem · publicToken), (removeItem · publicToken)⟩

inductive Operation where
  | getItem (token : PublicToken) (key : String)
  | setItem (token : PublicToken) (key value : String)
  | removeItem (token : PublicToken) (key : String)

def next (storage : Storage) : Operation → Option Storage
  | .getItem _ _ => some storage
  | .setItem token key value => some ((getKeyBoundStorage token.text).setItem storage key value)
  | .removeItem token key => some ((getKeyBoundStorage token.text).removeItem storage key)

/-- A storage that has no entries of the SDK, and what the clients do with it. -/
def storages : Machine Storage Operation where
  init storage := storage.isSome ∧
    ∀ token : PublicToken, ∀ key, getItem storage token.text key = none
  next := next

/-! ## The map that a storage is meant to be -/

/-- The operation sets or removes the entry; what is the entry then. -/
def Operation.effect (token : PublicToken) (key : String) : Operation → Option (Option String)
  | .getItem _ _ => none
  | .setItem token' key' value => if token' = token ∧ key' = key then some (some value) else none
  | .removeItem token' key' => if token' = token ∧ key' = key then some none else none

/-- The value that was last set since the last removal, newest operation first. -/
def lastSet (h : List Operation) (token : PublicToken) (key : String) : Option String :=
  (h.findSome? (Operation.effect token key)).getD none

/-- What the storage takes of the operation. -/
def Operation.written (token : PublicToken) (key : String) (a : Operation) :
    Option (Option String) :=
  (a.effect token key).filter (· ≠ some "")

/-- The value that was last written since the last removal. -/
def lastWritten (h : List Operation) (token : PublicToken) (key : String) : Option String :=
  (h.findSome? (Operation.written token key)).getD none

/-! ## The keys -/

theorem colon_notMem_stem (token : PublicToken) :
    ':' ∉ (persistentStorageKeyPrefix ++ token.text).toList := by
  rw [String.toList_append, List.mem_append, not_or]
  exact ⟨by decide, token.noColon⟩

theorem getPersistentStorageKey_empty (token : String) :
    getPersistentStorageKey token "" = persistentStorageKeyPrefix ++ token := by
  rw [getPersistentStorageKey, if_pos rfl, String.append_empty]

theorem getPersistentStorageKey_of_ne {token key : String} (h : key ≠ "") :
    getPersistentStorageKey token key =
      persistentStorageKeyPrefix ++ token ++ String.singleton ':' ++ (":" ++ key) := by
  have hcolons : "::" = String.singleton ':' ++ ":" := by decide
  rw [getPersistentStorageKey, if_neg h, hcolons]
  simp only [String.append_assoc]

/-- Only the name for the empty key has no colon. -/
theorem colon_mem_key (token : String) {key : String} (h : key ≠ "") :
    ':' ∈ (getPersistentStorageKey token key).toList := by
  rw [getPersistentStorageKey_of_ne h]
  simp only [String.toList_append, String.toList_singleton, List.mem_append, List.mem_singleton,
    or_true, true_or]

theorem eq_empty_of_key_eq {token token' : PublicToken} {key : String}
    (h : getPersistentStorageKey token.text "" = getPersistentStorageKey token'.text key) :
    key = "" := by
  by_contra hkey
  have hmem := colon_mem_key token'.text hkey
  rw [← h, getPersistentStorageKey_empty] at hmem
  exact colon_notMem_stem token hmem

theorem PublicToken.eq_of_stem {token token' : PublicToken}
    (h : persistentStorageKeyPrefix ++ token.text = persistentStorageKeyPrefix ++ token'.text) :
    token = token' := by
  obtain ⟨text, _⟩ := token
  obtain ⟨text', _⟩ := token'
  obtain rfl : text = text' := (String.append_right_inj _).1 h
  rfl

/-- Different entries have different names. -/
theorem getPersistentStorageKey_injective {token token' : PublicToken} {key key' : String}
    (h : getPersistentStorageKey token.text key = getPersistentStorageKey token'.text key') :
    token = token' ∧ key = key' := by
  by_cases hkey : key = ""
  · subst hkey
    obtain rfl := eq_empty_of_key_eq h
    rw [getPersistentStorageKey_empty, getPersistentStorageKey_empty] at h
    exact ⟨PublicToken.eq_of_stem h, rfl⟩
  · have hkey' : key' ≠ "" := by
      rintro rfl
      exact hkey (eq_empty_of_key_eq h.symm)
    rw [getPersistentStorageKey_of_ne hkey, getPersistentStorageKey_of_ne hkey'] at h
    obtain ⟨hstem, hrest⟩ :=
      Splitting.append_inj (colon_notMem_stem token) (colon_notMem_stem token') h
    exact ⟨PublicToken.eq_of_stem hstem, (String.append_right_inj _).1 hrest⟩

theorem getPersistentStorageKey_eq_iff {token token' : PublicToken} {key key' : String} :
    getPersistentStorageKey token.text key = getPersistentStorageKey token'.text key' ↔
      token = token' ∧ key = key' := by
  refine ⟨getPersistentStorageKey_injective, ?_⟩
  rintro ⟨rfl, rfl⟩
  rfl

/-! ## Reads after writes -/

section

variable (entries : OrderedMap String String) (token token' : PublicToken) (key key' value : String)

theorem getItem_setItem :
    getItem (setItem (some entries) token'.text key' value) token.text key =
      if value ≠ "" ∧ token' = token ∧ key' = key then some value
      else getItem (some entries) token.text key := by
  by_cases hvalue : value = ""
  · simp [setItem, hvalue]
  · rw [setItem, Option.map_some, if_neg hvalue, getItem, Option.bind_some, OrderedMap.get_set]
    refine if_congr ?_ rfl rfl
    rw [eq_comm, getPersistentStorageKey_eq_iff]
    exact (and_iff_right hvalue).symm

theorem getItem_removeItem :
    getItem (removeItem (some entries) token'.text key') token.text key =
      if token' = token ∧ key' = key then none else getItem (some entries) token.text key := by
  rw [removeItem, Option.map_some, getItem, Option.bind_some, OrderedMap.get_erase]
  refine if_congr ?_ rfl rfl
  rw [eq_comm, getPersistentStorageKey_eq_iff]

end

/-- What one operation does to one entry. -/
theorem getItem_of_next {s s' : Storage} {a : Operation} (hs : s.isSome)
    (hn : storages.next s a = some s') (token : PublicToken) (key : String) :
    s'.isSome ∧
      getItem s' token.text key = (a.written token key).getD (getItem s token.text key) := by
  obtain ⟨entries, rfl⟩ := Option.isSome_iff_exists.1 hs
  cases a with
  | getItem token' key' =>
    obtain rfl := Option.some.inj hn
    exact ⟨rfl, rfl⟩
  | setItem token' key' value =>
    obtain rfl := Option.some.inj hn
    refine ⟨rfl, (getItem_setItem entries token token' key key' value).trans ?_⟩
    by_cases hat : token' = token ∧ key' = key <;> by_cases hvalue : value = "" <;>
      simp [Operation.written, Operation.effect, hat, hvalue, Option.filter]
  | removeItem token' key' =>
    obtain rfl := Option.some.inj hn
    refine ⟨rfl, (getItem_removeItem entries token token' key key').trans ?_⟩
    by_cases hat : token' = token ∧ key' = key <;>
      simp [Operation.written, Operation.effect, hat, Option.filter]

/-! ## Runs -/

theorem lastWritten_cons (a : Operation) (h : List Operation) (token : PublicToken) (key : String) :
    lastWritten (a :: h) token key = (a.written token key).getD (lastWritten h token key) := by
  rw [lastWritten, List.findSome?_cons]
  cases a.written token key <;> rfl

/-- An entry is what was last written to it. -/
theorem getItem_eq_lastWritten {h : List Operation} {s : Storage} (hr : Reach storages anyStep h s)
    (token : PublicToken) (key : String) :
    getItem s token.text key = lastWritten h token key := by
  refine (hr.invariant (I := fun h s => s.isSome ∧ ∀ token : PublicToken, ∀ key,
    getItem s token.text key = lastWritten h token key) (fun s hinit => hinit) ?_).2 token key
  rintro h s a s' ⟨hs, hread⟩ - hn
  refine ⟨(getItem_of_next hs hn token key).1, fun token key => ?_⟩
  rw [(getItem_of_next hs hn token key).2, hread, lastWritten_cons]

theorem lastWritten_ne_empty (h : List Operation) (token : PublicToken) (key : String) :
    lastWritten h token key ≠ some "" := by
  induction h with
  | nil => nofun
  | cons a h ih =>
    rw [lastWritten_cons]
    cases hw : a.written token key with
    | none => exact ih
    | some value => simpa using (Option.filter_eq_some_iff.1 hw).2

theorem lastWritten_eq_lastSet {h : List Operation} {token : PublicToken} {key : String}
    (hset : lastSet h token key ≠ some "") : lastWritten h token key = lastSet h token key := by
  induction h with
  | nil => rfl
  | cons a h ih =>
    rw [lastSet, List.findSome?_cons] at hset ⊢
    rw [lastWritten_cons, Operation.written]
    cases he : a.effect token key with
    | none =>
      rw [he] at hset
      exact ih hset
    | some value =>
      rw [he] at hset
      rw [Option.filter_some, if_pos (by simpa using hset)]
      rfl

/-- An entry is what was last set, exactly when that is not the empty text. -/
theorem safe_storage_iff {h : List Operation} {s : Storage} (hr : Reach storages anyStep h s)
    (token : PublicToken) (key : String) :
    getItem s token.text key = lastSet h token key ↔ lastSet h token key ≠ some "" := by
  rw [getItem_eq_lastWritten hr]
  refine ⟨fun heq => ?_, lastWritten_eq_lastSet⟩
  rw [← heq]
  exact lastWritten_ne_empty h token key

def firstToken : PublicToken := ⟨"public-token-test-1", by decide⟩

def secondToken : PublicToken := ⟨"public-token-test-2", by decide⟩

theorem init_empty : storages.init (some .empty) := ⟨rfl, fun _ _ => rfl⟩

/-- A second client on the page, and another key. -/
theorem safe_storage_two_clients :
    ∃ h s, Reach storages anyStep h s ∧
      getItem s firstToken.text "PKCE_VERIFIER:oauth" = some "v" ∧
      lastSet h firstToken "PKCE_VERIFIER:oauth" = some "v" := by
  have hr : Reach storages anyStep
      [.removeItem firstToken "", .setItem secondToken "PKCE_VERIFIER:oauth" "w",
        .setItem firstToken "PKCE_VERIFIER:oauth" "v"] _ := reach_of_exec init_empty rfl
  have hset : lastSet [.removeItem firstToken "", .setItem secondToken "PKCE_VERIFIER:oauth" "w",
      .setItem firstToken "PKCE_VERIFIER:oauth" "v"] firstToken "PKCE_VERIFIER:oauth" = some "v" := by
    decide
  refine ⟨_, _, hr, ?_, hset⟩
  rw [(safe_storage_iff hr firstToken _).2 (by rw [hset]; decide), hset]

/-- The email of a password reset is not overwritten by the empty one. -/
theorem empty_value_not_written :
    ¬ ∀ h s, Reach storages anyStep h s →
      ∀ token : PublicToken, ∀ key, getItem s token.text key = lastSet h token key := by
  intro hall
  have hr : Reach storages anyStep
      [.setItem firstToken "reset-email-value" "", .setItem firstToken "reset-email-value" "a@b.c"] _ :=
    reach_of_exec init_empty rfl
  have hread := hall _ _ hr firstToken "reset-email-value"
  rw [getItem_eq_lastWritten hr] at hread
  exact absurd hread (by decide)

/-! ## The hook -/

section

variable {α : Type} (parse : String → Option α) (stringify : α → Option String)

def tryParseJson (value : Option String) : Option α :=
  value.bind fun text => if text = "" then none else parse text

/-- The value that a component which uses the hook starts with, if it is not `undefined`. -/
def initialValue (storage : Storage) (publicToken key : String) (defaultValue : Option α) :
    Option α :=
  match getItem storage publicToken key with
  | some storedValue =>
    if storedValue = "" then defaultValue else tryParseJson parse (some storedValue)
  | none => defaultValue

/-- What the setter of the hook does to the storage; `JSON.stringify` of `undefined` is `undefined`,
which is not written. -/
def setValue (storage : Storage) (publicToken key : String) (value : α) : Storage :=
  setItem storage publicToken key ((stringify value).getD "")

/-- A component that is mounted after a value was set starts with it, and one that uses another
entry starts as if it was not set. -/
theorem initialValue_setValue {entries : OrderedMap String String} (token token' : PublicToken)
    (key key' : String) {value : α} {text : String} (htext : stringify value = some text)
    (hne : text ≠ "") (hparse : parse text = some value) (defaultValue : Option α) :
    initialValue parse (setValue stringify (some entries) token'.text key' value) token.text key
        defaultValue =
      if token' = token ∧ key' = key then some value
      else initialValue parse (some entries) token.text key defaultValue := by
  rw [initialValue, setValue, htext, Option.getD_some, getItem_setItem]
  by_cases hat : token' = token ∧ key' = key
  · rw [if_pos ⟨hne, hat⟩, if_pos hat]
    simp only [if_neg hne, tryParseJson, Option.bind_some, hparse]
  · rw [if_neg fun h => hat h.2, if_neg hat, initialValue]

end

end StytchBrowser.Web.SafeStorage
