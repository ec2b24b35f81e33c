import VibeConnect.Python.Dict
import VibeConnect.Python.YamlValue
import VibeConnect.Authorization

/-! The login with a key from the authorized-keys file. The resolver reads the file at each login. -/
namespace VibeConnect.AuthorizedKeys
open Python.Text Python.JsonCodec Python.Coroutine Python.Dict Python.YamlValue Models
open JumpCoordinator (validateUsernamePrincipal validateUsernamePrincipal_ok)
open Enrollment (isLabel validateLabel splitSpaces)
open Authorization (ResolvedIdentity)

structure AuthorizedKeyEntry where
  username : Str
  publicKeys : List Str
  groups : Finset Str
  deriving DecidableEq

/-! The file. -/
section File
variable (shown : Yaml → Str)

/-- The keys and the groups that an entry names. -/
def namedKeys : Yaml → Except Exc (List Str × List Str)
  | .mapping items => match (get items (lit "public_keys")).bind (sequenceTexts shown) with
      | none => .error (.authError "authorized-key public_keys must be a list")
      | some publicKeys => match get items (lit "groups") with
          | none => .ok (publicKeys, [])
          | some value => match sequenceTexts shown value with
              | none => .error (.authError "authorized-key groups must be a list")
              | some groups => .ok (publicKeys, groups)
  | value => match sequenceTexts shown value with
      | none => .error (.authError "authorized-key entry must be a list or mapping")
      | some publicKeys => .ok (publicKeys, [])

/-- `_authorized_key_value`. -/
def authorizedKeyValue (value : Yaml) : Except Exc (List Str × Finset Str) := do
  let named ← namedKeys shown value
  let groups ← named.2.mapM validateLabel
  if named.1 = [] then .error (.authError "authorized-key entry must include at least one public key")
  else .ok (named.1, groups.toFinset)

def authorizedKeyEntry (user : Yaml × Yaml) : Except Exc AuthorizedKeyEntry := do
  let safeUsername ← validateUsernamePrincipal (str shown user.1)
  let keys ← authorizedKeyValue shown user.2
  .ok ⟨safeUsername, keys.1, keys.2⟩

/-- `raw.get("users", raw)`, which has to be a mapping too. -/
def usersOf : Yaml → Except Exc (List (Yaml × Yaml))
  | .mapping items => match (get items (lit "users")).getD (.mapping items) with
      | .mapping users => .ok users
      | _ => .error (.authError "authorized-keys users must be a mapping")
  | _ => .error (.authError "authorized-keys file must be a mapping")

/-- `_load_authorized_key_entries`. -/
def loadAuthorizedKeyEntries : Loaded Exc → Except Exc (List AuthorizedKeyEntry)
  | .raised exc => .error exc
  | .yamlError => .error (.authError "authorized-keys file is invalid YAML")
  | .value raw => do
      let users ← usersOf raw
      users.mapM (authorizedKeyEntry shown)
end File

/-! The resolver. -/

/-- The items with the presented text among their keys. -/
def holders (authorizedKeys : List (Str × List Str)) (presentedPublicKey : Str) : List (Str × List Str) :=
  authorizedKeys.filter fun item => presentedPublicKey ∈ item.2

def resolveFilePublicKeyIdentity (loginUsername presentedPublicKey : Str)
    (authorizedKeys : List (Str × List Str)) : Except Exc ResolvedIdentity := do
  let safeLogin ← validateUsernamePrincipal loginUsername
  let matched ← (holders authorizedKeys presentedPublicKey).mapM fun item =>
    validateUsernamePrincipal item.1
  if 1 < matched.toFinset.card then .error (.authError "public key maps to multiple usernames")
  else if matched.toFinset ≠ {safeLogin} then .error (.authError "public key identity mismatch")
  else .ok ⟨safeLogin, presentedPublicKey, ∅⟩

def keyMap (entries : List AuthorizedKeyEntry) : List (Str × List Str) :=
  ofPairs (entries.map fun entry => (entry.username, entry.publicKeys))

/-- The groups of the first entry with the username. -/
def groupsOf (entries : List AuthorizedKeyEntry) (username : Str) : Finset Str :=
  ((entries.find? fun entry => entry.username = username).map AuthorizedKeyEntry.groups).getD ∅

/-- `resolve_public_key` of the file, as it is loaded at this login. -/
def resolvePublicKey (shown : Yaml → Str) (loaded : Loaded Exc) (username publicKey : Str) :
    Except Exc ResolvedIdentity := do
  let entries ← loadAuthorizedKeyEntries shown loaded
  let identity ← resolveFilePublicKeyIdentity username publicKey (keyMap entries)
  .ok { identity with groups := groupsOf entries identity.username }

/-! What the login is for: a key is its type and its base64 text. -/

def keyWords (text : Str) : List Str := (splitSpaces text).take 2

/-- The entry lists the key, with or without a comment. -/
def AuthorizedKeyEntry.Lists (entry : AuthorizedKeyEntry) (key : Str) : Prop :=
  ∃ listed ∈ entry.publicKeys, keyWords listed = keyWords key

section Login
variable (entries : List AuthorizedKeyEntry) (login presented : Str)

/-- The key is listed under the username. -/
def Listed (username : Str) : Prop :=
  ∃ entry ∈ entries, entry.username = username ∧ entry.Lists presented

def ListedAlone : Prop := ∀ username, Listed entries presented username ↔ username = login

structure LoginExact (outcome : Except Exc ResolvedIdentity) : Prop where
  accepts : (∃ identity, outcome = .ok identity) ↔ ListedAlone entries login presented
  groups : ∀ identity, outcome = .ok identity → identity.username = login ∧
    ∃ entry ∈ entries, entry.username = login ∧ entry.Lists presented ∧ entry.groups = identity.groups

/-! How the file writes the key. -/

/-- The last entry of the username has the very text that is presented. -/
def Verbatim (username : Str) : Prop :=
  ∃ keys, LastOf (entries.map fun entry => (entry.username, entry.publicKeys)) username keys ∧
    presented ∈ keys

def VerbatimAlone : Prop := ∀ username, Verbatim entries presented username ↔ username = login

structure WrittenOut : Prop where
  /-- A key of the login name alone has no comment, and stands in the last entry of the name. -/
  verbatim : ListedAlone entries login presented → Verbatim entries presented login
  /-- No other username lists it in another way, if the login name has it so. -/
  alone : VerbatimAlone entries login presented → ListedAlone entries login presented
  /-- Then an entry that lists it has the groups of the first entry of the login name. -/
  groups : VerbatimAlone entries login presented → ∃ entry ∈ entries, entry.username = login ∧
    entry.Lists presented ∧ entry.groups = groupsOf entries login
end Login

/-! What is loaded. -/
section Loading
variable {shown : Yaml → Str} {loaded : Loaded Exc} {entries : List AuthorizedKeyEntry}

theorem mapM_ok {α β : Type} {check : α → Except Exc β} {items : List α} {values : List β}
    (ok : items.mapM check = .ok values) : List.Forall₂ (fun item value => check item = .ok value) items values := by
  induction items generalizing values with
  | nil =>
      cases ok
      exact .nil
  | cons first rest ih =>
      rw [List.mapM_cons] at ok
      obtain ⟨head, checked, more⟩ := bind_ok.mp ok
      obtain ⟨tail, others, same⟩ := bind_ok.mp more
      cases same
      exact .cons checked (ih others)

theorem entry_username {user : Yaml × Yaml} {entry : AuthorizedKeyEntry}
    (ok : authorizedKeyEntry shown user = .ok entry) :
    validateUsernamePrincipal entry.username = .ok entry.username := by
  obtain ⟨safe, checked, more⟩ := bind_ok.mp ok
  obtain ⟨keys, -, same⟩ := bind_ok.mp more
  cases same
  obtain ⟨rfl, -⟩ := validateUsernamePrincipal_ok checked
  exact checked

theorem loaded_usernames (ok : loadAuthorizedKeyEntries shown loaded = .ok entries) :
    ∀ entry ∈ entries, validateUsernamePrincipal entry.username = .ok entry.username := by
  cases loaded with
  | raised exc => cases ok
  | yamlError => cases ok
  | value raw =>
      obtain ⟨users, -, mapped⟩ := bind_ok.mp ok
      have each := mapM_ok mapped
      clear mapped ok
      induction each with
      | nil => simp
      | cons checked _ ih => exact List.forall_mem_cons.mpr ⟨entry_username checked, ih⟩
end Loading

/-! What is matched. -/
section Matching
variable {entries : List AuthorizedKeyEntry} {login presented username : Str}

theorem mapM_names {items : List (Str × List Str)}
    (valid : ∀ item ∈ items, validateUsernamePrincipal item.1 = .ok item.1) :
    (items.mapM fun item => validateUsernamePrincipal item.1) = .ok (items.map Prod.fst) := by
  induction items with
  | nil => rfl
  | cons first rest ih =>
      obtain ⟨head, tail⟩ := List.forall_mem_cons.mp valid
      rw [List.mapM_cons, head]
      exact bind_ok.mpr ⟨_, rfl, bind_ok.mpr ⟨_, ih tail, rfl⟩⟩

/-- Where the usernames are valid, the identity is the login name if that name alone is matched. -/
theorem resolveFile_ok {items : List (Str × List Str)} {identity : ResolvedIdentity}
    (valid : ∀ item ∈ items, validateUsernamePrincipal item.1 = .ok item.1) :
    resolveFilePublicKeyIdentity login presented items = .ok identity ↔
      identity = ⟨login, presented, ∅⟩ ∧
        ∀ name, (∃ keys, (name, keys) ∈ items ∧ presented ∈ keys) ↔ name = login := by
  have held : ∀ item ∈ holders items presented, validateUsernamePrincipal item.1 = .ok item.1 :=
    fun item member => valid item (List.mem_filter.mp member).1
  have matched : ((holders items presented).map Prod.fst).toFinset = {login} ↔
      ∀ name, (∃ keys, (name, keys) ∈ items ∧ presented ∈ keys) ↔ name = login := by
    rw [Finset.ext_iff]
    simp [holders]
  constructor
  · intro ok
    obtain ⟨safe, checked, more⟩ := bind_ok.mp ok
    obtain ⟨rfl, -⟩ := validateUsernamePrincipal_ok checked
    rw [mapM_names held] at more
    obtain ⟨names, ⟨⟩, more⟩ := bind_ok.mp more
    split at more
    · cases more
    · split at more
      · cases more
      · next one =>
        cases more
        exact ⟨rfl, matched.mp (not_not.mp one)⟩
  · rintro ⟨rfl, alone⟩
    obtain ⟨keys, member, -⟩ := (alone login).mpr rfl
    have one := matched.mpr alone
    rw [resolveFilePublicKeyIdentity, valid _ member, mapM_names held]
    apply bind_ok.mpr
    refine ⟨login, rfl, bind_ok.mpr ⟨_, rfl, ?_⟩⟩
    simp [one]

theorem verbatim_iff : Verbatim entries presented username ↔
    ∃ keys, (username, keys) ∈ keyMap entries ∧ presented ∈ keys := by
  simp only [Verbatim, keyMap, mem_ofPairs]

theorem keyMap_valid (valid : ∀ entry ∈ entries,
      validateUsernamePrincipal entry.username = .ok entry.username) :
    ∀ item ∈ keyMap entries, validateUsernamePrincipal item.1 = .ok item.1 := by
  rintro ⟨name, keys⟩ member
  obtain ⟨before, after, split, -⟩ := mem_ofPairs.mp member
  have inside : (name, keys) ∈ entries.map fun entry => (entry.username, entry.publicKeys) := by
    simp [split]
  obtain ⟨entry, within, same⟩ := List.mem_map.mp inside
  cases same
  exact valid entry within

/-- A key that is written out is listed. -/
theorem Verbatim.listed (verbatim : Verbatim entries presented username) :
    Listed entries presented username := by
  obtain ⟨keys, ⟨before, after, split, -⟩, member⟩ := verbatim
  have inside : (username, keys) ∈ entries.map fun entry => (entry.username, entry.publicKeys) := by
    simp [split]
  obtain ⟨entry, within, same⟩ := List.mem_map.mp inside
  cases same
  exact ⟨entry, within, rfl, presented, member, rfl⟩

theorem ListedAlone.verbatim (alone : ListedAlone entries login presented)
    (here : Verbatim entries presented login) : VerbatimAlone entries login presented := by
  intro name
  constructor
  · intro verbatim
    exact (alone name).mp verbatim.listed
  · rintro rfl
    exact here

/-- The login succeeds if the last entry of the login name, and of no other name, has the text. -/
theorem resolvePublicKey_ok {shown : Yaml → Str} {loaded : Loaded Exc} {identity : ResolvedIdentity}
    (accepted : loadAuthorizedKeyEntries shown loaded = .ok entries) :
    resolvePublicKey shown loaded login presented = .ok identity ↔
      identity = ⟨login, presented, groupsOf entries login⟩ ∧ VerbatimAlone entries login presented := by
  have resolved := @resolveFile_ok login presented (keyMap entries)
  have valid := keyMap_valid (loaded_usernames accepted)
  rw [resolvePublicKey, accepted]
  constructor
  · intro ok
    obtain ⟨_, ⟨⟩, more⟩ := bind_ok.mp ok
    obtain ⟨found, matched, same⟩ := bind_ok.mp more
    cases same
    obtain ⟨rfl, alone⟩ := (resolved valid).mp matched
    exact ⟨rfl, fun name => verbatim_iff.trans (alone name)⟩
  · rintro ⟨rfl, alone⟩
    have matched := (resolved valid).mpr ⟨rfl, fun name => verbatim_iff.symm.trans (alone name)⟩
    exact bind_ok.mpr ⟨_, rfl, bind_ok.mpr ⟨_, matched, rfl⟩⟩
end Matching

/-! The login is exact where the keys are written out. -/
section Login
variable {shown : Yaml → Str} {loaded : Loaded Exc} {entries : List AuthorizedKeyEntry}

theorem login_exact_iff (login presented : Str)
    (accepted : loadAuthorizedKeyEntries shown loaded = .ok entries) :
    LoginExact entries login presented (resolvePublicKey shown loaded login presented) ↔
      WrittenOut entries login presented := by
  have resolved := fun identity => @resolvePublicKey_ok entries login presented _ _ identity accepted
  constructor
  · intro exact
    have accepts := exact.accepts
    constructor
    · intro listed
      obtain ⟨identity, ok⟩ := accepts.mpr listed
      exact (((resolved identity).mp ok).2 login).mpr rfl
    · intro alone
      exact accepts.mp ⟨_, (resolved _).mpr ⟨rfl, alone⟩⟩
    · intro alone
      exact (exact.groups _ ((resolved _).mpr ⟨rfl, alone⟩)).2
  · intro written
    constructor
    · constructor
      · rintro ⟨identity, ok⟩
        exact written.alone ((resolved identity).mp ok).2
      · intro listed
        exact ⟨_, (resolved _).mpr ⟨rfl, listed.verbatim (written.verbatim listed)⟩⟩
    · intro identity ok
      obtain ⟨rfl, alone⟩ := (resolved identity).mp ok
      exact ⟨rfl, written.groups alone⟩
end Login

/-! A file with one user, who has one key. -/

def aliceKey : Str := lit "ssh-ed25519 AAAA"
def aliceEntry (key : Str) : AuthorizedKeyEntry := ⟨lit "alice", [key], {lit "env:prod"}⟩

def aliceFile (key : Str) : Loaded Exc :=
  .value (.mapping [(.text (lit "users"), .mapping [(.text (lit "alice"), .mapping
    [(.text (lit "public_keys"), .sequence [.text key]),
      (.text (lit "groups"), .sequence [.text (lit "env:prod")])])])])

theorem aliceFile_accepted (key : Str) :
    loadAuthorizedKeyEntries (fun _ => []) (aliceFile key) = .ok [aliceEntry key] := by
  have other : lit "public_keys" ≠ lit "groups" := by decide +kernel
  have label : isLabel (lit "env:prod") = true := by decide +kernel
  have user : validateUsernamePrincipal (lit "alice") = .ok (lit "alice") := by decide +kernel
  simp [aliceFile, loadAuthorizedKeyEntries, usersOf, get_here, get_later other, authorizedKeyEntry,
    authorizedKeyValue, namedKeys, sequenceTexts, str, validateLabel, label, user, aliceEntry, bind,
    Except.bind, pure, Except.pure]

theorem alice_listed {key presented : Str} (same : keyWords key = keyWords presented) :
    ListedAlone [aliceEntry key] (lit "alice") presented := by
  intro name
  simp [Listed, AuthorizedKeyEntry.Lists, aliceEntry, same, eq_comm]

theorem login_exact_alice : LoginExact [aliceEntry aliceKey] (lit "alice") aliceKey
    (resolvePublicKey (fun _ => []) (aliceFile aliceKey) (lit "alice") aliceKey) := by
  apply (login_exact_iff _ _ (aliceFile_accepted aliceKey)).mpr
  have listed : ListedAlone [aliceEntry aliceKey] (lit "alice") aliceKey := alice_listed rfl
  have verbatim : Verbatim [aliceEntry aliceKey] aliceKey (lit "alice") :=
    ⟨[aliceKey], ⟨[], [], rfl, by simp⟩, List.mem_singleton_self _⟩
  constructor
  · exact fun _ => verbatim
  · exact fun _ => listed
  · intro _
    refine ⟨_, List.mem_singleton_self _, rfl, ⟨_, List.mem_singleton_self _, rfl⟩, ?_⟩
    decide +kernel

/-- The key with a comment, as the documentation writes it, does not let its user in. -/
theorem login_exact_commented : ¬ ∀ shown loaded entries login presented,
    loadAuthorizedKeyEntries shown loaded = .ok entries →
      LoginExact entries login presented (resolvePublicKey shown loaded login presented) := by
  intro claimed
  have words : keyWords (lit "ssh-ed25519 AAAA alice@example.com") = keyWords aliceKey := by decide +kernel
  have exact := claimed _ _ _ (lit "alice") aliceKey
    (aliceFile_accepted (lit "ssh-ed25519 AAAA alice@example.com"))
  obtain ⟨identity, ok⟩ := exact.accepts.mpr (alice_listed words)
  have refused : resolveFilePublicKeyIdentity (lit "alice") aliceKey
      (keyMap [aliceEntry (lit "ssh-ed25519 AAAA alice@example.com")]) =
        .error (.authError "public key identity mismatch") := by decide +kernel
  rw [resolvePublicKey, aliceFile_accepted] at ok
  obtain ⟨_, ⟨⟩, more⟩ := bind_ok.mp ok
  rw [refused] at more
  cases more

end VibeConnect.AuthorizedKeys
