import VibeConnect.AuthorizedKeys

/-! The identity of an SSH connection, as its key checks leave it. -/
namespace VibeConnect.SshServer
open Python.Text Python.JsonCodec Python.Coroutine Python.YamlValue Models
open Enrollment (decodeAscii)
open Authorization (ResolvedIdentity)
open AuthorizedKeys (resolvePublicKey aliceKey aliceFile)

structure VibeConnectSshServer where
  identity : Option ResolvedIdentity

/-- One call of `validate_public_key`: the exported key, and the resolver as it behaves then. -/
structure KeyCheck where
  username : Str
  exported : Bytes
  resolver : Str → Str → Except Exc ResolvedIdentity

/-- `except (AuthError, UnicodeDecodeError)`. -/
def isCaught : Exc → Bool
  | .authError _ | .unicodeDecodeError => true
  | _ => false

/-- The `try` block. -/
def KeyCheck.resolved (check : KeyCheck) : Except Exc ResolvedIdentity := do
  let publicKey ← decodeAscii check.exported
  check.resolver check.username (strip publicKey)

def validatePublicKey (server : VibeConnectSshServer) (check : KeyCheck) : Except Exc Bool × VibeConnectSshServer :=
  match check.resolved with
  | .ok identity => (.ok true, ⟨some identity⟩)
  | .error raised => if isCaught raised then (.ok false, ⟨none⟩) else (.error raised, server)

/-- A new connection. -/
def fresh : VibeConnectSshServer := ⟨none⟩

def afterChecks (checks : List KeyCheck) : VibeConnectSshServer :=
  checks.foldl (fun server check => (validatePublicKey server check).2) fresh

/-- There is an identity if this check returned true, and then it is what the resolver returned. -/
structure LastCheck (check : KeyCheck) (result : Except Exc Bool × VibeConnectSshServer) : Prop where
  present : result.2.identity ≠ none ↔ result.1 = .ok true
  returned : result.1 = .ok true → ∃ publicKey identity, decodeAscii check.exported = .ok publicKey ∧
    check.resolver check.username (strip publicKey) = .ok identity ∧ result.2.identity = some identity

/-- The check raises, and nothing catches it. -/
def Escapes (check : KeyCheck) : Prop :=
  ∃ raised, check.resolved = .error raised ∧ isCaught raised = false

/-! One check. -/
section Check
variable {server : VibeConnectSshServer} {check : KeyCheck}

theorem validate_accepted {identity : ResolvedIdentity} (ok : check.resolved = .ok identity) :
    validatePublicKey server check = (.ok true, ⟨some identity⟩) := by
  rw [validatePublicKey, ok]

theorem validate_caught {raised : Exc} (failed : check.resolved = .error raised)
    (caught : isCaught raised = true) : validatePublicKey server check = (.ok false, ⟨none⟩) := by
  rw [validatePublicKey, failed]
  exact if_pos caught

theorem validate_escaped {raised : Exc} (failed : check.resolved = .error raised)
    (uncaught : isCaught raised = false) : validatePublicKey server check = (.error raised, server) := by
  rw [validatePublicKey, failed]
  exact if_neg (by simp [uncaught])

/-- A check says what the identity is, unless it escapes and finds one. -/
theorem lastCheck_iff :
    LastCheck check (validatePublicKey server check) ↔ (Escapes check → server.identity = none) := by
  cases attempt : check.resolved with
  | ok identity =>
      rw [validate_accepted attempt]
      apply iff_of_true
      · constructor
        · simp
        · intro _
          obtain ⟨publicKey, decoded, returned⟩ := bind_ok.mp attempt
          exact ⟨publicKey, identity, decoded, returned, rfl⟩
      · rintro ⟨raised, failed, -⟩
        rw [attempt] at failed
        cases failed
  | error raised =>
      by_cases caught : isCaught raised = true
      · rw [validate_caught attempt caught]
        apply iff_of_true
        · constructor <;> simp
        · rintro ⟨other, failed, uncaught⟩
          rw [attempt] at failed
          cases failed
          rw [caught] at uncaught
          cases uncaught
      · rw [validate_escaped attempt (by simpa using caught)]
        have escapes : Escapes check := ⟨raised, attempt, by simpa using caught⟩
        constructor
        · intro last _
          have absent := not_congr last.present
          simpa using absent
        · intro guarded
          constructor <;> simp [guarded escapes]
end Check

/-! A run of checks. -/

theorem afterChecks_concat (before : List KeyCheck) (check : KeyCheck) :
    afterChecks (before ++ [check]) = (validatePublicKey (afterChecks before) check).2 := by
  rw [afterChecks, List.foldl_append]
  rfl

/-- The identity is that of the last check that was accepted, and all checks after it escaped. -/
theorem afterChecks_identity {checks : List KeyCheck} {identity : ResolvedIdentity}
    (held : (afterChecks checks).identity = some identity) : ∃ before check later,
      checks = before ++ check :: later ∧ check.resolved = .ok identity ∧
        ∀ next ∈ later, Escapes next := by
  induction checks using List.reverseRecOn with
  | nil => cases held
  | append_singleton checks last ih =>
      rw [afterChecks_concat] at held
      cases attempt : last.resolved with
      | ok found =>
          rw [validate_accepted attempt] at held
          cases held
          exact ⟨checks, last, [], rfl, attempt, by simp⟩
      | error raised =>
          by_cases caught : isCaught raised = true
          · rw [validate_caught attempt caught] at held
            cases held
          · have uncaught : isCaught raised = false := by simpa using caught
            rw [validate_escaped attempt uncaught] at held
            obtain ⟨before, check, later, rfl, accepted, escaped⟩ := ih held
            refine ⟨before, check, later ++ [last], by simp, accepted, ?_⟩
            intro next member
            rcases List.mem_append.mp member with inside | same
            · exact escaped next inside
            · rw [List.mem_singleton.mp same]
              exact ⟨raised, attempt, uncaught⟩

/-- After each check the identity is that of this check, if no check that escapes comes right after
an accepted one, and only then. -/
theorem last_check_iff (checks : List KeyCheck) :
    (∀ before check later, checks = before ++ check :: later →
      LastCheck check (validatePublicKey (afterChecks before) check)) ↔
    ∀ before first next later, checks = before ++ first :: next :: later →
      (∃ identity, first.resolved = .ok identity) → ¬ Escapes next := by
  constructor
  · rintro each before first next later rfl ⟨identity, accepted⟩ escapes
    have last := each (before ++ [first]) next later (by simp)
    have absent := lastCheck_iff.mp last escapes
    rw [afterChecks_concat, validate_accepted accepted] at absent
    cases absent
  · rintro apart before check later rfl
    rw [lastCheck_iff]
    intro escapes
    cases held : (afterChecks before).identity with
    | none => rfl
    | some identity =>
        exfalso
        obtain ⟨front, accepted, middle, rfl, ok, escaped⟩ := afterChecks_identity held
        cases middle with
        | nil => exact apart front accepted check later (by simp) ⟨identity, ok⟩ escapes
        | cons next rest =>
            exact apart front accepted next (rest ++ check :: later) (by simp) ⟨identity, ok⟩
              (escaped next List.mem_cons_self)

/-- A check of the key of alice, under some name. -/
def keyCheck (username : Str) : KeyCheck where
  username := username
  exported := (lit "ssh-ed25519 AAAA\n").map fun code => UInt8.ofNat code.val
  resolver := resolvePublicKey (fun _ => []) (aliceFile aliceKey)

/-- The key is accepted for alice; the check for root after it raises, and leaves the identity. -/
theorem root_keeps_identity : ¬ ∀ checks before check later, checks = before ++ check :: later →
    LastCheck check (validatePublicKey (afterChecks before) check) := by
  intro claimed
  have accepted : (keyCheck (lit "alice")).resolved =
      .ok ⟨lit "alice", aliceKey, {lit "env:prod"}⟩ := by decide +kernel
  have escaped : (keyCheck (lit "root")).resolved =
      .error (.identifierError "invalid username principal") := by decide +kernel
  have last := claimed _ [keyCheck (lit "alice")] (keyCheck (lit "root")) [] rfl
  have before : afterChecks [keyCheck (lit "alice")] = ⟨some ⟨lit "alice", aliceKey, {lit "env:prod"}⟩⟩ := by
    rw [afterChecks, List.foldl_cons, validate_accepted accepted]
    rfl
  rw [before, validate_escaped escaped rfl] at last
  have returned := last.present.mp (by simp)
  cases returned

end VibeConnect.SshServer
