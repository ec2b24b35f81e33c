import VibeConnect.Python.Statements
import VibeConnect.Python.JsonCodec
import VibeConnect.AgentConf

/-! The end of an enrollment on the agent: `identity.json` is written and the token is taken
out of `agent.conf`, each through a temporary file that replaces the old one. Any file
operation can fail. -/
namespace VibeConnect.AgentEnrollment
open Python Python.Text Python.JsonCodec Python.ConfigParser Python.Statements AgentConf

/-- The files of an agent, each with its content. -/
structure Disk where
  identity : Option Bytes
  identityTemp : Option Bytes
  conf : Option Bytes
  confTemp : Option Bytes

inductive FileOp where
  | makeParent | chmodParent | makeTemp | chmodTemp | openTemp | dump | flush | fsync | closeTemp
  | replaceIdentity | chmodIdentity | unlinkTemp
  | readConf | writeConfTemp | chmodConfTemp | replaceConf
  | unlinkIdentity
  deriving DecidableEq

/-- The operations of one call that fail, and what a failed write leaves of its content. -/
structure Faults where
  fails : FileOp → Bool
  torn : Bytes

inductive Raised where
  | agentEnrollmentError (message : Str)
  | osError
  | unicodeError
  deriving DecidableEq

abbrev Writing := Block Disk Raised

/-! The response. -/
structure ResponseFields where
  tunnelPort : Int
  agentId : Str
  agentX509Cert : Str
  tunnelCaBundle : Str
  tunnelHost : Str
  tunnelSecret : Str
  deriving DecidableEq

def validateResponseStr (response : List (Str × Json)) (key : Str) : Except Raised Str :=
  match lookup key response with
  | some (.str (point :: rest)) => .ok (point :: rest)
  | _ => .error (.agentEnrollmentError
      (lit "enrollment response field " ++ key ++ lit " must be a non-empty string"))

def validateResponseInt (response : List (Str × Json)) (key : Str) : Except Raised Int :=
  match lookup key response with
  | some (.int value) => .ok value
  | _ => .error (.agentEnrollmentError
      (lit "enrollment response field " ++ key ++ lit " must be an integer"))

def validateResponse : Json → Except Raised ResponseFields
  | .object response => do
      let tunnelPort ← validateResponseInt response (lit "tunnel_port")
      let agentId ← validateResponseStr response (lit "agent_id")
      let agentX509Cert ← validateResponseStr response (lit "agent_x509_cert")
      let tunnelCaBundle ← validateResponseStr response (lit "tunnel_ca_bundle")
      let tunnelHost ← validateResponseStr response (lit "tunnel_host")
      let tunnelSecret ← validateResponseStr response (lit "tunnel_secret")
      .ok ⟨tunnelPort, agentId, agentX509Cert, tunnelCaBundle, tunnelHost, tunnelSecret⟩
  | _ => .error (.agentEnrollmentError (lit "enrollment response must be a JSON object"))

/-! `write_identity_json`. -/
def identityData (privateKeyPem : Str) (fields : ResponseFields) : List (Str × Json) :=
  [(lit "agent_id", .str fields.agentId), (lit "private_key", .str privateKeyPem),
    (lit "agent_x509_cert", .str fields.agentX509Cert),
    (lit "tunnel_ca_bundle", .str fields.tunnelCaBundle),
    (lit "tunnel_host", .str fields.tunnelHost), (lit "tunnel_port", .int fields.tunnelPort),
    (lit "tunnel_secret", .str fields.tunnelSecret)]

def identityText (privateKeyPem : Str) (fields : ResponseFields) : Str :=
  valueText (.object (identityData privateKeyPem fields)) ++ [newline]

section
variable (faults : Faults)

/-- A file operation fails with what it leaves, or has its effect. -/
def perform (op : FileOp) (torn effect : Disk → Disk) : Writing Unit :=
  change fun disk =>
    if faults.fails op = true then (.error .osError, torn disk) else (.ok (), effect disk)

def encoded (text : Str) : Except Raised Bytes :=
  match encode text with
  | some bytes => .ok bytes
  | none => .error .unicodeError

def writeIdentityTemp (text : Str) : Writing Unit := do
  perform faults .chmodTemp id id
  perform faults .openTemp id id
  let content ← answer (encoded text)
  perform faults .dump (fun disk => { disk with identityTemp := some faults.torn })
    (fun disk => { disk with identityTemp := some content })
  perform faults .flush (fun disk => { disk with identityTemp := some faults.torn }) id
  perform faults .fsync id id
  perform faults .closeTemp id id
  perform faults .replaceIdentity id fun disk =>
    { disk with identity := disk.identityTemp, identityTemp := none }
  perform faults .chmodIdentity id id

def writeIdentityJson (text : Str) : Writing Unit := do
  perform faults .makeParent id id
  perform faults .chmodParent id id
  perform faults .makeTemp id fun disk => { disk with identityTemp := some [] }
  tryCatch (writeIdentityTemp faults text) fun raised => do
    perform faults .unlinkTemp id fun disk => { disk with identityTemp := none }
    throw raised

/-! `rewrite_agent_conf_without_token`, on the bytes of the file. -/
def rewrittenConf (runtime : Runtime) (conf : Option Bytes) : Except Raised Bytes :=
  match conf with
  | none => .error .osError
  | some bytes => match decode bytes with
    | none => .error .unicodeError
    | some text => match rewriteAgentConfWithoutToken runtime text with
      | none => .error (.agentEnrollmentError (lit "agent.conf did not contain enrollment token"))
      | some rewritten => encoded rewritten

def rewriteConfFile (runtime : Runtime) : Writing Unit := do
  perform faults .readConf id id
  let disk ← get
  let rewritten ← answer (rewrittenConf runtime disk.conf)
  perform faults .writeConfTemp (fun disk => { disk with confTemp := some faults.torn })
    (fun disk => { disk with confTemp := some rewritten })
  perform faults .chmodConfTemp id id
  perform faults .replaceConf id fun disk => { disk with conf := disk.confTemp, confTemp := none }

/-- The two writings of `complete_enrollment`. -/
def commit (runtime : Runtime) (privateKeyPem : Str) (fields : ResponseFields) : Writing Unit := do
  writeIdentityJson faults (identityText privateKeyPem fields)
  rewriteConfFile faults runtime

/-- What it does about an exception of them. -/
def takeBack : Writing Unit := do
  perform faults .unlinkIdentity id fun disk => { disk with identity := none }
  throw (.agentEnrollmentError (lit "enrollment did not complete safely"))

def completeEnrollment (runtime : Runtime) (privateKeyPem : Str) (response : Json) : Writing Unit := do
  let fields ← answer (validateResponse response)
  tryCatch (commit faults runtime privateKeyPem fields) fun _ => takeBack faults
end

/-! What the file operations do. -/
section
variable {faults : Faults} {runtime : Runtime} {disk after : Disk} {op : FileOp}
  {torn effect : Disk → Disk} {privateKeyPem text : Str} {response : Json}

theorem ends_perform (works : faults.fails op = false) :
    ends (perform faults op torn effect) disk = (.ok (), effect disk) := by
  simp [perform, works]

theorem ends_fails (fails : faults.fails op = true) :
    ends (perform faults op torn effect) disk = (.error .osError, torn disk) := by
  simp [perform, fails]

theorem ended_perform {value : Unit} (ended : ends (perform faults op torn effect) disk = (.ok value, after)) :
    faults.fails op = false ∧ after = effect disk := by
  cases failing : faults.fails op with
  | true =>
      rw [ends_fails failing] at ended
      cases (Prod.mk.inj ended).1
  | false =>
      rw [ends_perform failing] at ended
      exact ⟨rfl, (Prod.mk.inj ended).2.symm⟩

theorem keeps_perform {γ : Type} {view : Disk → γ} (whole : ∀ disk, view (effect disk) = view disk)
    (part : ∀ disk, view (torn disk) = view disk) : Keeps view (perform faults op torn effect) := by
  intro disk
  cases failing : faults.fails op with
  | true => rw [ends_fails failing]; exact part disk
  | false => rw [ends_perform failing]; exact whole disk

theorem keeps_answer {γ α : Type} {view : Disk → γ} (outcome : Except Raised α) :
    Keeps view (answer outcome : Writing α) := fun _ => rfl

theorem keeps_writeIdentityTemp : Keeps Disk.conf (writeIdentityTemp faults text) := by
  have plain : ∀ op, Keeps Disk.conf (perform faults op id id) := fun op =>
    keeps_perform (fun _ => rfl) fun _ => rfl
  unfold writeIdentityTemp
  apply keeps_bind (plain _); intro _
  apply keeps_bind (plain _); intro _
  apply keeps_bind (keeps_answer _); intro content
  apply keeps_bind
  · exact keeps_perform (fun _ => rfl) fun _ => rfl
  intro _
  apply keeps_bind
  · exact keeps_perform (fun _ => rfl) fun _ => rfl
  intro _
  apply keeps_bind (plain _); intro _
  apply keeps_bind (plain _); intro _
  apply keeps_bind
  · exact keeps_perform (fun _ => rfl) fun _ => rfl
  exact fun _ => plain _

/-- Writing the identity leaves `agent.conf` alone. -/
theorem keeps_writeIdentityJson : Keeps Disk.conf (writeIdentityJson faults text) := by
  have plain : ∀ op, Keeps Disk.conf (perform faults op id id) := fun op =>
    keeps_perform (fun _ => rfl) fun _ => rfl
  unfold writeIdentityJson
  apply keeps_bind (plain _); intro _
  apply keeps_bind (plain _); intro _
  apply keeps_bind
  · exact keeps_perform (fun _ => rfl) fun _ => rfl
  intro _
  apply keeps_try keeps_writeIdentityTemp
  intro raised
  apply keeps_bind
  · exact keeps_perform (fun _ => rfl) fun _ => rfl
  exact fun _ => keeps_throw raised

/-- The operations between the start and the end of a call. -/
def FileOp.commits : FileOp → Bool
  | .unlinkTemp | .unlinkIdentity => false
  | _ => true

def FileOp.ofIdentity : FileOp → Bool
  | .makeParent | .chmodParent | .makeTemp | .chmodTemp | .openTemp | .dump | .flush | .fsync
  | .closeTemp | .replaceIdentity | .chmodIdentity => true
  | _ => false

def FileOp.ofConf : FileOp → Bool
  | .readConf | .writeConfTemp | .chmodConfTemp | .replaceConf => true
  | _ => false

theorem identityText_encodes (privateKeyPem : Str) (fields : ResponseFields) :
    ∃ bytes, encode (identityText privateKeyPem fields) = some bytes := by
  apply encode_scalar
  intro code member
  rcases List.mem_append.mp member with inside | last
  · exact .inl (Nat.lt_trans (valueText_ascii _ code inside) (by decide))
  · rw [List.mem_singleton.mp last]
    decide

theorem writeIdentityTemp_ended {value : Unit}
    (ended : ends (writeIdentityTemp faults text) disk = (.ok value, after)) :
    ∀ op, op = .chmodTemp ∨ op = .openTemp ∨ op = .dump ∨ op = .flush ∨ op = .fsync ∨
      op = .closeTemp ∨ op = .replaceIdentity ∨ op = .chmodIdentity → faults.fails op = false := by
  obtain ⟨_, _, one, ended⟩ := ended_bind ended
  obtain ⟨_, _, two, ended⟩ := ended_bind ended
  obtain ⟨_, _, -, ended⟩ := ended_bind ended
  obtain ⟨_, _, three, ended⟩ := ended_bind ended
  obtain ⟨_, _, four, ended⟩ := ended_bind ended
  obtain ⟨_, _, five, ended⟩ := ended_bind ended
  obtain ⟨_, _, six, ended⟩ := ended_bind ended
  obtain ⟨_, _, seven, eight⟩ := ended_bind ended
  rintro op (rfl | rfl | rfl | rfl | rfl | rfl | rfl | rfl)
  · exact (ended_perform one).1
  · exact (ended_perform two).1
  · exact (ended_perform three).1
  · exact (ended_perform four).1
  · exact (ended_perform five).1
  · exact (ended_perform six).1
  · exact (ended_perform seven).1
  · exact (ended_perform eight).1

/-- An identity is written where no operation fails. -/
theorem writeIdentityJson_ended {value : Unit}
    (ended : ends (writeIdentityJson faults text) disk = (.ok value, after)) :
    ∀ op, op.ofIdentity = true → faults.fails op = false := by
  obtain ⟨_, _, one, ended⟩ := ended_bind ended
  obtain ⟨_, _, two, ended⟩ := ended_bind ended
  obtain ⟨_, middle, three, ended⟩ := ended_bind ended
  rw [ends_try] at ended
  rcases ran : ends (writeIdentityTemp faults text) middle with ⟨raised | done, left⟩
  · -- the handler raises again
    rw [ran] at ended
    obtain ⟨_, _, -, thrown⟩ := ended_bind ended
    cases (Prod.mk.inj thrown).1
  · have temp := writeIdentityTemp_ended ran
    intro op writes
    cases op with
    | makeParent => exact (ended_perform one).1
    | chmodParent => exact (ended_perform two).1
    | makeTemp => exact (ended_perform three).1
    | unlinkTemp | readConf | writeConfTemp | chmodConfTemp | replaceConf | unlinkIdentity =>
        cases writes
    | _ => exact temp _ (by simp)

theorem writeIdentityJson_written {content : Bytes} (encodes : encode text = some content)
    (works : ∀ op, op.ofIdentity = true → faults.fails op = false) :
    ends (writeIdentityJson faults text) disk =
      (.ok (), { disk with identity := some content, identityTemp := none }) := by
  unfold writeIdentityJson
  rw [ends_after (ends_perform (works _ rfl)), ends_after (ends_perform (works _ rfl)),
    ends_after (ends_perform (works _ rfl)), ends_try]
  have temp : ends (writeIdentityTemp faults text) { disk with identityTemp := some [] } =
      (.ok (), { disk with identity := some content, identityTemp := none }) := by
    unfold writeIdentityTemp
    rw [ends_after (ends_perform (works _ rfl)), ends_after (ends_perform (works _ rfl)), encoded,
      encodes, ends_after (ends_answer _), ends_after (ends_perform (works _ rfl)),
      ends_after (ends_perform (works _ rfl)), ends_after (ends_perform (works _ rfl)),
      ends_after (ends_perform (works _ rfl)), ends_after (ends_perform (works _ rfl)),
      ends_perform (works _ rfl)]
    rfl
  simp only [id]
  rw [temp]

theorem rewriteConfFile_written {rewritten : Bytes}
    (found : rewrittenConf runtime disk.conf = .ok rewritten)
    (works : ∀ op, op.ofConf = true → faults.fails op = false) :
    ends (rewriteConfFile faults runtime) disk =
      (.ok (), { disk with conf := some rewritten, confTemp := none }) := by
  unfold rewriteConfFile
  rw [ends_after (ends_perform (works _ rfl)), ends_get, id, found, ends_after (ends_answer _),
    ends_after (ends_perform (works _ rfl)), ends_after (ends_perform (works _ rfl)),
    ends_perform (works _ rfl)]
  rfl

/-- The configuration is rewritten where no operation fails and there is a token. -/
theorem rewriteConfFile_ended {value : Unit}
    (ended : ends (rewriteConfFile faults runtime) disk = (.ok value, after)) :
    (∀ op, op.ofConf = true → faults.fails op = false) ∧
      ∃ rewritten, rewrittenConf runtime disk.conf = .ok rewritten := by
  obtain ⟨_, middle, one, rest⟩ := ended_bind ended
  obtain ⟨readWorks, same⟩ := ended_perform one
  rw [same, ends_get] at rest
  obtain ⟨rewritten, _, found, rest⟩ := ended_bind rest
  obtain ⟨_, _, two, rest⟩ := ended_bind rest
  obtain ⟨_, _, three, four⟩ := ended_bind rest
  constructor
  · intro op writes
    cases op with
    | readConf => exact readWorks
    | writeConfTemp => exact (ended_perform two).1
    | chmodConfTemp => exact (ended_perform three).1
    | replaceConf => exact (ended_perform four).1
    | _ => cases writes
  · exact ⟨rewritten, (Prod.mk.inj found).1⟩

/-- It is replaced last, so a rewriting that fails has not changed it. -/
theorem rewriteConfFile_raised {raised : Raised}
    (ended : ends (rewriteConfFile faults runtime) disk = (.error raised, after)) :
    after.conf = disk.conf := by
  unfold rewriteConfFile at ended
  cases reads : faults.fails .readConf with
  | true =>
      rw [ends_raised (ends_fails reads)] at ended
      rw [← (Prod.mk.inj ended).2]
      rfl
  | false =>
  rw [ends_after (ends_perform reads), ends_get] at ended
  cases found : rewrittenConf runtime (id disk).conf with
  | error fault =>
      rw [found, ends_raised (ends_answer _)] at ended
      rw [← (Prod.mk.inj ended).2]
      rfl
  | ok rewritten =>
  rw [found, ends_after (ends_answer _)] at ended
  cases writes : faults.fails .writeConfTemp with
  | true =>
      rw [ends_raised (ends_fails writes)] at ended
      rw [← (Prod.mk.inj ended).2]
      rfl
  | false =>
  rw [ends_after (ends_perform writes)] at ended
  cases modes : faults.fails .chmodConfTemp with
  | true =>
      rw [ends_raised (ends_fails modes)] at ended
      rw [← (Prod.mk.inj ended).2]
      rfl
  | false =>
  rw [ends_after (ends_perform modes)] at ended
  cases replaces : faults.fails .replaceConf with
  | true =>
      rw [ends_fails replaces] at ended
      rw [← (Prod.mk.inj ended).2]
      rfl
  | false =>
      rw [ends_perform replaces] at ended
      cases (Prod.mk.inj ended).1
end

/-! All or nothing. -/
section
variable (runtime : Runtime) (faults : Faults) (privateKeyPem : Str) (response : Json) (disk : Disk)

/-- No section of the file has a `token`. -/
def TokenFree (conf : Option Bytes) : Prop :=
  ∃ bytes text, conf = some bytes ∧ decode bytes = some text ∧
    ∀ parsed, readConf runtime text = .ok parsed →
      ∀ header, parsed.value header (lit "token") = none

/-- The call returns with the identity written and the token gone, or it raises its own error
with both files as they were. -/
def AllOrNothing (ended : Except Raised Unit × Disk) : Prop :=
  (ended.1 = .ok () ∧ TokenFree runtime ended.2.conf ∧ ∃ fields bytes,
    validateResponse response = .ok fields ∧
    encode (identityText privateKeyPem fields) = some bytes ∧ ended.2.identity = some bytes) ∨
  ((∃ message, ended.1 = .error (.agentEnrollmentError message)) ∧
    ended.2.conf = disk.conf ∧ ended.2.identity = disk.identity)

/-- No operation fails and the configuration has a token to take out. -/
def Completes : Prop :=
  (∀ op, op.commits = true → faults.fails op = false) ∧
    ∃ rewritten, rewrittenConf runtime disk.conf = .ok rewritten

/-- What a failed call takes back is all that there was. -/
def Recoverable : Prop := disk.identity = none ∧ faults.fails .unlinkIdentity = false

end

section
variable {runtime : Runtime} {faults : Faults} {privateKeyPem : Str} {response : Json} {disk : Disk}
  {fields : ResponseFields}

theorem commit_completes (completes : Completes runtime faults disk) :
    ∃ bytes rewritten, encode (identityText privateKeyPem fields) = some bytes ∧
      rewrittenConf runtime disk.conf = .ok rewritten ∧
      ends (commit faults runtime privateKeyPem fields) disk =
        (.ok (), ⟨some bytes, none, some rewritten, none⟩) := by
  obtain ⟨works, rewritten, found⟩ := completes
  obtain ⟨bytes, encodes⟩ := identityText_encodes privateKeyPem fields
  have identityWorks : ∀ op, op.ofIdentity = true → faults.fails op = false := by
    intro op writes
    apply works
    cases op <;> first | rfl | cases writes
  have confWorks : ∀ op, op.ofConf = true → faults.fails op = false := by
    intro op writes
    apply works
    cases op <;> first | rfl | cases writes
  refine ⟨bytes, rewritten, encodes, found, ?_⟩
  unfold commit
  rw [ends_after (writeIdentityJson_written encodes identityWorks)]
  exact rewriteConfFile_written found confWorks

theorem commit_raises (incomplete : ¬ Completes runtime faults disk) :
    ∃ raised after, ends (commit faults runtime privateKeyPem fields) disk = (.error raised, after) ∧
      after.conf = disk.conf := by
  have kept : (ends (writeIdentityJson faults (identityText privateKeyPem fields)) disk).2.conf =
      disk.conf := keeps_writeIdentityJson disk
  unfold commit
  rw [ends_bind]
  rcases wrote : ends (writeIdentityJson faults (identityText privateKeyPem fields)) disk with
    ⟨raised | done, middle⟩
  · rw [wrote] at kept
    exact ⟨raised, middle, rfl, kept⟩
  rw [wrote] at kept
  simp only at kept ⊢
  rcases rewrote : ends (rewriteConfFile faults runtime) middle with ⟨raised | done, after⟩
  · exact ⟨raised, after, rfl, (rewriteConfFile_raised rewrote).trans kept⟩
  · -- both parts ended, so nothing failed
    obtain ⟨confWorks, rewritten, found⟩ := rewriteConfFile_ended rewrote
    have identityWorks := writeIdentityJson_ended wrote
    rw [kept] at found
    refine absurd ⟨?_, rewritten, found⟩ incomplete
    intro op commits
    cases op <;> first | exact identityWorks _ rfl | exact confWorks _ rfl | cases commits

/-- An outcome whose only errors are the agent's own. -/
def OwnErrors {α : Type} (outcome : Except Raised α) : Prop :=
  ∀ raised, outcome = .error raised → ∃ message, raised = .agentEnrollmentError message

theorem ownErrors_bind {α β : Type} {outcome : Except Raised α} {next : α → Except Raised β}
    (first : OwnErrors outcome) (later : ∀ value, OwnErrors (next value)) :
    OwnErrors (outcome >>= next) := by
  intro raised failed
  cases outcome with
  | error fault =>
      cases failed
      exact first raised rfl
  | ok value => exact later value raised failed

theorem ownErrors_str (response : List (Str × Json)) (key : Str) :
    OwnErrors (validateResponseStr response key) := by
  intro raised failed
  unfold validateResponseStr at failed
  split at failed
  · cases failed
  · exact ⟨_, (Except.error.inj failed).symm⟩

theorem ownErrors_int (response : List (Str × Json)) (key : Str) :
    OwnErrors (validateResponseInt response key) := by
  intro raised failed
  unfold validateResponseInt at failed
  split at failed
  · cases failed
  · exact ⟨_, (Except.error.inj failed).symm⟩

theorem ownErrors_response : OwnErrors (validateResponse response) := by
  cases response with
  | object values =>
      apply ownErrors_bind (ownErrors_int values _); intro _
      apply ownErrors_bind (ownErrors_str values _); intro _
      apply ownErrors_bind (ownErrors_str values _); intro _
      apply ownErrors_bind (ownErrors_str values _); intro _
      apply ownErrors_bind (ownErrors_str values _); intro _
      apply ownErrors_bind (ownErrors_str values _); intro _ raised failed
      cases failed
  | _ => exact fun raised failed => ⟨_, (Except.error.inj failed).symm⟩

/-- No line of a rewritten file names a token. -/
theorem rewrittenConf_tokenFree (lowers : LowersToken runtime) {conf : Option Bytes} {rewritten : Bytes}
    (found : rewrittenConf runtime conf = .ok rewritten) : TokenFree runtime (some rewritten) := by
  unfold rewrittenConf at found
  split at found
  · cases found
  split at found
  · cases found
  rename_i bytes text decoded
  split at found
  · cases found
  rename_i written left
  unfold encoded at found
  split at found
  · rename_i content encodes
    cases found
    refine ⟨rewritten, written, rfl, decode_encode written rewritten encodes, ?_⟩
    intro parsed read
    rw [readConf_rewritten left] at read
    have absent : ∀ header, parsed.own (header, lit "token") = none := by
      intro header
      cases held : parsed.own (header, lit "token") with
      | none => rfl
      | some value =>
          obtain ⟨line, member, names⟩ := parse_named read held
          have listed : line ∈ rewrittenLines runtime text := by
            rw [← parse_lines read]
            exact List.mem_map.mpr ⟨_, member, rfl⟩
          have starts := names_token lowers names
          have kept := (List.mem_filter.mp listed).2
          simp [starts] at kept
    intro header
    rw [Parsed.value, absent header, absent defaultSection]
    rfl
  · cases found
end

/-- A call is all or nothing exactly if the response is refused, or everything goes well, or there
was no identity and the new one can be taken back. -/
theorem complete_all_or_nothing (runtime : Runtime) (lowers : LowersToken runtime) (faults : Faults)
    (privateKeyPem : Str) (response : Json) (disk : Disk) :
    AllOrNothing runtime privateKeyPem response disk
        (ends (completeEnrollment faults runtime privateKeyPem response) disk) ↔
      (∀ fields, validateResponse response ≠ .ok fields) ∨ Completes runtime faults disk ∨
        Recoverable faults disk := by
  unfold completeEnrollment
  cases valid : validateResponse response with
  | error raised =>
      -- nothing is touched
      obtain ⟨message, rfl⟩ := ownErrors_response raised valid
      rw [ends_raised (ends_answer _)]
      exact iff_of_true (.inr ⟨⟨message, rfl⟩, rfl, rfl⟩) (.inl fun fields other => by cases other)
  | ok fields =>
  rw [ends_after (ends_answer _)]
  by_cases completes : Completes runtime faults disk
  · obtain ⟨bytes, rewritten, encodes, found, ended⟩ := commit_completes completes
    rw [ends_uncaught ended]
    exact iff_of_true (.inl ⟨rfl, rewrittenConf_tokenFree lowers found, fields, bytes, valid, encodes,
      rfl⟩) (.inr (.inl completes))
  obtain ⟨raised, after, ended, kept⟩ := commit_raises completes
  rw [ends_caught ended]
  unfold takeBack
  cases unlinks : faults.fails .unlinkIdentity with
  | true =>
      rw [ends_raised (ends_fails unlinks)]
      apply iff_of_false
      · rintro (⟨impossible, -⟩ | ⟨⟨message, impossible⟩, -⟩) <;> cases impossible
      · rintro (refused | done | ⟨-, works⟩)
        · exact refused fields rfl
        · exact completes done
        · rw [unlinks] at works
          cases works
  | false =>
      rw [ends_after (ends_perform unlinks), ends_throw]
      constructor
      · rintro (⟨impossible, -⟩ | ⟨-, -, same⟩)
        · cases impossible
        · exact .inr (.inr ⟨same.symm, unlinks⟩)
      · rintro (refused | done | ⟨missing, -⟩)
        · exact absurd rfl (refused fields)
        · exact absurd done completes
        · exact .inr ⟨⟨_, rfl⟩, kept, missing.symm⟩

def agentResponse : Json :=
  .object [(lit "tunnel_port", .int 443), (lit "agent_id", .str (lit "a")),
    (lit "agent_x509_cert", .str (lit "c")), (lit "tunnel_ca_bundle", .str (lit "b")),
    (lit "tunnel_host", .str (lit "h")), (lit "tunnel_secret", .str (lit "s"))]

/-- The disk is full when the new identity is synced. -/
def fullDisk : Faults := ⟨fun op => op = .fsync, []⟩

/-- On the first enrollment of an agent the failure leaves no identity. -/
theorem complete_all_or_nothing_first :
    AllOrNothing plainRuntime (lit "key") agentResponse ⟨none, none, some [], none⟩
      (ends (completeEnrollment fullDisk plainRuntime (lit "key") agentResponse)
        ⟨none, none, some [], none⟩) :=
  (complete_all_or_nothing plainRuntime plainRuntime_lowers fullDisk (lit "key") agentResponse
    ⟨none, none, some [], none⟩).mpr (.inr (.inr ⟨rfl, rfl⟩))

/-- On a later one it takes the identity of the earlier one with it. -/
theorem earlier_identity_lost : ¬ ∀ (runtime : Runtime) (faults : Faults) (privateKeyPem : Str)
    (response : Json) (disk : Disk), AllOrNothing runtime privateKeyPem response disk
      (ends (completeEnrollment faults runtime privateKeyPem response) disk) := by
  intro always
  have ended : (ends (completeEnrollment fullDisk plainRuntime (lit "key") agentResponse)
        ⟨some [1], none, some [], none⟩).1 ≠ .ok () ∧
      (ends (completeEnrollment fullDisk plainRuntime (lit "key") agentResponse)
        ⟨some [1], none, some [], none⟩).2.identity = none := by
    decide +kernel
  rcases always plainRuntime fullDisk (lit "key") agentResponse ⟨some [1], none, some [], none⟩ with
    ⟨done, -⟩ | ⟨-, -, same⟩
  · exact ended.1 done
  · rw [ended.2] at same
    cases same

end VibeConnect.AgentEnrollment
