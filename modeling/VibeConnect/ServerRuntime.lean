import VibeConnect.Python.Tasks
import VibeConnect.RuntimeSettings

/-! The life of the server process: what `_run_server_runtime` opens, in which order, and what it
closes again. Every call can raise, a cancellation included. -/
namespace VibeConnect.ServerRuntime
open Python.Text Python.JsonCodec Python.Coroutine Python.Tasks Python.YamlValue Python.Address Models
open ConfigChecks ServerStartup RuntimeSettings

inductive Listener where
  | tunnel | ssh
  deriving DecidableEq

inductive Runner where
  | enrollment | metrics
  deriving DecidableEq

/-- What is open after a call. A pool stands for its connections too. -/
inductive Resource where
  | pool
  | listener (which : Listener)
  | runner (which : Runner)
  | site (which : Runner)
  deriving DecidableEq

inductive VerifyMode where
  | CERT_NONE | CERT_OPTIONAL | CERT_REQUIRED
  deriving DecidableEq

/-- The calls into asyncpg, asyncio, aiohttp, asyncssh, ssl and the file system. -/
inductive ServerCall where
  | createPool (dsn : Str)
  | acquire
  | runMigrations
  | release
  | loadPrivateKey (path : Str)
  | loadCertificate (path : Str)
  | loadTunnelContext (certPath keyPath caBundlePath : Str)
  | loadHttpsContext (certPath keyPath : Str)
  | readText (path : Str)
  | readPrivateKey (path : Str)
  | readBytes (path : Str)
  | isDir (path : Str)
  | listen (which : Listener) (host : Str) (port : Int)
  | setup (which : Runner)
  | startSite (which : Runner) (host : Str) (port : Int)
  | wait
  | close (which : Listener)
  | waitClosed (which : Listener)
  | cleanup (which : Runner)
  | closePool

/-- `create_pool` can give `None`. -/
abbrev ServerResult : ServerCall → Type
  | .createPool _ => Bool
  | .readText _ => Str
  | .readBytes _ => Bytes
  | .isDir _ => Bool
  | _ => Unit

/-- The locals that the `finally` block reads, and the world: what is open, whether the migrations
have been applied, the addresses that have been listened on, the sites that have not started, the
integrity key, the faults of the calls, and the call of the `finally` block that has raised. -/
structure ServerState where
  listeners : List Listener
  assigned : Runner → Bool
  opened : Resource → Bool
  migrated : Bool
  bound : List (Resource × Str × Int)
  siteFailed : Runner → Bool
  integrityKey : Option Bytes
  raised : List Exc
  unclosed : Option ServerCall

def fresh : ServerState where
  listeners := []
  assigned := fun _ => false
  opened := fun _ => false
  migrated := false
  bound := []
  siteFailed := fun _ => false
  integrityKey := none
  raised := []
  unclosed := none

abbrev ServerTask (α : Type) := Task ServerState ServerResult Exc α

/-! The program. -/
section Program

def call (made : ServerCall) : ServerTask (ServerResult made) := await made

/-- `build_tunnel_server_ssl_context`. -/
def buildTunnelServerSslContext (certPath keyPath caBundlePath : Str) : ServerTask VerifyMode := do
  call (.loadTunnelContext certPath keyPath caBundlePath)
  pure .CERT_REQUIRED

/-- `start_tunnel_listener`. -/
def startTunnelListener (host : Str) (port : Int) (verifyMode : VerifyMode) : ServerTask Unit :=
  if host = [] then throw (.tunnelStateError "tunnel listener host is required")
  else if ¬(1 ≤ port ∧ port ≤ 65535) then
    throw (.tunnelStateError "tunnel listener port is outside valid TCP bounds")
  else if verifyMode ≠ .CERT_REQUIRED then
    throw (.tunnelStateError "tunnel listener requires client certificates")
  else call (.listen .tunnel host port)

/-- `start_asyncssh_server`. -/
def startAsyncsshServer (host : Str) (port : Int) (serverHostKeys : List Str) : ServerTask Unit :=
  if serverHostKeys = [] then throw (.sshServerError "server host key is required")
  else if ¬(1 ≤ port ∧ port ≤ 65535) then
    throw (.sshServerError "SSH listen port is outside valid TCP port bounds")
  else call (.listen .ssh host port)

/-- `_start_aiohttp_site`. -/
def startAiohttpSite (which : Runner) (host : Str) (port : Int) : ServerTask Unit :=
  if host = [] then throw (.configError "HTTP listener host is required")
  else if ¬(1 ≤ port ∧ port ≤ 65535) then
    throw (.configError "HTTP listener port is outside valid TCP bounds")
  else do
    call (.setup which)
    call (.startSite which host port)

/-- `listeners.append`. -/
def append (which : Listener) : ServerTask Unit :=
  update fun state => { state with listeners := state.listeners ++ [which] }

/-- The runner is assigned to its variable. -/
def assign (which : Runner) : ServerTask Unit :=
  update fun state => { state with assigned := Function.update state.assigned which true }

/-- `async with pool.acquire()`. -/
def applyMigrations : ServerTask Unit := do
  call .acquire
  Coro.finallyDo (call .runMigrations) (call .release)

/-- `ServerTunnelBroker.__init__`. -/
def checkBroker (maxFrameBytes : Int) : ServerTask Unit :=
  if maxFrameBytes ≤ 0 then throw (.tunnelStateError "max_frame_bytes must be positive") else pure ()

/-- `ReplayWriter.__init__`. -/
def checkReplayWriter (integrityKey : Bytes) : ServerTask Unit :=
  if integrityKey = [] then throw (.replayError "replay integrity key is required") else pure ()

/-- `AsyncSshNodeTunnelOpener.__init__`. -/
def checkOpener (nodePort : Int) : ServerTask Unit :=
  if ¬(1 ≤ nodePort ∧ nodePort ≤ 65535) then
    throw (.jumpError "node sshd port is outside valid TCP port bounds")
  else pure ()

variable (config : ServerConfig) (settings : ServerRuntimeSettings)

def startTunnel : ServerTask Unit := do
  let verifyMode ← buildTunnelServerSslContext settings.tlsCertPath settings.tlsKeyPath
    config.tunnel.tlsCaBundle
  startTunnelListener settings.tunnelListen.1 settings.tunnelListen.2 verifyMode
  append .tunnel

def startEnrollment : ServerTask Unit := do
  let _tunnelCaBundle ← call (.readText config.tunnel.tlsCaBundle)
  let _enrollmentTlsCaBundle ← call (.readText settings.enrollmentTlsCaBundlePath)
  call (.loadHttpsContext settings.tlsCertPath settings.tlsKeyPath)
  startAiohttpSite .enrollment settings.apiListen.1 settings.apiListen.2
  assign .enrollment

def startMetrics : ServerTask Unit := do
  let _replayReady ← call (.isDir config.replay.directory)
  startAiohttpSite .metrics settings.metricsListen.1 settings.metricsListen.2
  assign .metrics

def startSsh : ServerTask Unit := do
  startAsyncsshServer settings.sshListen.1 settings.sshListen.2 [settings.sshHostKeyPath]
  append .ssh

/-- The `try` block after the migrations, up to the SSH server. -/
def startServices : ServerTask Unit := do
  call (.loadPrivateKey config.certs.agentCaKeyPath)
  call (.loadCertificate config.certs.agentCaCertPath)
  checkBroker config.tunnel.frameMaxBytes
  startTunnel config settings
  startEnrollment config settings
  call (.readPrivateKey config.certs.userCaKeyPath)
  let integrityKey ← call (.readBytes config.replay.integrityKeyPath)
  checkReplayWriter integrityKey
  checkOpener config.tunnel.nodeSshPort
  startMetrics config settings

/-- The `try` block. -/
def serve : ServerTask Unit := do
  applyMigrations
  startServices config settings
  startSsh settings
  call .wait

/-- Both kinds of listener have `close` and `wait_closed`. -/
def closeListeners : List Listener → ServerTask Unit
  | [] => pure ()
  | listener :: rest => do
      call (.close listener)
      call (.waitClosed listener)
      closeListeners rest

/-- The `finally` block. -/
def shutDown : ServerTask Unit := do
  let state ← look
  closeListeners state.listeners
  Coro.onlyIf (state.assigned .enrollment) (call (.cleanup .enrollment))
  Coro.onlyIf (state.assigned .metrics) (call (.cleanup .metrics))
  call .closePool

/-- `_run_server_runtime`. -/
def runServerRuntime : ServerTask Unit := do
  let created ← call (.createPool settings.postgresDsn)
  if created then Coro.finallyDo (serve config settings) shutDown else throw .runtimeError
end Program

/-- `_run_server_start`. -/
def runServerStart (library : ConfigLibrary) (process : Process) (files : FileSystem)
    (first second : Loaded Exc) : ServerTask Unit := do
  let (config, settings) ← Coro.ofAnswer (prepare library process files first second)
  runServerRuntime config settings

/-! The world. -/
namespace ServerState

def set (state : ServerState) (resource : Resource) (isOpen : Bool) : ServerState :=
  { state with opened := Function.update state.opened resource isOpen }

/-- A call has raised. -/
def fail (state : ServerState) (fault : Exc) : ServerState := { state with raised := state.raised ++ [fault] }

/-- A call of the `finally` block has raised. -/
def stuck (state : ServerState) (call : ServerCall) (fault : Exc) : ServerState :=
  { state.fail fault with unclosed := some call }

def closeAll (state : ServerState) (resources : List Resource) : ServerState :=
  { state with opened := fun resource => if resource ∈ resources then false else state.opened resource }

def bind (state : ServerState) (resource : Resource) (host : Str) (port : Int) : ServerState :=
  { state.set resource true with bound := state.bound ++ [(resource, host, port)] }
end ServerState

/-- A call that opens something has opened it when it returns, and nothing when it raises. -/
def Opens (resource : Resource) {α : Type} (isOpen : α → Bool) (answer : Except Exc α)
    (before after : ServerState) : Prop :=
  match answer with
  | .ok value => after = if isOpen value = true then before.set resource true else before
  | .error fault => after = before.fail fault

/-- A call that closes has closed when it returns. When it raises, each may be open or not. -/
def Closes (resources : List Resource) (call : ServerCall) (answer : Except Exc Unit)
    (before after : ServerState) : Prop :=
  match answer with
  | .ok _ => after = before.closeAll resources
  | .error fault => ∃ closed ⊆ resources, after = (before.closeAll closed).stuck call fault

def serverWorld : World ServerState ServerResult Exc
  | .createPool _, answer, before, after => Opens .pool id answer before after
  | .listen which host port, answer, before, after => match answer with
      | .ok _ => after = before.bind (.listener which) host port
      | .error fault => after = before.fail fault
  | .setup which, answer, before, after => Opens (.runner which) (fun _ => true) answer before after
  | .startSite which host port, answer, before, after => match answer with
      | .ok _ => after = before.bind (.site which) host port
      | .error fault =>
          after = { before.fail fault with siteFailed := Function.update before.siteFailed which true }
  | .runMigrations, answer, before, after => match answer with
      | .ok _ => after = { before with migrated := true }
      | .error fault => after = before.fail fault
  | .readBytes _, answer, before, after => match answer with
      | .ok content => after = { before with integrityKey := some content }
      | .error fault => after = before.fail fault
  | .wait, answer, before, after => ∃ fault, answer = .error fault ∧ after = before.fail fault
  | .close which, answer, before, after => Closes [.listener which] (.close which) answer before after
  | .waitClosed which, answer, before, after => Closes [] (.waitClosed which) answer before after
  | .cleanup which, answer, before, after =>
      Closes [.site which, .runner which] (.cleanup which) answer before after
  | .closePool, answer, before, after => Closes [.pool] .closePool answer before after
  | _, answer, before, after => match answer with
      | .ok _ => after = before
      | .error fault => after = before.fail fault

/-- The program alone with the world. -/
def serverAnswers : Coro.Answers (TaskOp ServerState ServerCall Exc) (TaskAns ServerState ServerResult) Exc
    ServerState := answered serverWorld (fun _ => True) Eq

abbrev Runs {α : Type} (program : ServerTask α) (rest : ServerTask α) (after : ServerState) : Prop :=
  Coro.Steps serverAnswers program fresh rest after

/-! How far the server has come, and what is open then. -/
structure Phase where
  migrated : Bool
  started : List Listener
  sites : Runner → Bool
  failed : Option Runner

/-- A runner without a site stays open. -/
def Phase.Open (phase : Phase) : Resource → Prop
  | .pool => True
  | .listener which => which ∈ phase.started
  | .site which => phase.sites which = true
  | .runner which => phase.sites which = true ∨ phase.failed = some which

def Listener.place : Listener → Nat
  | .tunnel => 0
  | .ssh => 1

/-- The listeners come in order, nothing listens before the migrations, and a site that has failed is
not assigned. -/
structure Phase.Ordered (phase : Phase) : Prop where
  inOrder : phase.started.Pairwise fun first second => first.place < second.place
  gated : (phase.started ≠ [] ∨ ∃ which, phase.sites which = true) → phase.migrated = true
  lost : ∀ which, phase.failed = some which → phase.sites which = false

section Safety
variable (config : ServerConfig) (settings : ServerRuntimeSettings)

/-- Where a resource listens. -/
def addressOf : Resource → Option (Str × Int)
  | .listener .tunnel => some settings.tunnelListen
  | .listener .ssh => some settings.sshListen
  | .site .enrollment => some settings.apiListen
  | .site .metrics => some settings.metricsListen
  | _ => none

/-- Only the addresses of the settings have been listened on. -/
def Addressed (state : ServerState) : Prop :=
  ∀ resource host port, (resource, host, port) ∈ state.bound →
    addressOf settings resource = some (host, port) ∧ 1 ≤ port ∧ port ≤ 65535

def Listening (state : ServerState) : Prop :=
  ∃ resource, (addressOf settings resource).isSome ∧ state.opened resource = true

/-- While something listens, the migrations have been applied and the pool is open. -/
structure Held (state : ServerState) : Prop where
  gated : Listening settings state → state.migrated = true ∧ state.opened .pool = true
  addressed : Addressed settings state

structure Inv (phase : Phase) (state : ServerState) : Prop where
  migrated : state.migrated = phase.migrated
  opened : ∀ resource, state.opened resource = true ↔ phase.Open resource
  failed : ∀ which, state.siteFailed which = true ↔ phase.failed = some which
  addressed : Addressed settings state
  unclosed : state.unclosed = none

structure Locals (phase : Phase) (state : ServerState) : Prop where
  listeners : state.listeners = phase.started
  assigned : state.assigned = phase.sites

/-- A fault of a prepared server is one of a call, or that of an empty integrity key. -/
def Explained (fault : Exc) (state : ServerState) : Prop :=
  Prepared config settings → fault ∈ state.raised ∨
    fault = .replayError "replay integrity key is required" ∧ state.integrityKey = some []

/-- The `try` block has been left. -/
def Left (fault : Exc) (state : ServerState) : Prop :=
  (∃ phase : Phase, phase.Ordered ∧ Inv settings phase state ∧ Locals phase state) ∧
    Explained config settings fault state

/-- The state between two statements. -/
structure At (phase : Phase) (state : ServerState) : Prop where
  ordered : phase.Ordered
  inv : Inv settings phase state
  locals : Locals phase state

abbrev Serves {α : Type} (program : ServerTask α) (post : Except Exc α → ServerState → Prop)
    (state : ServerState) : Prop :=
  program.wp serverAnswers (obliged (Held settings) fun _ _ => True) post state

/-- A part of the `try` block that goes from states of one kind to those of another. -/
def Carries {α : Type} (pre post : ServerState → Prop) (program : ServerTask α) : Prop :=
  ∀ state, pre state → Serves settings program (Coro.either (fun _ => post) (Left config settings)) state
end Safety

/-! What the changes do to a phase. -/
section Changes
variable {settings : ServerRuntimeSettings} {phase : Phase} {state : ServerState}

theorem Inv.held (inv : Inv settings phase state) (ordered : phase.Ordered) : Held settings state where
  gated := by
    rintro ⟨resource, listens, isOpen⟩
    have reached := (inv.opened resource).mp isOpen
    have pool : state.opened .pool = true := (inv.opened .pool).mpr trivial
    rw [inv.migrated]
    refine ⟨ordered.gated ?_, pool⟩
    cases resource with
    | pool => simp [addressOf] at listens
    | listener which => exact .inl (List.ne_nil_of_mem reached)
    | runner which => simp [addressOf] at listens
    | site which => exact .inr ⟨which, reached⟩
  addressed := inv.addressed

theorem Inv.fail (inv : Inv settings phase state) (fault : Exc) : Inv settings phase (state.fail fault) :=
  ⟨inv.migrated, inv.opened, inv.failed, inv.addressed, inv.unclosed⟩

theorem At.held (here : At settings phase state) : Held settings state := here.inv.held here.ordered

theorem At.fail (here : At settings phase state) (fault : Exc) : At settings phase (state.fail fault) :=
  ⟨here.ordered, here.inv.fail fault, here.locals.listeners, here.locals.assigned⟩

theorem At.left {config : ServerConfig} {fault : Exc} (here : At settings phase state)
    (explained : Explained config settings fault state) : Left config settings fault state :=
  ⟨⟨phase, here.ordered, here.inv, here.locals⟩, explained⟩

/-- The fault of the last call. -/
theorem explained_fail {config : ServerConfig} (fault : Exc) :
    Explained config settings fault (state.fail fault) :=
  fun _ => .inl (List.mem_append_right _ List.mem_cons_self)

theorem opened_set (state : ServerState) (resource other : Resource) (isOpen : Bool) :
    (state.set resource isOpen).opened other = if other = resource then isOpen else state.opened other := by
  simp [ServerState.set, Function.update_apply]

theorem opened_on (state : ServerState) (resource other : Resource) :
    (state.set resource true).opened other = true ↔ other = resource ∨ state.opened other = true := by
  rw [opened_set]
  by_cases same : other = resource <;> simp [same]
end Changes

/-! The calls. -/
section Calls
variable {config : ServerConfig} {settings : ServerRuntimeSettings} {phase next : Phase}
  {state : ServerState} {made : ServerCall}

theorem call_serves {post : Except Exc (ServerResult made) → ServerState → Prop} (held : Held settings state)
    (holds : ∀ answer after, serverWorld made answer state after → post answer after) :
    Serves settings (call made) post state := by
  apply wp_call held
  rintro answer after ⟨_, rfl, -, given⟩
  exact holds answer after given

theorem look_serves {post : Except Exc ServerState → ServerState → Prop} (holds : post (.ok state) state) :
    Serves settings look post state := by
  apply wp_look trivial
  rintro answer after ⟨rfl, rfl⟩
  exact holds

theorem update_serves {change : ServerState → ServerState} {post : Except Exc Unit → ServerState → Prop}
    (holds : post (.ok ()) (change state)) : Serves settings (update change) post state := by
  apply wp_atomic trivial
  rintro answer after ⟨rfl, rfl⟩
  exact holds

/-- A call that has no effect that counts here. -/
def silent : ServerCall → Bool
  | .acquire | .release | .loadPrivateKey _ | .loadCertificate _ | .loadTunnelContext ..
  | .loadHttpsContext .. | .readText _ | .readPrivateKey _ | .isDir _ => true
  | _ => false

theorem silent_world {answer : Except Exc (ServerResult made)} {after : ServerState}
    (quiet : silent made = true) (given : serverWorld made answer state after) :
    Coro.either (fun _ later => later = state) (fun fault later => later = state.fail fault) answer
      after := by
  cases made with
  | acquire | release | loadPrivateKey | loadCertificate | loadTunnelContext | loadHttpsContext | readText
    | readPrivateKey | isDir => cases answer <;> exact given
  | _ => cases quiet

/-- A call that raises has only raised. -/
theorem call_carries {post : ServerState → Prop} (changes : ∀ state, At settings phase state →
      ∀ answer after, serverWorld made answer state after →
        Coro.either (fun _ => post) (fun fault later => later = state.fail fault) answer after) :
    Carries config settings (At settings phase) post (call made) := by
  intro state here
  apply call_serves here.held
  intro answer after given
  have changed := changes state here answer after given
  cases answer with
  | ok value => exact changed
  | error fault =>
      cases changed
      exact (here.fail fault).left (explained_fail fault)

theorem silent_carries (quiet : silent made = true) :
    Carries config settings (At settings phase) (At settings phase) (call made) := by
  apply call_carries
  intro state here answer after given
  have same := silent_world quiet given
  cases answer with
  | ok value =>
      cases same
      exact here
  | error fault => exact same

theorem Carries.seq {α β : Type} {pre middle post : ServerState → Prop} {program : ServerTask α}
    {rest : α → ServerTask β} (first : Carries config settings pre middle program)
    (second : ∀ value, Carries config settings middle post (rest value)) :
    Carries config settings pre post (program >>= rest) :=
  fun state here => Coro.wp_seq (first state here) fun value after reached => second value after reached

theorem pure_carries {α : Type} {kept : ServerState → Prop} (value : α) :
    Carries config settings kept kept (pure value) := fun _ here => here

/-- A guard that a prepared server passes. -/
theorem guard_carries {α : Type} {post : ServerState → Prop} {refuses : Prop} [Decidable refuses]
    {fault : Exc} {program : ServerTask α} (passes : Prepared config settings → ¬refuses)
    (rest : ¬refuses → Carries config settings (At settings phase) post program) :
    Carries config settings (At settings phase) post (if refuses then throw fault else program) := by
  intro state here
  split
  · rename_i refused
    exact here.left fun prepared => absurd refused (passes prepared)
  · rename_i passed
    exact rest passed state here
end Calls

/-! The parts of the `try` block. -/
section Parts
variable {config : ServerConfig} {settings : ServerRuntimeSettings} {phase : Phase} {state : ServerState}

def Phase.afterMigrations (phase : Phase) : Phase := { phase with migrated := true }

theorem At.migrate (here : At settings phase state) :
    At settings phase.afterMigrations { state with migrated := true } where
  ordered := ⟨here.ordered.inOrder, fun _ => rfl, here.ordered.lost⟩
  inv := ⟨rfl, here.inv.opened, here.inv.failed, here.inv.addressed, here.inv.unclosed⟩
  locals := ⟨here.locals.listeners, here.locals.assigned⟩

theorem applyMigrations_carries :
    Carries config settings (At settings phase) (At settings phase.afterMigrations) applyMigrations := by
  apply (silent_carries rfl).seq
  intro _ state here
  apply Coro.wp_finallyDo
  apply call_serves here.held
  intro answer after given
  cases answer with
  | ok value =>
      cases given
      have released : Carries config settings (At settings phase.afterMigrations)
        (At settings phase.afterMigrations) (call .release) := silent_carries rfl
      refine Coro.wp_mono ?_ (released _ here.migrate)
      intro ended later reached
      cases ended <;> exact reached
  | error fault =>
      -- the connection is given back, and then the fault goes on
      cases given
      apply call_serves (here.fail fault).held
      intro released later given
      cases released with
      | ok value =>
          cases given
          exact (here.fail fault).left (explained_fail fault)
      | error other =>
          cases given
          exact ((here.fail fault).fail other).left (explained_fail other)

/-- The address is bound, and the variable not yet assigned. -/
def Bound (settings : ServerRuntimeSettings) (phase : Phase) (resource : Resource) (host : Str) (port : Int)
    (state : ServerState) : Prop :=
  (1 ≤ port ∧ port ≤ 65535) ∧ ∃ base, At settings phase base ∧ state = base.bind resource host port

theorem Inv.bind_addressed {resource : Resource} {host : Str} {port : Int} (held : Addressed settings state)
    (named : addressOf settings resource = some (host, port)) (within : 1 ≤ port ∧ port ≤ 65535) :
    Addressed settings (state.bind resource host port) := by
  intro other otherHost otherPort member
  rcases List.mem_append.mp member with before | last
  · exact held other otherHost otherPort before
  · cases List.mem_singleton.mp last
    exact ⟨named, within⟩

def Phase.starts (phase : Phase) (which : Listener) : Phase :=
  { phase with started := phase.started ++ [which] }

theorem starts_open {which : Listener} (resource : Resource) :
    (phase.starts which).Open resource ↔ resource = .listener which ∨ phase.Open resource := by
  cases resource <;> simp [Phase.starts, Phase.Open, or_comm]

theorem listen_carries {which : Listener} {host : Str} {port : Int} (within : 1 ≤ port ∧ port ≤ 65535) :
    Carries config settings (At settings phase) (Bound settings phase (.listener which) host port)
      (call (.listen which host port)) := by
  apply call_carries
  intro state here answer after given
  cases answer with
  | ok value => exact ⟨within, state, here, given⟩
  | error fault => exact given

theorem append_carries {which : Listener} {host : Str} {port : Int} (migrated : phase.migrated = true)
    (later : ∀ earlier ∈ phase.started, earlier.place < which.place)
    (named : addressOf settings (.listener which) = some (host, port)) :
    Carries config settings (Bound settings phase (.listener which) host port)
      (At settings (phase.starts which)) (append which) := by
  rintro _ ⟨within, base, here, rfl⟩
  apply update_serves
  have opened : ∀ resource, (base.bind (.listener which) host port).opened resource = true ↔
      (phase.starts which).Open resource := fun resource =>
    (opened_on base _ resource).trans ((or_congr_right (here.inv.opened resource)).trans
      (starts_open resource).symm)
  refine ⟨⟨?_, fun _ => migrated, here.ordered.lost⟩, ⟨here.inv.migrated, opened, here.inv.failed,
    Inv.bind_addressed here.inv.addressed named within, here.inv.unclosed⟩, ⟨?_, here.locals.assigned⟩⟩
  · apply List.pairwise_append.mpr ⟨here.ordered.inOrder, List.pairwise_singleton _ _, ?_⟩
    intro earlier member other last
    cases List.mem_singleton.mp last
    exact later earlier member
  · exact congrArg (· ++ [which]) here.locals.listeners

theorem startTunnel_carries (migrated : phase.migrated = true) (none : phase.started = []) :
    Carries config settings (At settings phase) (At settings (phase.starts .tunnel))
      (startTunnel config settings) := by
  rw [startTunnel, buildTunnelServerSslContext, bind_assoc]
  apply (silent_carries rfl).seq
  intro _
  rw [pure_bind, startTunnelListener]
  apply Carries.seq
  · apply guard_carries fun prepared => prepared.tunnel.host
    intro _
    apply guard_carries fun prepared => not_not.mpr ⟨prepared.tunnel.low, prepared.tunnel.high⟩
    intro within
    apply guard_carries fun _ => not_not.mpr rfl
    intro _
    exact listen_carries (not_not.mp within)
  · intro _
    apply append_carries migrated _ rfl
    simp [none]

theorem startSsh_carries (migrated : phase.migrated = true) (tunnel : phase.started = [.tunnel]) :
    Carries config settings (At settings phase) (At settings (phase.starts .ssh)) (startSsh settings) := by
  rw [startSsh, startAsyncsshServer]
  apply Carries.seq
  · apply guard_carries fun _ => List.cons_ne_nil _ _
    intro _
    apply guard_carries fun prepared => not_not.mpr ⟨prepared.ssh.low, prepared.ssh.high⟩
    intro within
    exact listen_carries (not_not.mp within)
  · intro _
    apply append_carries migrated _ rfl
    simp [tunnel, Listener.place]

/-- The runner is up and nothing listens on it. -/
def RunnerUp (settings : ServerRuntimeSettings) (phase : Phase) (which : Runner)
    (state : ServerState) : Prop :=
  ∃ base, At settings phase base ∧ state = base.set (.runner which) true

/-- The site listens, and the variable is not yet assigned. -/
def SiteUp (settings : ServerRuntimeSettings) (phase : Phase) (which : Runner) (host : Str) (port : Int)
    (state : ServerState) : Prop :=
  (1 ≤ port ∧ port ≤ 65535) ∧ ∃ middle, RunnerUp settings phase which middle ∧
    state = middle.bind (.site which) host port

def Phase.loses (phase : Phase) (which : Runner) : Phase := { phase with failed := some which }

def Phase.assigns (phase : Phase) (which : Runner) : Phase :=
  { phase with sites := Function.update phase.sites which true }

theorem loses_open {which : Runner} (none : phase.failed = none) (resource : Resource) :
    (phase.loses which).Open resource ↔ resource = .runner which ∨ phase.Open resource := by
  cases resource with
  | runner other =>
      by_cases same : other = which
      · simp [Phase.loses, Phase.Open, same]
      · simp [Phase.loses, Phase.Open, none, same, Ne.symm same]
  | _ => simp [Phase.loses, Phase.Open]

theorem assigns_open {which : Runner} (resource : Resource) : (phase.assigns which).Open resource ↔
    resource = .site which ∨ resource = .runner which ∨ phase.Open resource := by
  cases resource <;> simp [Phase.assigns, Phase.Open, Function.update_apply, or_assoc]

section Site
variable {which : Runner} {host : Str} {port : Int}

theorem RunnerUp.held (up : RunnerUp settings phase which state) : Held settings state := by
  obtain ⟨base, here, rfl⟩ := up
  constructor
  · rintro ⟨resource, listens, isOpen⟩
    have other : resource ≠ .runner which := by
      rintro rfl
      simp [addressOf] at listens
    rw [opened_set, if_neg other] at isOpen
    exact here.held.gated ⟨resource, listens, isOpen⟩
  · exact here.held.addressed

theorem setup_carries : Carries config settings (At settings phase) (RunnerUp settings phase which)
    (call (.setup which)) := by
  apply call_carries
  intro state here answer after given
  cases answer with
  | ok value => exact ⟨state, here, given⟩
  | error fault => exact given

/-- A site that does not start leaves its runner. -/
theorem startSite_carries (none : phase.failed = none) (free : phase.sites which = false)
    (within : 1 ≤ port ∧ port ≤ 65535) : Carries config settings (RunnerUp settings phase which)
      (SiteUp settings phase which host port) (call (.startSite which host port)) := by
  rintro state up
  apply call_serves up.held
  intro answer after given
  cases answer with
  | ok value => exact ⟨within, state, up, given⟩
  | error fault =>
      cases given
      obtain ⟨base, here, rfl⟩ := up
      refine ⟨⟨phase.loses which, ⟨here.ordered.inOrder, here.ordered.gated, ?_⟩,
        ⟨here.inv.migrated, ?_, ?_, here.inv.addressed, here.inv.unclosed⟩,
        ⟨here.locals.listeners, here.locals.assigned⟩⟩, explained_fail fault⟩
      · intro other same
        cases same
        exact free
      · intro resource
        exact (opened_on base _ resource).trans ((or_congr_right (here.inv.opened resource)).trans
          (loses_open none resource).symm)
      · intro other
        have before := here.inv.failed other
        rw [none] at before
        by_cases same : other = which
        · simp [Phase.loses, same]
        · simpa [Phase.loses, same, Ne.symm same, ServerState.set] using before

theorem assign_carries (none : phase.failed = none) (migrated : phase.migrated = true)
    (named : addressOf settings (.site which) = some (host, port)) :
    Carries config settings (SiteUp settings phase which host port) (At settings (phase.assigns which))
      (assign which) := by
  rintro _ ⟨within, _, ⟨base, here, rfl⟩, rfl⟩
  apply update_serves
  refine ⟨⟨here.ordered.inOrder, fun _ => migrated, ?_⟩, ⟨here.inv.migrated, ?_, here.inv.failed,
    Inv.bind_addressed here.inv.addressed named within, here.inv.unclosed⟩, ⟨here.locals.listeners, ?_⟩⟩
  · intro other same
    rw [Phase.assigns, none] at same
    cases same
  · intro resource
    exact (opened_on (base.set (.runner which) true) _ resource).trans
      ((or_congr_right ((opened_on base _ resource).trans (or_congr_right (here.inv.opened resource)))).trans
        (assigns_open resource).symm)
  · exact congrArg (fun sites => Function.update sites which true) here.locals.assigned

theorem startSite_assign_carries (none : phase.failed = none) (free : phase.sites which = false)
    (migrated : phase.migrated = true) (named : addressOf settings (.site which) = some (host, port))
    (listens : Prepared config settings → Listens (host, port)) :
    Carries config settings (At settings phase) (At settings (phase.assigns which))
      (startAiohttpSite which host port >>= fun _ => assign which) := by
  rw [startAiohttpSite]
  apply Carries.seq
  · apply guard_carries fun prepared => (listens prepared).host
    intro _
    apply guard_carries fun prepared => not_not.mpr ⟨(listens prepared).low, (listens prepared).high⟩
    intro within
    exact setup_carries.seq fun _ => startSite_carries none free (not_not.mp within)
  · exact fun _ => assign_carries none migrated named
end Site

theorem startEnrollment_carries (none : phase.failed = none) (free : phase.sites .enrollment = false)
    (migrated : phase.migrated = true) : Carries config settings (At settings phase)
      (At settings (phase.assigns .enrollment)) (startEnrollment config settings) := by
  apply (silent_carries rfl).seq; intro _
  apply (silent_carries rfl).seq; intro _
  apply (silent_carries rfl).seq; intro _
  exact startSite_assign_carries none free migrated rfl fun prepared => prepared.api

theorem startMetrics_carries (none : phase.failed = none) (free : phase.sites .metrics = false)
    (migrated : phase.migrated = true) : Carries config settings (At settings phase)
      (At settings (phase.assigns .metrics)) (startMetrics config settings) := by
  apply (silent_carries rfl).seq; intro _
  exact startSite_assign_carries none free migrated rfl fun prepared => prepared.metrics

/-- The server after its first call. -/
def begun : Phase := ⟨false, [], fun _ => false, none⟩

/-- The one guard that a prepared server can fail. -/
theorem integrityKey_carries {path : Str} {post : ServerState → Prop} {rest : ServerTask Unit}
    (next : Carries config settings (At settings phase) post rest) :
    Carries config settings (At settings phase) post (do
      let integrityKey ← call (.readBytes path)
      checkReplayWriter integrityKey
      rest) := by
  intro state here
  apply Coro.wp_bind
  apply call_serves here.held
  intro answer after given
  cases answer with
  | error fault =>
      cases given
      exact (here.fail fault).left (explained_fail fault)
  | ok content =>
      cases given
      have kept : At settings phase { state with integrityKey := some content } :=
        ⟨here.ordered, ⟨here.inv.migrated, here.inv.opened, here.inv.failed, here.inv.addressed,
          here.inv.unclosed⟩, here.locals.listeners, here.locals.assigned⟩
      dsimp only
      rw [checkReplayWriter]
      split
      · rename_i empty
        exact kept.left fun _ => .inr ⟨rfl, congrArg some empty⟩
      · exact next _ kept

theorem checkBroker_carries : Carries config settings (At settings phase) (At settings phase)
    (checkBroker config.tunnel.frameMaxBytes) :=
  guard_carries (fun prepared => not_le.mpr prepared.frames) fun _ => pure_carries ()

theorem checkOpener_carries : Carries config settings (At settings phase) (At settings phase)
    (checkOpener config.tunnel.nodeSshPort) :=
  guard_carries (fun prepared => not_not.mpr prepared.nodePort) fun _ => pure_carries ()

theorem startServices_carries (migrated : phase.migrated = true) (none : phase.failed = none)
    (started : phase.started = []) (free : ∀ which, phase.sites which = false) :
    Carries config settings (At settings phase)
      (At settings (((phase.starts .tunnel).assigns .enrollment).assigns .metrics))
      (startServices config settings) := by
  apply (silent_carries rfl).seq; intro _
  apply (silent_carries rfl).seq; intro _
  apply checkBroker_carries.seq; intro _
  apply (startTunnel_carries migrated started).seq; intro _
  apply Carries.seq
  · exact startEnrollment_carries none (free _) migrated
  intro _
  apply (silent_carries rfl).seq; intro _
  apply integrityKey_carries
  apply checkOpener_carries.seq; intro _
  have unassigned : ((phase.starts .tunnel).assigns .enrollment).sites .metrics = false := by
    simp [Phase.assigns, Phase.starts, free]
  exact startMetrics_carries none unassigned migrated

/-- The `try` block is only left by a fault. -/
theorem serve_left (here : At settings begun state) :
    Serves settings (serve config settings)
      (Coro.either (fun _ _ => False) (Left config settings)) state := by
  have stays : Carries config settings (At settings begun) (fun _ => False) (serve config settings) := by
    apply applyMigrations_carries.seq; intro _
    apply (startServices_carries rfl rfl rfl fun _ => rfl).seq; intro _
    apply (startSsh_carries rfl rfl).seq; intro _
    apply call_carries
    rintro state here answer after ⟨fault, rfl, given⟩
    exact given
  exact stays state here
end Parts

/-! The `finally` block. -/
section Closing
variable {config : ServerConfig} {settings : ServerRuntimeSettings} {phase : Phase} {state : ServerState}

/-- The order of the `finally` block: all that is before the place of a call is closed when it is made. -/
def ServerCall.place : ServerCall → Nat
  | .close which => which.place
  | .waitClosed which => which.place + 1
  | .cleanup .enrollment => 2
  | .cleanup .metrics => 3
  | _ => 4

def Resource.place : Resource → Nat
  | .listener which => which.place
  | .runner .enrollment | .site .enrollment => 2
  | .runner .metrics | .site .metrics => 3
  | .pool => 4

/-- The runner of a site that has not started. -/
def Leaked (state : ServerState) (resource : Resource) : Prop :=
  ∃ which, resource = .runner which ∧ state.siteFailed which = true

/-- What is still open at the end: a runner whose site has not started and, where a call of the
`finally` block has raised, what comes in it or after it. -/
structure Released (state : ServerState) : Prop where
  clean : state.unclosed = none → ∀ resource, state.opened resource = true ↔ Leaked state resource
  stuck : ∀ last, state.unclosed = some last → (last ≠ .closePool → state.opened .pool = true) ∧
    ∀ resource, state.opened resource = true → Leaked state resource ∨ last.place ≤ resource.place

/-- What the explanation of a fault needs is kept. -/
structure Since (before after : ServerState) : Prop where
  raised : before.raised ⊆ after.raised
  integrityKey : after.integrityKey = before.integrityKey

theorem Since.refl (state : ServerState) : Since state state := ⟨List.Subset.refl _, rfl⟩

/-- The `finally` block is over. -/
structure Closed (settings : ServerRuntimeSettings) (before after : ServerState) : Prop where
  released : Released after
  held : Held settings after
  since : Since before after

/-- It has raised. -/
def Broken (settings : ServerRuntimeSettings) (before : ServerState) (fault : Exc)
    (after : ServerState) : Prop :=
  Closed settings before after ∧ fault ∈ after.raised

/-- A call of the block returns and leads to a phase, or it raises and ends the block. -/
abbrev Leads (settings : ServerRuntimeSettings) (base : ServerState) (phase : Phase) :
    Except Exc Unit → ServerState → Prop :=
  Coro.either (fun _ after => Inv settings phase after ∧ Since base after) (Broken settings base)

theorem closeAll_opened (state : ServerState) (resources : List Resource) (resource : Resource) :
    (state.closeAll resources).opened resource = true ↔
      resource ∉ resources ∧ state.opened resource = true := by
  by_cases member : resource ∈ resources <;> simp [ServerState.closeAll, member]

theorem Inv.leaked {which : Runner} (inv : Inv settings phase state) (lost : phase.failed = some which) :
    Leaked state (.runner which) := ⟨which, rfl, (inv.failed which).mpr lost⟩

/-- All that is open is leaked or comes at the place or after it. -/
def Phase.Behind (phase : Phase) (place : Nat) : Prop :=
  ∀ resource, phase.Open resource →
    (∃ which, resource = .runner which ∧ phase.failed = some which) ∨ place ≤ resource.place

/-- What listens is closed before the pool. -/
theorem address_low {resource : Resource} (listens : (addressOf settings resource).isSome) :
    resource.place < 4 ∧ ∀ which, resource ≠ .runner which := by
  cases resource with
  | pool | runner => cases listens
  | listener which => cases which <;> exact ⟨by decide, nofun⟩
  | site which => cases which <;> exact ⟨by decide, nofun⟩

theorem Closes.broken {resources : List Resource} {made : ServerCall} {fault : Exc} {base after : ServerState}
    (given : Closes resources made (.error fault) state after) (ordered : phase.Ordered)
    (inv : Inv settings phase state) (since : Since base state)
    (apart : made ≠ .closePool → .pool ∉ resources) (behind : phase.Behind made.place) :
    Broken settings base fault after := by
  obtain ⟨closed, among, rfl⟩ := given
  have before : ∀ resource, (state.closeAll closed).opened resource = true → state.opened resource = true :=
    fun resource isOpen => ((closeAll_opened state closed resource).mp isOpen).2
  have pool : made ≠ .closePool → (state.closeAll closed).opened .pool = true := fun other =>
    (closeAll_opened state closed .pool).mpr
      ⟨fun member => apart other (among member), (inv.opened .pool).mpr trivial⟩
  refine ⟨⟨⟨fun whole => (nomatch whole), ?_⟩, ⟨?_, inv.addressed⟩, ⟨?_, since.integrityKey⟩⟩, ?_⟩
  · rintro last ⟨⟩
    refine ⟨pool, fun resource isOpen => ?_⟩
    rcases behind resource ((inv.opened resource).mp (before resource isOpen)) with ⟨which, rfl, lost⟩ | later
    · exact .inl (inv.leaked lost)
    · exact .inr later
  · rintro ⟨resource, listens, isOpen⟩
    have gated := (inv.held ordered).gated ⟨resource, listens, before resource isOpen⟩
    have low := address_low listens
    refine ⟨gated.1, pool ?_⟩
    -- when the pool is closed nothing listens any more
    rintro rfl
    rcases behind resource ((inv.opened resource).mp (before resource isOpen)) with ⟨which, same, -⟩ | later
    · exact low.2 which same
    · exact absurd low.1 (not_lt.mpr later)
  · exact List.Subset.trans since.raised (List.subset_append_left _ _)
  · exact List.mem_append_right _ List.mem_cons_self

/-- A closing call that returns leads on; one that raises ends the block. -/
theorem closing_serves {resources : List Resource} {made : ServerCall} {next : Phase} {base : ServerState}
    {answer : Except Exc Unit} {after : ServerState} (given : Closes resources made answer state after)
    (ordered : phase.Ordered) (inv : Inv settings phase state) (since : Since base state)
    (apart : made ≠ .closePool → .pool ∉ resources) (behind : phase.Behind made.place)
    (closes : Inv settings next (state.closeAll resources)) :
    Leads settings base next answer after := by
  cases answer with
  | ok value =>
      cases given
      exact ⟨closes, since.raised, since.integrityKey⟩
  | error fault => exact given.broken ordered inv since apart behind

def Phase.stops (phase : Phase) (rest : List Listener) : Phase := { phase with started := rest }

def Phase.cleans (phase : Phase) (which : Runner) : Phase :=
  { phase with sites := Function.update phase.sites which false }

theorem Phase.Ordered.stops {which : Listener} {rest : List Listener}
    (ordered : (phase.stops (which :: rest)).Ordered) : (phase.stops rest).Ordered where
  inOrder := (List.pairwise_cons.mp ordered.inOrder).2
  gated _ := ordered.gated (.inl (List.cons_ne_nil _ _))
  lost := ordered.lost

theorem listener_low (which : Listener) : which.place ≤ 1 := by cases which <;> decide

theorem Inv.stops {which : Listener} {rest : List Listener}
    (inv : Inv settings (phase.stops (which :: rest)) state)
    (ordered : (phase.stops (which :: rest)).Ordered) :
    Inv settings (phase.stops rest) (state.closeAll [.listener which]) where
  migrated := inv.migrated
  opened resource := by
    have apart := (List.pairwise_cons.mp ordered.inOrder).1
    have once : which ∉ rest := fun member => Nat.lt_irrefl _ (apart which member)
    refine (closeAll_opened state _ resource).trans ((and_congr_right fun _ => inv.opened resource).trans ?_)
    cases resource with
    | listener other =>
        by_cases same : other = which
        · simp [Phase.Open, Phase.stops, same, once]
        · simp [Phase.Open, Phase.stops, same]
    | _ => simp [Phase.Open, Phase.stops]
  failed := inv.failed
  addressed := inv.addressed
  unclosed := inv.unclosed

theorem Inv.closeNone (inv : Inv settings phase state) : Inv settings phase (state.closeAll []) :=
  ⟨inv.migrated, fun resource => by simpa [ServerState.closeAll] using inv.opened resource, inv.failed,
    inv.addressed, inv.unclosed⟩

/-- Before the listeners are closed, all comes at the first of them or after it. -/
theorem behind_listeners {which : Listener} {rest : List Listener} (first : phase.started = rest)
    (later : ∀ other ∈ rest, which.place ≤ other.place) : phase.Behind which.place := by
  intro resource isOpen
  have low := listener_low which
  right
  cases resource with
  | pool => exact low.trans (by decide)
  | listener other => exact later other (first ▸ isOpen)
  | runner other => cases other <;> exact low.trans (by decide)
  | site other => cases other <;> exact low.trans (by decide)

/-- After one is closed, all comes after it. -/
theorem behind_rest {which : Listener} {rest : List Listener} (first : phase.started = rest)
    (later : ∀ other ∈ rest, which.place < other.place) : phase.Behind (which.place + 1) := by
  intro resource isOpen
  have low := Nat.succ_le_succ (listener_low which)
  right
  cases resource with
  | pool => exact low.trans (by decide)
  | listener other => exact later other (first ▸ isOpen)
  | runner other => cases other <;> exact low.trans (by decide)
  | site other => cases other <;> exact low.trans (by decide)

theorem closeListeners_serves {base : ServerState} (rest : List Listener)
    (ordered : (phase.stops rest).Ordered) (inv : Inv settings (phase.stops rest) state)
    (since : Since base state) : Serves settings (closeListeners rest)
      (Leads settings base (phase.stops []))
      state := by
  induction rest generalizing state with
  | nil => exact ⟨inv, since⟩
  | cons which rest ih =>
      have apart := (List.pairwise_cons.mp ordered.inOrder).1
      have closed : Serves settings (call (.close which))
          (Leads settings base (phase.stops rest))
          state := by
        apply call_serves (inv.held ordered)
        intro answer after given
        apply closing_serves given ordered inv since (by simp) _ (inv.stops ordered)
        apply behind_listeners rfl
        intro other member
        rcases List.mem_cons.mp member with rfl | later
        · exact le_rfl
        · exact (apart other later).le
      apply Coro.wp_seq closed
      rintro _ between ⟨closed, sinceThen⟩
      have waited : Serves settings (call (.waitClosed which))
          (Leads settings base (phase.stops rest))
          between := by
        apply call_serves (closed.held ordered.stops)
        intro answer after given
        exact closing_serves given ordered.stops closed sinceThen (by simp) (behind_rest rfl apart)
          closed.closeNone
      apply Coro.wp_seq waited
      rintro _ after ⟨waited, sinceLast⟩
      exact ih ordered.stops waited sinceLast

theorem Phase.Ordered.cleans {which : Runner} (ordered : phase.Ordered) : (phase.cleans which).Ordered where
  inOrder := ordered.inOrder
  gated := by
    rintro (listening | ⟨other, serving⟩)
    · exact ordered.gated (.inl listening)
    · by_cases same : other = which
      · simp [Phase.cleans, same] at serving
      · exact ordered.gated (.inr ⟨other, by simpa [Phase.cleans, same] using serving⟩)
  lost other failed := by
    by_cases same : other = which
    · simp [Phase.cleans, same]
    · simpa [Phase.cleans, same] using ordered.lost other failed

theorem Inv.cleans {which : Runner} (inv : Inv settings phase state) (kept : phase.failed ≠ some which) :
    Inv settings (phase.cleans which) (state.closeAll [.site which, .runner which]) where
  migrated := inv.migrated
  opened resource := by
    refine (closeAll_opened state _ resource).trans ((and_congr_right fun _ => inv.opened resource).trans ?_)
    cases resource with
    | pool => simp [Phase.Open]
    | listener other => simp [Phase.Open, Phase.cleans]
    | runner other =>
        by_cases same : other = which
        · simp [Phase.Open, Phase.cleans, same, kept]
        · simp [Phase.Open, Phase.cleans, same]
    | site other => by_cases same : other = which <;> simp [Phase.Open, Phase.cleans, same]
  failed := inv.failed
  addressed := inv.addressed
  unclosed := inv.unclosed

/-- A runner that is not assigned is not cleaned up, and has no site. -/
theorem cleans_none {which : Runner} (none : phase.sites which = false) : phase.cleans which = phase := by
  rw [Phase.cleans, ← none, Function.update_eq_self]

theorem cleanup_serves {which : Runner} {base : ServerState} (ordered : phase.Ordered)
    (inv : Inv settings phase state) (since : Since base state)
    (behind : phase.Behind (ServerCall.cleanup which).place) :
    Serves settings (Coro.onlyIf (phase.sites which) (call (.cleanup which)))
      (Leads settings base (phase.cleans which))
      state := by
  apply Coro.wp_onlyIf
  · intro assigned
    have kept : phase.failed ≠ some which := by
      intro lost
      rw [ordered.lost which lost] at assigned
      cases assigned
    apply call_serves (inv.held ordered)
    intro answer after given
    exact closing_serves given ordered inv since (by simp) behind (inv.cleans kept)
  · intro absent
    rw [cleans_none absent]
    exact ⟨inv, since⟩

theorem closePool_serves {base : ServerState} (ordered : phase.Ordered) (inv : Inv settings phase state)
    (since : Since base state) (behind : phase.Behind 4) :
    Serves settings (call .closePool)
      (Coro.either (fun _ => Closed settings base) (Broken settings base)) state := by
  apply call_serves (inv.held ordered)
  intro answer after given
  cases answer with
  | error fault => exact given.broken ordered inv since (fun other => absurd rfl other) behind
  | ok value =>
      cases given
      have left : ∀ resource, (state.closeAll [.pool]).opened resource = true ↔ Leaked state resource := by
        intro resource
        apply (closeAll_opened state _ resource).trans
        apply (and_congr_right fun _ => inv.opened resource).trans
        constructor
        · rintro ⟨other, isOpen⟩
          rcases behind resource isOpen with ⟨which, rfl, lost⟩ | last
          · exact inv.leaked lost
          · cases resource with
            | pool => simp at other
            | listener which => exact absurd (last.trans (listener_low which)) (by decide)
            | runner which => cases which <;> exact absurd last (by decide)
            | site which => cases which <;> exact absurd last (by decide)
        · rintro ⟨which, rfl, lost⟩
          exact ⟨by simp, .inr ((inv.failed which).mp lost)⟩
      refine ⟨⟨fun _ => left, fun last stuck => ?_⟩, ⟨?_, inv.addressed⟩, since.raised, since.integrityKey⟩
      · exact absurd (inv.unclosed.symm.trans stuck) nofun
      · rintro ⟨resource, listens, isOpen⟩
        obtain ⟨which, same, -⟩ := (left resource).mp isOpen
        exact absurd same ((address_low listens).2 which)

/-! What is left to close after each part. -/
theorem behind_two (phase : Phase) : (phase.stops []).Behind (ServerCall.cleanup .enrollment).place := by
  rintro (_ | which | which | which) isOpen
  · exact .inr (by decide)
  · cases isOpen
  · cases which <;> exact .inr (by decide)
  · cases which <;> exact .inr (by decide)

theorem behind_three (phase : Phase) :
    ((phase.stops []).cleans .enrollment).Behind (ServerCall.cleanup .metrics).place := by
  intro resource isOpen
  rcases resource with _ | which | which | which
  · exact .inr (by decide)
  · cases isOpen
  · cases which with
    | enrollment => exact .inl ⟨_, rfl, by simpa [Phase.Open, Phase.cleans, Phase.stops] using isOpen⟩
    | metrics => exact .inr (by decide)
  · cases which with
    | enrollment => simp [Phase.Open, Phase.cleans] at isOpen
    | metrics => exact .inr (by decide)

theorem behind_four (phase : Phase) :
    (((phase.stops []).cleans .enrollment).cleans .metrics).Behind 4 := by
  intro resource isOpen
  rcases resource with _ | which | which | which
  · exact .inr (by decide)
  · cases isOpen
  · left
    cases which <;> exact ⟨_, rfl, by simpa [Phase.Open, Phase.cleans, Phase.stops] using isOpen⟩
  · cases which <;> simp [Phase.Open, Phase.cleans] at isOpen

/-- The `finally` block closes in order, as far as its calls return. -/
theorem shutDown_serves (here : At settings phase state) : Serves settings shutDown
    (Coro.either (fun _ => Closed settings state) (Broken settings state)) state := by
  apply Coro.wp_seq (look_serves ⟨rfl, rfl⟩ : Serves settings look
    (Coro.either (fun seen after => state = seen ∧ state = after) (Broken settings state)) state)
  rintro _ _ ⟨rfl, rfl⟩
  rw [here.locals.listeners, here.locals.assigned]
  apply Coro.wp_seq (closeListeners_serves phase.started here.ordered here.inv (Since.refl state))
  rintro _ after ⟨closed, since⟩
  have ordered : (phase.stops []).Ordered :=
    ⟨List.Pairwise.nil, fun some => here.ordered.gated (.inr (some.resolve_left fun ne => ne rfl)),
      here.ordered.lost⟩
  apply Coro.wp_seq (cleanup_serves ordered closed since (behind_two phase))
  rintro _ after ⟨cleaned, since⟩
  apply Coro.wp_seq (cleanup_serves ordered.cleans cleaned since (behind_three phase))
  rintro _ after ⟨cleaned, since⟩
  exact closePool_serves ordered.cleans.cleans cleaned since (behind_four phase)
end Closing

/-! The whole run. -/
section Run
variable {config : ServerConfig} {settings : ServerRuntimeSettings}

/-- Of a prepared server, a fault is that of a call, of a pool that was not created, or of an empty
integrity key. -/
def Blamed (config : ServerConfig) (settings : ServerRuntimeSettings) (fault : Exc)
    (state : ServerState) : Prop :=
  Prepared config settings → fault ∈ state.raised ∨ fault = .runtimeError ∧ state = fresh ∨
    fault = .replayError "replay integrity key is required" ∧ state.integrityKey = some []

/-- How the server ends: by a fault, with all released that can be. -/
def Ended (config : ServerConfig) (settings : ServerRuntimeSettings) (fault : Exc)
    (state : ServerState) : Prop :=
  Released state ∧ Held settings state ∧ Blamed config settings fault state

theorem fresh_held : Held settings fresh where
  gated := by
    rintro ⟨resource, -, isOpen⟩
    cases isOpen
  addressed _ _ _ member := by cases member

theorem begun_at : At settings begun (fresh.set .pool true) := by
  refine ⟨⟨List.Pairwise.nil, ?_, fun which lost => by cases lost⟩, ⟨rfl, ?_, ?_, ?_, rfl⟩, ⟨rfl, rfl⟩⟩
  · rintro (some | ⟨which, serving⟩)
    · exact absurd rfl some
    · cases serving
  · intro resource
    rw [opened_on]
    cases resource <;> simp [begun, Phase.Open, fresh]
  · intro which
    simp [begun, fresh, ServerState.set]
  · intro resource host port member
    cases member

theorem fresh_released : Released fresh where
  clean := by
    intro _ resource
    constructor
    · intro isOpen
      cases isOpen
    · rintro ⟨which, -, lost⟩
      cases lost
  stuck := by
    intro last impossible
    cases impossible

theorem fresh_failed (fault : Exc) : Ended config settings fault (fresh.fail fault) := by
  refine ⟨⟨fresh_released.clean, fresh_released.stuck⟩, ⟨?_, fresh_held.addressed⟩, ?_⟩
  · rintro ⟨resource, -, isOpen⟩
    cases isOpen
  · exact fun _ => .inl (List.mem_append_right _ List.mem_cons_self)

/-- The fault of the `try` block is explained after the `finally` block too. -/
theorem Closed.ended {fault : Exc} {before after : ServerState} (closed : Closed settings before after)
    (explained : Explained config settings fault before) : Ended config settings fault after := by
  refine ⟨closed.released, closed.held, fun prepared => ?_⟩
  rcases explained prepared with member | ⟨same, empty⟩
  · exact .inl (closed.since.raised member)
  · exact .inr (.inr ⟨same, closed.since.integrityKey.trans empty⟩)

theorem runServerRuntime_ends (config : ServerConfig) (settings : ServerRuntimeSettings) :
    Serves settings (runServerRuntime config settings)
      (Coro.either (fun _ _ => False) (Ended config settings)) fresh := by
  apply Coro.wp_bind
  apply call_serves fresh_held
  intro answer after given
  cases answer with
  | error fault =>
      cases given
      exact fresh_failed fault
  | ok created =>
      cases given
      cases created with
      | false => exact ⟨fresh_released, fresh_held, fun _ => .inr (.inl ⟨rfl, rfl⟩)⟩
      | true =>
          apply Coro.wp_finallyDo
          apply Coro.wp_mono _ (serve_left begun_at)
          rintro (fault | value) middle left
          · obtain ⟨⟨phase, ordered, inv, locals⟩, explained⟩ := left
            apply Coro.wp_mono _ (shutDown_serves ⟨ordered, inv, locals⟩)
            rintro (other | done) later closed
            · exact ⟨closed.1.released, closed.1.held, fun _ => .inl closed.2⟩
            · exact closed.ended explained
          · exact left.elim

/-- What is promised of a run holds where it waits for a call and at its end. -/
theorem held_where {α : Type} {program rest : ServerTask α} {after : ServerState}
    {post : Except Exc α → ServerState → Prop} (run : Runs program rest after)
    (serves : Serves settings program post fresh)
    (ends : ∀ outcome state, post outcome state → Held settings state)
    (settled : Settled rest) : Held settings after := by
  have left := Coro.wp_steps run serves
  cases rest with
  | done value => exact ends _ _ left
  | raise fault => exact ends _ _ left
  | call op resume =>
      cases op with
      | look => exact settled.elim
      | atomic block => exact settled.elim
      | await made => exact left.1

/-- The server never returns. Wherever it waits, what listens does so over an open pool and on the
migrated tables; once it has raised, it has released what `Released` says. -/
theorem server_releases (config : ServerConfig) (settings : ServerRuntimeSettings) (rest : ServerTask Unit)
    (after : ServerState) (run : Runs (runServerRuntime config settings) rest after) :
    (∀ value, rest ≠ .done value) ∧ (Settled rest → Held settings after) ∧
      ∀ fault, rest = .raise fault → Released after := by
  have serves := runServerRuntime_ends config settings
  refine ⟨?_, held_where run serves ?_, ?_⟩
  · rintro value rfl
    exact Coro.wp_steps run serves
  · rintro (fault | value) state ended
    · exact ended.2.1
    · exact ended.elim
  · rintro fault rfl
    exact (Coro.wp_steps run serves).1

theorem addressed_listens {state : ServerState} (prepared : Prepared config settings)
    (addressed : Addressed settings state) {resource : Resource} {host : Str} {port : Int}
    (bound : (resource, host, port) ∈ state.bound) : Listens (host, port) ∧
      (resource = .site .metrics → settings.metricsListen = (host, port)) := by
  obtain ⟨named, -⟩ := addressed resource host port bound
  cases resource with
  | pool | runner => cases named
  | listener which =>
      cases which with
      | tunnel => exact ⟨Option.some.inj named ▸ prepared.tunnel, nofun⟩
      | ssh => exact ⟨Option.some.inj named ▸ prepared.ssh, nofun⟩
  | site which =>
      cases which with
      | enrollment => exact ⟨Option.some.inj named ▸ prepared.api, nofun⟩
      | metrics => exact ⟨Option.some.inj named ▸ prepared.metrics, fun _ => Option.some.inj named⟩

/-- All addresses that the server listens on are complete, that of the metrics is on the loopback if
the file does not change while it is read, and none of the guards behind the checks fires but that for
the integrity key. -/
theorem server_start_sound (library : ConfigLibrary) (process : Process) (files : FileSystem)
    (first second : Loaded Exc) (rest : ServerTask Unit) (after : ServerState)
    (run : Runs (runServerStart library process files first second) rest after) (settled : Settled rest) :
    (∀ resource host port, (resource, host, port) ∈ after.bound → Listens (host, port) ∧
      (resource = .site .metrics → second = first → LoopbackQuad host)) ∧
    ∀ fault, rest = .raise fault →
      prepare library process files first second = .error fault ∧ after = fresh ∨
      fault ∈ after.raised ∨ fault = .runtimeError ∧ after = fresh ∨
      fault = .replayError "replay integrity key is required" ∧ after.integrityKey = some [] := by
  cases ready : prepare library process files first second with
  | error refused =>
      rw [runServerStart, ready] at run
      cases run
      refine ⟨fun _ _ _ member => (nomatch member), ?_⟩
      rintro fault ⟨⟩
      exact .inl ⟨rfl, rfl⟩
  | ok found =>
      obtain ⟨config, settings⟩ := found
      rw [runServerStart, ready] at run
      have prepared := prepare_prepared ready
      have serves := runServerRuntime_ends config settings
      constructor
      · intro resource host port bound
        have held : Held settings after := by
          apply held_where run serves _ settled
          rintro (fault | value) state ended
          · exact ended.2.1
          · exact ended.elim
        obtain ⟨listens, metrics⟩ := addressed_listens prepared held.addressed bound
        refine ⟨listens, fun site unchanged => ?_⟩
        have loopback := prepare_loopback ready unchanged
        rw [metrics site] at loopback
        exact loopback
      · rintro fault rfl
        exact .inr ((Coro.wp_steps run serves).2.2 prepared)
end Run

/-! A server that finds its port for the metrics taken. -/

/-- Each call works but those that `fails` picks. -/
def calmly (fails : ServerCall → Bool) :
    (made : ServerCall) → ServerState → Except Exc (ServerResult made) × ServerState
  | .createPool _, state => (.ok true, state.set .pool true)
  | .runMigrations, state => (.ok (), { state with migrated := true })
  | .readText _, state => (.ok [], state)
  | .readBytes _, state => (.ok [1], { state with integrityKey := some [1] })
  | .isDir _, state => (.ok true, state)
  | .listen which host port, state => (.ok (), state.bind (.listener which) host port)
  | .setup which, state => (.ok (), state.set (.runner which) true)
  | .startSite which host port, state =>
      if fails (.startSite which host port) then
        (.error .osError,
          { state.fail .osError with siteFailed := Function.update state.siteFailed which true })
      else (.ok (), state.bind (.site which) host port)
  | .wait, state => (.error .cancelledError, state.fail .cancelledError)
  | .close which, state => (.ok (), state.closeAll [.listener which])
  | .waitClosed _, state => (.ok (), state.closeAll [])
  | .cleanup which, state => (.ok (), state.closeAll [.site which, .runner which])
  | .closePool, state => (.ok (), state.closeAll [.pool])
  | .acquire, state | .release, state | .loadPrivateKey _, state | .loadCertificate _, state
  | .loadTunnelContext .., state | .loadHttpsContext .., state | .readPrivateKey _, state => (.ok (), state)

theorem calmly_answers (fails : ServerCall → Bool) (op : TaskOp ServerState ServerCall Exc)
    (state : ServerState) : serverAnswers op (Python.Tasks.serve (calmly fails) op state).1 state
      (Python.Tasks.serve (calmly fails) op state).2 := by
  cases op with
  | look => exact ⟨rfl, rfl⟩
  | atomic block => exact ⟨rfl, rfl⟩
  | await made =>
      refine ⟨state, rfl, trivial, ?_⟩
      cases made with
      | wait => exact ⟨_, rfl, rfl⟩
      | startSite which host port =>
          cases taken : fails (.startSite which host port) <;>
            simp [Python.Tasks.serve, calmly, taken, serverWorld]
      | _ => rfl

def metricsTaken : ServerCall → Bool
  | .startSite .metrics _ _ => true
  | _ => false

def configOne : ServerConfig :=
  ⟨⟨lit "/ca", lit "/ca", lit "/ca", lit "/ca", 30, 4⟩, ⟨64, 30, 1048576, lit "/ca", 2222⟩,
    ⟨⟨lit "file", some (lit "/keys"), []⟩, ⟨false, false, false⟩, ⟨false, none, false⟩, none⟩,
    ⟨lit "/replay", 90, lit "/key"⟩, ⟨lit "127.0.0.1:9100"⟩, [], []⟩

def settingsOne : ServerRuntimeSettings :=
  ⟨lit "postgresql://", (lit "0.0.0.0", 22), (lit "0.0.0.0", 4444), (lit "0.0.0.0", 4443),
    (lit "127.0.0.1", 9100), lit "localhost", lit "/host", lit "/cert", lit "/tls", lit "/ca"⟩

/-- The outcome of the run, and the state that it ends in. -/
def takenRun : Except Exc Unit × ServerState :=
  (runServerRuntime configOne settingsOne).run (Python.Tasks.serve (calmly metricsTaken)) fresh

/-- The pool is closed at the end, and the runner is not. -/
theorem server_releases_port_taken : ∃ after,
    Runs (runServerRuntime configOne settingsOne) (.raise .osError) after ∧ Released after ∧
      after.opened .pool = false ∧ after.opened (.runner .metrics) = true := by
  have run : Runs (runServerRuntime configOne settingsOne) (Coro.ofAnswer takenRun.1) takenRun.2 :=
    Coro.steps_run (calmly_answers metricsTaken) _ fresh
  have raised : takenRun.1 = .error .osError := by decide +kernel
  have opened : takenRun.2.opened .pool = false ∧ takenRun.2.opened (.runner .metrics) = true := by
    decide +kernel
  rw [raised] at run
  exact ⟨_, run, (server_releases configOne settingsOne _ _ run).2.2 _ rfl, opened⟩

/-! A server that comes to run, with all it listens on. -/

def runnableRaw : Items :=
  part "server" [option "ssh_host_key_path" "/host", option "tls_cert_path" "/cert",
      option "tls_key_path" "/tls", option "enrollment_tls_ca_bundle_path" "/ca"] ::
    part "postgres" [option "dsn" "postgresql://"] :: plainRaw

def plainProcess : Process := ⟨fun _ => .ok [], fun _ => none⟩

def startOne : ServerTask Unit :=
  runServerStart plainLibrary plainProcess plainFiles (.value (.mapping runnableRaw))
    (.value (.mapping runnableRaw))

theorem server_start_sound_loopback : ∃ after host port, Runs startOne (.raise .cancelledError) after ∧
    (Resource.site .metrics, host, port) ∈ after.bound ∧ LoopbackQuad host := by
  have run := Coro.steps_run (calmly_answers fun _ => false) startOne fresh
  have raised : (startOne.run (Python.Tasks.serve (calmly fun _ => false)) fresh).1 =
      .error .cancelledError := by decide +kernel
  have bound : (Resource.site .metrics, lit "127.0.0.1", (9100 : Int)) ∈
      (startOne.run (Python.Tasks.serve (calmly fun _ => false)) fresh).2.bound := by decide +kernel
  rw [raised] at run
  have sound := server_start_sound plainLibrary plainProcess plainFiles _ _ _ _ run trivial
  exact ⟨_, _, _, run, bound, (sound.1 _ _ _ bound).2 rfl rfl⟩

end VibeConnect.ServerRuntime
