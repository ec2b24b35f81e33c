import VibeConnect.Python.Address
import VibeConnect.AgentConf
import VibeConnect.AdminService

/-! `validate_agent_config` with the checks of files that the configurations share, and the four
places that let only a loopback host through. -/
namespace VibeConnect.ConfigChecks
open Python.Text Python.JsonCodec Python.Address Python.Coroutine Models AgentConf
open AdminService (validateProxyHost)

structure FileStat where
  uid : Nat
  mode : Nat

/-- `Path.is_file`, `Path.is_dir` and `Path.stat`, which can raise. -/
structure FileSystem where
  isFile : Str → Bool
  isDir : Str → Bool
  stat : Str → Except Exc FileStat

/-- A check that raises a `ConfigError`. -/
def require (holds : Bool) (message : String) : Except Exc Unit :=
  if holds then .ok () else .error (.configError message)

section Files
variable (files : FileSystem)

def requireFile (path : Str) (label : String) : Except Exc Unit :=
  require (files.isFile path) (label ++ " is missing")

def requireDir (path : Str) (label : String) : Except Exc Unit :=
  require (files.isDir path) (label ++ " is missing")

def requireOwner (path : Str) (allowedUids : List Nat) (label : String) : Except Exc Unit := do
  let stat ← files.stat path
  require (allowedUids.contains stat.uid) (label ++ " has unsafe owner")

/-- `S_IRUSR` for the owner, else `S_IROTH`. -/
def requireReadableByUid (path : Str) (uid : Nat) (label : String) : Except Exc Unit := do
  let stat ← files.stat path
  require (stat.uid == uid && stat.mode.testBit 8 || stat.mode.testBit 2)
    (label ++ " is not readable by runtime user")

/-- No bit of `S_IRWXG | S_IRWXO` is set. -/
def rejectGroupOrOtherAccessible (path : Str) (label : String) : Except Exc Unit := do
  let stat ← files.stat path
  require (stat.mode % 64 == 0) (label ++ " has permissions broader than required")

/-- Neither `S_IWGRP` nor `S_IWOTH` is set. -/
def rejectGroupOrOtherWritable (path : Str) (label : String) : Except Exc Unit := do
  let stat ← files.stat path
  require (!stat.mode.testBit 4 && !stat.mode.testBit 1) (label ++ " is writable by group or other")

def rejectOtherReadable (path : Str) (label : String) : Except Exc Unit := do
  let stat ← files.stat path
  require (!stat.mode.testBit 2) (label ++ " is readable by other users")
end Files

def isIpv4Loopback (ipv6 : Str → Option Nat) (value : Str) : Bool :=
  (ipAddress ipv6 value).any fun address => address.version == 4 && address.isLoopback

/-- The users that may read and own the files of an agent, and where its configuration is. -/
structure AgentPlace where
  configPath : Str
  runtimeUid : Nat
  allowedOwnerUids : Option (List Nat)
  parent : Str → Str

section Agent
variable (files : FileSystem) (ipv6 : Str → Option Nat)

/-- The part of `validate_agent_config` before the proxy target. -/
def agentFiles (place : AgentPlace) (config : AgentConfig) : Except Exc Unit := do
  let owners := place.allowedOwnerUids.getD [place.runtimeUid]
  requireFile files place.configPath "agent.conf"
  requireOwner files place.configPath owners "agent.conf"
  rejectOtherReadable files place.configPath "agent.conf"
  requireReadableByUid files place.configPath place.runtimeUid "agent.conf"
  let identityParent := place.parent config.identityPath
  requireDir files identityParent "identity directory"
  requireOwner files identityParent [place.runtimeUid] "identity directory"
  rejectGroupOrOtherAccessible files identityParent "identity directory"
  requireFile files config.enrollmentTlsCaBundle "enrollment TLS CA bundle"
  requireFile files config.tunnelTlsCaBundle "tunnel TLS CA bundle"

/-- The part after it. -/
def agentBounds (config : AgentConfig) : Except Exc Unit := do
  require (1 ≤ config.proxyTargetPort && config.proxyTargetPort ≤ 65535)
    "proxy target_port is outside valid TCP port bounds"
  require (5 ≤ config.heartbeatSeconds && config.heartbeatSeconds ≤ 300)
    "heartbeat_seconds is outside documented bounds"
  require (30 ≤ config.reconnectBackoffMaxSeconds && config.reconnectBackoffMaxSeconds ≤ 1800)
    "reconnect_backoff_max_seconds is outside documented bounds"
  require (0 ≤ config.maxReconnectAttempts) "max_reconnect_attempts cannot be negative"
  require (!(config.enrollmentCompleted && config.enrollmentToken.any (· ≠ [])))
    "enrollment token remains after successful enrollment"

def validateAgentConfig (place : AgentPlace) (config : AgentConfig) : Except Exc Unit := do
  agentFiles files place config
  require (isIpv4Loopback ipv6 config.proxyTargetHost) "proxy target host must be within 127.0.0.0/8"
  agentBounds config
end Agent

/-! The guards by the front of the name. -/

structure ProxyTarget where
  host : Str
  port : Int

/-- `host.startswith("127.")`. -/
def startsLoopback (host : Str) : Bool := (lit "127.").isPrefixOf host

def validateProxyTarget (host : Str) (port : Int) : Except Exc ProxyTarget :=
  if !startsLoopback host then .error (.agentTunnelError "agent proxy target must be IPv4 loopback")
  else if 1 ≤ port ∧ port ≤ 65535 then .ok ⟨host, port⟩
  else .error (.agentTunnelError "agent proxy target port is outside TCP bounds")

inductive CaptureError where
  | agentEnrollmentError (message : String)
  | probe (raised : Exc)

/-- The probe is a scan of the host, which can raise. -/
def captureNodeSshHostPublicKey (probe : Str → Int → Except Exc Str) (expected host : Str)
    (port : Int) : Except CaptureError Str :=
  if !startsLoopback host then
    .error (.agentEnrollmentError "node sshd host key must be read from IPv4 loopback")
  else if ¬(1 ≤ port ∧ port ≤ 65535) then
    .error (.agentEnrollmentError "node sshd host key port is outside TCP bounds")
  else match probe host port with
    | .error raised => .error (.probe raised)
    | .ok scanned =>
        if strip scanned = [] then
          .error (.agentEnrollmentError "node sshd host public key is empty")
        else if strip scanned ≠ strip expected then
          .error (.agentEnrollmentError "node sshd host key does not match pinned key")
        else .ok (strip scanned)

/-- The error of a guard is raised exactly for the hosts that are no loopback literals. -/
structure GuardsAgree (host : Str) : Prop where
  tunnel : ∀ port, validateProxyTarget host port =
    .error (.agentTunnelError "agent proxy target must be IPv4 loopback") ↔ ¬ LoopbackQuad host
  enrollment : ∀ probe expected port, captureNodeSshHostPublicKey probe expected host port =
    .error (.agentEnrollmentError "node sshd host key must be read from IPv4 loopback") ↔
      ¬ LoopbackQuad host
  package : validateProxyHost host = .error (.adminError "invalid proxy host") ↔ ¬ LoopbackQuad host
  agent : ∀ files ipv6 place config, config.proxyTargetHost = host →
    agentFiles files place config = .ok () → (validateAgentConfig files ipv6 place config =
      .error (.configError "proxy target host must be within 127.0.0.0/8") ↔ ¬ LoopbackQuad host)

/-! What a loopback literal is, by its front. -/
section Literal
variable {host : Str}

theorem quad_front (quad : LoopbackQuad host) : startsLoopback host = true := by
  obtain ⟨second, third, fourth, -, -, -, rfl⟩ := quad
  have front : lit "127." = naturalText 127 ++ [46] := by decide +kernel
  rw [startsLoopback, front, List.isPrefixOf_iff_prefix, dotted]
  simp only [List.intercalate, List.intersperse, List.flatten_cons]
  rw [← List.append_assoc]
  exact List.prefix_append _ _

theorem quad_unspaced (quad : LoopbackQuad host) : host.any isSpace = false := by
  obtain ⟨second, third, fourth, -, -, -, rfl⟩ := quad
  have dot : isSpace 46 = false := by decide
  have number : ∀ value, ∀ code ∈ naturalText value, isSpace code = false := by
    intro value code member
    have digit := naturalText_isDigit value code member
    simp only [isDigit, Bool.and_eq_true, decide_eq_true_eq] at digit
    simp only [isSpace, Bool.or_eq_false_iff, Bool.and_eq_false_iff, decide_eq_false_iff_not,
      beq_eq_false_iff_ne]
    omega
  rw [List.any_eq_false]
  intro code member
  simp only [dotted, List.intercalate, List.intersperse, List.flatten_cons, List.flatten_nil,
    List.mem_append, List.mem_singleton, List.not_mem_nil, or_false] at member
  rcases member with inside | rfl | inside | rfl | inside | rfl | inside
  · simp [number _ code inside]
  · simp [dot]
  · simp [number _ code inside]
  · simp [dot]
  · simp [number _ code inside]
  · simp [dot]
  · simp [number _ code inside]
end Literal

/-! What each guard lets through. -/
section Guards
variable {host : Str}

theorem tunnel_refuses (host : Str) (port : Int) : validateProxyTarget host port =
    .error (.agentTunnelError "agent proxy target must be IPv4 loopback") ↔
      startsLoopback host = false := by
  unfold validateProxyTarget
  cases front : startsLoopback host with
  | false => simp
  | true => by_cases bounds : 1 ≤ port ∧ port ≤ 65535 <;> simp [bounds]

theorem enrollment_refuses (probe : Str → Int → Except Exc Str) (expected host : Str) (port : Int) :
    captureNodeSshHostPublicKey probe expected host port =
      .error (.agentEnrollmentError "node sshd host key must be read from IPv4 loopback") ↔
        startsLoopback host = false := by
  unfold captureNodeSshHostPublicKey
  cases front : startsLoopback host with
  | false => simp
  | true =>
      simp only [Bool.not_true, Bool.false_eq_true, if_false, reduceCtorEq, iff_false]
      split
      · simp
      · split
        · simp
        · split
          · simp
          · split <;> simp

theorem package_refuses (host : Str) : validateProxyHost host = .error (.adminError "invalid proxy host") ↔
    startsLoopback host = false ∨ host.any isSpace = true := by
  have front : lit "127." <+: host ↔ startsLoopback host = true := List.isPrefixOf_iff_prefix.symm
  unfold validateProxyHost
  simp only [front, Bool.not_eq_true]
  split
  · rename_i refused
    exact iff_of_true rfl refused
  · rename_i fine
    exact iff_of_false (by simp) fine

theorem require_error {holds : Bool} {message : String} {raised : Exc} :
    require holds message = .error raised ↔ holds = false ∧ raised = .configError message := by
  cases holds <;> simp [require, eq_comm]

theorem agent_refuses {files : FileSystem} (ipv6 : Str → Option Nat) {place : AgentPlace}
    {config : AgentConfig} (passed : agentFiles files place config = .ok ()) :
    validateAgentConfig files ipv6 place config =
      .error (.configError "proxy target host must be within 127.0.0.0/8") ↔
        ¬ LoopbackQuad config.proxyTargetHost := by
  rw [← loopback_iff ipv6, Bool.not_eq_true]
  unfold validateAgentConfig
  rw [passed]
  constructor
  · intro refused
    rcases bind_error.mp refused with impossible | ⟨-, -, refused⟩
    · cases impossible
    rcases bind_error.mp refused with here | ⟨-, -, later⟩
    · exact (require_error.mp here).1
    · -- the bounds raise with messages of their own
      unfold agentBounds at later
      simp only [bind_error, require_error, Exc.configError.injEq] at later
      simp at later
  · intro outside
    exact bind_error.mpr (.inr ⟨(), rfl, bind_error.mpr (.inl (require_error.mpr ⟨outside, rfl⟩))⟩)
end Guards

/-- The guards agree with the block for a host exactly where its front tells the truth. -/
theorem guards_agree_iff (host : Str) :
    GuardsAgree host ↔ (startsLoopback host = true → LoopbackQuad host) := by
  constructor
  · intro agree front
    by_contra other
    have refused := (tunnel_refuses host 22).mp ((agree.tunnel 22).mpr other)
    rw [front] at refused
    cases refused
  · intro honest
    have outside : startsLoopback host = false ↔ ¬ LoopbackQuad host := by
      constructor
      · intro plain quad
        rw [quad_front quad] at plain
        cases plain
      · intro other
        by_contra front
        exact other (honest (by simpa using front))
    constructor
    · intro port
      rw [tunnel_refuses, outside]
    · intro probe expected port
      rw [enrollment_refuses, outside]
    · rw [package_refuses, outside]
      constructor
      · rintro (other | spaced) quad
        · exact other quad
        · rw [quad_unspaced quad] at spaced
          cases spaced
      · exact .inl
    · rintro files ipv6 place config rfl passed
      exact agent_refuses ipv6 passed

/-! A name that anyone can register. -/
def registered : Str := lit "127.evil.example"

theorem registered_checks : startsLoopback registered = true ∧ registered.any isSpace = false ∧
    isIpv4Loopback (fun _ => none) registered = false := by
  decide +kernel

/-- Three guards let it through, and the fourth does not. -/
theorem guards_disagree : validateProxyTarget registered 2222 = .ok ⟨registered, 2222⟩ ∧
    captureNodeSshHostPublicKey (fun _ _ => .ok (lit "ssh-ed25519 AAAA")) (lit "ssh-ed25519 AAAA")
      registered 2222 = .ok (lit "ssh-ed25519 AAAA") ∧
    validateProxyHost registered = .ok registered ∧
    isIpv4Loopback (fun _ => none) registered = false ∧ ¬ GuardsAgree registered := by
  obtain ⟨front, unspaced, refused⟩ := registered_checks
  have scanned : strip (lit "ssh-ed25519 AAAA") = lit "ssh-ed25519 AAAA" := by decide +kernel
  have present : lit "ssh-ed25519 AAAA" ≠ [] := by decide +kernel
  have outside : ¬ LoopbackQuad registered := by
    rw [← loopback_iff fun _ => none, Bool.not_eq_true]
    exact refused
  have same : lit "127." <+: registered := List.isPrefixOf_iff_prefix.mp front
  refine ⟨?_, ?_, ?_, refused, ?_⟩
  · simp [validateProxyTarget, front]
  · simp [captureNodeSshHostPublicKey, front, scanned, present]
  · simp [validateProxyHost, same, unspaced]
  · intro agree
    have closed := (tunnel_refuses registered 2222).mp ((agree.tunnel 2222).mpr outside)
    rw [front] at closed
    cases closed

end VibeConnect.ConfigChecks
