import VibeConnect.Python.ConfigText
import VibeConnect.Python.Interpolation
import VibeConnect.ProxyTarget
import VibeConnect.AdminAudit

/-! The `agent.conf` that `create_agent` returns, and what the two readers of the agent make of it.
Here the values are interpolated, as `get` of a section does. -/
namespace VibeConnect.EnrollmentPackage
open Python.Text Python.JsonCodec Python.Coroutine Python.ConfigParser Python.ConfigText
open Python.Interpolation Python.Url Models JumpCoordinator Enrollment AdminService ProxyTarget
open AgentConf (ConfigFault AgentConfig readConf)

inductive LoadFault where
  | parser (fault : Fault)
  | interpolation (fault : InterpolationFault)
  | config (fault : ConfigFault)
  deriving DecidableEq

structure AgentEnrollmentConfig where
  nodeName : Str
  token : Str
  apiUrl : Str
  enrollmentTlsCaBundle : Str
  expectedNodeSshHostPublicKey : Str
  identityPath : Str
  proxyTargetHost : Str
  proxyTargetPort : Nat
  deriving DecidableEq

def ofConfig {α : Type} : Except ConfigFault α → Except LoadFault α
  | .ok value => .ok value
  | .error fault => .error (.config fault)

def ofParser {α : Type} : Except Fault α → Except LoadFault α
  | .ok value => .ok value
  | .error fault => .error (.parser fault)

section
variable (runtime : TargetRuntime)

/-- `parser[header].get(key)`, or the `get` of an empty mapping. -/
def sectionValue (parsed : Parsed) (header key : Str) : Except LoadFault (Option Str) :=
  if header ∈ parsed.headers then match parsed.value header (runtime.lower key) with
    | none => .ok none
    | some raw => match beforeGet runtime.lower (parsed.value header) raw with
        | .ok value => .ok (some value)
        | .error fault => .error (.interpolation fault)
  else .ok none

/-- A value that is there and not empty. -/
def required (label : Str) : Option Str → Except LoadFault Str
  | some (point :: rest) => .ok (point :: rest)
  | _ => .error (.config (.config (label ++ lit " is required")))

def requireValue (parsed : Parsed) (header key label : Str) : Except LoadFault Str := do
  let value ← sectionValue runtime parsed header key
  required label value

/-- `_section`. -/
def requireSection (parsed : Parsed) (name : Str) : Except LoadFault Unit :=
  if name ∈ parsed.headers then .ok ()
  else .error (.config (.config (name ++ lit " section is required")))

def identityPathOf (parsed : Parsed) : Except LoadFault Str := do
  let path ← sectionValue runtime parsed (lit "identity") (lit "path")
  .ok (runtime.expanduser (path.getD (lit "/var/lib/vibeconnect/identity.json")))

def loadEnrollmentConfig (text : Str) : Except LoadFault AgentEnrollmentConfig := do
  let parsed ← ofParser (readConf runtime.toRuntime text)
  requireSection parsed (lit "enrollment")
  requireSection parsed (lit "proxy")
  let target ← requireValue runtime parsed (lit "proxy") (lit "target") (lit "proxy.target")
  let proxy ← ofConfig (enrollHostPort runtime target)
  let nodeName ← requireValue runtime parsed (lit "enrollment") (lit "node_name")
    (lit "enrollment.node_name")
  let token ← requireValue runtime parsed (lit "enrollment") (lit "token") (lit "enrollment.token")
  let apiUrl ← requireValue runtime parsed (lit "enrollment") (lit "api_url") (lit "enrollment.api_url")
  let bundle ← requireValue runtime parsed (lit "enrollment") (lit "tls_ca_bundle")
    (lit "enrollment.tls_ca_bundle")
  let hostKey ← requireValue runtime parsed (lit "enrollment") (lit "node_ssh_host_public_key")
    (lit "enrollment.node_ssh_host_public_key")
  let identityPath ← identityPathOf runtime parsed
  .ok ⟨nodeName, token, apiUrl, runtime.expanduser bundle, hostKey, identityPath, proxy.1, proxy.2⟩

/-- `int(tunnel.get(key, fallback))`. -/
def tunnelInt (parsed : Parsed) (key fallback : Str) : Except LoadFault Int := do
  let text ← sectionValue runtime parsed (lit "tunnel") key
  match runtime.int (text.getD fallback) with
  | some value => .ok value
  | none => .error (.config .value)

def loadAgentConfig (text : Str) : Except LoadFault AgentConfig := do
  let parsed ← ofParser (readConf runtime.toRuntime text)
  let target ← requireValue runtime parsed (lit "proxy") (lit "target") (lit "proxy.target")
  let proxy ← ofConfig (runHostPort runtime target)
  let token ← sectionValue runtime parsed (lit "enrollment") (lit "token")
  let identityPath ← identityPathOf runtime parsed
  let enrollmentBundle ← requireValue runtime parsed (lit "enrollment") (lit "tls_ca_bundle")
    (lit "enrollment.tls_ca_bundle")
  let tunnelBundle ← requireValue runtime parsed (lit "tunnel") (lit "tls_ca_bundle")
    (lit "tunnel.tls_ca_bundle")
  let heartbeat ← tunnelInt runtime parsed (lit "heartbeat_seconds") (lit "30")
  let backoff ← tunnelInt runtime parsed (lit "reconnect_backoff_max_seconds") (lit "300")
  let attempts ← tunnelInt runtime parsed (lit "max_reconnect_attempts") (lit "0")
  .ok ⟨identityPath, token, runtime.pathExists identityPath, runtime.expanduser enrollmentBundle,
    runtime.expanduser tunnelBundle, proxy.1, proxy.2, heartbeat, backoff, attempts⟩
end

/-- `https://server_host:enrollment_port/enroll`. -/
def enrollUrl (request : CreateAgent) : Str :=
  lit "https://" ++ request.serverHost ++ lit ":" ++ decimal request.enrollmentPort ++ lit "/enroll"

/-- Both readers accept the file, and have from it what was passed in or generated. -/
structure ReadsBack (runtime : TargetRuntime) (request : CreateAgent) (token hostKey agentConf : Str)
    (enrollment : AgentEnrollmentConfig) (config : AgentConfig) : Prop where
  enrolls : loadEnrollmentConfig runtime agentConf = .ok enrollment
  runs : loadAgentConfig runtime agentConf = .ok config
  nodeName : enrollment.nodeName = request.nodeName
  tokens : enrollment.token = token ∧ config.enrollmentToken = some token
  hostKey : enrollment.expectedNodeSshHostPublicKey = hostKey
  apiUrl : enrollment.apiUrl = enrollUrl request
  hosts : enrollment.proxyTargetHost = request.proxyHost ∧ config.proxyTargetHost = request.proxyHost
  ports : (enrollment.proxyTargetPort : Int) = request.proxyPort ∧
    (config.proxyTargetPort : Int) = request.proxyPort
  heartbeat : config.heartbeatSeconds = request.heartbeatSeconds

/-- What was passed in has nothing that the readers take for something else: no percent sign in
the server host, in the two words of the host key that are kept and in the proxy host, no mark
of a URL in the proxy host, and no letter there that `lower` or NFKC changes. -/
structure PlainPackage (runtime : TargetRuntime) (request : CreateAgent) : Prop where
  server : 37 ∉ request.serverHost
  key : ∀ word ∈ (splitSpaces (strip request.nodeSshHostPublicKey)).take 2, 37 ∉ word
  proxy : ∀ code ∈ request.proxyHost, code ≠ 37 ∧ isMark code = false
  lowered : runtime.lower request.proxyHost = request.proxyHost
  normal : runtime.normalized (request.proxyHost ++ 58 :: decimal request.proxyPort) = true

/-! What the libraries document. -/

/-- A small letter or an underscore. -/
def isOptionCode (code : CodePoint) : Bool := 97 ≤ code.val && code.val ≤ 122 || code.val == 95

structure PackageDocumented (runtime : TargetRuntime) : Prop extends Documented runtime where
  lower_option : ∀ name, (∀ code ∈ name, isOptionCode code = true) → runtime.lower name = name
  int_decimal : ∀ number : Nat, number ≤ 65535 → runtime.int (decimal number) = some (number : Int)

/-- What `secrets.token_urlsafe` returns. -/
def UrlsafeToken (token : Str) : Prop :=
  token ≠ [] ∧ ∀ code ∈ token, isAlphanumeric code = true ∨ code = 45 ∨ code = 95

/-! How the file is put together. -/

def bundlePath : Str := lit "/etc/vibeconnect/ca.crt"

def identityJson : Str := lit "/var/lib/vibeconnect/identity.json"

/-- The value of `target`. -/
def targetText (request : CreateAgent) : Str :=
  request.proxyHost ++ lit ":" ++ decimal request.proxyPort

def enrollmentOptions (request : CreateAgent) (nodeName token hostKey : Str) : List (Str × Str) :=
  [(lit "node_name", nodeName), (lit "token", token), (lit "api_url", enrollUrl request),
    (lit "tls_ca_bundle", bundlePath), (lit "node_ssh_host_public_key", hostKey)]

def tunnelOptions (request : CreateAgent) : List (Str × Str) :=
  [(lit "server_url", lit "https://" ++ request.serverHost ++ lit ":" ++ decimal request.tunnelPort ++
      lit "/tunnel"), (lit "tls_ca_bundle", bundlePath),
    (lit "heartbeat_seconds", decimal request.heartbeatSeconds)]

def confSections (request : CreateAgent) (nodeName token hostKey : Str) : List Section :=
  [(lit "enrollment", enrollmentOptions request nodeName token hostKey),
    (lit "tunnel", tunnelOptions request), (lit "proxy", [(lit "target", targetText request)]),
    (lit "identity", [(lit "path", identityJson)])]

theorem joined_newline : (lines : List Str) → lines ≠ [] →
    joined (point 10) (lines ++ [[]]) = joinNewline lines ++ [newline]
  | [], absent => absurd rfl absent
  | [last], _ => by
      have same : newline = point 10 := rfl
      simp [joined, joinNewline, List.intercalate, same]
  | first :: second :: rest, _ => by
      have later := joined_newline (second :: rest) (by simp)
      have same : newline = point 10 := rfl
      simp only [List.cons_append, joined] at later ⊢
      rw [later]
      simp [joinNewline, List.intercalate, same]

/-- The package is a file with these sections. -/
theorem renderConf_lines (request : CreateAgent) (nodeName token hostKey : Str) :
    renderConf request nodeName token hostKey =
      joinNewline (confLines (confSections request nodeName token hostKey)) ++ [newline] := by
  have headers : lit "[enrollment]" = 91 :: lit "enrollment" ++ [93] ∧ lit "[tunnel]" = 91 :: lit "tunnel" ++ [93] ∧
      lit "[proxy]" = 91 :: lit "proxy" ++ [93] ∧ lit "[identity]" = 91 :: lit "identity" ++ [93] := by
    decide +kernel
  have names : lit "node_name = " = lit "node_name" ++ lit " = " ∧ lit "token = " = lit "token" ++ lit " = " ∧
      lit "api_url = https://" = lit "api_url" ++ lit " = " ++ lit "https://" ∧
      lit "tls_ca_bundle = /etc/vibeconnect/ca.crt" = lit "tls_ca_bundle" ++ lit " = " ++ bundlePath ∧
      lit "node_ssh_host_public_key = " = lit "node_ssh_host_public_key" ++ lit " = " ∧
      lit "server_url = https://" = lit "server_url" ++ lit " = " ++ lit "https://" ∧
      lit "heartbeat_seconds = " = lit "heartbeat_seconds" ++ lit " = " ∧
      lit "target = " = lit "target" ++ lit " = " ∧
      lit "path = /var/lib/vibeconnect/identity.json" =
        lit "path" ++ lit " = " ++ identityJson := by
    decide +kernel
  rw [← joined_newline _ (confLines_present (by simp [confSections]))]
  simp only [renderConf, headers, names, confLines, confSections, enrollmentOptions,
    tunnelOptions, targetText, sectionLines, optionLine, enrollUrl,
    List.map_cons, List.map_nil, List.cons_append, List.nil_append, List.append_assoc]

end VibeConnect.EnrollmentPackage
