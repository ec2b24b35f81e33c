import VibeConnect.AuthorizedKeys
import VibeConnect.ConfigChecks
import VibeConnect.Python.Url

/-! `load_server_config` and `validate_server_config`, which the server runs when it starts. -/
namespace VibeConnect.ServerStartup
open Python.Text Python.JsonCodec Python.Coroutine Python.Dict Python.YamlValue Python.Url Models
open JumpCoordinator (validateUsernamePrincipal validateUsernamePrincipal_ok)
open AuthorizedKeys (usersOf namedKeys)
open ConfigChecks

abbrev Items := List (Yaml × Yaml)

structure FilePublicKeyEntry where
  username : Str
  publicKeys : List Str

structure PublicKeyAuthConfig where
  source : Str
  filePath : Option Str
  fileEntries : List FilePublicKeyEntry

structure LdapConfig where
  enabled : Bool
  useTls : Bool
  validateTls : Bool

structure AzureAdConfig where
  enabled : Bool
  clientSecretPath : Option Str
  useManagedIdentity : Bool

structure AuthConfig where
  publicKeys : PublicKeyAuthConfig
  ldap : LdapConfig
  azureAd : AzureAdConfig
  keyboardInteractiveVerifier : Option Str

structure CertConfig where
  agentCaKeyPath : Str
  agentCaCertPath : Str
  userCaKeyPath : Str
  userCaPublicKeyPath : Str
  agentCertLifetimeDays : Int
  userCertTtlHours : Int

structure TunnelConfig where
  maxSessionsPerAgent : Int
  heartbeatSeconds : Int
  frameMaxBytes : Int
  tlsCaBundle : Str
  nodeSshPort : Int

structure ReplayConfig where
  directory : Str
  retentionDays : Int
  integrityKeyPath : Str

structure MetricsConfig where
  listen : Str

structure ServerConfig where
  certs : CertConfig
  tunnel : TunnelConfig
  auth : AuthConfig
  replay : ReplayConfig
  metrics : MetricsConfig
  installDirs : List Str
  secretPaths : List Str

/-- `str` of what is no scalar, `Path.expanduser`, which can raise, `int`, `lower`, `isdigit` and
the grammar of IPv6. -/
structure ConfigLibrary where
  shown : Yaml → Str
  expanduser : Str → Except Exc Str
  int : Str → Option Int
  lower : Str → Str
  isdigit : Str → Bool
  ipv6 : Str → Option Nat

/-! The values of a section. -/
section Values
variable (library : ConfigLibrary) (items : Items) (key : String)

def missing {α : Type} (message : String) : Except Exc α := .error (.configError (key ++ message))

/-- `_mapping`. -/
def mappingOf (default : Option Items) : Except Exc Items :=
  match (get items (lit key)).or (default.map .mapping) with
  | some (.mapping found) => .ok found
  | _ => missing key " section is required"

/-- The text of a value that is there and true. -/
def filled : Option Str :=
  ((get items (lit key)).filter truth).map (str library.shown)

/-- `_path`. -/
def pathOf : Except Exc Str :=
  match filled library items key with
  | none => missing key " is required"
  | some text => library.expanduser text

def optionalPath : Except Exc (Option Str) :=
  match filled library items key with
  | none => .ok none
  | some text => some <$> library.expanduser text

/-- `_paths`. -/
def pathsOf : Except Exc (List Str) :=
  match filled library items key with
  | none => .ok []
  | some text => (text.splitOn 44).mapM fun item => library.expanduser (strip item)

/-- `_int`. -/
def intOf (default : Int) : Except Exc Int :=
  match get items (lit key) with
  | none => .ok default
  | some (.bool _) => missing key " must be an integer"
  | some value => match library.int (str library.shown value) with
      | none => missing key " must be an integer"
      | some number => .ok number

/-- `_bool`. -/
def boolOf (default : Bool) : Except Exc Bool :=
  match get items (lit key) with
  | none => .ok default
  | some (.bool value) => .ok value
  | some value =>
      let text := library.lower (str library.shown value)
      if text ∈ [lit "true", lit "yes", lit "1"] then .ok true
      else if text ∈ [lit "false", lit "no", lit "0"] then .ok false
      else missing key " must be a boolean"

/-- `str(section.get(key, default))`. -/
def textOf (default : String) : Str := ((get items (lit key)).map (str library.shown)).getD (lit default)
end Values

/-! The loading. -/
section Load
variable (library : ConfigLibrary)

def certsOf (certs : Items) : Except Exc CertConfig := do
  let agentCaKeyPath ← pathOf library certs "agent_ca_key_path"
  let agentCaCertPath ← pathOf library certs "agent_ca_cert_path"
  let userCaKeyPath ← pathOf library certs "user_ca_key_path"
  let userCaPublicKeyPath ← pathOf library certs "user_ca_public_key_path"
  let agentCertLifetimeDays ← intOf library certs "agent_cert_lifetime_days" 30
  let userCertTtlHours ← intOf library certs "user_cert_ttl_hours" 4
  .ok ⟨agentCaKeyPath, agentCaCertPath, userCaKeyPath, userCaPublicKeyPath, agentCertLifetimeDays,
    userCertTtlHours⟩

def tunnelOf (tunnel : Items) : Except Exc TunnelConfig := do
  let maxSessionsPerAgent ← intOf library tunnel "max_sessions_per_agent" 64
  let heartbeatSeconds ← intOf library tunnel "heartbeat_seconds" 30
  let frameMaxBytes ← intOf library tunnel "frame_max_bytes" 1048576
  let tlsCaBundle ← pathOf library tunnel "tls_ca_bundle"
  let nodeSshPort ← intOf library tunnel "node_ssh_port" 2222
  .ok ⟨maxSessionsPerAgent, heartbeatSeconds, frameMaxBytes, tlsCaBundle, nodeSshPort⟩

/-- The entries are always empty. -/
def publicKeysOf (publicKeys : Items) : Except Exc PublicKeyAuthConfig := do
  let filePath ← optionalPath library publicKeys "file_path"
  .ok ⟨textOf library publicKeys "source" "file", filePath, []⟩

def ldapOf (ldap : Items) : Except Exc LdapConfig := do
  let enabled ← boolOf library ldap "enabled" false
  let useTls ← boolOf library ldap "use_tls" false
  let validateTls ← boolOf library ldap "validate_tls" false
  .ok ⟨enabled, useTls, validateTls⟩

def azureAdOf (azureAd : Items) : Except Exc AzureAdConfig := do
  let enabled ← boolOf library azureAd "enabled" false
  let clientSecretPath ← optionalPath library azureAd "client_secret_path"
  let useManagedIdentity ← boolOf library azureAd "use_managed_identity" false
  .ok ⟨enabled, clientSecretPath, useManagedIdentity⟩

def replayOf (replay : Items) : Except Exc ReplayConfig := do
  let directory ← pathOf library replay "directory"
  let retentionDays ← intOf library replay "retention_days" 90
  let integrityKeyPath ← pathOf library replay "integrity_key_path"
  .ok ⟨directory, retentionDays, integrityKeyPath⟩

/-- `_load_simple_yaml`. -/
def loadSimpleYaml : Loaded Exc → Except Exc Items
  | .raised exc => .error exc
  | .yamlError => .error (.configError "server config YAML is invalid")
  | .value (.mapping items) => .ok items
  | .value _ => .error (.configError "server config must be a YAML mapping")

def configOf (raw : Items) : Except Exc ServerConfig := do
  let certs ← mappingOf raw "certs" none
  let tunnel ← mappingOf raw "tunnel" none
  let auth ← mappingOf raw "auth" none
  let publicKeys ← mappingOf auth "public_keys" (some [])
  let ldap ← mappingOf auth "ldap" (some [])
  let azureAd ← mappingOf auth "azure_ad" (some [])
  let replay ← mappingOf raw "replay" none
  let metrics ← mappingOf raw "metrics" none
  let certConfig ← certsOf library certs
  let tunnelConfig ← tunnelOf library tunnel
  let publicKeyConfig ← publicKeysOf library publicKeys
  let ldapConfig ← ldapOf library ldap
  let azureAdConfig ← azureAdOf library azureAd
  let replayConfig ← replayOf library replay
  let installDirs ← pathsOf library raw "install_dirs"
  let secretPaths ← pathsOf library raw "secret_paths"
  .ok ⟨certConfig, tunnelConfig, ⟨publicKeyConfig, ldapConfig, azureAdConfig,
    filled library auth "keyboard_interactive_verifier"⟩, replayConfig,
    ⟨textOf library metrics "listen" "127.0.0.1:9100"⟩, installDirs, secretPaths⟩

def loadServerConfig (loaded : Loaded Exc) : Except Exc ServerConfig := do
  let raw ← loadSimpleYaml loaded
  configOf library raw
end Load

/-! The checks. -/

/-- The map from the keys to the usernames that have been seen with them. -/
def noteKey (username : Str) (seen : List (Str × Str)) (publicKey : Str) : Except Exc (List (Str × Str)) :=
  if ∃ prior ∈ seen.lookup publicKey, prior ≠ username then
    .error (.configError "file public-key auth maps a key to multiple users")
  else .ok (setItem seen publicKey username)

def noteEntry (seen : List (Str × Str)) (entry : FilePublicKeyEntry) : Except Exc (List (Str × Str)) := do
  let username ← validateUsernamePrincipal entry.username
  if entry.publicKeys = [] then
    .error (.configError "file public-key entry must include at least one key")
  else entry.publicKeys.foldlM (noteKey username) seen

/-- `_validate_file_public_key_entries`. -/
def validateFilePublicKeyEntries (entries : List FilePublicKeyEntry) : Except Exc Unit := do
  let _ ← entries.foldlM noteEntry []
  .ok ()

section Validate
variable (library : ConfigLibrary) (files : FileSystem)

/-- A check of each path of a list. -/
def checkEach (check : Str → Except Exc Unit) : List Str → Except Exc Unit
  | [] => .ok ()
  | path :: rest => do
      check path
      checkEach check rest

def checkInstallDir (path : Str) : Except Exc Unit := do
  requireDir files path "install directory"
  rejectGroupOrOtherWritable files path "install directory"

def checkSecret (path : Str) : Except Exc Unit := do
  requireFile files path "secret"
  rejectGroupOrOtherAccessible files path "secret"

def validateTunnelBounds (tunnel : TunnelConfig) : Except Exc Unit := do
  require (1 ≤ tunnel.maxSessionsPerAgent && tunnel.maxSessionsPerAgent ≤ 1024)
    "max_sessions_per_agent is outside documented bounds"
  require (5 ≤ tunnel.heartbeatSeconds && tunnel.heartbeatSeconds ≤ 300)
    "heartbeat_seconds is outside documented bounds"
  require (65536 ≤ tunnel.frameMaxBytes && tunnel.frameMaxBytes ≤ 16777216)
    "frame_max_bytes is outside documented bounds"
  require (1 ≤ tunnel.nodeSshPort && tunnel.nodeSshPort ≤ 65535)
    "node_ssh_port is outside valid TCP port bounds"

def validateFileSource (publicKeys : PublicKeyAuthConfig) : Except Exc Unit :=
  match publicKeys.filePath with
  | none => .error (.configError "file public-key auth requires file_path")
  | some path => do
      requireFile files path "authorized-keys file"
      rejectGroupOrOtherWritable files path "authorized-keys file"
      validateFilePublicKeyEntries publicKeys.fileEntries

def validateAuthConfig (auth : AuthConfig) : Except Exc Unit := do
  require (!auth.ldap.enabled || auth.ldap.useTls && auth.ldap.validateTls)
    "LDAP requires StartTLS/LDAPS certificate validation"
  require (auth.keyboardInteractiveVerifier ≠ some (lit "azure_ad"))
    "Azure AD cannot verify keyboard-interactive passwords"
  if auth.publicKeys.source = lit "file" then validateFileSource files auth.publicKeys else .ok ()

def validateListenPort (portText : Str) : Except Exc Unit :=
  match library.int portText with
  | none => .error .valueError
  | some port => require (1 ≤ port && port ≤ 65535) "metrics.listen port is outside valid TCP port bounds"

def validateMetricsListen (listen : Str) : Except Exc Unit :=
  match rpartition 58 listen with
  | none => .error (.configError "metrics.listen must be host:port")
  | some (host, portText) => do
      require (host ≠ [] && library.isdigit portText) "metrics.listen must be host:port"
      require (isIpv4Loopback library.ipv6 host) "metrics.listen must bind to IPv4 loopback by default"
      validateListenPort library portText

def validateServerConfig (config : ServerConfig) : Except Exc Unit := do
  requireFile files config.certs.agentCaKeyPath "agent CA key"
  requireFile files config.certs.agentCaCertPath "agent CA certificate"
  requireFile files config.certs.userCaKeyPath "user CA key"
  requireFile files config.certs.userCaPublicKeyPath "user CA public key"
  requireFile files config.tunnel.tlsCaBundle "tunnel TLS CA bundle"
  requireDir files config.replay.directory "replay directory"
  requireFile files config.replay.integrityKeyPath "replay integrity key"
  checkEach (checkInstallDir files) config.installDirs
  checkEach (checkSecret files) config.secretPaths
  require (1 ≤ config.certs.userCertTtlHours && config.certs.userCertTtlHours ≤ 12)
    "user_cert_ttl_hours must be between 1 and 12"
  validateTunnelBounds config.tunnel
  validateAuthConfig files config.auth
  validateMetricsListen library config.metrics.listen
end Validate

/-- The start of the server: what is loaded is checked. -/
def startup (library : ConfigLibrary) (files : FileSystem) (loaded : Loaded Exc) : Except Exc ServerConfig := do
  let config ← loadServerConfig library loaded
  validateServerConfig library files config
  .ok config

/-! A file that the checks let through. -/
section Sound
variable (library : ConfigLibrary) (files : FileSystem) (items : Items)

def FileAt (key : String) : Prop :=
  ∃ path, pathOf library items key = .ok path ∧ files.isFile path = true

def IntIn (key : String) (default low high : Int) : Prop :=
  ∃ number, intOf library items key default = .ok number ∧ low ≤ number ∧ number ≤ high

def Unwritable (path : Str) : Prop :=
  ∃ stat, files.stat path = .ok stat ∧ stat.mode.testBit 4 = false ∧ stat.mode.testBit 1 = false

structure SoundCerts : Prop where
  agentCaKey : FileAt library files items "agent_ca_key_path"
  agentCaCert : FileAt library files items "agent_ca_cert_path"
  userCaKey : FileAt library files items "user_ca_key_path"
  userCaPublicKey : FileAt library files items "user_ca_public_key_path"
  lifetime : ∃ days, intOf library items "agent_cert_lifetime_days" 30 = .ok days
  ttl : IntIn library items "user_cert_ttl_hours" 4 1 12

structure SoundTunnel : Prop where
  maxSessions : IntIn library items "max_sessions_per_agent" 64 1 1024
  heartbeat : IntIn library items "heartbeat_seconds" 30 5 300
  frameMax : IntIn library items "frame_max_bytes" 1048576 65536 16777216
  bundle : FileAt library files items "tls_ca_bundle"
  nodeSshPort : IntIn library items "node_ssh_port" 2222 1 65535

structure SoundReplay : Prop where
  directory : ∃ path, pathOf library items "directory" = .ok path ∧ files.isDir path = true
  retention : ∃ days, intOf library items "retention_days" 90 = .ok days
  integrityKey : FileAt library files items "integrity_key_path"

/-- Of the authorized-keys file only the place and the mode matter. -/
def SoundKeys : Prop :=
  ∃ path, optionalPath library items "file_path" = .ok path ∧
    (textOf library items "source" "file" = lit "file" →
      ∃ named, path = some named ∧ files.isFile named = true ∧ Unwritable files named)

def SoundLdap : Prop :=
  ∃ enabled useTls validateTls, boolOf library items "enabled" false = .ok enabled ∧
    boolOf library items "use_tls" false = .ok useTls ∧
    boolOf library items "validate_tls" false = .ok validateTls ∧
    (enabled = true → useTls = true ∧ validateTls = true)

structure SoundAzureAd : Prop where
  enabled : ∃ enabled, boolOf library items "enabled" false = .ok enabled
  secret : ∃ path, optionalPath library items "client_secret_path" = .ok path
  identity : ∃ managed, boolOf library items "use_managed_identity" false = .ok managed

def SoundListen (listen : Str) : Prop :=
  ∃ host portText port, rpartition 58 listen = some (host, portText) ∧ host ≠ [] ∧
    library.isdigit portText = true ∧ isIpv4Loopback library.ipv6 host = true ∧
    library.int portText = some port ∧ 1 ≤ port ∧ port ≤ 65535

structure SoundAuth : Prop where
  publicKeys : ∃ publicKeys, mappingOf items "public_keys" (some []) = .ok publicKeys ∧
    SoundKeys library files publicKeys
  ldap : ∃ ldap, mappingOf items "ldap" (some []) = .ok ldap ∧ SoundLdap library ldap
  azureAd : ∃ azureAd, mappingOf items "azure_ad" (some []) = .ok azureAd ∧ SoundAzureAd library azureAd
  verifier : filled library items "keyboard_interactive_verifier" ≠ some (lit "azure_ad")

structure Sound : Prop where
  certs : ∃ certs, mappingOf items "certs" none = .ok certs ∧ SoundCerts library files certs
  tunnel : ∃ tunnel, mappingOf items "tunnel" none = .ok tunnel ∧ SoundTunnel library files tunnel
  auth : ∃ auth, mappingOf items "auth" none = .ok auth ∧ SoundAuth library files auth
  replay : ∃ replay, mappingOf items "replay" none = .ok replay ∧ SoundReplay library files replay
  metrics : ∃ metrics, mappingOf items "metrics" none = .ok metrics ∧
    SoundListen library (textOf library metrics "listen" "127.0.0.1:9100")
  installDirs : ∃ paths, pathsOf library items "install_dirs" = .ok paths ∧
    ∀ path ∈ paths, files.isDir path = true ∧ Unwritable files path
  secretPaths : ∃ paths, pathsOf library items "secret_paths" = .ok paths ∧
    ∀ path ∈ paths, files.isFile path = true ∧
      ∃ stat, files.stat path = .ok stat ∧ stat.mode % 64 = 0
end Sound

/-! What the loading and the checks ask. -/
section Loading
variable {library : ConfigLibrary} {items : Items}

theorem certsOf_ok {config : CertConfig} : certsOf library items = .ok config ↔
    pathOf library items "agent_ca_key_path" = .ok config.agentCaKeyPath ∧
    pathOf library items "agent_ca_cert_path" = .ok config.agentCaCertPath ∧
    pathOf library items "user_ca_key_path" = .ok config.userCaKeyPath ∧
    pathOf library items "user_ca_public_key_path" = .ok config.userCaPublicKeyPath ∧
    intOf library items "agent_cert_lifetime_days" 30 = .ok config.agentCertLifetimeDays ∧
    intOf library items "user_cert_ttl_hours" 4 = .ok config.userCertTtlHours := by
  simp only [certsOf, bind_ok]
  constructor
  · rintro ⟨_, key, _, cert, _, user, _, shared, _, days, _, hours, ⟨⟩⟩
    exact ⟨key, cert, user, shared, days, hours⟩
  · rintro ⟨key, cert, user, shared, days, hours⟩
    exact ⟨_, key, _, cert, _, user, _, shared, _, days, _, hours, rfl⟩

theorem tunnelOf_ok {config : TunnelConfig} : tunnelOf library items = .ok config ↔
    intOf library items "max_sessions_per_agent" 64 = .ok config.maxSessionsPerAgent ∧
    intOf library items "heartbeat_seconds" 30 = .ok config.heartbeatSeconds ∧
    intOf library items "frame_max_bytes" 1048576 = .ok config.frameMaxBytes ∧
    pathOf library items "tls_ca_bundle" = .ok config.tlsCaBundle ∧
    intOf library items "node_ssh_port" 2222 = .ok config.nodeSshPort := by
  simp only [tunnelOf, bind_ok]
  constructor
  · rintro ⟨_, sessions, _, heartbeat, _, frame, _, bundle, _, port, ⟨⟩⟩
    exact ⟨sessions, heartbeat, frame, bundle, port⟩
  · rintro ⟨sessions, heartbeat, frame, bundle, port⟩
    exact ⟨_, sessions, _, heartbeat, _, frame, _, bundle, _, port, rfl⟩

theorem publicKeysOf_ok {config : PublicKeyAuthConfig} : publicKeysOf library items = .ok config ↔
    optionalPath library items "file_path" = .ok config.filePath ∧
    textOf library items "source" "file" = config.source ∧ config.fileEntries = [] := by
  simp only [publicKeysOf, bind_ok]
  constructor
  · rintro ⟨_, path, ⟨⟩⟩
    exact ⟨path, rfl, rfl⟩
  · obtain ⟨source, path, entries⟩ := config
    rintro ⟨path, rfl, rfl⟩
    exact ⟨_, path, rfl⟩

theorem ldapOf_ok {config : LdapConfig} : ldapOf library items = .ok config ↔
    boolOf library items "enabled" false = .ok config.enabled ∧
    boolOf library items "use_tls" false = .ok config.useTls ∧
    boolOf library items "validate_tls" false = .ok config.validateTls := by
  simp only [ldapOf, bind_ok]
  constructor
  · rintro ⟨_, enabled, _, tls, _, validates, ⟨⟩⟩
    exact ⟨enabled, tls, validates⟩
  · rintro ⟨enabled, tls, validates⟩
    exact ⟨_, enabled, _, tls, _, validates, rfl⟩

theorem azureAdOf_ok {config : AzureAdConfig} : azureAdOf library items = .ok config ↔
    boolOf library items "enabled" false = .ok config.enabled ∧
    optionalPath library items "client_secret_path" = .ok config.clientSecretPath ∧
    boolOf library items "use_managed_identity" false = .ok config.useManagedIdentity := by
  simp only [azureAdOf, bind_ok]
  constructor
  · rintro ⟨_, enabled, _, secret, _, identity, ⟨⟩⟩
    exact ⟨enabled, secret, identity⟩
  · rintro ⟨enabled, secret, identity⟩
    exact ⟨_, enabled, _, secret, _, identity, rfl⟩

theorem replayOf_ok {config : ReplayConfig} : replayOf library items = .ok config ↔
    pathOf library items "directory" = .ok config.directory ∧
    intOf library items "retention_days" 90 = .ok config.retentionDays ∧
    pathOf library items "integrity_key_path" = .ok config.integrityKeyPath := by
  simp only [replayOf, bind_ok]
  constructor
  · rintro ⟨_, directory, _, days, _, key, ⟨⟩⟩
    exact ⟨directory, days, key⟩
  · rintro ⟨directory, days, key⟩
    exact ⟨_, directory, _, days, _, key, rfl⟩
end Loading

section Checks
variable {library : ConfigLibrary} {files : FileSystem}

theorem require_ok {holds : Bool} {message : String} : require holds message = .ok () ↔ holds = true := by
  cases holds <;> simp [require]

theorem requireFile_ok {path : Str} {label : String} :
    requireFile files path label = .ok () ↔ files.isFile path = true := require_ok

theorem requireDir_ok {path : Str} {label : String} :
    requireDir files path label = .ok () ↔ files.isDir path = true := require_ok

theorem rejectWritable_ok {path : Str} {label : String} :
    rejectGroupOrOtherWritable files path label = .ok () ↔ Unwritable files path := by
  simp [rejectGroupOrOtherWritable, bind_ok, require_ok, Unwritable]

theorem rejectAccessible_ok {path : Str} {label : String} :
    rejectGroupOrOtherAccessible files path label = .ok () ↔
      ∃ stat, files.stat path = .ok stat ∧ stat.mode % 64 = 0 := by
  simp [rejectGroupOrOtherAccessible, bind_ok, require_ok]

/-- A check before others. -/
theorem and_then {first second : Except Exc Unit} :
    (do first; second) = .ok () ↔ first = .ok () ∧ second = .ok () := by
  rw [bind_ok]
  constructor
  · rintro ⟨⟨⟩, before, after⟩
    exact ⟨before, after⟩
  · rintro ⟨before, after⟩
    exact ⟨(), before, after⟩

theorem checkEach_ok {check : Str → Except Exc Unit} {paths : List Str} :
    checkEach check paths = .ok () ↔ ∀ path ∈ paths, check path = .ok () := by
  induction paths with
  | nil => simp [checkEach]
  | cons path rest ih => rw [checkEach, and_then, ih, List.forall_mem_cons]

theorem validateTunnelBounds_ok {tunnel : TunnelConfig} : validateTunnelBounds tunnel = .ok () ↔
    (1 ≤ tunnel.maxSessionsPerAgent ∧ tunnel.maxSessionsPerAgent ≤ 1024) ∧
    (5 ≤ tunnel.heartbeatSeconds ∧ tunnel.heartbeatSeconds ≤ 300) ∧
    (65536 ≤ tunnel.frameMaxBytes ∧ tunnel.frameMaxBytes ≤ 16777216) ∧
    1 ≤ tunnel.nodeSshPort ∧ tunnel.nodeSshPort ≤ 65535 := by
  simp only [validateTunnelBounds, and_then, require_ok, Bool.and_eq_true, decide_eq_true_eq]

theorem validateFileSource_ok {publicKeys : PublicKeyAuthConfig} (empty : publicKeys.fileEntries = []) :
    validateFileSource files publicKeys = .ok () ↔
      ∃ named, publicKeys.filePath = some named ∧ files.isFile named = true ∧ Unwritable files named := by
  rw [validateFileSource, empty]
  have none : validateFilePublicKeyEntries [] = .ok () := rfl
  cases publicKeys.filePath with
  | none => simp
  | some path => simp [and_then, requireFile_ok, rejectWritable_ok, none]

theorem validateAuthConfig_ok {auth : AuthConfig} (empty : auth.publicKeys.fileEntries = []) :
    validateAuthConfig files auth = .ok () ↔
      (auth.ldap.enabled = true → auth.ldap.useTls = true ∧ auth.ldap.validateTls = true) ∧
      auth.keyboardInteractiveVerifier ≠ some (lit "azure_ad") ∧
      (auth.publicKeys.source = lit "file" → ∃ named, auth.publicKeys.filePath = some named ∧
        files.isFile named = true ∧ Unwritable files named) := by
  rw [validateAuthConfig, and_then, and_then, require_ok, require_ok, ← validateFileSource_ok empty]
  apply and_congr
  · cases auth.ldap.enabled <;> simp
  · apply and_congr
    · simp
    · split
      · next source => simp [source]
      · next source => simp [source]

theorem validateMetricsListen_ok {listen : Str} :
    validateMetricsListen library listen = .ok () ↔ SoundListen library listen := by
  rw [validateMetricsListen, SoundListen]
  cases rpartition 58 listen with
  | none => simp
  | some parts =>
      obtain ⟨host, portText⟩ := parts
      simp only [and_then, require_ok, validateListenPort]
      cases number : library.int portText with
      | none => simp [number]
      | some port => simp [number, require_ok, and_assoc]

theorem validateServerConfig_ok {config : ServerConfig} :
    validateServerConfig library files config = .ok () ↔
      files.isFile config.certs.agentCaKeyPath = true ∧ files.isFile config.certs.agentCaCertPath = true ∧
      files.isFile config.certs.userCaKeyPath = true ∧
      files.isFile config.certs.userCaPublicKeyPath = true ∧
      files.isFile config.tunnel.tlsCaBundle = true ∧ files.isDir config.replay.directory = true ∧
      files.isFile config.replay.integrityKeyPath = true ∧
      (∀ path ∈ config.installDirs, files.isDir path = true ∧ Unwritable files path) ∧
      (∀ path ∈ config.secretPaths, files.isFile path = true ∧
        ∃ stat, files.stat path = .ok stat ∧ stat.mode % 64 = 0) ∧
      (1 ≤ config.certs.userCertTtlHours ∧ config.certs.userCertTtlHours ≤ 12) ∧
      validateTunnelBounds config.tunnel = .ok () ∧ validateAuthConfig files config.auth = .ok () ∧
      SoundListen library config.metrics.listen := by
  simp only [validateServerConfig, and_then, requireFile_ok, requireDir_ok, checkEach_ok, checkInstallDir,
    checkSecret, rejectWritable_ok, rejectAccessible_ok, require_ok, validateMetricsListen_ok,
    Bool.and_eq_true, decide_eq_true_eq]
end Checks

theorem configOf_ok {library : ConfigLibrary} {raw : Items} {config : ServerConfig} :
    configOf library raw = .ok config ↔ ∃ certs tunnel auth publicKeys ldap azureAd replay metrics,
      (mappingOf raw "certs" none = .ok certs ∧ certsOf library certs = .ok config.certs) ∧
      (mappingOf raw "tunnel" none = .ok tunnel ∧ tunnelOf library tunnel = .ok config.tunnel) ∧
      (mappingOf raw "auth" none = .ok auth ∧
        filled library auth "keyboard_interactive_verifier" = config.auth.keyboardInteractiveVerifier) ∧
      (mappingOf auth "public_keys" (some []) = .ok publicKeys ∧
        publicKeysOf library publicKeys = .ok config.auth.publicKeys) ∧
      (mappingOf auth "ldap" (some []) = .ok ldap ∧ ldapOf library ldap = .ok config.auth.ldap) ∧
      (mappingOf auth "azure_ad" (some []) = .ok azureAd ∧
        azureAdOf library azureAd = .ok config.auth.azureAd) ∧
      (mappingOf raw "replay" none = .ok replay ∧ replayOf library replay = .ok config.replay) ∧
      (mappingOf raw "metrics" none = .ok metrics ∧
        textOf library metrics "listen" "127.0.0.1:9100" = config.metrics.listen) ∧
      pathsOf library raw "install_dirs" = .ok config.installDirs ∧
      pathsOf library raw "secret_paths" = .ok config.secretPaths := by
  simp only [configOf, bind_ok]
  constructor
  · rintro ⟨_, certs, _, tunnel, _, auth, _, keys, _, ldap, _, azure, _, replay, _, metrics, _, certs', _,
      tunnel', _, keys', _, ldap', _, azure', _, replay', _, dirs, _, secrets, ⟨⟩⟩
    exact ⟨_, _, _, _, _, _, _, _, ⟨certs, certs'⟩, ⟨tunnel, tunnel'⟩, ⟨auth, rfl⟩, ⟨keys, keys'⟩,
      ⟨ldap, ldap'⟩, ⟨azure, azure'⟩, ⟨replay, replay'⟩, ⟨metrics, rfl⟩, dirs, secrets⟩
  · obtain ⟨_, _, ⟨_, _, _, _⟩, _, ⟨_⟩, _, _⟩ := config
    rintro ⟨_, _, _, _, _, _, _, _, ⟨certs, certs'⟩, ⟨tunnel, tunnel'⟩, ⟨auth, rfl⟩, ⟨keys, keys'⟩,
      ⟨ldap, ldap'⟩, ⟨azure, azure'⟩, ⟨replay, replay'⟩, ⟨metrics, rfl⟩, dirs, secrets⟩
    exact ⟨_, certs, _, tunnel, _, auth, _, keys, _, ldap, _, azure, _, replay, _, metrics, _, certs', _,
      tunnel', _, keys', _, ldap', _, azure', _, replay', _, dirs, _, secrets, rfl⟩

/-- What is loaded and passes the checks comes from a sound file. -/
theorem sound_of_checked {library : ConfigLibrary} {files : FileSystem} {raw : Items} {config : ServerConfig}
    (loaded : configOf library raw = .ok config)
    (checked : validateServerConfig library files config = .ok ()) : Sound library files raw := by
  obtain ⟨certs, tunnel, auth, publicKeys, ldap, azureAd, replay, metrics, ⟨certs_at, certs_ok⟩,
    ⟨tunnel_at, tunnel_ok⟩, ⟨auth_at, verifier⟩, ⟨keys_at, keys_ok⟩, ⟨ldap_at, ldap_ok⟩,
    ⟨azure_at, azure_ok⟩, ⟨replay_at, replay_ok⟩, ⟨metrics_at, listen⟩, dirs, secrets⟩ :=
      configOf_ok.mp loaded
  obtain ⟨file₁, file₂, file₃, file₄, bundle, directory, integrity, installed, secret, ttl, bounds,
    authorized, listens⟩ := validateServerConfig_ok.mp checked
  obtain ⟨key, cert, user, shared, days, hours⟩ := certsOf_ok.mp certs_ok
  obtain ⟨sessions, heartbeat, frame, tls, port⟩ := tunnelOf_ok.mp tunnel_ok
  obtain ⟨path, source, empty⟩ := publicKeysOf_ok.mp keys_ok
  obtain ⟨enabled, useTls, validates⟩ := ldapOf_ok.mp ldap_ok
  obtain ⟨azure, client, managed⟩ := azureAdOf_ok.mp azure_ok
  obtain ⟨replayed, retention, signed⟩ := replayOf_ok.mp replay_ok
  obtain ⟨within₁, within₂, within₃, within₄⟩ := validateTunnelBounds_ok.mp bounds
  obtain ⟨secured, verified, sourced⟩ := (validateAuthConfig_ok empty).mp authorized
  constructor
  · exact ⟨certs, certs_at, ⟨_, key, file₁⟩, ⟨_, cert, file₂⟩, ⟨_, user, file₃⟩, ⟨_, shared, file₄⟩,
      ⟨_, days⟩, ⟨_, hours, ttl⟩⟩
  · exact ⟨tunnel, tunnel_at, ⟨_, sessions, within₁⟩, ⟨_, heartbeat, within₂⟩, ⟨_, frame, within₃⟩,
      ⟨_, tls, bundle⟩, ⟨_, port, within₄⟩⟩
  · exact ⟨auth, auth_at, ⟨publicKeys, keys_at, _, path, source ▸ sourced⟩,
      ⟨ldap, ldap_at, _, _, _, enabled, useTls, validates, secured⟩,
      ⟨azureAd, azure_at, ⟨_, azure⟩, ⟨_, client⟩, ⟨_, managed⟩⟩, verifier ▸ verified⟩
  · exact ⟨replay, replay_at, ⟨_, replayed, directory⟩, ⟨_, retention⟩, ⟨_, signed, integrity⟩⟩
  · exact ⟨metrics, metrics_at, listen ▸ listens⟩
  · exact ⟨_, dirs, installed⟩
  · exact ⟨_, secrets, secret⟩

/-- A sound file is loaded, and passes the checks. -/
theorem checked_of_sound {library : ConfigLibrary} {files : FileSystem} {raw : Items}
    (sound : Sound library files raw) : ∃ config, configOf library raw = .ok config ∧
      validateServerConfig library files config = .ok () := by
  obtain ⟨certs, certs_at, ⟨path₁, key, file₁⟩, ⟨path₂, cert, file₂⟩, ⟨path₃, user, file₃⟩,
    ⟨path₄, shared, file₄⟩, ⟨lifetime, days⟩, ⟨ttl, hours, lasting⟩⟩ := sound.certs
  obtain ⟨tunnel, tunnel_at, ⟨most, sessions, within₁⟩, ⟨beat, heartbeat, within₂⟩,
    ⟨longest, frame, within₃⟩, ⟨bundle, tls, bundled⟩, ⟨port, ssh, within₄⟩⟩ := sound.tunnel
  obtain ⟨auth, auth_at, ⟨publicKeys, keys_at, path, named, sourced⟩,
    ⟨ldap, ldap_at, enabled, useTls, validateTls, isOn, uses, validates, secured⟩,
    ⟨azureAd, azure_at, ⟨azure, azure_on⟩, ⟨client, secret⟩, ⟨managed, identity⟩⟩, verified⟩ := sound.auth
  obtain ⟨replay, replay_at, ⟨directory, replayed, isDir⟩, ⟨kept, retention⟩,
    ⟨integrity, signed, isFile⟩⟩ := sound.replay
  obtain ⟨metrics, metrics_at, listens⟩ := sound.metrics
  obtain ⟨dirs, dirs_at, installed⟩ := sound.installDirs
  obtain ⟨secrets, secrets_at, closed⟩ := sound.secretPaths
  let config : ServerConfig :=
    ⟨⟨path₁, path₂, path₃, path₄, lifetime, ttl⟩, ⟨most, beat, longest, bundle, port⟩,
      ⟨⟨textOf library publicKeys "source" "file", path, []⟩, ⟨enabled, useTls, validateTls⟩,
        ⟨azure, client, managed⟩, filled library auth "keyboard_interactive_verifier"⟩,
      ⟨directory, kept, integrity⟩, ⟨textOf library metrics "listen" "127.0.0.1:9100"⟩, dirs, secrets⟩
  have authorized : validateAuthConfig files config.auth = .ok () :=
    (validateAuthConfig_ok rfl).mpr ⟨secured, verified, sourced⟩
  have bounds : validateTunnelBounds config.tunnel = .ok () :=
    validateTunnelBounds_ok.mpr ⟨within₁, within₂, within₃, within₄⟩
  refine ⟨config, configOf_ok.mpr ?_, validateServerConfig_ok.mpr ?_⟩
  · exact ⟨certs, tunnel, auth, publicKeys, ldap, azureAd, replay, metrics,
      ⟨certs_at, certsOf_ok.mpr ⟨key, cert, user, shared, days, hours⟩⟩,
      ⟨tunnel_at, tunnelOf_ok.mpr ⟨sessions, heartbeat, frame, tls, ssh⟩⟩, ⟨auth_at, rfl⟩,
      ⟨keys_at, publicKeysOf_ok.mpr ⟨named, rfl, rfl⟩⟩,
      ⟨ldap_at, ldapOf_ok.mpr ⟨isOn, uses, validates⟩⟩,
      ⟨azure_at, azureAdOf_ok.mpr ⟨azure_on, secret, identity⟩⟩,
      ⟨replay_at, replayOf_ok.mpr ⟨replayed, retention, signed⟩⟩, ⟨metrics_at, rfl⟩, dirs_at, secrets_at⟩
  · exact ⟨file₁, file₂, file₃, file₄, bundled, isDir, isFile, installed, closed, lasting, bounds,
      authorized, listens⟩

/-- A file starts the server if it is sound. -/
theorem startup_ok_iff {library : ConfigLibrary} {files : FileSystem} {raw : Items} :
    (∃ config, startup library files (.value (.mapping raw)) = .ok config) ↔ Sound library files raw := by
  constructor
  · rintro ⟨config, started⟩
    obtain ⟨_, loaded, more⟩ := bind_ok.mp started
    obtain ⟨_, checked, same⟩ := bind_ok.mp more
    cases same
    exact sound_of_checked loaded checked
  · intro sound
    obtain ⟨config, loaded, checked⟩ := checked_of_sound sound
    exact ⟨config, bind_ok.mpr ⟨config, loaded, bind_ok.mpr ⟨(), checked, rfl⟩⟩⟩

/-! The check of the entries: the map holds for each key the one username seen with it. -/
section Entries
variable {username : Str} {seen next : List (Str × Str)} {keys : List Str}

/-- No other username has been seen with one of the keys. -/
def Free (seen : List (Str × Str)) (username : Str) (keys : List Str) : Prop :=
  ∀ key ∈ keys, ∀ prior, seen.lookup key = some prior → prior = username

theorem noteKey_ok {key : Str} : noteKey username seen key = .ok next ↔
    (∀ prior, seen.lookup key = some prior → prior = username) ∧ next = setItem seen key username := by
  unfold noteKey
  split
  · next shared =>
    obtain ⟨prior, found, apart⟩ := shared
    constructor
    · rintro ⟨⟩
    · rintro ⟨own, -⟩
      exact absurd (own prior found) apart
  · next clean =>
    constructor
    · rintro ⟨⟩
      refine ⟨?_, rfl⟩
      intro prior found
      by_contra apart
      exact clean ⟨prior, found, apart⟩
    · rintro ⟨-, rfl⟩
      rfl

/-- What the keys of one entry add to the map. -/
theorem noteKeys_lookup (ok : keys.foldlM (noteKey username) seen = .ok next) (key : Str) :
    next.lookup key = if key ∈ keys then some username else seen.lookup key := by
  induction keys generalizing seen with
  | nil =>
      cases ok
      rfl
  | cons first rest ih =>
      rw [List.foldlM_cons] at ok
      obtain ⟨middle, noted, more⟩ := bind_ok.mp ok
      obtain ⟨-, rfl⟩ := noteKey_ok.mp noted
      rw [ih more, lookup_setItem]
      by_cases later : key ∈ rest
      · simp [later]
      · by_cases here : key = first <;> simp [later, here]

theorem free_setItem {first : Str} (own : ∀ prior, seen.lookup first = some prior → prior = username) :
    Free (setItem seen first username) username keys ↔ Free seen username keys := by
  apply forall_congr'
  intro key
  apply imp_congr_right
  intro _
  rw [lookup_setItem]
  split
  · next here =>
    rw [here]
    apply iff_of_true _ own
    rintro prior ⟨⟩
    rfl
  · rfl

theorem noteKeys_ok : (∃ next, keys.foldlM (noteKey username) seen = .ok next) ↔ Free seen username keys := by
  induction keys generalizing seen with
  | nil => simp [Free, pure, Except.pure]
  | cons first rest ih =>
      rw [List.foldlM_cons]
      simp only [bind_ok, noteKey_ok]
      constructor
      · rintro ⟨next, _, ⟨own, rfl⟩, more⟩
        exact List.forall_mem_cons.mpr ⟨own, (free_setItem own).mp (ih.mp ⟨next, more⟩)⟩
      · intro free
        obtain ⟨own, rest_free⟩ := List.forall_mem_cons.mp free
        obtain ⟨next, more⟩ := ih.mpr ((free_setItem own).mpr rest_free)
        exact ⟨next, _, ⟨own, rfl⟩, more⟩

theorem noteEntry_ok {entry : FilePublicKeyEntry} : noteEntry seen entry = .ok next ↔
    validateUsernamePrincipal entry.username = .ok entry.username ∧ entry.publicKeys ≠ [] ∧
      entry.publicKeys.foldlM (noteKey entry.username) seen = .ok next := by
  rw [noteEntry, bind_ok]
  constructor
  · rintro ⟨safe, valid, more⟩
    obtain ⟨rfl, -⟩ := validateUsernamePrincipal_ok valid
    split at more
    · cases more
    · next filled => exact ⟨valid, filled, more⟩
  · rintro ⟨valid, filled, more⟩
    exact ⟨_, valid, by rw [if_neg filled, more]⟩

/-- The entries have valid names and keys, and each key belongs to one name. -/
structure Clean (entries : List FilePublicKeyEntry) : Prop where
  named : ∀ entry ∈ entries, validateUsernamePrincipal entry.username = .ok entry.username
  filled : ∀ entry ∈ entries, entry.publicKeys ≠ []
  owned : ∀ one ∈ entries, ∀ two ∈ entries, ∀ key ∈ one.publicKeys, key ∈ two.publicKeys →
    one.username = two.username

theorem clean_cons {first : FilePublicKeyEntry} {rest : List FilePublicKeyEntry} :
    Clean (first :: rest) ↔ Clean rest ∧
      validateUsernamePrincipal first.username = .ok first.username ∧ first.publicKeys ≠ [] ∧
      ∀ entry ∈ rest, ∀ key ∈ entry.publicKeys, key ∈ first.publicKeys → first.username = entry.username := by
  constructor
  · intro clean
    obtain ⟨name, names⟩ := List.forall_mem_cons.mp clean.named
    obtain ⟨fill, fills⟩ := List.forall_mem_cons.mp clean.filled
    refine ⟨⟨names, fills, ?_⟩, name, fill, ?_⟩
    · intro one here two there
      exact clean.owned one (List.mem_cons_of_mem first here) two (List.mem_cons_of_mem first there)
    · intro entry within key held also
      exact clean.owned first List.mem_cons_self entry (List.mem_cons_of_mem first within) key also held
  · rintro ⟨clean, name, fill, apart⟩
    constructor
    · exact List.forall_mem_cons.mpr ⟨name, clean.named⟩
    · exact List.forall_mem_cons.mpr ⟨fill, clean.filled⟩
    · intro one here two there key held also
      rcases List.mem_cons.mp here with rfl | before
      · rcases List.mem_cons.mp there with rfl | after
        · rfl
        · exact apart two after key also held
      · rcases List.mem_cons.mp there with rfl | after
        · exact (apart one before key held also).symm
        · exact clean.owned one before two after key held also

/-- After an entry its keys belong to its name, and to no other. -/
theorem free_after {first : FilePublicKeyEntry}
    (ok : first.publicKeys.foldlM (noteKey first.username) seen = .ok next) :
    Free next username keys ↔ (∀ key ∈ keys, key ∈ first.publicKeys → first.username = username) ∧
      Free seen username keys := by
  have own := noteKeys_ok.mp ⟨next, ok⟩
  have lookup := noteKeys_lookup ok
  constructor
  · intro free
    constructor
    · intro key held also
      apply free key held
      rw [lookup, if_pos also]
    · intro key held prior found
      by_cases also : key ∈ first.publicKeys
      · have before := own key also prior found
        rw [before]
        apply free key held
        rw [lookup, if_pos also]
      · apply free key held
        rw [lookup, if_neg also]
        exact found
  · rintro ⟨apart, free⟩ key held prior found
    rw [lookup] at found
    split at found
    · next also =>
      cases found
      exact apart key held also
    · exact free key held prior found

theorem noteEntries_ok {entries : List FilePublicKeyEntry} :
    (∃ next, entries.foldlM noteEntry seen = .ok next) ↔
      Clean entries ∧ ∀ entry ∈ entries, Free seen entry.username entry.publicKeys := by
  induction entries generalizing seen with
  | nil =>
      have clean : Clean [] := ⟨by simp, by simp, by simp⟩
      simp [pure, Except.pure, clean]
  | cons first rest ih =>
      rw [List.foldlM_cons, clean_cons, List.forall_mem_cons]
      simp only [bind_ok, noteEntry_ok]
      constructor
      · rintro ⟨last, middle, ⟨name, fill, noted⟩, more⟩
        obtain ⟨clean, free⟩ := ih.mp ⟨last, more⟩
        have later := fun entry within => (free_after noted).mp (free entry within)
        exact ⟨⟨clean, name, fill, fun entry within => (later entry within).1⟩,
          noteKeys_ok.mp ⟨middle, noted⟩, fun entry within => (later entry within).2⟩
      · rintro ⟨⟨clean, name, fill, apart⟩, own, free⟩
        obtain ⟨middle, noted⟩ := noteKeys_ok.mpr own
        obtain ⟨last, more⟩ := ih.mpr ⟨clean, fun entry within =>
          (free_after noted).mpr ⟨apart entry within, free entry within⟩⟩
        exact ⟨last, middle, ⟨name, fill, noted⟩, more⟩

theorem validateEntries_ok {entries : List FilePublicKeyEntry} :
    validateFilePublicKeyEntries entries = .ok () ↔ Clean entries := by
  have start : ∀ entry ∈ entries, Free [] entry.username entry.publicKeys := by
    rintro entry - key - prior ⟨⟩
  rw [validateFilePublicKeyEntries, bind_ok]
  constructor
  · rintro ⟨next, noted, -⟩
    exact (noteEntries_ok.mp ⟨next, noted⟩).1
  · intro clean
    obtain ⟨next, noted⟩ := noteEntries_ok.mpr ⟨clean, start⟩
    exact ⟨next, noted, rfl⟩
end Entries

/-! What the documentation asks of the entries. -/

/-- A key of two usernames, an entry without keys, or a username that is no principal. -/
inductive Refusable (entries : List FilePublicKeyEntry) : Prop where
  | shared (one two : FilePublicKeyEntry) (key : Str) (here : one ∈ entries) (there : two ∈ entries)
      (apart : one.username ≠ two.username) (held : key ∈ one.publicKeys) (also : key ∈ two.publicKeys)
  | empty (entry : FilePublicKeyEntry) (here : entry ∈ entries) (unfilled : entry.publicKeys = [])
  | invalid (entry : FilePublicKeyEntry) (here : entry ∈ entries)
      (refused : ∃ raised, validateUsernamePrincipal entry.username = .error raised)

theorem clean_of_not_refusable {entries : List FilePublicKeyEntry} (fine : ¬ Refusable entries) :
    Clean entries := by
  constructor
  · intro entry here
    cases checked : validateUsernamePrincipal entry.username with
    | error raised => exact absurd (.invalid entry here ⟨raised, checked⟩) fine
    | ok safe => rw [(validateUsernamePrincipal_ok checked).1]
  · intro entry here unfilled
    exact fine (.empty entry here unfilled)
  · intro one here two there key held also
    by_contra apart
    exact fine (.shared one two key here there apart held also)

theorem Clean.not_refusable {entries : List FilePublicKeyEntry} (clean : Clean entries) :
    ¬ Refusable entries := by
  rintro (⟨one, two, key, here, there, apart, held, also⟩ | ⟨entry, here, unfilled⟩ |
    ⟨entry, here, raised, refused⟩)
  · exact apart (clean.owned one here two there key held also)
  · exact clean.filled entry here unfilled
  · rw [clean.named entry here] at refused
    cases refused

theorem entries_refused_iff (entries : List FilePublicKeyEntry) :
    (∃ raised, validateFilePublicKeyEntries entries = .error raised) ↔ Refusable entries := by
  cases checked : validateFilePublicKeyEntries entries with
  | ok =>
      have fine := (validateEntries_ok.mp checked).not_refusable
      simp [fine]
  | error raised =>
      apply iff_of_true ⟨raised, rfl⟩
      by_contra fine
      rw [validateEntries_ok.mpr (clean_of_not_refusable fine)] at checked
      cases checked

/-- The file of the configuration is where the keys are, and it is loaded so. -/
structure KeysFrom (library : ConfigLibrary) (raw : Items) (documents : Str → Loaded Exc)
    (users : Items) : Prop where
  source : ∃ auth publicKeys path keys, mappingOf raw "auth" none = .ok auth ∧
    mappingOf auth "public_keys" (some []) = .ok publicKeys ∧
    textOf library publicKeys "source" "file" = lit "file" ∧
    optionalPath library publicKeys "file_path" = .ok (some path) ∧
    documents path = .value keys ∧ usersOf keys = .ok users

/-- Two usernames with one key, or one without keys. -/
def Ambiguous (library : ConfigLibrary) (users : Items) : Prop :=
  (∃ one ∈ users, ∃ two ∈ users, str library.shown one.1 ≠ str library.shown two.1 ∧
    ∃ oneKeys twoKeys, namedKeys library.shown one.2 = .ok oneKeys ∧
      namedKeys library.shown two.2 = .ok twoKeys ∧ ∃ key ∈ oneKeys.1, key ∈ twoKeys.1) ∨
  ∃ one ∈ users, ∃ groups, namedKeys library.shown one.2 = .ok ([], groups)

/-- An ambiguous file stops the server only where something else does; entries that are given to the
check would be refused. -/
theorem ambiguous_stops_iff (library : ConfigLibrary) (files : FileSystem) (documents : Str → Loaded Exc)
    (raw users : Items) :
    ((KeysFrom library raw documents users → Ambiguous library users →
        ∃ raised, startup library files (.value (.mapping raw)) = .error raised) ↔
      (KeysFrom library raw documents users → Ambiguous library users → ¬ Sound library files raw)) ∧
    ∀ entries, (∃ raised, validateFilePublicKeyEntries entries = .error raised) ↔ Refusable entries := by
  refine ⟨?_, entries_refused_iff⟩
  apply imp_congr_right
  intro _
  apply imp_congr_right
  intro _
  rw [← startup_ok_iff]
  cases startup library files (.value (.mapping raw)) <;> simp

/-! A server with all that it needs, and two users with one key. -/

def plainLibrary : ConfigLibrary where
  shown := fun _ => []
  expanduser := .ok
  int := fun text => if text ≠ [] ∧ text.all isDigit = true then some (digitsValue text : Int) else none
  lower := id
  isdigit := fun text => text.all isDigit
  ipv6 := fun _ => none

def plainFiles : FileSystem := ⟨fun _ => true, fun _ => true, fun _ => .ok ⟨0, 384⟩⟩

def option (key value : String) : Yaml × Yaml := (.text (lit key), .text (lit value))
def part (key : String) (items : Items) : Yaml × Yaml := (.text (lit key), .mapping items)

def plainRaw : Items :=
  [part "certs" [option "agent_ca_key_path" "/ca", option "agent_ca_cert_path" "/ca",
      option "user_ca_key_path" "/ca", option "user_ca_public_key_path" "/ca"],
    part "tunnel" [option "tls_ca_bundle" "/ca"],
    part "auth" [part "public_keys" [option "file_path" "/keys"]],
    part "replay" [option "directory" "/replay", option "integrity_key_path" "/ca"],
    part "metrics" []]

def sharedUsers : Items :=
  [(.text (lit "alice"), .sequence [.text (lit "ssh-ed25519 AAAA")]),
    (.text (lit "bob"), .sequence [.text (lit "ssh-ed25519 AAAA")])]

/-- The file is ambiguous, and the server starts. -/
theorem ambiguous_starts : ¬ ∀ library files documents raw users, KeysFrom library raw documents users →
    Ambiguous library users → ∃ raised, startup library files (.value (.mapping raw)) = .error raised := by
  intro claimed
  have started : (startup plainLibrary plainFiles (.value (.mapping plainRaw))).isOk = true := by
    decide +kernel
  have apart : lit "alice" ≠ lit "bob" ∧ lit "alice" ≠ lit "users" ∧ lit "bob" ≠ lit "users" := by
    decide +kernel
  have later : lit "certs" ≠ lit "auth" ∧ lit "tunnel" ≠ lit "auth" ∧ lit "file_path" ≠ lit "source" ∧
      lit "/keys" ≠ [] := by decide +kernel
  have ambiguous : Ambiguous plainLibrary sharedUsers := by
    left
    exact ⟨_, List.mem_cons_self, _, List.mem_cons_of_mem _ List.mem_cons_self, apart.1, _, _, rfl, rfl,
      _, List.mem_cons_self, List.mem_cons_self⟩
  have fromFile : KeysFrom plainLibrary plainRaw (fun _ => .value (.mapping sharedUsers)) sharedUsers := by
    have users : usersOf (.mapping sharedUsers) = .ok sharedUsers := by
      simp [usersOf, sharedUsers, get_later apart.2.1, get_later apart.2.2, get_nil]
    have auth : mappingOf plainRaw "auth" none =
        .ok [part "public_keys" [option "file_path" "/keys"]] := by
      simp [mappingOf, plainRaw, part, get_later later.1, get_later later.2.1, get_here]
    have keys : mappingOf [part "public_keys" [option "file_path" "/keys"]] "public_keys" (some []) =
        .ok [option "file_path" "/keys"] := by
      simp [mappingOf, part, get_here]
    have source : textOf plainLibrary [option "file_path" "/keys"] "source" "file" = lit "file" := by
      simp [textOf, option, get_later later.2.2.1, get_nil]
    have path : optionalPath plainLibrary [option "file_path" "/keys"] "file_path" =
        .ok (some (lit "/keys")) := by
      have text : filled plainLibrary [option "file_path" "/keys"] "file_path" = some (lit "/keys") := by
        simp [filled, option, get_here, truth, str, later.2.2.2]
      rw [optionalPath, text]
      rfl
    exact ⟨_, _, _, _, auth, keys, source, path, rfl, users⟩
  obtain ⟨raised, refused⟩ := claimed _ plainFiles _ _ _ fromFile ambiguous
  rw [refused] at started
  cases started

end VibeConnect.ServerStartup
