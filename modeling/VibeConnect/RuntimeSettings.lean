import VibeConnect.ServerStartup

/-! The settings of the running server, which `server start` reads from the configuration file after
the checks, and what they add to the checks. -/
namespace VibeConnect.RuntimeSettings
open Python.Text Python.JsonCodec Python.Coroutine Python.YamlValue Python.Url Python.Address Models
open ConfigChecks ServerStartup

structure ServerRuntimeSettings where
  postgresDsn : Str
  sshListen : Str × Int
  tunnelListen : Str × Int
  apiListen : Str × Int
  metricsListen : Str × Int
  tunnelPublicHost : Str
  sshHostKeyPath : Str
  tlsCertPath : Str
  tlsKeyPath : Str
  enrollmentTlsCaBundlePath : Str

/-- The files and the environment of the process. -/
structure Process where
  readText : Str → Except Exc Str
  environ : Str → Option Str

/-- A message with a text of the file in it. -/
def shownText (text : Str) : String := String.ofList (text.map fun code => Char.ofNat code.val)

section Load
variable (library : ConfigLibrary) (process : Process)

/-- `_host_port`. -/
def hostPort (value : Str) : Except Exc (Str × Int) :=
  match rpartition 58 value with
  | none => .error (.configError "listener value must be host:port")
  | some (host, portText) =>
      if host = [] ∨ library.isdigit portText = false then
        .error (.configError "listener value must be host:port")
      else match library.int portText with
        | none => .error .valueError
        | some port =>
            if 1 ≤ port ∧ port ≤ 65535 then .ok (host, port)
            else .error (.configError "listener port is outside valid TCP bounds")

/-- A value that is a text and not empty. -/
def givenText (items : Items) (key : String) : Option Str :=
  match get items (lit key) with
  | some (.text value) => if value = [] then none else some value
  | _ => none

/-- `_runtime_path`. -/
def runtimePath (server : Items) (key : String) : Except Exc Str :=
  match givenText server key with
  | none => .error (.configError ("server." ++ key ++ " is required"))
  | some value => library.expanduser value

def dsnFromFile (dsnFile : Str) : Except Exc Str := do
  let path ← library.expanduser dsnFile
  let text ← process.readText path
  if strip text = [] then .error (.configError "postgres.dsn_file is empty") else .ok (strip text)

def dsnFromEnvironment (dsnEnv : Str) : Except Exc Str :=
  match process.environ dsnEnv with
  | some (point :: rest) => .ok (point :: rest)
  | _ => .error (.configError (shownText dsnEnv ++ " is not set"))

/-- `_postgres_dsn`. -/
def postgresDsn (postgres : Items) : Except Exc Str :=
  match givenText postgres "dsn", givenText postgres "dsn_file", givenText postgres "dsn_env" with
  | some dsn, _, _ => .ok dsn
  | none, some dsnFile, _ => dsnFromFile library process dsnFile
  | none, none, some dsnEnv => dsnFromEnvironment process dsnEnv
  | none, none, none =>
      .error (.configError "postgres.dsn, postgres.dsn_file, or postgres.dsn_env is required")

/-- `_load_runtime_settings`. The file is read and its top level checked as `_load_simple_yaml` does
it, and `_runtime_mapping` is `_mapping` without a default. -/
def loadRuntimeSettings (loaded : Loaded Exc) : Except Exc ServerRuntimeSettings := do
  let raw ← loadSimpleYaml loaded
  let server ← mappingOf raw "server" none
  let postgres ← mappingOf raw "postgres" none
  let dsn ← postgresDsn library process postgres
  let sshListen ← hostPort library (textOf library server "listen_ssh" "0.0.0.0:22")
  let tunnelListen ← hostPort library (textOf library server "listen_tunnel" "0.0.0.0:4444")
  let apiListen ← hostPort library (textOf library server "listen_api" "0.0.0.0:4443")
  let metrics ← mappingOf raw "metrics" none
  let metricsListen ← hostPort library (textOf library metrics "listen" "127.0.0.1:9100")
  let sshHostKeyPath ← runtimePath library server "ssh_host_key_path"
  let tlsCertPath ← runtimePath library server "tls_cert_path"
  let tlsKeyPath ← runtimePath library server "tls_key_path"
  let enrollmentTlsCaBundlePath ← runtimePath library server "enrollment_tls_ca_bundle_path"
  .ok ⟨dsn, sshListen, tunnelListen, apiListen, metricsListen,
    textOf library server "tunnel_public_host" "localhost", sshHostKeyPath, tlsCertPath, tlsKeyPath,
    enrollmentTlsCaBundlePath⟩

/-- `_admin_postgres_dsn`: the option, the environment, or the settings. An `OSError` is a file that
cannot be read. -/
def adminPostgresDsn (configPath : Str) (option : Option Str) (loaded : Loaded Exc) : Except Exc Str :=
  match option, process.environ (lit "VIBECONNECT_POSTGRES_DSN") with
  | some (point :: rest), _ | _, some (point :: rest) => .ok (point :: rest)
  | _, _ => match loadRuntimeSettings library process loaded with
    | .ok settings => .ok settings.postgresDsn
    | .error raised =>
        if raised.isOSError then
          .error (.configError ("server config is missing or unreadable: " ++ shownText configPath))
        else .error raised

/-- `_run_server_start` up to `_run_server_runtime`. The file is read twice. -/
def prepare (files : FileSystem) (first second : Loaded Exc) :
    Except Exc (ServerConfig × ServerRuntimeSettings) := do
  let config ← startup library files first
  let settings ← loadRuntimeSettings library process second
  .ok (config, settings)
end Load

/-! What the settings ask of the file. -/

/-- A host and a port to listen on. -/
structure Listens (address : Str × Int) : Prop where
  host : address.1 ≠ []
  low : 1 ≤ address.2
  high : address.2 ≤ 65535

/-- The text names the address. -/
def Names (library : ConfigLibrary) (text : Str) (address : Str × Int) : Prop :=
  ∃ portText, rpartition 58 text = some (address.1, portText) ∧ library.isdigit portText = true ∧
    library.int portText = some address.2 ∧ Listens address

section Runnable
variable (library : ConfigLibrary) (process : Process) (raw : Items)

/-- Where the connection string comes from. -/
inductive Dsn (postgres : Items) : Str → Prop where
  | given {dsn : Str} (here : givenText postgres "dsn" = some dsn) : Dsn postgres dsn
  | file {dsnFile path text : Str} (absent : givenText postgres "dsn" = none)
      (here : givenText postgres "dsn_file" = some dsnFile) (place : library.expanduser dsnFile = .ok path)
      (read : process.readText path = .ok text) (filled : strip text ≠ []) : Dsn postgres (strip text)
  | environment {dsnEnv dsn : Str} (absent : givenText postgres "dsn" = none)
      (noFile : givenText postgres "dsn_file" = none) (here : givenText postgres "dsn_env" = some dsnEnv)
      (set : process.environ dsnEnv = some dsn) (filled : dsn ≠ []) : Dsn postgres dsn

def PathAt (server : Items) (key : String) : Prop :=
  ∃ value path, givenText server key = some value ∧ library.expanduser value = .ok path

structure RunnableServer (server : Items) : Prop where
  ssh : ∃ address, Names library (textOf library server "listen_ssh" "0.0.0.0:22") address
  tunnel : ∃ address, Names library (textOf library server "listen_tunnel" "0.0.0.0:4444") address
  api : ∃ address, Names library (textOf library server "listen_api" "0.0.0.0:4443") address
  sshHostKey : PathAt library server "ssh_host_key_path"
  tlsCert : PathAt library server "tls_cert_path"
  tlsKey : PathAt library server "tls_key_path"
  enrollmentBundle : PathAt library server "enrollment_tls_ca_bundle_path"

/-- What a sound file needs besides to run. -/
structure Runnable : Prop where
  server : ∃ server, mappingOf raw "server" none = .ok server ∧ RunnableServer library server
  postgres : ∃ postgres dsn, mappingOf raw "postgres" none = .ok postgres ∧ Dsn library process postgres dsn
end Runnable

section Loading
variable {library : ConfigLibrary} {process : Process} {raw : Items}

theorem hostPort_ok {text : Str} {address : Str × Int} :
    hostPort library text = .ok address ↔ Names library text address := by
  obtain ⟨host, port⟩ := address
  unfold hostPort Names
  cases parted : rpartition 58 text with
  | none => simp
  | some parts =>
      obtain ⟨front, portText⟩ := parts
      dsimp only
      constructor
      · intro read
        split at read
        · cases read
        rename_i shaped
        split at read
        · cases read
        rename_i number found
        split at read
        · rename_i within
          cases read
          have digits : library.isdigit portText = true := by
            simpa using fun other => shaped (.inr other)
          exact ⟨portText, rfl, digits, found, fun empty => shaped (.inl empty), within.1, within.2⟩
        · cases read
      · rintro ⟨_, ⟨⟩, digits, found, listens⟩
        have shaped : ¬(host = [] ∨ library.isdigit portText = false) := by
          rintro (empty | other)
          · exact listens.host empty
          · rw [digits] at other
            cases other
        rw [if_neg shaped, found]
        exact if_pos ⟨listens.low, listens.high⟩

theorem givenText_filled {items : Items} {key : String} {value : Str}
    (given : givenText items key = some value) : value ≠ [] := by
  unfold givenText at given
  split at given
  · split at given
    · cases given
    · rename_i filled
      cases given
      exact filled
  · cases given

theorem runtimePath_ok {server : Items} {key : String} :
    (∃ path, runtimePath library server key = .ok path) ↔ PathAt library server key := by
  unfold runtimePath PathAt
  cases givenText server key <;> simp

theorem postgresDsn_ok {postgres : Items} {dsn : Str} :
    postgresDsn library process postgres = .ok dsn ↔ Dsn library process postgres dsn := by
  unfold postgresDsn
  cases given : givenText postgres "dsn" with
  | some text =>
      constructor
      · rintro ⟨⟩
        exact .given given
      · rintro (here | ⟨absent, -, -, -, -⟩ | ⟨absent, -, -, -, -⟩)
        · rw [given] at here
          cases here
          rfl
        all_goals
          rw [given] at absent
          cases absent
  | none =>
      cases fromFile : givenText postgres "dsn_file" with
      | some dsnFile =>
          constructor
          · intro read
            obtain ⟨path, place, read⟩ := bind_ok.mp read
            obtain ⟨text, content, read⟩ := bind_ok.mp read
            split at read
            · cases read
            · rename_i filled
              cases read
              exact .file given fromFile place content filled
          · rintro (here | ⟨-, here, place, content, filled⟩ | ⟨-, noFile, -, -, -⟩)
            · rw [given] at here
              cases here
            · rw [fromFile] at here
              cases here
              exact bind_ok.mpr ⟨_, place, bind_ok.mpr ⟨_, content, if_neg filled⟩⟩
            · rw [fromFile] at noFile
              cases noFile
      | none =>
          cases fromEnvironment : givenText postgres "dsn_env" with
          | some dsnEnv =>
              dsimp only [dsnFromEnvironment]
              constructor
              · intro read
                split at read
                · rename_i point rest set
                  cases read
                  exact .environment given fromFile fromEnvironment set (List.cons_ne_nil _ _)
                · cases read
              · rintro (here | ⟨-, here, -, -, -⟩ | ⟨-, -, here, set, filled⟩)
                · rw [given] at here
                  cases here
                · rw [fromFile] at here
                  cases here
                · rw [fromEnvironment] at here
                  cases here
                  rw [set]
                  cases dsn with
                  | nil => exact absurd rfl filled
                  | cons point rest => rfl
          | none =>
              constructor
              · rintro ⟨⟩
              · rintro (here | ⟨-, here, -, -, -⟩ | ⟨-, -, here, -, -⟩)
                · rw [given] at here
                  cases here
                · rw [fromFile] at here
                  cases here
                · rw [fromEnvironment] at here
                  cases here

/-- The connection string is never empty. -/
theorem Dsn.filled {postgres : Items} {dsn : Str} (found : Dsn library process postgres dsn) : dsn ≠ [] := by
  cases found with
  | given here => exact givenText_filled here
  | file absent here place read filled => exact filled
  | environment absent noFile here set filled => exact filled

theorem loadRuntimeSettings_ok {settings : ServerRuntimeSettings} :
    loadRuntimeSettings library process (.value (.mapping raw)) = .ok settings ↔
      ∃ server postgres metrics, mappingOf raw "server" none = .ok server ∧
        mappingOf raw "postgres" none = .ok postgres ∧ mappingOf raw "metrics" none = .ok metrics ∧
        Dsn library process postgres settings.postgresDsn ∧
        Names library (textOf library server "listen_ssh" "0.0.0.0:22") settings.sshListen ∧
        Names library (textOf library server "listen_tunnel" "0.0.0.0:4444") settings.tunnelListen ∧
        Names library (textOf library server "listen_api" "0.0.0.0:4443") settings.apiListen ∧
        Names library (textOf library metrics "listen" "127.0.0.1:9100") settings.metricsListen ∧
        textOf library server "tunnel_public_host" "localhost" = settings.tunnelPublicHost ∧
        runtimePath library server "ssh_host_key_path" = .ok settings.sshHostKeyPath ∧
        runtimePath library server "tls_cert_path" = .ok settings.tlsCertPath ∧
        runtimePath library server "tls_key_path" = .ok settings.tlsKeyPath ∧
        runtimePath library server "enrollment_tls_ca_bundle_path" =
          .ok settings.enrollmentTlsCaBundlePath := by
  simp only [loadRuntimeSettings, loadSimpleYaml, bind_ok, hostPort_ok, postgresDsn_ok]
  constructor
  · rintro ⟨_, ⟨⟩, server, inServer, postgres, inPostgres, _, dsn, _, ssh, _, tunnel, _, api, metrics,
      inMetrics, _, listen, _, hostKey, _, cert, _, key, _, bundle, ⟨⟩⟩
    exact ⟨server, postgres, metrics, inServer, inPostgres, inMetrics, dsn, ssh, tunnel, api, listen, rfl,
      hostKey, cert, key, bundle⟩
  · obtain ⟨_, _, _, _, _, _, _, _, _, _⟩ := settings
    rintro ⟨server, postgres, metrics, inServer, inPostgres, inMetrics, dsn, ssh, tunnel, api, listen, rfl,
      hostKey, cert, key, bundle⟩
    exact ⟨_, rfl, server, inServer, postgres, inPostgres, _, dsn, _, ssh, _, tunnel, _, api, metrics,
      inMetrics, _, listen, _, hostKey, _, cert, _, key, _, bundle, rfl⟩

/-- What the checks let through as the address of the metrics can be listened on. -/
theorem soundListen_names {text : Str} (sound : SoundListen library text) :
    ∃ address, Names library text address := by
  obtain ⟨host, portText, port, parted, named, digits, -, found, low, high⟩ := sound
  exact ⟨(host, port), portText, parted, digits, found, named, low, high⟩

/-- The address that the settings take from a text that passed the checks is on the loopback. -/
theorem soundListen_loopback {text : Str} {address : Str × Int} (sound : SoundListen library text)
    (names : Names library text address) : LoopbackQuad address.1 := by
  obtain ⟨host, portText, port, parted, -, -, loopback, -, -, -⟩ := sound
  obtain ⟨otherText, again, -, -, -⟩ := names
  rw [parted] at again
  cases again
  exact (loopback_iff library.ipv6 _).mp loopback

/-- The settings of a sound file are read if it is runnable too. -/
theorem loads_iff {files : FileSystem} (sound : Sound library files raw) :
    (∃ settings, loadRuntimeSettings library process (.value (.mapping raw)) = .ok settings) ↔
      Runnable library process raw := by
  constructor
  · rintro ⟨settings, read⟩
    obtain ⟨server, postgres, metrics, inServer, inPostgres, -, dsn, ssh, tunnel, api, -, -, hostKey, cert,
      key, bundle⟩ := loadRuntimeSettings_ok.mp read
    refine ⟨⟨server, inServer, ?_⟩, ⟨postgres, _, inPostgres, dsn⟩⟩
    exact ⟨⟨_, ssh⟩, ⟨_, tunnel⟩, ⟨_, api⟩, runtimePath_ok.mp ⟨_, hostKey⟩, runtimePath_ok.mp ⟨_, cert⟩,
      runtimePath_ok.mp ⟨_, key⟩, runtimePath_ok.mp ⟨_, bundle⟩⟩
  · rintro ⟨⟨server, inServer, needs⟩, ⟨postgres, dsn, inPostgres, found⟩⟩
    obtain ⟨metrics, inMetrics, listens⟩ := sound.metrics
    obtain ⟨listen, named⟩ := soundListen_names listens
    obtain ⟨ssh, atSsh⟩ := needs.ssh
    obtain ⟨tunnel, atTunnel⟩ := needs.tunnel
    obtain ⟨api, atApi⟩ := needs.api
    obtain ⟨hostKey, readHostKey⟩ := runtimePath_ok.mpr needs.sshHostKey
    obtain ⟨cert, readCert⟩ := runtimePath_ok.mpr needs.tlsCert
    obtain ⟨key, readKey⟩ := runtimePath_ok.mpr needs.tlsKey
    obtain ⟨bundle, readBundle⟩ := runtimePath_ok.mpr needs.enrollmentBundle
    let settings : ServerRuntimeSettings := ⟨dsn, ssh, tunnel, api, listen,
      textOf library server "tunnel_public_host" "localhost", hostKey, cert, key, bundle⟩
    refine ⟨settings, loadRuntimeSettings_ok.mpr ?_⟩
    exact ⟨server, postgres, metrics, inServer, inPostgres, inMetrics, found, atSsh, atTunnel, atApi, named,
      rfl, readHostKey, readCert, readKey, readBundle⟩

/-- The server comes to run on a file that is sound and runnable, and on no other. -/
theorem prepare_ok_iff {files : FileSystem} :
    (∃ prepared, prepare library process files (.value (.mapping raw)) (.value (.mapping raw)) =
      .ok prepared) ↔ Sound library files raw ∧ Runnable library process raw := by
  constructor
  · rintro ⟨prepared, ok⟩
    obtain ⟨config, started, more⟩ := bind_ok.mp ok
    obtain ⟨settings, read, -⟩ := bind_ok.mp more
    have sound := startup_ok_iff.mp ⟨config, started⟩
    exact ⟨sound, (loads_iff sound).mp ⟨settings, read⟩⟩
  · rintro ⟨sound, runnable⟩
    obtain ⟨config, started⟩ := startup_ok_iff.mpr sound
    obtain ⟨settings, read⟩ := (loads_iff sound).mpr runnable
    exact ⟨(config, settings), bind_ok.mpr ⟨config, started, bind_ok.mpr ⟨settings, read, rfl⟩⟩⟩
end Loading

/-! What a prepared server can rely on. -/

structure Prepared (config : ServerConfig) (settings : ServerRuntimeSettings) : Prop where
  frames : 0 < config.tunnel.frameMaxBytes
  nodePort : 1 ≤ config.tunnel.nodeSshPort ∧ config.tunnel.nodeSshPort ≤ 65535
  ssh : Listens settings.sshListen
  tunnel : Listens settings.tunnelListen
  api : Listens settings.apiListen
  metrics : Listens settings.metricsListen

section Prepared
variable {library : ConfigLibrary} {process : Process} {files : FileSystem} {first second : Loaded Exc}
  {config : ServerConfig} {settings : ServerRuntimeSettings}

theorem loaded_mapping {raw : Items} {loaded : Loaded Exc} (read : loadSimpleYaml loaded = .ok raw) :
    loaded = .value (.mapping raw) := by
  unfold loadSimpleYaml at read
  split at read
  all_goals cases read
  rfl

theorem prepare_ok (prepared : prepare library process files first second = .ok (config, settings)) :
    startup library files first = .ok config ∧ loadRuntimeSettings library process second = .ok settings := by
  obtain ⟨_, started, more⟩ := bind_ok.mp prepared
  obtain ⟨_, read, same⟩ := bind_ok.mp more
  cases same
  exact ⟨started, read⟩

theorem startup_ok (started : startup library files first = .ok config) :
    ∃ raw, first = .value (.mapping raw) ∧ configOf library raw = .ok config ∧
      validateServerConfig library files config = .ok () := by
  obtain ⟨_, loaded, more⟩ := bind_ok.mp started
  obtain ⟨_, checked, same⟩ := bind_ok.mp more
  cases same
  obtain ⟨raw, read, loaded⟩ := bind_ok.mp loaded
  exact ⟨raw, loaded_mapping read, loaded, checked⟩

theorem settings_listen (read : loadRuntimeSettings library process second = .ok settings) :
    Listens settings.sshListen ∧ Listens settings.tunnelListen ∧ Listens settings.apiListen ∧
      Listens settings.metricsListen := by
  obtain ⟨raw, whole, -⟩ := bind_ok.mp read
  rw [loaded_mapping whole] at read
  obtain ⟨_, _, _, -, -, -, -, ⟨_, -, -, -, ssh⟩, ⟨_, -, -, -, tunnel⟩, ⟨_, -, -, -, api⟩,
    ⟨_, -, -, -, metrics⟩, -⟩ := loadRuntimeSettings_ok.mp read
  exact ⟨ssh, tunnel, api, metrics⟩

theorem prepare_prepared (ok : prepare library process files first second = .ok (config, settings)) :
    Prepared config settings := by
  obtain ⟨started, read⟩ := prepare_ok ok
  obtain ⟨raw, -, -, checked⟩ := startup_ok started
  obtain ⟨-, -, -, -, -, -, -, -, -, -, bounds, -, -⟩ := validateServerConfig_ok.mp checked
  obtain ⟨-, -, frames, nodePort⟩ := validateTunnelBounds_ok.mp bounds
  obtain ⟨ssh, tunnel, api, metrics⟩ := settings_listen read
  exact ⟨by omega, nodePort, ssh, tunnel, api, metrics⟩

/-- If the file does not change between the two readings, the metrics are on the loopback. -/
theorem prepare_loopback (ok : prepare library process files first second = .ok (config, settings))
    (unchanged : second = first) : LoopbackQuad settings.metricsListen.1 := by
  obtain ⟨started, read⟩ := prepare_ok ok
  obtain ⟨raw, rfl, loaded, checked⟩ := startup_ok started
  subst unchanged
  obtain ⟨_, _, metrics, -, -, inMetrics, -, -, -, -, named, -⟩ := loadRuntimeSettings_ok.mp read
  obtain ⟨checkedMetrics, again, sound⟩ := (sound_of_checked loaded checked).metrics
  rw [inMetrics] at again
  cases again
  exact soundListen_loopback sound named
end Prepared

end VibeConnect.RuntimeSettings
