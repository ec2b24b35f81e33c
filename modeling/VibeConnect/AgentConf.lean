import VibeConnect.Python.ConfigParser

/-! `agent.conf`: what `load_agent_config` accepts, and what the enrollment writes back.
The filter on the front of a line stands in for the grammar of the file. -/
namespace VibeConnect.AgentConf
open Python Python.Text Python.ConfigParser

/-- What the loader calls: `str.lower`, `Path.expanduser`, `Path.exists`, `urlparse` with its
host and its port, and `int`. Where a `ValueError` can be raised, `none` is that error. -/
structure Runtime where
  lower : Str → Str
  expanduser : Str → Str
  pathExists : Str → Bool
  urlparse : Str → Option (Option Str × Option (Option Nat))
  int : Str → Option Int

inductive ConfigFault where
  | parser (fault : Fault)
  | config (message : Str)
  | value
  deriving DecidableEq

structure AgentConfig where
  identityPath : Str
  enrollmentToken : Option Str
  enrollmentCompleted : Bool
  enrollmentTlsCaBundle : Str
  tunnelTlsCaBundle : Str
  proxyTargetHost : Str
  proxyTargetPort : Nat
  heartbeatSeconds : Int
  reconnectBackoffMaxSeconds : Int
  maxReconnectAttempts : Int
  deriving DecidableEq

section
variable (runtime : Runtime)

/-- `parser[header].get(key)`, or the `get` of an empty mapping. -/
def configValue (parsed : Parsed) (header key : Str) : Option Str :=
  if header ∈ parsed.headers then parsed.value header (runtime.lower key) else none

def requireConfigValue (parsed : Parsed) (header key displayName : Str) :
    Except ConfigFault Str :=
  match configValue runtime parsed header key with
  | some (point :: rest) => .ok (point :: rest)
  | _ => .error (.config (displayName ++ lit " is required"))

def parseHostPort (value : Str) : Except ConfigFault (Str × Nat) :=
  match runtime.urlparse (lit "//" ++ value) with
  | none => .error .value
  | some (some (point :: rest), some (some port)) => .ok (point :: rest, port)
  | some (some (_ :: _), none) => .error .value
  | some _ => .error (.config (lit "host:port value is required"))

def configInt (parsed : Parsed) (header key fallback : Str) : Except ConfigFault Int :=
  match runtime.int ((configValue runtime parsed header key).getD fallback) with
  | some value => .ok value
  | none => .error .value

/-- The reading of the file. -/
def readConf (text : Str) : Except Fault Parsed :=
  parse runtime.lower (fileLines (universalNewlines text))

def agentConfig (parsed : Parsed) : Except ConfigFault AgentConfig := do
  let target ← requireConfigValue runtime parsed (lit "proxy") (lit "target") (lit "proxy.target")
  let (host, port) ← parseHostPort runtime target
  let token := configValue runtime parsed (lit "enrollment") (lit "token")
  let identityPath := runtime.expanduser
    ((configValue runtime parsed (lit "identity") (lit "path")).getD
      (lit "/var/lib/vibeconnect/identity.json"))
  let enrollmentBundle ← requireConfigValue runtime parsed (lit "enrollment")
    (lit "tls_ca_bundle") (lit "enrollment.tls_ca_bundle")
  let tunnelBundle ← requireConfigValue runtime parsed (lit "tunnel")
    (lit "tls_ca_bundle") (lit "tunnel.tls_ca_bundle")
  let heartbeat ← configInt runtime parsed (lit "tunnel") (lit "heartbeat_seconds") (lit "30")
  let backoff ← configInt runtime parsed (lit "tunnel") (lit "reconnect_backoff_max_seconds")
    (lit "300")
  let attempts ← configInt runtime parsed (lit "tunnel") (lit "max_reconnect_attempts") (lit "0")
  pure ⟨identityPath, token, runtime.pathExists identityPath, runtime.expanduser enrollmentBundle,
    runtime.expanduser tunnelBundle, host, port, heartbeat, backoff, attempts⟩

def loadAgentConfig (text : Str) : Except ConfigFault AgentConfig :=
  match readConf runtime text with
  | .error fault => .error (.parser fault)
  | .ok parsed => agentConfig runtime parsed

/-- `line.strip().lower().startswith("token")`. -/
def startsWithToken (line : Str) : Bool :=
  (lit "token").isPrefixOf (runtime.lower (strip line))

def rewrittenLines (text : Str) : List Str :=
  (splitlines text).filter fun line => !startsWithToken runtime line

/-- `none` is the `AgentEnrollmentError`. -/
def rewriteAgentConfWithoutToken (text : Str) : Option Str :=
  let rewritten := rewrittenLines runtime text
  if rewritten.length = (splitlines text).length then none
  else some (joinNewline rewritten ++ [newline])

/-- `enrollment.token` as the parser names it. -/
def tokenKey : Str × Str := (lit "enrollment", lit "token")

/-- The file after the rewriting has the sections and the options of the file before, but
for the token, and no value of it has the token in it. -/
def TokenRemoved (text rewritten token : Str) : Prop :=
  ∃ before after, readConf runtime text = .ok before ∧ readConf runtime rewritten = .ok after ∧
    after.headers = before.headers ∧
    (∀ key, key ≠ tokenKey → after.own key = before.own key) ∧
    after.value (lit "enrollment") (lit "token") = none ∧
    ∀ key value, after.own key = some value → ¬ token <:+: value

/-- `str.lower` on names that it takes to `token`. -/
structure LowersToken : Prop where
  token : runtime.lower (lit "token") = lit "token"
  front : ∀ name rest, runtime.lower name = lit "token" →
    lit "token" <+: runtime.lower (name ++ rest)

/-- The pieces of the text read as its lines do, the filter drops the lines that are read into
the token and no other, and the token is not in another value. -/
structure TokenLinesOnly (text token : Str) : Prop where
  whole : parse runtime.lower (splitlines text) = readConf runtime text
  agrees : ∀ line ∈ owners runtime.lower .fresh (splitlines text),
    startsWithToken runtime line.1 = true ↔ line.2 = some tokenKey
  apart : ∀ parsed, readConf runtime text = .ok parsed →
    ∀ key value, key ≠ tokenKey → parsed.own key = some value → ¬ token <:+: value
end

section
variable {runtime : Runtime} {text rewritten token : Str}

/-- The rewritten file is read line by line as it was put together. -/
theorem readConf_rewritten (written : rewriteAgentConfWithoutToken runtime text = some rewritten) :
    readConf runtime rewritten = parse runtime.lower (rewrittenLines runtime text) := by
  have unbroken : ∀ line ∈ rewrittenLines runtime text, ∀ point ∈ line, isLineBreak point = false :=
    fun line member => pieces_unbroken _ line (List.mem_filter.mp member).1
  simp only [rewriteAgentConfWithoutToken] at written
  split at written <;> cases written
  have plain : universalNewlines (joinNewline (rewrittenLines runtime text) ++ [newline]) =
      joinNewline (rewrittenLines runtime text) ++ [newline] := by
    apply universalNewlines_plain
    intro point within
    rcases List.mem_append.mp within with joined | last
    · rcases mem_joinNewline _ point joined with rfl | ⟨line, member, inside⟩
      · decide
      · exact (newline_breaks point (unbroken line member point inside)).2
    · rw [List.mem_singleton.mp last]
      decide
  rw [readConf, plain]
  cases kept : rewrittenLines runtime text with
  | nil => rfl
  | cons piece rest =>
      rw [kept] at unbroken
      rw [fileLines_join piece rest unbroken]

/-- Where the filter drops what is read into the token, it leaves what is not. -/
theorem rewrittenLines_unowned {before : Parsed} (lines : TokenLinesOnly runtime text token)
    (read : readConf runtime text = .ok before) :
    rewrittenLines runtime text = unowned runtime.lower tokenKey (splitlines text) := by
  have whole := parse_lines (lines.whole.trans read)
  have kept : ∀ line ∈ owners runtime.lower .fresh (splitlines text),
      (!startsWithToken runtime line.1) = (line.2 != some tokenKey) := by
    intro line member
    have same := lines.agrees line member
    by_cases owned : line.2 = some tokenKey
    · simp [owned, same.mpr owned]
    · have other : startsWithToken runtime line.1 = false := by
        by_contra starts
        exact owned (same.mp (by simpa using starts))
      simp [owned, other]
  unfold rewrittenLines unowned
  conv => lhs; rw [← whole]
  rw [List.filter_map]
  exact congrArg _ (List.filter_congr kept)

theorem names_token (lowers : LowersToken runtime) {line : Str}
    (names : Names runtime.lower line (lit "token")) : startsWithToken runtime line = true := by
  obtain ⟨name, rest, same, lowered⟩ := names
  rw [startsWithToken, same, List.isPrefixOf_iff_prefix]
  exact lowers.front name rest lowered

theorem loaded_read {config : AgentConfig} (accepted : loadAgentConfig runtime text = .ok config) :
    ∃ before, readConf runtime text = .ok before := by
  unfold loadAgentConfig at accepted
  cases read : readConf runtime text with
  | error fault => rw [read] at accepted; cases accepted
  | ok before => exact ⟨before, rfl⟩
end

/-! Two files. -/
def lowerAscii (text : Str) : Str :=
  text.map fun point => if 65 ≤ point.val ∧ point.val ≤ 90 then point + 32 else point

/-- An interpreter that meets only the texts of the files below. -/
def plainRuntime : Runtime where
  lower := lowerAscii
  expanduser := id
  pathExists := fun _ => false
  urlparse := fun value =>
    if value = lit "//127.0.0.1:2222" then some (some (lit "127.0.0.1"), some (some 2222)) else none
  int := fun value =>
    if value = lit "30" then some 30
    else if value = lit "300" then some 300
    else if value = lit "0" then some 0
    else none

theorem plainRuntime_lowers : LowersToken plainRuntime where
  token := by decide +kernel
  front := by
    intro name rest same
    change lit "token" <+: lowerAscii (name ++ rest)
    rw [lowerAscii, List.map_append]
    change lowerAscii name = _ at same
    rw [lowerAscii] at same
    rw [same]
    exact List.prefix_append _ _

def servedConf : Str :=
  lit "[enrollment]\ntls_ca_bundle = /ca\ntoken = abc\n[tunnel]\n" ++
    lit "tls_ca_bundle = /t\n[proxy]\ntarget = 127.0.0.1:2222\n"

def rewrittenConf : Str :=
  lit "[enrollment]\ntls_ca_bundle = /ca\n[tunnel]\ntls_ca_bundle = /t\n" ++
    lit "[proxy]\ntarget = 127.0.0.1:2222\n"

/-- The token on the line after its name. -/
def continuedConf : Str :=
  lit "[enrollment]\ntls_ca_bundle = /ca\ntoken =\n  abc\n[tunnel]\n" ++
    lit "tls_ca_bundle = /t\n[proxy]\ntarget = 127.0.0.1:2222\n"

def servedParsed : Parsed where
  headers := [lit "enrollment", lit "tunnel", lit "proxy"]
  values := [((lit "proxy", lit "target"), lit "127.0.0.1:2222"),
    ((lit "tunnel", lit "tls_ca_bundle"), lit "/t"), (tokenKey, lit "abc"),
    ((lit "enrollment", lit "tls_ca_bundle"), lit "/ca")]

def servedConfig : AgentConfig :=
  ⟨lit "/var/lib/vibeconnect/identity.json", some (lit "abc"), false, lit "/ca", lit "/t",
    lit "127.0.0.1", 2222, 30, 300, 0⟩

theorem servedConf_read : readConf plainRuntime servedConf = .ok servedParsed ∧
    loadAgentConfig plainRuntime servedConf = .ok servedConfig ∧
    parse plainRuntime.lower (splitlines servedConf) = .ok servedParsed ∧
    rewriteAgentConfWithoutToken plainRuntime servedConf = some rewrittenConf := by
  decide +kernel

theorem lookup_mem {parsed : Parsed} {key : Str × Str} {value : Str}
    (held : parsed.own key = some value) : (key, value) ∈ parsed.values := by
  obtain ⟨one, two, split, -⟩ := List.lookup_eq_some_iff.mp held
  rw [split]
  simp

theorem servedConf_lines : TokenLinesOnly plainRuntime servedConf (lit "abc") where
  whole := servedConf_read.2.2.1.trans servedConf_read.1.symm
  agrees := by
    have all : ((owners plainRuntime.lower .fresh (splitlines servedConf)).all fun line =>
        startsWithToken plainRuntime line.1 == decide (line.2 = some tokenKey)) = true := by
      decide +kernel
    intro line member
    have same := beq_iff_eq.mp (List.all_eq_true.mp all line member)
    rw [same, decide_eq_true_iff]
  apart := by
    intro parsed read key value other held
    obtain rfl := Except.ok.inj (servedConf_read.1.symm.trans read)
    have all : (servedParsed.values.all fun pair =>
        decide (pair.1 ≠ tokenKey → ¬ lit "abc" <:+: pair.2)) = true := by
      decide +kernel
    exact of_decide_eq_true (List.all_eq_true.mp all (key, value) (lookup_mem held)) other

def keptConf : Str :=
  lit "[enrollment]\ntls_ca_bundle = /ca\n  abc\n[tunnel]\n" ++
    lit "tls_ca_bundle = /t\n[proxy]\ntarget = 127.0.0.1:2222\n"

def keptParsed : Parsed where
  headers := [lit "enrollment", lit "tunnel", lit "proxy"]
  values := [((lit "proxy", lit "target"), lit "127.0.0.1:2222"),
    ((lit "tunnel", lit "tls_ca_bundle"), lit "/t"),
    ((lit "enrollment", lit "tls_ca_bundle"), lit "/ca" ++ newline :: lit "abc")]

end VibeConnect.AgentConf
