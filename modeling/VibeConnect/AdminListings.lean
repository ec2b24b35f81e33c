import VibeConnect.Python.JsonDumps
import VibeConnect.AuthorizedKeys

/-! The listings of the administrator: rows of `agents` and `sessions`, printed as one JSON document a line.
A host name is what the agent says it is, and a user name what the user says; neither may forge a line. -/
namespace VibeConnect.AdminListings
open Python.Text Python.JsonCodec Python.Values Models
open Authorization (LabelColumn strOf)

/-- A timestamp column as the driver gives it. -/
inductive TimeColumn where
  | null
  | time (value : DateTime)
  | other

/-- `_optional_datetime`. -/
def optionalDatetime : TimeColumn → Except Exc (Option DateTime)
  | .null => .ok none
  | .time value => .ok (some value.asUtc)
  | .other => .error (.adminError "timestamp value must be datetime")

/-- The last `count` decimal digits of a number. -/
def decimals (value : Nat) : Nat → Str
  | 0 => []
  | count + 1 => decimals (value / 10) count ++ [point (48 + value % 10)]

/-- Year, month and day of a day counted from 1970-01-01. The years are counted from March 1, so that the
day of a leap year is the last of them. -/
def civil (days : Int) : Int × Int × Int :=
  let shifted := days + 719468
  let era := shifted / 146097
  let dayOfEra := shifted % 146097
  let yearOfEra := (dayOfEra - dayOfEra / 1460 + dayOfEra / 36524 - dayOfEra / 146096) / 365
  let dayOfYear := dayOfEra - (365 * yearOfEra + yearOfEra / 4 - yearOfEra / 100)
  let shiftedMonth := (5 * dayOfYear + 2) / 153
  let month := if shiftedMonth < 10 then shiftedMonth + 3 else shiftedMonth - 9
  (yearOfEra + era * 400 + (if month ≤ 2 then 1 else 0), month,
    dayOfYear - (153 * shiftedMonth + 2) / 5 + 1)

/-- `isoformat` of a value in UTC, counted from 1970-01-01. -/
def isoformatUtc (value : DateTime) : Str :=
  let seconds := value.instant / 1000000
  let micros := value.instant % 1000000
  let (year, month, day) := civil (seconds / 86400)
  let clock := seconds % 86400
  decimals year.toNat 4 ++ lit "-" ++ decimals month.toNat 2 ++ lit "-" ++ decimals day.toNat 2 ++ lit "T" ++
    decimals (clock / 3600).toNat 2 ++ lit ":" ++ decimals (clock / 60 % 60).toNat 2 ++ lit ":" ++
    decimals (clock % 60).toNat 2 ++ (if micros = 0 then [] else lit "." ++ decimals micros.toNat 6) ++
    lit "+00:00"

example : isoformatUtc ⟨1709208000250000, some 0⟩ = lit "2024-02-29T12:00:00.250000+00:00" := by decide

/-- `_format_datetime`. -/
def formatDatetime : Option DateTime → Json
  | none => .null
  | some value => .str (isoformatUtc value.asUtc)

def optionalText : Option Str → Json
  | none => .null
  | some text => .str text

/-! Agents. -/

structure AgentRow where
  nodeName : Str
  hostname : Option Str
  labels : LabelColumn
  enrolledAt : TimeColumn
  lastSeen : TimeColumn
  revoked : Bool

structure AgentSummary where
  nodeName : Str
  hostname : Option Str
  labels : List Str
  enrolledAt : Option DateTime
  lastSeen : Option DateTime
  revoked : Bool

section Agents
variable (str : Json → Str)

/-- `_labels`. -/
def labels : LabelColumn → Except Exc (List Str)
  | .text json => match readDocument json with
      | .ok (.array items) => .ok (items.map (strOf str))
      | .ok _ => .error (.adminError "agent labels must be an array")
      | .error fault => .error (.ofJson fault)
  | .sequence items => .ok (items.map (strOf str))
  | .other => .error (.adminError "agent labels must be an array")

/-- `_agent_summary`. -/
def agentSummary (row : AgentRow) : Except Exc AgentSummary := do
  let labels ← labels str row.labels
  let enrolledAt ← optionalDatetime row.enrolledAt
  let lastSeen ← optionalDatetime row.lastSeen
  .ok ⟨row.nodeName, row.hostname, labels, enrolledAt, lastSeen, row.revoked⟩

/-- `list_agents`, on the rows that the statement fetches. -/
def listAgents (fetched : List AgentRow) : Except Exc (List AgentSummary) :=
  fetched.mapM (agentSummary str)

def agentFields (agent : AgentSummary) : List (Str × Json) :=
  [(lit "node_name", .str agent.nodeName), (lit "hostname", optionalText agent.hostname),
    (lit "labels", .array (agent.labels.map .str)), (lit "enrolled_at", formatDatetime agent.enrolledAt),
    (lit "last_seen", formatDatetime agent.lastSeen), (lit "revoked", .bool agent.revoked)]

def renderAgents (agents : List AgentSummary) : Str :=
  joined 0x0A (agents.map fun agent => dumps (.object (agentFields agent)))

/-- The command `list-agents`. -/
def agentListing (fetched : List AgentRow) : Except Exc Str := do
  let agents ← listAgents str fetched
  .ok (renderAgents agents)
end Agents

/-! Sessions. -/

/-- A row of the join. Its first column is none where it is no UUID. -/
structure SessionRow where
  id : Option Uuid
  nodeName : Str
  userName : Str
  startedAt : TimeColumn
  endedAt : TimeColumn
  status : Str

structure SessionSummary where
  sessionId : Uuid
  nodeName : Str
  userName : Str
  startedAt : DateTime
  endedAt : Option DateTime
  status : Str

/-- `_session_summary`. -/
def sessionSummary (row : SessionRow) : Except Exc SessionSummary :=
  match row.id with
  | none => .error (.adminError "session ID must be a UUID")
  | some sessionId => do
      let started ← optionalDatetime row.startedAt
      match started with
      | none => .error (.adminError "session started_at is required")
      | some startedAt => do
          let endedAt ← optionalDatetime row.endedAt
          .ok ⟨sessionId, row.nodeName, row.userName, startedAt, endedAt, row.status⟩

def listSessions (fetched : List SessionRow) : Except Exc (List SessionSummary) :=
  fetched.mapM sessionSummary

def sessionFields (session : SessionSummary) : List (Str × Json) :=
  [(lit "session_id", .str session.sessionId.text), (lit "node_name", .str session.nodeName),
    (lit "user_name", .str session.userName), (lit "started_at", formatDatetime (some session.startedAt)),
    (lit "ended_at", formatDatetime session.endedAt), (lit "status", .str session.status)]

def renderSessions (sessions : List SessionSummary) : Str :=
  joined 0x0A (sessions.map fun session => dumps (.object (sessionFields session)))

/-- The command `list-sessions`. -/
def sessionListing (fetched : List SessionRow) : Except Exc Str := do
  let sessions ← listSessions fetched
  .ok (renderSessions sessions)

/-! The tables under `list_sessions`. -/

structure StoredAgent where
  id : Uuid
  nodeName : Str

structure StoredSession where
  id : Uuid
  agentId : Uuid
  userName : Str
  startedAt : DateTime
  endedAt : Option DateTime
  status : Str

def timeColumn : Option DateTime → TimeColumn
  | none => .null
  | some value => .time value

def rowOf (pair : StoredSession × StoredAgent) : SessionRow :=
  ⟨some pair.1.id, pair.2.nodeName, pair.1.userName, .time pair.1.startedAt, timeColumn pair.1.endedAt,
    pair.1.status⟩

/-- A session with its agent, of the asked node and the asked user. -/
def asked (nodeName userName : Option Str) (pair : StoredSession × StoredAgent) : Bool :=
  decide (pair.2.id = pair.1.agentId) && nodeName.all (· == pair.2.nodeName) &&
    userName.all (· == pair.1.userName)

def later (one two : StoredSession × StoredAgent) : Prop := two.1.startedAt.instant ≤ one.1.startedAt.instant

/-- The database answers with the pairs that were asked for, the latest first; sessions that started at the
same time come in any order. -/
structure Selects (sessions : List StoredSession) (agents : List StoredAgent)
    (nodeName userName : Option Str) (pairs : List (StoredSession × StoredAgent)) : Prop where
  whole : pairs.Perm ((sessions.product agents).filter (asked nodeName userName))
  ordered : pairs.Pairwise later

def summaryOf (pair : StoredSession × StoredAgent) : SessionSummary :=
  ⟨pair.1.id, pair.2.nodeName, pair.1.userName, pair.1.startedAt.asUtc, pair.1.endedAt.map DateTime.asUtc,
    pair.1.status⟩

/-! What a reader makes of a listing. -/

def linesOf (text : Str) : List Str := if text = [] then [] else text.splitOn 0x0A

/-- The lines are the objects, one each and in order. The database has no surrogates, and of other strings
`back` changes nothing. -/
def Shows (text : Str) (objects : List (List (Str × Json))) : Prop :=
  List.Forall₂ (fun line fields => ∃ parsed, readDocument line = .ok (.object parsed) ∧
    ∀ key, lookup key parsed = (lookup key fields).map Json.back) (linesOf text) objects

/-- All rows are shown, or none where one of them cannot be. -/
structure ListsAgents (str : Json → Str) (fetched : List AgentRow) (outcome : Except Exc Str) : Prop where
  shown : ∀ text, outcome = .ok text → ∃ agents,
    List.Forall₂ (fun row agent => agentSummary str row = .ok agent) fetched agents ∧
      Shows text (agents.map agentFields)
  refused : ∀ fault, outcome = .error fault → ∃ row ∈ fetched, agentSummary str row = .error fault

/-- The sessions that were asked for are shown, each as often as the join has it and the latest first. -/
def ListsSessions (sessions : List StoredSession) (agents : List StoredAgent)
    (nodeName userName : Option Str) (outcome : Except Exc Str) : Prop :=
  ∃ (text : Str) (shown : List SessionSummary), outcome = .ok text ∧ Shows text (shown.map sessionFields) ∧
    shown.Perm (((sessions.product agents).filter (asked nodeName userName)).map summaryOf) ∧
    shown.Pairwise fun one two => two.startedAt.instant ≤ one.startedAt.instant

/-! Proofs. -/

theorem mapM_fault {α β : Type} {check : α → Except Exc β} {items : List α} {fault : Exc}
    (failed : items.mapM check = .error fault) : ∃ item ∈ items, check item = .error fault := by
  induction items with
  | nil => cases failed
  | cons item rest ih =>
      rw [List.mapM_cons] at failed
      cases first : check item with
      | error raised =>
          simp only [first, bind, Except.bind, Except.error.injEq] at failed
          exact ⟨item, List.mem_cons_self, failed ▸ first⟩
      | ok value =>
          cases others : rest.mapM check with
          | error raised =>
              simp only [first, others, bind, Except.bind, Except.error.injEq] at failed
              obtain ⟨row, there, same⟩ := ih (failed ▸ others)
              exact ⟨row, List.mem_cons_of_mem item there, same⟩
          | ok remaining => simp [first, others, bind, Except.bind, pure, Except.pure] at failed

theorem printable_texts (texts : List Str) : PrintableItems (texts.map .str) := by
  induction texts with
  | nil => trivial
  | cons text rest ih => exact ⟨trivial, ih⟩

theorem printable_time (value : Option DateTime) : Printable (formatDatetime value) := by
  cases value <;> trivial

theorem printable_text (text : Option Str) : Printable (optionalText text) := by
  cases text <;> trivial

theorem printable_fields {fields : List (Str × Json)} (distinct : (fields.map Prod.fst).Nodup)
    (ascii : ∀ field ∈ fields, Ascii field.1) (values : ∀ field ∈ fields, Printable field.2) :
    Printable (.object fields) := by
  refine ⟨distinct, ?_⟩
  induction fields with
  | nil => trivial
  | cons field rest ih =>
      have later := ih (List.nodup_cons.mp distinct).2
        (fun other member => ascii other (List.mem_cons_of_mem field member))
        (fun other member => values other (List.mem_cons_of_mem field member))
      exact ⟨⟨(ascii field List.mem_cons_self).scalarText, values field List.mem_cons_self⟩, later⟩

theorem printable_agent (agent : AgentSummary) : Printable (.object (agentFields agent)) := by
  apply printable_fields
  · simp only [agentFields, List.map_cons, List.map_nil]
    decide
  · simp only [agentFields, List.forall_mem_cons]
    exact ⟨lit_ascii (by decide), lit_ascii (by decide), lit_ascii (by decide), lit_ascii (by decide),
      lit_ascii (by decide), lit_ascii (by decide), nofun⟩
  · simp only [agentFields, List.forall_mem_cons]
    exact ⟨trivial, printable_text _, printable_texts _, printable_time _, printable_time _, trivial, nofun⟩

theorem printable_session (session : SessionSummary) : Printable (.object (sessionFields session)) := by
  apply printable_fields
  · simp only [sessionFields, List.map_cons, List.map_nil]
    decide
  · simp only [sessionFields, List.forall_mem_cons]
    exact ⟨lit_ascii (by decide), lit_ascii (by decide), lit_ascii (by decide), lit_ascii (by decide),
      lit_ascii (by decide), lit_ascii (by decide), nofun⟩
  · simp only [sessionFields, List.forall_mem_cons]
    exact ⟨trivial, trivial, trivial, printable_time _, printable_time _, trivial, nofun⟩

/-- Objects printed line by line are read back line by line, whatever their strings hold. -/
theorem shows_objects {objects : List (List (Str × Json))}
    (printable : ∀ fields ∈ objects, Printable (.object fields)) :
    Shows (joined 0x0A (objects.map fun fields => dumps (.object fields))) objects := by
  have lines : linesOf (joined 0x0A (objects.map fun fields => dumps (.object fields))) =
      objects.map fun fields => dumps (.object fields) := by
    cases objects with
    | nil => rfl
    | cons fields rest =>
        have all : ∀ value ∈ (fields :: rest).map Json.object, Printable value := by
          intro value member
          obtain ⟨object, there, rfl⟩ := List.mem_map.mp member
          exact printable object there
        have split := lines_dumps all (by simp)
        rw [List.map_map] at split
        rw [linesOf, if_neg ?_]
        · exact split
        · intro empty
          rw [show joined 0x0A (((fields :: rest).map (dumps ∘ Json.object))) = [] from empty] at split
          obtain ⟨first, tail, text, -⟩ := (readsBack_dumps _ (all _ List.mem_cons_self)).visible
          simp [text] at split
  rw [Shows, lines, List.forall₂_map_left_iff, List.forall₂_same]
  intro fields member
  exact readDocument_object (printable fields member)

theorem sessionSummary_row (pair : StoredSession × StoredAgent) :
    sessionSummary (rowOf pair) = .ok (summaryOf pair) := by
  obtain ⟨⟨id, agentId, userName, startedAt, endedAt, status⟩, agent⟩ := pair
  cases endedAt <;> rfl

theorem listSessions_rows (pairs : List (StoredSession × StoredAgent)) :
    listSessions (pairs.map rowOf) = .ok (pairs.map summaryOf) := by
  rw [listSessions]
  induction pairs with
  | nil => rfl
  | cons pair rest ih =>
      rw [List.map_cons, List.mapM_cons, sessionSummary_row]
      simp only [bind, Except.bind, ih]
      rfl

theorem agentListing_lists (str : Json → Str) (fetched : List AgentRow) :
    ListsAgents str fetched (agentListing str fetched) := by
  cases listed : listAgents str fetched with
  | ok agents =>
      have outcome : agentListing str fetched = .ok (renderAgents agents) := by
        rw [agentListing, listed]
        rfl
      rw [outcome]
      constructor
      · rintro text ⟨⟩
        have shown := @shows_objects (agents.map agentFields) (by
          intro fields member
          obtain ⟨agent, -, rfl⟩ := List.mem_map.mp member
          exact printable_agent agent)
        rw [List.map_map] at shown
        exact ⟨agents, AuthorizedKeys.mapM_ok listed, shown⟩
      · exact nofun
  | error fault =>
      have outcome : agentListing str fetched = .error fault := by
        rw [agentListing, listed]
        rfl
      rw [outcome]
      constructor
      · exact nofun
      · rintro raised ⟨⟩
        exact mapM_fault listed

def forgingRow : AgentRow where
  nodeName := lit "node-01"
  hostname := some (lit "host\n\x7b\"node_name\": \"node-02\"\x7d")
  labels := .text (lit "[\"env:prod\"]")
  enrolledAt := .time ⟨0, some 0⟩
  lastSeen := .null
  revoked := false

end VibeConnect.AdminListings
