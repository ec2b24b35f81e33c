import Mathlib.Data.List.Infix
import VibeConnect.Models
import VibeConnect.Python.Coroutine
import VibeConnect.Python.Values

/-! Audit metadata without its secrets, and the writer that scrubs, measures and
inserts it. `str.lower` is a parameter, since nothing here depends on how it
folds the letters of a key. -/
namespace VibeConnect.AuditWriter
open Python.Text Python.JsonCodec Python.Values Python.Coroutine Models

def SECRET_REDACTION : Str := lit "[REDACTED]"
def AUDIT_METADATA_MAX_BYTES : Nat := 16 * 1024

def SECRET_KEY_FRAGMENTS : List Str :=
  [lit "token", lit "secret", lit "password", lit "private_key", lit "bearer", lit "authorization",
    lit "replay_payload", lit "provider_response", lit "dsn"]

/-- What is not a container. -/
inductive MetadataScalar where
  | none
  | bool (value : Bool)
  | int (value : Int)
  | float (lexeme : Str)
  | str (value : Str)
  deriving DecidableEq

/-- The key of a mapping: a `SecretValue`, or anything else by its `str`. -/
inductive MetadataKey where
  | named (text : Str)
  | secret (content : Str)

inductive MetadataValue where
  | scalar (value : MetadataScalar)
  | secret (content : Str)
  | sequence (items : List MetadataValue)
  | mapping (fields : List (MetadataKey × MetadataValue))

/-- `str(key)`. -/
def MetadataKey.text : MetadataKey → Str
  | named text => text
  | secret _ => SECRET_REDACTION

/-- `self[key] = value` of a `dict`. -/
def setField {α : Type} (key : Str) (value : α) : List (Str × α) → List (Str × α)
  | [] => [(key, value)]
  | field :: rest =>
      if field.1 = key then (key, value) :: rest else field :: setField key value rest

section Scrubbing
variable (lower : Str → Str)

/-- `key.replace("-", "_")`, of the lowered key. -/
def normalized (key : Str) : Str := (lower key).map fun code => if code = 0x2D then 0x5F else code

/-- `text.replace("_", "")`. -/
def compact (text : Str) : Str := text.filter fun code => code ≠ 0x5F

/-- `_is_secret_key`. -/
def isSecretKey (key : Str) : Bool :=
  SECRET_KEY_FRAGMENTS.any fun fragment =>
    decide (fragment <:+: normalized lower key) ||
      decide (compact fragment <:+: compact (normalized lower key))

mutual
def scrubSecretMetadata : MetadataValue → MetadataValue
  | .scalar value => .scalar value
  | .secret _ => .scalar (.str SECRET_REDACTION)
  | .sequence items => .sequence (scrubItems items)
  | .mapping fields =>
      .mapping ((scrubFields fields []).map fun field => (.named field.1, field.2))

def scrubItems : List MetadataValue → List MetadataValue
  | [] => []
  | item :: rest => scrubSecretMetadata item :: scrubItems rest

/-- The loop over a mapping, with the `dict` that it fills. -/
def scrubFields : List (MetadataKey × MetadataValue) → List (Str × MetadataValue) →
    List (Str × MetadataValue)
  | [], redacted => redacted
  | (key, item) :: rest, redacted =>
      let safeItem := if isSecretKey lower key.text then .scalar (.str SECRET_REDACTION)
        else scrubSecretMetadata item
      scrubFields rest (setField key.text safeItem redacted)
end

/-- One field as the loop stores it. -/
def scrubField (key : MetadataKey) (item : MetadataValue) : MetadataValue :=
  if isSecretKey lower key.text then .scalar (.str SECRET_REDACTION) else scrubSecretMetadata lower item
end Scrubbing

/-! What `json.dumps` makes of metadata. -/
def MetadataScalar.json : MetadataScalar → Json
  | none => .null
  | bool value => .bool value
  | int value => .int value
  | float lexeme => .float lexeme
  | str value => .str value

mutual
/-- The default encoder takes no `SecretValue`. -/
def jsonOf : MetadataValue → Except Exc Json
  | .scalar value => .ok value.json
  | .secret _ => .error .typeError
  | .sequence items => do .ok (.array (← itemsJson items))
  | .mapping fields => do .ok (.object (← fieldsJson fields))

def itemsJson : List MetadataValue → Except Exc (List Json)
  | [] => .ok []
  | item :: rest => do .ok ((← jsonOf item) :: (← itemsJson rest))

def fieldsJson : List (MetadataKey × MetadataValue) → Except Exc (List (Str × Json))
  | [] => .ok []
  | (.secret _, _) :: _ => .error .typeError
  | (.named key, item) :: rest => do .ok ((key, ← jsonOf item) :: (← fieldsJson rest))
end

/-- `json.dumps(value, separators=(",", ":"), sort_keys=True)`. -/
def dumps (value : MetadataValue) : Except Exc Str := do .ok (valueText (← jsonOf value))

mutual
/-- The encoder refuses for one reason. -/
theorem jsonOf_raises {value : MetadataValue} {raised : Exc} (failed : jsonOf value = .error raised) :
    raised = .typeError := by
  cases value with
  | scalar value => cases failed
  | secret content => cases failed; rfl
  | sequence items =>
      rw [jsonOf] at failed
      rcases bind_error.mp failed with early | ⟨_, -, impossible⟩
      · exact itemsJson_raises early
      · cases impossible
  | mapping fields =>
      rw [jsonOf] at failed
      rcases bind_error.mp failed with early | ⟨_, -, impossible⟩
      · exact fieldsJson_raises early
      · cases impossible

theorem itemsJson_raises {items : List MetadataValue} {raised : Exc}
    (failed : itemsJson items = .error raised) : raised = .typeError := by
  match items with
  | [] => cases failed
  | item :: rest =>
      rw [itemsJson] at failed
      rcases bind_error.mp failed with early | ⟨_, -, late⟩
      · exact jsonOf_raises early
      rcases bind_error.mp late with early | ⟨_, -, impossible⟩
      · exact itemsJson_raises early
      · cases impossible

theorem fieldsJson_raises {fields : List (MetadataKey × MetadataValue)} {raised : Exc}
    (failed : fieldsJson fields = .error raised) : raised = .typeError := by
  match fields with
  | [] => cases failed
  | (.secret content, item) :: rest => cases failed; rfl
  | (.named key, item) :: rest =>
      rw [fieldsJson] at failed
      rcases bind_error.mp failed with early | ⟨_, -, late⟩
      · exact jsonOf_raises early
      rcases bind_error.mp late with early | ⟨_, -, impossible⟩
      · exact fieldsJson_raises early
      · cases impossible
end

theorem dumps_raises {value : MetadataValue} {raised : Exc} (failed : dumps value = .error raised) :
    raised = .typeError := by
  rcases bind_error.mp failed with early | ⟨_, -, impossible⟩
  · exact jsonOf_raises early
  · cases impossible

/-- `_sanitize_metadata`. -/
def sanitizeMetadata (lower : Str → Str) (metadata : MetadataValue) : Except Exc MetadataValue :=
  match scrubSecretMetadata lower metadata with
  | .mapping fields => do
      match encode (← dumps (.mapping fields)) with
      | none => .error .unicodeEncodeError
      | some encoded =>
          if AUDIT_METADATA_MAX_BYTES < encoded.length then
            .error (.auditError "audit metadata exceeds 16 KiB")
          else .ok (.mapping fields)
  | _ => .error (.auditError "audit metadata must be a JSON object")

/-- The arguments of `write` beside the metadata, with the uuid it draws and the
time that it takes for `now=None`. -/
structure AuditRequest where
  id : Uuid
  eventType : AuditEventType
  actor : Str
  agentId : Option Uuid
  sessionId : Option Uuid
  nodeName : Option Str
  now : DateTime

/-- The row of the insert. -/
structure AuditRow where
  id : Uuid
  eventType : AuditEventType
  actor : Str
  agentId : Option Uuid
  sessionId : Option Uuid
  nodeName : Option Str
  createdAt : DateTime
  metadata : Str

/-- `write` up to its insert. -/
def auditRow (lower : Str → Str) (request : AuditRequest) (metadata : MetadataValue) :
    Except Exc AuditRow :=
  if request.actor = [] then .error (.auditError "audit actor is required")
  else do
    let sanitized ← sanitizeMetadata lower metadata
    let text ← dumps sanitized
    .ok ⟨request.id, request.eventType, request.actor, request.agentId, request.sessionId,
      request.nodeName, request.now.asUtc, text⟩

/-- What the writer raises before its insert. -/
theorem auditRow_raises {lower : Str → Str} {request : AuditRequest} {metadata : MetadataValue}
    {raised : Exc} (failed : auditRow lower request metadata = .error raised) :
    raised = .typeError ∨ raised = .unicodeEncodeError ∨ ∃ message, raised = .auditError message := by
  unfold auditRow at failed
  split at failed
  · cases failed
    exact .inr (.inr ⟨_, rfl⟩)
  rcases bind_error.mp failed with early | ⟨_, -, late⟩
  · unfold sanitizeMetadata at early
    split at early
    · rcases bind_error.mp early with first | ⟨text, -, coded⟩
      · exact .inl (dumps_raises first)
      split at coded
      · cases coded
        exact .inr (.inl rfl)
      · split at coded
        · cases coded
          exact .inr (.inr ⟨_, rfl⟩)
        · cases coded
    · cases early
      exact .inr (.inr ⟨_, rfl⟩)
  · rcases bind_error.mp late with early | ⟨_, -, impossible⟩
    · exact .inl (dumps_raises early)
    · cases impossible
/-- `AuditWriter.write` on a connection that refuses some rows. -/
def write (lower : Str → Str) (refuses : AuditRow → Option Exc) (request : AuditRequest)
    (metadata : MetadataValue) (events : List AuditRow) : Except Exc AuditRow × List AuditRow :=
  match auditRow lower request metadata with
  | .error raised => (.error raised, events)
  | .ok row => match refuses row with
      | some raised => (.error raised, events)
      | none => (.ok row, events ++ [row])

/-! Two values that differ in their secrets only. -/
inductive AlikeKey : MetadataKey → MetadataKey → Prop
  | named (text) : AlikeKey (.named text) (.named text)
  | secret (left right) : AlikeKey (.secret left) (.secret right)

mutual
inductive Alike (lower : Str → Str) : MetadataValue → MetadataValue → Prop
  | scalar (value) : Alike lower (.scalar value) (.scalar value)
  | secret (left right) : Alike lower (.secret left) (.secret right)
  | sequence {left right} : AlikeItems lower left right → Alike lower (.sequence left) (.sequence right)
  | mapping {left right} : AlikeFields lower left right → Alike lower (.mapping left) (.mapping right)

inductive AlikeItems (lower : Str → Str) : List MetadataValue → List MetadataValue → Prop
  | nil : AlikeItems lower [] []
  | cons {left right lefts rights} : Alike lower left right → AlikeItems lower lefts rights →
      AlikeItems lower (left :: lefts) (right :: rights)

/-- Under a secret key anything may stand. -/
inductive AlikeFields (lower : Str → Str) :
    List (MetadataKey × MetadataValue) → List (MetadataKey × MetadataValue) → Prop
  | nil : AlikeFields lower [] []
  | hidden {key other left right lefts rights} : AlikeKey key other →
      isSecretKey lower key.text = true → AlikeFields lower lefts rights →
      AlikeFields lower ((key, left) :: lefts) ((other, right) :: rights)
  | shown {key other left right lefts rights} : AlikeKey key other → Alike lower left right →
      AlikeFields lower lefts rights →
      AlikeFields lower ((key, left) :: lefts) ((other, right) :: rights)
end

theorem AlikeKey.text_eq {left right : MetadataKey} (alike : AlikeKey left right) :
    left.text = right.text := by
  cases alike <;> rfl

section Scrubbed
variable {lower : Str → Str}

theorem scrubFields_cons (key : MetadataKey) (item : MetadataValue)
    (rest : List (MetadataKey × MetadataValue)) (redacted : List (Str × MetadataValue)) :
    scrubFields lower ((key, item) :: rest) redacted =
      scrubFields lower rest (setField key.text (scrubField lower key item) redacted) := by
  rw [scrubFields]
  rfl

mutual
theorem scrub_alike {left right : MetadataValue} (alike : Alike lower left right) :
    scrubSecretMetadata lower left = scrubSecretMetadata lower right := by
  cases alike with
  | scalar value => rfl
  | secret left right => rw [scrubSecretMetadata, scrubSecretMetadata]
  | sequence items => rw [scrubSecretMetadata, scrubSecretMetadata, scrubItems_alike items]
  | mapping fields => rw [scrubSecretMetadata, scrubSecretMetadata, scrubFields_alike fields]

theorem scrubItems_alike {left right : List MetadataValue} (alike : AlikeItems lower left right) :
    scrubItems lower left = scrubItems lower right := by
  cases alike with
  | nil => rfl
  | cons first rest => rw [scrubItems, scrubItems, scrub_alike first, scrubItems_alike rest]

/-- Whatever the loop has stored so far. -/
theorem scrubFields_alike {left right : List (MetadataKey × MetadataValue)}
    (alike : AlikeFields lower left right) {redacted : List (Str × MetadataValue)} :
    scrubFields lower left redacted = scrubFields lower right redacted := by
  cases alike with
  | nil => rfl
  | hidden keys secret rest =>
      rw [scrubFields_cons, scrubFields_cons, scrubField, scrubField, ← keys.text_eq, if_pos secret,
        if_pos secret]
      exact scrubFields_alike rest
  | shown keys values rest =>
      rw [scrubFields_cons, scrubFields_cons, scrubField, scrubField, ← keys.text_eq,
        scrub_alike values]
      exact scrubFields_alike rest
end
/-! Scrubbing twice. What the loop has stored has distinct keys, and each value
stands as a second pass leaves it. -/
section SetField
variable {α : Type} {key : Str} {value : α} {fields : List (Str × α)}

theorem setField_keys (key : Str) (value : α) (fields : List (Str × α)) :
    (setField key value fields).map Prod.fst =
      if key ∈ fields.map Prod.fst then fields.map Prod.fst else fields.map Prod.fst ++ [key] := by
  induction fields with
  | nil => rfl
  | cons field rest ih =>
      unfold setField
      by_cases same : field.1 = key
      · simp [same]
      · rw [if_neg same, List.map_cons, ih, List.map_cons]
        by_cases there : key ∈ rest.map Prod.fst
        · rw [if_pos there, if_pos (List.mem_cons_of_mem _ there)]
        · have absent : key ∉ field.1 :: rest.map Prod.fst := by
            intro member
            rcases List.mem_cons.mp member with equal | tail
            · exact same equal.symm
            · exact there tail
          rw [if_neg there, if_neg absent]
          rfl

theorem setField_nodup (distinct : (fields.map Prod.fst).Nodup) :
    ((setField key value fields).map Prod.fst).Nodup := by
  rw [setField_keys]
  split
  · exact distinct
  · rename_i absent
    exact List.nodup_append.mpr ⟨distinct, List.nodup_singleton key, fun one old two new same =>
      absent (List.mem_singleton.mp new ▸ same ▸ old)⟩

theorem setField_mem {field : Str × α} (member : field ∈ setField key value fields) :
    field = (key, value) ∨ field ∈ fields := by
  induction fields with
  | nil => exact .inl (List.mem_singleton.mp member)
  | cons first rest ih =>
      unfold setField at member
      split at member
      · rcases List.mem_cons.mp member with new | old
        · exact .inl new
        · exact .inr (List.mem_cons_of_mem _ old)
      · rcases List.mem_cons.mp member with same | tail
        · exact .inr (same ▸ List.mem_cons_self)
        · exact (ih tail).imp id (List.mem_cons_of_mem _)

theorem setField_absent (absent : key ∉ fields.map Prod.fst) :
    setField key value fields = fields ++ [(key, value)] := by
  induction fields with
  | nil => rfl
  | cons field rest ih =>
      have apart : field.1 ≠ key := fun same => absent (same ▸ List.mem_cons_self)
      have tail : key ∉ rest.map Prod.fst := fun member => absent (List.mem_cons_of_mem _ member)
      rw [setField, if_neg apart, ih tail]
      rfl
end SetField

/-- What a second pass would leave as it is. -/
structure Stored (lower : Str → Str) (redacted : List (Str × MetadataValue)) : Prop where
  distinct : (redacted.map Prod.fst).Nodup
  fixed : ∀ field ∈ redacted, scrubField lower (.named field.1) field.2 = field.2

theorem Stored.again {redacted : List (Str × MetadataValue)} (stored : Stored lower redacted)
    (before : List (Str × MetadataValue)) (distinct : ((before ++ redacted).map Prod.fst).Nodup) :
    scrubFields lower (redacted.map fun field => (.named field.1, field.2)) before =
      before ++ redacted := by
  induction redacted generalizing before with
  | nil => rw [List.append_nil]; rfl
  | cons field rest ih =>
      have absent : field.1 ∉ before.map Prod.fst := by
        rw [List.map_append] at distinct
        intro member
        exact (List.nodup_append.mp distinct).2.2 _ member _ List.mem_cons_self rfl
      have tail : Stored lower rest :=
        ⟨stored.distinct.of_cons, fun other member => stored.fixed other (List.mem_cons_of_mem _ member)⟩
      have same := stored.fixed field List.mem_cons_self
      rw [List.map_cons, scrubFields_cons, same]
      change scrubFields lower _ (setField field.1 field.2 before) = _
      have grouped : (before ++ [(field.1, field.2)]) ++ rest = before ++ field :: rest := by simp
      rw [setField_absent absent, ih tail _ (by rw [grouped]; exact distinct), grouped]

mutual
theorem scrub_twice (value : MetadataValue) :
    scrubSecretMetadata lower (scrubSecretMetadata lower value) = scrubSecretMetadata lower value := by
  cases value with
  | scalar value => rfl
  | secret content => rfl
  | sequence items => rw [scrubSecretMetadata, scrubSecretMetadata, scrubItems_twice items]
  | mapping fields =>
      have stored : Stored lower (scrubFields lower fields []) :=
        scrubFields_stored fields [] ⟨List.nodup_nil, fun field none => (List.not_mem_nil none).elim⟩
      rw [scrubSecretMetadata, scrubSecretMetadata, stored.again [] stored.distinct, List.nil_append]

theorem scrubItems_twice (items : List MetadataValue) :
    scrubItems lower (scrubItems lower items) = scrubItems lower items := by
  cases items with
  | nil => rfl
  | cons item rest => rw [scrubItems, scrubItems, scrub_twice item, scrubItems_twice rest]

theorem scrubFields_stored (fields : List (MetadataKey × MetadataValue))
    (redacted : List (Str × MetadataValue)) (stored : Stored lower redacted) :
    Stored lower (scrubFields lower fields redacted) := by
  match fields with
  | [] => exact stored
  | (key, item) :: rest =>
      rw [scrubFields_cons]
      refine scrubFields_stored rest _ ⟨setField_nodup stored.distinct, fun field member => ?_⟩
      rcases setField_mem member with new | old
      · rw [new]
        unfold scrubField
        by_cases secret : isSecretKey lower key.text = true
        · have again : isSecretKey lower (MetadataKey.named key.text).text = true := secret
          rw [if_pos again, if_pos secret]
        · have again : ¬isSecretKey lower (MetadataKey.named key.text).text = true := secret
          rw [if_neg again, if_neg secret, scrub_twice item]
      · exact stored.fixed field old
end
end Scrubbed

/-- The writer looks at its metadata through the scrubber alone. -/
theorem auditRow_scrub {lower : Str → Str} {request : AuditRequest} {left right : MetadataValue}
    (same : scrubSecretMetadata lower left = scrubSecretMetadata lower right) :
    auditRow lower request left = auditRow lower request right := by
  unfold auditRow sanitizeMetadata
  rw [same]

theorem write_scrub {lower : Str → Str} {refuses : AuditRow → Option Exc} {request : AuditRequest}
    {left right : MetadataValue} {events : List AuditRow}
    (same : scrubSecretMetadata lower left = scrubSecretMetadata lower right) :
    write lower refuses request left events = write lower refuses request right events := by
  unfold write
  rw [auditRow_scrub same]

/-- Metadata that differs in its secrets only is scrubbed to the same value and
gets the same answer and the same row from the writer; what is scrubbed already
is scrubbed and written as if it were not. -/
theorem audit_hides_secrets (lower : Str → Str) :
    (∀ left right, Alike lower left right →
      scrubSecretMetadata lower left = scrubSecretMetadata lower right ∧
      ∀ refuses request events, write lower refuses request left events =
        write lower refuses request right events) ∧
    ∀ value, scrubSecretMetadata lower (scrubSecretMetadata lower value) =
        scrubSecretMetadata lower value ∧
      ∀ refuses request events,
        write lower refuses request (scrubSecretMetadata lower value) events =
          write lower refuses request value events := by
  constructor
  · intro left right alike
    have same := scrub_alike alike
    exact ⟨same, fun refuses request events => write_scrub same⟩
  · intro value
    have same := @scrub_twice lower value
    exact ⟨same, fun refuses request events => write_scrub same⟩

/-- `str.lower` on ASCII letters. -/
def asciiLower (text : Str) : Str :=
  text.map fun code => if 65 ≤ code.val ∧ code.val ≤ 90 then point (code.val + 32) else code

/-- A node name beside a bearer token in a list, and a secret object. -/
def metadataOne (token content : Str) : MetadataValue :=
  .mapping [(.named (lit "node_name"), .scalar (.str (lit "db-01"))),
    (.named (lit "items"), .sequence
      [.mapping [(.named (lit "bearerToken"), .scalar (.str token))], .secret content])]

/-- The bearer token and the secret object do not show. -/
theorem audit_hides_bearer : scrubSecretMetadata asciiLower (metadataOne (lit "raw-token") (lit "one")) =
    scrubSecretMetadata asciiLower (metadataOne (lit "other-token") (lit "two")) := by
  have secret : isSecretKey asciiLower (lit "bearerToken") = true := by decide
  refine ((audit_hides_secrets asciiLower).1 _ _ ?_).1
  exact .mapping (.shown (.named _) (.scalar _) (.shown (.named _) (.sequence
    (.cons (.mapping (.hidden (.named _) secret .nil)) (.cons (.secret _ _) .nil))) .nil))

end VibeConnect.AuditWriter
