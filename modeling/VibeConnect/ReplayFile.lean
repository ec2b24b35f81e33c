import Mathlib.Data.List.Basic
import VibeConnect.JumpRuns
import VibeConnect.Python.JsonArray

/-! The bytes of a replay file. Every line is the JSON text of a header or an
event, in printable ASCII, so the newlines after the lines are the only ones.
Each event line gives back the direction and the payload that the bridge got. -/
namespace VibeConnect.ReplayFile
open Python.Text Python.JsonCodec Python.Values Python.Coroutine Python.Tasks Models JumpCoordinator
open Replay JumpBridge JumpRuns
variable {Rest : Type}

/-- `json.dumps` of a mapping without `sort_keys`. -/
def objectText (fields : List (Str × Json)) : Str :=
  0x7B :: (joined 0x2C (fields.map printField) ++ [0x7D])

section File
variable (secondsText : Int → FloatText)

def lineText : ReplayLine → Str
  | .header command width height timestamp => objectText [(lit "version", .int 2),
      (lit "command", .str command), (lit "width", .int width), (lit "height", .int height),
      (lit "timestamp", .int timestamp)]
  | .event event => valueText (.array [.float (secondsText event.seconds).text, .str event.stream,
      .str event.data])

/-- `_write_line` for every line of a file. -/
def fileBytes : List ReplayLine → Option Bytes
  | [] => some []
  | line :: rest => do
      let head ← encode (lineText secondsText line)
      let tail ← fileBytes rest
      pure (head ++ 10 :: tail)
end File

/-! Lines are printable. -/
def Printable (text : Str) : Prop := ∀ code ∈ text, 0x20 ≤ code.val ∧ code.val < 0x7F

instance (text : Str) : Decidable (Printable text) :=
  inferInstanceAs (Decidable (∀ code ∈ text, _ ∧ _))

theorem printable_append {left right : Str} (first : Printable left) (second : Printable right) :
    Printable (left ++ right) := by
  intro code member
  rcases List.mem_append.mp member with inLeft | inRight
  · exact first code inLeft
  · exact second code inRight

theorem printable_cons {code : CodePoint} {rest : Str} (first : 0x20 ≤ code.val ∧ code.val < 0x7F)
    (second : Printable rest) : Printable (code :: rest) := by
  intro other member
  rcases List.mem_cons.mp member with same | tail
  · exact same ▸ first
  · exact second other tail

theorem printable_nil : Printable [] := by simp [Printable]

theorem printable_digit {code : CodePoint} (digit : isDigit code = true) :
    0x20 ≤ code.val ∧ code.val < 0x7F := by
  simp only [isDigit, Bool.and_eq_true, decide_eq_true_eq] at digit
  omega

theorem hexDigit_printable (value : Nat) : 0x20 ≤ (hexDigit value).val ∧ (hexDigit value).val < 0x7F := by
  have small := Nat.mod_lt value (show 0 < 16 by decide)
  unfold hexDigit point
  split <;> simp only [Fin.val_ofNat] <;> omega

theorem unicodeEscape_printable (unit : Nat) : Printable (unicodeEscape unit) :=
  printable_cons (by decide) (printable_cons (by decide)
    (printable_cons (hexDigit_printable _) (printable_cons (hexDigit_printable _)
      (printable_cons (hexDigit_printable _) (printable_cons (hexDigit_printable _) printable_nil)))))

theorem escapePoint_printable (code : CodePoint) : Printable (escapePoint code) := by
  unfold escapePoint
  repeat' split
  all_goals first
    | exact unicodeEscape_printable _
    | exact printable_append (unicodeEscape_printable _) (unicodeEscape_printable _)
    | exact printable_cons (by decide) (printable_cons (by decide) printable_nil)
    | exact printable_cons (by assumption) printable_nil

theorem stringText_printable (value : Str) : Printable (stringText value) := by
  refine printable_cons (by decide) (printable_append ?_ (printable_cons (by decide) printable_nil))
  intro code member
  obtain ⟨source, -, inside⟩ := List.mem_flatMap.mp member
  exact escapePoint_printable source code inside

theorem naturalText_printable (value : Nat) : Printable (naturalText value) :=
  fun code member => printable_digit (naturalText_isDigit value code member)

theorem intText_printable (value : Int) : Printable (intText value) := by
  cases value with
  | ofNat value => exact naturalText_printable value
  | negSucc value => exact printable_cons (by decide) (naturalText_printable _)

theorem floatText_printable (float : FloatText) : Printable float.text := by
  have sign : Printable (if float.negative then [0x2D] else []) := by
    cases float.negative with
    | false => exact printable_nil
    | true => exact printable_cons (by decide) printable_nil
  have fraction : Printable (FloatText.fractionText float.fraction) := by
    unfold FloatText.fractionText
    split
    · exact printable_nil
    · exact printable_cons (by decide) fun code member =>
        printable_digit (float.fraction_digits code member)
  have exponent : Printable (FloatText.exponentText float.exponent) := by
    cases power : float.exponent with
    | none => exact printable_nil
    | some part =>
        have mark : 0x20 ≤ (if part.1 then (0x2D : CodePoint) else 0x2B).val ∧
            (if part.1 then (0x2D : CodePoint) else 0x2B).val < 0x7F := by
          cases part.1 <;> decide
        have letter : 0x20 ≤ (0x65 : CodePoint).val ∧ (0x65 : CodePoint).val < 0x7F := by decide
        exact printable_cons letter (printable_cons mark fun code member =>
          printable_digit ((float.exponent_digits part power).2 code member))
  exact printable_append (printable_append (printable_append sign (naturalText_printable _)) fraction)
    exponent

theorem joined_printable (separator : CodePoint) (visible : 0x20 ≤ separator.val ∧ separator.val < 0x7F)
    (texts : List Str) (printable : ∀ text ∈ texts, Printable text) :
    Printable (joined separator texts) := by
  induction texts with
  | nil => exact printable_nil
  | cons first rest ih =>
      have tail := ih fun text member => printable text (List.mem_cons_of_mem _ member)
      have head := printable first List.mem_cons_self
      cases rest with
      | nil => exact head
      | cons second rest => exact printable_append head (printable_cons visible tail)

/-- The texts of an event, with the values they stand for. -/
def eventItems (seconds : FloatText) (stream data : Str) : List (Str × Json) :=
  [(seconds.text, .float seconds.text), (stringText stream, .str stream), (stringText data, .str data)]

theorem eventText (seconds : FloatText) (stream data : Str) :
    valueText (.array [.float seconds.text, .str stream, .str data]) =
      0x5B :: (joined 0x2C ((eventItems seconds stream data).map Prod.fst) ++ [0x5D]) := by
  have ascii : seconds.text.filter (fun code => code.val < 0x80) = seconds.text := by
    refine List.filter_eq_self.mpr fun code member => decide_eq_true ?_
    exact Nat.lt_trans (floatText_printable seconds code member).2 (by decide)
  simp only [valueText, itemTexts, ascii, eventItems, List.map_cons, List.map_nil]

theorem lineText_printable (secondsText : Int → FloatText) (line : ReplayLine) :
    Printable (lineText secondsText line) := by
  have field : ∀ (key value : Str), Printable value → Printable (fieldText (key, value)) :=
    fun key value printable =>
      printable_append (stringText_printable key) (printable_cons (by decide) printable)
  cases line with
  | header command width height timestamp =>
      refine printable_cons (by decide) (printable_append (joined_printable _ (by decide) _ ?_)
        (printable_cons (by decide) printable_nil))
      intro text member
      simp only [List.map_cons, List.map_nil, List.mem_cons, List.not_mem_nil, or_false] at member
      rcases member with rfl | rfl | rfl | rfl | rfl
      · exact field _ _ (intText_printable 2)
      · exact field _ _ (stringText_printable command)
      · exact field _ _ (intText_printable width)
      · exact field _ _ (intText_printable height)
      · exact field _ _ (intText_printable timestamp)
  | event event =>
      rw [lineText, eventText]
      refine printable_cons (by decide) (printable_append (joined_printable _ (by decide) _ ?_)
        (printable_cons (by decide) printable_nil))
      intro text member
      simp only [eventItems, List.map_cons, List.map_nil, List.mem_cons, List.not_mem_nil,
        or_false] at member
      rcases member with rfl | rfl | rfl
      · exact floatText_printable _
      · exact stringText_printable _
      · exact stringText_printable _

/-! A file of printable lines. -/
theorem encode_printable (text : Str) (printable : Printable text) :
    ∃ bytes, encode text = some bytes ∧ (10 : UInt8) ∉ bytes := by
  induction text with
  | nil => exact ⟨[], rfl, List.not_mem_nil⟩
  | cons code rest ih =>
      have range := printable code List.mem_cons_self
      obtain ⟨bytes, encoded, clean⟩ := ih fun code member =>
        printable code (List.mem_cons_of_mem _ member)
      have first : encodePoint code = some [UInt8.ofNat code.val] := by
        unfold encodePoint
        simp only
        rw [if_pos (by omega)]
      refine ⟨_, encode_cons first encoded, ?_⟩
      rw [List.singleton_append, List.mem_cons, not_or]
      refine ⟨fun same => ?_, clean⟩
      have value := congrArg UInt8.toNat same
      simp only [UInt8.toNat_ofNat', UInt8.reduceToNat] at value
      omega

/-- The newlines of a file are those after its lines. -/
theorem fileBytes_split (secondsText : Int → FloatText) (lines : List ReplayLine) :
    ∃ bytes encoded, fileBytes secondsText lines = some bytes ∧
      bytes.splitOn 10 = encoded ++ [[]] ∧
      List.Forall₂ (fun text line => encode (lineText secondsText line) = some text) encoded lines := by
  induction lines with
  | nil => exact ⟨[], [], rfl, rfl, .nil⟩
  | cons line rest ih =>
      obtain ⟨bytes, encoded, file, split, each⟩ := ih
      obtain ⟨head, first, clean⟩ := encode_printable _ (lineText_printable secondsText line)
      refine ⟨head ++ 10 :: bytes, head :: encoded, ?_, ?_, .cons first each⟩
      · simp [fileBytes, first, file]
      · rw [List.splitOn_append_cons_self_of_not_mem clean, split]
        rfl

/-! The bridge as the writer of a file. -/
inductive PtyDirection where
  | input | output

def PtyDirection.stream : PtyDirection → String
  | input => "i"
  | output => "o"

structure PtyEvent where
  seconds : Int
  direction : PtyDirection
  payload : Bytes

def PtyEvent.recorded (event : PtyEvent) : ReplayEvent :=
  ⟨event.seconds, lit event.direction.stream, decodeEscaped event.payload⟩

/-- Pass an event through the bridge. -/
def PtyEvent.task (bridge : JumpPtyBridge Rest) (event : PtyEvent) : SessionTask Rest Unit :=
  match event.direction with
  | .input => bridge.sendUserInput event.seconds event.payload
  | .output => do
      let _ ← JumpPtyBridge.receiveNodeOutput event.seconds event.payload
      pure ()

def recordAll (bridge : JumpPtyBridge Rest) : List PtyEvent → SessionTask Rest Unit
  | [] => pure ()
  | event :: rest => do
      event.task bridge
      recordAll bridge rest

/-- The link answers as it likes. -/
def overLink (answers : (call : SessionCall) → Rest → Except Exc (SessionResult call) × Rest)
    (call : SessionCall) (world : JumpWorld Rest) :
    Except Exc (SessionResult call) × JumpWorld Rest :=
  ((answers call world.rest).1, { world with rest := (answers call world.rest).2 })

/-- A line gives back the time, the direction and the payload of an event. -/
def Decodes (secondsText : Int → FloatText) (line : Bytes) (event : PtyEvent) : Prop :=
  ∃ text data, decode line = some text ∧
    readDocument text = .ok (.array [.float (secondsText event.seconds).text,
      .str (lit event.direction.stream), .str data]) ∧
    encodeEscaped data = some event.payload

theorem stream_unpaired (direction : PtyDirection) :
    ∀ code ∈ lit direction.stream, Unpaired code := by
  have ascii : Ascii (lit direction.stream) := by
    cases direction <;> exact lit_ascii (by decide)
  exact fun code member => (ascii.scalarText code member).unpaired

theorem decodes_recorded (secondsText : Int → FloatText) (event : PtyEvent) {line : Bytes}
    (encoded : encode (lineText secondsText (.event event.recorded)) = some line) :
    Decodes secondsText line event := by
  refine ⟨_, decodeEscaped event.payload, decode_encode _ _ encoded, ?_,
    encodeEscaped_decodeEscaped event.payload⟩
  rw [lineText, eventText]
  refine readDocument_array (eventItems _ _ _) ?_ (List.cons_ne_nil _ _)
  intro item member
  simp only [eventItems, List.mem_cons, List.not_mem_nil, or_false] at member
  rcases member with rfl | rfl | rfl
  · exact reads_float _
  · exact reads_string _ (stream_unpaired event.direction)
  · exact reads_string _ (decodeEscaped_unpaired event.payload)

section Recording
variable {bridge : JumpPtyBridge Rest} {world after : JumpWorld Rest}
  {answers : (call : SessionCall) → Rest → Except Exc (SessionResult call) × Rest}

theorem recorded_run {α : Type} {seconds : Int} {stream : String} {payload : Bytes}
    {next : SessionTask Rest α} {value : α}
    (ran : (do
        let world ← look
        Coro.ofAnswer (JumpPtyBridge.ensureOpen world)
        change (JumpPtyBridge.recordEvent seconds stream payload)
        next : SessionTask Rest α).run (serve (overLink answers)) world = (.ok value, after)) :
    ∃ middle, next.run (serve (overLink answers)) middle = (.ok value, after) ∧
      middle.recorder.temp = world.recorder.temp.map
        (· ++ [.event ⟨seconds, lit stream, decodeEscaped payload⟩]) := by
  rw [Coro.run_bind, run_look] at ran
  dsimp only at ran
  rw [Coro.run_bind, Coro.run_ofAnswer] at ran
  cases opened : JumpPtyBridge.ensureOpen world with
  | error fault =>
      rw [opened] at ran
      cases ran
  | ok _ =>
      rw [opened] at ran
      obtain ⟨_, middle, recorded, ran⟩ := Coro.run_bind_ok.mp ran
      rw [run_change] at recorded
      refine ⟨middle, ran, ?_⟩
      rcases recordEvent_cases seconds stream payload world with ⟨-, -, wrote⟩ | ⟨_, _, failed, -⟩
      · rw [wrote] at recorded
        cases recorded
        rfl
      · rw [failed] at recorded
        cases recorded

theorem sendData_run {channel : PtyChannel Rest} {channelId : TunnelState.ChannelId} {payload : Bytes}
    (ran : (channel.sendData channelId payload).run (serve (overLink answers)) world =
      (.ok (), after)) : after.recorder = world.recorder := by
  obtain ⟨_, middle, sent, ran⟩ := Coro.run_bind_ok.mp ran
  rw [run_change] at sent
  have kept : middle.recorder = world.recorder := by
    rw [show middle = _ from (congrArg Prod.snd sent).symm]
    rfl
  cases isOver : channel.overLink with
  | false =>
      rw [isOver] at ran
      cases ran
      exact kept
  | true =>
      rw [isOver, Coro.onlyIf, if_pos rfl, waitFor, run_call] at ran
      rw [show after = _ from (congrArg Prod.snd ran).symm]
      exact kept

/-- An event that is recorded adds its line to the file. -/
theorem task_run {event : PtyEvent}
    (ran : (event.task bridge).run (serve (overLink answers)) world = (.ok (), after)) :
    after.recorder.temp = world.recorder.temp.map (· ++ [.event event.recorded]) := by
  obtain ⟨seconds, direction, payload⟩ := event
  cases direction with
  | input =>
      obtain ⟨middle, sent, written⟩ := recorded_run ran
      rw [sendData_run sent, written]
      rfl
  | output =>
      obtain ⟨_, _, ran, done⟩ := Coro.run_bind_ok.mp ran
      obtain ⟨middle, returned, written⟩ := recorded_run ran
      cases returned
      cases done
      exact written

theorem recordAll_run {events : List PtyEvent}
    (ran : (recordAll bridge events).run (serve (overLink answers)) world = (.ok (), after)) :
    after.recorder.temp =
      world.recorder.temp.map (· ++ events.map fun event => .event event.recorded) := by
  induction events generalizing world with
  | nil =>
      cases ran
      simp
  | cons event rest ih =>
      obtain ⟨_, middle, first, second⟩ := Coro.run_bind_ok.mp ran
      rw [ih second, task_run first]
      simp [Function.comp_def]
end Recording

/-- A published file has one line for the header and one for each event, which
gives the event back. -/
theorem replay_fidelity (bridge : JumpPtyBridge Rest)
    (answers : (call : SessionCall) → Rest → Except Exc (SessionResult call) × Rest)
    (secondsText : Int → FloatText) (path : Str) (digest : List ReplayLine → Str) (audited : Bool)
    (command : Str) (width height timestamp : Int) (faults closing : ReplayFaults)
    (columns : RowColumns) (rest : Rest) (events : List PtyEvent) {after : JumpWorld Rest}
    (ran : (recordAll bridge events).run (serve (overLink answers))
      (started path digest audited (.header command width height timestamp) faults columns rest) =
        (.ok (), after))
    {now : DateTime} {result : ReplayCloseResult}
    (closed : (after.recorder.close closing now).1 = .ok result) :
    ∃ file bytes header lines, (after.recorder.close closing now).2.published = some file ∧
      fileBytes secondsText file = some bytes ∧ bytes.splitOn 10 = (header :: lines) ++ [[]] ∧
      List.Forall₂ (Decodes secondsText) lines events := by
  have temp := recordAll_run ran
  obtain ⟨-, -, published, -⟩ := ReplayRecorder.close_published closed
  obtain ⟨bytes, encoded, file, split, each⟩ := fileBytes_split secondsText
    (.header command width height timestamp :: events.map fun event => .event event.recorded)
  cases each with
  | cons header each =>
      refine ⟨_, bytes, _, _, published.trans temp, file, split, ?_⟩
      rw [List.forall₂_map_right_iff] at each
      exact each.imp fun _ event encoded => decodes_recorded secondsText event encoded

/-- A link that takes every payload. -/
def linkUp : (call : SessionCall) → Unit → Except Exc (SessionResult call) × Unit
  | .sendData .., _ => (.ok (), ())
  | _, _ => (.error .osError, ())

/-- An undecodable byte before an emoji, and a newline, go through. -/
theorem replay_fidelity_escaped :
    let zero : FloatText := ⟨false, 0, [48], none, by simp [isDigit], by simp, by simp⟩
    let events : List PtyEvent :=
      [⟨0, .input, [0xFF, 0xF0, 0x9F, 0x98, 0x80]⟩, ⟨0, .output, [0xED, 0xA0, 0x80, 10]⟩]
    ∃ recorder : ReplayRecorder, ∃ file bytes header lines, recorder.published = some file ∧
      fileBytes (fun _ => zero) file = some bytes ∧ bytes.splitOn 10 = (header :: lines) ++ [[]] ∧
      List.Forall₂ (Decodes fun _ => zero) lines events := by
  intro zero events
  obtain ⟨after, ran, was⟩ : ∃ after : JumpWorld Unit,
      (recordAll bridgeOne events).run (serve (overLink linkUp)) (started (lit "3.cast")
        (fun _ => lit "digest") false (.header (lit "node-01") 80 24 1) .none
        ⟨none, lit "3.cast", none⟩ ()) = (.ok (), after) ∧ after.recorder.closed = false :=
    ⟨_, rfl, rfl⟩
  obtain ⟨result, closed⟩ : ∃ result,
      (after.recorder.close .none ⟨2000000, some 0⟩).1 = .ok result :=
    ReplayRecorder.close_ok.mpr ⟨was, rfl, .inr rfl, rfl, rfl⟩
  exact ⟨_, replay_fidelity bridgeOne linkUp (fun _ => zero) (lit "3.cast") (fun _ => lit "digest")
    false (lit "node-01") 80 24 1 .none .none ⟨none, lit "3.cast", none⟩ () events ran closed⟩

end VibeConnect.ReplayFile
