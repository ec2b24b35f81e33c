import VibeConnect.Models
import VibeConnect.Python.Coroutine
import VibeConnect.Python.Values

/-! The replay recorder and its file. A recorder writes lines to a temporary
file in the replay directory, and either publishes it under its own name or
removes it. Each effect on the storage can raise. -/
namespace VibeConnect.Replay
open Python.Text Python.Values Models

structure ReplayEvent where
  seconds : Int
  stream : Str
  data : Str
  deriving DecidableEq

/-- A line of an asciinema file. -/
inductive ReplayLine where
  | header (command : Str) (width height timestamp : Int)
  | event (event : ReplayEvent)
  deriving DecidableEq

def ReplayLine.toEvent : ReplayLine → Option ReplayEvent
  | .header .. => none
  | .event recorded => some recorded

def eventsOf (lines : List ReplayLine) : List ReplayEvent := lines.filterMap ReplayLine.toEvent

structure ReplayCloseResult where
  path : Str
  hmacHex : Str
  endedAt : DateTime

/-- What each effect on the storage raises, and the replay audit sink. -/
structure ReplayFaults where
  write : Option Exc
  flush : Option Exc
  close : Option Exc
  replace : Option Exc
  read : Option Exc
  unlink : Option Exc
  audit : Option Exc

def ReplayFaults.none : ReplayFaults :=
  ⟨.none, .none, .none, .none, .none, .none, .none⟩

/-- A recorder with the files it owns. `digest` is the hex digest of a file's HMAC
under the integrity key. -/
structure ReplayRecorder where
  path : Str
  digest : List ReplayLine → Str
  audited : Bool
  closed : Bool
  fileClosed : Bool
  temp : Option (List ReplayLine)
  published : Option (List ReplayLine)

/-- A recorder around a new temporary file. -/
def ReplayRecorder.new (path : Str) (digest : List ReplayLine → Str) (audited : Bool)
    (header : ReplayLine) : ReplayRecorder :=
  ⟨path, digest, audited, false, false, some [header], none⟩

namespace ReplayRecorder

/-- `_close_file`. -/
def closeFile (faults : ReplayFaults) (recorder : ReplayRecorder) : Except Exc Unit × ReplayRecorder :=
  if recorder.fileClosed then (.ok (), recorder)
  else match faults.close with
    | some fault => (.error fault, recorder)
    | none => (.ok (), { recorder with fileClosed := true })

def fail (faults : ReplayFaults) (recorder : ReplayRecorder) : Except Exc Unit × ReplayRecorder :=
  if recorder.closed then (.ok (), recorder)
  else match closeFile faults { recorder with closed := true } with
    | (.error fault, recorder) => (.error fault, recorder)
    | (.ok _, recorder) =>
      match if recorder.audited then faults.audit else none with
      | some fault => (.error fault, recorder)
      | none => match faults.unlink with
        | some fault => (.error fault, recorder)
        | none => (.ok (), { recorder with temp := none })

def close (faults : ReplayFaults) (now : DateTime) (recorder : ReplayRecorder) :
    Except Exc ReplayCloseResult × ReplayRecorder :=
  if recorder.closed then (.error (.replayError "replay is already closed"), recorder)
  else match faults.flush with
    | some fault => (.error fault, { recorder with closed := true })
    | none => match closeFile faults { recorder with closed := true } with
      | (.error fault, recorder) => (.error fault, recorder)
      | (.ok _, recorder) => match faults.replace with
        | some fault => (.error fault, recorder)
        | none =>
          let recorder := { recorder with published := recorder.temp, temp := none }
          match faults.read with
          | some fault => (.error fault, recorder)
          | none => (.ok ⟨recorder.path, recorder.digest (recorder.published.getD []), now.asUtc⟩, recorder)

/-- `_record`. -/
def record (faults : ReplayFaults) (event : ReplayEvent) (recorder : ReplayRecorder) :
    Except Exc Unit × ReplayRecorder :=
  if recorder.closed then (.error (.replayError "replay is already closed"), recorder)
  else match faults.write with
    | none => (.ok (), { recorder with temp := recorder.temp.map (· ++ [.event event]) })
    | some fault =>
      if fault.isOSError then match recorder.fail faults with
        | (.error raised, recorder) => (.error raised, recorder)
        | (.ok _, recorder) => (.error (.replayError "replay write failed"), recorder)
      else (.error fault, recorder)

/-- The file is closed already, or closing it works. -/
def Closable (faults : ReplayFaults) (recorder : ReplayRecorder) : Prop :=
  recorder.fileClosed = true ∨ faults.close = none

/-! What each operation does, said once. -/
section Specs
variable {faults : ReplayFaults} {recorder : ReplayRecorder}

theorem fail_closed (was : recorder.closed = true) : recorder.fail faults = (.ok (), recorder) := by
  unfold fail
  rw [if_pos was]

/-- Failing an open recorder closes it, and removes its file unless it raises. -/
theorem fail_open (was : recorder.closed = false) :
    (recorder.fail faults).2.closed = true ∧
      (recorder.fail faults).2.published = recorder.published ∧
      ((recorder.fail faults).1 = .ok () → (recorder.fail faults).2.temp = none) ∧
      ((recorder.fail faults).1 = .ok () ↔ Closable faults recorder ∧
        (recorder.audited = true → faults.audit = none) ∧ faults.unlink = none) := by
  unfold fail closeFile Closable
  rw [was]
  cases recorder.fileClosed <;> cases faults.close <;> cases recorder.audited <;>
    cases faults.audit <;> cases faults.unlink <;> simp

/-- A failure that returns has removed the file. -/
theorem fail_removed (was : recorder.closed = false) (returned : (recorder.fail faults).1 = .ok ()) :
    (recorder.fail faults).2.closed = true ∧ (recorder.fail faults).2.temp = none ∧
      (recorder.fail faults).2.published = recorder.published :=
  ⟨(fail_open was).1, (fail_open was).2.2.1 returned, (fail_open was).2.1⟩

/-- When failing a recorder does not raise. -/
theorem fail_ok : (recorder.fail faults).1 = .ok () ↔ (recorder.closed = false →
    Closable faults recorder ∧ (recorder.audited = true → faults.audit = none) ∧
      faults.unlink = none) := by
  cases was : recorder.closed with
  | true => simp [fail_closed was]
  | false => simpa using (fail_open was).2.2.2

theorem close_closed {now : DateTime} (was : recorder.closed = true) :
    recorder.close faults now = (.error (.replayError "replay is already closed"), recorder) := by
  unfold close
  rw [if_pos was]

/-- Closing an open recorder publishes its file unless it raises. -/
theorem close_open {now : DateTime} (was : recorder.closed = false) :
    (recorder.close faults now).2.closed = true ∧
      (∀ result, (recorder.close faults now).1 = .ok result →
        (recorder.close faults now).2.published = recorder.temp) ∧
      ((∃ result, (recorder.close faults now).1 = .ok result) ↔
        faults.flush = none ∧ Closable faults recorder ∧ faults.replace = none ∧
          faults.read = none) := by
  unfold close closeFile Closable
  rw [was]
  cases recorder.fileClosed <;> cases faults.flush <;> cases faults.close <;>
    cases faults.replace <;> cases faults.read <;> simp

/-- A close that returns has published the file it names. -/
theorem close_published {now : DateTime} {result : ReplayCloseResult}
    (returned : (recorder.close faults now).1 = .ok result) :
    recorder.closed = false ∧ (recorder.close faults now).2.closed = true ∧
      (recorder.close faults now).2.published = recorder.temp ∧
      result.path = recorder.path ∧ result.hmacHex = recorder.digest (recorder.temp.getD []) := by
  cases was : recorder.closed with
  | true =>
      rw [close_closed was] at returned
      cases returned
  | false =>
      unfold close closeFile at returned ⊢
      revert returned
      cases recorder.fileClosed <;> cases faults.flush <;> cases faults.close <;>
        cases faults.replace <;> cases faults.read <;> simp +contextual [was, eq_comm]

/-- When closing a recorder does not raise. -/
theorem close_ok {now : DateTime} : (∃ result, (recorder.close faults now).1 = .ok result) ↔
    recorder.closed = false ∧ faults.flush = none ∧ Closable faults recorder ∧
      faults.replace = none ∧ faults.read = none := by
  cases was : recorder.closed with
  | true => simp [close_closed was]
  | false => simpa using (close_open was).2.2

/-- Recording writes one line, or it raises with the recorder as it was or failed. -/
theorem record_cases (faults : ReplayFaults) (event : ReplayEvent) (recorder : ReplayRecorder) :
    (recorder.closed = false ∧ faults.write = none ∧ recorder.record faults event =
        (.ok (), { recorder with temp := recorder.temp.map (· ++ [.event event]) })) ∨
      ∃ fault, (recorder.record faults event).1 = .error fault ∧
        ((recorder.record faults event).2 = recorder ∨
          (recorder.record faults event).2 = (recorder.fail faults).2 ∧ faults.write ≠ none) := by
  unfold record
  cases was : recorder.closed with
  | true => exact .inr ⟨_, rfl, .inl rfl⟩
  | false =>
      cases written : faults.write with
      | none => exact .inl ⟨rfl, rfl, rfl⟩
      | some fault =>
          cases system : fault.isOSError with
          | false => exact .inr ⟨fault, by simp [system], by simp [system]⟩
          | true =>
              rcases recorder.fail faults with ⟨failed | _, after⟩
              · exact .inr ⟨failed, by simp [system], .inr ⟨by simp [system], by simp⟩⟩
              · exact .inr ⟨.replayError "replay write failed", by simp [system],
                  .inr ⟨by simp [system], by simp⟩⟩

/-- A recorder keeps its name and its key, and a closed one does not change. -/
structure Continues (before after : ReplayRecorder) : Prop where
  path : after.path = before.path
  digest : after.digest = before.digest
  closed : before.closed = true → after = before

theorem Continues.refl (recorder : ReplayRecorder) : Continues recorder recorder :=
  ⟨rfl, rfl, fun _ => rfl⟩

theorem Continues.trans {one two three : ReplayRecorder} (first : Continues one two)
    (second : Continues two three) : Continues one three where
  path := second.path.trans first.path
  digest := second.digest.trans first.digest
  closed was := by
    have same := first.closed was
    rw [second.closed (by rw [same]; exact was), same]

theorem fail_continues : Continues recorder (recorder.fail faults).2 := by
  cases was : recorder.closed with
  | true => rw [fail_closed was]; exact .refl recorder
  | false =>
      refine ⟨?_, ?_, fun impossible => absurd (was.symm.trans impossible) Bool.false_ne_true⟩ <;>
      · unfold fail closeFile
        cases recorder.fileClosed <;> cases faults.close <;> cases recorder.audited <;>
          cases faults.audit <;> cases faults.unlink <;> simp [was]

theorem close_continues {now : DateTime} : Continues recorder (recorder.close faults now).2 := by
  cases was : recorder.closed with
  | true => rw [close_closed was]; exact .refl recorder
  | false =>
      refine ⟨?_, ?_, fun impossible => absurd (was.symm.trans impossible) Bool.false_ne_true⟩ <;>
      · unfold close closeFile
        cases recorder.fileClosed <;> cases faults.flush <;> cases faults.close <;>
          cases faults.replace <;> cases faults.read <;> simp [was]

theorem record_continues (event : ReplayEvent) : Continues recorder (recorder.record faults event).2 := by
  rcases record_cases faults event recorder with
    ⟨was, -, same⟩ | ⟨_, -, same | ⟨same, -⟩⟩
  · rw [same]
    exact ⟨rfl, rfl, fun impossible => absurd (was.symm.trans impossible) Bool.false_ne_true⟩
  · rw [same]
    exact .refl recorder
  · rw [same]
    exact fail_continues
end Specs

end ReplayRecorder

end VibeConnect.Replay
