import Mathlib.Data.List.Basic
import VibeConnect.Python.Statements
import VibeConnect.TunnelState

/-! Whole histories of calls on one channel registry. The methods are written
statement by statement on the two sets, so that a call that raises keeps what it
had already changed; over them a history notes every call with its outcome. The
registry of `TunnelState`, which cannot be built out of order, is refined by them. -/
namespace VibeConnect.ChannelLaw
open Python.Statements Models TunnelState

/-- The two sets of a registry. -/
structure ChannelSets where
  openChannels : Finset ChannelId
  retiredChannels : Finset ChannelId
  deriving DecidableEq

abbrev Method := Block ChannelSets Exc

section Methods
variable (maxSessions : Int) (channelId : ChannelId)

def openChannel : Method Unit :=
  if channelId = [] then throw (.tunnelStateError "channel_id is required")
  else do
    let sets ← get
    if channelId ∈ sets.openChannels ∨ channelId ∈ sets.retiredChannels then
      throw (.tunnelStateError "channel_id reuse")
    else if (sets.openChannels.card : Int) ≥ maxSessions then
      throw (.tunnelStateError "max sessions exceeded")
    else modify fun sets => { sets with openChannels := insert channelId sets.openChannels }

def closeChannel : Method Unit := do
  let sets ← get
  if channelId ∉ sets.openChannels then throw (.tunnelStateError "unknown channel")
  else do
    modify fun sets => { sets with openChannels := sets.openChannels.erase channelId }
    modify fun sets => { sets with retiredChannels := insert channelId sets.retiredChannels }

def requireOpen : Method Unit := do
  let sets ← get
  if channelId ∉ sets.openChannels then throw (.tunnelStateError "unknown channel") else pure ()

def applyFrame (frameType : TunnelFrameType) : Option ChannelId → Method Unit
  | none =>
      match frameType with
      | .OPEN_SESSION | .SESSION_DATA | .RESIZE_PTY | .CLOSE_SESSION =>
          throw (.tunnelStateError "channel_id is required")
      | _ => pure ()
  | some channelId =>
      match frameType with
      | .OPEN_SESSION => openChannel maxSessions channelId
      | .SESSION_DATA | .RESIZE_PTY => requireOpen channelId
      | .CLOSE_SESSION => do
          requireOpen channelId
          closeChannel channelId
      | _ => pure ()
end Methods

/-- A call on the registry, at either entry. -/
inductive RegistryCall where
  | openChannel (channelId : ChannelId)
  | closeChannel (channelId : ChannelId)
  | requireOpen (channelId : ChannelId)
  | applyFrame (frameType : TunnelFrameType) (channelId : Option ChannelId)

namespace RegistryCall

def statements (maxSessions : Int) : RegistryCall → Method Unit
  | .openChannel channelId => ChannelLaw.openChannel maxSessions channelId
  | .closeChannel channelId => ChannelLaw.closeChannel channelId
  | .requireOpen channelId => ChannelLaw.requireOpen channelId
  | .applyFrame frameType channelId => ChannelLaw.applyFrame maxSessions frameType channelId

/-- The outcome of a call, and the sets it leaves. -/
def run (maxSessions : Int) (call : RegistryCall) (sets : ChannelSets) : Except Exc Unit × ChannelSets :=
  ends (call.statements maxSessions) sets

/-- The channel a call is to open. -/
def opening : RegistryCall → Option ChannelId
  | .openChannel channelId => some channelId
  | .applyFrame .OPEN_SESSION channelId => channelId
  | _ => none

/-- The channel a call is to close. -/
def closing : RegistryCall → Option ChannelId
  | .closeChannel channelId => some channelId
  | .applyFrame .CLOSE_SESSION channelId => channelId
  | _ => none

/-- The channel that data, a resize or a close needs open. -/
def needing : RegistryCall → Option ChannelId
  | .requireOpen channelId | .closeChannel channelId => some channelId
  | .applyFrame .SESSION_DATA channelId | .applyFrame .RESIZE_PTY channelId
  | .applyFrame .CLOSE_SESSION channelId => channelId
  | _ => none

/-- The four things a call can do: it is refused without a change, it opens an
unused channel below the limit, it closes an open one, or it changes nothing. -/
inductive Does (maxSessions : Int) (call : RegistryCall) (sets : ChannelSets) :
    Except Exc Unit × ChannelSets → Prop where
  | refused (raised : Exc) (unmet : ∀ channelId, call.needing = some channelId →
      channelId ∉ sets.openChannels) : Does maxSessions call sets (.error raised, sets)
  | opened (channelId : ChannelId) (named : call.opening = some channelId)
      (unneeded : call.needing = none) (unclosed : call.closing = none)
      (unopened : channelId ∉ sets.openChannels) (unretired : channelId ∉ sets.retiredChannels)
      (below : (sets.openChannels.card : Int) < maxSessions) :
      Does maxSessions call sets (.ok (), { sets with openChannels := insert channelId sets.openChannels })
  | closed (channelId : ChannelId) (named : call.closing = some channelId)
      (needed : call.needing = some channelId) (unopening : call.opening = none)
      (known : channelId ∈ sets.openChannels) :
      Does maxSessions call sets (.ok (), ⟨sets.openChannels.erase channelId,
        insert channelId sets.retiredChannels⟩)
  | kept (unopening : call.opening = none) (unclosed : call.closing = none)
      (met : ∀ channelId, call.needing = some channelId → channelId ∈ sets.openChannels) :
      Does maxSessions call sets (.ok (), sets)

section Spec
variable {maxSessions : Int} {sets : ChannelSets} {channelId : ChannelId}

theorem openChannel_run : ends (ChannelLaw.openChannel maxSessions channelId) sets =
    if channelId = [] then (.error (.tunnelStateError "channel_id is required"), sets)
    else if channelId ∈ sets.openChannels ∨ channelId ∈ sets.retiredChannels then
      (.error (.tunnelStateError "channel_id reuse"), sets)
    else if (sets.openChannels.card : Int) ≥ maxSessions then
      (.error (.tunnelStateError "max sessions exceeded"), sets)
    else (.ok (), { sets with openChannels := insert channelId sets.openChannels }) := by
  unfold ChannelLaw.openChannel
  rw [ends_if, ends_get, ends_if, ends_if, ends_throw, ends_throw, ends_throw, ends_modify]

theorem requireOpen_run : ends (ChannelLaw.requireOpen channelId) sets =
    if channelId ∉ sets.openChannels then (.error (.tunnelStateError "unknown channel"), sets)
    else (.ok (), sets) := by
  unfold ChannelLaw.requireOpen
  rw [ends_get, ends_if, ends_throw, ends_pure]

theorem closeChannel_run : ends (ChannelLaw.closeChannel channelId) sets =
    if channelId ∉ sets.openChannels then (.error (.tunnelStateError "unknown channel"), sets)
    else (.ok (), ⟨sets.openChannels.erase channelId, insert channelId sets.retiredChannels⟩) := by
  unfold ChannelLaw.closeChannel
  rw [ends_get, ends_if, ends_throw]
  rfl

theorem openChannel_does {call : RegistryCall} (opening : call.opening = some channelId)
    (unneeded : call.needing = none) (unclosed : call.closing = none) :
    Does maxSessions call sets (ends (ChannelLaw.openChannel maxSessions channelId) sets) := by
  have unmet : ∀ other, call.needing = some other → other ∉ sets.openChannels := by
    intro other needed
    cases unneeded.symm.trans needed
  rw [openChannel_run]
  split_ifs with unnamed used full
  · exact .refused _ unmet
  · exact .refused _ unmet
  · exact .refused _ unmet
  · obtain ⟨unopened, unretired⟩ := not_or.mp used
    exact .opened channelId opening unneeded unclosed unopened unretired (not_le.mp full)

theorem requireOpen_does {call : RegistryCall} (needing : call.needing = some channelId)
    (unopening : call.opening = none) (unclosed : call.closing = none) :
    Does maxSessions call sets (ends (ChannelLaw.requireOpen channelId) sets) := by
  rw [requireOpen_run]
  split_ifs with known
  · apply Does.kept unopening unclosed
    intro other needed
    cases needing.symm.trans needed
    exact known
  · apply Does.refused
    intro other needed
    cases needing.symm.trans needed
    exact known

theorem closeChannel_does {call : RegistryCall} (closing : call.closing = some channelId)
    (needing : call.needing = some channelId) (unopening : call.opening = none) :
    Does maxSessions call sets (ends (ChannelLaw.closeChannel channelId) sets) := by
  rw [closeChannel_run]
  split_ifs with known
  · exact .closed channelId closing needing unopening known
  · apply Does.refused
    intro other needed
    cases needing.symm.trans needed
    exact known

/-- A closing frame asks first for the channel that it then closes. -/
theorem closeFrame_run : ends (do
      ChannelLaw.requireOpen channelId
      ChannelLaw.closeChannel channelId : Method Unit) sets =
    ends (ChannelLaw.closeChannel channelId) sets := by
  have required : ends (ChannelLaw.requireOpen channelId) sets = _ := requireOpen_run
  by_cases known : channelId ∈ sets.openChannels
  · rw [if_neg (not_not.mpr known)] at required
    exact ends_after required
  · rw [if_pos known] at required
    rw [ends_raised required, closeChannel_run, if_pos known]

/-- Every call does one of the four. -/
theorem run_does (call : RegistryCall) (sets : ChannelSets) :
    Does maxSessions call sets (call.run maxSessions sets) := by
  cases call with
  | openChannel channelId => exact openChannel_does rfl rfl rfl
  | closeChannel channelId => exact closeChannel_does rfl rfl rfl
  | requireOpen channelId => exact requireOpen_does rfl rfl rfl
  | applyFrame frameType channelId =>
      cases channelId with
      | none =>
          have unneeded : ∀ other, (RegistryCall.applyFrame frameType none).needing = some other →
              (False : Prop) := by
            cases frameType <;> rintro other ⟨⟩
          -- without a channel id the four session frames are refused, the others ignored
          cases frameType
          all_goals first
            | exact .refused _ fun other needed => (unneeded other needed).elim
            | exact .kept rfl rfl fun other needed => (unneeded other needed).elim
      | some channelId =>
          cases frameType
          case OPEN_SESSION => exact openChannel_does rfl rfl rfl
          case SESSION_DATA => exact requireOpen_does rfl rfl rfl
          case RESIZE_PTY => exact requireOpen_does rfl rfl rfl
          case CLOSE_SESSION =>
            have same : run maxSessions (.applyFrame .CLOSE_SESSION (some channelId)) sets =
              ends (ChannelLaw.closeChannel channelId) sets := closeFrame_run
            rw [same]
            exact closeChannel_does rfl rfl rfl
          all_goals
            apply Does.kept rfl rfl
            rintro other ⟨⟩
end Spec
end RegistryCall

/-! Histories. -/

/-- A call that was made, its outcome, and the sets around it. -/
structure Event where
  call : RegistryCall
  before : ChannelSets
  outcome : Except Exc Unit
  after : ChannelSets

/-- The calls of a history, one after the other. -/
def history (maxSessions : Int) : List RegistryCall → ChannelSets → List Event
  | [], _ => []
  | call :: rest, before =>
      let ended := call.run maxSessions before
      ⟨call, before, ended.1, ended.2⟩ :: history maxSessions rest ended.2

def Event.opens (channelId : ChannelId) (event : Event) : Prop :=
  event.call.opening = some channelId ∧ event.outcome = .ok ()

def Event.closes (channelId : ChannelId) (event : Event) : Prop :=
  event.call.closing = some channelId ∧ event.outcome = .ok ()

def Opened (channelId : ChannelId) (past : List Event) : Prop :=
  ∃ event ∈ past, event.opens channelId

def Closed (channelId : ChannelId) (past : List Event) : Prop :=
  ∃ event ∈ past, event.closes channelId

/-- The law of a registry, of a whole history of calls. -/
structure Law (maxSessions : Int) (events : List Event) : Prop where
  disjoint : ∀ event ∈ events, Disjoint event.after.openChannels event.after.retiredChannels
  bounded : ∀ event ∈ events, (event.after.openChannels.card : Int) ≤ maxSessions
  once : ∀ channelId past event rest, events = past ++ event :: rest →
    event.opens channelId → ¬Opened channelId past
  accepted : ∀ channelId past event rest, events = past ++ event :: rest →
    event.call.needing = some channelId →
      (event.outcome = .ok () ↔ Opened channelId past ∧ ¬Closed channelId past)
  unchanged : ∀ event ∈ events, event.outcome ≠ .ok () → event.after = event.before

/-- What the sets say about the calls so far. -/
structure Account (maxSessions : Int) (past : List Event) (sets : ChannelSets) : Prop where
  openIff : ∀ channelId, channelId ∈ sets.openChannels ↔
    Opened channelId past ∧ ¬Closed channelId past
  retiredIff : ∀ channelId, channelId ∈ sets.retiredChannels ↔ Closed channelId past
  closedOpened : ∀ channelId, Closed channelId past → Opened channelId past
  bounded : (sets.openChannels.card : Int) ≤ maxSessions

section Histories
variable {maxSessions : Int} {past : List Event} {sets : ChannelSets} {event : Event}
  {channelId : ChannelId}

theorem opened_snoc : Opened channelId (past ++ [event]) ↔
    Opened channelId past ∨ event.opens channelId := by
  simp [Opened, or_and_right, exists_or]

theorem closed_snoc : Closed channelId (past ++ [event]) ↔
    Closed channelId past ∨ event.closes channelId := by
  simp [Closed, or_and_right, exists_or]

theorem Account.disjoint (account : Account maxSessions past sets) :
    Disjoint sets.openChannels sets.retiredChannels := by
  apply Finset.disjoint_left.mpr
  intro channelId isOpen isRetired
  exact ((account.openIff channelId).mp isOpen).2 ((account.retiredIff channelId).mp isRetired)

/-- A call that neither opens nor closes leaves the account as it was. -/
theorem Account.idle (account : Account maxSessions past sets)
    (unopening : ∀ channelId, ¬event.opens channelId)
    (unclosing : ∀ channelId, ¬event.closes channelId) :
    Account maxSessions (past ++ [event]) sets where
  openIff channelId := by
    simp [opened_snoc, closed_snoc, unopening, unclosing, account.openIff]
  retiredIff channelId := by
    simp [closed_snoc, unclosing, account.retiredIff]
  closedOpened channelId closed := by
    rw [closed_snoc] at closed
    exact opened_snoc.mpr (.inl (account.closedOpened channelId (closed.resolve_right (unclosing _))))
  bounded := account.bounded

/-- Every call keeps the account. -/
theorem Account.step (account : Account maxSessions past sets) (call : RegistryCall)
    {ended : Except Exc Unit × ChannelSets} (does : call.Does maxSessions sets ended) :
    Account maxSessions (past ++ [⟨call, sets, ended.1, ended.2⟩]) ended.2 := by
  cases does with
  | refused raised unmet =>
      apply account.idle
      · rintro channelId ⟨-, impossible⟩
        cases impossible
      · rintro channelId ⟨-, impossible⟩
        cases impossible
  | kept unopening unclosed met =>
      apply account.idle
      · rintro channelId ⟨opening, -⟩
        cases unopening.symm.trans opening
      · rintro channelId ⟨closing, -⟩
        cases unclosed.symm.trans closing
  | opened channelId named unneeded unclosed unopened unretired below =>
      have unclosing : ∀ other after, ¬Event.closes other ⟨call, sets, .ok (), after⟩ := by
        rintro other after ⟨closing, -⟩
        cases unclosed.symm.trans closing
      have opensIff : ∀ other after, Event.opens other ⟨call, sets, .ok (), after⟩ ↔
          other = channelId := by
        intro other after
        simp [Event.opens, named, eq_comm]
      have fresh : ¬Closed channelId past := (account.retiredIff channelId).not.mp unretired
      constructor
      · intro other
        rw [opened_snoc, closed_snoc, opensIff]
        simp only [unclosing, or_false, Finset.mem_insert, account.openIff]
        by_cases same : other = channelId
        · simp [same, fresh]
        · simp [same]
      · intro other
        simp [closed_snoc, unclosing, account.retiredIff]
      · intro other closed
        rw [closed_snoc] at closed
        have before := closed.resolve_right (unclosing other _)
        exact opened_snoc.mpr (.inl (account.closedOpened other before))
      · rw [Finset.card_insert_of_notMem unopened]
        omega
  | closed channelId named needed unopening known =>
      have unopened : ∀ other after, ¬Event.opens other ⟨call, sets, .ok (), after⟩ := by
        rintro other after ⟨opening, -⟩
        cases unopening.symm.trans opening
      have closesIff : ∀ other after, Event.closes other ⟨call, sets, .ok (), after⟩ ↔
          other = channelId := by
        intro other after
        simp [Event.closes, named, eq_comm]
      constructor
      · intro other
        rw [opened_snoc, closed_snoc, closesIff]
        simp only [unopened, or_false, Finset.mem_erase, account.openIff]
        by_cases same : other = channelId
        · simp [same]
        · simp [same]
      · intro other
        rw [closed_snoc, closesIff, Finset.mem_insert, account.retiredIff, or_comm]
      · intro other closed
        rw [closed_snoc, closesIff] at closed
        apply opened_snoc.mpr
        rcases closed with before | rfl
        · exact .inl (account.closedOpened other before)
        · exact .inl ((account.openIff other).mp known).1
      · have fewer : (sets.openChannels.erase channelId).card ≤ sets.openChannels.card :=
          Finset.card_erase_le
        have bounded := account.bounded
        exact le_trans (Int.ofNat_le.mpr fewer) bounded

/-- What the law asks of one more call. -/
theorem Account.asked (account : Account maxSessions past sets) (call : RegistryCall)
    (channelId : ChannelId) {ended : Except Exc Unit × ChannelSets} (does : call.Does maxSessions sets ended) :
    (call.opening = some channelId → ended.1 = .ok () → ¬Opened channelId past) ∧
    (call.needing = some channelId →
      (ended.1 = .ok () ↔ Opened channelId past ∧ ¬Closed channelId past)) ∧
    (ended.1 ≠ .ok () → ended.2 = sets) := by
  have known := account.openIff channelId
  cases does with
  | refused raised unmet =>
      refine ⟨fun _ impossible => ?_, fun needed => ?_, fun _ => rfl⟩
      · cases impossible
      have unknown := known.not.mp (unmet channelId needed)
      simp [unknown]
  | kept unopening unclosed met =>
      refine ⟨fun opening => ?_, fun needed => ?_, fun _ => rfl⟩
      · cases unopening.symm.trans opening
      · simp [known.mp (met channelId needed)]
  | opened other named unneeded unclosed unopened unretired below =>
      refine ⟨fun opening _ past => ?_, fun needed => ?_, fun failed => absurd rfl failed⟩
      · cases named.symm.trans opening
        have unclosed := (account.retiredIff channelId).not.mp unretired
        exact unopened (known.mpr ⟨past, unclosed⟩)
      · cases unneeded.symm.trans needed
  | closed other named needed unopening member =>
      refine ⟨fun opening => ?_, fun also => ?_, fun failed => absurd rfl failed⟩
      · cases unopening.symm.trans opening
      · cases needed.symm.trans also
        simp [known.mp member]
/-- Along a history every event is as the law asks, given the calls before it. -/
theorem history_lawful (account : Account maxSessions past sets) (calls : List RegistryCall) :
    (∀ event ∈ history maxSessions calls sets,
      Disjoint event.after.openChannels event.after.retiredChannels ∧
        (event.after.openChannels.card : Int) ≤ maxSessions ∧
        (event.outcome ≠ .ok () → event.after = event.before)) ∧
    ∀ channelId middle event rest, history maxSessions calls sets = middle ++ event :: rest →
      (event.opens channelId → ¬Opened channelId (past ++ middle)) ∧
      (event.call.needing = some channelId → (event.outcome = .ok () ↔
        Opened channelId (past ++ middle) ∧ ¬Closed channelId (past ++ middle))) := by
  induction calls generalizing past sets with
  | nil =>
      constructor
      · intro event member
        cases member
      · intro channelId middle event rest split
        cases middle <;> cases split
  | cons call calls ih =>
      have does : call.Does maxSessions sets (call.run maxSessions sets) := call.run_does sets
      have stepped := account.step call does
      obtain ⟨alongIh, splitIh⟩ := ih stepped
      constructor
      · intro event member
        rcases List.mem_cons.mp member with rfl | later
        · exact ⟨stepped.disjoint, stepped.bounded, (account.asked call [] does).2.2⟩
        · exact alongIh event later
      · intro channelId middle event rest split
        cases middle with
        | nil =>
            -- the first event of the history
            obtain ⟨rfl, -⟩ := List.cons.inj split
            rw [List.append_nil]
            have asked := account.asked call channelId does
            exact ⟨fun opens => asked.1 opens.1 opens.2, asked.2.1⟩
        | cons first middle =>
            obtain ⟨rfl, remaining⟩ := List.cons.inj split
            have later := splitIh channelId middle event rest remaining
            rwa [List.append_assoc] at later

theorem account_empty (positive : 0 < maxSessions) : Account maxSessions [] ⟨∅, ∅⟩ := by
  constructor <;> simp [Opened, Closed, positive.le]
end Histories

/-- The law holds of every history of a new registry. -/
theorem registry_law {maxSessions : Int} (positive : 0 < maxSessions) (calls : List RegistryCall) :
    Law maxSessions (history maxSessions calls ⟨∅, ∅⟩) := by
  obtain ⟨along, split⟩ := history_lawful (account_empty positive) calls
  constructor
  · exact fun event member => (along event member).1
  · exact fun event member => (along event member).2.1
  · exact fun channelId past event rest same => (split channelId past event rest same).1
  · exact fun channelId past event rest same => (split channelId past event rest same).2
  · exact fun event member => (along event member).2.2

/-- One channel, opened and closed and then asked for again. -/
theorem registry_law_reuse : Law 1 (history 1 [.openChannel [1], .openChannel [2],
    .applyFrame .CLOSE_SESSION (some [1]), .openChannel [1]] ⟨∅, ∅⟩) :=
  registry_law (by decide) _

/-! The registry that carries its invariant. -/
section Refinement
variable (registry : TunnelChannelRegistry) (channelId : ChannelId)

def setsOf (registry : TunnelChannelRegistry) : ChannelSets :=
  ⟨registry.openChannels, registry.retiredChannels⟩

/-- The outcome of a method of `TunnelChannelRegistry`, with the sets it leaves. -/
def outcomeOf (registry : TunnelChannelRegistry) :
    Except Exc TunnelChannelRegistry → Except Exc Unit × ChannelSets
  | .ok after => (.ok (), setsOf after)
  | .error raised => (.error raised, setsOf registry)

theorem openChannel_refined : ends (openChannel registry.maxSessions channelId) (setsOf registry) =
    outcomeOf registry (registry.openChannel channelId) := by
  rw [RegistryCall.openChannel_run]
  unfold TunnelChannelRegistry.openChannel setsOf
  split_ifs <;> rfl

theorem closeChannel_refined : ends (closeChannel channelId) (setsOf registry) =
    outcomeOf registry (registry.closeChannel channelId) := by
  rw [RegistryCall.closeChannel_run]
  unfold TunnelChannelRegistry.closeChannel setsOf
  split_ifs <;> rfl

theorem requireOpen_refined : ends (requireOpen channelId) (setsOf registry) =
    outcomeOf registry (do registry.requireOpen channelId; .ok registry) := by
  rw [RegistryCall.requireOpen_run]
  unfold TunnelChannelRegistry.requireOpen setsOf
  split_ifs <;> rfl

/-- `apply_channel_frame` as the broker uses it. -/
theorem applyFrame_refined (frameType : TunnelFrameType) (channelId : Option ChannelId) :
    ends (applyFrame registry.maxSessions frameType channelId) (setsOf registry) =
      outcomeOf registry (applyChannelFrame registry frameType channelId) := by
  cases channelId with
  | none => cases frameType <;> rfl
  | some channelId =>
      cases frameType
      case OPEN_SESSION => exact openChannel_refined registry channelId
      case CLOSE_SESSION =>
        have same : ends (applyFrame registry.maxSessions .CLOSE_SESSION (some channelId))
          (setsOf registry) = ends (closeChannel channelId) (setsOf registry) := RegistryCall.closeFrame_run
        rw [same, closeChannel_refined]
        -- the channel that is asked for is the one that is closed
        have closes : applyChannelFrame registry .CLOSE_SESSION (some channelId) =
          registry.requireOpen channelId >>= fun _ => registry.closeChannel channelId := rfl
        rw [closes]
        unfold TunnelChannelRegistry.requireOpen TunnelChannelRegistry.closeChannel
        split_ifs <;> rfl
      case SESSION_DATA => exact requireOpen_refined registry channelId
      case RESIZE_PTY => exact requireOpen_refined registry channelId
      all_goals rfl
end Refinement

end VibeConnect.ChannelLaw
