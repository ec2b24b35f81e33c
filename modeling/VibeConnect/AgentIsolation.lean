import VibeConnect.AgentTunnel
import VibeConnect.TunnelAdmission

/-! What local errors do to an agent's tunnel. While no local call that the loop
awaits fails, the loop does what the frames ask of each channel, whatever
happens to the forwarders, and only the tunnel itself or a frame that the
protocol does not allow ends it. -/
namespace VibeConnect.AgentIsolation
open Python.Text Python.JsonCodec Python.Coroutine Python.Tasks Models TunnelProtocol TunnelState
open TunnelAuthenticator TunnelBroker AgentChannels AgentTunnel TunnelAdmission

def heartbeatReply (decoded : DecodedTunnelFrame) : OutgoingFrame :=
  ⟨.HEARTBEAT, decoded.frame.requestId, none, []⟩

/-- The frames the agent allows after others. -/
def Accepted (library : Library) (before : List DecodedTunnelFrame) (decoded : DecodedTunnelFrame) :
    Prop :=
  match decoded.frame.type with
  | .AUTH_OK => True
  | .HEARTBEAT =>
      ∃ bytes, (heartbeatReply decoded).encode library.json DEFAULT_FRAME_MAX_BYTES = .ok bytes
  | .OPEN_SESSION => ∃ channelId, requireChannelId decoded.frame.channelId = .ok channelId ∧
      deliveredBy channelId before = none
  | .SESSION_DATA | .RESIZE_PTY => ∃ channelId,
      requireChannelId decoded.frame.channelId = .ok channelId ∧ (deliveredBy channelId before).isSome
  | .CLOSE_SESSION => ∃ channelId, requireChannelId decoded.frame.channelId = .ok channelId
  | _ => False

/-- The tunnel ended or failed, or the last frame is not allowed after the others. -/
def Stops (library : Library) (loop : AgentLoop) (done : List DecodedTunnelFrame) : Prop :=
  loop.isOver = true ∨ ∃ last, loop.frames = done ++ [last] ∧ ¬ Accepted library done last

/-- Every channel has a local connection that was given what the frames ask for. -/
structure Follows (loop : AgentLoop) (done : List DecodedTunnelFrame) : Prop where
  formed : loop.WellFormed
  delivered : ∀ channelId, loop.delivered channelId = deliveredBy channelId done
  journal : Journal loop done

/-- What `Follows` reads of a loop. -/
theorem Follows.congr {loop after : AgentLoop} {done : List DecodedTunnelFrame}
    (follows : Follows loop done) (channels : after.channels = loop.channels)
    (created : after.created = loop.created) (written : after.written = loop.written)
    (cancelled : ∀ number, loop.created.length ≤ number → after.cancelled number = false) :
    Follows after done where
  formed := by
    refine ⟨fun entry member => ?_, fun number large => ?_, fun number large => ?_⟩
    · rw [created]
      exact follows.formed.named entry (channels ▸ member)
    · rw [written]
      exact follows.formed.unwritten number (created ▸ large)
    · exact cancelled number (created ▸ large)
  delivered channelId := by
    rw [← follows.delivered channelId, AgentLoop.delivered, AgentLoop.delivered, AgentLoop.find,
      AgentLoop.find, channels, written]
  journal := by
    refine ⟨created.trans follows.journal.created, fun channelId absent => ?_,
      fun once number channelId found => ?_⟩
    · exact follows.journal.unopened channelId (created ▸ absent)
    · rw [written]
      exact follows.journal.sole (created ▸ once) number channelId (created ▸ found)

/-- All frames, or all but the one in hand. -/
def Upto (done frames : List DecodedTunnelFrame) : Prop :=
  frames = done ∨ ∃ last, frames = done ++ [last]

/-- Each channel stands where the frames put it. Unless the tunnel stops, the
loop has not ended and no channel in its table was told to. -/
def Isolated (library : Library) (loop : AgentLoop) (ended : Prop) : Prop :=
  ∃ done, Upto done loop.frames ∧ Follows loop done ∧
    (¬ Stops library loop done → loop.Live ∧ ¬ ended)

/-! The states of the loop. -/
structure Clean (loop : AgentLoop) : Prop where
  live : loop.Live
  going : loop.isOver = false
  unhurt : loop.localFault = false

/-- Between two frames. -/
structure Ready (loop : AgentLoop) : Prop where
  follows : Follows loop loop.frames
  clean : Clean loop

/-- With a frame in hand that has changed nothing yet. -/
structure Holding (done : List DecodedTunnelFrame) (decoded : DecodedTunnelFrame) (loop : AgentLoop) :
    Prop where
  read : loop.frames = done ++ [decoded]
  follows : Follows loop done
  clean : Clean loop

/-- After the `while` loop was left. -/
def GaveUp (library : Library) (loop : AgentLoop) : Prop :=
  ∃ done, Upto done loop.frames ∧ Follows loop done ∧ (loop.localFault = true ∨ Stops library loop done)

/-- At every call. -/
def Routed (library : Library) (loop : AgentLoop) : Prop :=
  ∃ done, Upto done loop.frames ∧ Follows loop done ∧
    (loop.localFault = true ∨ Stops library loop done ∨ loop.Live)

section States
variable {library : Library} {loop : AgentLoop} {done : List DecodedTunnelFrame}
  {decoded : DecodedTunnelFrame}

theorem Follows.fail (locally : Bool) (follows : Follows loop done) : Follows (loop.fail locally) done := by
  cases locally with
  | false => exact follows.congr rfl rfl rfl follows.formed.uncancelled
  | true => exact follows.congr rfl rfl rfl follows.formed.uncancelled

theorem fail_frames (locally : Bool) : (loop.fail locally).frames = loop.frames := by
  cases locally <;> rfl

theorem fail_hurt (library : Library) (locally : Bool) (done : List DecodedTunnelFrame) :
    (loop.fail locally).localFault = true ∨ Stops library (loop.fail locally) done := by
  cases locally with
  | false => exact .inr (.inl rfl)
  | true => exact .inl rfl

theorem Follows.gaveUp (locally : Bool) (upto : Upto done loop.frames) (follows : Follows loop done) :
    GaveUp library (loop.fail locally) :=
  ⟨done, by rw [fail_frames]; exact upto, follows.fail locally, fail_hurt library locally done⟩

theorem Holding.refused (holding : Holding done decoded loop)
    (refused : ¬ Accepted library done decoded) : GaveUp library loop :=
  ⟨done, .inr ⟨decoded, holding.read⟩, holding.follows, .inr (.inr ⟨decoded, holding.read, refused⟩)⟩

theorem GaveUp.routed (gaveUp : GaveUp library loop) : Routed library loop := by
  obtain ⟨done, upto, follows, hurt | stops⟩ := gaveUp
  · exact ⟨done, upto, follows, .inl hurt⟩
  · exact ⟨done, upto, follows, .inr (.inl stops)⟩

/-- A fact about the loop that it can keep through a call. -/
structure Standing (library : Library) (fact : AgentLoop → Prop) : Prop where
  routed : ∀ loop, fact loop → Routed library loop
  fails : ∀ loop locally, fact loop → GaveUp library (loop.fail locally)

theorem standing_ready : Standing library Ready where
  routed _ ready := ⟨_, .inl rfl, ready.follows, .inr (.inr ready.clean.live)⟩
  fails _ locally ready := ready.follows.gaveUp locally (.inl rfl)

theorem standing_holding : Standing library (Holding done decoded) where
  routed _ holding := ⟨done, .inr ⟨decoded, holding.read⟩, holding.follows, .inr (.inr holding.clean.live)⟩
  fails _ locally holding := holding.follows.gaveUp locally (.inr ⟨decoded, holding.read⟩)

theorem Standing.and {fact : AgentLoop → Prop} (standing : Standing library fact)
    (extra : AgentLoop → Prop) :
    Standing library fun loop => fact loop ∧ extra loop where
  routed loop known := standing.routed loop known.1
  fails loop locally known := standing.fails loop locally known.1

theorem ready_empty : Ready .empty where
  follows := ⟨AgentLoop.wellFormed_empty, fun _ => rfl, .empty⟩
  clean := ⟨fun _ impossible => (List.not_mem_nil impossible).elim, rfl, rfl⟩

theorem Ready.receive (ready : Ready loop) (decoded : DecodedTunnelFrame) :
    Holding loop.frames decoded (loop.receive decoded) where
  read := rfl
  follows := ready.follows.congr rfl rfl rfl ready.follows.formed.uncancelled
  clean := ⟨ready.clean.live, ready.clean.going, ready.clean.unhurt⟩

theorem Follows.closeWriter (number : Nat) (follows : Follows loop done) :
    Follows (loop.closeWriter number) done :=
  follows.congr rfl rfl rfl follows.formed.uncancelled

theorem Ready.closeWriter (number : Nat) (ready : Ready loop) : Ready (loop.closeWriter number) where
  follows := ready.follows.closeWriter number
  clean := ⟨ready.clean.live, ready.clean.going, ready.clean.unhurt⟩

/-- The types that change what a channel has been sent. -/
def Moving (type : TunnelFrameType) : Prop :=
  type = .OPEN_SESSION ∨ type = .SESSION_DATA ∨ type = .CLOSE_SESSION

theorem deliveredStep_idle {channelId : ChannelId} {sent : Option Bytes}
    (idle : ¬ Moving decoded.frame.type) : deliveredStep channelId sent decoded = sent := by
  unfold deliveredStep
  unfold Moving at idle
  split
  · cases type : decoded.frame.type <;> simp [type] at idle ⊢
  · rfl

/-- A frame that asks nothing of any channel. -/
theorem Holding.skip (holding : Holding done decoded loop) (idle : ¬ Moving decoded.frame.type) :
    Ready loop where
  follows := by
    rw [holding.read]
    refine ⟨holding.follows.formed, fun channelId => ?_, ?_⟩
    · rw [deliveredBy_append, deliveredStep_idle idle]
      exact holding.follows.delivered channelId
    · unfold Moving at idle
      refine holding.follows.journal.skip ?_ (fun channelId => ?_) rfl rfl
      · exact if_neg fun opens => idle (.inl opens)
      · exact if_neg fun data => idle (.inr (.inl data.1))
  clean := holding.clean

/-- A change of one channel's connection that is what the frame asks for. -/
theorem Holding.finish {after : AgentLoop} {channelId : ChannelId} (holding : Holding done decoded loop)
    (frames : after.frames = loop.frames) (formed : after.WellFormed)
    (journal : Journal after (done ++ [decoded])) (clean : Clean after)
    (named : decoded.frame.channelId = some channelId)
    (mine : after.delivered channelId = deliveredStep channelId (loop.delivered channelId) decoded)
    (others : ∀ other, other ≠ channelId → after.delivered other = loop.delivered other) :
    Ready after where
  follows := by
    rw [frames, holding.read]
    refine ⟨formed, fun other => ?_, journal⟩
    rw [deliveredBy_append, ← holding.follows.delivered]
    by_cases same : other = channelId
    · rw [same, mine]
    · have unnamed : decoded.frame.channelId ≠ some other := by
        intro equal
        exact same (Option.some.inj (equal.symm.trans named))
      rw [others other same, deliveredStep, if_neg unnamed]
  clean := clean

theorem Holding.opened {channelId : ChannelId} (holding : Holding done decoded loop)
    (opens : decoded.frame.type = .OPEN_SESSION) (named : decoded.frame.channelId = some channelId)
    (absent : loop.find channelId = none) : Ready (loop.create channelId) := by
  have formed := holding.follows.formed
  have journal : Journal (loop.create channelId) (done ++ [decoded]) := by
    refine holding.follows.journal.create formed ?_ fun other => ?_
    · rw [opening, if_pos opens, named]
    · simp [carried, opens]
  refine holding.finish rfl formed.create journal ?_ named ?_ ?_
  · exact ⟨holding.clean.live.create formed, holding.clean.going, holding.clean.unhurt⟩
  · rw [AgentLoop.delivered_create formed absent, if_pos rfl, deliveredStep, if_pos named, opens]
  · intro other apart
    rw [AgentLoop.delivered_create formed absent, if_neg apart]

theorem Holding.wrote {channelId : ChannelId} {number : Nat} (holding : Holding done decoded loop)
    (data : decoded.frame.type = .SESSION_DATA) (named : decoded.frame.channelId = some channelId)
    (found : loop.find channelId = some number) : Ready (loop.write number decoded.payload) := by
  have formed := holding.follows.formed
  refine holding.finish rfl (formed.write (formed.inUse (AgentLoop.find_mem found)))
    (holding.follows.journal.write formed found data named) ?_ named ?_ ?_
  · exact ⟨holding.clean.live, holding.clean.going, holding.clean.unhurt⟩
  · rw [AgentLoop.delivered_write formed found, if_pos rfl, deliveredStep, if_pos named, data]
  · intro other apart
    rw [AgentLoop.delivered_write formed found, if_neg apart]

theorem Holding.closed {channelId : ChannelId} {number : Nat} (holding : Holding done decoded loop)
    (closes : decoded.frame.type = .CLOSE_SESSION) (named : decoded.frame.channelId = some channelId)
    (found : loop.find channelId = some number) : Ready ((loop.pop channelId).cancel number) := by
  have formed := holding.follows.formed
  have small : number < (loop.pop channelId).created.length :=
    formed.inUse (AgentLoop.find_mem found)
  have journal : Journal ((loop.pop channelId).cancel number) (done ++ [decoded]) :=
    holding.follows.journal.skip (by simp [opening, closes]) (by simp [carried, closes]) rfl rfl
  refine holding.finish rfl (formed.pop.cancel small) journal ?_ named ?_ ?_
  · exact ⟨holding.clean.live.close formed found, holding.clean.going, holding.clean.unhurt⟩
  · have gone : ((loop.pop channelId).cancel number).delivered channelId = none :=
      AgentLoop.delivered_pop.trans (if_pos rfl)
    rw [gone, deliveredStep, if_pos named, closes]
  · intro other apart
    exact AgentLoop.delivered_pop.trans (if_neg apart)
end States

/-- The loop's tables are its own. -/
def sameLoop (connectionId : ConnectionId) (before after : TunnelWorld) : Prop :=
  loopOf connectionId after = loopOf connectionId before

/-- What may be kept beside the loop's own state: a property of the world that
survives the answers to the loop's calls, its changes of its own tables, and the
frames it replies with. -/
structure Beside (connectionId : ConnectionId) (world : World TunnelWorld TunnelResult Exc)
    (extra : TunnelWorld → Prop) (guarantee : TunnelWorld → TunnelWorld → Prop) : Prop where
  answers : ∀ call answer before after, world call answer before after →
    loopWorld connectionId call answer before after
  kept : ∀ call answer before after, world call answer before after → extra before → extra after
  still : ∀ state, guarantee state state
  looped : ∀ state change, (∀ loop : AgentLoop, (change loop).frames = loop.frames ∧
      (change loop).created = loop.created) → extra state →
    guarantee state (onLoop connectionId change state) ∧ extra (onLoop connectionId change state)
  created : ∀ state channelId, extra state → Ready ((loopOf connectionId state).create channelId) →
    guarantee state (onLoop connectionId (·.create channelId) state) ∧
      extra (onLoop connectionId (·.create channelId) state)
  replied : ∀ state frame, frame.type = .HEARTBEAT → extra state →
    guarantee state (emit connectionId frame state) ∧ extra (emit connectionId frame state)

section Runs
variable {library : Library} {connectionId : ConnectionId} {state : TunnelWorld}
  {done : List DecodedTunnelFrame} {decoded : DecodedTunnelFrame}
  {world : World TunnelWorld TunnelResult Exc} {extra : TunnelWorld → Prop}
  {guarantee : TunnelWorld → TunnelWorld → Prop}

/-- A fact about the loop, with what is kept beside it. -/
def With (connectionId : ConnectionId) (extra : TunnelWorld → Prop) (fact : AgentLoop → Prop)
    (world : TunnelWorld) : Prop :=
  fact (loopOf connectionId world) ∧ extra world

abbrev Runs (library : Library) (connectionId : ConnectionId) (world : World TunnelWorld TunnelResult Exc)
    (extra : TunnelWorld → Prop) (guarantee : TunnelWorld → TunnelWorld → Prop) {α : Type}
    (program : TunnelTask α) (post : Except Exc α → TunnelWorld → Prop) (state : TunnelWorld) : Prop :=
  program.wp (answered world (With connectionId extra (Routed library)) (sameLoop connectionId))
    (obliged (With connectionId extra (Routed library)) guarantee) post state

/-- Go on with a fact, or leave the loop. -/
def orLeave {α : Type} (library : Library) (connectionId : ConnectionId) (extra : TunnelWorld → Prop)
    (fact : AgentLoop → Prop) : Except Exc α → TunnelWorld → Prop :=
  Coro.either (fun _ => With connectionId extra fact) fun _ => With connectionId extra (GaveUp library)

/-- Every answer to the call is noted as it is. -/
def Notes (connectionId : ConnectionId) (call : TunnelCall) : Prop :=
  ∀ answer before after, loopWorld connectionId call answer before after →
    ∃ locally, loopOf connectionId after = noted locally answer (loopOf connectionId before)

theorem notes_connectLocal : Notes connectionId .connectLocal :=
  fun answer _ _ given => ⟨true, by rw [given, loopOf_onLoop]⟩

theorem notes_localDrain {number : Nat} : Notes connectionId (.localDrain number) :=
  fun answer _ _ given => ⟨true, by rw [given, loopOf_onLoop]⟩

theorem notes_localWaitClosed {number : Nat} : Notes connectionId (.localWaitClosed number) :=
  fun answer _ _ given => ⟨true, by rw [given, loopOf_onLoop]⟩

theorem notes_sleep : Notes connectionId .sleep :=
  fun answer _ _ given => ⟨false, by rw [given, loopOf_onLoop]⟩

theorem notes_drain : Notes connectionId .drain :=
  fun answer _ _ given => ⟨false, by rw [given, loopOf_onLoop]⟩

theorem notes_never : Notes connectionId .never := by
  intro answer before after given
  cases answer with
  | ok value => exact given.elim
  | error fault => exact ⟨false, by rw [given, loopOf_onLoop]⟩

variable (beside : Beside connectionId world extra guarantee)
include beside

theorem wait_runs {call : TunnelCall} {fact : AgentLoop → Prop} (notes : Notes connectionId call)
    (standing : Standing library fact) (known : With connectionId extra fact state) :
    Runs library connectionId world extra guarantee (wait call)
      (orLeave library connectionId extra fact) state := by
  refine call_safe ⟨standing.routed _ known.1, known.2⟩ ?_
  intro answer resumed after relied still given
  have kept := beside.kept call answer resumed after given still.2
  obtain ⟨locally, same⟩ := notes answer resumed after (beside.answers _ _ _ _ given)
  rw [relied] at same
  cases answer with
  | ok value =>
      refine ⟨?_, kept⟩
      rw [same]
      exact known.1
  | error fault =>
      refine ⟨?_, kept⟩
      rw [same]
      exact standing.fails _ _ known.1

/-- Awaiting a forwarder raises what the forwarder raised, a cancellation apart. -/
theorem join_runs {number : Nat} {fact : AgentLoop → Prop} (standing : Standing library fact)
    (known : With connectionId extra fact state) : Runs library connectionId world extra guarantee
      (tryCatch (wait (.joinForwarder number)) fun raised =>
        if raised = .cancelledError then pure () else throw raised)
      (orLeave library connectionId extra fact) state := by
  refine Coro.wp_handle (call_safe ⟨standing.routed _ known.1, known.2⟩ ?_)
  intro answer resumed after relied still given
  have kept := beside.kept _ answer resumed after given still.2
  rcases beside.answers _ answer resumed after given with ⟨rfl, same⟩ | ⟨uncancelled, -, same⟩
  · refine ⟨?_, kept⟩
    rw [same, relied]
    exact known.1
  · cases answer with
    | ok value =>
        refine ⟨?_, kept⟩
        rw [same, loopOf_onLoop, relied]
        exact known.1
    | error fault =>
        have raised : fault ≠ .cancelledError := fun equal => uncancelled (congrArg _ equal)
        dsimp only
        rw [if_neg raised]
        refine ⟨?_, kept⟩
        rw [same, loopOf_onLoop, relied]
        exact standing.fails _ _ known.1

/-- A change of the loop's own tables that reads and makes nothing. -/
theorem onLoop_runs {change : AgentLoop → AgentLoop} {fact : AgentLoop → Prop}
    (plain : ∀ loop : AgentLoop, (change loop).frames = loop.frames ∧
      (change loop).created = loop.created)
    (kept : extra state) (changed : fact (change (loopOf connectionId state))) :
    Runs library connectionId world extra guarantee (update (onLoop connectionId change))
      (orLeave library connectionId extra fact) state := by
  obtain ⟨owed, still⟩ := beside.looped state change plain kept
  refine update_safe owed ⟨?_, still⟩
  rw [loopOf_onLoop]
  exact changed

theorem closeChannel_runs {number : Nat} {fact : AgentLoop → Prop} (standing : Standing library fact)
    (closes : ∀ loop, fact loop → fact (loop.closeWriter number)) (kept : extra state)
    (cancelled : fact ((loopOf connectionId state).cancel number)) :
    Runs library connectionId world extra guarantee (closeChannel connectionId number)
      (orLeave library connectionId extra fact) state := by
  have plain : ∀ loop : AgentLoop, (loop.cancel number).frames = loop.frames ∧
      (loop.cancel number).created = loop.created := fun _ => ⟨rfl, rfl⟩
  apply Coro.wp_seq (onLoop_runs beside plain kept cancelled)
  intro _ told known
  apply Coro.wp_seq (join_runs beside standing known)
  intro _ joined known
  have idle : ∀ loop : AgentLoop, (loop.closeWriter number).frames = loop.frames ∧
      (loop.closeWriter number).created = loop.created := fun _ => ⟨rfl, rfl⟩
  apply Coro.wp_seq (onLoop_runs beside idle known.2 (closes _ known.1))
  intro _ closed known
  exact wait_runs beside notes_localWaitClosed standing known

/-- The reply to a heartbeat. -/
theorem writeFrame_runs {frame : OutgoingFrame} {bound : Int} {fact : AgentLoop → Prop}
    (standing : Standing library fact) (known : With connectionId extra fact state)
    (type : frame.type = .HEARTBEAT)
    (refused : ∀ fault, frame.encode library.json bound = .error fault →
      GaveUp library (loopOf connectionId state)) :
    Runs library connectionId world extra guarantee
      (AgentTunnel.writeFrame library connectionId frame bound)
      (orLeave library connectionId extra fact) state := by
  refine Coro.wp_bind (attempt_safe (beside.still state) ?_ ?_)
  · intro after written
    obtain ⟨_, -, written⟩ := bind_ok.mp written
    cases written
    obtain ⟨owed, still⟩ := beside.replied state frame type known.2
    refine ⟨owed, wait_runs beside notes_drain standing ⟨?_, still⟩⟩
    rw [loopOf_emit]
    exact known.1
  · intro fault failed
    refine ⟨?_, known.2⟩
    cases encoded : frame.encode library.json bound with
    | error raised => exact refused raised encoded
    | ok bytes =>
        rw [encoded] at failed
        cases failed

omit beside in
/-- The types that need a channel id. -/
def Addressed (type : TunnelFrameType) : Prop :=
  type = .OPEN_SESSION ∨ type = .SESSION_DATA ∨ type = .RESIZE_PTY ∨ type = .CLOSE_SESSION

omit beside in
theorem Accepted.named (accepted : Accepted library done decoded)
    (addressed : Addressed decoded.frame.type) :
    ∃ channelId, requireChannelId decoded.frame.channelId = .ok channelId := by
  unfold Accepted at accepted
  rcases addressed with type | type | type | type <;> rw [type] at accepted
  · exact accepted.imp fun _ both => both.1
  · exact accepted.imp fun _ both => both.1
  · exact accepted.imp fun _ both => both.1
  · exact accepted

omit beside in
/-- The channel id of a frame, then what is done with it. -/
theorem named_runs {next : ChannelId → TunnelTask Unit}
    (holding : With connectionId extra (Holding done decoded) state)
    (addressed : Addressed decoded.frame.type)
    (named : ∀ channelId, requireChannelId decoded.frame.channelId = .ok channelId →
      Runs library connectionId world extra guarantee (next channelId)
        (orLeave library connectionId extra Ready) state) :
    Runs library connectionId world extra guarantee
      (Coro.ofAnswer (requireChannelId decoded.frame.channelId) >>= next)
      (orLeave library connectionId extra Ready) state := by
  refine Coro.wp_bind (Coro.wp_ofAnswer ?_)
  cases required : requireChannelId decoded.frame.channelId with
  | ok channelId => exact named channelId required
  | error fault =>
      refine ⟨holding.1.refused ?_, holding.2⟩
      intro accepted
      obtain ⟨channelId, given⟩ := accepted.named addressed
      cases required.symm.trans given

section Lookups
omit beside
variable {loop : AgentLoop} {channelId : ChannelId}

theorem Holding.lookup (holding : Holding done decoded loop) :
    deliveredBy channelId done = (loop.find channelId).map loop.written :=
  (holding.follows.delivered channelId).symm

/-- An id in use is not opened again. -/
theorem Holding.reuse {number : Nat} (holding : Holding done decoded loop)
    (type : decoded.frame.type = .OPEN_SESSION)
    (required : requireChannelId decoded.frame.channelId = .ok channelId)
    (found : loop.find channelId = some number) : GaveUp library loop := by
  apply holding.refused
  intro accepted
  unfold Accepted at accepted
  rw [type] at accepted
  obtain ⟨again, same, absent⟩ := accepted
  cases required.symm.trans same
  rw [holding.lookup, found] at absent
  cases absent

/-- Data and sizes are for channels in the table. -/
theorem Holding.unknown (holding : Holding done decoded loop)
    (type : decoded.frame.type = .SESSION_DATA ∨ decoded.frame.type = .RESIZE_PTY)
    (required : requireChannelId decoded.frame.channelId = .ok channelId)
    (absent : loop.find channelId = none) : GaveUp library loop := by
  apply holding.refused
  intro accepted
  have known : ∃ again, requireChannelId decoded.frame.channelId = .ok again ∧
      (deliveredBy again done).isSome := by
    unfold Accepted at accepted
    rcases type with type | type <;> rw [type] at accepted
    · exact accepted
    · exact accepted
  obtain ⟨again, same, present⟩ := known
  cases required.symm.trans same
  rw [holding.lookup, absent] at present
  cases present
end Lookups

theorem open_runs (holding : With connectionId extra (Holding done decoded) state)
    (type : decoded.frame.type = .OPEN_SESSION) :
    Runs library connectionId world extra guarantee (handleFrame library connectionId decoded)
      (orLeave library connectionId extra Ready) state := by
  unfold handleFrame
  rw [type]
  apply named_runs holding (.inl type)
  intro channelId required
  refine Coro.wp_bind (look_safe ?_)
  dsimp only
  cases found : (loopOf connectionId state).find channelId with
  | some number => exact ⟨holding.1.reuse type required found, holding.2⟩
  | none =>
      apply Coro.wp_seq (wait_runs beside notes_connectLocal
        (standing_holding.and fun loop => loop.find channelId = none) ⟨⟨holding.1, found⟩, holding.2⟩)
      rintro _ connected ⟨⟨holding, absent⟩, kept⟩
      have opened := holding.opened type (requireChannelId_ok required) absent
      obtain ⟨owed, still⟩ := beside.created connected channelId kept opened
      refine Coro.wp_bind (update_safe owed (wait_runs beside notes_sleep standing_ready ⟨?_, still⟩))
      rw [loopOf_onLoop]
      exact opened

theorem data_runs (holding : With connectionId extra (Holding done decoded) state)
    (type : decoded.frame.type = .SESSION_DATA) :
    Runs library connectionId world extra guarantee (handleFrame library connectionId decoded)
      (orLeave library connectionId extra Ready) state := by
  unfold handleFrame
  rw [type]
  apply named_runs holding (.inr (.inl type))
  intro channelId required
  refine Coro.wp_bind (look_safe ?_)
  dsimp only
  cases found : (loopOf connectionId state).find channelId with
  | none => exact ⟨holding.1.unknown (.inl type) required found, holding.2⟩
  | some number =>
      have failing := beside.looped state (·.fail true) (fun _ => ⟨rfl, rfl⟩) holding.2
      have writing := beside.looped state (·.write number decoded.payload) (fun _ => ⟨rfl, rfl⟩) holding.2
      cases broken : (state.agentSide connectionId).broken number with
      | some fault =>
          have block : writeLocal connectionId number decoded.payload state =
              (.error fault, onLoop connectionId (·.fail true) state) := by
            rw [writeLocal, broken]
          refine Coro.wp_bind (change_safe (by rw [block]; exact failing.1) ?_)
          rw [block]
          refine ⟨?_, failing.2⟩
          rw [loopOf_onLoop]
          exact standing_holding.fails _ true holding.1
      | none =>
          have block : writeLocal connectionId number decoded.payload state =
              (.ok (), onLoop connectionId (·.write number decoded.payload) state) := by
            rw [writeLocal, broken]
          refine Coro.wp_bind (change_safe (by rw [block]; exact writing.1) ?_)
          rw [block]
          refine wait_runs beside notes_localDrain standing_ready ⟨?_, writing.2⟩
          rw [loopOf_onLoop]
          exact holding.1.wrote type (requireChannelId_ok required) found

omit beside in
theorem resize_runs (holding : With connectionId extra (Holding done decoded) state)
    (type : decoded.frame.type = .RESIZE_PTY) :
    Runs library connectionId world extra guarantee (handleFrame library connectionId decoded)
      (orLeave library connectionId extra Ready) state := by
  unfold handleFrame
  rw [type]
  apply named_runs holding (.inr (.inr (.inl type)))
  intro channelId required
  refine Coro.wp_bind (look_safe ?_)
  dsimp only
  cases found : (loopOf connectionId state).find channelId with
  | none => exact ⟨holding.1.unknown (.inr type) required found, holding.2⟩
  | some number => exact ⟨holding.1.skip (by simp [Moving, type]), holding.2⟩

theorem close_runs (holding : With connectionId extra (Holding done decoded) state)
    (type : decoded.frame.type = .CLOSE_SESSION) :
    Runs library connectionId world extra guarantee (handleFrame library connectionId decoded)
      (orLeave library connectionId extra Ready) state := by
  unfold handleFrame
  rw [type]
  apply named_runs holding (.inr (.inr (.inr type)))
  intro channelId required
  have named := requireChannelId_ok required
  refine Coro.wp_bind (look_safe ?_)
  dsimp only
  cases found : (loopOf connectionId state).find channelId with
  | none =>
      have journal : Journal (loopOf connectionId state) (done ++ [decoded]) :=
        holding.1.follows.journal.skip (by simp [opening, type]) (by simp [carried, type]) rfl rfl
      refine ⟨holding.1.finish rfl holding.1.follows.formed journal holding.1.clean named ?_
        fun _ _ => rfl, holding.2⟩
      rw [deliveredStep, if_pos named, type]
      exact congrArg _ found
  | some number =>
      obtain ⟨owed, kept⟩ := beside.looped state (·.pop channelId) (fun _ => ⟨rfl, rfl⟩) holding.2
      have closes : ∀ loop, Ready loop → Ready (loop.closeWriter number) :=
        fun _ => Ready.closeWriter number
      refine Coro.wp_bind (update_safe owed (closeChannel_runs beside standing_ready closes kept ?_))
      rw [loopOf_onLoop]
      exact holding.1.closed type named found

/-- A frame in hand is done, or the loop is left with a reason. -/
theorem handleFrame_runs (holding : With connectionId extra (Holding done decoded) state) :
    Runs library connectionId world extra guarantee (handleFrame library connectionId decoded)
      (orLeave library connectionId extra Ready) state := by
  cases type : decoded.frame.type with
  | OPEN_SESSION => exact open_runs beside holding type
  | SESSION_DATA => exact data_runs beside holding type
  | RESIZE_PTY => exact resize_runs holding type
  | CLOSE_SESSION => exact close_runs beside holding type
  | AUTH_OK =>
      unfold handleFrame
      rw [type]
      exact ⟨holding.1.skip (by simp [Moving, type]), holding.2⟩
  | HEARTBEAT =>
      unfold handleFrame
      rw [type]
      have ready := holding.1.skip (by simp [Moving, type])
      refine writeFrame_runs beside standing_ready ⟨ready, holding.2⟩ rfl ?_
      intro fault raised
      apply holding.1.refused
      intro accepted
      unfold Accepted at accepted
      rw [type] at accepted
      obtain ⟨bytes, encoded⟩ := accepted
      cases raised.symm.trans encoded
  | AUTH | RENEW_AGENT_CERT | ROTATE_TUNNEL_SECRET | ERROR =>
      unfold handleFrame
      rw [type]
      refine ⟨holding.1.refused ?_, holding.2⟩
      unfold Accepted
      rw [type]
      exact id

/-- The `while` loop is only left with a reason. -/
theorem frameLoop_runs {turns : Nat} (ready : With connectionId extra Ready state) :
    Runs library connectionId world extra guarantee (frameLoop library connectionId turns)
      (fun _ => With connectionId extra (GaveUp library)) state := by
  induction turns generalizing state with
  | zero =>
      refine call_safe ⟨standing_ready.routed _ ready.1, ready.2⟩ ?_
      intro answer resumed after relied still given
      have kept := beside.kept _ answer resumed after given still.2
      have noticed := beside.answers _ answer resumed after given
      cases answer with
      | ok value => exact noticed.elim
      | error fault =>
          obtain ⟨locally, same⟩ := notes_never _ _ _ noticed
          refine ⟨?_, kept⟩
          rw [same, relied]
          exact standing_ready.fails _ _ ready.1
  | succ turns ih =>
      refine Coro.wp_bind (call_safe ⟨standing_ready.routed _ ready.1, ready.2⟩ ?_)
      intro answer resumed after relied still given
      have kept := beside.kept _ answer resumed after given still.2
      have same := beside.answers _ answer resumed after given
      have before := ready.1
      rw [← relied] at before
      rcases answer with fault | read | decoded
      · refine ⟨?_, kept⟩
        rw [same, loopOf_onLoop]
        exact standing_ready.fails _ false before
      · refine ⟨?_, kept⟩
        rw [same, loopOf_onLoop]
        exact standing_ready.fails _ false before
      · have holding : Holding (loopOf connectionId resumed).frames decoded
            (loopOf connectionId after) := by
          rw [same, loopOf_onLoop]
          exact before.receive decoded
        refine Coro.wp_bind (Coro.wp_mono ?_ (handleFrame_runs beside ⟨holding, kept⟩))
        rintro (fault | _) handled reached
        · exact reached
        · exact ih reached

omit beside in
theorem GaveUp.fail {loop : AgentLoop} (gaveUp : GaveUp library loop) (locally : Bool) :
    GaveUp library (loop.fail locally) := by
  obtain ⟨done, upto, follows, -⟩ := gaveUp
  exact follows.gaveUp locally upto

omit beside in
theorem GaveUp.cancel {loop : AgentLoop} {number : Nat} (gaveUp : GaveUp library loop)
    (small : number < loop.created.length) : GaveUp library (loop.cancel number) := by
  obtain ⟨done, upto, follows, reason⟩ := gaveUp
  have still : Follows (loop.cancel number) done :=
    follows.congr rfl rfl rfl (follows.formed.cancel small).uncancelled
  exact ⟨done, upto, still, reason⟩

omit beside in
theorem GaveUp.closeWriter {loop : AgentLoop} {number : Nat} (gaveUp : GaveUp library loop) :
    GaveUp library (loop.closeWriter number) := by
  obtain ⟨done, upto, follows, reason⟩ := gaveUp
  exact ⟨done, upto, follows.closeWriter number, reason⟩

/-- The loop is left, and some of the local connections are still to be closed. -/
def Leaving (library : Library) (left : List (ChannelId × Nat)) (loop : AgentLoop) : Prop :=
  GaveUp library loop ∧ ∀ entry ∈ left, entry.2 < loop.created.length

omit beside in
theorem standing_leaving {left : List (ChannelId × Nat)} : Standing library (Leaving library left) where
  routed _ leaving := leaving.1.routed
  fails _ locally leaving := leaving.1.fail locally

theorem closeEach_runs {left : List (ChannelId × Nat)}
    (leaving : With connectionId extra (Leaving library left) state) :
    Runs library connectionId world extra guarantee (closeEach connectionId left)
      (fun _ => With connectionId extra (GaveUp library)) state := by
  induction left generalizing state with
  | nil => exact ⟨leaving.1.1, leaving.2⟩
  | cons entry rest ih =>
      have small := leaving.1.2 entry List.mem_cons_self
      have cancelled : Leaving library rest ((loopOf connectionId state).cancel entry.2) :=
        ⟨leaving.1.1.cancel small, fun other member => leaving.1.2 other (List.mem_cons_of_mem _ member)⟩
      have closes : ∀ loop, Leaving library rest loop → Leaving library rest (loop.closeWriter entry.2) :=
        fun _ leaving => ⟨leaving.1.closeWriter, leaving.2⟩
      refine Coro.wp_bind (Coro.wp_mono ?_
        (closeChannel_runs beside standing_leaving closes leaving.2 cancelled))
      rintro (fault | _) closed reached
      · exact reached
      · exact ih reached

theorem handleAgentTunnelStream_runs {turns : Nat} (ready : With connectionId extra Ready state) :
    Runs library connectionId world extra guarantee (handleAgentTunnelStream library connectionId turns)
      (fun _ => With connectionId extra (GaveUp library)) state := by
  refine Coro.wp_finallyDo (Coro.wp_mono ?_ (frameLoop_runs beside ready))
  intro ended left gaveUp
  refine Coro.wp_bind (look_safe ?_)
  have numbered : ∀ entry ∈ (loopOf connectionId left).channels,
      entry.2 < (loopOf connectionId left).created.length := by
    obtain ⟨done, -, follows, -⟩ := gaveUp.1
    exact fun entry member => follows.formed.inUse member
  refine Coro.wp_mono ?_ (closeEach_runs beside ⟨⟨gaveUp.1, numbered⟩, gaveUp.2⟩)
  rintro (fault | _) after reached <;> exact reached
end Runs

/-! All tasks of an agent together. -/
section Pools
variable {library : Library} {connectionId : ConnectionId} {maxFrameBytes : Int}

abbrev Known (library : Library) (connectionId : ConnectionId) : TunnelWorld → Prop :=
  With connectionId (fun _ => True) (Routed library)

/-- The loop ends with a fact about its tables, which nobody else touches. -/
def contract (connectionId : ConnectionId) (fact : AgentLoop → Prop) :
    AgentTask → Contract TunnelWorld Exc Unit
  | .loop => ⟨sameLoop connectionId, fun _ _ => True, fun _ after => fact (loopOf connectionId after)⟩
  | _ => ⟨fun _ _ => True, sameLoop connectionId, fun _ _ => True⟩

theorem contract_lawful {fact : AgentLoop → Prop} (task : AgentTask) :
    (contract connectionId fact task).Lawful := by
  cases task with
  | loop =>
      refine ⟨fun _ => rfl, fun _ _ _ first second => second.trans first, fun _ => trivial,
        fun _ _ _ _ _ => trivial, fun _ before after known relied => ?_⟩
      have same : loopOf connectionId after = loopOf connectionId before := relied
      change fact (loopOf connectionId after)
      rw [same]
      exact known
  | forwarder number | breaking serial =>
      exact ⟨fun _ => trivial, fun _ _ _ _ _ => trivial, fun _ => rfl,
        fun _ _ _ first second => second.trans first, fun _ _ _ _ _ => trivial⟩

/-- The loop alone, with nothing kept beside it. -/
theorem beside_nothing : Beside connectionId (loopWorld connectionId) (fun _ => True) fun _ _ => True where
  answers _ _ _ _ := id
  kept _ _ _ _ _ _ := trivial
  still _ := trivial
  looped _ _ _ _ := ⟨trivial, trivial⟩
  created _ _ _ _ := ⟨trivial, trivial⟩
  replied _ _ _ _ := ⟨trivial, trivial⟩

theorem Known.same {before after : TunnelWorld} (same : sameLoop connectionId before after)
    (known : Known library connectionId before) : Known library connectionId after := by
  refine ⟨?_, trivial⟩
  rw [same]
  exact known.1

theorem forwarderWorld_same {number : Nat} {call : TunnelCall} {answer : Except Exc (TunnelResult call)}
    {before after : TunnelWorld} (given : forwarderWorld connectionId number call answer before after) :
    sameLoop connectionId before after := by
  unfold forwarderWorld at given
  unfold sameLoop
  split at given
  · rw [given.2, loopOf_onForwarder]
  · rw [given, loopOf_onForwarder]
  · exact given.elim
  · rw [given]

/-! A forwarder and a breaking leave the loop's tables alone, and with them what
is known of the loop. -/
section Aside
variable {inv : TunnelWorld → Prop}
  (stable : ∀ before after, sameLoop connectionId before after → inv before → inv after)

/-- Runs of a task that leaves the loop's tables alone. -/
abbrev AsideRuns (connectionId : ConnectionId) (inv : TunnelWorld → Prop) (number : Nat) {α : Type}
    (program : TunnelTask α) (state : TunnelWorld) : Prop :=
  program.wp (answered (forwarderWorld connectionId number) inv fun _ _ => True)
    (obliged inv (sameLoop connectionId)) (fun _ after => inv after) state

variable {number : Nat} {channelId : ChannelId} {turns : Nat} {state : TunnelWorld}
include stable

theorem wait_aside {call : TunnelCall} (known : inv state) :
    AsideRuns connectionId inv number (wait call) state := by
  refine call_safe known ?_
  intro answer resumed after _ still given
  exact stable resumed after (forwarderWorld_same given) still

theorem writeFrame_aside {frame : OutgoingFrame} {bound : Int} (known : inv state) :
    AsideRuns connectionId inv number (AgentTunnel.writeFrame library connectionId frame bound) state := by
  refine Coro.wp_bind (attempt_safe rfl ?_ ?_)
  · intro after written
    obtain ⟨_, -, written⟩ := bind_ok.mp written
    cases written
    exact ⟨loopOf_emit, wait_aside stable (stable _ _ loopOf_emit known)⟩
  · exact fun _ _ => known

theorem forward_aside (known : inv state) : AsideRuns connectionId inv number
    (forwardLocalToTunnel library connectionId maxFrameBytes number channelId turns) state := by
  induction turns generalizing state with
  | zero => exact wait_aside stable known
  | succ turns ih =>
      refine Coro.wp_bind (Coro.wp_mono ?_ (wait_aside stable known))
      rintro (fault | payload) read known
      · exact known
      dsimp only
      split
      · exact known
      refine Coro.wp_bind (Coro.wp_mono ?_ (writeFrame_aside stable known))
      rintro (fault | _) written known
      · exact known
      · exact ih known

theorem forwarder_aside (known : inv state) : AsideRuns connectionId inv number
    (forwarder library connectionId maxFrameBytes number channelId turns) state := by
  refine Coro.wp_bind (Coro.wp_outcome (Coro.wp_mono ?_ (forward_aside stable known)))
  intro ended after known
  exact update_safe loopOf_onForwarder (stable _ _ loopOf_onForwarder known)

/-- A loop that is safe on its own, from empty tables, is safe among the other
tasks, however its own calls are answered. -/
theorem agent_pool_safe {worlds : AgentTask → World TunnelWorld TunnelResult Exc}
    {fact : AgentLoop → Prop} (others : ∀ task, task ≠ .loop → worlds task = agentWorld connectionId task)
    (looped : ∀ turns state, loopOf connectionId state = .empty → inv state →
      Safe (worlds .loop) inv (contract connectionId fact .loop)
        (handleAgentTunnelStream library connectionId turns) state)
    {start : TunnelWorld} (fresh : loopOf connectionId start = .empty) (initial : inv start)
    {pool : AgentPool} (reached : Python.Tasks.Reachable worlds
      (agentPrograms connectionId library maxFrameBytes) start pool) :
    pool.Safe worlds inv (contract connectionId fact) := by
  refine (reachable_quiet (fun task world => task = .loop → loopOf connectionId world = .empty)
    contract_lawful ?_ ?_ ?_ ?_ initial (fun _ _ => fresh) reached).1
  · intro task other before after apart owed
    cases other with
    | loop => cases task <;> first | exact absurd rfl apart | exact owed
    | forwarder number => trivial
    | breaking serial => trivial
  · rintro task other before after apart owed quiet rfl
    have same : sameLoop connectionId before after := by
      cases task <;> first | exact absurd rfl apart | exact owed
    exact same.trans (quiet rfl)
  · intro task call answer before after given
    cases task with
    | loop => trivial
    | forwarder number =>
        rw [others _ (by simp)] at given
        exact forwarderWorld_same given
    | breaking serial =>
        rw [others _ (by simp)] at given
        have same : after = before := given
        rw [same]
        exact rfl
  · intro task program state started known fresh
    cases task with
    | loop =>
        obtain ⟨turns, rfl⟩ := started
        exact looped turns state (fresh rfl) known
    | forwarder number =>
        rw [others _ (by simp)]
        obtain ⟨channelId, turns, -, rfl⟩ := started
        exact Coro.wp_mono (fun _ _ known => ⟨known, trivial⟩) (forwarder_aside stable known)
    | breaking serial =>
        rw [others _ (by simp)]
        obtain ⟨broken, rfl⟩ := started
        have same : sameLoop connectionId state
            (onSide connectionId (fun side => { side with broken := broken }) state) := by
          unfold sameLoop loopOf
          rw [onSide_same]
        exact update_safe same ⟨stable _ _ same known, trivial⟩
end Aside

/-- A task that returned or raised. -/
def Ended (program : TunnelTask Unit) : Prop :=
  (∃ value, program = .done value) ∨ ∃ fault, program = .raise fault

/-- How the loop's task ended, once it has. -/
theorem ended_loop {worlds : AgentTask → World TunnelWorld TunnelResult Exc} {inv : TunnelWorld → Prop}
    {fact : AgentLoop → Prop} {pool : AgentPool} (safe : pool.Safe worlds inv (contract connectionId fact))
    {program : TunnelTask Unit} (found : pool.tasks .loop = some program) (ended : Ended program) :
    fact (loopOf connectionId pool.state) := by
  have post := (safe.2 .loop program found).2
  rcases ended with ⟨value, rfl⟩ | ⟨fault, rfl⟩
  · exact post.2
  · exact post.2

theorem pool_safe {start : TunnelWorld} (fresh : loopOf connectionId start = .empty) {pool : AgentPool}
    (reached : AgentReachable connectionId library maxFrameBytes start pool) :
    pool.Safe (agentWorld connectionId) (Known library connectionId)
      (contract connectionId (GaveUp library)) := by
  have initial : Known library connectionId start := by
    refine ⟨?_, trivial⟩
    rw [fresh]
    exact standing_ready.routed _ ready_empty
  refine agent_pool_safe (fun _ _ => Known.same) (fun _ _ => rfl) ?_ fresh initial reached
  intro turns state fresh known
  have ready : With connectionId (fun _ => True) Ready state :=
    ⟨by rw [fresh]; exact ready_empty, trivial⟩
  refine Coro.wp_mono ?_ (handleAgentTunnelStream_runs beside_nothing ready)
  intro _ after gaveUp
  exact ⟨⟨gaveUp.1.routed, trivial⟩, gaveUp.1⟩

/-- In every run of an agent, each channel's local connection has been given what
the frames ask for, and while no local error has reached the loop, it goes on
and every channel in its table is in use, unless the tunnel itself stops. -/
theorem channels_isolated (library : Library) (connectionId : ConnectionId) (maxFrameBytes : Int)
    {start : TunnelWorld} (fresh : loopOf connectionId start = .empty) {pool : AgentPool}
    (reached : AgentReachable connectionId library maxFrameBytes start pool)
    (unhurt : (loopOf connectionId pool.state).localFault = false) :
    Isolated library (loopOf connectionId pool.state)
      (∃ program, pool.tasks .loop = some program ∧ Ended program) := by
  have stopped : ∀ {done}, (loopOf connectionId pool.state).localFault = true ∨
      Stops library (loopOf connectionId pool.state) done →
      Stops library (loopOf connectionId pool.state) done := by
    rintro done (hurt | stops)
    · exact absurd (unhurt.symm.trans hurt) Bool.false_ne_true
    · exact stops
  have safe := pool_safe fresh reached
  by_cases isOver : ∃ program, pool.tasks .loop = some program ∧ Ended program
  · obtain ⟨program, found, ended⟩ := isOver
    have gaveUp : GaveUp library (loopOf connectionId pool.state) := ended_loop safe found ended
    obtain ⟨done, upto, follows, reason⟩ := gaveUp
    exact ⟨done, upto, follows, fun going => absurd (stopped reason) going⟩
  · obtain ⟨done, upto, follows, hurt | stops | live⟩ := safe.1.1
    · exact ⟨done, upto, follows, fun going => absurd (stopped (.inl hurt)) going⟩
    · exact ⟨done, upto, follows, fun going => absurd stops going⟩
    · exact ⟨done, upto, follows, fun _ => ⟨live, isOver⟩⟩
end Pools

/-! Two channels on one tunnel. -/
def openFrame (channelId : ChannelId) : DecodedTunnelFrame :=
  ⟨⟨.OPEN_SESSION, lit "r", some channelId, 0⟩, []⟩

abbrev ReachableOne : AgentPool → Prop := AgentReachable (lit "c1") libraryOne 65536 worldOne

/-- The first channel is opened, and its local sshd resets the connection. -/
theorem channels_isolated_reset : ∃ pool, ReachableOne pool ∧
    Isolated libraryOne (loopOf (lit "c1") pool.state)
      (∃ program, pool.tasks .loop = some program ∧ Ended program) := by
  have fresh : ReachableOne ⟨fun _ => none, worldOne⟩ := .start
  have started := fresh.spawn .loop (handleAgentTunnelStream libraryOne (lit "c1") 2) rfl ⟨2, rfl⟩
  have opening := started.resume .loop rfl (.ok (some (openFrame (lit "a")))) _ rfl
  have connected := opening.resume .loop rfl (.ok ()) _ rfl
  have forwarding := connected.spawn (.forwarder 0)
    (forwarder libraryOne (lit "c1") 65536 0 (lit "a") 1) rfl ⟨lit "a", 1, rfl, rfl⟩
  have reset := forwarding.resume (.forwarder 0) rfl (.error .osError) _ rfl
  exact ⟨_, reset, channels_isolated libraryOne (lit "c1") 65536 rfl reset rfl⟩

/-- The local sshd refuses the second channel, and the first one is closed. -/
theorem refused_channel_closes_other : ∃ pool, ReachableOne pool ∧
    ¬ Isolated libraryOne (loopOf (lit "c1") pool.state)
      (∃ program, pool.tasks .loop = some program ∧ Ended program) := by
  have fresh : ReachableOne ⟨fun _ => none, worldOne⟩ := .start
  have started := fresh.spawn .loop (handleAgentTunnelStream libraryOne (lit "c1") 2) rfl ⟨2, rfl⟩
  have opening := started.resume .loop rfl (.ok (some (openFrame (lit "a")))) _ rfl
  have connected := opening.resume .loop rfl (.ok ()) _ rfl
  have going := connected.resume .loop rfl (.ok ()) _ rfl
  have second := going.resume .loop rfl (.ok (some (openFrame (lit "b")))) _ rfl
  have refused := second.resume .loop rfl (.error .osError) _ rfl
  refine ⟨_, refused, ?_⟩
  rintro ⟨done, same | ⟨last, same⟩, follows, going⟩
  · have read : [openFrame (lit "a"), openFrame (lit "b")] = done := same
    subst read
    have missing : (none : Option Bytes) = some [] := follows.delivered (lit "b")
    cases missing
  · have read : [openFrame (lit "a")] ++ [openFrame (lit "b")] = done ++ [last] := same
    obtain ⟨rfl, -⟩ := List.append_inj' read rfl
    have allowed : Accepted libraryOne [openFrame (lit "a")] (openFrame (lit "b")) :=
      ⟨lit "b", rfl, rfl⟩
    obtain ⟨live, -⟩ := going (by
      rintro (isOver | ⟨other, again, unallowed⟩)
      · cases isOver
      · have still : [openFrame (lit "a")] ++ [openFrame (lit "b")] =
            [openFrame (lit "a")] ++ [other] := again
        obtain ⟨-, equal⟩ := List.append_inj' still rfl
        cases equal
        exact unallowed allowed)
    have impossible : true = false := live (lit "a", 0) List.mem_cons_self
    cases impossible

end VibeConnect.AgentIsolation
