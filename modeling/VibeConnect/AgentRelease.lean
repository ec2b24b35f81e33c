import VibeConnect.AgentIsolation

/-! What is left of the local connections when an agent's tunnel ends. The loop
closes a connection when the server closes its channel, and at the end it closes
what is still in its table, one after another. A forwarder that failed raises
its fault into the closing of its connection before the writer is closed, and a
fault in the `finally` clause ends that clause. In every run without such faults
nothing is left open. -/
namespace VibeConnect.AgentRelease
open Python.Text Python.JsonCodec Python.Coroutine Python.Tasks Models TunnelProtocol TunnelState
open TunnelAuthenticator TunnelBroker AgentChannels AgentTunnel TunnelAdmission AgentIsolation

/-- Each local connection that was opened has had its writer closed, and its
forwarder has ended or was cancelled. -/
def Released (side : AgentSide) : Prop :=
  ∀ number < side.loop.created.length, side.loop.closed number = true ∧
    ((side.forwarders number).outcome.isSome = true ∨ side.loop.cancelled number = true)

/-- What the clean-up gets past: a forwarder that is awaited raises a
cancellation at most, and a connection in the table, which is one that the
`finally` clause closes, fails to close only once no other is left open. -/
def Harmless (connectionId : ConnectionId) (world : TunnelWorld) :
    (call : TunnelCall) → Except Exc (TunnelResult call) → Prop
  | .joinForwarder _, .error fault => fault = .cancelledError
  | .localWaitClosed number, .error _ =>
      number ∈ (loopOf connectionId world).channels.map Prod.snd →
        ∀ entry ∈ (loopOf connectionId world).channels, (loopOf connectionId world).closed entry.2 = true
  | _, _ => True

def harmlessWorld (connectionId : ConnectionId) : AgentTask → World TunnelWorld TunnelResult Exc
  | .loop => fun call answer before after =>
      Harmless connectionId before call answer ∧ loopWorld connectionId call answer before after
  | task => agentWorld connectionId task

/-! What the loop keeps track of. -/

/-- The connections that are still to be closed are among these. -/
structure Owed (left : List Nat) (loop : AgentLoop) : Prop where
  held : ∀ number < loop.created.length, number ∈ left ∨ loop.closed number = true
  told : ∀ number, loop.closed number = true → loop.cancelled number = true

/-- Between two frames they are those in the table. -/
structure Tracked (loop : AgentLoop) : Prop where
  keys : (loop.channels.map Prod.fst).Nodup
  owed : Owed (loop.channels.map Prod.snd) loop

/-- What the answer to a call leaves alone. -/
structure Alike (loop after : AgentLoop) : Prop where
  channels : after.channels = loop.channels
  created : after.created = loop.created
  cancelled : after.cancelled = loop.cancelled
  closed : after.closed = loop.closed

section Loops
variable {loop after : AgentLoop} {channelId : ChannelId} {number : Nat} {left : List Nat}

theorem Alike.refl (loop : AgentLoop) : Alike loop loop := ⟨rfl, rfl, rfl, rfl⟩

theorem alike_fail (locally : Bool) : Alike loop (loop.fail locally) := by
  cases locally with
  | false => exact ⟨rfl, rfl, rfl, rfl⟩
  | true => exact ⟨rfl, rfl, rfl, rfl⟩

theorem alike_noted {α : Type} (locally : Bool) (answer : Except Exc α) :
    Alike loop (noted locally answer loop) := by
  cases answer with
  | ok value => exact .refl loop
  | error fault => exact alike_fail _

theorem Owed.alike (alike : Alike loop after) (owed : Owed left loop) : Owed left after where
  held other small := by
    rw [alike.closed]
    exact owed.held other (alike.created ▸ small)
  told other ended := by
    rw [alike.cancelled]
    exact owed.told other (alike.closed ▸ ended)

theorem Tracked.alike (alike : Alike loop after) (tracked : Tracked loop) : Tracked after where
  keys := by
    rw [alike.channels]
    exact tracked.keys
  owed := by
    rw [alike.channels]
    exact tracked.owed.alike alike

theorem tracked_empty : Tracked .empty where
  keys := List.nodup_nil
  owed := ⟨fun _ impossible => absurd impossible (Nat.not_lt_zero _), fun _ impossible => nomatch impossible⟩

theorem not_mem_of_find (absent : loop.find channelId = none) : channelId ∉ loop.channels.map Prod.fst := by
  intro member
  obtain ⟨entry, there, rfl⟩ := List.mem_map.mp member
  have apart := List.lookup_eq_none_iff.mp absent entry there
  simp at apart

theorem Tracked.create (tracked : Tracked loop) (absent : loop.find channelId = none) :
    Tracked (loop.create channelId) where
  keys := by
    show ((loop.channels ++ [(channelId, loop.created.length)]).map Prod.fst).Nodup
    rw [List.map_append, List.nodup_append]
    refine ⟨tracked.keys, List.nodup_singleton _, ?_⟩
    rintro key member _ last rfl
    rw [List.mem_singleton.mp last] at member
    exact not_mem_of_find absent member
  owed := by
    refine ⟨fun number small => ?_, tracked.owed.told⟩
    show number ∈ (loop.channels ++ [(channelId, loop.created.length)]).map Prod.snd ∨ _
    rw [List.map_append, List.mem_append]
    by_cases old : number < loop.created.length
    · exact (tracked.owed.held number old).imp .inl id
    · have longer : number < loop.created.length + 1 := by
        simpa [AgentLoop.create] using small
      have last : number = loop.created.length := by omega
      exact .inl (.inr (List.mem_singleton.mpr last))

/-- The popped connection is the one that is owed beside the table. -/
theorem Tracked.pop (tracked : Tracked loop) (found : loop.find channelId = some number) :
    ((loop.pop channelId).channels.map Prod.fst).Nodup ∧
      Owed (number :: (loop.pop channelId).channels.map Prod.snd) (loop.pop channelId) := by
  constructor
  · exact (List.filter_sublist.map Prod.fst).nodup tracked.keys
  · refine ⟨fun other small => ?_, tracked.owed.told⟩
    rcases tracked.owed.held other small with member | ended
    · obtain ⟨entry, there, rfl⟩ := List.mem_map.mp member
      by_cases popped : entry.1 = channelId
      · -- the table has no other entry under the channel's id
        have same : entry = (channelId, number) :=
          List.inj_on_of_nodup_map tracked.keys there (AgentLoop.find_mem found) popped
        rw [same]
        exact .inl List.mem_cons_self
      · have kept : entry ∈ (loop.pop channelId).channels :=
          List.mem_filter.mpr ⟨there, decide_eq_true popped⟩
        exact .inl (List.mem_cons_of_mem _ (List.mem_map_of_mem kept))
    · exact .inr ended

theorem Owed.cancel (owed : Owed left loop) : Owed left (loop.cancel number) where
  held := owed.held
  told other ended := by
    by_cases same : other = number
    · subst same
      exact Function.update_self ..
    · exact (Function.update_of_ne same _ _).trans (owed.told other ended)

theorem Owed.closeWriter (owed : Owed (number :: left) loop) (cancelled : loop.cancelled number = true) :
    Owed left (loop.closeWriter number) where
  held other small := by
    by_cases same : other = number
    · subst same
      exact .inr (Function.update_self ..)
    · rcases owed.held other small with member | ended
      · exact .inl ((List.mem_cons.mp member).resolve_left same)
      · exact .inr ((Function.update_of_ne same _ _).trans ended)
  told other ended := by
    by_cases same : other = number
    · subst same
      exact cancelled
    · exact owed.told other ((Function.update_of_ne same _ _).symm.trans ended)

/-- One connection of a table was closed, with a fault or without. -/
structure Settled (left : List Nat) (number : Nat) (loop : AgentLoop) (failed : Prop) (after : AgentLoop) :
    Prop where
  channels : after.channels = loop.channels
  owed : Owed left after
  last : failed → number ∈ loop.channels.map Prod.snd → ∀ entry ∈ loop.channels,
    after.closed entry.2 = true

theorem Owed.released {side : AgentSide} (owed : Owed [] side.loop) : Released side := by
  intro number small
  have ended := (owed.held number small).resolve_left List.not_mem_nil
  exact ⟨ended, .inr (owed.told number ended)⟩
end Loops

/-! The loop, call by call. -/
section Runs
variable {library : Library} {connectionId : ConnectionId} {state : TunnelWorld} {left : List Nat}

abbrev Does (connectionId : ConnectionId) {α : Type} (program : TunnelTask α)
    (post : Except Exc α → TunnelWorld → Prop) (state : TunnelWorld) : Prop :=
  program.wp (answered (harmlessWorld connectionId .loop) (fun _ => True) (sameLoop connectionId))
    (obliged (fun _ => True) fun _ _ => True) post state

theorem loopWorld_alike {call : TunnelCall} {answer : Except Exc (TunnelResult call)}
    {before after : TunnelWorld} (given : loopWorld connectionId call answer before after) :
    Alike (loopOf connectionId before) (loopOf connectionId after) := by
  unfold loopWorld at given
  split at given
  · rw [given, loopOf_onLoop]
    exact ⟨rfl, rfl, rfl, rfl⟩
  · rw [given, loopOf_onLoop]
    exact alike_fail _
  · rcases given with ⟨-, same⟩ | ⟨-, -, same⟩
    · rw [same]
      exact .refl _
    · rw [same, loopOf_onLoop]
      exact alike_noted _ _
  · rw [given, loopOf_onLoop]
    exact alike_noted _ _
  · rw [given, loopOf_onLoop]
    exact alike_noted _ _
  · rw [given, loopOf_onLoop]
    exact alike_noted _ _
  · exact given.elim
  · rw [given, loopOf_onLoop]
    exact alike_noted _ _

theorem wait_does {call : TunnelCall} {post : Except Exc (TunnelResult call) → TunnelWorld → Prop}
    (next : ∀ answer resumed after, loopOf connectionId resumed = loopOf connectionId state →
      Harmless connectionId resumed call answer →
      Alike (loopOf connectionId state) (loopOf connectionId after) → post answer after) :
    Does connectionId (wait call) post state := by
  refine call_safe trivial ?_
  rintro answer resumed after relied - ⟨harmless, given⟩
  have alike := loopWorld_alike given
  rw [show loopOf connectionId resumed = loopOf connectionId state from relied] at alike
  exact next answer resumed after relied harmless alike

abbrev Keeps (connectionId : ConnectionId) {α : Type} (program : TunnelTask α) (state : TunnelWorld) :
    Prop :=
  Does connectionId program (fun _ after => Tracked (loopOf connectionId after)) state

theorem wait_keeps {call : TunnelCall} (tracked : Tracked (loopOf connectionId state)) :
    Keeps connectionId (wait call) state :=
  wait_does fun _ _ _ _ _ alike => tracked.alike alike

theorem onLoop_keeps {change : AgentLoop → AgentLoop}
    (tracked : Tracked (change (loopOf connectionId state))) :
    Keeps connectionId (update (onLoop connectionId change)) state := by
  refine update_safe trivial ?_
  rw [loopOf_onLoop]
  exact tracked

theorem writeFrame_keeps {frame : OutgoingFrame} {bound : Int}
    (tracked : Tracked (loopOf connectionId state)) :
    Keeps connectionId (AgentTunnel.writeFrame library connectionId frame bound) state := by
  refine Coro.wp_bind (attempt_safe trivial ?_ fun _ _ => tracked)
  intro after written
  obtain ⟨_, -, written⟩ := bind_ok.mp written
  cases written
  refine ⟨trivial, wait_keeps ?_⟩
  rw [loopOf_emit]
  exact tracked

theorem writeLocal_keeps {number : Nat} {payload : Bytes}
    (tracked : Tracked (loopOf connectionId state)) :
    Keeps connectionId (change (writeLocal connectionId number payload)) state := by
  apply change_safe trivial
  unfold writeLocal
  split
  · rw [loopOf_onLoop]
    exact tracked.alike (alike_fail true)
  · have alike : Alike (loopOf connectionId state) ((loopOf connectionId state).write number payload) :=
      ⟨rfl, rfl, rfl, rfl⟩
    rw [loopOf_onLoop]
    exact tracked.alike alike

theorem closeWriter_does {number : Nat} (owed : Owed (number :: left) (loopOf connectionId state))
    (cancelled : (loopOf connectionId state).cancelled number = true) :
    Does connectionId (do
        update (onLoop connectionId (·.closeWriter number))
        wait (.localWaitClosed number))
      (fun ended after => Settled left number (loopOf connectionId state) (ended ≠ .ok ())
        (loopOf connectionId after)) state := by
  have same : loopOf connectionId (onLoop connectionId (·.closeWriter number) state) =
      (loopOf connectionId state).closeWriter number := loopOf_onLoop
  refine Coro.wp_bind (update_safe trivial (wait_does ?_))
  intro answer resumed after relied harmless alike
  rw [same] at relied alike
  refine ⟨alike.channels, (owed.closeWriter cancelled).alike alike, ?_⟩
  intro failed member entry there
  rw [alike.closed]
  cases answer with
  | ok value => exact absurd rfl failed
  | error fault =>
      dsimp only [Harmless] at harmless
      rw [relied] at harmless
      exact harmless member entry there

/-- Closing a connection settles what is owed to it, unless its forwarder failed. -/
theorem closeChannel_does {number : Nat} (owed : Owed (number :: left) (loopOf connectionId state)) :
    Does connectionId (closeChannel connectionId number)
      (fun ended after => Settled left number (loopOf connectionId state) (ended ≠ .ok ())
        (loopOf connectionId after)) state := by
  have same : loopOf connectionId (onLoop connectionId (·.cancel number) state) =
      (loopOf connectionId state).cancel number := loopOf_onLoop
  refine Coro.wp_bind (update_safe trivial (Coro.wp_bind (Coro.wp_handle (wait_does ?_))))
  intro answer resumed joined _ harmless alike
  rw [same] at alike
  have closing : Does connectionId (do
        update (onLoop connectionId (·.closeWriter number))
        wait (.localWaitClosed number))
      (fun ended after => Settled left number (loopOf connectionId state) (ended ≠ .ok ())
        (loopOf connectionId after)) joined := by
    have cancelled : (loopOf connectionId joined).cancelled number = true := by
      rw [alike.cancelled]
      exact Function.update_self ..
    refine Coro.wp_mono ?_ (closeWriter_does (owed.cancel.alike alike) cancelled)
    intro ended after settled
    have table : (loopOf connectionId joined).channels = (loopOf connectionId state).channels :=
      alike.channels
    refine ⟨settled.channels.trans table, settled.owed, ?_⟩
    rw [← table]
    exact settled.last
  cases answer with
  | ok value => exact closing
  | error fault =>
      -- a cancellation is suppressed
      have cancellation : fault = .cancelledError := harmless
      dsimp only
      rw [if_pos cancellation]
      exact closing

/-- The channel id of a frame, then what is done with it. -/
theorem named_keeps {field : Option Str} {next : ChannelId → TunnelTask Unit}
    (tracked : Tracked (loopOf connectionId state))
    (keeps : ∀ channelId, Keeps connectionId (next channelId) state) :
    Keeps connectionId (Coro.ofAnswer (requireChannelId field) >>= next) state := by
  refine Coro.wp_bind (Coro.wp_ofAnswer ?_)
  cases requireChannelId field with
  | ok channelId => exact keeps channelId
  | error fault => exact tracked

theorem open_keeps {channelId : ChannelId} (tracked : Tracked (loopOf connectionId state))
    (absent : (loopOf connectionId state).find channelId = none) :
    Keeps connectionId (do
      wait .connectLocal
      update (onLoop connectionId (·.create channelId))
      wait .sleep) state := by
  refine Coro.wp_bind (wait_does ?_)
  intro answer resumed after _ _ alike
  cases answer with
  | error fault => exact tracked.alike alike
  | ok value =>
      have still : (loopOf connectionId after).find channelId = none := by
        unfold AgentLoop.find
        rw [alike.channels]
        exact absent
      refine Coro.wp_bind (update_safe trivial (wait_keeps ?_))
      rw [loopOf_onLoop]
      exact (tracked.alike alike).create still

theorem close_keeps {channelId : ChannelId} {number : Nat} (tracked : Tracked (loopOf connectionId state))
    (found : (loopOf connectionId state).find channelId = some number) :
    Keeps connectionId (do
      update (onLoop connectionId (·.pop channelId))
      closeChannel connectionId number) state := by
  obtain ⟨keys, owed⟩ := tracked.pop found
  have same : loopOf connectionId (onLoop connectionId (·.pop channelId) state) =
      (loopOf connectionId state).pop channelId := loopOf_onLoop
  rw [← same] at keys owed
  refine Coro.wp_bind (update_safe trivial (Coro.wp_mono ?_ (closeChannel_does owed)))
  intro ended after settled
  constructor
  · rw [settled.channels]
    exact keys
  · rw [settled.channels]
    exact settled.owed

theorem handleFrame_keeps {decoded : DecodedTunnelFrame} (tracked : Tracked (loopOf connectionId state)) :
    Keeps connectionId (handleFrame library connectionId decoded) state := by
  unfold handleFrame
  split
  · exact tracked
  · exact writeFrame_keeps tracked
  · apply named_keeps tracked
    intro channelId
    refine Coro.wp_bind (look_safe ?_)
    dsimp only
    split
    · exact tracked
    · rename_i absent
      exact open_keeps tracked absent
  · apply named_keeps tracked
    intro channelId
    refine Coro.wp_bind (look_safe ?_)
    dsimp only
    split
    · exact tracked
    · refine Coro.wp_bind (Coro.wp_mono ?_ (writeLocal_keeps tracked))
      rintro (fault | _) written tracked
      · exact tracked
      · exact wait_keeps tracked
  · apply named_keeps tracked
    intro channelId
    refine Coro.wp_bind (look_safe ?_)
    dsimp only
    split <;> exact tracked
  · apply named_keeps tracked
    intro channelId
    refine Coro.wp_bind (look_safe ?_)
    dsimp only
    split
    · exact tracked
    · rename_i number found
      exact close_keeps tracked found
  · exact tracked

theorem frameLoop_keeps {turns : Nat} (tracked : Tracked (loopOf connectionId state)) :
    Keeps connectionId (frameLoop library connectionId turns) state := by
  induction turns generalizing state with
  | zero => exact wait_keeps tracked
  | succ turns ih =>
      refine Coro.wp_bind (Coro.wp_mono ?_ (wait_keeps tracked))
      rintro (fault | read | decoded) after tracked
      · exact tracked
      · exact tracked
      · refine Coro.wp_bind (Coro.wp_mono ?_ (handleFrame_keeps tracked))
        rintro (fault | _) handled tracked
        · exact tracked
        · exact ih tracked

/-- The `finally` clause closes all of the table, or fails with nothing left open. -/
theorem closeEach_does {rest : List (ChannelId × Nat)}
    (inside : ∀ entry ∈ rest, entry ∈ (loopOf connectionId state).channels)
    (owed : Owed (rest.map Prod.snd) (loopOf connectionId state)) :
    Does connectionId (closeEach connectionId rest)
      (fun _ after => Owed [] (loopOf connectionId after)) state := by
  induction rest generalizing state with
  | nil => exact owed
  | cons entry rest ih =>
      refine Coro.wp_bind (Coro.wp_mono ?_ (closeChannel_does owed))
      intro ended after settled
      cases ended with
      | ok value =>
          apply ih
          · intro other member
            rw [settled.channels]
            exact inside other (List.mem_cons_of_mem _ member)
          · exact settled.owed
      | error fault =>
          refine ⟨fun number small => .inr ?_, settled.owed.told⟩
          rcases settled.owed.held number small with member | ended
          · obtain ⟨other, there, rfl⟩ := List.mem_map.mp member
            apply settled.last (by simp)
            · exact List.mem_map_of_mem (inside entry List.mem_cons_self)
            · exact inside other (List.mem_cons_of_mem _ there)
          · exact ended

theorem handleAgentTunnelStream_does {turns : Nat} (tracked : Tracked (loopOf connectionId state)) :
    Does connectionId (handleAgentTunnelStream library connectionId turns)
      (fun _ after => Owed [] (loopOf connectionId after)) state := by
  refine Coro.wp_finallyDo (Coro.wp_mono ?_ (frameLoop_keeps tracked))
  intro ended left tracked
  refine Coro.wp_bind (look_safe ?_)
  refine Coro.wp_mono ?_ (closeEach_does (fun _ => id) tracked.owed)
  rintro (fault | _) after owed <;> exact owed
end Runs

/-- In every run whose steps are harmless to the clean-up, a tunnel that has
ended leaves nothing open. -/
theorem nothing_left_open (library : Library) (connectionId : ConnectionId) (maxFrameBytes : Int)
    {start : TunnelWorld} (fresh : loopOf connectionId start = .empty) {pool : AgentPool}
    (reached : Python.Tasks.Reachable (harmlessWorld connectionId)
      (agentPrograms connectionId library maxFrameBytes) start pool)
    (ended : ∃ program, pool.tasks .loop = some program ∧ Ended program) :
    Released (pool.state.agentSide connectionId) := by
  have safe : pool.Safe (harmlessWorld connectionId) (fun _ => True) (contract connectionId (Owed [])) := by
    refine agent_pool_safe (fun _ _ _ _ => trivial) ?_ ?_ fresh trivial reached
    · intro task apart
      cases task with
      | loop => exact absurd rfl apart
      | forwarder number => rfl
      | breaking serial => rfl
    · intro turns state fresh _
      have tracked : Tracked (loopOf connectionId state) := by
        rw [fresh]
        exact tracked_empty
      exact Coro.wp_mono (fun _ _ owed => ⟨trivial, owed⟩) (handleAgentTunnelStream_does tracked)
  obtain ⟨program, found, isOver⟩ := ended
  exact Owed.released (ended_loop safe found isOver)

/-- The tunnel ends with one channel open, and its forwarder is cancelled. -/
theorem nothing_left_open_one : ∃ pool : AgentPool,
    (loopOf (lit "c1") pool.state).created = [lit "a"] ∧
      Released (pool.state.agentSide (lit "c1")) := by
  have fresh : Python.Tasks.Reachable (harmlessWorld (lit "c1"))
      (agentPrograms (lit "c1") libraryOne 65536) worldOne ⟨fun _ => none, worldOne⟩ := .start
  have started := fresh.spawn .loop (handleAgentTunnelStream libraryOne (lit "c1") 2) rfl ⟨2, rfl⟩
  have opening := started.resume .loop rfl (.ok (some (openFrame (lit "a")))) _ ⟨trivial, rfl⟩
  have connected := opening.resume .loop rfl (.ok ()) _ ⟨trivial, rfl⟩
  have going := connected.resume .loop rfl (.ok ()) _ ⟨trivial, rfl⟩
  have leaving := going.resume .loop rfl (.ok none) _ ⟨trivial, rfl⟩
  have cancelled := leaving.resume .loop rfl (.error .cancelledError) _ ⟨rfl, .inl ⟨rfl, rfl⟩⟩
  have closed := cancelled.resume .loop rfl (.ok ()) _ ⟨trivial, rfl⟩
  exact ⟨_, rfl, nothing_left_open libraryOne (lit "c1") 65536 rfl closed ⟨_, rfl, .inl ⟨(), rfl⟩⟩⟩

/-- The local sshd resets the one connection, and then the tunnel ends: the
forwarder's fault comes before the writer is closed. -/
theorem reset_left_open : ∃ pool, ReachableOne pool ∧
    (∃ program, pool.tasks .loop = some program ∧ Ended program) ∧
      ¬ Released (pool.state.agentSide (lit "c1")) := by
  have fresh : ReachableOne ⟨fun _ => none, worldOne⟩ := .start
  have started := fresh.spawn .loop (handleAgentTunnelStream libraryOne (lit "c1") 2) rfl ⟨2, rfl⟩
  have opening := started.resume .loop rfl (.ok (some (openFrame (lit "a")))) _ rfl
  have connected := opening.resume .loop rfl (.ok ()) _ rfl
  have forwarding := connected.spawn (.forwarder 0)
    (forwarder libraryOne (lit "c1") 65536 0 (lit "a") 1) rfl ⟨lit "a", 1, rfl, rfl⟩
  have reset := forwarding.resume (.forwarder 0) rfl (.error .osError) _ rfl
  have going := reset.resume .loop rfl (.ok ()) _ rfl
  have leaving := going.resume .loop rfl (.ok none) _ rfl
  have raised := leaving.resume .loop rfl (.error .osError) _ (.inr ⟨by simp, rfl, rfl⟩)
  refine ⟨_, raised, ⟨_, rfl, .inr ⟨.osError, rfl⟩⟩, ?_⟩
  intro released
  have impossible : false = true := (released 0 (by decide)).1
  cases impossible

end VibeConnect.AgentRelease
