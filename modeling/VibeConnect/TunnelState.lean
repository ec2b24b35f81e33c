import Mathlib.Data.Finset.Card
import Mathlib.Data.Finset.Insert
import VibeConnect.Models
import VibeConnect.Python.Values

/-! Session state of one tunnel: the heartbeat of the agent, and the channels it
may carry. A channel registry cannot be built with more open channels than its
limit, with an open channel that is also retired, or with an unnamed one. -/
namespace VibeConnect.TunnelState
open Python.Text Python.Values Models

abbrev ChannelId := Str

structure HeartbeatState where
  heartbeatSeconds : Int
  lastSeen : Option DateTime
  positive : 0 < heartbeatSeconds

def HeartbeatState.new (heartbeatSeconds : Int) : Except Exc HeartbeatState :=
  if positive : 0 < heartbeatSeconds then .ok ⟨heartbeatSeconds, none, positive⟩
  else .error (.tunnelStateError "heartbeat_seconds must be positive")

def HeartbeatState.markSeen (heartbeat : HeartbeatState) (now : DateTime) : HeartbeatState :=
  { heartbeat with lastSeen := some now.asUtc }

def HeartbeatState.allowsNewJump (heartbeat : HeartbeatState) (now : DateTime) : Bool :=
  match heartbeat.lastSeen with
  | none => false
  | some lastSeen =>
      (lastSeen.addSeconds (heartbeat.heartbeatSeconds * 2)).instant > now.asUtc.instant

/-- A jump is allowed while less than two heartbeats have passed. -/
theorem HeartbeatState.allowsNewJump_iff (heartbeat : HeartbeatState) (now : DateTime) :
    heartbeat.allowsNewJump now = true ↔ ∃ lastSeen, heartbeat.lastSeen = some lastSeen ∧
      now.instant < lastSeen.instant + 2 * heartbeat.heartbeatSeconds * 1000000 := by
  unfold allowsNewJump
  cases heartbeat.lastSeen with
  | none => simp
  | some lastSeen =>
      simp only [DateTime.instant_addSeconds, DateTime.instant_asUtc, decide_eq_true_eq,
        Option.some.injEq, exists_eq_left']
      constructor <;> intro fresh <;> linarith

structure TunnelChannelRegistry where
  maxSessions : Int
  openChannels : Finset ChannelId
  retiredChannels : Finset ChannelId
  positive : 0 < maxSessions
  bounded : (openChannels.card : Int) ≤ maxSessions
  disjoint : Disjoint openChannels retiredChannels
  named : [] ∉ openChannels

namespace TunnelChannelRegistry

def new (maxSessions : Int) : Except Exc TunnelChannelRegistry :=
  if positive : 0 < maxSessions then
    .ok ⟨maxSessions, ∅, ∅, positive, le_of_lt (by simpa using positive), by simp, by simp⟩
  else .error (.tunnelStateError "max_sessions must be positive")

def openChannel (registry : TunnelChannelRegistry) (channelId : ChannelId) :
    Except Exc TunnelChannelRegistry :=
  if named : channelId = [] then .error (.tunnelStateError "channel_id is required")
  else if used : channelId ∈ registry.openChannels ∨ channelId ∈ registry.retiredChannels then
    .error (.tunnelStateError "channel_id reuse")
  else if full : (registry.openChannels.card : Int) ≥ registry.maxSessions then
    .error (.tunnelStateError "max sessions exceeded")
  else .ok { registry with
    openChannels := insert channelId registry.openChannels
    bounded := by
      rw [Finset.card_insert_of_notMem fun member => used (.inl member)]
      omega
    disjoint := by
      rw [Finset.disjoint_insert_left]
      exact ⟨fun member => used (.inr member), registry.disjoint⟩
    named := by
      rw [Finset.mem_insert, not_or]
      exact ⟨fun same => named same.symm, registry.named⟩ }

def closeChannel (registry : TunnelChannelRegistry) (channelId : ChannelId) :
    Except Exc TunnelChannelRegistry :=
  if channelId ∈ registry.openChannels then .ok { registry with
    openChannels := registry.openChannels.erase channelId
    retiredChannels := insert channelId registry.retiredChannels
    bounded := by
      have fewer : (registry.openChannels.erase channelId).card ≤ registry.openChannels.card :=
        Finset.card_erase_le
      have bounded := registry.bounded
      omega
    disjoint := by
      rw [Finset.disjoint_insert_right]
      refine ⟨Finset.notMem_erase _ _, ?_⟩
      exact Finset.disjoint_of_subset_left (Finset.erase_subset _ _) registry.disjoint
    named := fun member => registry.named (Finset.mem_of_mem_erase member) }
  else .error (.tunnelStateError "unknown channel")

def requireOpen (registry : TunnelChannelRegistry) (channelId : ChannelId) : Except Exc Unit :=
  if channelId ∈ registry.openChannels then .ok ()
  else .error (.tunnelStateError "unknown channel")

/-- Every channel id this tunnel has seen. -/
def known (registry : TunnelChannelRegistry) : Finset ChannelId :=
  registry.openChannels ∪ registry.retiredChannels

theorem openChannel_ok {registry after : TunnelChannelRegistry} {channelId : ChannelId}
    (opened : registry.openChannel channelId = .ok after) :
    channelId ∉ registry.known ∧ after.openChannels = insert channelId registry.openChannels ∧
      after.retiredChannels = registry.retiredChannels ∧ after.maxSessions = registry.maxSessions := by
  unfold openChannel at opened
  split at opened
  · cases opened
  split at opened
  · cases opened
  rename_i unused
  split at opened
  · cases opened
  cases opened
  exact ⟨by simpa [known] using unused, rfl, rfl, rfl⟩

theorem closeChannel_ok {registry after : TunnelChannelRegistry} {channelId : ChannelId}
    (closed : registry.closeChannel channelId = .ok after) :
    channelId ∈ registry.openChannels ∧ after.openChannels = registry.openChannels.erase channelId ∧
      after.retiredChannels = insert channelId registry.retiredChannels ∧
      after.maxSessions = registry.maxSessions := by
  unfold closeChannel at closed
  split at closed
  · rename_i member
    cases closed
    exact ⟨member, rfl, rfl, rfl⟩
  · cases closed

theorem requireOpen_ok {registry : TunnelChannelRegistry} {channelId : ChannelId} :
    registry.requireOpen channelId = .ok () ↔ channelId ∈ registry.openChannels := by
  unfold requireOpen
  split <;> simp_all

end TunnelChannelRegistry

/-- `apply_channel_frame`: opening and closing change the registry, data and
resizing only need an open channel, and other frames do nothing. -/
def applyChannelFrame (channels : TunnelChannelRegistry) (frameType : TunnelFrameType)
    (channelId : Option ChannelId) : Except Exc TunnelChannelRegistry :=
  match frameType, channelId with
  | .OPEN_SESSION, none | .SESSION_DATA, none | .RESIZE_PTY, none | .CLOSE_SESSION, none =>
      .error (.tunnelStateError "channel_id is required")
  | .OPEN_SESSION, some channelId => channels.openChannel channelId
  | .SESSION_DATA, some channelId | .RESIZE_PTY, some channelId => do
      channels.requireOpen channelId
      .ok channels
  | .CLOSE_SESSION, some channelId => do
      channels.requireOpen channelId
      channels.closeChannel channelId
  | _, _ => .ok channels

end VibeConnect.TunnelState
