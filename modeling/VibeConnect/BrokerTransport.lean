import VibeConnect.TunnelBroker

/-! The transport between a broker stream and its protocol, with the tasks it starts and
the event loop's queue of what is ready to run. A write task that has not run yet is its
handle in the queue; one that waits for the writer to drain is counted. The loop may run
any ready handle next; a first-in first-out run takes the first. -/
namespace VibeConnect.BrokerTransport
open Python.Text Python.Values TunnelBroker

/-- A frame of the stream's channel on the tunnel writer. -/
inductive ChannelFrame where
  | sessionData (payload : Bytes)
  | closeSession
  deriving DecidableEq

inductive TaskEnd where
  | returned | raised | cancelled
  deriving DecidableEq

inductive Handle where
  | readTurn
  | writeStart (payload : Bytes) (cancelled : Bool)
  | writeWake (how : TaskEnd)
  | writeDone (how : TaskEnd)
  | closeTurn
  deriving DecidableEq

/-- The read task: before its next turn, inside `_data_ready.wait()`, or over. -/
inductive ReadTask where
  | absent | running | waiting | ended
  deriving DecidableEq

inductive Callback where
  | connectionMade
  | dataReceived (data : Bytes)
  | eofReceived
  | connectionLost (failed : Bool)
  deriving DecidableEq

/-- A callback, with what the stream had been fed when it was called. -/
structure Called where
  callback : Callback
  fed : Bytes
  deriving DecidableEq

structure Transport where
  created : Bool
  closing : Bool
  stream : BrokerTunnelStream
  readTask : ReadTask
  readCancelled : Bool
  draining : Nat
  ready : List Handle
  wire : List ChannelFrame
  fed : Bytes
  written : List Bytes
  calls : List Called

def Transport.fresh (agentId : Uuid) : Transport :=
  ⟨false, false, ⟨agentId, [], false, false⟩, .absent, false, 0, [], [], [], [], []⟩

/-- What a callback of the protocol does: calls of the transport, then its end. A protocol may
return a value, raise an `Exception`, or raise a cancellation. -/
inductive Reaction where
  | returned (value : Bool)
  | raised
  | cancelled
  | write (data : Bytes) (rest : Reaction)
  | close (onLost rest : Reaction)
  | abort (onLost rest : Reaction)

inductive Outcome where
  | returned (value : Bool)
  | raised
  | cancelled
  deriving DecidableEq

namespace Transport

def write (data : Bytes) (transport : Transport) : Transport :=
  if data = [] then transport
  else
    let transport := { transport with written := transport.written ++ [data] }
    if transport.closing then transport
    else { transport with ready := transport.ready ++ [.writeStart data false] }

def calling (callback : Callback) (transport : Transport) : Transport :=
  { transport with calls := transport.calls ++ [⟨callback, transport.fed⟩] }

/-- `task.cancel()` on a write task that is in the queue. -/
def cancelHandle : Handle → Handle
  | .writeStart payload _ => .writeStart payload true
  | .writeWake _ => .writeWake .cancelled
  | handle => handle

/-- `close`, up to the callback: the close task is started, the read task and the write tasks are
cancelled. A task that waits is scheduled with its cancellation. -/
def beginClose (transport : Transport) : Transport :=
  let reader := if transport.readTask = .waiting ∧ .readTurn ∉ transport.ready then [Handle.readTurn]
    else []
  calling (.connectionLost false) { transport with
    closing := true
    readCancelled := decide (transport.readTask ≠ .absent)
    draining := 0
    ready := transport.ready.map cancelHandle ++ .closeTurn :: reader ++
      List.replicate transport.draining (.writeWake .cancelled) }

/-- Run a callback's calls. A `close` inside it calls `connection_lost`, which reacts in turn. -/
def perform : Reaction → Transport → Transport × Outcome
  | .returned value, transport => (transport, .returned value)
  | .raised, transport => (transport, .raised)
  | .cancelled, transport => (transport, .cancelled)
  | .write data rest, transport => perform rest (transport.write data)
  | .close onLost rest, transport | .abort onLost rest, transport =>
      perform rest (if transport.closing then transport
        else (perform onLost transport.beginClose).1)

def close (onLost : Reaction) (transport : Transport) : Transport :=
  if transport.closing then transport else (perform onLost transport.beginClose).1

/-- `abort`. -/
def abort (onLost : Reaction) (transport : Transport) : Transport := transport.close onLost

/-- `_write_done`. -/
def writeDone (how : TaskEnd) (onLost : Reaction) (transport : Transport) : Transport :=
  match how with
  | .raised => transport.close onLost
  | _ => transport

/-! The read loop. -/
def readEnded (transport : Transport) : Transport := { transport with readTask := .ended }

/-- `_read_loop` after an empty read. -/
def finishRead (onEof onLost : Reaction) (transport : Transport) : Transport :=
  if transport.closing then transport.readEnded
  else
    let (transport, outcome) := perform onEof (calling .eofReceived { transport with closing := true })
    match outcome with
    | .returned false => (perform onLost (transport.calling (.connectionLost false))).1.readEnded
    | _ => transport.readEnded

/-- What the loop does with the data of one read. -/
def deliver (data : Bytes) (onData onLost : Reaction) (transport : Transport) : Transport :=
  let (transport, outcome) := perform onData (transport.calling (.dataReceived data))
  match outcome with
  | .returned _ => { transport with readTask := .running, ready := .readTurn :: transport.ready }
  | .raised =>
      if transport.closing then transport.readEnded
      else (perform onLost
        (calling (.connectionLost true) { transport with closing := true })).1.readEnded
  | .cancelled => transport.readEnded

/-- `await self._stream.read(32768)` and what follows it. -/
def readOnce (onData onLost : Reaction) (transport : Transport) : Transport :=
  let stream := transport.stream
  if stream.buffer = [] ∧ stream.closed = false then
    -- a set event is cleared without waiting, and the loop of `read` waits the next time
    { transport with readTask := .waiting, stream := { stream with dataReady := false } }
  else
    let transport := { transport with
      readTask := .running, stream := { stream with buffer := stream.buffer.drop 32768 } }
    match stream.buffer.take 32768 with
    | [] => transport.finishRead onData onLost
    | data => transport.deliver data onData onLost

/-- A turn of the read task. -/
def readTurn (onData onLost : Reaction) (transport : Transport) : Transport :=
  if transport.readCancelled then transport.readEnded
  else match transport.readTask with
    | .absent | .ended => transport
    | .running =>
        if transport.closing then transport.readEnded else transport.readOnce onData onLost
    | .waiting =>
        { transport with stream := { transport.stream with dataReady := false } }.readOnce onData onLost

/-! The other tasks. -/
/-- How `_write_frame` goes: it raises before the frame is on the writer, or the frame is there and
the drain waits, returns or raises. -/
inductive Sending where
  | refused
  | waits
  | drained (how : TaskEnd)

def writeStart (payload : Bytes) (cancelled : Bool) (sending : Sending) (transport : Transport) :
    Transport :=
  if cancelled then { transport with ready := transport.ready ++ [.writeDone .cancelled] }
  else match sending with
    | .refused => { transport with ready := transport.ready ++ [.writeDone .raised] }
    | .waits => { transport with
        wire := transport.wire ++ [.sessionData payload], draining := transport.draining + 1 }
    | .drained how => { transport with
        wire := transport.wire ++ [.sessionData payload]
        ready := transport.ready ++ [.writeDone how] }

/-- `BrokerTunnelStream.close` in the close task, up to its frame. -/
def closeTurn (sending : Sending) (transport : Transport) : Transport :=
  if transport.stream.closed then transport
  else
    let transport := { transport with stream := { transport.stream with closed := true } }
    match sending with
    | .refused => transport
    | _ => { transport with wire := transport.wire ++ [.closeSession] }

def run (handle : Handle) (sending : Sending) (onData onLost : Reaction) (transport : Transport) :
    Transport :=
  match handle with
  | .readTurn => transport.readTurn onData onLost
  | .writeStart payload cancelled => transport.writeStart payload cancelled sending
  | .writeWake how => { transport with ready := transport.ready ++ [.writeDone how] }
  | .writeDone how => transport.writeDone how onLost
  | .closeTurn => transport.closeTurn sending

/-- The stream was fed: a reader that waits is scheduled. -/
def wakeReader (transport : Transport) : Transport :=
  if transport.readTask = .waiting ∧ .readTurn ∉ transport.ready then
    { transport with ready := transport.ready ++ [.readTurn] }
  else transport

/-- `create_connection`. -/
def connect (onMade : Reaction) (transport : Transport) : Transport :=
  let (transport, outcome) := perform onMade
    (calling .connectionMade { transport with created := true })
  match outcome with
  | .returned _ => { transport with readTask := .running, ready := transport.ready ++ [.readTurn] }
  | _ => transport

end Transport

inductive Event where
  | connect (onMade : Reaction)
  | feedData (payload : Bytes)
  | feedEof
  | write (data : Bytes)
  | close (onLost : Reaction)
  | abort (onLost : Reaction)
  | drained (how : TaskEnd)
  | turn (index : Nat) (sending : Transport.Sending) (onData onLost : Reaction)

/-- One event. A transport that is not there yet has no calls. -/
def step (transport : Transport) : Event → Transport
  | .connect onMade => if transport.created then transport else transport.connect onMade
  | .feedData payload => Transport.wakeReader { transport with
      stream := transport.stream.feedData payload, fed := transport.fed ++ payload }
  | .feedEof => Transport.wakeReader { transport with stream := transport.stream.feedEof }
  | .write data => if transport.created then transport.write data else transport
  | .close onLost => if transport.created then transport.close onLost else transport
  | .abort onLost => if transport.created then transport.abort onLost else transport
  | .drained how =>
      if transport.draining = 0 then transport
      else { transport with
        draining := transport.draining - 1, ready := transport.ready ++ [.writeWake how] }
  | .turn index sending onData onLost => match transport.ready[index]? with
      | some handle => Transport.run handle sending onData onLost
          { transport with ready := transport.ready.eraseIdx index }
      | none => transport

def runs (transport : Transport) (events : List Event) : Transport := events.foldl step transport

end VibeConnect.BrokerTransport
