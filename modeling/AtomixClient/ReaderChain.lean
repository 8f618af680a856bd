import AtomixClient.Session

/-!
# The reader goroutines of a stream

`doQueryStream` and `doCommandStream` open a server stream and start a reader goroutine,
`queryStream` or `commandStream`, that pumps the stream's replies into `responseCh`. On a
`NOT_LEADER` reply the reader calls `Reconnect`, `Connect`s, re-opens the stream with the same
header, starts a new reader on it and returns. The readers of one stream form a chain that
shares `responseCh`, the request header and, for a command stream, the `*Stream`; only the
first reader gets `handshakeCh`, every later one gets `nil`.

A `Chain` is the state these goroutines share, and every reader is a program counter in
`Chain.readers`: reader `0` is the one the opening call started, reader `i + 1` the one reader `i`
(or a later one) handed over to. An `Input` is what the environment does next: the next result of
`responseFunc` in one reader, the outcome of one reader's re-open, or, for a command stream, the
cancellation of the caller's context. `queryStep` and `commandStep` translate one pass of each
reader's loop. A Go runtime panic (`close` of a `nil` or closed channel, a send on a closed one)
ends the program: it is the `Except` error of a step.

The chains also record, as history, the headers passed to `Stream.Serialize` and those it
accepted.
-/

namespace AtomixClient

/-- The two channels a reader closes. -/
inductive Channel where
  | handshakeCh
  | responseCh
  deriving DecidableEq, Repr

/-- A Go runtime panic. -/
inductive Panic where
  | closeOfNilChannel (ch : Channel)
  | closeOfClosedChannel (ch : Channel)
  | sendOnClosedChannel (ch : Channel)
  deriving DecidableEq, Repr

/-- Where a reader goroutine is: at the top of its loop, between `Reconnect` and the re-open
after a `NOT_LEADER`, or returned. -/
inductive Pc where
  | receive
  | reopen
  | returned
  deriving DecidableEq, Repr

/-- How `Connect` and the opening RPC `f` went. -/
inductive OpenResult where
  | connectError (err : String)
  | openError (err : String)
  | opened
  deriving DecidableEq, Repr

/-- What the environment does next to a chain of readers. -/
inductive Input (α : Type) where
  /-- `responseFunc(responses)` fails in reader `reader`. -/
  | recvError (reader : Nat)
  /-- `responseFunc(responses)` returns a header and a response in reader `reader`. -/
  | recv (reader : Nat) (header : ResponseHeader) (response : α)
  /-- `Connect` and `f` after a `NOT_LEADER` in reader `reader`. -/
  | reopen (reader : Nat) (result : OpenResult)
  /-- The caller's context is done: the goroutine of `doCommandStream` runs `stream.Close()`. -/
  | cancel

/-- The state the readers of one stream share. -/
structure Chain (α : Type) where
  sess : Session
  /-- The `*Stream` of a command stream, as a reference into `sess.heap`. -/
  stream : Nat
  requestHeader : RequestHeader
  /-- The reader goroutines, in the order they were started. -/
  readers : List Pc
  handshakeClosed : Bool
  responseClosed : Bool
  /-- The values sent on `responseCh`, in order. -/
  sent : List α
  /-- The addresses passed to `Reconnect`. -/
  reconnects : List String
  /-- The replies passed to `Stream.Serialize`, and those it accepted. -/
  serialized : List (ResponseHeader × α)
  accepted : List (ResponseHeader × α)
  /-- Whether the context goroutine has run. -/
  cancelled : Bool

variable {α : Type}

namespace Chain

/-- A stream just opened: one reader, which holds `handshakeCh`, and both channels open. -/
def start (s : Session) (stream : Nat) (requestHeader : RequestHeader) : Chain α where
  sess := s
  stream := stream
  requestHeader := requestHeader
  readers := [.receive]
  handshakeClosed := false
  responseClosed := false
  sent := []
  reconnects := []
  serialized := []
  accepted := []
  cancelled := false

/-- The number of readers that have not returned. -/
def running (c : Chain α) : Nat := c.readers.countP (· != .returned)

/-- `close(handshakeCh)` in a reader that holds the channel or `nil`. -/
def closeHandshake (c : Chain α) (holds : Bool) : Except Panic (Chain α) :=
  if !holds then .error (.closeOfNilChannel .handshakeCh)
  else if c.handshakeClosed then .error (.closeOfClosedChannel .handshakeCh)
  else .ok { c with handshakeClosed := true }

/-- `close(responseCh)`. -/
def closeResponses (c : Chain α) : Except Panic (Chain α) :=
  if c.responseClosed then .error (.closeOfClosedChannel .responseCh)
  else .ok { c with responseClosed := true }

/-- `responseCh <- response`. -/
def send (c : Chain α) (response : α) : Except Panic (Chain α) :=
  if c.responseClosed then .error (.sendOnClosedChannel .responseCh)
  else .ok { c with sent := c.sent ++ [response] }

/-- Move reader `i` to `pc`. -/
def setPc (c : Chain α) (i : Nat) (pc : Pc) : Chain α := { c with readers := c.readers.set i pc }

/-- `go s.queryStream(...)` or `go s.commandStream(...)` with a `nil` handshake channel. -/
def spawn (c : Chain α) : Chain α := { c with readers := c.readers ++ [.receive] }

/-- `s.conns.Reconnect(leader)`. -/
def reconnect (c : Chain α) (leader : String) : Chain α :=
  { c with reconnects := c.reconnects ++ [leader] }

/-- `s.recordResponse(requestHeader, responseHeader)`. -/
def record (c : Chain α) (header : ResponseHeader) : Chain α :=
  { c with sess := c.sess.recordResponse c.requestHeader header }

/-- `stream.Serialize(responseHeader)`. -/
def serialize (c : Chain α) (header : ResponseHeader) (response : α) : Bool × Chain α :=
  let r := c.sess.serializeAt c.stream header
  (r.1, { c with
    sess := r.2
    serialized := c.serialized ++ [(header, response)]
    accepted := if r.1 then c.accepted ++ [(header, response)] else c.accepted })

/-- `stream.Close()`. -/
def closeStream (c : Chain α) : Chain α := { c with sess := c.sess.closeStream c.stream }

end Chain

/-! ## `queryStream` -/

/-- `close(responseCh)` and `return`. -/
def queryStop (c : Chain α) (i : Nat) : Except Panic (Chain α) := do
  let c ← c.closeResponses
  pure (c.setPc i .returned)

/-- One pass of the loop of `queryStream` in reader `i`, on a header and a response. -/
def queryStreamRecv (c : Chain α) (i : Nat) (header : ResponseHeader) (response : α) :
    Except Panic (Chain α) :=
  match header.Type with
  | .OPEN_STREAM => c.closeHandshake (i = 0)
  | .CLOSE_STREAM => queryStop c i
  | .RESPONSE =>
    match header.Status with
    | .OK => (c.record header).send response
    | .NOT_LEADER => pure ((c.reconnect header.Leader).setPc i .reopen)
    | .ERROR => queryStop c i

/-- The rest of the `NOT_LEADER` branch of `queryStream`: `Connect`, re-open, hand over. -/
def queryStreamReopen (c : Chain α) (i : Nat) : OpenResult → Except Panic (Chain α)
  | .connectError _ => queryStop c i
  | .openError _ => queryStop c i
  | .opened => pure (c.setPc i .returned).spawn

/-- One step of a chain of `queryStream` readers; `none` when the input does not apply. -/
def queryStep (c : Chain α) : Input α → Option (Except Panic (Chain α))
  | .recvError i => if c.readers[i]? = some .receive then some (queryStop c i) else none
  | .recv i h r => if c.readers[i]? = some .receive then some (queryStreamRecv c i h r) else none
  | .reopen i o => if c.readers[i]? = some .reopen then some (queryStreamReopen c i o) else none
  | .cancel => none

/-! ## `commandStream` -/

/-- `close(responseCh)`, `stream.Close()` and `return`. -/
def commandStop (c : Chain α) (i : Nat) : Except Panic (Chain α) := do
  let c ← c.closeResponses
  pure (c.closeStream.setPc i .returned)

/-- One pass of the loop of `commandStream` in reader `i`, on a header and a response. -/
def commandStreamRecv (c : Chain α) (i : Nat) (header : ResponseHeader) (response : α) :
    Except Panic (Chain α) :=
  match header.Type with
  | .OPEN_STREAM =>
    let r := c.serialize header response
    if r.1 && decide (i = 0) then r.2.closeHandshake (i = 0) else pure r.2
  | .CLOSE_STREAM =>
    let r := c.serialize header response
    if r.1 then commandStop r.2 i else pure r.2
  | .RESPONSE =>
    match header.Status with
    | .OK =>
      let r := (c.record header).serialize header response
      if r.1 then r.2.send response else pure r.2
    | .NOT_LEADER => pure ((c.reconnect header.Leader).setPc i .reopen)
    | .ERROR => commandStop c i

/-- The rest of the `NOT_LEADER` branch of `commandStream`: `Connect`, re-open, hand over. -/
def commandStreamReopen (c : Chain α) (i : Nat) : OpenResult → Except Panic (Chain α)
  | .connectError _ => commandStop c i
  | .openError _ => commandStop c i
  | .opened => pure (c.setPc i .returned).spawn

/-- One step of a chain of `commandStream` readers and the context goroutine. -/
def commandStep (c : Chain α) : Input α → Option (Except Panic (Chain α))
  | .recvError i => if c.readers[i]? = some .receive then some (commandStop c i) else none
  | .recv i h r =>
    if c.readers[i]? = some .receive then some (commandStreamRecv c i h r) else none
  | .reopen i o =>
    if c.readers[i]? = some .reopen then some (commandStreamReopen c i o) else none
  | .cancel => if c.cancelled then none else some (.ok { c.closeStream with cancelled := true })

/-! ## Opening a stream -/

/-- `doQueryStream` up to its first reader: `Connect`, a query header, the opening RPC. -/
def doQueryStream (s : Session) (name : PrimitiveName) : OpenResult → Except String (Chain α)
  | .connectError err => .error err
  | .openError err => .error err
  | .opened => .ok (Chain.start s 0 (s.getQueryHeader name))

/-- `doCommandStream` up to its first reader: `Connect`, a stream header, the opening RPC, after
whose failure `stream.Close()`. -/
def doCommandStream (s : Session) (name : PrimitiveName) :
    OpenResult → Session × Except String (Chain α)
  | .connectError err => (s, .error err)
  | .openError err =>
    let r := s.nextStreamHeader name
    (r.1.closeStream r.2.1, .error err)
  | .opened =>
    let r := s.nextStreamHeader name
    (r.1, .ok (Chain.start r.1 r.2.1 r.2.2))

/-! ## Runs -/

/-- The two shapes of stream. -/
inductive Shape where
  | query
  | command
  deriving DecidableEq, Repr

/-- The step of a shape's readers. -/
def Shape.step : Shape → Chain α → Input α → Option (Except Panic (Chain α))
  | .query => queryStep
  | .command => commandStep

/-- The chains reached from `c₀` by inputs that apply, none of which panicked. -/
inductive Reaches (shape : Shape) (c₀ : Chain α) : Chain α → Prop
  | start : Reaches shape c₀ c₀
  | step {c c' : Chain α} (i : Input α) :
      Reaches shape c₀ c → shape.step c i = some (.ok c') → Reaches shape c₀ c'

/-- Feed the inputs in order; the first that does not apply or panics ends the run. -/
def Shape.run (shape : Shape) (c : Chain α) : List (Input α) → Option (Except Panic (Chain α))
  | [] => some (.ok c)
  | i :: is =>
    match shape.step c i with
    | some (.ok c') => shape.run c' is
    | r => r

theorem Reaches.run {shape : Shape} {c₀ c c' : Chain α} :
    ∀ {is : List (Input α)}, Reaches shape c₀ c → shape.run c is = some (.ok c') →
      Reaches shape c₀ c'
  | [], hc, h => by cases h; exact hc
  | i :: is, hc, h => by
    unfold Shape.run at h
    split at h
    · exact Reaches.run (.step i hc ‹_›) h
    · rename_i hne
      exact absurd h (hne c')

/-! ## Field lemmas -/

namespace Chain

variable (c : Chain α) (i : Nat) (pc : Pc) (h : ResponseHeader) (r : α)

@[simp] theorem setPc_readers : (c.setPc i pc).readers = c.readers.set i pc := rfl
@[simp] theorem setPc_responseClosed : (c.setPc i pc).responseClosed = c.responseClosed := rfl
@[simp] theorem setPc_sess : (c.setPc i pc).sess = c.sess := rfl
@[simp] theorem setPc_stream : (c.setPc i pc).stream = c.stream := rfl
@[simp] theorem setPc_sent : (c.setPc i pc).sent = c.sent := rfl
@[simp] theorem setPc_serialized : (c.setPc i pc).serialized = c.serialized := rfl
@[simp] theorem setPc_accepted : (c.setPc i pc).accepted = c.accepted := rfl
@[simp] theorem setPc_handshakeClosed : (c.setPc i pc).handshakeClosed = c.handshakeClosed := rfl

@[simp] theorem spawn_readers : c.spawn.readers = c.readers ++ [.receive] := rfl
@[simp] theorem spawn_responseClosed : c.spawn.responseClosed = c.responseClosed := rfl
@[simp] theorem spawn_sess : c.spawn.sess = c.sess := rfl
@[simp] theorem spawn_stream : c.spawn.stream = c.stream := rfl
@[simp] theorem spawn_sent : c.spawn.sent = c.sent := rfl
@[simp] theorem spawn_serialized : c.spawn.serialized = c.serialized := rfl
@[simp] theorem spawn_accepted : c.spawn.accepted = c.accepted := rfl
@[simp] theorem spawn_handshakeClosed : c.spawn.handshakeClosed = c.handshakeClosed := rfl

@[simp] theorem reconnect_readers (l : String) : (c.reconnect l).readers = c.readers := rfl
@[simp] theorem reconnect_responseClosed (l : String) :
    (c.reconnect l).responseClosed = c.responseClosed := rfl
@[simp] theorem reconnect_sess (l : String) : (c.reconnect l).sess = c.sess := rfl
@[simp] theorem reconnect_stream (l : String) : (c.reconnect l).stream = c.stream := rfl
@[simp] theorem reconnect_sent (l : String) : (c.reconnect l).sent = c.sent := rfl
@[simp] theorem reconnect_serialized (l : String) :
    (c.reconnect l).serialized = c.serialized := rfl
@[simp] theorem reconnect_accepted (l : String) : (c.reconnect l).accepted = c.accepted := rfl
@[simp] theorem reconnect_handshakeClosed (l : String) :
    (c.reconnect l).handshakeClosed = c.handshakeClosed := rfl

@[simp] theorem record_readers : (c.record h).readers = c.readers := rfl
@[simp] theorem record_responseClosed : (c.record h).responseClosed = c.responseClosed := rfl
@[simp] theorem record_sess : (c.record h).sess = c.sess.recordResponse c.requestHeader h := rfl
@[simp] theorem record_stream : (c.record h).stream = c.stream := rfl
@[simp] theorem record_sent : (c.record h).sent = c.sent := rfl
@[simp] theorem record_serialized : (c.record h).serialized = c.serialized := rfl
@[simp] theorem record_accepted : (c.record h).accepted = c.accepted := rfl
@[simp] theorem record_handshakeClosed : (c.record h).handshakeClosed = c.handshakeClosed := rfl

@[simp] theorem serialize_readers : (c.serialize h r).2.readers = c.readers := rfl
@[simp] theorem serialize_responseClosed :
    (c.serialize h r).2.responseClosed = c.responseClosed := rfl
@[simp] theorem serialize_sess : (c.serialize h r).2.sess = (c.sess.serializeAt c.stream h).2 := rfl
@[simp] theorem serialize_stream : (c.serialize h r).2.stream = c.stream := rfl
@[simp] theorem serialize_sent : (c.serialize h r).2.sent = c.sent := rfl
@[simp] theorem serialize_serialized :
    (c.serialize h r).2.serialized = c.serialized ++ [(h, r)] := rfl
@[simp] theorem serialize_accepted : (c.serialize h r).2.accepted =
    if (c.serialize h r).1 then c.accepted ++ [(h, r)] else c.accepted := rfl
@[simp] theorem serialize_handshakeClosed :
    (c.serialize h r).2.handshakeClosed = c.handshakeClosed := rfl
@[simp] theorem serialize_fst : (c.serialize h r).1 = (c.sess.serializeAt c.stream h).1 := rfl

@[simp] theorem closeStream_readers : c.closeStream.readers = c.readers := rfl
@[simp] theorem closeStream_responseClosed : c.closeStream.responseClosed = c.responseClosed := rfl
@[simp] theorem closeStream_sess : c.closeStream.sess = c.sess.closeStream c.stream := rfl
@[simp] theorem closeStream_stream : c.closeStream.stream = c.stream := rfl
@[simp] theorem closeStream_sent : c.closeStream.sent = c.sent := rfl
@[simp] theorem closeStream_serialized : c.closeStream.serialized = c.serialized := rfl
@[simp] theorem closeStream_accepted : c.closeStream.accepted = c.accepted := rfl
@[simp] theorem closeStream_handshakeClosed :
    c.closeStream.handshakeClosed = c.handshakeClosed := rfl

/-- On an open `responseCh`, a send succeeds. -/
theorem send_of_open (hc : c.responseClosed = false) :
    c.send r = .ok { c with sent := c.sent ++ [r] } := by
  simp [send, hc]

end Chain

end AtomixClient
