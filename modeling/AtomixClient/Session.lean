import AtomixClient.Headers

/-!
# The session and its critical sections

A `Session` (`pkg/client/primitive/session.go`) holds the sequencing state of one partition:
the server-assigned `SessionID`, the highest index seen (`lastIndex`), the write counter
(`requestID`), the acknowledged watermark (`responseID`) and the open streams. Every function in
this file is one critical section of the Go code, taken under the session's `RWMutex`:

* the four header builders `getState`, `getQueryHeader`, `nextCommandHeader` and
  `nextStreamHeader`, which differ only in the request id and stream list they put into the
  shared `header`;
* `recordResponse`, split at its lock upgrade into `recordCheck` (under the read lock) and
  `recordUpdate` (under the write lock);
* `deleteStream`, and the `Stream` methods `getHeader`, `Serialize` and `Close`.

A `*Stream` is shared by the session's map and by the reader goroutines of its stream, and
`Serialize` mutates it through either. The model keeps the stream objects in `Session.heap`,
indexed by a reference, and the map binds a stream id to a reference.
-/

namespace AtomixClient

/-- A server-push stream of a session (`primitive.Stream`). -/
structure Stream where
  ID : UInt64
  responseID : UInt64
  deriving DecidableEq, Repr

namespace Stream

/-- `Stream.getHeader`. -/
def getHeader (st : Stream) : StreamHeader := ⟨st.ID, st.responseID⟩

@[simp] theorem getHeader_StreamID (st : Stream) : st.getHeader.StreamID = st.ID := rfl
@[simp] theorem getHeader_ResponseID (st : Stream) : st.getHeader.ResponseID = st.responseID :=
  rfl

/-- `Stream.Serialize`: accept `header` iff it carries the next response id of the stream. -/
def Serialize (st : Stream) (header : ResponseHeader) : Bool × Stream :=
  if header.ResponseID = st.responseID + 1 then (true, { st with responseID := st.responseID + 1 })
  else (false, st)

@[simp] theorem Serialize_ID (st : Stream) (h : ResponseHeader) :
    (st.Serialize h).2.ID = st.ID := by
  unfold Serialize; split <;> rfl

end Stream

/-- `map[uint64]*Stream`: a stream id bound to a reference into `Session.heap`. -/
abbrev StreamMap := AList (fun _ : UInt64 => Nat)

/-- The fields of `primitive.Session` that the sequencing logic reads, with the stream objects
the session allocated (`heap`, and `nextRef`, the reference the next one gets). -/
structure Session where
  Partition : GoInt
  SessionID : UInt64
  lastIndex : UInt64
  requestID : UInt64
  responseID : UInt64
  streams : StreamMap
  heap : Nat → Stream
  nextRef : Nat

namespace Session

/-- The session `NewSession` builds, before `open` records the server's reply. -/
def init (partition : GoInt) : Session where
  Partition := partition
  SessionID := 0
  lastIndex := 0
  requestID := 0
  responseID := 0
  streams := ∅
  heap := fun _ => ⟨0, 0⟩
  nextRef := 0

/-! ## Header construction -/

/-- One pass of the loop of `getStreamHeaders`, on the stream object at `ref`: its header, taken
under its own lock, if its id is at most `responseID`. -/
def streamHeader? (s : Session) (ref : Nat) : Option StreamHeader :=
  if (s.heap ref).ID ≤ s.responseID then some (s.heap ref).getHeader else none

/-- `getStreamHeaders`, run without interleaving: the header of every stream in the map whose id
is at most `responseID`. -/
def getStreamHeaders (s : Session) : List StreamHeader :=
  s.streams.entries.filterMap fun e => s.streamHeader? e.2

/-- The request header every builder returns; they differ in `requestID` and `streams`. -/
def header (s : Session) (name : Option PrimitiveName) (requestID : UInt64)
    (streams : List StreamHeader) : RequestHeader where
  Name := name
  Partition := s.Partition.setWidth 32
  SessionID := s.SessionID
  Index := s.lastIndex
  RequestID := requestID
  Streams := streams

/-- `getState` run without interleaving: the state header, which carries the `responseID`
watermark and the streams. -/
def getState (s : Session) (name : Option PrimitiveName) : RequestHeader :=
  s.header name s.responseID s.getStreamHeaders

/-- `getQueryHeader`: a read header, which carries the current `requestID`. -/
def getQueryHeader (s : Session) (name : PrimitiveName) : RequestHeader :=
  s.header (some name) s.requestID []

/-- `nextCommandHeader`: bump `requestID` and return the write header that carries it. -/
def nextCommandHeader (s : Session) (name : PrimitiveName) : Session × RequestHeader :=
  let s' := { s with requestID := s.requestID + 1 }
  (s', s'.header (some name) s'.requestID [])

/-- `nextStreamHeader`: bump `requestID`, register a fresh stream under it, and return the
stream's reference with the write header. -/
def nextStreamHeader (s : Session) (name : PrimitiveName) : Session × Nat × RequestHeader :=
  let id := s.requestID + 1
  let s' := { s with
    requestID := id
    streams := s.streams.insert id s.nextRef
    heap := Function.update s.heap s.nextRef ⟨id, 0⟩
    nextRef := s.nextRef + 1 }
  (s', s.nextRef, s'.header (some name) id [])

/-! ## Recording a response -/

/-- The read-locked half of `recordResponse`: does the reply's index pass `lastIndex`? -/
def recordCheck (s : Session) (responseHeader : ResponseHeader) : Bool :=
  decide (responseHeader.Index > s.lastIndex)

/-- The write-locked half of `recordResponse`: initialise the session from a newer session id,
raise `responseID` to the request's id, raise `lastIndex` to the reply's index. -/
def recordUpdate (s : Session) (requestHeader : RequestHeader)
    (responseHeader : ResponseHeader) : Session :=
  let s₁ := if responseHeader.SessionID > s.SessionID then
    { s with SessionID := responseHeader.SessionID, lastIndex := responseHeader.SessionID } else s
  let s₂ := if requestHeader.RequestID > s₁.responseID then
    { s₁ with responseID := requestHeader.RequestID } else s₁
  if responseHeader.Index > s₂.lastIndex then { s₂ with lastIndex := responseHeader.Index } else s₂

/-- `recordResponse`: the double-checked update, run without interleaving. -/
def recordResponse (s : Session) (requestHeader : RequestHeader)
    (responseHeader : ResponseHeader) : Session :=
  if s.recordCheck responseHeader then s.recordUpdate requestHeader responseHeader else s

/-! ## Streams -/

/-- `deleteStream`. -/
def deleteStream (s : Session) (streamID : UInt64) : Session :=
  { s with streams := s.streams.erase streamID }

/-- `Stream.Serialize` on the stream object at `ref`. -/
def serializeAt (s : Session) (ref : Nat) (header : ResponseHeader) : Bool × Session :=
  (((s.heap ref).Serialize header).1,
    { s with heap := Function.update s.heap ref ((s.heap ref).Serialize header).2 })

/-- `Stream.Close` on the stream object at `ref`: delete its id from the map. -/
def closeStream (s : Session) (ref : Nat) : Session :=
  s.deleteStream (s.heap ref).ID

/-! ## Field lemmas -/

section Fields
variable (s : Session) (name : PrimitiveName) (req : RequestHeader) (resp : ResponseHeader)

@[simp] theorem header_Index (n : Option PrimitiveName) (r : UInt64) (l : List StreamHeader) :
    (s.header n r l).Index = s.lastIndex := rfl
@[simp] theorem header_RequestID (n : Option PrimitiveName) (r : UInt64)
    (l : List StreamHeader) : (s.header n r l).RequestID = r := rfl
@[simp] theorem header_Streams (n : Option PrimitiveName) (r : UInt64) (l : List StreamHeader) :
    (s.header n r l).Streams = l := rfl
@[simp] theorem header_SessionID (n : Option PrimitiveName) (r : UInt64)
    (l : List StreamHeader) : (s.header n r l).SessionID = s.SessionID := rfl

@[simp] theorem nextCommandHeader_requestID :
    (s.nextCommandHeader name).1.requestID = s.requestID + 1 := rfl
@[simp] theorem nextCommandHeader_header :
    (s.nextCommandHeader name).2 = s.header (some name) (s.requestID + 1) [] := rfl

@[simp] theorem nextStreamHeader_requestID :
    (s.nextStreamHeader name).1.requestID = s.requestID + 1 := rfl
@[simp] theorem nextStreamHeader_ref : (s.nextStreamHeader name).2.1 = s.nextRef := rfl
@[simp] theorem nextStreamHeader_header :
    (s.nextStreamHeader name).2.2 = s.header (some name) (s.requestID + 1) [] := rfl

/-- `recordUpdate` as one record update, with each field's final value. -/
theorem recordUpdate_eq : s.recordUpdate req resp =
    { s with
      SessionID := if resp.SessionID > s.SessionID then resp.SessionID else s.SessionID
      responseID := if req.RequestID > s.responseID then req.RequestID else s.responseID
      lastIndex :=
        let l := if resp.SessionID > s.SessionID then resp.SessionID else s.lastIndex
        if resp.Index > l then resp.Index else l } := by
  unfold recordUpdate
  by_cases h₁ : resp.SessionID > s.SessionID <;> by_cases h₂ : req.RequestID > s.responseID <;>
    simp only [h₁, h₂, if_true, if_false] <;> split_ifs <;> rfl

@[simp] theorem recordUpdate_SessionID : (s.recordUpdate req resp).SessionID =
    if resp.SessionID > s.SessionID then resp.SessionID else s.SessionID := by
  rw [recordUpdate_eq]

@[simp] theorem recordUpdate_responseID : (s.recordUpdate req resp).responseID =
    if req.RequestID > s.responseID then req.RequestID else s.responseID := by
  rw [recordUpdate_eq]

@[simp] theorem recordUpdate_lastIndex : (s.recordUpdate req resp).lastIndex =
    let l := if resp.SessionID > s.SessionID then resp.SessionID else s.lastIndex
    if resp.Index > l then resp.Index else l := by
  rw [recordUpdate_eq]

@[simp] theorem recordUpdate_requestID : (s.recordUpdate req resp).requestID = s.requestID := by
  rw [recordUpdate_eq]

@[simp] theorem recordUpdate_streams : (s.recordUpdate req resp).streams = s.streams := by
  rw [recordUpdate_eq]

@[simp] theorem recordUpdate_heap : (s.recordUpdate req resp).heap = s.heap := by
  rw [recordUpdate_eq]

@[simp] theorem recordUpdate_nextRef : (s.recordUpdate req resp).nextRef = s.nextRef := by
  rw [recordUpdate_eq]

@[simp] theorem recordResponse_streams : (s.recordResponse req resp).streams = s.streams := by
  unfold recordResponse; split <;> simp
@[simp] theorem recordResponse_heap : (s.recordResponse req resp).heap = s.heap := by
  unfold recordResponse; split <;> simp

@[simp] theorem serializeAt_streams (ref : Nat) :
    (s.serializeAt ref resp).2.streams = s.streams := rfl
@[simp] theorem serializeAt_heap_self (ref : Nat) :
    (s.serializeAt ref resp).2.heap ref = ((s.heap ref).Serialize resp).2 := by
  simp [serializeAt]
@[simp] theorem serializeAt_fst (ref : Nat) :
    (s.serializeAt ref resp).1 = ((s.heap ref).Serialize resp).1 := rfl

@[simp] theorem closeStream_heap (ref : Nat) : (s.closeStream ref).heap = s.heap := rfl
@[simp] theorem closeStream_streams (ref : Nat) :
    (s.closeStream ref).streams = s.streams.erase (s.heap ref).ID := rfl

end Fields

end Session

end AtomixClient
