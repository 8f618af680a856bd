import AtomixClient.Session

/-!
# One session under concurrent callers

Any number of goroutines call into one `Session`: user calls build headers and record replies,
stream readers serialize and close streams, the keep-alive ticker builds state headers. Each
critical section of `session.go` is one atomic `Action`, run under the session's `RWMutex` or, for
`Stream.Serialize` and `Stream.getHeader`, under the stream object's own lock. Two functions are
split where the code lets other goroutines in:

* `recordResponse` drops the read lock before it takes the write lock. `recordCheck` runs the
  read-locked test, and a reply that passes it becomes `pending`; `recordUpdate` runs the
  write-locked body for a pending reply, whatever happened in between;
* `getState` holds the read lock while `getStreamHeaders` reads each stream object under that
  object's lock, so a `Serialize` can run between two reads. `getState` takes the read lock and
  starts the loop over the map's stream objects, `getStreamHeaders` is one pass of the loop, and
  `getStateReturn` builds the header and releases the lock. The calls holding the read lock are
  `Sys.reading`; while one does, no write-locked action runs.

Besides the session, a `Sys` records what its callers have seen: the headers the builders
returned (`issued`, with the builder that built each), the request headers passed to
`recordResponse` with an `OK` reply (`acked`), the replies that passed the check and wait for the
write lock (`pending`), those whose `recordResponse` returned (`returned`), and the stream ids
`Stream.Close` deleted (`removed`). The request ids handed out, `Sys.allocated`, are read off the
command and stream headers in `issued`.

`ReachableWith Replies` are the states reached from a fresh session when every reply the
server sends satisfies `Replies`; `Reachable` allows any reply.
-/

namespace AtomixClient

/-- Which builder made a request header. -/
inductive HeaderKind where
  | state
  | query
  | command
  | stream
  deriving DecidableEq, Repr

/-- Whether the builder hands out a request id: `nextCommandHeader` and `nextStreamHeader` do. -/
def HeaderKind.isWrite : HeaderKind → Bool
  | .command | .stream => true
  | .state | .query => false

/-- A `getState` call holding the session's read lock, inside the loop of `getStreamHeaders`:
the stream objects it has still to visit, in map order, and the headers appended so far. -/
structure StateRead where
  name : Option PrimitiveName
  todo : List Nat
  result : List StreamHeader
  deriving DecidableEq, Repr

/-- A session shared by concurrent callers, with what the callers have seen of it. -/
structure Sys where
  sess : Session
  /-- The `getState` calls holding the read lock, in the order they took it. -/
  reading : List StateRead
  pending : List (RequestHeader × ResponseHeader)
  issued : List (HeaderKind × RequestHeader)
  acked : List (HeaderKind × RequestHeader)
  returned : List ResponseHeader
  removed : List UInt64

/-- One critical section of the session, run by some goroutine. -/
inductive Action where
  /-- `getState` takes the read lock and starts the loop of `getStreamHeaders`. -/
  | getState (name : Option PrimitiveName)
  /-- One pass of that loop in the `call`-th `getState` holding the lock. -/
  | getStreamHeaders (call : Nat)
  /-- The `call`-th `getState`, its loop done, returns its header and releases the lock. -/
  | getStateReturn (call : Nat)
  | getQueryHeader (name : PrimitiveName)
  | nextCommandHeader (name : PrimitiveName)
  | nextStreamHeader (name : PrimitiveName)
  | recordCheck (kind : HeaderKind) (requestHeader : RequestHeader)
      (responseHeader : ResponseHeader)
  | recordUpdate (requestHeader : RequestHeader) (responseHeader : ResponseHeader)
  | close (ref : Nat)
  | serialize (ref : Nat) (responseHeader : ResponseHeader)

namespace Sys

/-- A fresh session of a partition, before any call. -/
def init (partition : GoInt) : Sys :=
  ⟨Session.init partition, [], [], [], [], [], []⟩

/-- The request ids `nextCommandHeader` and `nextStreamHeader` handed out, oldest first: those of
the command and stream headers built. -/
def allocated (σ : Sys) : List UInt64 :=
  ((σ.issued.filter fun p => p.1.isWrite).map fun p => p.2.RequestID).reverse

/-- Build a header of kind `kind`, leaving the session as `sess`. -/
def build (σ : Sys) (kind : HeaderKind) (header : RequestHeader) (sess : Session) : Sys :=
  { σ with sess := sess, issued := (kind, header) :: σ.issued }

/-- `nextCommandHeader`. -/
def nextCommand (σ : Sys) (name : PrimitiveName) : Sys :=
  σ.build .command (σ.sess.nextCommandHeader name).2 (σ.sess.nextCommandHeader name).1

/-- `nextStreamHeader`. -/
def nextStream (σ : Sys) (name : PrimitiveName) : Sys :=
  σ.build .stream (σ.sess.nextStreamHeader name).2.2 (σ.sess.nextStreamHeader name).1

/-- `getState` takes the read lock; its loop will visit every stream object of the map. -/
def enter (σ : Sys) (name : Option PrimitiveName) : Sys :=
  { σ with reading := σ.reading ++ [⟨name, σ.sess.streams.entries.map Sigma.snd, []⟩] }

/-- One pass of the loop of the `i`-th call holding the lock, `r`, on its next stream object
`ref`; `todo` is what is left after it. -/
def visit (σ : Sys) (i : Nat) (r : StateRead) (ref : Nat) (todo : List Nat) : Sys :=
  { σ with
    reading := σ.reading.set i ⟨r.name, todo, r.result ++ (σ.sess.streamHeader? ref).toList⟩ }

/-- The `i`-th call holding the lock, `r`, returns the header of what its loop read. -/
def leave (σ : Sys) (i : Nat) (r : StateRead) : Sys :=
  { σ.build .state (σ.sess.header r.name σ.sess.responseID r.result) σ.sess with
    reading := σ.reading.eraseIdx i }

/-- The read-locked half of `recordResponse` for an issued header and an `OK` reply. -/
def check (σ : Sys) (kind : HeaderKind) (req : RequestHeader) (resp : ResponseHeader) : Sys :=
  if σ.sess.recordCheck resp then
    { σ with acked := (kind, req) :: σ.acked, pending := (req, resp) :: σ.pending }
  else { σ with acked := (kind, req) :: σ.acked, returned := resp :: σ.returned }

/-- The write-locked half of `recordResponse` for a pending reply. -/
def update (σ : Sys) (req : RequestHeader) (resp : ResponseHeader) : Sys :=
  { σ with
    sess := σ.sess.recordUpdate req resp
    pending := σ.pending.erase (req, resp)
    returned := resp :: σ.returned }

/-- `Stream.Close` on the stream object at `ref`. -/
def close (σ : Sys) (ref : Nat) : Sys :=
  { σ with sess := σ.sess.closeStream ref, removed := (σ.sess.heap ref).ID :: σ.removed }

end Sys

/-- One atomic step; `none` when the action cannot run: an unknown header, reply, stream or
`getState` call, or a write-locked section while a `getState` holds the read lock. -/
def step (σ : Sys) : Action → Option Sys
  | .getState name => some (σ.enter name)
  | .getStreamHeaders i =>
    match σ.reading[i]? with
    | some r =>
      match r.todo with
      | ref :: todo => some (σ.visit i r ref todo)
      | [] => none
    | none => none
  | .getStateReturn i =>
    match σ.reading[i]? with
    | some r => if r.todo = [] then some (σ.leave i r) else none
    | none => none
  | .getQueryHeader name => some (σ.build .query (σ.sess.getQueryHeader name) σ.sess)
  | .nextCommandHeader name => if σ.reading = [] then some (σ.nextCommand name) else none
  | .nextStreamHeader name => if σ.reading = [] then some (σ.nextStream name) else none
  | .recordCheck kind req resp =>
    if (kind, req) ∈ σ.issued ∧ resp.Status = .OK then some (σ.check kind req resp) else none
  | .recordUpdate req resp =>
    if σ.reading = [] ∧ (req, resp) ∈ σ.pending then some (σ.update req resp) else none
  | .close ref => if σ.reading = [] ∧ ref < σ.sess.nextRef then some (σ.close ref) else none
  | .serialize ref resp =>
    if ref < σ.sess.nextRef then some { σ with sess := (σ.sess.serializeAt ref resp).2 } else none

/-- The reply an action passes to `recordResponse`, if any. -/
def Action.reply? : Action → Option ResponseHeader
  | .recordCheck _ _ resp => some resp
  | .recordUpdate _ resp => some resp
  | _ => none

/-- The states reached from a fresh session when every reply passed to `recordResponse`
satisfies `Replies`. -/
inductive ReachableWith (Replies : ResponseHeader → Prop) : Sys → Prop
  | init (partition : GoInt) : ReachableWith Replies (Sys.init partition)
  | step {σ σ' : Sys} (a : Action) : ReachableWith Replies σ →
      (∀ r, a.reply? = some r → Replies r) → step σ a = some σ' → ReachableWith Replies σ'

/-- The states reached from a fresh session, whatever the server replies. -/
def Reachable (σ : Sys) : Prop := ReachableWith (fun _ => True) σ

/-- Run the actions in order. -/
def exec (σ : Sys) : List Action → Option Sys
  | [] => some σ
  | a :: as => (step σ a).bind (exec · as)

theorem exec_append (σ : Sys) (as bs : List Action) :
    exec σ (as ++ bs) = (exec σ as).bind (exec · bs) := by
  induction as generalizing σ with
  | nil => rfl
  | cons a as ih =>
    show (step σ a).bind (exec · (as ++ bs)) = ((step σ a).bind (exec · as)).bind (exec · bs)
    simp only [ih, Option.bind_assoc]

/-- A run followed by one more step. -/
theorem exec_snoc {σ σ₁ σ' : Sys} {as : List Action} {a : Action} (h : exec σ as = some σ₁)
    (ha : step σ₁ a = some σ') : exec σ (as ++ [a]) = some σ' := by
  rw [exec_append, h, Option.some_bind, exec, ha]
  rfl

theorem reachableWith_exec {Replies : ResponseHeader → Prop} {σ σ' : Sys} :
    ∀ {as : List Action}, ReachableWith Replies σ → (∀ a ∈ as, ∀ r, a.reply? = some r → Replies r) →
      exec σ as = some σ' → ReachableWith Replies σ'
  | [], hσ, _, h => by cases h; exact hσ
  | a :: as, hσ, has, h => by
    simp only [exec, Option.bind_eq_some] at h
    obtain ⟨σ₁, h₁, h₂⟩ := h
    exact reachableWith_exec (.step a hσ (has a (List.mem_cons_self _ _)) h₁)
      (fun b hb => has b (List.mem_cons_of_mem _ hb)) h₂

/-! ## What each action does to the session -/

namespace Sys

variable (σ : Sys) (name : PrimitiveName)

@[simp] theorem build_sess (k : HeaderKind) (h : RequestHeader) (s : Session) :
    (σ.build k h s).sess = s := rfl
@[simp] theorem build_issued (k : HeaderKind) (h : RequestHeader) (s : Session) :
    (σ.build k h s).issued = (k, h) :: σ.issued := rfl
@[simp] theorem build_reading (k : HeaderKind) (h : RequestHeader) (s : Session) :
    (σ.build k h s).reading = σ.reading := rfl
@[simp] theorem build_pending (k : HeaderKind) (h : RequestHeader) (s : Session) :
    (σ.build k h s).pending = σ.pending := rfl
@[simp] theorem build_acked (k : HeaderKind) (h : RequestHeader) (s : Session) :
    (σ.build k h s).acked = σ.acked := rfl
@[simp] theorem build_returned (k : HeaderKind) (h : RequestHeader) (s : Session) :
    (σ.build k h s).returned = σ.returned := rfl
@[simp] theorem build_removed (k : HeaderKind) (h : RequestHeader) (s : Session) :
    (σ.build k h s).removed = σ.removed := rfl

/-- A header adds its id to those handed out iff its builder hands one out. -/
theorem build_allocated (k : HeaderKind) (h : RequestHeader) (s : Session) :
    (σ.build k h s).allocated = if k.isWrite then σ.allocated ++ [h.RequestID] else σ.allocated := by
  unfold allocated
  cases hk : k.isWrite <;> simp [hk]

variable (i : Nat) (r : StateRead)

@[simp] theorem enter_sess (n : Option PrimitiveName) : (σ.enter n).sess = σ.sess := rfl
@[simp] theorem enter_issued (n : Option PrimitiveName) : (σ.enter n).issued = σ.issued := rfl
@[simp] theorem enter_reading (n : Option PrimitiveName) : (σ.enter n).reading =
    σ.reading ++ [⟨n, σ.sess.streams.entries.map Sigma.snd, []⟩] := rfl
@[simp] theorem visit_sess (ref : Nat) (todo : List Nat) : (σ.visit i r ref todo).sess = σ.sess :=
  rfl
@[simp] theorem visit_issued (ref : Nat) (todo : List Nat) :
    (σ.visit i r ref todo).issued = σ.issued := rfl
@[simp] theorem leave_sess : (σ.leave i r).sess = σ.sess := rfl
@[simp] theorem leave_issued : (σ.leave i r).issued =
    (.state, σ.sess.header r.name σ.sess.responseID r.result) :: σ.issued := rfl
@[simp] theorem leave_reading : (σ.leave i r).reading = σ.reading.eraseIdx i := rfl
@[simp] theorem enter_pending (n : Option PrimitiveName) : (σ.enter n).pending = σ.pending := rfl
@[simp] theorem enter_returned (n : Option PrimitiveName) : (σ.enter n).returned = σ.returned :=
  rfl
@[simp] theorem enter_removed (n : Option PrimitiveName) : (σ.enter n).removed = σ.removed := rfl
@[simp] theorem visit_pending (ref : Nat) (todo : List Nat) :
    (σ.visit i r ref todo).pending = σ.pending := rfl
@[simp] theorem visit_returned (ref : Nat) (todo : List Nat) :
    (σ.visit i r ref todo).returned = σ.returned := rfl
@[simp] theorem visit_removed (ref : Nat) (todo : List Nat) :
    (σ.visit i r ref todo).removed = σ.removed := rfl
@[simp] theorem leave_pending : (σ.leave i r).pending = σ.pending := rfl
@[simp] theorem leave_returned : (σ.leave i r).returned = σ.returned := rfl
@[simp] theorem leave_removed : (σ.leave i r).removed = σ.removed := rfl

variable (k : HeaderKind) (req : RequestHeader) (resp : ResponseHeader)

@[simp] theorem check_sess : (σ.check k req resp).sess = σ.sess := by
  unfold check; split <;> rfl
@[simp] theorem check_acked : (σ.check k req resp).acked = (k, req) :: σ.acked := by
  unfold check; split <;> rfl
@[simp] theorem check_issued : (σ.check k req resp).issued = σ.issued := by
  unfold check; split <;> rfl
@[simp] theorem check_reading : (σ.check k req resp).reading = σ.reading := by
  unfold check; split <;> rfl
@[simp] theorem check_removed : (σ.check k req resp).removed = σ.removed := by
  unfold check; split <;> rfl
theorem check_pending_subset {q : RequestHeader × ResponseHeader}
    (h : q ∈ (σ.check k req resp).pending) : q = (req, resp) ∨ q ∈ σ.pending := by
  unfold check at h; split at h <;> simp_all

@[simp] theorem update_sess : (σ.update req resp).sess = σ.sess.recordUpdate req resp := rfl
@[simp] theorem update_removed : (σ.update req resp).removed = σ.removed := rfl
@[simp] theorem update_issued : (σ.update req resp).issued = σ.issued := rfl
@[simp] theorem update_reading : (σ.update req resp).reading = σ.reading := rfl
@[simp] theorem update_returned : (σ.update req resp).returned = resp :: σ.returned := rfl

@[simp] theorem nextCommand_sess : (σ.nextCommand name).sess = (σ.sess.nextCommandHeader name).1 :=
  rfl
@[simp] theorem nextCommand_removed : (σ.nextCommand name).removed = σ.removed := rfl
@[simp] theorem nextCommand_pending : (σ.nextCommand name).pending = σ.pending := rfl
@[simp] theorem nextCommand_returned : (σ.nextCommand name).returned = σ.returned := rfl
@[simp] theorem nextCommand_reading : (σ.nextCommand name).reading = σ.reading := rfl
@[simp] theorem nextCommand_issued :
    (σ.nextCommand name).issued = (.command, (σ.sess.nextCommandHeader name).2) :: σ.issued := rfl
@[simp] theorem nextStream_sess : (σ.nextStream name).sess = (σ.sess.nextStreamHeader name).1 :=
  rfl
@[simp] theorem nextStream_removed : (σ.nextStream name).removed = σ.removed := rfl
@[simp] theorem nextStream_pending : (σ.nextStream name).pending = σ.pending := rfl
@[simp] theorem nextStream_returned : (σ.nextStream name).returned = σ.returned := rfl
@[simp] theorem nextStream_reading : (σ.nextStream name).reading = σ.reading := rfl
@[simp] theorem nextStream_issued :
    (σ.nextStream name).issued = (.stream, (σ.sess.nextStreamHeader name).2.2) :: σ.issued := rfl

@[simp] theorem close_issued (ref : Nat) : (σ.close ref).issued = σ.issued := rfl
@[simp] theorem close_returned (ref : Nat) : (σ.close ref).returned = σ.returned := rfl
@[simp] theorem close_reading (ref : Nat) : (σ.close ref).reading = σ.reading := rfl

@[simp] theorem nextCommand_allocated :
    (σ.nextCommand name).allocated = σ.allocated ++ [σ.sess.requestID + 1] := by
  simp [nextCommand, build_allocated, HeaderKind.isWrite]
@[simp] theorem nextStream_allocated :
    (σ.nextStream name).allocated = σ.allocated ++ [σ.sess.requestID + 1] := by
  simp [nextStream, build_allocated, HeaderKind.isWrite]

end Sys

end AtomixClient
