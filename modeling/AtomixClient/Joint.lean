import AtomixClient.Invariants
import AtomixClient.ChainSafety

/-!
# One stream's readers among the session's other callers

The readers of a stream (`ReaderChain`) and every other caller of the session (`Interleaving`)
share one `Session`. A reader enters the session's critical sections exactly where the code calls
into it: `recordResponse` (the read-locked check, then the write-locked update when the check
passes), `Stream.Serialize` and `Stream.Close`. `Chain.sections` lists the sections one step of a
chain enters, in order; the update of `recordResponse` is left to `Action.next`, since the check
decides it when it runs.

A reader holds no lock between two of its sections, so other callers run there. `Interleaved σ
as σ'` runs the sections `as` in order, each followed by what it leaves to run next, with a run of
other callers' actions before each of them.

`Joint` is the system of one chain and all other callers from the moment the stream is opened: a
step is another caller's `Action`, or a step of the readers whose sections run interleaved with
other callers; either way the readers then see the session's new state. `Tracks` relates the two
views of the shared session.

* `Tracks.step_alone`: a step of the readers with no other caller in between is a run of its
  sections that ends with the session the readers computed;
* `closed_stream_stays_removed`: once a command stream is closed, by its last reader or by the
  context goroutine, its id stays out of the stream map under any interleaving with other callers,
  as long as fewer than `2^64 - 1` ids have been handed out.
-/

namespace AtomixClient

variable {α : Type}

/-- The kind of header a shape's opening call builds. -/
def Shape.kind : Shape → HeaderKind
  | .query => .query
  | .command => .stream

/-- The critical sections of the session one step of a chain of `shape` enters, in order. -/
def Chain.sections (c : Chain α) : Shape → Input α → List Action
  | .query, .recv _ h _ =>
    match h.Type, h.Status with
    | .RESPONSE, .OK => [.recordCheck .query c.requestHeader h]
    | _, _ => []
  | .query, _ => []
  | .command, .recv _ h _ =>
    match h.Type with
    | .OPEN_STREAM => [.serialize c.stream h]
    | .CLOSE_STREAM =>
      .serialize c.stream h :: if (c.sess.serializeAt c.stream h).1 then [.close c.stream] else []
    | .RESPONSE =>
      match h.Status with
      | .OK => [.recordCheck .stream c.requestHeader h, .serialize c.stream h]
      | .NOT_LEADER => []
      | .ERROR => [.close c.stream]
  | .command, .reopen _ .opened => []
  | .command, _ => [.close c.stream]

/-- What a critical section leaves its goroutine to run next, once it ran on `s`: the write-locked
half of `recordResponse` after a read-locked half that passed, nothing otherwise. -/
def Action.next (s : Session) : Action → List Action
  | .recordCheck _ req resp => if s.recordCheck resp then [.recordUpdate req resp] else []
  | _ => []

/-- One goroutine runs the critical sections `as` in order, each followed by what it leaves to
run next, while other goroutines run a sequence of actions before each of them. -/
inductive Interleaved : Sys → List Action → Sys → Prop
  | nil (σ : Sys) : Interleaved σ [] σ
  | next {σ σ₁ σ₂ σ' : Sys} (others : List Action) (a : Action) {as : List Action} :
      exec σ others = some σ₁ → step σ₁ a = some σ₂ → Interleaved σ₂ (a.next σ₁.sess ++ as) σ' →
      Interleaved σ (a :: as) σ'

/-- A command stream is closed once no reader runs or the context goroutine has run. -/
def Chain.closed (c : Chain α) : Prop := c.running = 0 ∨ c.cancelled = true

/-! ## `recordResponse` in `Sys` -/

namespace Sys

variable (σ : Sys) (kind : HeaderKind) (req : RequestHeader) (resp : ResponseHeader)

/-- `recordResponse` on the shared session: the check, then the update when it passes. -/
def record : Sys :=
  if σ.sess.recordCheck resp then (σ.check kind req resp).update req resp
  else σ.check kind req resp

@[simp] theorem record_sess : (σ.record kind req resp).sess = σ.sess.recordResponse req resp := by
  unfold record Session.recordResponse
  split <;> simp

@[simp] theorem record_issued : (σ.record kind req resp).issued = σ.issued := by
  unfold record
  split <;> simp

@[simp] theorem record_reading : (σ.record kind req resp).reading = σ.reading := by
  unfold record
  split <;> simp

@[simp] theorem record_removed : (σ.record kind req resp).removed = σ.removed := by
  unfold record
  split <;> simp

end Sys

theorem Session.recordResponse_nextRef (s : Session) (req : RequestHeader) (resp : ResponseHeader) :
    (s.recordResponse req resp).nextRef = s.nextRef := by
  unfold Session.recordResponse
  split <;> simp

/-! ## What every step keeps -/

/-- A step never forgets a header it built or a stream id it removed, allocates stream objects
only above `nextRef`, and keeps the id of every stream object below it. -/
theorem step_frame {σ σ' : Sys} {a : Action} (h : step σ a = some σ') :
    (∀ p ∈ σ.issued, p ∈ σ'.issued) ∧ (∀ k ∈ σ.removed, k ∈ σ'.removed) ∧
      σ.sess.nextRef ≤ σ'.sess.nextRef ∧
      ∀ ref < σ.sess.nextRef, (σ'.sess.heap ref).ID = (σ.sess.heap ref).ID := by
  rcases step_cases h with ⟨n, -, rfl⟩ | ⟨i, r, ref, todo, -, -, -, rfl⟩ | ⟨i, r, -, -, -, rfl⟩ |
    ⟨n, -, rfl⟩ | ⟨n, -, -, rfl⟩ | ⟨n, -, -, rfl⟩ | ⟨k, req, resp, -, -, -, rfl⟩ |
    ⟨req, resp, -, -, -, rfl⟩ | ⟨ref, -, -, -, rfl⟩ | ⟨ref, resp, -, -, rfl⟩
  all_goals refine ⟨fun p hp => by simp [hp], fun k hk => by simp [Sys.close, hk], ?_⟩
  · exact ⟨le_rfl, fun _ _ => rfl⟩
  · exact ⟨le_rfl, fun _ _ => rfl⟩
  · exact ⟨le_rfl, fun _ _ => rfl⟩
  · exact ⟨le_rfl, fun _ _ => rfl⟩
  · exact ⟨le_rfl, fun _ _ => rfl⟩
  · refine ⟨Nat.le_succ _, fun r hr => ?_⟩
    simp [Sys.nextStream, Sys.build, Session.nextStreamHeader, Function.update_noteq (Nat.ne_of_lt hr)]
  · exact ⟨by simp, fun _ _ => by simp⟩
  · exact ⟨by simp, fun _ _ => by simp⟩
  · exact ⟨le_rfl, fun _ _ => rfl⟩
  · refine ⟨le_rfl, fun r _ => ?_⟩
    by_cases hr : r = ref
    · subst hr; simp [Session.serializeAt]
    · simp [Session.serializeAt, Function.update_noteq hr]

theorem exec_frame {σ σ' : Sys} : ∀ {as : List Action}, exec σ as = some σ' →
    (∀ p ∈ σ.issued, p ∈ σ'.issued) ∧ (∀ k ∈ σ.removed, k ∈ σ'.removed) ∧
      σ.sess.nextRef ≤ σ'.sess.nextRef ∧
      ∀ ref < σ.sess.nextRef, (σ'.sess.heap ref).ID = (σ.sess.heap ref).ID
  | [], h => by cases h; exact ⟨fun _ => id, fun _ => id, le_rfl, fun _ _ => rfl⟩
  | a :: as, h => by
    obtain ⟨σ₁, h₁, h₂⟩ := Option.bind_eq_some.1 h
    obtain ⟨i₁, r₁, n₁, e₁⟩ := step_frame h₁
    obtain ⟨i₂, r₂, n₂, e₂⟩ := exec_frame h₂
    exact ⟨fun p hp => i₂ p (i₁ p hp), fun k hk => r₂ k (r₁ k hk), n₁.trans n₂,
      fun ref hr => (e₂ ref (lt_of_lt_of_le hr n₁)).trans (e₁ ref hr)⟩

/-- Once a run has closed the stream object at `ref`, its id stays among the removed ones. -/
theorem exec_close_removed {ref : Nat} : ∀ {σ σ' : Sys} {bs : List Action},
    exec σ bs = some σ' → .close ref ∈ bs → (σ'.sess.heap ref).ID ∈ σ'.removed
  | _, _, [], _, hc => absurd hc (List.not_mem_nil _)
  | σ, _, b :: bs, h, hc => by
    obtain ⟨σ₁, h₁, h₂⟩ := Option.bind_eq_some.1 h
    rcases List.mem_cons.1 hc with rfl | hc
    · obtain ⟨⟨-, hr⟩, rfl⟩ : (σ.reading = [] ∧ ref < σ.sess.nextRef) ∧ σ.close ref = σ₁ := by
        simpa [step] using h₁
      obtain ⟨-, hrem, -, hid⟩ := exec_frame h₂
      rw [hid ref hr]
      exact hrem _ (List.mem_cons_self _ _)
    · exact exec_close_removed h₂ hc

/-! ## Sections run among other callers -/

section Interleaved
variable {σ σ' : Sys} {as : List Action}

/-- An interleaved run is a run of the session that contains every section. -/
theorem Interleaved.exists_exec (h : Interleaved σ as σ') :
    ∃ bs, exec σ bs = some σ' ∧ as ⊆ bs := by
  induction h with
  | nil σ => exact ⟨[], rfl, List.nil_subset _⟩
  | next others a hx hs _ ih =>
    obtain ⟨bs, hbs, hsub⟩ := ih
    refine ⟨others ++ a :: bs, by simp only [exec_append, hx, Option.some_bind, exec, hs, hbs], ?_⟩
    exact List.cons_subset.2 ⟨List.mem_append_right _ (List.mem_cons_self _ _), fun b hb =>
      List.mem_append_right _ (List.mem_cons_of_mem _ (hsub (List.mem_append_right _ hb)))⟩

theorem Interleaved.close_removed {ref : Nat} (h : Interleaved σ as σ') (hc : .close ref ∈ as) :
    (σ'.sess.heap ref).ID ∈ σ'.removed :=
  let ⟨_, hx, hsub⟩ := h.exists_exec
  exec_close_removed hx (hsub hc)

/-- `recordResponse` with no other caller in between: the check, then the update if it passed. -/
theorem Interleaved.cons_record {kind : HeaderKind} {req : RequestHeader} {resp : ResponseHeader}
    (hk : (kind, req) ∈ σ.issued) (hok : resp.Status = .OK) (hrd : σ.reading = [])
    (h : Interleaved (σ.record kind req resp) as σ') :
    Interleaved σ (.recordCheck kind req resp :: as) σ' := by
  refine .next [] _ rfl (if_pos ⟨hk, hok⟩) ?_
  unfold Sys.record at h
  simp only [Action.next]
  split
  next hc =>
    rw [if_pos hc] at h
    exact .next [] _ rfl (if_pos ⟨by simpa using hrd, by simp [Sys.check, hc]⟩) h
  next hc => rwa [if_neg hc] at h

theorem Interleaved.cons_serialize {ref : Nat} {resp : ResponseHeader}
    (hr : ref < σ.sess.nextRef)
    (h : Interleaved { σ with sess := (σ.sess.serializeAt ref resp).2 } as σ') :
    Interleaved σ (.serialize ref resp :: as) σ' :=
  .next [] _ rfl (if_pos hr) h

theorem Interleaved.cons_close {ref : Nat} (hrd : σ.reading = []) (hr : ref < σ.sess.nextRef)
    (h : Interleaved (σ.close ref) as σ') : Interleaved σ (.close ref :: as) σ' :=
  .next [] _ rfl (if_pos ⟨hrd, hr⟩) h

end Interleaved

/-! ## The two views of the shared session -/

/-- A `Sys` whose session is the one a chain of `shape` shares: the same session, the chain's
header built by the shape's builder, and, for a command stream, its stream object allocated. -/
structure Tracks (shape : Shape) (σ : Sys) (c : Chain α) : Prop where
  sess : σ.sess = c.sess
  issued : (shape.kind, c.requestHeader) ∈ σ.issued
  stream : shape = .command → c.stream < σ.sess.nextRef

section Tracking
variable {shape : Shape} {σ : Sys} {c c' : Chain α} (ht : Tracks shape σ c)
include ht

theorem Tracks.frame (hs : c'.sess = c.sess) (hr : c'.requestHeader = c.requestHeader)
    (hst : c'.stream = c.stream) : Tracks shape σ c' :=
  ⟨ht.sess.trans hs.symm, hr ▸ ht.issued, hst ▸ ht.stream⟩

theorem Tracks.record (h : ResponseHeader) :
    Tracks shape (σ.record shape.kind c.requestHeader h) (c.record h) :=
  ⟨by simp [ht.sess], by simpa using ht.issued,
    fun hc => by simpa [Session.recordResponse_nextRef] using ht.stream hc⟩

theorem Tracks.serialize (h : ResponseHeader) (r : α) :
    Tracks shape { σ with sess := (σ.sess.serializeAt c.stream h).2 } (c.serialize h r).2 :=
  ⟨by simp [ht.sess], ht.issued, fun hc => by simpa [Session.serializeAt] using ht.stream hc⟩

theorem Tracks.closeStream : Tracks shape (σ.close c.stream) c.closeStream :=
  ⟨by simp [Sys.close, ht.sess], by simpa using ht.issued, ht.stream⟩

/-- After a run of other callers, the readers see the new session. -/
theorem Tracks.exec {as : List Action} {σ' : Sys} (h : exec σ as = some σ') :
    Tracks shape σ' { c with sess := σ'.sess } :=
  let ⟨hi, _, hn, _⟩ := exec_frame h
  ⟨rfl, hi _ ht.issued, fun hc => lt_of_lt_of_le (ht.stream hc) hn⟩

end Tracking

/-! ## A step of the readers alone is its critical sections -/

/-- With no other caller in between, every step of a query stream's readers runs its critical
sections in `Sys`, which ends with the readers' session, builds no header and leaves no
`getState` holding the lock. -/
theorem Tracks.queryStep_alone {σ : Sys} {c c' : Chain α} {inp : Input α} (ht : Tracks .query σ c)
    (hrd : σ.reading = []) (h : queryStep c inp = some (.ok c')) :
    ∃ σ', Interleaved σ (c.sections .query inp) σ' ∧ Tracks .query σ' c' ∧
      σ'.issued = σ.issued ∧ σ'.reading = [] := by
  cases inp with
  | recvError i =>
    simp only [queryStep] at h
    split at h
    · cases queryStop_ok (Option.some.inj h)
      exact ⟨σ, .nil σ, ht.frame rfl rfl rfl, rfl, hrd⟩
    · cases h
  | recv i hdr r =>
    simp only [queryStep] at h
    split at h
    · replace h := Option.some.inj h
      unfold queryStreamRecv at h
      split at h
      next hT =>
        cases closeHandshake_ok h
        exact ⟨σ, by simp only [Chain.sections, hT]; exact .nil σ, ht.frame rfl rfl rfl, rfl, hrd⟩
      next hT =>
        cases queryStop_ok h
        exact ⟨σ, by simp only [Chain.sections, hT]; exact .nil σ, ht.frame rfl rfl rfl, rfl, hrd⟩
      next hT =>
        split at h
        next hS =>
          cases send_ok h
          refine ⟨_, ?_, (ht.record hdr).frame rfl rfl rfl, by simp, by simp [hrd]⟩
          simp only [Chain.sections, hT, hS]
          exact .cons_record ht.issued hS hrd (.nil _)
        next hS =>
          cases h
          exact ⟨σ, by simp only [Chain.sections, hT, hS]; exact .nil σ, ht.frame rfl rfl rfl,
            rfl, hrd⟩
        next hS =>
          cases queryStop_ok h
          exact ⟨σ, by simp only [Chain.sections, hT, hS]; exact .nil σ, ht.frame rfl rfl rfl,
            rfl, hrd⟩
    · cases h
  | reopen i o =>
    simp only [queryStep] at h
    split at h
    · replace h := Option.some.inj h
      cases o with
      | connectError => cases queryStop_ok h; exact ⟨σ, .nil σ, ht.frame rfl rfl rfl, rfl, hrd⟩
      | openError => cases queryStop_ok h; exact ⟨σ, .nil σ, ht.frame rfl rfl rfl, rfl, hrd⟩
      | opened => cases h; exact ⟨σ, .nil σ, ht.frame rfl rfl rfl, rfl, hrd⟩
    · cases h
  | cancel => cases h

/-- With no other caller in between, every step of a command stream's readers or of its context
goroutine runs its critical sections in `Sys`, which ends with the readers' session, builds no
header and leaves no `getState` holding the lock. -/
theorem Tracks.commandStep_alone {σ : Sys} {c c' : Chain α} {inp : Input α}
    (ht : Tracks .command σ c) (hrd : σ.reading = []) (h : commandStep c inp = some (.ok c')) :
    ∃ σ', Interleaved σ (c.sections .command inp) σ' ∧ Tracks .command σ' c' ∧
      σ'.issued = σ.issued ∧ σ'.reading = [] := by
  have hr := ht.stream rfl
  have hclose : Interleaved σ [.close c.stream] (σ.close c.stream) := .cons_close hrd hr (.nil _)
  cases inp with
  | recvError i =>
    simp only [commandStep] at h
    split at h
    · obtain ⟨-, rfl⟩ := commandStop_ok (Option.some.inj h)
      exact ⟨_, hclose, ht.closeStream.frame rfl rfl rfl, rfl, hrd⟩
    · cases h
  | recv i hdr r =>
    simp only [commandStep] at h
    split at h
    · rename_i hi
      replace h := Option.some.inj h
      have hs := ht.serialize hdr r
      have hser : Interleaved σ [.serialize c.stream hdr]
          { σ with sess := (σ.sess.serializeAt c.stream hdr).2 } := .cons_serialize hr (.nil _)
      unfold commandStreamRecv at h
      split at h <;> dsimp only at h
      next hT =>
        have hx : Interleaved σ (c.sections .command (.recv i hdr r))
            { σ with sess := (σ.sess.serializeAt c.stream hdr).2 } := by
          simp only [Chain.sections, hT]
          exact hser
        split at h
        · cases closeHandshake_ok h
          exact ⟨_, hx, hs.frame rfl rfl rfl, rfl, hrd⟩
        · cases h
          exact ⟨_, hx, hs, rfl, hrd⟩
      next hT =>
        split at h
        next hacc =>
          obtain ⟨-, rfl⟩ := commandStop_ok h
          refine ⟨_, ?_, hs.closeStream.frame rfl rfl rfl, rfl, hrd⟩
          simp only [Chain.sections, hT, ← ht.sess]
          rw [if_pos (by rw [ht.sess]; exact hacc)]
          exact .cons_serialize hr (.cons_close hrd hr (.nil _))
        next hacc =>
          cases h
          refine ⟨_, ?_, hs, rfl, hrd⟩
          simp only [Chain.sections, hT, ← ht.sess]
          rw [if_neg (by rw [ht.sess]; exact hacc)]
          exact hser
      next hT =>
        split at h
        next hS =>
          have hrs := (ht.record hdr).serialize hdr r
          have hx : Interleaved σ (c.sections .command (.recv i hdr r))
              { σ.record .stream c.requestHeader hdr with
                sess := ((σ.record .stream c.requestHeader hdr).sess.serializeAt c.stream hdr).2 } := by
            simp only [Chain.sections, hT, hS]
            exact .cons_record ht.issued hS hrd
              (.cons_serialize (by simpa [Session.recordResponse_nextRef] using hr) (.nil _))
          split at h
          · cases send_ok h
            exact ⟨_, hx, hrs.frame rfl rfl rfl, by simp, by simp [hrd]⟩
          · cases h
            exact ⟨_, hx, hrs, by simp, by simp [hrd]⟩
        next hS =>
          cases h
          exact ⟨σ, by simp only [Chain.sections, hT, hS]; exact .nil σ, ht.frame rfl rfl rfl,
            rfl, hrd⟩
        next hS =>
          obtain ⟨-, rfl⟩ := commandStop_ok h
          refine ⟨_, ?_, ht.closeStream.frame rfl rfl rfl, rfl, hrd⟩
          simp only [Chain.sections, hT, hS]
          exact hclose
    · cases h
  | reopen i o =>
    simp only [commandStep] at h
    split at h
    · replace h := Option.some.inj h
      cases o with
      | connectError =>
        obtain ⟨-, rfl⟩ := commandStop_ok h
        exact ⟨_, hclose, ht.closeStream.frame rfl rfl rfl, rfl, hrd⟩
      | openError =>
        obtain ⟨-, rfl⟩ := commandStop_ok h
        exact ⟨_, hclose, ht.closeStream.frame rfl rfl rfl, rfl, hrd⟩
      | opened =>
        cases h
        exact ⟨σ, .nil σ, ht.frame rfl rfl rfl, rfl, hrd⟩
    · cases h
  | cancel =>
    simp only [commandStep] at h
    split at h
    · cases h
    · cases h
      exact ⟨_, hclose, ht.closeStream.frame rfl rfl rfl, rfl, hrd⟩

theorem Tracks.step_alone {shape : Shape} {σ : Sys} {c c' : Chain α} {inp : Input α}
    (ht : Tracks shape σ c) (hrd : σ.reading = []) (h : shape.step c inp = some (.ok c')) :
    ∃ σ', Interleaved σ (c.sections shape inp) σ' ∧ Tracks shape σ' c' ∧
      σ'.issued = σ.issued ∧ σ'.reading = [] := by
  cases shape
  · exact ht.queryStep_alone hrd h
  · exact ht.commandStep_alone hrd h

/-! ## Closing a command stream -/

theorem Chain.closed_of_readers {c c' : Chain α} (hr : c'.readers = c.readers)
    (hc : c'.cancelled = c.cancelled) (h : c'.closed) : c.closed := by
  unfold Chain.closed at *
  rwa [running_congr hr, hc] at h

/-- A command step that closes a stream not yet closed runs `Stream.Close` among its sections. -/
theorem Chain.close_mem_sections {c c' : Chain α} {inp : Input α}
    (h : commandStep c inp = some (.ok c')) (hcl : c'.closed) :
    c.closed ∨ .close c.stream ∈ c.sections .command inp := by
  cases inp with
  | recvError i => exact .inr (List.mem_singleton_self _)
  | recv i hdr r =>
    simp only [commandStep] at h
    split at h
    · rename_i hi
      replace h := Option.some.inj h
      unfold commandStreamRecv at h
      split at h <;> dsimp only at h
      next hT =>
        split at h
        · cases closeHandshake_ok h
          exact .inl (Chain.closed_of_readers rfl rfl hcl)
        · cases h
          exact .inl (Chain.closed_of_readers rfl rfl hcl)
      next hT =>
        split at h
        next hacc => exact .inr (by simp_all [Chain.sections])
        next =>
          cases h
          exact .inl (Chain.closed_of_readers rfl rfl hcl)
      next hT =>
        split at h
        next hS =>
          split at h
          · cases send_ok h
            exact .inl (Chain.closed_of_readers rfl rfl hcl)
          · cases h
            exact .inl (Chain.closed_of_readers rfl rfl hcl)
        next hS =>
          cases h
          refine .inl (Or.imp (fun h0 => ?_) id hcl)
          rwa [@Chain.running_setPc_reopen _ (c.reconnect hdr.Leader) i hi] at h0
        next hS => exact .inr (by simp [Chain.sections, hT, hS])
    · cases h
  | reopen i o =>
    cases o with
    | connectError => exact .inr (List.mem_singleton_self _)
    | openError => exact .inr (List.mem_singleton_self _)
    | opened =>
      simp only [commandStep] at h
      split at h
      · rename_i hi
        cases Option.some.inj h
        refine .inl (Or.imp (fun h0 => ?_) id hcl)
        have := Chain.running_setPc_returned hi (by decide)
        simp only [Chain.running_spawn] at h0
        omega
      · cases h
  | cancel => exact .inr (List.mem_singleton_self _)

/-! ## The joint system -/

/-- One stream's readers and every other caller of the session, from the moment the stream is
opened on a reachable session; `Sys` is the session model, the chain holds the readers. -/
inductive Joint : Shape → Sys → Chain α → Prop
  /-- `doQueryStream` on a reachable session builds a query header and starts the first reader. -/
  | query {σ : Sys} {c : Chain α} (name : PrimitiveName) : Reachable σ →
      doQueryStream σ.sess name .opened = .ok c →
      Joint .query (σ.build .query (σ.sess.getQueryHeader name) σ.sess) c
  /-- `doCommandStream` on a reachable session, once no `getState` holds the read lock, allocates
  a stream and starts the first reader. -/
  | command {σ : Sys} {c : Chain α} (name : PrimitiveName) : Reachable σ → σ.reading = [] →
      (doCommandStream σ.sess name .opened).2 = .ok c → Joint .command (σ.nextStream name) c
  /-- Another caller's action; the readers see the new session. -/
  | other {shape : Shape} {σ σ' : Sys} {c : Chain α} (a : Action) : Joint shape σ c →
      step σ a = some σ' → Joint shape σ' { c with sess := σ'.sess }
  /-- A step of the readers, or of a command stream's context goroutine, whose critical sections
  run among other callers' actions; the readers then see the new session. -/
  | reader {shape : Shape} {σ σ' : Sys} {c c' : Chain α} (inp : Input α) : Joint shape σ c →
      shape.step c inp = some (.ok c') → Interleaved σ (c.sections shape inp) σ' →
      Joint shape σ' { c' with sess := σ'.sess }

theorem Joint.tracks {shape : Shape} {σ : Sys} {c : Chain α} (hj : Joint shape σ c) :
    Reachable σ ∧ Tracks shape σ c := by
  induction hj with
  | query name hσ hc =>
    cases Except.ok.inj hc
    exact ⟨.step (.getQueryHeader name) hσ (fun _ h => nomatch h) rfl,
      rfl, List.mem_cons_self _ _, fun h => nomatch h⟩
  | command name hσ hrd hc =>
    cases Except.ok.inj hc
    exact ⟨.step (.nextStreamHeader name) hσ (fun _ h => nomatch h) (if_pos hrd),
      rfl, List.mem_cons_self _ _, fun _ => Nat.lt_succ_self _⟩
  | other a _ hs ih =>
    exact ⟨.step a ih.1 (fun _ _ => trivial) hs,
      ih.2.exec (show exec _ [a] = _ by rw [exec, hs]; rfl)⟩
  | reader inp _ hs hx ih =>
    have hm := Shape.step_move hs
    obtain ⟨bs, hbs, -⟩ := hx.exists_exec
    exact ⟨reachableWith_exec ih.1 (fun _ _ _ _ => trivial) hbs,
      (ih.2.exec hbs).frame rfl hm.requestHeader_eq hm.stream_eq⟩

/-- Once a command stream is closed, the model has removed its id. -/
theorem Joint.closed_removed {shape : Shape} {σ : Sys} {c : Chain α} (hj : Joint shape σ c)
    (hc : shape = .command) (hcl : c.closed) : (σ.sess.heap c.stream).ID ∈ σ.removed := by
  induction hj with
  | query => cases hc
  | command name _ _ hc' =>
    cases Except.ok.inj hc'
    simp [Chain.closed, Chain.start, Chain.running] at hcl
  | other a hj hs ih =>
    obtain ⟨-, hrem, -, hid⟩ := step_frame hs
    rw [hid _ (hj.tracks.2.stream hc)]
    exact hrem _ (ih hc hcl)
  | reader inp hj hs hx ih =>
    subst hc
    show (_ : UInt64) ∈ _
    rw [(Shape.step_move hs).stream_eq]
    rcases Chain.close_mem_sections hs hcl with h0 | h0
    · obtain ⟨bs, hbs, -⟩ := hx.exists_exec
      obtain ⟨-, hrem, -, hid⟩ := exec_frame hbs
      rw [hid _ (hj.tracks.2.stream rfl)]
      exact hrem _ (ih rfl h0)
    · exact hx.close_removed h0

/-- Once a command stream is closed, by its last reader or by the context goroutine, its id
stays out of the session's stream map under any interleaving with the other callers, so no later
keep-alive advertises it, as long as fewer than `2^64 - 1` ids have been handed out. -/
theorem closed_stream_stays_removed {σ : Sys} {c : Chain α} (hj : Joint .command σ c)
    (hcl : c.closed) (hlen : σ.allocated.length < 2 ^ 64 - 1) :
    (c.sess.heap c.stream).ID ∉ c.sess.streams := by
  obtain ⟨hσ, ht⟩ := hj.tracks
  rw [← ht.sess]
  exact ((ReachableWith.counterInv hσ hlen).removed _ (hj.closed_removed rfl hcl)).1

/-- A command stream opened on a fresh session, then cancelled. -/
def cancelledSys : Sys := ((Sys.init 0).nextStream ⟨"c", "d"⟩).close 0

/-- The readers of that stream. -/
def cancelledChain : Chain Unit :=
  { (Chain.start ((Session.init 0).nextStreamHeader ⟨"c", "d"⟩).1 0
      ((Session.init 0).nextStreamHeader ⟨"c", "d"⟩).2.2 : Chain Unit).closeStream with
    cancelled := true }

theorem joint_cancelled : Joint .command cancelledSys cancelledChain :=
  .reader .cancel (.command ⟨"c", "d"⟩ (.init 0) rfl rfl) rfl (.next [] (.close 0) rfl rfl (.nil _))

theorem closed_stream_stays_removed_cancelled :
    Joint .command cancelledSys cancelledChain ∧ cancelledChain.closed ∧
      cancelledSys.allocated.length < 2 ^ 64 - 1 ∧
      (cancelledChain.sess.heap cancelledChain.stream).ID ∉ cancelledChain.sess.streams :=
  ⟨joint_cancelled, .inr rfl, by decide,
    closed_stream_stays_removed joint_cancelled (.inr rfl) (by decide)⟩

end AtomixClient
