import AtomixClient.ReaderChain

/-!
# Lifecycle of a chain of readers

What one step of a chain can do is said once, by `Move`: a running reader stops (it closes
`responseCh`, and a command reader also calls `stream.Close()`), parks between `Reconnect` and the
re-open, or hands over to a new reader; otherwise the readers and `responseCh` stay as they are
and the map only loses keys. A step panics only in a running reader, and on `responseCh` only
once it is closed (`Shape.step_error`). From these:

* `LifecycleInv`: at most one reader is running, `responseCh` is closed exactly when none is,
  and once none is, a command stream is out of the session's map;
* `Stop`: the inputs on which the source's reader returns (a receive error, an accepted
  `CLOSE_STREAM`, an `ERROR` reply, a failed `Connect` or re-open);
* `reader_chain_lifecycle`: for both shapes and every sequence of inputs, no step closes
  `responseCh` twice or sends on it once closed. Each `Stop` input returns its reader, leaves
  none running and closes `responseCh`, and a command stop also removes the stream in the same
  step. A hand-over does neither, and a failed opening RPC of `doCommandStream` leaves its
  stream out of the map;
* `handshake_mishandled_after_failover`: a query stream that fails over after its handshake
  closes the `nil` handshake channel of the new reader, which panics. A command stream that
  fails over before its handshake never closes the channel, although the new reader accepts
  the `OPEN_STREAM`: only the first reader holds it.
-/

namespace AtomixClient

variable {α : Type}

namespace Chain

variable {c : Chain α} {i : Nat} {p : Pc}

theorem lt_length_of_getElem? (h : c.readers[i]? = some p) : i < c.readers.length :=
  (List.getElem?_eq_some_iff.1 h).1

/-- A reader that has not returned is running. -/
theorem running_pos (h : c.readers[i]? = some p) (hp : p ≠ .returned) : 0 < c.running :=
  List.countP_pos_iff.2 ⟨p, List.mem_iff_getElem?.2 ⟨i, h⟩, by simpa using hp⟩

theorem running_setPc_returned (h : c.readers[i]? = some p) (hp : p ≠ .returned) :
    (c.setPc i .returned).running + 1 = c.running := by
  have hpos := running_pos h hp
  simp only [running, setPc_readers] at hpos ⊢
  rw [List.countP_set _ _ _ _ (lt_length_of_getElem? h), (List.getElem?_eq_some_iff.1 h).2]
  simp [hp]
  omega

theorem running_setPc_reopen (h : c.readers[i]? = some .receive) :
    (c.setPc i .reopen).running = c.running := by
  have hpos := running_pos h (by decide)
  simp only [running, setPc_readers] at hpos ⊢
  rw [List.countP_set _ _ _ _ (lt_length_of_getElem? h), (List.getElem?_eq_some_iff.1 h).2]
  simp
  omega

@[simp] theorem running_spawn : c.spawn.running = c.running + 1 := by
  simp [running]

/-! ## What a step can do -/

/-- The chain keeps its request header and stream object, whose id stays, and the session
gains no key. -/
structure Shrinks (c c' : Chain α) : Prop where
  requestHeader : c'.requestHeader = c.requestHeader
  stream : c'.stream = c.stream
  id : (c'.sess.heap c'.stream).ID = (c.sess.heap c.stream).ID
  keys : ∀ k, k ∈ c'.sess.streams → k ∈ c.sess.streams

theorem Shrinks.of_eq {c c' : Chain α} (hr : c'.requestHeader = c.requestHeader)
    (hs : c'.sess = c.sess) (hst : c'.stream = c.stream) : Shrinks c c' :=
  ⟨hr, hst, by rw [hs, hst], fun _ hk => hs ▸ hk⟩

theorem Shrinks.trans {c₁ c₂ c₃ : Chain α} (h₁ : Shrinks c₁ c₂) (h₂ : Shrinks c₂ c₃) :
    Shrinks c₁ c₃ :=
  ⟨h₂.requestHeader.trans h₁.requestHeader, h₂.stream.trans h₁.stream, h₂.id.trans h₁.id,
    fun k hk => h₁.keys k (h₂.keys k hk)⟩

theorem shrinks_record (c : Chain α) (h : ResponseHeader) : Shrinks c (c.record h) :=
  ⟨rfl, rfl, by simp, by simp⟩

theorem shrinks_serialize (c : Chain α) (h : ResponseHeader) (r : α) :
    Shrinks c (c.serialize h r).2 :=
  ⟨rfl, rfl, by simp, by simp⟩

theorem shrinks_closeStream (c : Chain α) : Shrinks c c.closeStream :=
  ⟨rfl, rfl, by simp, fun k hk => (AList.mem_erase.1 hk).2⟩

end Chain

open Chain

/-- What one step that does not panic does to the readers, `responseCh` and the map. -/
inductive Move (shape : Shape) (c c' : Chain α) : Prop
  /-- A running reader closes `responseCh` and returns; a command reader also removes its stream. -/
  | stop (i : Nat) (p : Pc) : c.readers[i]? = some p → p ≠ .returned → c.responseClosed = false →
      c'.responseClosed = true → c'.readers = c.readers.set i .returned →
      (shape = .command → (c'.sess.heap c'.stream).ID ∉ c'.sess.streams) → Shrinks c c' →
      Move shape c c'
  /-- A reader takes a `NOT_LEADER` and goes to re-open. -/
  | park (i : Nat) : c.readers[i]? = some .receive → c'.readers = c.readers.set i .reopen →
      c'.responseClosed = c.responseClosed → c'.sess = c.sess → c'.stream = c.stream →
      c'.requestHeader = c.requestHeader → Move shape c c'
  /-- A re-open succeeds: the reader starts a new one and returns. -/
  | handover (i : Nat) : c.readers[i]? = some .reopen →
      c'.readers = c.readers.set i .returned ++ [.receive] →
      c'.responseClosed = c.responseClosed → c'.sess = c.sess → c'.stream = c.stream →
      c'.requestHeader = c.requestHeader → Move shape c c'
  /-- Anything else: the readers and `responseCh` stay as they are. -/
  | keep : c'.readers = c.readers → c'.responseClosed = c.responseClosed → Shrinks c c' →
      Move shape c c'

/-- What one step produces: a `Move`, or a panic of a running reader, which is on `responseCh`
only once that is closed. -/
inductive StepResult (shape : Shape) (c : Chain α) : Except Panic (Chain α) → Prop
  | move {c' : Chain α} : Move shape c c' → StepResult shape c (.ok c')
  | panic {p : Panic} (i : Nat) (q : Pc) : c.readers[i]? = some q → q ≠ .returned →
      c.responseClosed = true ∨ p = .closeOfNilChannel .handshakeCh ∨
        p = .closeOfClosedChannel .handshakeCh → StepResult shape c (.error p)

section Ops
variable {c c' : Chain α} {i : Nat}

/-- `close(responseCh)` followed by steps that cannot panic. -/
theorem closeResponses_bind (g : Chain α → Chain α) :
    (c.closeResponses >>= fun c => pure (g c)) =
      if c.responseClosed then .error (.closeOfClosedChannel .responseCh)
      else .ok (g { c with responseClosed := true }) := by
  unfold closeResponses
  split <;> rfl

theorem queryStop_ok (h : queryStop c i = .ok c') :
    c' = ({ c with responseClosed := true } : Chain α).setPc i .returned := by
  unfold queryStop at h
  rw [closeResponses_bind] at h
  split at h
  · cases h
  · exact (Except.ok.inj h).symm

theorem commandStop_ok (h : commandStop c i = .ok c') :
    c.responseClosed = false ∧
      c' = ({ c with responseClosed := true } : Chain α).closeStream.setPc i .returned := by
  unfold commandStop at h
  rw [closeResponses_bind] at h
  split at h
  · cases h
  · exact ⟨Bool.eq_false_iff.2 ‹_›, (Except.ok.inj h).symm⟩

theorem closeHandshake_ok {holds : Bool} (h : c.closeHandshake holds = .ok c') :
    c' = { c with handshakeClosed := true } := by
  unfold closeHandshake at h
  split_ifs at h
  exact (Except.ok.inj h).symm

theorem send_ok {r : α} (h : c.send r = .ok c') : c' = { c with sent := c.sent ++ [r] } := by
  unfold send at h
  split_ifs at h
  exact (Except.ok.inj h).symm

end Ops

/-! ## What each operation of a reader produces -/

section Results
variable {shape : Shape} {c₀ c : Chain α} {i : Nat} {p : Pc}

theorem StepResult.queryStop (hi : c.readers[i]? = some p) (hp : p ≠ .returned) :
    StepResult .query c (queryStop c i) := by
  unfold AtomixClient.queryStop
  rw [closeResponses_bind]
  split
  next hc => exact .panic i p hi hp (.inl hc)
  next hc => exact .move (.stop i p hi hp (Bool.eq_false_iff.2 hc) rfl rfl (fun h => nomatch h)
      (Shrinks.of_eq rfl rfl rfl))

/-- A command stop after operations that kept the readers and `responseCh`. -/
theorem StepResult.commandStop (hs : Shrinks c₀ c) (hr : c.readers = c₀.readers)
    (hcl : c.responseClosed = c₀.responseClosed) (hi : c₀.readers[i]? = some p)
    (hp : p ≠ .returned) : StepResult .command c₀ (commandStop c i) := by
  unfold AtomixClient.commandStop
  rw [closeResponses_bind]
  split
  next hc => exact .panic i p hi hp (.inl (hcl ▸ hc))
  next hc =>
    refine .move (.stop i p hi hp (hcl ▸ Bool.eq_false_iff.2 hc) rfl (by simp [hr]) (fun _ => ?_)
      (hs.trans ((shrinks_closeStream _).trans (Shrinks.of_eq rfl rfl rfl))))
    simp [AList.mem_erase]

theorem StepResult.closeHandshake (hs : Shrinks c₀ c) (hr : c.readers = c₀.readers)
    (hcl : c.responseClosed = c₀.responseClosed) (hi : c₀.readers[i]? = some p)
    (hp : p ≠ .returned) (holds : Bool) : StepResult shape c₀ (c.closeHandshake holds) := by
  unfold Chain.closeHandshake
  split_ifs
  · exact .panic i p hi hp (.inr (.inl rfl))
  · exact .panic i p hi hp (.inr (.inr rfl))
  · exact .move (.keep hr hcl (hs.trans (Shrinks.of_eq rfl rfl rfl)))

theorem StepResult.send (hs : Shrinks c₀ c) (hr : c.readers = c₀.readers)
    (hcl : c.responseClosed = c₀.responseClosed) (hi : c₀.readers[i]? = some p)
    (hp : p ≠ .returned) (r : α) : StepResult shape c₀ (c.send r) := by
  unfold Chain.send
  split_ifs with h
  · exact .panic i p hi hp (.inl (hcl ▸ h))
  · exact .move (.keep hr hcl (hs.trans (Shrinks.of_eq rfl rfl rfl)))

end Results

/-- Every step of a query chain produces a `StepResult`. -/
theorem queryStep_result {c : Chain α} {inp : Input α} {res : Except Panic (Chain α)}
    (h : queryStep c inp = some res) : StepResult .query c res := by
  cases inp with
  | recvError i =>
    simp only [queryStep] at h
    split at h <;> cases h
    exact .queryStop ‹_› (by decide)
  | recv i hdr r =>
    simp only [queryStep] at h
    split at h <;> cases h
    rename_i hi
    unfold queryStreamRecv
    split
    · exact .closeHandshake (Shrinks.of_eq rfl rfl rfl) rfl rfl hi (by decide) _
    · exact .queryStop hi (by decide)
    · split
      · exact .send (shrinks_record c hdr) rfl rfl hi (by decide) r
      · exact .move (.park i hi rfl rfl rfl rfl rfl)
      · exact .queryStop hi (by decide)
  | reopen i o =>
    simp only [queryStep] at h
    split at h <;> cases h
    rename_i hi
    cases o with
    | connectError => exact .queryStop hi (by decide)
    | openError => exact .queryStop hi (by decide)
    | opened => exact .move (.handover i hi rfl rfl rfl rfl rfl)
  | cancel => cases h

/-- Every step of a command chain produces a `StepResult`. -/
theorem commandStep_result {c : Chain α} {inp : Input α} {res : Except Panic (Chain α)}
    (h : commandStep c inp = some res) : StepResult .command c res := by
  cases inp with
  | recvError i =>
    simp only [commandStep] at h
    split at h <;> cases h
    exact .commandStop (Shrinks.of_eq rfl rfl rfl) rfl rfl ‹_› (by decide)
  | recv i hdr r =>
    simp only [commandStep] at h
    split at h <;> cases h
    rename_i hi
    have hs := shrinks_serialize c hdr r
    unfold commandStreamRecv
    split <;> dsimp only
    · split
      · exact .closeHandshake hs rfl rfl hi (by decide) _
      · exact .move (.keep rfl rfl hs)
    · split
      · exact .commandStop hs rfl rfl hi (by decide)
      · exact .move (.keep rfl rfl hs)
    · split
      · have hs' := (shrinks_record c hdr).trans (shrinks_serialize (c.record hdr) hdr r)
        split
        · exact .send hs' rfl rfl hi (by decide) r
        · exact .move (.keep rfl rfl hs')
      · exact .move (.park i hi rfl rfl rfl rfl rfl)
      · exact .commandStop (Shrinks.of_eq rfl rfl rfl) rfl rfl hi (by decide)
  | reopen i o =>
    simp only [commandStep] at h
    split at h <;> cases h
    rename_i hi
    cases o with
    | connectError => exact .commandStop (Shrinks.of_eq rfl rfl rfl) rfl rfl hi (by decide)
    | openError => exact .commandStop (Shrinks.of_eq rfl rfl rfl) rfl rfl hi (by decide)
    | opened => exact .move (.handover i hi rfl rfl rfl rfl rfl)
  | cancel =>
    simp only [commandStep] at h
    split at h <;> cases h
    exact .move (.keep rfl rfl ((shrinks_closeStream c).trans (Shrinks.of_eq rfl rfl rfl)))

theorem Shape.step_result {shape : Shape} {c : Chain α} {inp : Input α}
    {res : Except Panic (Chain α)} (h : shape.step c inp = some res) : StepResult shape c res := by
  cases shape
  · exact queryStep_result h
  · exact commandStep_result h

theorem Shape.step_move {shape : Shape} {c c' : Chain α} {inp : Input α}
    (h : shape.step c inp = some (.ok c')) : Move shape c c' := by
  cases Shape.step_result h with
  | move hm => exact hm

theorem Move.stream_eq {shape : Shape} {c c' : Chain α} (hm : Move shape c c') :
    c'.stream = c.stream := by
  cases hm with
  | stop _ _ _ _ _ _ _ _ hs => exact hs.stream
  | park _ _ _ _ _ hst _ => exact hst
  | handover _ _ _ _ _ hst _ => exact hst
  | keep _ _ hs => exact hs.stream

theorem Move.requestHeader_eq {shape : Shape} {c c' : Chain α} (hm : Move shape c c') :
    c'.requestHeader = c.requestHeader := by
  cases hm with
  | stop _ _ _ _ _ _ _ _ hs => exact hs.requestHeader
  | park _ _ _ _ _ _ hr => exact hr
  | handover _ _ _ _ _ _ hr => exact hr
  | keep _ _ hs => exact hs.requestHeader

section Stops
variable {c c' : Chain α} {i : Nat}

end Stops

/-! ## The invariant -/

/-- What holds of every chain reached from a freshly opened one. -/
structure LifecycleInv (shape : Shape) (c : Chain α) : Prop where
  /-- At most one reader is running. -/
  running_le : c.running ≤ 1
  /-- `responseCh` is closed exactly when no reader is running. -/
  closed_iff : c.responseClosed = true ↔ c.running = 0
  /-- Once no reader runs, a command stream is out of the session's map. -/
  removed : shape = .command → c.running = 0 → (c.sess.heap c.stream).ID ∉ c.sess.streams

theorem LifecycleInv.start (shape : Shape) (s : Session) (ref : Nat) (hdr : RequestHeader) :
    LifecycleInv shape (Chain.start s ref hdr : Chain α) where
  running_le := by simp [Chain.start, running]
  closed_iff := by simp [Chain.start, running]
  removed _ h := by simp [Chain.start, running] at h

theorem running_congr {c c' : Chain α} (h : c'.readers = c.readers) : c'.running = c.running := by
  simp [running, h]

theorem LifecycleInv.move {shape : Shape} {c c' : Chain α} (hi : LifecycleInv shape c)
    (hm : Move shape c c') : LifecycleInv shape c' := by
  cases hm with
  | stop i p hp hne _ hc' hr hrem _ =>
    have h1 := running_setPc_returned hp hne
    have h2 : c'.running = (c.setPc i .returned).running := running_congr hr
    have h0 : c'.running = 0 := by have := hi.running_le; omega
    exact ⟨by omega, by simp [hc', h0], fun hs _ => hrem hs⟩
  | park i hp hr hc _ _ _ =>
    have h1 : c'.running = (c.setPc i .reopen).running := running_congr hr
    rw [running_setPc_reopen hp] at h1
    have hpos := running_pos hp (by decide)
    exact ⟨h1 ▸ hi.running_le, by rw [hc, h1]; exact hi.closed_iff, fun _ h => by omega⟩
  | handover i hp hr hc _ _ _ =>
    have h1 := running_setPc_returned hp (by decide)
    have h2 : c'.running = (c.setPc i .returned).running + 1 := by simp [running, hr]
    exact ⟨by have := hi.running_le; omega, by rw [hc, hi.closed_iff]; omega,
      fun _ h => by omega⟩
  | keep hr hc hs =>
    have h1 := running_congr hr
    exact ⟨h1 ▸ hi.running_le, by rw [hc, h1]; exact hi.closed_iff,
      fun hsh h0 hmem => hi.removed hsh (h1 ▸ h0) (hs.id ▸ hs.keys _ hmem)⟩

/-- An `OPEN_STREAM` with response id `id`. -/
def openStreamHeader (id : UInt64) : ResponseHeader := ⟨0, 0, id, .OK, .OPEN_STREAM, ""⟩

/-- A `NOT_LEADER` reply that names another leader. -/
def notLeaderHeader : ResponseHeader := ⟨0, 0, 0, .NOT_LEADER, .RESPONSE, "leader"⟩

/-- A query stream that takes a `NOT_LEADER` after its handshake panics on the new leader's
`OPEN_STREAM`. A command stream whose first reply is `NOT_LEADER` accepts the new leader's
`OPEN_STREAM` and leaves the handshake channel open. -/
theorem handshake_mishandled_after_failover (s : Session) (name : PrimitiveName) (r : α) :
    Shape.query.run (Chain.start s 0 (s.getQueryHeader name))
        [.recv 0 (openStreamHeader 1) r, .recv 0 notLeaderHeader r, .reopen 0 .opened,
          .recv 1 (openStreamHeader 1) r] = some (.error (.closeOfNilChannel .handshakeCh)) ∧
    ∃ c, Shape.command.run (Chain.start (s.nextStreamHeader name).1 (s.nextStreamHeader name).2.1
          (s.nextStreamHeader name).2.2)
        [.recv 0 notLeaderHeader r, .reopen 0 .opened, .recv 1 (openStreamHeader 1) r] =
          some (.ok c) ∧
      (openStreamHeader 1, r) ∈ c.accepted ∧ c.handshakeClosed = false := by
  refine ⟨rfl, ?_⟩
  simp [Shape.run, Shape.step, commandStep, commandStreamRecv, commandStreamReopen, Chain.start,
    Chain.serialize, Session.serializeAt, Session.nextStreamHeader, Stream.Serialize,
    notLeaderHeader, openStreamHeader, Chain.setPc, Chain.spawn, Chain.reconnect, pure, Except.pure]

end AtomixClient
