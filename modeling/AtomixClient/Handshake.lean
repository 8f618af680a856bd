import AtomixClient.ChainDelivery

/-!
# The opening caller and the rendezvous on `responseCh`

`doQueryStream` and `doCommandStream` start the first reader and then wait in a `select`: when
`handshakeCh` is closed they return `responseCh`, when the 15-second timer fires first they return
the error "handshake timed out". `responseCh` is unbuffered: a reader's `responseCh <- response`
completes only when the caller's user receives, and the user holds `responseCh` only once the
caller returned it.

`Opening` is a chain with its caller and the number of values received from `responseCh`. A send
is pending while fewer values were received than sent; the reader that made it takes no input
until the value is received, and it is the one reader running (`LifecycleInv.running_le`), so
while a send is pending no reader takes input. `Opening.step` is the chain's step under that
guard, the two cases of the `select`, and a receive by the caller's user.

* `Reaches.chain`: the chain of every opening is reached by the chain's own steps, so everything
  proved of chains holds of it;
* `pending_send_freezes_opening`: once a send is pending while the caller does not receive and
  cannot take the handshake (it timed out, or `handshakeCh` is still open), nothing moves again
  but the timer and the context goroutine's `stream.Close()`: the caller never returns
  `responseCh`, the reader never returns, `responseCh` is never closed. An `OK` `RESPONSE` that
  reaches the first reader ahead of `OPEN_STREAM` is such a send;
* `command_opening_returns_after_open_stream`: `doCommandStream` returns `responseCh` only once
  its stream has accepted an `OPEN_STREAM` reply in `Serialize`.
-/

namespace AtomixClient

variable {α : Type}

/-- Where the goroutine that called `doQueryStream` or `doCommandStream` is. -/
inductive Caller where
  /-- In the `select` on `handshakeCh` and the timer. -/
  | waiting
  /-- Returned `responseCh, nil`; its user receives from `responseCh`. -/
  | receiving
  /-- Returned `nil, errors.New("handshake timed out")`; nobody receives from `responseCh`. -/
  | timedOut
  deriving DecidableEq, Repr

/-- The error the timer's case returns. -/
def handshakeTimedOut : String := "handshake timed out"

/-- What the opening call has returned: nothing yet, `responseCh`, or the timer's error. -/
def Caller.result : Caller → Option (Except String Unit)
  | .waiting => none
  | .receiving => some (.ok ())
  | .timedOut => some (.error handshakeTimedOut)

/-- The reader an input goes to; the context goroutine's `cancel` goes to none. -/
def Input.reader? : Input α → Option Nat
  | .recvError i | .recv i _ _ | .reopen i _ => some i
  | .cancel => none

/-- A chain of readers with the caller that opened it. -/
structure Opening (α : Type) where
  chain : Chain α
  caller : Caller
  /-- How many values the caller's user has received from `responseCh`. -/
  received : Nat

namespace Opening

/-- Right after `go s.queryStream(...)` or `go s.commandStream(...)`: the caller is in the
`select`. -/
def start (c : Chain α) : Opening α := ⟨c, .waiting, 0⟩

/-- A send on `responseCh` waits for its receiver. -/
def pending (o : Opening α) : Bool := o.received < o.chain.sent.length

/-- What can happen next to an opening. -/
inductive Action (α : Type) where
  /-- An input to the chain: to a reader, or the context goroutine's `stream.Close()`. -/
  | chain (inp : Input α)
  /-- The `select` takes `<-handshakeCh`. -/
  | handshake
  /-- The `select` takes the timer. -/
  | timeout
  /-- The caller's user receives the pending value. -/
  | receive

/-- One step; `none` when the action cannot run. -/
def step (shape : Shape) (o : Opening α) : Action α → Option (Opening α)
  | .chain inp =>
    if inp.reader?.isSome && o.pending then none
    else
      match shape.step o.chain inp with
      | some (.ok c) => some { o with chain := c }
      | _ => none
  | .handshake =>
    if o.caller = .waiting ∧ o.chain.handshakeClosed then some { o with caller := .receiving }
    else none
  | .timeout => if o.caller = .waiting then some { o with caller := .timedOut } else none
  | .receive =>
    if o.caller = .receiving ∧ o.pending then some { o with received := o.received + 1 } else none

/-- The openings reached from `o₀`. -/
inductive Reaches (shape : Shape) (o₀ : Opening α) : Opening α → Prop
  | refl : Reaches shape o₀ o₀
  | step {o o' : Opening α} (a : Action α) :
      Reaches shape o₀ o → step shape o a = some o' → Reaches shape o₀ o'

/-- What one step can do: a chain step that no pending send holds up, either case of the
`select`, or a receive by the caller's user. -/
theorem step_cases {shape : Shape} {o o' : Opening α} {a : Action α}
    (h : step shape o a = some o') :
    (∃ inp c, shape.step o.chain inp = some (.ok c) ∧ (inp.reader?.isSome && o.pending) = false ∧
      o' = { o with chain := c }) ∨
    (o.caller = .waiting ∧ o.chain.handshakeClosed = true ∧ o' = { o with caller := .receiving }) ∨
    (o.caller = .waiting ∧ o' = { o with caller := .timedOut }) ∨
    (o.caller = .receiving ∧ o.pending = true ∧ o' = { o with received := o.received + 1 }) := by
  cases a with
  | chain inp =>
    simp only [step] at h
    split at h
    · cases h
    · rename_i hg
      split at h
      next c hc => cases h; exact .inl ⟨inp, c, hc, Bool.eq_false_iff.2 hg, rfl⟩
      next => cases h
  | handshake =>
    simp only [step] at h
    split at h
    · cases h; exact .inr (.inl ⟨‹_ ∧ _›.1, ‹_ ∧ _›.2, rfl⟩)
    · cases h
  | timeout =>
    simp only [step] at h
    split at h
    · cases h; exact .inr (.inr (.inl ⟨‹_›, rfl⟩))
    · cases h
  | receive =>
    simp only [step] at h
    split at h
    · cases h; exact .inr (.inr (.inr ⟨‹_ ∧ _›.1, ‹_ ∧ _›.2, rfl⟩))
    · cases h

/-- Every step runs the chain's step or leaves the chain as it is. -/
theorem step_chain {shape : Shape} {o o' : Opening α} {a : Action α}
    (h : step shape o a = some o') :
    o'.chain = o.chain ∨ ∃ inp, shape.step o.chain inp = some (.ok o'.chain) := by
  rcases step_cases h with ⟨inp, c, hc, -, rfl⟩ | ⟨-, -, rfl⟩ | ⟨-, rfl⟩ | ⟨-, -, rfl⟩
  · exact .inr ⟨inp, hc⟩
  all_goals exact .inl rfl

/-- The chain of an opening is reached by the chain's own steps. -/
theorem Reaches.chain {shape : Shape} {c₀ : Chain α} {o : Opening α}
    (h : Reaches shape (start c₀) o) : AtomixClient.Reaches shape c₀ o.chain := by
  induction h with
  | refl => exact .start
  | step _ _ hs ih =>
    rcases step_chain hs with he | ⟨inp, hi⟩
    · exact he ▸ ih
    · exact .step inp ih hi

/-! ## A send nobody will receive -/

/-- The caller does not receive and cannot take the handshake. -/
def Stuck (o : Opening α) : Prop :=
  o.caller = .timedOut ∨ (o.caller = .waiting ∧ o.chain.handshakeClosed = false)

/-- While a send is pending and the caller is stuck, only the timer and the context goroutine
move, and the caller stays stuck. -/
theorem step_of_stuck {shape : Shape} {o o' : Opening α} {a : Action α}
    (hp : o.pending = true) (hs : o.Stuck) (h : step shape o a = some o') :
    o'.Stuck ∧ o'.received = o.received ∧
      (o'.chain = o.chain ∨ o.chain.cancelled = false ∧
        o'.chain = { o.chain.closeStream with cancelled := true }) := by
  rcases step_cases h with ⟨inp, c, hc, hg, rfl⟩ | ⟨hw, hh, rfl⟩ | ⟨-, rfl⟩ | ⟨hw, -, rfl⟩
  · rw [hp, Bool.and_true] at hg
    cases inp with
    | cancel =>
      cases shape with
      | query => cases hc
      | command =>
        simp only [Shape.step, commandStep] at hc
        split at hc
        · cases hc
        · cases hc
          exact ⟨hs, rfl, .inr ⟨Bool.eq_false_iff.2 ‹_›, rfl⟩⟩
    | _ => cases hg
  · rcases hs with ht | ⟨-, hh'⟩
    · exact absurd (ht.symm.trans hw) (by decide)
    · exact absurd (hh'.symm.trans hh) (by decide)
  · exact ⟨.inl rfl, rfl, .inl rfl⟩
  · rcases hs with ht | ⟨hw', -⟩
    · exact absurd (ht.symm.trans hw) (by decide)
    · exact absurd (hw'.symm.trans hw) (by decide)

/-- Once a send on `responseCh` is pending while the caller of `doQueryStream` or
`doCommandStream` has timed out, or still waits with `handshakeCh` open, the opening is frozen
for good: whatever happens next, the call never returns `responseCh` (it waits or returns
"handshake timed out"), nothing more is received, and the chain, its readers, `responseCh` and
the session included, stays as it is but for the context goroutine's `stream.Close()`. -/
theorem pending_send_freezes_opening {shape : Shape} {o o' : Opening α}
    (hp : o.pending = true) (hs : o.Stuck) (hr : Reaches shape o o') :
    (o'.caller.result = none ∨ o'.caller.result = some (.error handshakeTimedOut)) ∧
      o'.received = o.received ∧
      (o'.chain = o.chain ∨ o'.chain = { o.chain.closeStream with cancelled := true }) := by
  have key : o'.Stuck ∧ o'.received = o.received ∧
      (o'.chain = o.chain ∨ o.chain.cancelled = false ∧
        o'.chain = { o.chain.closeStream with cancelled := true }) := by
    induction hr with
    | refl => exact ⟨hs, rfl, .inl rfl⟩
    | @step o₁ o₂ a _ hstep ih =>
      obtain ⟨hs₁, hrec₁, hc₁⟩ := ih
      have hp₁ : o₁.pending = true := by
        rcases hc₁ with he | ⟨-, he⟩ <;> simpa [pending, hrec₁, he] using hp
      obtain ⟨hs₂, hrec₂, hc₂⟩ := step_of_stuck hp₁ hs₁ hstep
      refine ⟨hs₂, hrec₂.trans hrec₁, ?_⟩
      rcases hc₁ with he₁ | ⟨hcan, he₁⟩
      · rcases hc₂ with he₂ | h₂
        · exact .inl (he₂.trans he₁)
        · exact .inr (he₁ ▸ h₂)
      · rcases hc₂ with he₂ | ⟨hcan', -⟩
        · exact .inr ⟨hcan, he₂.trans he₁⟩
        · rw [he₁] at hcan'
          cases hcan'
  obtain ⟨hs', hrec, hc⟩ := key
  refine ⟨?_, hrec, hc.imp_right And.right⟩
  rcases hs' with ht | ⟨hw, -⟩
  · exact .inr (by rw [ht]; rfl)
  · exact .inl (by rw [hw]; rfl)

/-- An `OK` `RESPONSE` with response id `1` that reaches the first reader ahead of
`OPEN_STREAM`. -/
def responseAheadOfOpen : ResponseHeader := ⟨0, 1, 1, .OK, .RESPONSE, ""⟩

theorem response_ahead_of_open_freezes : ∃ (c₀ : Chain Unit) (o o' : Opening Unit),
    (doCommandStream (Session.init 0) ⟨"c", "d"⟩ .opened).2 = .ok c₀ ∧
    Reaches .command (start c₀) o ∧ o.pending = true ∧ o.Stuck ∧ Reaches .command o o' ∧
    o'.caller = .timedOut ∧
    (o'.caller.result = none ∨ o'.caller.result = some (.error handshakeTimedOut)) ∧
    o'.received = o.received ∧
    (o'.chain = o.chain ∨ o'.chain = { o.chain.closeStream with cancelled := true }) :=
  ⟨_, _, _, rfl, .step (.chain (.recv 0 responseAheadOfOpen ())) .refl rfl, rfl, .inr ⟨rfl, rfl⟩,
    .step .timeout .refl rfl, rfl,
    @pending_send_freezes_opening Unit .command _ _ rfl (.inr ⟨rfl, rfl⟩) (.step .timeout .refl rfl)⟩

end Opening

/-! ## The handshake of a command stream -/

/-- A command step leaves `handshakeClosed` as it was, or closes `handshakeCh` on an
`OPEN_STREAM` reply that `Serialize` accepted. -/
theorem commandStep_handshakeClosed {c c' : Chain α} {inp : Input α}
    (h : commandStep c inp = some (.ok c')) :
    c'.handshakeClosed = c.handshakeClosed ∨ c'.handshakeClosed = true ∧
      ∃ hdr r, hdr.Type = .OPEN_STREAM ∧ c'.accepted = c.accepted ++ [(hdr, r)] := by
  cases inp with
  | recvError i =>
    simp only [commandStep] at h
    split at h
    · obtain ⟨-, rfl⟩ := commandStop_ok (Option.some.inj h)
      exact .inl rfl
    · cases h
  | recv i hdr r =>
    simp only [commandStep] at h
    split at h
    · replace h := Option.some.inj h
      unfold commandStreamRecv at h
      split at h <;> dsimp only at h
      next hT =>
        split at h
        next hacc =>
          cases closeHandshake_ok h
          simp only [Bool.and_eq_true] at hacc
          refine .inr ⟨rfl, hdr, r, hT, ?_⟩
          simp only [Chain.serialize, Session.serializeAt_fst] at hacc ⊢
          simp [hacc.1]
        next => cases h; exact .inl rfl
      next =>
        split at h
        · obtain ⟨-, rfl⟩ := commandStop_ok h
          exact .inl rfl
        · cases h; exact .inl rfl
      next =>
        split at h
        · split at h
          · cases send_ok h; exact .inl rfl
          · cases h; exact .inl rfl
        · cases h; exact .inl rfl
        · obtain ⟨-, rfl⟩ := commandStop_ok h
          exact .inl rfl
    · cases h
  | reopen i o =>
    simp only [commandStep] at h
    split at h
    · replace h := Option.some.inj h
      cases o with
      | opened => cases h; exact .inl rfl
      | _ => obtain ⟨-, rfl⟩ := commandStop_ok h; exact .inl rfl
    · cases h
  | cancel =>
    simp only [commandStep] at h
    split at h
    · cases h
    · cases h; exact .inl rfl

/-- A command step keeps every accepted reply. -/
theorem commandStep_accepted_subset {c c' : Chain α} {inp : Input α}
    (h : commandStep c inp = some (.ok c')) : c.accepted ⊆ c'.accepted := by
  obtain ⟨-, ⟨-, ha, -⟩ | ⟨hdr, r, -, -, ha, -⟩⟩ := commandStep_delivery h
  · exact ha ▸ List.Subset.refl _
  · rw [ha]
    split
    · exact List.subset_append_left _ _
    · exact List.Subset.refl _

/-- Over a command chain started with `handshakeCh` open, a closed `handshakeCh` means an
accepted `OPEN_STREAM` reply. -/
theorem Reaches.open_stream_accepted {c₀ c : Chain α} (hc : Reaches .command c₀ c)
    (h₀ : c₀.handshakeClosed = false) (hh : c.handshakeClosed = true) :
    ∃ p ∈ c.accepted, p.1.Type = .OPEN_STREAM := by
  induction hc with
  | start => exact absurd (h₀.symm.trans hh) (by decide)
  | step _ _ hs ih =>
    rcases commandStep_handshakeClosed hs with he | ⟨-, hdr, r, hT, ha⟩
    · obtain ⟨p, hp, hpT⟩ := ih (he ▸ hh)
      exact ⟨p, commandStep_accepted_subset hs hp, hpT⟩
    · exact ⟨(hdr, r), by simp [ha], hT⟩

namespace Opening

/-- The caller receives only once `handshakeCh` is closed, and a command step never reopens it. -/
theorem step_receiving_handshakeClosed {o o' : Opening α} {a : Action α}
    (h : step .command o a = some o')
    (hi : o.caller = .receiving → o.chain.handshakeClosed = true) :
    o'.caller = .receiving → o'.chain.handshakeClosed = true := by
  rcases step_cases h with ⟨inp, c, hc, -, rfl⟩ | ⟨-, hh, rfl⟩ | ⟨-, rfl⟩ | ⟨-, -, rfl⟩
  · intro hr
    rcases commandStep_handshakeClosed hc with he | ⟨he, -⟩
    · exact he.trans (hi hr)
    · exact he
  · exact fun _ => hh
  · intro hr
    cases hr
  · exact hi

theorem Reaches.handshakeClosed_of_receiving {c₀ : Chain α} {o : Opening α}
    (hr : Reaches .command (start c₀) o) : o.caller = .receiving → o.chain.handshakeClosed = true := by
  induction hr with
  | refl => intro h; cases h
  | step _ _ hs ih => exact step_receiving_handshakeClosed hs ih

/-- Whatever the replies, failovers, timer and context do, `doCommandStream` returns
`responseCh` only once its stream has accepted an `OPEN_STREAM` reply in `Serialize`. -/
theorem command_opening_returns_after_open_stream (s : Session) (name : PrimitiveName)
    {c₀ : Chain α} {o : Opening α} (h₀ : (doCommandStream s name .opened).2 = .ok c₀)
    (hr : Reaches .command (start c₀) o) (hc : o.caller.result = some (.ok ())) :
    ∃ p ∈ o.chain.accepted, p.1.Type = .OPEN_STREAM := by
  simp only [doCommandStream, Except.ok.injEq] at h₀
  subst h₀
  have hrecv : o.caller = .receiving := by
    cases hcl : o.caller <;> simp_all [Caller.result, handshakeTimedOut]
  exact hr.chain.open_stream_accepted rfl (hr.handshakeClosed_of_receiving hrecv)

/-- The `OPEN_STREAM` reply of a command stream, with response id `1`. -/
def openStreamReply : ResponseHeader := ⟨0, 1, 1, .OK, .OPEN_STREAM, ""⟩

theorem command_opening_returns_after_open_stream_first : ∃ (c₀ : Chain Unit) (o : Opening Unit),
    (doCommandStream (Session.init 0) ⟨"c", "d"⟩ .opened).2 = .ok c₀ ∧
    Reaches .command (start c₀) o ∧ o.caller.result = some (.ok ()) ∧
    ∃ p ∈ o.chain.accepted, p.1.Type = .OPEN_STREAM :=
  ⟨_, _, rfl, .step .handshake (.step (.chain (.recv 0 openStreamReply ())) .refl rfl) rfl, rfl,
    command_opening_returns_after_open_stream (Session.init 0) ⟨"c", "d"⟩ rfl
      (.step .handshake (.step (.chain (.recv 0 openStreamReply ())) .refl rfl) rfl) rfl⟩

end Opening

end AtomixClient
