import AtomixClient.Dispatch

/-!
# Keep-alives after `Close`

`NewSession` starts a `time.Ticker` of period `Timeout / 2` and then runs `open`; once `open` has
returned, a goroutine ranges over the ticker's channel and calls `keepAlive` on every tick.
`Close` runs `close`, a `CloseSession` through `doSession`, and only then stops the ticker. The
module is built for Go 1.13: a ticker's channel holds one tick, a tick that finds it full is
dropped, no tick is sent after `Stop`, and `Stop` neither closes nor drains the channel.

A `Lifecycle` is the ticker, the keep-alive goroutine and the callers of `Close` from the moment
`NewSession` returns, with what they made observable, in order: the start of each `doSession`
call, each invocation of its RPC, and each `Stop`. Every `Lifecycle.Action` is one atomic step of
one of them, in any interleaving; a round of a `doSession` call is one round of `doRequest`, which
invokes the RPC unless `Connect` fails and goes round again exactly when `Attempt.retries`.

* `keepAlive_call_refines`: a `keepAlive` call run over the attempts `doRequest` sees invokes
  `KeepAlive` exactly as often as `doSession` does;
* `keepAlive_calls_after_stop`: once the ticker is stopped, the goroutine starts at most one more
  `keepAlive` call (for the tick left in the channel), and in some run it does so after `Close`
  has returned;
* `keepAlive_invokes_after_stop`: a `keepAlive` call running when `Close` returns goes on invoking
  `KeepAlive` for as long as its RPCs fail, so any number of invocations can follow `Close`.
-/

namespace AtomixClient

/-- The RPCs `doSession` sends for the lifecycle. -/
inductive SessionRpc where
  | keepAlive
  | closeSession
  deriving DecidableEq, Repr

/-- What the lifecycle makes observable. -/
inductive LifeEvent where
  /-- A `doSession` call begins. -/
  | call (rpc : SessionRpc)
  /-- A round of its `doRequest` invokes the RPC. -/
  | invoke (rpc : SessionRpc)
  /-- `s.ticker.Stop()`. -/
  | stop
  deriving DecidableEq, Repr

/-- Where the keep-alive goroutine is. -/
inductive Keeper where
  /-- Blocked in `for range s.ticker.C`. -/
  | waiting
  /-- Inside `keepAlive`. -/
  | calling
  deriving DecidableEq, Repr

/-- The ticker, the keep-alive goroutine and the callers of `Close` of one session. -/
structure Lifecycle where
  /-- `Stop` has not been called. -/
  ticking : Bool
  /-- A tick waits in the ticker's channel. -/
  buffered : Bool
  keeper : Keeper
  /-- `Close` calls whose `close` has not returned. -/
  closing : Nat
  log : List LifeEvent
  deriving DecidableEq, Repr

/-- Whether a round of `doRequest` invokes the RPC: all do but one whose `Connect` fails. -/
def Attempt.invokes {α : Type} : Attempt α → Bool
  | .connectError _ => false
  | _ => true

/-- The closure is invoked once in every round of `doRequest` but one whose `Connect` fails. -/
theorem count_invoke_effects {α : Type} (req : RequestHeader) (as : List (Attempt α)) :
    (as.flatMap (Attempt.effects req)).count (.invoke req) = as.countP Attempt.invokes := by
  induction as with
  | nil => rfl
  | cons a as ih =>
    rw [List.flatMap_cons, List.count_append, ih, List.countP_cons, Nat.add_comm]
    congr 1
    cases a with
    | reply h r => cases hs : h.Status <;> simp [Attempt.invokes, Attempt.effects, hs]
    | _ => simp [Attempt.invokes, Attempt.effects]

namespace Lifecycle

/-- The lifecycle as `NewSession` returns; `buffered` when a tick arrived during `open`. -/
def init (buffered : Bool) : Lifecycle := ⟨true, buffered, .waiting, 0, []⟩

/-- One atomic step of the ticker, the goroutine or a caller of `Close`. -/
inductive Action where
  /-- The ticker fires: a send of one tick that is dropped when the channel is full. -/
  | tick
  /-- The goroutine receives a tick and calls `keepAlive`. -/
  | receive
  /-- A round of `keepAlive`'s `doRequest`. -/
  | keepAliveRound (attempt : Attempt Unit)
  /-- A caller enters `Close`, which calls `close`. -/
  | closeCall
  /-- A round of `close`'s `doRequest`; the last one returns and `Close` stops the ticker. -/
  | closeRound (attempt : Attempt Unit)

/-- Append an event to the log. -/
def emit (l : Lifecycle) (e : LifeEvent) : Lifecycle := { l with log := l.log ++ [e] }

/-- Append `e` when the round invokes the RPC. -/
def emitIf (l : Lifecycle) (b : Bool) (e : LifeEvent) : Lifecycle := if b then l.emit e else l

/-- One step; `none` when the action cannot run. -/
def step (l : Lifecycle) : Action → Option Lifecycle
  | .tick => if l.ticking then some { l with buffered := true } else none
  | .receive =>
    if l.keeper = .waiting ∧ l.buffered then
      some ({ l with keeper := .calling, buffered := false }.emit (.call .keepAlive))
    else none
  | .keepAliveRound a =>
    if l.keeper = .calling then
      some { l.emitIf a.invokes (.invoke .keepAlive) with
        keeper := if a.retries then .calling else .waiting }
    else none
  | .closeCall => some ({ l with closing := l.closing + 1 }.emit (.call .closeSession))
  | .closeRound a =>
    if 0 < l.closing then
      let l := l.emitIf a.invokes (.invoke .closeSession)
      some (if a.retries then l
        else { l with closing := l.closing - 1, ticking := false }.emit .stop)
    else none

/-- Run the actions in order. -/
def exec (l : Lifecycle) : List Action → Option Lifecycle
  | [] => some l
  | a :: as => (l.step a).bind (exec · as)

/-- The states reached from the return of `NewSession`. -/
inductive Reachable : Lifecycle → Prop
  | init (buffered : Bool) : Reachable (init buffered)
  | step {l l' : Lifecycle} (a : Action) : Reachable l → l.step a = some l' → Reachable l'

theorem Reachable.exec {l l' : Lifecycle} :
    ∀ {as : List Action}, Reachable l → l.exec as = some l' → Reachable l'
  | [], hl, h => by cases h; exact hl
  | a :: as, hl, h => by
    obtain ⟨l₁, h₁, h₂⟩ := Option.bind_eq_some.1 h
    exact Reachable.exec (.step a hl h₁) h₂

/-! ## The events after the first `Stop` -/

/-- The events after the first `Stop` of a log; none while there is no `Stop`. -/
def afterStop : List LifeEvent → List LifeEvent
  | [] => []
  | .stop :: rest => rest
  | _ :: rest => afterStop rest

theorem afterStop_eq_nil {log : List LifeEvent} (h : LifeEvent.stop ∉ log) :
    afterStop log = [] := by
  induction log with
  | nil => rfl
  | cons e log ih =>
    cases e <;> simp_all [afterStop]

theorem afterStop_append {log : List LifeEvent} (h : LifeEvent.stop ∈ log)
    (more : List LifeEvent) : afterStop (log ++ more) = afterStop log ++ more := by
  induction log with
  | nil => cases h
  | cons e log ih =>
    cases e <;> simp_all [afterStop]

theorem afterStop_append_stop {log : List LifeEvent} (h : LifeEvent.stop ∉ log)
    (more : List LifeEvent) : afterStop (log ++ .stop :: more) = more := by
  induction log with
  | nil => rfl
  | cons e log ih =>
    cases e <;> simp_all [afterStop]

/-! ## The invariant -/

/-- What holds in every reachable state. -/
structure Inv (l : Lifecycle) : Prop where
  /-- The ticker runs until the first `Stop`. -/
  ticking_iff : l.ticking = true ↔ LifeEvent.stop ∉ l.log
  /-- Once the ticker is stopped, the `keepAlive` calls begun since and the tick left in the
  channel number at most one. -/
  after_stop : l.ticking = false →
    (afterStop l.log).count (.call .keepAlive) + l.buffered.toNat ≤ 1

theorem Inv.init (buffered : Bool) : Inv (init buffered) :=
  ⟨by simp [Lifecycle.init], fun h => nomatch h⟩

section Steps
variable {l : Lifecycle} (hi : Inv l)
include hi

theorem Inv.stop_mem (ht : l.ticking = false) : LifeEvent.stop ∈ l.log := by
  by_contra h
  simp [hi.ticking_iff.2 h] at ht

/-- Events other than `Stop` and the start of a `keepAlive` call keep the invariant. -/
theorem Inv.emit (e : LifeEvent) (hs : e ≠ .stop) (hk : e ≠ .call .keepAlive) :
    Inv (l.emit e) := by
  refine ⟨by simpa [Lifecycle.emit, Ne.symm hs] using hi.ticking_iff, fun ht => ?_⟩
  have hstop := hi.stop_mem ht
  simpa [Lifecycle.emit, afterStop_append hstop, List.count_singleton, Ne.symm hk] using
    hi.after_stop ht

theorem Inv.emitIf (b : Bool) (e : LifeEvent) (hs : e ≠ .stop) (hk : e ≠ .call .keepAlive) :
    Inv (l.emitIf b e) := by
  unfold Lifecycle.emitIf
  split
  · exact hi.emit e hs hk
  · exact hi

theorem Inv.tick (ht : l.ticking = true) : Inv { l with buffered := true } :=
  ⟨hi.ticking_iff, fun h => by simp [ht] at h⟩

/-- Receiving the tick in the channel trades it for the `keepAlive` call it starts. -/
theorem Inv.receive (hb : l.buffered = true) :
    Inv ({ l with keeper := .calling, buffered := false }.emit (.call .keepAlive)) := by
  refine ⟨by simpa [Lifecycle.emit] using hi.ticking_iff, fun ht => ?_⟩
  have hstop := hi.stop_mem ht
  have := hi.after_stop ht
  simp only [Lifecycle.emit, afterStop_append hstop, List.count_append, List.count_singleton_self,
    hb, Bool.toNat_true, Bool.toNat_false] at this ⊢
  omega

/-- The first `Stop` leaves nothing after it; a later one adds no `keepAlive` call. -/
theorem Inv.stop (closing : Nat) :
    Inv ({ l with closing := closing, ticking := false }.emit .stop) := by
  refine ⟨by simp [Lifecycle.emit], fun _ => ?_⟩
  by_cases hstop : LifeEvent.stop ∈ l.log
  · have hs := hi.after_stop (by simpa [hstop] using hi.ticking_iff)
    simpa [Lifecycle.emit, afterStop_append hstop] using hs
  · simp only [Lifecycle.emit, afterStop_append_stop hstop, List.count_nil, Nat.zero_add]
    exact Bool.toNat_le _

theorem Inv.step {a : Action} {l' : Lifecycle} (h : l.step a = some l') : Inv l' := by
  cases a with
  | tick =>
    simp only [Lifecycle.step] at h
    split at h
    · cases h; exact hi.tick ‹_›
    · cases h
  | receive =>
    simp only [Lifecycle.step] at h
    split at h
    · cases h; exact hi.receive ‹_ ∧ _›.2
    · cases h
  | keepAliveRound a =>
    simp only [Lifecycle.step] at h
    split at h
    · cases h
      have he := hi.emitIf a.invokes (.invoke .keepAlive) (by decide) (by decide)
      exact ⟨he.ticking_iff, he.after_stop⟩
    · cases h
  | closeCall =>
    cases h
    have he := hi.emit (.call .closeSession) (by decide) (by decide)
    exact ⟨he.ticking_iff, he.after_stop⟩
  | closeRound a =>
    simp only [Lifecycle.step] at h
    split at h
    · cases h
      have he := hi.emitIf a.invokes (.invoke .closeSession) (by decide) (by decide)
      split
      · exact he
      · exact he.stop _
    · cases h

end Steps

theorem Reachable.inv {l : Lifecycle} (h : Reachable l) : Inv l := by
  induction h with
  | init b => exact Inv.init b
  | step _ _ hs ih => exact ih.step hs

/-- A `keepAlive` call running when `Close` returns: the tick left in the channel is received
after the ticker has stopped. -/
def closeThenReceive : List Action :=
  [.tick, .closeCall, .closeRound (.connectError ""), .receive]

theorem exec_closeThenReceive :
    (init false).exec closeThenReceive =
      some ⟨false, false, .calling, 0, [.call .closeSession, .stop, .call .keepAlive]⟩ := rfl

/-- After the ticker is stopped, that is once a `Close` has returned, the keep-alive goroutine
starts at most one more `keepAlive` call, for the tick left in the channel; and in some run it
starts one. -/
theorem keepAlive_calls_after_stop :
    (∀ l, Reachable l → (afterStop l.log).count (.call .keepAlive) ≤ 1) ∧
      ∃ l, Reachable l ∧ (afterStop l.log).count (.call .keepAlive) = 1 := by
  refine ⟨fun l hl => ?_, _, (Reachable.init false).exec exec_closeThenReceive, rfl⟩
  have hi := hl.inv
  cases ht : l.ticking
  · have := hi.after_stop ht
    omega
  · rw [afterStop_eq_nil (hi.ticking_iff.1 ht)]
    exact Nat.zero_le _

/-- Attempts whose RPC fails are all seen: `doRequest` goes round again after each. -/
theorem seen_replicate_rpcError (n : Nat) :
    seen (List.replicate n (.rpcError : Attempt Unit)) = List.replicate n .rpcError := by
  induction n with
  | zero => rfl
  | succ n ih => simp only [List.replicate_succ, seen, Attempt.retries, if_true, ih]

/-- A `keepAlive` call run round by round as `doRequest` sees its attempts: one invocation of
`KeepAlive` per round that invokes it, and back to waiting once a round ends the call. -/
theorem exec_keepAliveCall {l : Lifecycle} (hk : l.keeper = .calling) (as : List (Attempt Unit)) :
    l.exec ((seen as).map .keepAliveRound) = some { l with
      log := l.log ++ List.replicate ((seen as).countP Attempt.invokes) (.invoke .keepAlive)
      keeper := if (seen as).all Attempt.retries then .calling else .waiting } := by
  induction as generalizing l with
  | nil => simp [seen, Lifecycle.exec, ← hk]
  | cons a rest ih =>
    by_cases ha : a.retries
    · simp only [seen, if_pos ha, List.map_cons, Lifecycle.exec, Lifecycle.step, if_pos hk,
        Option.some_bind]
      rw [ih (by simp [ha])]
      cases hi : a.invokes <;>
        simp [Lifecycle.emitIf, Lifecycle.emit, List.countP_cons, hi, ha, List.replicate_succ]
    · simp only [seen, if_neg ha, List.map_cons, List.map_nil, Lifecycle.exec, Lifecycle.step,
        if_pos hk, Option.some_bind]
      cases hi : a.invokes <;> simp [Lifecycle.emitIf, Lifecycle.emit, hi, ha]

/-- The lifecycle refines `doSession`: a `keepAlive` call over the attempts `doRequest` sees logs
one invocation of `KeepAlive` for each invocation among the effects of `doSession`. -/
theorem keepAlive_call_refines (s : Session) (as : List (Attempt Unit)) {l : Lifecycle}
    (hk : l.keeper = .calling) :
    ∃ l', l.exec ((seen as).map .keepAliveRound) = some l' ∧
      l'.log = l.log ++ List.replicate ((doSession s as).effects.count (.invoke (s.getState none)))
        (.invoke .keepAlive) :=
  ⟨_, exec_keepAliveCall hk as, by rw [doSession, doRequest_eq_seen, count_invoke_effects]⟩

/-- However many times `KeepAlive` is invoked after `Close` returns, some run does so: a
`keepAlive` call running at that point goes round `doRequest` again for every failed RPC. -/
theorem keepAlive_invokes_after_stop (n : Nat) :
    ∃ l, Reachable l ∧ (afterStop l.log).count (.invoke .keepAlive) = n := by
  have hrun := @exec_keepAliveCall ⟨false, false, .calling, 0,
    [.call .closeSession, .stop, .call .keepAlive]⟩ rfl (List.replicate n .rpcError)
  rw [seen_replicate_rpcError] at hrun
  refine ⟨_, ((Reachable.init false).exec exec_closeThenReceive).exec hrun, ?_⟩
  simp [afterStop, List.count_replicate, List.countP_replicate, Attempt.invokes]

end Lifecycle

end AtomixClient
