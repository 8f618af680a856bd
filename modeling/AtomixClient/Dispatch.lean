import AtomixClient.Session

/-!
# `doRequest` and the request shapes built on it

`doRequest` is the retry loop every unary RPC of a session goes through. Each round obtains a
connection from the pool, invokes the caller's closure with the request header, and reads the
status of the reply: `OK` records the reply and returns it, `NOT_LEADER` retargets the pool and
goes round again, `ERROR` returns an error. A failed `Connect` returns its error; a failed RPC
goes round again.

The loop is modelled over the sequence of `Attempt`s one call sees, and returns a `Run`: how the
call ended, the effects it had on the world in order (`Effect`), and the session afterwards. A
sequence that runs out before an attempt ends the call leaves it `running`.

`doRequest_eq_seen` is the loop invariant: the effects are those of each attempt seen, in order,
and the session changes only by the final `recordResponse`. `doRequest_contract` reads off what a
caller relies on.
-/

namespace AtomixClient

/-- What one round of `doRequest` sees. -/
inductive Attempt (α : Type) where
  | connectError (err : String)
  | rpcError
  | reply (header : ResponseHeader) (response : α)

/-- What `doRequest` does outside the session: invoke the RPC closure with a header,
`Reconnect` the pool to an address, or `recordResponse`. -/
inductive Effect where
  | invoke (header : RequestHeader)
  | reconnect (address : String)
  | record (requestHeader : RequestHeader) (responseHeader : ResponseHeader)
  deriving DecidableEq, Repr

/-- How a `doRequest` call ends; `running` when no attempt seen so far ended it. -/
inductive Outcome (α : Type) where
  | ok (response : α)
  | error (err : String)
  | running

/-- The outcome, effects and session of a `doRequest` call. -/
structure Run (α : Type) where
  outcome : Outcome α
  effects : List Effect
  session : Session

/-- The error `doRequest` returns on an `ERROR` reply. -/
def unknownError : String := "an unknown error occurred"

variable {α : Type}

/-- `Session.doRequest`. -/
def doRequest (requestHeader : RequestHeader) : List (Attempt α) → Session → Run α
  | [], s => ⟨.running, [], s⟩
  | .connectError err :: _, s => ⟨.error err, [], s⟩
  | .rpcError :: rest, s =>
    let r := doRequest requestHeader rest s
    { r with effects := .invoke requestHeader :: r.effects }
  | .reply h response :: rest, s =>
    match h.Status with
    | .OK => ⟨.ok response, [.invoke requestHeader, .record requestHeader h],
        s.recordResponse requestHeader h⟩
    | .NOT_LEADER =>
      let r := doRequest requestHeader rest s
      { r with effects := .invoke requestHeader :: .reconnect h.Leader :: r.effects }
    | .ERROR => ⟨.error unknownError, [.invoke requestHeader], s⟩

/-- `doQuery`: a query header, sent through `doRequest`. -/
def doQuery (s : Session) (name : PrimitiveName) (attempts : List (Attempt α)) : Run α :=
  doRequest (s.getQueryHeader name) attempts s

/-- `doCommand`: a fresh command header, sent through `doRequest`. -/
def doCommand (s : Session) (name : PrimitiveName) (attempts : List (Attempt α)) : Run α :=
  doRequest (s.nextCommandHeader name).2 attempts (s.nextCommandHeader name).1

/-- `doPrimitive` (and `doCreate`, `doClose`): a state header with the primitive's name. -/
def doPrimitive (s : Session) (name : PrimitiveName) (attempts : List (Attempt α)) : Run α :=
  doRequest (s.getState (some name)) attempts s

/-- `doSession` (`open`, `keepAlive`, `close`): a state header without a name. -/
def doSession (s : Session) (attempts : List (Attempt α)) : Run α :=
  doRequest (s.getState none) attempts s

/-! ## The loop invariant -/

/-- Whether `doRequest` goes round again after an attempt. -/
def Attempt.retries : Attempt α → Bool
  | .rpcError => true
  | .reply h _ => h.Status = .NOT_LEADER
  | .connectError _ => false

/-- The attempts one call sees: those that retry, up to and including the first that ends it. -/
def seen : List (Attempt α) → List (Attempt α)
  | [] => []
  | a :: rest => if a.retries then a :: seen rest else [a]

/-- The effects of one attempt. -/
def Attempt.effects (requestHeader : RequestHeader) : Attempt α → List Effect
  | .connectError _ => []
  | .rpcError => [.invoke requestHeader]
  | .reply h _ =>
    match h.Status with
    | .OK => [.invoke requestHeader, .record requestHeader h]
    | .NOT_LEADER => [.invoke requestHeader, .reconnect h.Leader]
    | .ERROR => [.invoke requestHeader]

/-- The reply header and response of an `OK` attempt. -/
def Attempt.okReply? : Attempt α → Option (ResponseHeader × α)
  | .reply h r => if h.Status = .OK then some (h, r) else none
  | _ => none

/-- The outcome of a call that saw `as`. -/
def outcomeOf : List (Attempt α) → Outcome α
  | [] => .running
  | [a] =>
    match a with
    | .connectError err => .error err
    | .rpcError => .running
    | .reply h r =>
      match h.Status with
      | .OK => .ok r
      | .NOT_LEADER => .running
      | .ERROR => .error unknownError
  | _ :: rest => outcomeOf rest

/-- `doRequest` is the effects of the attempts it sees, in order; it ends as the last of them
says, and changes the session only by recording an `OK` reply. -/
theorem doRequest_eq_seen (req : RequestHeader) (as : List (Attempt α)) (s : Session) :
    doRequest req as s =
      ⟨outcomeOf (seen as), (seen as).flatMap (Attempt.effects req),
        match ((seen as).getLast?).bind Attempt.okReply? with
        | some (h, _) => s.recordResponse req h
        | none => s⟩ := by
  induction as with
  | nil => rfl
  | cons a rest ih =>
    cases a with
    | connectError err => rfl
    | rpcError =>
      simp only [doRequest, ih, seen, Attempt.retries, if_true, List.flatMap_cons, Attempt.effects,
        List.singleton_append]
      cases h : seen rest with
      | nil => rfl
      | cons b bs => simp [outcomeOf, List.getLast?_cons_cons]
    | reply h r =>
      cases hs : h.Status with
      | OK => simp [doRequest, hs, seen, Attempt.retries, outcomeOf, Attempt.effects,
          Attempt.okReply?]
      | ERROR => simp [doRequest, hs, seen, Attempt.retries, outcomeOf, Attempt.effects,
          Attempt.okReply?]
      | NOT_LEADER =>
        simp only [doRequest, hs, ih, seen, Attempt.retries, if_true, List.flatMap_cons,
          Attempt.effects, List.cons_append, List.nil_append, decide_True]
        cases h' : seen rest with
        | nil => simp [outcomeOf, hs, Attempt.okReply?]
        | cons b bs => simp [outcomeOf, List.getLast?_cons_cons]

/-- `Effect.record` is a `recordResponse`. -/
def Effect.isRecord : Effect → Bool
  | .record _ _ => true
  | _ => false

/-- Every invocation of the closure gets the header `doRequest` was given. -/
theorem mem_effects_invoke {req h : RequestHeader} {as : List (Attempt α)}
    (hm : Effect.invoke h ∈ (seen as).flatMap (Attempt.effects req)) : h = req := by
  obtain ⟨a, -, ha⟩ := List.mem_flatMap.1 hm
  cases a with
  | connectError => simp [Attempt.effects] at ha
  | rpcError => simpa [Attempt.effects] using ha
  | reply h' r => cases hs : h'.Status <;> simp_all [Attempt.effects]

theorem Attempt.okReply?_of_retries {a : Attempt α} (h : a.retries) : a.okReply? = none := by
  cases a with
  | reply h r => simp_all [Attempt.retries, Attempt.okReply?]
  | _ => rfl

/-- An attempt records iff it is an `OK` reply. -/
theorem Attempt.effects_filter_isRecord (req : RequestHeader) (a : Attempt α) :
    (a.effects req).filter Effect.isRecord = a.okReply?.toList.map fun p => .record req p.1 := by
  cases a with
  | reply h r =>
    cases hs : h.Status <;> simp [Attempt.effects, Attempt.okReply?, hs, Effect.isRecord]
  | _ => rfl

/-- Of the attempts seen, only the last can be an `OK` reply. -/
theorem seen_filterMap_okReply? (as : List (Attempt α)) :
    (seen as).filterMap Attempt.okReply? = (((seen as).getLast?).bind Attempt.okReply?).toList := by
  induction as with
  | nil => rfl
  | cons a rest ih =>
    by_cases ha : a.retries
    · rw [seen, if_pos ha, List.filterMap_cons_none (Attempt.okReply?_of_retries ha), ih]
      cases seen rest with
      | nil => simp [Attempt.okReply?_of_retries ha]
      | cons b bs => rw [List.getLast?_cons_cons]
    · rw [seen, if_neg ha]
      cases a.okReply? <;> rfl

/-- Only the last attempt seen can record, and it does iff it is an `OK` reply. -/
theorem seen_filter_isRecord (req : RequestHeader) (as : List (Attempt α)) :
    ((seen as).flatMap (Attempt.effects req)).filter Effect.isRecord =
      (((seen as).getLast?).bind Attempt.okReply?).toList.map fun p => .record req p.1 := by
  rw [List.filter_flatMap, ← seen_filterMap_okReply?, List.filterMap_eq_flatMap_toList,
    List.map_flatMap]
  simp only [Attempt.effects_filter_isRecord]

/-- `outcomeOf` reads only the last attempt. -/
theorem outcomeOf_eq_getLast? : ∀ l : List (Attempt α),
    outcomeOf l = ((l.getLast?).map fun a => outcomeOf [a]).getD .running
  | [] => rfl
  | [_] => rfl
  | _ :: b :: bs => by
    rw [List.getLast?_cons_cons, ← outcomeOf_eq_getLast? (b :: bs)]
    rfl

theorem outcomeOf_singleton_eq_ok (a : Attempt α) (r : α) :
    outcomeOf [a] = .ok r ↔ ∃ h, a.okReply? = some (h, r) := by
  cases a with
  | reply h r' => cases hs : h.Status <;> simp [outcomeOf, Attempt.okReply?, hs, eq_comm]
  | _ => simp [outcomeOf, Attempt.okReply?]

/-- A call ends with `ok r` exactly when the last attempt it saw is an `OK` reply carrying `r`. -/
theorem outcomeOf_seen_eq_ok (as : List (Attempt α)) (r : α) :
    outcomeOf (seen as) = .ok r ↔
      ∃ h, ((seen as).getLast?).bind Attempt.okReply? = some (h, r) := by
  rw [outcomeOf_eq_getLast?]
  cases (seen as).getLast? with
  | none => simp
  | some a => exact outcomeOf_singleton_eq_ok a r

/-- The contract of `doRequest` over every sequence of attempts: each invocation of the
closure gets the same header; the effects are those of the attempts in order (a `NOT_LEADER`
reply is followed by a `Reconnect` to its leader before the next invocation); `recordResponse`
runs exactly once, with the final reply, iff the call returns `OK`; otherwise the session is
left as it was. -/
theorem doRequest_contract (req : RequestHeader) (as : List (Attempt α)) (s : Session) :
    (∀ h, Effect.invoke h ∈ (doRequest req as s).effects → h = req) ∧
    (doRequest req as s).effects = (seen as).flatMap (Attempt.effects req) ∧
    (∀ r, (doRequest req as s).outcome = .ok r →
      ∃ h, (seen as).getLast? = some (.reply h r) ∧ h.Status = .OK ∧
        (doRequest req as s).effects.filter Effect.isRecord = [.record req h] ∧
        (doRequest req as s).session = s.recordResponse req h) ∧
    ((∀ r, (doRequest req as s).outcome ≠ .ok r) →
      (doRequest req as s).effects.filter Effect.isRecord = [] ∧
        (doRequest req as s).session = s) := by
  rw [doRequest_eq_seen]
  refine ⟨fun h hm => mem_effects_invoke hm, rfl, fun r hr => ?_, fun hr => ?_⟩
  · obtain ⟨h, hh⟩ := (outcomeOf_seen_eq_ok as r).1 hr
    obtain ⟨a, ha, hok⟩ := Option.bind_eq_some.1 hh
    cases a with
    | connectError => simp [Attempt.okReply?] at hok
    | rpcError => simp [Attempt.okReply?] at hok
    | reply h' r' =>
      simp only [Attempt.okReply?, Option.ite_none_right_eq_some, Option.some.injEq,
        Prod.mk.injEq] at hok
      obtain ⟨hst, rfl, rfl⟩ := hok
      exact ⟨h', ha, hst, by simp [seen_filter_isRecord, hh], by simp [hh]⟩
  · have hnone : ((seen as).getLast?).bind Attempt.okReply? = none := by
      cases hb : ((seen as).getLast?).bind Attempt.okReply? with
      | none => rfl
      | some p => exact absurd ((outcomeOf_seen_eq_ok as p.2).2 ⟨p.1, hb⟩) (hr p.2)
    exact ⟨by simp [seen_filter_isRecord, hnone], by simp [hnone]⟩

end AtomixClient
