import AtomixClient.Interleaving

/-!
# Invariants of a concurrently used session

Two invariants, each proved once per action and then over every run:

* `SessionInv` holds in every reachable state: the stream map binds each id to a stream object
  with that id, `SessionID ≤ lastIndex`, and `responseID` is `0` or the request id of a header
  recorded with an `OK` reply;
* `CounterInv` holds while `requestID` has not wrapped: the ids handed out are `1, ...,
  requestID`, every header carries an id at most `requestID`, and no removed stream id is in
  the map.

`SessionInv` needs no bound because no action compares two counters; `CounterInv` does, since a
`uint64` increment past `2^64 - 1` restarts the ids at `0`.
-/

namespace AtomixClient

open Sys

/-! ## Stepping, one action at a time -/

/-- Every step is one of the action functions of `Sys`, under its guard. -/
theorem step_cases {σ σ' : Sys} {a : Action} (h : step σ a = some σ') :
    (∃ n, a = .getState n ∧ σ' = σ.enter n) ∨
    (∃ i r ref todo, a = .getStreamHeaders i ∧ σ.reading[i]? = some r ∧ r.todo = ref :: todo ∧
      σ' = σ.visit i r ref todo) ∨
    (∃ i r, a = .getStateReturn i ∧ σ.reading[i]? = some r ∧ r.todo = [] ∧ σ' = σ.leave i r) ∨
    (∃ n, a = .getQueryHeader n ∧ σ' = σ.build .query (σ.sess.getQueryHeader n) σ.sess) ∨
    (∃ n, a = .nextCommandHeader n ∧ σ.reading = [] ∧ σ' = σ.nextCommand n) ∨
    (∃ n, a = .nextStreamHeader n ∧ σ.reading = [] ∧ σ' = σ.nextStream n) ∨
    (∃ k req resp, a = .recordCheck k req resp ∧ (k, req) ∈ σ.issued ∧ resp.Status = .OK ∧
      σ' = σ.check k req resp) ∨
    (∃ req resp, a = .recordUpdate req resp ∧ σ.reading = [] ∧ (req, resp) ∈ σ.pending ∧
      σ' = σ.update req resp) ∨
    (∃ ref, a = .close ref ∧ σ.reading = [] ∧ ref < σ.sess.nextRef ∧ σ' = σ.close ref) ∨
    (∃ ref resp, a = .serialize ref resp ∧ ref < σ.sess.nextRef ∧
      σ' = { σ with sess := (σ.sess.serializeAt ref resp).2 }) := by
  cases a with
  | getState n => exact .inl ⟨n, rfl, (Option.some.inj h).symm⟩
  | getStreamHeaders i =>
    refine .inr <| .inl ?_
    simp only [step] at h
    split at h
    · rename_i r hr
      split at h
      · exact ⟨i, r, _, _, rfl, hr, ‹_›, (Option.some.inj h).symm⟩
      · cases h
    · cases h
  | getStateReturn i =>
    refine .inr <| .inr <| .inl ?_
    simp only [step] at h
    split at h
    · rename_i r hr
      split at h
      · exact ⟨i, r, rfl, hr, ‹_›, (Option.some.inj h).symm⟩
      · cases h
    · cases h
  | getQueryHeader n => exact .inr <| .inr <| .inr <| .inl ⟨n, rfl, (Option.some.inj h).symm⟩
  | nextCommandHeader n =>
    simp only [step] at h
    split at h
    · exact .inr <| .inr <| .inr <| .inr <| .inl ⟨n, rfl, ‹_›, (Option.some.inj h).symm⟩
    · cases h
  | nextStreamHeader n =>
    simp only [step] at h
    split at h
    · exact .inr <| .inr <| .inr <| .inr <| .inr <| .inl ⟨n, rfl, ‹_›, (Option.some.inj h).symm⟩
    · cases h
  | recordCheck k req resp =>
    simp only [step] at h
    split at h
    · exact .inr <| .inr <| .inr <| .inr <| .inr <| .inr <| .inl ⟨k, req, resp, rfl, by simp_all⟩
    · cases h
  | recordUpdate req resp =>
    simp only [step] at h
    split at h
    · exact .inr <| .inr <| .inr <| .inr <| .inr <| .inr <| .inr <| .inl
        ⟨req, resp, rfl, by simp_all⟩
    · cases h
  | close ref =>
    simp only [step] at h
    split at h
    · exact .inr <| .inr <| .inr <| .inr <| .inr <| .inr <| .inr <| .inr <| .inl
        ⟨ref, rfl, by simp_all⟩
    · cases h
  | serialize ref resp =>
    simp only [step] at h
    split at h
    · exact .inr <| .inr <| .inr <| .inr <| .inr <| .inr <| .inr <| .inr <| .inr
        ⟨ref, resp, rfl, by simp_all⟩
    · cases h

/-- A step builds at most one header, in front of those built before. -/
theorem step_issued {σ σ' : Sys} {a : Action} (h : step σ a = some σ') :
    σ'.issued = σ.issued ∨ ∃ p, σ'.issued = p :: σ.issued := by
  rcases step_cases h with ⟨n, -, rfl⟩ | ⟨i, r, ref, todo, -, -, -, rfl⟩ | ⟨i, r, -, -, -, rfl⟩ |
    ⟨n, -, rfl⟩ | ⟨n, -, -, rfl⟩ | ⟨n, -, -, rfl⟩ | ⟨k, req, resp, -, -, -, rfl⟩ |
    ⟨req, resp, -, -, -, rfl⟩ | ⟨ref, -, -, -, rfl⟩ | ⟨ref, resp, -, -, rfl⟩
  · exact .inl rfl
  · exact .inl rfl
  · exact .inr ⟨_, rfl⟩
  · exact .inr ⟨_, rfl⟩
  · exact .inr ⟨_, rfl⟩
  · exact .inr ⟨_, rfl⟩
  · exact .inl (Sys.check_issued ..)
  · exact .inl rfl
  · exact .inl rfl
  · exact .inl rfl

/-- A step never forgets an id it handed out. -/
theorem step_allocated_length {σ σ' : Sys} {a : Action} (h : step σ a = some σ') :
    σ.allocated.length ≤ σ'.allocated.length := by
  unfold Sys.allocated
  rcases step_issued h with hi | ⟨p, hi⟩ <;> rw [hi]
  cases hp : p.1.isWrite <;> simp [List.filter_cons, hp]

/-! ## The invariant of every reachable state -/

/-- What holds in every reachable state, whatever the server replies. -/
structure SessionInv (σ : Sys) : Prop where
  /-- The map binds each id to an allocated stream object with that id. -/
  keys : ∀ k ref, σ.sess.streams.lookup k = some ref →
    (σ.sess.heap ref).ID = k ∧ ref < σ.sess.nextRef
  /-- The session id is at most `lastIndex`. -/
  sessionID_le : σ.sess.SessionID ≤ σ.sess.lastIndex
  /-- `responseID` is `0` or the id of a request header recorded with an `OK` reply. -/
  responseID_acked : σ.sess.responseID = 0 ∨ ∃ p ∈ σ.acked, p.2.RequestID = σ.sess.responseID
  /-- Every pending reply answers a recorded request header. -/
  pending_acked : ∀ q ∈ σ.pending, ∃ k, (k, q.1) ∈ σ.acked
  /-- Every recorded request header was built by the session. -/
  acked_issued : ∀ p ∈ σ.acked, p ∈ σ.issued

theorem SessionInv.init (partition : GoInt) : SessionInv (Sys.init partition) where
  keys k ref h := by simp [Sys.init, Session.init, AList.lookup_empty] at h
  sessionID_le := by simp [Sys.init, Session.init]
  responseID_acked := .inl rfl
  pending_acked q h := by simp [Sys.init] at h
  acked_issued p h := by simp [Sys.init] at h

/-- The write-locked half keeps `SessionID ≤ lastIndex`: the initialisation branch sets both to
the reply's session id before `lastIndex` can only rise. -/
theorem recordUpdate_sessionID_le (s : Session) (req : RequestHeader) (resp : ResponseHeader)
    (h : s.SessionID ≤ s.lastIndex) :
    (s.recordUpdate req resp).SessionID ≤ (s.recordUpdate req resp).lastIndex := by
  simp only [Session.recordUpdate_SessionID, Session.recordUpdate_lastIndex]
  simp only [u64_le_iff, u64_lt_iff] at *
  split_ifs <;> omega

section Steps
variable {σ : Sys} (hσ : SessionInv σ)
include hσ

/-- The invariant reads the session, the pending replies, the recorded headers and the headers
built: a step that keeps the first three and forgets no header keeps it. -/
theorem SessionInv.frame {σ' : Sys} (hs : σ'.sess = σ.sess) (hp : σ'.pending = σ.pending)
    (ha : σ'.acked = σ.acked) (hi : σ.issued ⊆ σ'.issued) : SessionInv σ' :=
  ⟨by rw [hs]; exact hσ.keys, by rw [hs]; exact hσ.sessionID_le,
    by rw [hs, ha]; exact hσ.responseID_acked, by rw [hp, ha]; exact hσ.pending_acked,
    fun p hp' => hi (hσ.acked_issued p (ha ▸ hp'))⟩

theorem SessionInv.build (k : HeaderKind) (h : RequestHeader) :
    SessionInv (σ.build k h σ.sess) :=
  hσ.frame rfl rfl rfl (List.subset_cons_self _ _)

theorem SessionInv.nextCommand (n : PrimitiveName) : SessionInv (σ.nextCommand n) :=
  ⟨hσ.keys, hσ.sessionID_le, hσ.responseID_acked, hσ.pending_acked,
    fun p hp => List.mem_cons_of_mem _ (hσ.acked_issued p hp)⟩

theorem SessionInv.nextStream (n : PrimitiveName) : SessionInv (σ.nextStream n) := by
  refine ⟨fun k ref h => ?_, hσ.sessionID_le, hσ.responseID_acked, hσ.pending_acked,
    fun p hp => List.mem_cons_of_mem _ (hσ.acked_issued p hp)⟩
  simp only [Sys.nextStream, Sys.build, Session.nextStreamHeader] at h ⊢
  by_cases hk : k = σ.sess.requestID + 1
  · subst hk
    rw [AList.lookup_insert, Option.some.injEq] at h
    subst h
    simp
  · rw [AList.lookup_insert_ne hk] at h
    obtain ⟨hid, hlt⟩ := hσ.keys k ref h
    rw [Function.update_noteq (by omega)]
    exact ⟨hid, by omega⟩

theorem SessionInv.check (k : HeaderKind) (req : RequestHeader) (resp : ResponseHeader)
    (hk : (k, req) ∈ σ.issued) : SessionInv (σ.check k req resp) := by
  refine ⟨by simpa using hσ.keys, by simpa using hσ.sessionID_le, ?_, fun q hq => ?_, ?_⟩
  · rcases hσ.responseID_acked with h | ⟨p, hp, h⟩
    · exact .inl (by simpa using h)
    · exact .inr ⟨p, by simp [hp], by simpa using h⟩
  · rcases check_pending_subset σ k req resp hq with rfl | hq
    · exact ⟨k, by simp⟩
    · obtain ⟨k', hk'⟩ := hσ.pending_acked q hq
      exact ⟨k', by simp [hk']⟩
  · simp only [check_acked, check_issued, List.mem_cons, forall_eq_or_imp]
    exact ⟨hk, hσ.acked_issued⟩

theorem SessionInv.update (req : RequestHeader) (resp : ResponseHeader)
    (hq : (req, resp) ∈ σ.pending) : SessionInv (σ.update req resp) := by
  refine ⟨by simpa [Sys.update] using hσ.keys, recordUpdate_sessionID_le _ _ _ hσ.sessionID_le,
    ?_, fun q hq' => hσ.pending_acked q (List.mem_of_mem_erase hq'), hσ.acked_issued⟩
  simp only [Sys.update, Session.recordUpdate_responseID]
  split
  · obtain ⟨k, hk⟩ := hσ.pending_acked _ hq
    exact .inr ⟨(k, req), hk, rfl⟩
  · exact hσ.responseID_acked

theorem SessionInv.close (ref : Nat) : SessionInv (σ.close ref) := by
  refine ⟨fun k r h => ?_, hσ.sessionID_le, hσ.responseID_acked, hσ.pending_acked,
    hσ.acked_issued⟩
  simp only [Sys.close, Session.closeStream, Session.deleteStream] at h ⊢
  by_cases hk : k = (σ.sess.heap ref).ID
  · subst hk
    rw [AList.lookup_erase] at h
    cases h
  · rw [AList.lookup_erase_ne hk] at h
    exact hσ.keys k r h

theorem SessionInv.serialize (ref : Nat) (resp : ResponseHeader) :
    SessionInv { σ with sess := (σ.sess.serializeAt ref resp).2 } := by
  refine ⟨fun k r h => ?_, hσ.sessionID_le, hσ.responseID_acked, hσ.pending_acked,
    hσ.acked_issued⟩
  simp only [Session.serializeAt] at h ⊢
  obtain ⟨hid, hlt⟩ := hσ.keys k r h
  refine ⟨?_, hlt⟩
  by_cases hr : r = ref
  · subst hr
    simpa using hid
  · rwa [Function.update_noteq hr]

theorem SessionInv.step {a : Action} {σ' : Sys} (h : step σ a = some σ') : SessionInv σ' := by
  rcases step_cases h with ⟨n, -, rfl⟩ | ⟨i, r, ref, todo, -, -, -, rfl⟩ | ⟨i, r, -, -, -, rfl⟩ |
    ⟨n, -, rfl⟩ | ⟨n, -, -, rfl⟩ | ⟨n, -, -, rfl⟩ | ⟨k, req, resp, -, hk, -, rfl⟩ |
    ⟨req, resp, -, -, hq, rfl⟩ | ⟨ref, -, -, -, rfl⟩ | ⟨ref, resp, -, -, rfl⟩
  · exact hσ.frame rfl rfl rfl (List.Subset.refl _)
  · exact hσ.frame rfl rfl rfl (List.Subset.refl _)
  · exact hσ.frame rfl rfl rfl (List.subset_cons_self _ _)
  · exact hσ.build _ _
  · exact hσ.nextCommand n
  · exact hσ.nextStream n
  · exact hσ.check k req resp hk
  · exact hσ.update req resp hq
  · exact hσ.close ref
  · exact hσ.serialize ref resp

end Steps

theorem ReachableWith.sessionInv {Replies : ResponseHeader → Prop} {σ : Sys}
    (h : ReachableWith Replies σ) : SessionInv σ := by
  induction h with
  | init p => exact SessionInv.init p
  | step _ _ _ hs ih => exact ih.step hs

/-! ## Request ids, while `requestID` has not wrapped -/

/-- The counters' invariant, for as long as fewer than `2^64 - 1` ids have been handed out. -/
structure CounterInv (σ : Sys) : Prop where
  /-- The ids handed out are `1, 2, ...` in order. -/
  allocated : σ.allocated.map UInt64.toNat = List.range' 1 σ.allocated.length
  /-- `requestID` is the number of ids handed out. -/
  requestID : σ.sess.requestID.toNat = σ.allocated.length
  /-- Every header built carries a request id at most `requestID`. -/
  issued_le : ∀ p ∈ σ.issued, p.2.RequestID ≤ σ.sess.requestID
  responseID_le : σ.sess.responseID ≤ σ.sess.requestID
  /-- Every stream object carries an id at most `requestID`. -/
  heap_le : ∀ ref < σ.sess.nextRef, (σ.sess.heap ref).ID ≤ σ.sess.requestID
  /-- A removed stream id is not in the map. -/
  removed : ∀ k ∈ σ.removed, k ∉ σ.sess.streams ∧ k ≤ σ.sess.requestID

theorem CounterInv.init (partition : GoInt) : CounterInv (Sys.init partition) where
  allocated := rfl
  requestID := rfl
  issued_le p h := by simp [Sys.init] at h
  responseID_le := by simp [Sys.init, Session.init]
  heap_le ref h := by simp [Sys.init, Session.init] at h
  removed k h := by simp [Sys.init] at h

section Steps
variable {σ : Sys} (hc : CounterInv σ)
include hc

/-- Handing out the next id keeps the ids `1, 2, ...` while it does not wrap. -/
theorem CounterInv.next_id (hlen : σ.allocated.length + 1 < 2 ^ 64 - 1) :
    (σ.sess.requestID + 1).toNat = σ.allocated.length + 1 ∧
    (σ.allocated ++ [σ.sess.requestID + 1]).map UInt64.toNat =
      List.range' 1 (σ.allocated ++ [σ.sess.requestID + 1]).length := by
  have h1 : (σ.sess.requestID + 1).toNat = σ.allocated.length + 1 := by
    rw [u64_toNat_add_one (by rw [hc.requestID]; omega), hc.requestID]
  refine ⟨h1, ?_⟩
  rw [List.map_append, hc.allocated, List.length_append, List.length_singleton,
    List.range'_concat]
  simp [h1, Nat.add_comm]

theorem CounterInv.nextCommand (n : PrimitiveName)
    (hlen : (σ.nextCommand n).allocated.length < 2 ^ 64 - 1) : CounterInv (σ.nextCommand n) := by
  simp only [nextCommand_allocated, List.length_append, List.length_singleton] at hlen
  obtain ⟨h1, h2⟩ := hc.next_id hlen
  have hle : ∀ x : UInt64, x ≤ σ.sess.requestID → x ≤ σ.sess.requestID + 1 := by
    simp only [u64_le_iff, h1, hc.requestID]; omega
  refine ⟨by simpa using h2, by simpa using h1, ?_, hle _ hc.responseID_le,
    fun ref hr => hle _ (hc.heap_le ref hr), fun k hk => ?_⟩
  · simp only [Sys.nextCommand, build_issued, List.mem_cons, forall_eq_or_imp]
    exact ⟨UInt64.le_refl _, fun p hp => hle _ (hc.issued_le p hp)⟩
  · exact ⟨(hc.removed k hk).1, hle _ (hc.removed k hk).2⟩

theorem CounterInv.nextStream (n : PrimitiveName)
    (hlen : (σ.nextStream n).allocated.length < 2 ^ 64 - 1) : CounterInv (σ.nextStream n) := by
  simp only [nextStream_allocated, List.length_append, List.length_singleton] at hlen
  obtain ⟨h1, h2⟩ := hc.next_id hlen
  have hle : ∀ x : UInt64, x ≤ σ.sess.requestID → x ≤ σ.sess.requestID + 1 := by
    simp only [u64_le_iff, h1, hc.requestID]; omega
  have hne : ∀ x : UInt64, x ≤ σ.sess.requestID → x ≠ σ.sess.requestID + 1 := by
    intro x hx heq; subst heq; simp only [u64_le_iff, h1, hc.requestID] at hx; omega
  refine ⟨by simpa using h2, by simpa using h1, ?_, hle _ hc.responseID_le, fun ref hr => ?_,
    fun k hk => ?_⟩
  · simp only [Sys.nextStream, build_issued, List.mem_cons, forall_eq_or_imp]
    exact ⟨UInt64.le_refl _, fun p hp => hle _ (hc.issued_le p hp)⟩
  · simp only [Sys.nextStream, Sys.build, Session.nextStreamHeader] at hr ⊢
    by_cases h : ref = σ.sess.nextRef
    · subst h; rw [Function.update_same]; exact UInt64.le_refl _
    · rw [Function.update_noteq h]; exact hle _ (hc.heap_le ref (by omega))
  · obtain ⟨hk1, hk2⟩ := hc.removed k hk
    simp only [Sys.nextStream, Sys.build, Session.nextStreamHeader, AList.mem_insert, not_or]
    exact ⟨⟨hne k hk2, hk1⟩, hle k hk2⟩

/-- The invariant reads the session, the headers built and the removed ids. -/
theorem CounterInv.congr {σ' : Sys} (hs : σ'.sess = σ.sess) (hi : σ'.issued = σ.issued)
    (hr : σ'.removed = σ.removed) : CounterInv σ' := by
  have ha : σ'.allocated = σ.allocated := by unfold Sys.allocated; rw [hi]
  exact ⟨by rw [ha]; exact hc.allocated, by rw [ha, hs]; exact hc.requestID,
    by rw [hi, hs]; exact hc.issued_le, by rw [hs]; exact hc.responseID_le,
    by rw [hs]; exact hc.heap_le, by rw [hr, hs]; exact hc.removed⟩

/-- A header of a builder that hands out no id, carrying an id at most `requestID`. -/
theorem CounterInv.build (k : HeaderKind) (h : RequestHeader) (hk : k.isWrite = false)
    (hh : h.RequestID ≤ σ.sess.requestID) : CounterInv (σ.build k h σ.sess) := by
  have ha : (σ.build k h σ.sess).allocated = σ.allocated := by rw [build_allocated, hk]; rfl
  refine ⟨by rw [ha]; exact hc.allocated, by rw [ha]; exact hc.requestID, ?_, hc.responseID_le,
    hc.heap_le, hc.removed⟩
  simp only [build_issued, build_sess, List.mem_cons, forall_eq_or_imp]
  exact ⟨hh, hc.issued_le⟩

theorem CounterInv.check (k : HeaderKind) (req : RequestHeader) (resp : ResponseHeader) :
    CounterInv (σ.check k req resp) :=
  hc.congr (check_sess ..) (check_issued ..) (check_removed ..)

theorem CounterInv.update (hσ : SessionInv σ) (req : RequestHeader) (resp : ResponseHeader)
    (hq : (req, resp) ∈ σ.pending) : CounterInv (σ.update req resp) := by
  obtain ⟨k, hk⟩ := hσ.pending_acked _ hq
  have hreq : req.RequestID ≤ σ.sess.requestID := hc.issued_le _ (hσ.acked_issued _ hk)
  have hs := Session.recordUpdate_eq σ.sess req resp
  refine ⟨hc.1, by rw [update_sess, hs]; exact hc.2, by rw [update_sess, hs]; exact hc.3, ?_,
    by rw [update_sess, hs]; exact hc.5, by rw [update_sess, hs]; exact hc.6⟩
  rw [update_sess, hs]
  dsimp only
  split
  · exact hreq
  · exact hc.responseID_le

theorem CounterInv.close (ref : Nat) (hr : ref < σ.sess.nextRef) : CounterInv (σ.close ref) := by
  refine ⟨hc.allocated, hc.requestID, hc.issued_le, hc.responseID_le, hc.heap_le, ?_⟩
  simp only [Sys.close, Session.closeStream, Session.deleteStream, List.mem_cons,
    forall_eq_or_imp, AList.mem_erase]
  exact ⟨⟨fun h => h.1 rfl, hc.heap_le ref hr⟩,
    fun k hk => ⟨fun h => (hc.removed k hk).1 h.2, (hc.removed k hk).2⟩⟩

theorem CounterInv.serialize (ref : Nat) (resp : ResponseHeader) :
    CounterInv { σ with sess := (σ.sess.serializeAt ref resp).2 } := by
  refine ⟨hc.allocated, hc.requestID, hc.issued_le, hc.responseID_le, fun r hr => ?_, hc.removed⟩
  simp only [Session.serializeAt] at hr ⊢
  by_cases h : r = ref
  · subst h; simpa using hc.heap_le r hr
  · rw [Function.update_noteq h]; exact hc.heap_le r hr

theorem CounterInv.step (hσ : SessionInv σ) {a : Action} {σ' : Sys} (h : step σ a = some σ')
    (hlen : σ'.allocated.length < 2 ^ 64 - 1) : CounterInv σ' := by
  rcases step_cases h with ⟨n, -, rfl⟩ | ⟨i, r, ref, todo, -, -, -, rfl⟩ | ⟨i, r, -, -, -, rfl⟩ |
    ⟨n, -, rfl⟩ | ⟨n, -, -, rfl⟩ | ⟨n, -, -, rfl⟩ | ⟨k, req, resp, -, -, -, rfl⟩ |
    ⟨req, resp, -, -, hq, rfl⟩ | ⟨ref, -, -, hr, rfl⟩ | ⟨ref, resp, -, -, rfl⟩
  · exact hc.congr rfl rfl rfl
  · exact hc.congr rfl rfl rfl
  · exact (hc.build .state _ rfl hc.responseID_le).congr rfl rfl rfl
  · exact hc.build _ _ rfl (UInt64.le_refl _)
  · exact hc.nextCommand n hlen
  · exact hc.nextStream n hlen
  · exact hc.check k req resp
  · exact hc.update hσ req resp hq
  · exact hc.close ref hr
  · exact hc.serialize ref resp

end Steps

theorem ReachableWith.counterInv {Replies : ResponseHeader → Prop} {σ : Sys}
    (h : ReachableWith Replies σ) (hlen : σ.allocated.length < 2 ^ 64 - 1) : CounterInv σ := by
  induction h with
  | init p => exact CounterInv.init p
  | step _ hr _ hs ih =>
    exact (ih (lt_of_le_of_lt (step_allocated_length hs) hlen)).step hr.sessionInv hs hlen

end AtomixClient
