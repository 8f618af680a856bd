import AtomixClient.Sequencing

/-!
# `responseID` and `lastIndex` over whole runs

Only the write-locked half of `recordResponse` moves the session's `SessionID`, `lastIndex` and
`responseID` (`step_sess_counters`). From that one fact:

* `responseID_recorded`: along every run from a fresh session, `responseID` is the largest
  request id among the headers whose reply went through the write-locked update, of whatever
  builder, queries included. `responseID_counts_unacknowledged_write` is a run in which that
  header is a query, so `responseID` names a write that was never acknowledged;
* `lastIndex_never_decreases`: when the server never changes the session id, `lastIndex` never
  decreases and stays above the index of every reply whose `recordResponse` returned.
  `lastIndex_pulled_back` is a run with two session ids in which it drops;
* `recordResponse_drops_responseID`: in a reachable state, the double-checked `recordResponse`
  leaves `responseID` where the three updates of `recordResponseSpec` raise it.
-/

namespace AtomixClient

open Sys

/-! ## What a step does to the counters -/

/-- The request header whose reply an action records under the write lock. -/
def Action.updated? : Action → Option RequestHeader
  | .recordUpdate req _ => some req
  | _ => none

/-- Only `recordUpdate` changes `SessionID`, `lastIndex` or `responseID`. -/
theorem step_sess_counters {σ σ' : Sys} {a : Action} (h : step σ a = some σ') :
    (∃ req resp, a = .recordUpdate req resp ∧ (req, resp) ∈ σ.pending ∧
      σ'.sess = σ.sess.recordUpdate req resp) ∨
    (a.updated? = none ∧ σ'.sess.SessionID = σ.sess.SessionID ∧
      σ'.sess.lastIndex = σ.sess.lastIndex ∧ σ'.sess.responseID = σ.sess.responseID) := by
  rcases step_cases h with ⟨n, rfl, rfl⟩ | ⟨i, r, ref, todo, rfl, -, -, rfl⟩ |
    ⟨i, r, rfl, -, -, rfl⟩ | ⟨n, rfl, rfl⟩ | ⟨n, rfl, -, rfl⟩ | ⟨n, rfl, -, rfl⟩ |
    ⟨k, req, resp, rfl, -, -, rfl⟩ | ⟨req, resp, rfl, -, hp, rfl⟩ | ⟨ref, rfl, -, -, rfl⟩ |
    ⟨ref, resp, rfl, -, rfl⟩
  · exact .inr ⟨rfl, rfl, rfl, rfl⟩
  · exact .inr ⟨rfl, rfl, rfl, rfl⟩
  · exact .inr ⟨rfl, rfl, rfl, rfl⟩
  · exact .inr ⟨rfl, rfl, rfl, rfl⟩
  · exact .inr ⟨rfl, rfl, rfl, rfl⟩
  · exact .inr ⟨rfl, rfl, rfl, rfl⟩
  · exact .inr ⟨rfl, by simp, by simp, by simp⟩
  · exact .inl ⟨_, _, rfl, hp, rfl⟩
  · exact .inr ⟨rfl, rfl, rfl, rfl⟩
  · exact .inr ⟨rfl, rfl, rfl, rfl⟩

/-! ## `responseID` -/

/-- The largest request id among `reqs`, `0` if there is none. -/
def maxRequestID (reqs : List RequestHeader) : Nat := (reqs.map (·.RequestID.toNat)).foldr max 0

@[simp] theorem maxRequestID_nil : maxRequestID [] = 0 := rfl
@[simp] theorem maxRequestID_cons (req : RequestHeader) (reqs : List RequestHeader) :
    maxRequestID (req :: reqs) = max req.RequestID.toNat (maxRequestID reqs) := rfl

theorem recordUpdate_responseID_toNat (s : Session) (req : RequestHeader) (resp : ResponseHeader) :
    (s.recordUpdate req resp).responseID.toNat = max s.responseID.toNat req.RequestID.toNat := by
  rw [Session.recordUpdate_responseID]
  split_ifs with h <;> rw [gt_iff_lt, u64_lt_iff] at h <;> omega

/-- One step raises `responseID` to the request id it records under the write lock. -/
theorem step_responseID {σ σ' : Sys} {a : Action} (h : step σ a = some σ') :
    σ'.sess.responseID.toNat = max σ.sess.responseID.toNat (maxRequestID a.updated?.toList) := by
  rcases step_sess_counters h with ⟨req, resp, rfl, -, hs⟩ | ⟨hnone, -, -, hr⟩
  · rw [hs, recordUpdate_responseID_toNat]
    simp [Action.updated?]
  · simp [hr, hnone]

/-- Along a run, `responseID` rises to the largest request id recorded under the write lock. -/
theorem exec_responseID {σ σ' : Sys} {as : List Action} (h : exec σ as = some σ') :
    σ'.sess.responseID.toNat =
      max σ.sess.responseID.toNat (maxRequestID (as.filterMap Action.updated?)) := by
  induction as generalizing σ with
  | nil => cases h; simp
  | cons a as ih =>
    obtain ⟨σ₁, h₁, h₂⟩ := Option.bind_eq_some.1 h
    rw [ih h₂, step_responseID h₁]
    cases hu : a.updated? with
    | none => rw [List.filterMap_cons_none hu, Option.toList_none, maxRequestID_nil, Nat.max_zero]
    | some req =>
      rw [List.filterMap_cons_some hu, Option.toList_some, maxRequestID_cons, maxRequestID_nil,
        Nat.max_zero, maxRequestID_cons, Nat.max_assoc]

/-- A query header built after an unacknowledged command carries that command's id, and its
reply raises `responseID` to it. -/
def queryAfterCommand : List Action :=
  let q := ((Session.init 0).nextCommandHeader probeName).1.getQueryHeader probeName
  [.nextCommandHeader probeName, .getQueryHeader probeName, .recordCheck .query q probeReply,
    .recordUpdate q probeReply]

/-- Along every run from a fresh session, `responseID` is the largest request id of the headers
whose reply took the write-locked update (`0` if none did), whichever builder made them. -/
theorem responseID_recorded (partition : GoInt) (as : List Action) (σ : Sys)
    (h : exec (Sys.init partition) as = some σ) :
    σ.sess.responseID.toNat = maxRequestID (as.filterMap Action.updated?) := by
  rw [exec_responseID h]
  exact Nat.zero_max _

theorem responseID_recorded_queryAfterCommand : ∃ σ, exec (Sys.init 0) queryAfterCommand = some σ ∧
    maxRequestID (queryAfterCommand.filterMap Action.updated?) = 1 ∧
    σ.sess.responseID.toNat = maxRequestID (queryAfterCommand.filterMap Action.updated?) :=
  let ⟨σ, hσ⟩ : ∃ σ, exec (Sys.init 0) queryAfterCommand = some σ := ⟨_, rfl⟩
  ⟨σ, hσ, rfl, responseID_recorded 0 queryAfterCommand σ hσ⟩

/-- The largest request id among the command and stream headers passed to `recordResponse`
with an `OK` reply. -/
def ackedWriteWatermark (σ : Sys) : Nat :=
  maxRequestID ((σ.acked.filter fun p => p.1 = .command ∨ p.1 = .stream).map Prod.snd)

theorem responseID_counts_unacknowledged_write :
    ∃ σ, Reachable σ ∧ σ.sess.responseID.toNat ≠ ackedWriteWatermark σ := by
  obtain ⟨σ, hσ⟩ : ∃ σ, exec (Sys.init 0) queryAfterCommand = some σ := ⟨_, rfl⟩
  have hv : (exec (Sys.init 0) queryAfterCommand).map
      (fun σ => (σ.sess.responseID.toNat, ackedWriteWatermark σ)) = some (1, 0) := rfl
  rw [hσ, Option.map_some', Option.some.injEq, Prod.mk.injEq] at hv
  exact ⟨σ, reachableWith_exec (.init 0) (by simp) hσ, by omega⟩

/-! ## `lastIndex` -/

/-- Every reply whose `recordResponse` returned is the reply of the step, or was there before;
one that the read-locked check turned away has an index at most `lastIndex`. -/
theorem step_returned {σ σ' : Sys} {a : Action} (h : step σ a = some σ') {r : ResponseHeader}
    (hr : r ∈ σ'.returned) :
    r ∈ σ.returned ∨ a.reply? = some r ∧ (r.Index ≤ σ.sess.lastIndex ∨ a.updated? ≠ none) := by
  rcases step_cases h with ⟨n, rfl, rfl⟩ | ⟨i, r, ref, todo, rfl, -, -, rfl⟩ |
    ⟨i, r, rfl, -, -, rfl⟩ | ⟨n, rfl, rfl⟩ | ⟨n, rfl, -, rfl⟩ | ⟨n, rfl, -, rfl⟩ |
    ⟨k, req, resp, rfl, -, -, rfl⟩ | ⟨req, resp, rfl, -, -, rfl⟩ | ⟨ref, rfl, -, -, rfl⟩ |
    ⟨ref, resp, rfl, -, rfl⟩
  case inr.inr.inr.inr.inr.inr.inl =>
    unfold Sys.check at hr
    split at hr
    · exact .inl hr
    · rename_i hc
      simp only [Session.recordCheck, gt_iff_lt, decide_eq_true_eq, u64_lt_iff] at hc
      rcases List.mem_cons.1 hr with rfl | hr
      · exact .inr ⟨rfl, .inl (u64_le_iff.2 (by omega))⟩
      · exact .inl hr
  case inr.inr.inr.inr.inr.inr.inr.inl =>
    rcases List.mem_cons.1 hr with rfl | hr
    · exact .inr ⟨rfl, .inr (by simp [Action.updated?])⟩
    · exact .inl hr
  all_goals exact .inl hr

/-- A header built by a step carries the `lastIndex` of the state it was built in. -/
theorem step_issued_Index {σ σ' : Sys} {a : Action} (h : step σ a = some σ') {k : HeaderKind}
    {hdr : RequestHeader} (hk : σ'.issued = (k, hdr) :: σ.issued) :
    hdr.Index = σ.sess.lastIndex := by
  rcases step_cases h with ⟨n, -, rfl⟩ | ⟨i, r, ref, todo, -, -, -, rfl⟩ | ⟨i, r, -, -, -, rfl⟩ |
    ⟨n, -, rfl⟩ | ⟨n, -, -, rfl⟩ | ⟨n, -, -, rfl⟩ | ⟨k, req, resp, -, -, -, rfl⟩ |
    ⟨req, resp, -, -, -, rfl⟩ | ⟨ref, -, -, -, rfl⟩ | ⟨ref, resp, -, -, rfl⟩ <;>
    simp_all [Session.getQueryHeader] <;>
    exact hk.2 ▸ rfl

section LastIndex
variable {sid : UInt64} (s : Session) (req : RequestHeader) (resp : ResponseHeader)

/-- The write-locked update never leaves `lastIndex` below the reply's index. -/
theorem index_le_recordUpdate_lastIndex : resp.Index ≤ (s.recordUpdate req resp).lastIndex := by
  simp only [Session.recordUpdate_lastIndex, gt_iff_lt]
  split_ifs with h₁ h₂ <;> simp only [u64_le_iff, u64_lt_iff] at * <;> omega

/-- A reply of session `sid` leaves the session id at `sid`. -/
theorem recordUpdate_SessionID_eq (hs : s.SessionID ≤ sid) (hr : resp.SessionID = sid) :
    (s.recordUpdate req resp).SessionID = sid := by
  subst hr
  simp only [Session.recordUpdate_SessionID, gt_iff_lt]
  split_ifs with h
  · rfl
  · exact UInt64.ext (by simp only [u64_le_iff, u64_lt_iff] at *; omega)

/-- A reply of session `sid` raises `lastIndex`, provided nothing raised it before the session
id was set. -/
theorem lastIndex_le_recordUpdate (hs : s.SessionID ≤ sid)
    (hfresh : s.SessionID < sid → s.lastIndex = 0) (hr : resp.SessionID = sid) :
    s.lastIndex ≤ (s.recordUpdate req resp).lastIndex := by
  subst hr
  simp only [Session.recordUpdate_lastIndex, gt_iff_lt]
  by_cases h₁ : s.SessionID < resp.SessionID
  · rw [hfresh h₁]
    exact u64_le_iff.2 (Nat.zero_le _)
  · rw [if_neg h₁]
    split_ifs <;> simp only [u64_le_iff, u64_lt_iff] at * <;> omega

end LastIndex

/-- What holds while every reply carries the session id `sid`. -/
structure LastIndexInv (sid : UInt64) (σ : Sys) : Prop where
  /-- The session id is at most `sid`. -/
  sessionID_le : σ.sess.SessionID ≤ sid
  /-- Until the session id is set, nothing raises `lastIndex`. -/
  fresh : σ.sess.SessionID < sid → σ.sess.lastIndex = 0
  /-- Every reply whose `recordResponse` returned has an index at most `lastIndex`. -/
  floor : ∀ r ∈ σ.returned, r.Index ≤ σ.sess.lastIndex

theorem LastIndexInv.init (sid : UInt64) (partition : GoInt) :
    LastIndexInv sid (Sys.init partition) where
  sessionID_le := u64_le_iff.2 (Nat.zero_le _)
  fresh _ := rfl
  floor r h := by simp [Sys.init] at h

/-- A step whose reply carries `sid` keeps the invariant and does not lower `lastIndex`. -/
theorem LastIndexInv.step {sid : UInt64} {σ σ' : Sys} {a : Action} (hi : LastIndexInv sid σ)
    (ha : ∀ r, a.reply? = some r → r.SessionID = sid) (h : step σ a = some σ') :
    LastIndexInv sid σ' ∧ σ.sess.lastIndex ≤ σ'.sess.lastIndex := by
  have hfloor : σ.sess.lastIndex ≤ σ'.sess.lastIndex → (a.updated? ≠ none →
      ∀ r, a.reply? = some r → r.Index ≤ σ'.sess.lastIndex) →
      ∀ r ∈ σ'.returned, r.Index ≤ σ'.sess.lastIndex := fun hle hupd r hr => by
    rcases step_returned h hr with hr | ⟨hra, hle' | hu⟩
    · exact UInt64.le_trans (hi.floor r hr) hle
    · exact UInt64.le_trans hle' hle
    · exact hupd hu r hra
  rcases step_sess_counters h with ⟨req, resp, rfl, -, hs⟩ | ⟨hnone, hsid, hli, -⟩
  · have hr := ha resp rfl
    have hmono : σ.sess.lastIndex ≤ σ'.sess.lastIndex :=
      hs ▸ lastIndex_le_recordUpdate _ req resp hi.sessionID_le hi.fresh hr
    have hsid : σ'.sess.SessionID = sid :=
      hs ▸ recordUpdate_SessionID_eq _ req resp hi.sessionID_le hr
    refine ⟨⟨by rw [hsid]; exact UInt64.le_refl _,
      fun hlt => absurd hlt (by rw [hsid, u64_lt_iff]; exact Nat.lt_irrefl _),
      hfloor hmono fun _ r hra => ?_⟩, hmono⟩
    simp only [Action.reply?, Option.some.injEq] at hra
    subst hra
    rw [hs]
    exact index_le_recordUpdate_lastIndex _ req _
  · have hmono : σ.sess.lastIndex ≤ σ'.sess.lastIndex := hli ▸ UInt64.le_refl _
    exact ⟨⟨hsid ▸ hi.sessionID_le, fun hlt => hli ▸ hi.fresh (hsid ▸ hlt),
      hfloor hmono fun hu => absurd hnone hu⟩, hmono⟩

theorem ReachableWith.lastIndexInv {sid : UInt64} {σ : Sys}
    (hσ : ReachableWith (fun r => r.SessionID = sid) σ) : LastIndexInv sid σ := by
  induction hσ with
  | init partition => exact LastIndexInv.init sid partition
  | step a _ ha h ih => exact (ih.step ha h).1

/-- `open` records session id `1` at index `10`; a command header follows. -/
def openThenCommand : List Action :=
  let h₀ := (Session.init 0).getState none
  let r : ResponseHeader := ⟨1, 10, 0, .OK, .RESPONSE, ""⟩
  [.getState none, .getStateReturn 0, .recordCheck .state h₀ r, .recordUpdate h₀ r,
    .nextCommandHeader probeName]

/-- While every reply carries one session id: no step lowers `lastIndex`; every reply whose
`recordResponse` returned has an index at most `lastIndex`; and every header built from then on
carries an index at least that reply's. -/
theorem lastIndex_never_decreases {sid : UInt64} {σ : Sys}
    (hσ : ReachableWith (fun r => r.SessionID = sid) σ) :
    (∀ a σ', (∀ r, a.reply? = some r → r.SessionID = sid) → step σ a = some σ' →
      σ.sess.lastIndex ≤ σ'.sess.lastIndex) ∧
    (∀ r ∈ σ.returned, r.Index ≤ σ.sess.lastIndex) ∧
    (∀ r ∈ σ.returned, ∀ a σ' k hdr, step σ a = some σ' → σ'.issued = (k, hdr) :: σ.issued →
      r.Index ≤ hdr.Index) := by
  have hi := ReachableWith.lastIndexInv hσ
  exact ⟨fun a σ' ha h => (hi.step ha h).2, hi.floor,
    fun r hr a σ' k hdr h hk => step_issued_Index h hk ▸ hi.floor r hr⟩

theorem lastIndex_never_decreases_openThenCommand : ∃ σ,
    exec (Sys.init 0) openThenCommand = some σ ∧ ReachableWith (fun r => r.SessionID = 1) σ ∧
    σ.sess.lastIndex = 10 ∧ σ.returned ≠ [] ∧
    (∀ a σ', (∀ r, a.reply? = some r → r.SessionID = 1) → step σ a = some σ' →
      σ.sess.lastIndex ≤ σ'.sess.lastIndex) ∧
    (∀ r ∈ σ.returned, r.Index ≤ σ.sess.lastIndex) ∧
    (∀ r ∈ σ.returned, ∀ a σ' k hdr, step σ a = some σ' → σ'.issued = (k, hdr) :: σ.issued →
      r.Index ≤ hdr.Index) := by
  obtain ⟨σ, hx⟩ : ∃ σ, exec (Sys.init 0) openThenCommand = some σ := ⟨_, rfl⟩
  have hr : ReachableWith (fun r => r.SessionID = 1) σ :=
    reachableWith_exec (.init 0) (by
      simp only [openThenCommand, List.mem_cons, List.mem_singleton, List.not_mem_nil, or_false]
      rintro a (rfl | rfl | rfl | rfl | rfl) r hr <;> cases hr <;> rfl) hx
  have hv : σ.sess.lastIndex = 10 ∧ σ.returned ≠ [] := by cases hx; exact ⟨rfl, by simp⟩
  exact ⟨σ, hx, hr, hv.1, hv.2, lastIndex_never_decreases hr⟩

/-- The state header `open` sends, and two replies to it from different session ids. -/
def twoSessionsReplies : RequestHeader × ResponseHeader × ResponseHeader :=
  ((Session.init 0).getState none, ⟨2, 6, 0, .OK, .RESPONSE, ""⟩, ⟨1, 100, 0, .OK, .RESPONSE, ""⟩)

/-- Both replies pass the read-locked check; the one of session `1` is recorded first and
raises `lastIndex` to `100`. -/
def twoSessionsRun : List Action :=
  let (h₀, rA, rB) := twoSessionsReplies
  [.getState none, .getStateReturn 0, .recordCheck .state h₀ rA, .recordCheck .state h₀ rB,
    .recordUpdate h₀ rB]

/-- The reply of session `2` then re-initialises the session and pulls `lastIndex` back to `6`,
below the index of a reply whose `recordResponse` already returned. -/
theorem lastIndex_pulled_back : ∃ σ σ' a, Reachable σ ∧ step σ a = some σ' ∧
    σ'.sess.lastIndex < σ.sess.lastIndex ∧ ∃ r ∈ σ.returned, σ'.sess.lastIndex < r.Index := by
  obtain ⟨σ, σ', hσ, hσ', hv⟩ : ∃ σ σ', exec (Sys.init 0) twoSessionsRun = some σ ∧
      step σ (.recordUpdate twoSessionsReplies.1 twoSessionsReplies.2.1) = some σ' ∧
      (σ.sess.lastIndex, σ'.sess.lastIndex, σ.returned) =
        ((100 : UInt64), (6 : UInt64), [twoSessionsReplies.2.2]) := ⟨_, _, rfl, rfl, rfl⟩
  simp only [Prod.mk.injEq] at hv
  obtain ⟨h100, h6, hret⟩ := hv
  exact ⟨σ, σ', _, reachableWith_exec (.init 0) (by simp) hσ, hσ', by rw [h100, h6]; decide,
    twoSessionsReplies.2.2, by simp [hret], by rw [h6]; decide⟩

/-! ## `recordResponse` against the specification -/

/-- `record_response` as the specification states it: three updates in turn, each atomic, with
no read-locked check of the index. -/
def recordResponseSpec (s : Session) (requestHeader : RequestHeader)
    (responseHeader : ResponseHeader) : Session :=
  let s₁ := if responseHeader.SessionID > s.SessionID then
    { s with SessionID := responseHeader.SessionID, lastIndex := responseHeader.SessionID } else s
  let s₂ := if requestHeader.RequestID > s₁.responseID then
    { s₁ with responseID := requestHeader.RequestID } else s₁
  if responseHeader.Index > s₂.lastIndex then { s₂ with lastIndex := responseHeader.Index } else s₂

/-- The command's header, and an `OK` reply to it at the index the session already has. -/
def commandAtSameIndex : RequestHeader × ResponseHeader :=
  (⟨some probeName, 0, 1, 10, 1, []⟩, ⟨1, 10, 0, .OK, .RESPONSE, ""⟩)

theorem recordResponse_drops_responseID : ∃ σ, Reachable σ ∧
    (.command, commandAtSameIndex.1) ∈ σ.issued ∧ commandAtSameIndex.2.Status = .OK ∧
    (σ.sess.recordResponse commandAtSameIndex.1 commandAtSameIndex.2).responseID = 0 ∧
    (recordResponseSpec σ.sess commandAtSameIndex.1 commandAtSameIndex.2).responseID = 1 := by
  obtain ⟨σ, hσ, hv⟩ : ∃ σ, exec (Sys.init 0) openThenCommand = some σ ∧
      (decide ((.command, commandAtSameIndex.1) ∈ σ.issued),
        (σ.sess.recordResponse commandAtSameIndex.1 commandAtSameIndex.2).responseID,
        (recordResponseSpec σ.sess commandAtSameIndex.1 commandAtSameIndex.2).responseID) =
        (true, (0 : UInt64), (1 : UInt64)) := ⟨_, rfl, rfl⟩
  simp only [Prod.mk.injEq, decide_eq_true_eq] at hv
  exact ⟨σ, reachableWith_exec (.init 0) (by simp) hσ, hv.1, rfl, hv.2⟩

end AtomixClient
