import AtomixClient.Invariants

/-!
# Request ids

What the two invariants of `Invariants` give a caller of a concurrently used session:

* `request_ids_consistent`: while `requestID` has not wrapped, the headers `nextCommandHeader`
  and `nextStreamHeader` returned carry the ids `1, 2, ..., requestID`, in the order they were
  built, once each; every header carries an id at most `requestID`; the stream map binds each id
  to the stream with that id, and the next stream id is free;
* `mem_getStreamHeaders`: run without interleaving, `getStreamHeaders` lists the header of each
  map entry with id at most `responseID`;
* `Sys.commands`: the runs of `nextCommandHeader` alone, which take `requestID` anywhere, past
  its wrap included.
-/

namespace AtomixClient

open Sys

/-- The primitive name the runs below use. -/
def probeName : PrimitiveName := ⟨"c", "d"⟩

/-- An `OK` reply of session `0` at index `1`. -/
def probeReply : ResponseHeader := ⟨0, 1, 0, .OK, .RESPONSE, ""⟩

/-- A command header, a query header and a stream header, built one after the other. -/
def twoWrites : List Action :=
  [.nextCommandHeader probeName, .getQueryHeader probeName, .nextStreamHeader probeName]

/-- While fewer than `2^64 - 1` ids have been handed out, in every reachable state: the headers
`nextCommandHeader` and `nextStreamHeader` returned carry the request ids `1, ..., requestID`,
in the order they were built, so each once; every header built carries a request id at most
`requestID`, and so does `responseID`; a set session id is at most `lastIndex`; the map binds
every key `k ≤ requestID` to the stream with id `k`; and `requestID + 1`, the next stream id, is
not registered. -/
theorem request_ids_consistent {σ : Sys} (hσ : Reachable σ)
    (hfew : (σ.issued.filter fun p => p.1.isWrite).length < 2 ^ 64 - 1) :
    ((σ.issued.filter fun p => p.1.isWrite).map fun p => p.2.RequestID.toNat).reverse =
      List.range' 1 σ.sess.requestID.toNat ∧
    ((σ.issued.filter fun p => p.1.isWrite).map fun p => p.2.RequestID).Nodup ∧
    (∀ p ∈ σ.issued, p.2.RequestID ≤ σ.sess.requestID) ∧
    σ.sess.responseID ≤ σ.sess.requestID ∧
    (σ.sess.SessionID ≠ 0 → σ.sess.SessionID ≤ σ.sess.lastIndex) ∧
    (∀ k ref, σ.sess.streams.lookup k = some ref →
      (σ.sess.heap ref).ID = k ∧ k ≤ σ.sess.requestID) ∧
    σ.sess.requestID + 1 ∉ σ.sess.streams := by
  have hlen : σ.allocated.length = (σ.issued.filter fun p => p.1.isWrite).length := by
    simp [Sys.allocated]
  have hs := ReachableWith.sessionInv hσ
  have hc := ReachableWith.counterInv hσ (hlen ▸ hfew)
  have hkeys : ∀ k ref, σ.sess.streams.lookup k = some ref →
      (σ.sess.heap ref).ID = k ∧ k ≤ σ.sess.requestID := fun k ref h =>
    ⟨(hs.keys k ref h).1, (hs.keys k ref h).1 ▸ hc.heap_le ref (hs.keys k ref h).2⟩
  have hmap : σ.allocated.map UInt64.toNat = List.range' 1 σ.sess.requestID.toNat := by
    rw [hc.requestID]; exact hc.allocated
  refine ⟨by simpa [Sys.allocated, List.map_reverse] using hmap,
    List.nodup_reverse.1 ((hmap ▸ List.nodup_range' 1 _).of_map _), hc.issued_le,
    hc.responseID_le, fun _ => hs.sessionID_le, hkeys, fun hmem => ?_⟩
  obtain ⟨ref, href⟩ := Option.isSome_iff_exists.1 (AList.lookup_isSome.2 hmem)
  have hle := (hkeys _ ref href).2
  rw [u64_le_iff, u64_toNat_add_one (by rw [hc.requestID, hlen]; omega)] at hle
  omega

theorem request_ids_consistent_twoWrites : ∃ σ, exec (Sys.init 0) twoWrites = some σ ∧
    Reachable σ ∧ (σ.issued.filter fun p => p.1.isWrite).length < 2 ^ 64 - 1 ∧
    ((σ.issued.filter fun p => p.1.isWrite).map fun p => p.2.RequestID.toNat).reverse =
      List.range' 1 σ.sess.requestID.toNat ∧
    ((σ.issued.filter fun p => p.1.isWrite).map fun p => p.2.RequestID).Nodup ∧
    (∀ p ∈ σ.issued, p.2.RequestID ≤ σ.sess.requestID) ∧
    σ.sess.responseID ≤ σ.sess.requestID ∧
    (σ.sess.SessionID ≠ 0 → σ.sess.SessionID ≤ σ.sess.lastIndex) ∧
    (∀ k ref, σ.sess.streams.lookup k = some ref →
      (σ.sess.heap ref).ID = k ∧ k ≤ σ.sess.requestID) ∧
    σ.sess.requestID + 1 ∉ σ.sess.streams := by
  obtain ⟨σ, hx⟩ : ∃ σ, exec (Sys.init 0) twoWrites = some σ := ⟨_, rfl⟩
  have hr : Reachable σ := reachableWith_exec (.init 0) (fun _ _ _ _ => trivial) hx
  have hlen : (σ.issued.filter fun p => p.1.isWrite).length = 2 := by
    cases hx; rfl
  exact ⟨σ, hx, hr, by omega, request_ids_consistent hr (by omega)⟩

/-! ## The stream headers of a session -/

/-- Run without interleaving, `getStreamHeaders` lists the header of each map entry whose id is
at most `responseID`. -/
theorem mem_getStreamHeaders {σ : Sys} (hs : SessionInv σ) (sh : StreamHeader) :
    sh ∈ σ.sess.getStreamHeaders ↔ ∃ k ref, σ.sess.streams.lookup k = some ref ∧
      k ≤ σ.sess.responseID ∧ sh = ⟨k, (σ.sess.heap ref).responseID⟩ := by
  simp only [Session.getStreamHeaders, Session.streamHeader?, List.mem_filterMap]
  constructor
  · rintro ⟨e, he, hf⟩
    have hl : σ.sess.streams.lookup e.1 = some e.2 := AList.mem_lookup_iff.2 he
    have hid := (hs.keys _ _ hl).1
    split at hf
    · cases hf
      exact ⟨e.1, e.2, hl, hid ▸ ‹_›, by simp [Stream.getHeader, hid]⟩
    · cases hf
  · rintro ⟨k, ref, hl, hk, rfl⟩
    have hid := (hs.keys _ _ hl).1
    exact ⟨⟨k, ref⟩, AList.mem_lookup_iff.1 hl, by simp [Stream.getHeader, hid, hk]⟩

/-! ## Past `2^64` request ids -/

/-- `n` calls of `nextCommandHeader` in a row. -/
def Sys.commands (σ : Sys) (name : PrimitiveName) : Nat → Sys
  | 0 => σ
  | n + 1 => (σ.commands name n).nextCommand name

theorem Sys.commands_pending (σ : Sys) (name : PrimitiveName) (n : Nat) :
    (σ.commands name n).pending = σ.pending := by
  induction n with
  | zero => rfl
  | succ n ih => exact ih

theorem Sys.commands_reading (σ : Sys) (name : PrimitiveName) (n : Nat) :
    (σ.commands name n).reading = σ.reading := by
  induction n with
  | zero => rfl
  | succ n ih => exact ih

theorem ReachableWith.commands {Replies : ResponseHeader → Prop} {σ : Sys}
    (h : ReachableWith Replies σ) (hr : σ.reading = []) (name : PrimitiveName) (n : Nat) :
    ReachableWith Replies (σ.commands name n) := by
  induction n with
  | zero => exact h
  | succ n ih =>
    exact .step (.nextCommandHeader name) ih (fun _ h => nomatch h)
      (if_pos ((Sys.commands_reading σ name n).trans hr))

end AtomixClient
