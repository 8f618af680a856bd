import AtomixClient.ChainDelivery
import AtomixClient.Joint
import AtomixClient.StateHeaders

/-!
# What state headers acknowledge of a command stream

Every state header (`getState`: `open`, `keepAlive`, `close`, `doPrimitive`) lists, for each
stream in the session's map whose id is at most `responseID`, the stream's id and the
`responseID` of its `*Stream` object. For a command stream that object is advanced only by its
readers' `Serialize`, so the header tells the server how far the readers got.

* `HeapInv`: while `requestID` has not wrapped, distinct stream objects carry distinct ids, so a
  stream id in the map names the one object it was registered with (`state_header_stale_and_reused`
  is a run past the wrap where this fails);
* `Reaches.joint`: a run of a stream's readers alone is a run of the joint system, with no
  request id handed out;
* `state_headers_acknowledge_prefix`: over every run of a command stream's readers, a state
  header names the stream whenever it is still in the map with an id at most `responseID`, and
  only with the length of the longest run `1, 2, ..., k` of response ids passed to `Serialize` in
  order: exactly the replies the readers accepted.
-/

namespace AtomixClient

open Sys

variable {α : Type}

/-! ## Stream objects carry distinct ids -/

/-- The stream objects, in the order they were allocated, carry increasing ids. -/
structure HeapInv (σ : Sys) : Prop where
  increasing : ∀ r₁ r₂, r₁ < r₂ → r₂ < σ.sess.nextRef → (σ.sess.heap r₁).ID < (σ.sess.heap r₂).ID

theorem HeapInv.init (partition : GoInt) : HeapInv (Sys.init partition) :=
  ⟨fun _ _ _ h => absurd h (Nat.not_lt_zero _)⟩

/-- Two stream objects with one id are the same object. -/
theorem HeapInv.eq_of_ID_eq {σ : Sys} (hi : HeapInv σ) {r₁ r₂ : Nat} (h₁ : r₁ < σ.sess.nextRef)
    (h₂ : r₂ < σ.sess.nextRef) (he : (σ.sess.heap r₁).ID = (σ.sess.heap r₂).ID) : r₁ = r₂ := by
  rcases Nat.lt_trichotomy r₁ r₂ with h | h | h
  · exact absurd (congrArg UInt64.toNat he) (Nat.ne_of_lt (u64_lt_iff.1 (hi.increasing _ _ h h₂)))
  · exact h
  · exact absurd (congrArg UInt64.toNat he.symm)
      (Nat.ne_of_lt (u64_lt_iff.1 (hi.increasing _ _ h h₁)))

/-- A step that allocates no stream object keeps the ids of the old ones, so the invariant. -/
theorem HeapInv.of_frame {σ σ' : Sys} (hi : HeapInv σ) (hn : σ'.sess.nextRef = σ.sess.nextRef)
    (hid : ∀ ref < σ.sess.nextRef, (σ'.sess.heap ref).ID = (σ.sess.heap ref).ID) : HeapInv σ' :=
  ⟨fun r₁ r₂ h h₂ => by
    rw [hn] at h₂
    rw [hid _ h₂, hid _ (h.trans h₂)]
    exact hi.increasing _ _ h h₂⟩

/-- `nextStreamHeader` gives the new object the id after every id handed out so far. -/
theorem HeapInv.nextStream {σ : Sys} (hi : HeapInv σ) (hc : CounterInv σ) (n : PrimitiveName)
    (hlen : (σ.nextStream n).allocated.length < 2 ^ 64 - 1) : HeapInv (σ.nextStream n) := by
  simp only [nextStream_allocated, List.length_append, List.length_singleton] at hlen
  have hnext := (hc.next_id hlen).1
  have hlt : ∀ ref < σ.sess.nextRef, (σ.sess.heap ref).ID < σ.sess.requestID + 1 := fun ref hr => by
    have := hc.heap_le ref hr
    simp only [u64_le_iff, u64_lt_iff, hnext, hc.requestID] at this ⊢
    omega
  refine ⟨fun r₁ r₂ h h₂ => ?_⟩
  simp only [nextStream_sess, Session.nextStreamHeader] at h₂ ⊢
  rw [Function.update_noteq (by omega)]
  rcases Nat.lt_succ_iff_lt_or_eq.1 h₂ with h₂ | rfl
  · rw [Function.update_noteq (by omega)]
    exact hi.increasing _ _ h h₂
  · rw [Function.update_same]
    exact hlt _ h

theorem HeapInv.step {σ σ' : Sys} {a : Action} (hi : HeapInv σ) (hc : CounterInv σ)
    (h : step σ a = some σ') (hlen : σ'.allocated.length < 2 ^ 64 - 1) : HeapInv σ' := by
  obtain ⟨-, -, -, hid⟩ := step_frame h
  rcases step_cases h with ⟨n, -, rfl⟩ | ⟨i, r, ref, todo, -, -, -, rfl⟩ | ⟨i, r, -, -, -, rfl⟩ |
    ⟨n, -, rfl⟩ | ⟨n, -, -, rfl⟩ | ⟨n, -, -, rfl⟩ | ⟨k, req, resp, -, -, -, rfl⟩ |
    ⟨req, resp, -, -, -, rfl⟩ | ⟨ref, -, -, -, rfl⟩ | ⟨ref, resp, -, -, rfl⟩
  · exact hi.of_frame rfl hid
  · exact hi.of_frame rfl hid
  · exact hi.of_frame rfl hid
  · exact hi.of_frame rfl hid
  · exact hi.of_frame rfl hid
  · exact hi.nextStream hc n hlen
  · exact hi.of_frame (by rw [check_sess]) hid
  · exact hi.of_frame (Session.recordUpdate_nextRef ..) hid
  · exact hi.of_frame rfl hid
  · exact hi.of_frame rfl hid

theorem ReachableWith.heapInv {Replies : ResponseHeader → Prop} {σ : Sys}
    (h : ReachableWith Replies σ) (hlen : σ.allocated.length < 2 ^ 64 - 1) : HeapInv σ := by
  induction h with
  | init p => exact HeapInv.init p
  | step _ hr _ hs ih =>
    have hlen' := lt_of_le_of_lt (step_allocated_length hs) hlen
    exact (ih hlen').step (hr.counterInv hlen') hs hlen

/-! ## Readers hand out no request id -/

/-- A run of a stream's readers alone, from a state where no `getState` holds the lock, is a run
of the joint system that hands out no request id. -/
theorem Reaches.joint {shape : Shape} {σ₀ : Sys} {c₀ c : Chain α} (hj : Joint shape σ₀ c₀)
    (hrd : σ₀.reading = []) (hc : Reaches shape c₀ c) :
    ∃ σ, Joint shape σ c ∧ σ.reading = [] ∧ σ.allocated = σ₀.allocated := by
  induction hc with
  | start => exact ⟨σ₀, hj, hrd, rfl⟩
  | @step c c' inp _ hs ih =>
    obtain ⟨σ, hjσ, hrdσ, hal⟩ := ih
    obtain ⟨σ', hx, ht', hiss, hrd'⟩ := hjσ.tracks.2.step_alone hrdσ hs
    have hc' : { c' with sess := σ'.sess } = c' := by rw [ht'.sess]
    exact ⟨σ', hc' ▸ .reader inp hjσ hs hx, hrd', by rw [← hal, Sys.allocated, Sys.allocated, hiss]⟩

/-! ## The acknowledgement in state headers -/

/-- Over a run of a command stream's readers, the stream object's `responseID` is the greedy
count of the response ids passed to `Serialize`, while that stays below `2^64 - 1`. -/
theorem Reaches.responseID_eq_greedyCount {s : Session} {name : PrimitiveName} {c₀ c : Chain α}
    (h₀ : (doCommandStream s name .opened).2 = .ok c₀) (hc : Reaches .command c₀ c)
    (hfew : greedyCount 0 (Stream.ids (c.serialized.map Prod.fst)) < 2 ^ 64 - 1) :
    (c.sess.heap c.stream).responseID.toNat =
      greedyCount 0 (Stream.ids (c.serialized.map Prod.fst)) := by
  simp only [doCommandStream, Except.ok.injEq] at h₀
  subst h₀
  have h0 : ((s.nextStreamHeader name).1.heap (s.nextStreamHeader name).2.1).responseID.toNat =
      0 := by
    simp [Session.nextStreamHeader]
  obtain ⟨-, h2, -⟩ := Stream.serializeAll_of_lt _ (c.serialized.map Prod.fst) (by rwa [h0])
  rw [h0] at h2
  rw [hc.deliveryInv.heap, h2]

/-- Over every run of a command stream's readers, opened on any reachable session while fewer
than `2^64 - 2` request ids have been handed out, and while the greedy count stays below
`2^64 - 1`: every state header names the stream only with the length `k` of the longest run
`1, ..., k` of response ids passed to `Serialize` in order, and names it whenever the stream is
still in the map with an id at most `responseID`. -/
theorem state_headers_acknowledge_prefix {σ₀ : Sys} (hσ₀ : Reachable σ₀)
    (hlen : σ₀.allocated.length + 1 < 2 ^ 64 - 1) (name : PrimitiveName) {c₀ c : Chain α}
    (h₀ : (doCommandStream σ₀.sess name .opened).2 = .ok c₀) (hc : Reaches .command c₀ c)
    (hfew : greedyCount 0 (Stream.ids (c.serialized.map Prod.fst)) < 2 ^ 64 - 1)
    (sname : Option PrimitiveName) :
    (∀ sh ∈ (c.sess.getState sname).Streams, sh.StreamID = (c.sess.heap c.stream).ID →
      sh.ResponseID.toNat = greedyCount 0 (Stream.ids (c.serialized.map Prod.fst))) ∧
    ((c.sess.heap c.stream).ID ∈ c.sess.streams →
      (c.sess.heap c.stream).ID ≤ c.sess.responseID →
      ∃ sh ∈ (c.sess.getState sname).Streams, sh.StreamID = (c.sess.heap c.stream).ID) := by
  obtain ⟨σ₁, hσ₁, hs₁, hrd₁, hal₁⟩ := hσ₀.drain
  rw [← hs₁] at h₀
  obtain ⟨σ, hj, -, hal⟩ := Reaches.joint (Joint.command name hσ₁ hrd₁ h₀) (by simpa using hrd₁) hc
  obtain ⟨hσ, ht⟩ := hj.tracks
  have hlenσ : σ.allocated.length < 2 ^ 64 - 1 := by simpa [hal, hal₁] using hlen
  have hs := ReachableWith.sessionInv hσ
  have hheap := ReachableWith.heapInv hσ hlenσ
  have href : c.stream < σ.sess.nextRef := ht.stream rfl
  have hresp := hc.responseID_eq_greedyCount h₀ hfew
  rw [← ht.sess] at hresp ⊢
  simp only [Session.getState, Session.header_Streams]
  refine ⟨fun sh hsh hid => ?_, fun hmem hle => ?_⟩
  · obtain ⟨k, ref, hl, -, rfl⟩ := (mem_getStreamHeaders hs sh).1 hsh
    obtain ⟨hk, hr⟩ := hs.keys k ref hl
    cases hheap.eq_of_ID_eq hr href (hk.trans hid)
    exact hresp
  · obtain ⟨ref, hl⟩ := Option.isSome_iff_exists.1 (AList.lookup_isSome.2 hmem)
    exact ⟨_, (mem_getStreamHeaders hs _).2 ⟨_, ref, hl, hle, rfl⟩, rfl⟩

theorem state_headers_acknowledge_prefix_first : ∃ c₀ c : Chain Unit,
    (doCommandStream (Sys.init 0).sess probeName .opened).2 = .ok c₀ ∧ Reaches .command c₀ c ∧
    (∀ sh ∈ (c.sess.getState none).Streams, sh.StreamID = (c.sess.heap c.stream).ID →
      sh.ResponseID.toNat = greedyCount 0 (Stream.ids (c.serialized.map Prod.fst))) ∧
    ((c.sess.heap c.stream).ID ∈ c.sess.streams →
      (c.sess.heap c.stream).ID ≤ c.sess.responseID →
      ∃ sh ∈ (c.sess.getState none).Streams, sh.StreamID = (c.sess.heap c.stream).ID) :=
  ⟨_, _, rfl, .step (.recv 0 firstStreamReply ()) .start rfl,
    state_headers_acknowledge_prefix (.init 0) (by decide) probeName rfl
      (.step (.recv 0 firstStreamReply ()) .start rfl) (by decide) none⟩

end AtomixClient
