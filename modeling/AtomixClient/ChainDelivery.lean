import AtomixClient.ChainSafety
import AtomixClient.Serialize

/-!
# What a stream delivers

Every reader of a command stream passes the `OPEN_STREAM`, `CLOSE_STREAM` and `RESPONSE`/`OK`
replies it receives to `Stream.Serialize` on the one `*Stream` the chain shares, and sends the
response of an accepted `RESPONSE` on `responseCh`. `commandStep_delivery` says what one step
does to that; `DeliveryInv` is what a whole run keeps: the stream object is `serializeAll` over
every reply passed to it, in order, and the values sent are the responses of the accepted
`RESPONSE`s, in order.

* `commandStream_delivery`: with the greedy scan of `Serialize`, over every sequence of inputs
  and any number of failovers, the accepted replies carry the ids `1, ..., k` for the largest
  `k` such that `1, ..., k` occurs in order among the ids passed, and `responseID` ends at `k`,
  as long as `k < 2^64 - 1`;
* `commandStream_accepts_wrapped_id`: after `2^64` replies in order the counter wraps and a reply
  with id `0` is accepted.
-/

namespace AtomixClient

variable {α : Type}

open Chain

/-- What a command step does to the replies passed to `Serialize`, the accepted ones, the
values sent and the stream object: nothing, or one call of `Serialize` on a reply, whose
response is sent iff it is accepted and a `RESPONSE`. -/
theorem commandStep_delivery {c c' : Chain α} {inp : Input α}
    (h : commandStep c inp = some (.ok c')) :
    c'.stream = c.stream ∧
    ((c'.serialized = c.serialized ∧ c'.accepted = c.accepted ∧ c'.sent = c.sent ∧
      c'.sess.heap c.stream = c.sess.heap c.stream) ∨
    ∃ hdr r, c'.serialized = c.serialized ++ [(hdr, r)] ∧
      c'.sess.heap c.stream = ((c.sess.heap c.stream).Serialize hdr).2 ∧
      c'.accepted = (if ((c.sess.heap c.stream).Serialize hdr).1 then c.accepted ++ [(hdr, r)]
        else c.accepted) ∧
      c'.sent = (if ((c.sess.heap c.stream).Serialize hdr).1 ∧ hdr.Type = .RESPONSE then
        c.sent ++ [r] else c.sent)) := by
  cases inp with
  | recvError i =>
    simp only [commandStep] at h
    split at h
    · obtain ⟨-, rfl⟩ := commandStop_ok (Option.some.inj h)
      exact ⟨rfl, .inl ⟨rfl, rfl, rfl, rfl⟩⟩
    · cases h
  | recv i hdr r =>
    simp only [commandStep] at h
    split at h
    · replace h := Option.some.inj h
      unfold commandStreamRecv at h
      split at h <;> dsimp only at h
      · rename_i hT
        split at h
        · cases closeHandshake_ok h
          exact ⟨rfl, .inr ⟨hdr, r, by simp [hT]⟩⟩
        · cases h
          exact ⟨rfl, .inr ⟨hdr, r, by simp [hT]⟩⟩
      · rename_i hT
        split at h
        · obtain ⟨-, rfl⟩ := commandStop_ok h
          exact ⟨rfl, .inr ⟨hdr, r, by simp [hT]⟩⟩
        · cases h
          exact ⟨rfl, .inr ⟨hdr, r, by simp [hT]⟩⟩
      · rename_i hT
        split at h
        · split at h
          · rename_i hok
            cases send_ok h
            simp only [serialize_fst, record_sess, record_stream, Session.serializeAt_fst,
              Session.recordResponse_heap] at hok
            exact ⟨rfl, .inr ⟨hdr, r, by simp [hT, hok]⟩⟩
          · rename_i hok
            cases h
            simp only [serialize_fst, record_sess, record_stream, Session.serializeAt_fst,
              Session.recordResponse_heap] at hok
            exact ⟨rfl, .inr ⟨hdr, r, by simp [hT, hok]⟩⟩
        · cases h
          exact ⟨rfl, .inl ⟨rfl, rfl, rfl, rfl⟩⟩
        · obtain ⟨-, rfl⟩ := commandStop_ok h
          exact ⟨rfl, .inl ⟨rfl, rfl, rfl, by simp⟩⟩
    · cases h
  | reopen i o =>
    simp only [commandStep] at h
    split at h
    · replace h := Option.some.inj h
      cases o with
      | connectError =>
        obtain ⟨-, rfl⟩ := commandStop_ok h
        exact ⟨rfl, .inl ⟨rfl, rfl, rfl, by simp⟩⟩
      | openError =>
        obtain ⟨-, rfl⟩ := commandStop_ok h
        exact ⟨rfl, .inl ⟨rfl, rfl, rfl, by simp⟩⟩
      | opened =>
        cases h
        exact ⟨rfl, .inl ⟨rfl, rfl, rfl, rfl⟩⟩
    · cases h
  | cancel =>
    simp only [commandStep] at h
    split at h
    · cases h
    · cases h
      exact ⟨rfl, .inl ⟨rfl, rfl, rfl, by simp⟩⟩

/-! ## The invariant -/

/-- What every command chain keeps from its start, where the stream object was `st₀`: the
object is `Serialize` run over every reply passed to it, the accepted replies are those
`serializeAll` accepts, and the values sent are the responses of the accepted `RESPONSE`s. -/
structure DeliveryInv (st₀ : Stream) (c : Chain α) : Prop where
  heap : c.sess.heap c.stream = (Stream.serializeAll st₀ (c.serialized.map Prod.fst)).1
  accepted : c.accepted.map Prod.fst = (Stream.serializeAll st₀ (c.serialized.map Prod.fst)).2
  sent : c.sent = (c.accepted.filter fun p => p.1.Type = .RESPONSE).map Prod.snd

theorem Stream.serializeAll_snoc (st : Stream) (hs : List ResponseHeader) (h : ResponseHeader) :
    Stream.serializeAll st (hs ++ [h]) =
      ((((Stream.serializeAll st hs).1.Serialize h).2),
        (Stream.serializeAll st hs).2 ++
          if ((Stream.serializeAll st hs).1.Serialize h).1 then [h] else []) := by
  rw [Stream.serializeAll_append]
  simp only [Stream.serializeAll]

theorem DeliveryInv.step {st₀ : Stream} {c c' : Chain α} {inp : Input α} (hi : DeliveryInv st₀ c)
    (h : commandStep c inp = some (.ok c')) : DeliveryInv st₀ c' := by
  obtain ⟨hst, ⟨hs, ha, hsent, hheap⟩ | ⟨hdr, r, hs, hheap, ha, hsent⟩⟩ := commandStep_delivery h
  · exact ⟨by rw [hst, hheap, hs, hi.heap], by rw [ha, hs, hi.accepted], by rw [hsent, ha, hi.sent]⟩
  · have hsnoc := Stream.serializeAll_snoc st₀ (c.serialized.map Prod.fst) hdr
    rw [← hi.heap, ← hi.accepted] at hsnoc
    refine ⟨by rw [hst, hheap, hs, List.map_append, List.map_singleton, hsnoc], ?_, ?_⟩
    · rw [ha, hs, List.map_append, List.map_singleton, hsnoc]
      split <;> simp
    · rw [hsent, ha, hi.sent]
      split_ifs <;> simp_all

theorem Reaches.deliveryInv {s : Session} {ref : Nat} {hdr : RequestHeader} {c : Chain α}
    (h : Reaches .command (Chain.start s ref hdr) c) : DeliveryInv (s.heap ref) c := by
  induction h with
  | start => exact ⟨rfl, rfl, rfl⟩
  | step _ _ hs ih => exact ih.step hs

/-- Over every sequence of inputs to a command stream's readers, while the greedy count stays
below `2^64 - 1`: the accepted replies carry the response ids `1, ..., k`, in order, for the
largest `k` such that `1, ..., k` occurs in order among the ids passed to `Serialize`; the stream's
`responseID` is `k`; and the values sent on `responseCh` are the responses of the accepted
`RESPONSE`s, in the order they were accepted. -/
theorem commandStream_delivery (s : Session) (name : PrimitiveName) {c₀ c : Chain α}
    (h₀ : (doCommandStream s name .opened).2 = .ok c₀) (hc : Reaches .command c₀ c)
    (hfew : greedyCount 0 (Stream.ids (c.serialized.map Prod.fst)) < 2 ^ 64 - 1) :
    Stream.ids (c.accepted.map Prod.fst) =
        List.range' 1 (greedyCount 0 (Stream.ids (c.serialized.map Prod.fst))) ∧
      IsGreatest {m | PrefixRun m (Stream.ids (c.serialized.map Prod.fst))}
        (greedyCount 0 (Stream.ids (c.serialized.map Prod.fst))) ∧
      (c.sess.heap c.stream).responseID.toNat =
        greedyCount 0 (Stream.ids (c.serialized.map Prod.fst)) ∧
      c.sent = (c.accepted.filter fun p => p.1.Type = .RESPONSE).map Prod.snd := by
  simp only [doCommandStream, Except.ok.injEq] at h₀
  subst h₀
  have hi := hc.deliveryInv
  have h0 : ((s.nextStreamHeader name).1.heap (s.nextStreamHeader name).2.1).responseID.toNat =
      0 := by
    simp [Session.nextStreamHeader]
  obtain ⟨-, h2, h3⟩ := Stream.serializeAll_of_lt _ (c.serialized.map Prod.fst) (by rwa [h0])
  rw [h0] at h2 h3
  exact ⟨by rw [hi.accepted, h3, Nat.zero_add, Nat.sub_zero], greedyCount_isGreatest _,
    by rw [hi.heap, h2], hi.sent⟩

/-- An `OK` reply; `countingHeaders okReply n` are its copies with response ids `1, ..., n`. -/
def okReply : ResponseHeader := ⟨0, 0, 0, .OK, .RESPONSE, ""⟩

/-- The replies with response ids `2` and then `1`: only the second is accepted and delivered;
the first is dropped, not held back. -/
theorem commandStream_delivery_outOfOrder : ∃ c₀ c : Chain Unit,
    (doCommandStream (Session.init 0) ⟨"c", "d"⟩ .opened).2 = .ok c₀ ∧ Reaches .command c₀ c ∧
    Stream.ids (c.serialized.map Prod.fst) = [2, 1] ∧
    Stream.ids (c.accepted.map Prod.fst) = [1] ∧
    IsGreatest {m | PrefixRun m (Stream.ids (c.serialized.map Prod.fst))}
      (greedyCount 0 (Stream.ids (c.serialized.map Prod.fst))) ∧ c.sent = [()] := by
  let o := (Session.init 0).nextStreamHeader ⟨"c", "d"⟩
  have h₁ : Reaches .command (Chain.start o.1 o.2.1 o.2.2 : Chain Unit) _ :=
    .step (.recv 0 { okReply with ResponseID := 2 } ()) .start rfl
  have hc := Reaches.step (.recv 0 { okReply with ResponseID := 1 } ()) h₁ rfl
  obtain ⟨hacc, hgreat, -, hsent⟩ := commandStream_delivery (Session.init 0) ⟨"c", "d"⟩ rfl hc
    (by decide)
  refine ⟨_, _, rfl, hc, ?_, hacc.trans ?_, hgreat, hsent.trans ?_⟩ <;> decide

/-! ## Past `2^64` replies -/

/-- One `OK` reply in a running reader: `recordResponse`, `Serialize`, and a send if accepted. -/
theorem commandStep_okReply {c : Chain α} (hr : c.readers[0]? = some .receive)
    (hcl : c.responseClosed = false) {h : ResponseHeader} (hT : h.Type = .RESPONSE)
    (hS : h.Status = .OK) (r : α) :
    ∃ c', commandStep c (.recv 0 h r) = some (.ok c') ∧ c'.readers = c.readers ∧
      c'.responseClosed = false ∧ c'.serialized = c.serialized ++ [(h, r)] := by
  simp only [commandStep, hr, if_true, commandStreamRecv, hT, hS]
  split
  · rw [send_of_open _ _ (by simpa using hcl)]
    exact ⟨_, rfl, rfl, hcl, by simp⟩
  · exact ⟨_, rfl, rfl, hcl, by simp⟩

/-- A running reader passes a run of `OK` replies to `Serialize`, one after the other. -/
theorem Reaches.okReplies (r : α) : ∀ (hs : List ResponseHeader) {c₀ c : Chain α},
    Reaches .command c₀ c → c.readers[0]? = some .receive → c.responseClosed = false →
    (∀ h ∈ hs, h.Type = .RESPONSE ∧ h.Status = .OK) →
    ∃ c', Reaches .command c₀ c' ∧ c'.serialized = c.serialized ++ hs.map fun h => (h, r)
  | [], _, c, hc, _, _, _ => ⟨c, hc, by simp⟩
  | h :: hs, _, _, hc, hr, hcl, hok => by
    obtain ⟨hT, hS⟩ := hok h (List.mem_cons_self _ _)
    obtain ⟨c₁, hstep, hr₁, hcl₁, hs₁⟩ := commandStep_okReply hr hcl hT hS r
    obtain ⟨c', hc', hs'⟩ := Reaches.okReplies r hs (.step (.recv 0 h r) hc hstep) (hr₁ ▸ hr) hcl₁
      fun h' hh => hok h' (List.mem_cons_of_mem _ hh)
    exact ⟨c', hc', by rw [hs', hs₁]; simp⟩

/-- From a fresh command stream, a run of `OK` replies in its first reader is accepted as
`serializeAll` accepts it. -/
theorem okReplies_accepted (s : Session) (ref : Nat) (hdr : RequestHeader) (r : α)
    (hs : List ResponseHeader) (hok : ∀ h ∈ hs, h.Type = .RESPONSE ∧ h.Status = .OK) :
    ∃ c : Chain α, Reaches .command (Chain.start s ref hdr) c ∧
      c.accepted.map Prod.fst = (Stream.serializeAll (s.heap ref) hs).2 := by
  obtain ⟨c, hc, hser⟩ := Reaches.okReplies r hs
    (.start : Reaches .command (Chain.start s ref hdr) _) rfl rfl hok
  refine ⟨c, hc, ?_⟩
  rw [(Reaches.deliveryInv hc).accepted, hser]
  simp [Chain.start, Function.comp_def]

/-- After `2^64` in-order replies the stream's counter wraps, and `Serialize` accepts a reply
with response id `0`. -/
theorem commandStream_accepts_wrapped_id : ∃ (s : Session) (name : PrimitiveName)
    (c₀ c : Chain Unit), (doCommandStream s name .opened).2 = .ok c₀ ∧ Reaches .command c₀ c ∧
      ∃ p ∈ c.accepted, p.1.ResponseID = 0 := by
  have hok : ∀ h ∈ Stream.countingHeaders okReply (2 ^ 64),
      h.Type = .RESPONSE ∧ h.Status = .OK := fun h hh => by
    obtain ⟨i, -, rfl⟩ := List.mem_map.1 hh
    exact ⟨rfl, rfl⟩
  obtain ⟨c, hc, hacc⟩ := okReplies_accepted ((Session.init 0).nextStreamHeader ⟨"c", "d"⟩).1
    ((Session.init 0).nextStreamHeader ⟨"c", "d"⟩).2.1
    ((Session.init 0).nextStreamHeader ⟨"c", "d"⟩).2.2 () _ hok
  have hst : ((Session.init 0).nextStreamHeader ⟨"c", "d"⟩).1.heap
      ((Session.init 0).nextStreamHeader ⟨"c", "d"⟩).2.1 =
        { (⟨1, 0⟩ : Stream) with responseID := 0 } := rfl
  rw [hst, Stream.serializeAll_countingHeaders_accepted] at hacc
  have hlast := Stream.mem_countingHeaders okReply (2 ^ 64 - 1)
  rw [show 2 ^ 64 - 1 + 1 = 2 ^ 64 from rfl, ← hacc] at hlast
  obtain ⟨p, hp, hpeq⟩ := List.mem_map.1 hlast
  exact ⟨_, _, _, c, rfl, hc, p, hp, by rw [hpeq]; decide⟩

end AtomixClient
