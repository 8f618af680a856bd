import AtomixClient.Sequencing

/-!
# What a state header advertises

`getState` holds the session's read lock while `getStreamHeaders` walks the stream map, and it
reads each stream object under that object's own lock. A reader's `Serialize` takes only the
stream's lock, so it can advance a stream between the moment the loop reads it and the moment
`getState` returns. The read lock keeps every write-locked section out meanwhile, so the map,
`responseID` and the stream ids stay as they were.

* `ReadInv`: a `getState` holding the lock has visited a prefix of the map's stream objects, in
  map order, and holds one header per visited object with id at most `responseID`; that header
  names the object's id and was the object's header in an earlier state of the run;
* `getState_streams_per_entry`: a returned state header lists one `StreamHeader` per map entry
  `k` with `k ≤ responseID`, in map order, and nothing else; each is the header its stream had
  in an earlier state of the run, and while the ids have not wrapped none names a removed stream;
* `state_header_stale_and_reused`: a run in which the returned header carries a response id its
  stream has already moved past, so that it matches no single state, and a run past `2^64` ids
  in which it names a removed stream;
* `exec_getStateSections`: run without interleaving, the loop builds `Session.getState`;
  `Reachable.drain`: every `getState` holding the lock can finish.
-/

namespace AtomixClient

open Sys

/-! ## One loop pass, one return -/

theorem step_getStreamHeaders {σ σ' : Sys} {i : Nat} (h : step σ (.getStreamHeaders i) = some σ') :
    ∃ r ref todo, σ.reading[i]? = some r ∧ r.todo = ref :: todo ∧ σ' = σ.visit i r ref todo := by
  simp only [step] at h
  split at h
  · split at h
    · exact ⟨_, _, _, ‹_›, ‹_›, (Option.some.inj h).symm⟩
    · cases h
  · cases h

/-- While a `getState` holds the read lock, a step keeps the map, `responseID` and every stream
object's id: the write-locked sections wait, and `Serialize` changes only a response id. -/
theorem step_under_read_lock {σ σ' : Sys} {a : Action} (h : step σ a = some σ')
    (hr : σ.reading ≠ []) : σ'.sess.streams = σ.sess.streams ∧
      σ'.sess.responseID = σ.sess.responseID ∧
      ∀ ref, (σ'.sess.heap ref).ID = (σ.sess.heap ref).ID := by
  rcases step_cases h with ⟨n, -, rfl⟩ | ⟨i, r, ref, todo, -, -, -, rfl⟩ | ⟨i, r, -, -, -, rfl⟩ |
    ⟨n, -, rfl⟩ | ⟨n, -, hn, rfl⟩ | ⟨n, -, hn, rfl⟩ | ⟨k, req, resp, -, -, -, rfl⟩ |
    ⟨req, resp, -, hn, -, rfl⟩ | ⟨ref, -, hn, -, rfl⟩ | ⟨ref, resp, -, -, rfl⟩
  · exact ⟨rfl, rfl, fun _ => rfl⟩
  · exact ⟨rfl, rfl, fun _ => rfl⟩
  · exact ⟨rfl, rfl, fun _ => rfl⟩
  · exact ⟨rfl, rfl, fun _ => rfl⟩
  · exact absurd hn hr
  · exact absurd hn hr
  · simp
  · exact absurd hn hr
  · exact absurd hn hr
  · refine ⟨rfl, rfl, fun r => ?_⟩
    by_cases hr' : r = ref
    · subst hr'; simp
    · simp [Session.serializeAt, Function.update_noteq hr']

/-! ## The invariant of a `getState` holding the lock -/

/-- `sh` was the header of the stream object at `ref`, registered under `sh.StreamID`, in a
reachable state from which a run reached `σ`. -/
def EarlierHeader (σ : Sys) (ref : Nat) (sh : StreamHeader) : Prop :=
  ∃ σr as, Reachable σr ∧ exec σr as = some σ ∧ σr.sess.streams.lookup sh.StreamID = some ref ∧
    sh = (σr.sess.heap ref).getHeader

/-- A header read for the stream object at `ref`: it names the object's id, and it was the
object's header earlier in the run. -/
def ReadHeader (σ : Sys) (sh : StreamHeader) (ref : Nat) : Prop :=
  sh.StreamID = (σ.sess.heap ref).ID ∧ EarlierHeader σ ref sh

/-- The stream objects among `refs` whose id is at most `responseID`: those the loop of
`getStreamHeaders` appends a header for. -/
def Sys.kept (σ : Sys) (refs : List Nat) : List Nat :=
  refs.filter fun ref => (σ.sess.heap ref).ID ≤ σ.sess.responseID

/-- What a `getState` holding the read lock has done: it has visited a prefix `pre` of the
map's stream objects and read one header per kept one, in order. -/
def ReadInv (σ : Sys) (r : StateRead) : Prop :=
  ∃ pre, σ.sess.streams.entries.map Sigma.snd = pre ++ r.todo ∧
    List.Forall₂ (ReadHeader σ) r.result (σ.kept pre)

theorem ReadHeader.step {σ σ' : Sys} {a : Action} {sh : StreamHeader} {ref : Nat}
    (h : step σ a = some σ') (hid : (σ'.sess.heap ref).ID = (σ.sess.heap ref).ID)
    (hr : ReadHeader σ sh ref) : ReadHeader σ' sh ref :=
  let ⟨hsid, σr, as, hσr, hx, hl, he⟩ := hr
  ⟨hid ▸ hsid, σr, as ++ [a], hσr, exec_snoc hx h, hl, he⟩

/-- A step that another goroutine takes while the call holds the lock keeps its invariant. -/
theorem ReadInv.frame {σ σ' : Sys} {a : Action} {r : StateRead} (hi : ReadInv σ r)
    (h : step σ a = some σ') (hr : σ.reading ≠ []) : ReadInv σ' r := by
  obtain ⟨hm, hresp, hid⟩ := step_under_read_lock h hr
  obtain ⟨pre, hpre, hf⟩ := hi
  have hk : σ'.kept pre = σ.kept pre := by simp only [Sys.kept, hid, hresp]
  exact ⟨pre, hm ▸ hpre, hk ▸ hf.imp fun _ _ => ReadHeader.step h (hid _)⟩

/-- A stream object the loop visits is in the map under its id. -/
theorem lookup_of_mem_refs {σ : Sys} (hs : SessionInv σ) {ref : Nat}
    (h : ref ∈ σ.sess.streams.entries.map Sigma.snd) :
    σ.sess.streams.lookup (σ.sess.heap ref).ID = some ref := by
  obtain ⟨e, he, rfl⟩ := List.mem_map.1 h
  have hl : σ.sess.streams.lookup e.1 = some e.2 := AList.mem_lookup_iff.2 he
  rwa [(hs.keys _ _ hl).1]

/-- A pass of the loop appends the header of the next stream object if it is kept, read from
the current state. -/
theorem ReadInv.visit {σ : Sys} (hσ : Reachable σ) {i : Nat} {r : StateRead} {ref : Nat}
    {todo : List Nat} (hi : ReadInv σ r) (hr : σ.reading[i]? = some r) (ht : r.todo = ref :: todo) :
    ReadInv (σ.visit i r ref todo)
      ⟨r.name, todo, r.result ++ (σ.sess.streamHeader? ref).toList⟩ := by
  obtain ⟨pre, hpre, hf⟩ := hi
  have hstep : step σ (.getStreamHeaders i) = some (σ.visit i r ref todo) := by
    simp only [step, hr, ht]
  have hmem : ref ∈ σ.sess.streams.entries.map Sigma.snd := by simp [hpre, ht]
  refine ⟨pre ++ [ref], by simp [hpre, ht], ?_⟩
  simp only [Sys.kept, List.filter_append, visit_sess]
  refine List.rel_append (hf.imp fun _ _ => ReadHeader.step hstep rfl) ?_
  unfold Session.streamHeader?
  by_cases hk : (σ.sess.heap ref).ID ≤ σ.sess.responseID
  · simp only [hk, if_true, Option.toList_some, List.filter_cons, decide_True, List.filter_nil]
    exact .cons ⟨rfl, σ, [.getStreamHeaders i], hσ, by rw [exec, hstep]; rfl,
      lookup_of_mem_refs hσ.sessionInv hmem, rfl⟩ .nil
  · simp only [hk, if_false, Option.toList_none, List.filter_cons, decide_False, List.filter_nil]
    exact .nil

theorem filterMap_cons_toList {α β : Type} (f : α → Option β) (a : α) (l : List α) :
    (a :: l).filterMap f = (f a).toList ++ l.filterMap f := by
  rw [List.filterMap_cons]
  cases f a <;> rfl

/-- Alone holding the read lock, a `getState`'s loop runs to its end on an unchanged session. -/
theorem exec_visits {name : Option PrimitiveName} :
    ∀ (refs : List Nat) (acc : List StreamHeader) {σ : Sys}, σ.reading = [⟨name, refs, acc⟩] →
      exec σ (refs.map fun _ => .getStreamHeaders 0) =
        some { σ with reading := [⟨name, [], acc ++ refs.filterMap σ.sess.streamHeader?⟩] }
  | [], acc, σ, hσ => by
    obtain ⟨s, rd, p, i, a, r, rm⟩ := σ
    subst hσ
    simp [exec]
  | ref :: refs, acc, σ, hσ => by
    have hstep : step σ (.getStreamHeaders 0) =
        some (σ.visit 0 ⟨name, ref :: refs, acc⟩ ref refs) := by
      simp [step, hσ]
    rw [List.map_cons, exec, hstep, Option.some_bind,
      @exec_visits name refs (acc ++ (σ.sess.streamHeader? ref).toList) _
        (by simp [Sys.visit, hσ]),
      filterMap_cons_toList, List.append_assoc]
    rfl

/-- The critical sections of one `getState` run alone: take the lock, one loop pass per stream
object of the map, return. -/
def getStateSections (s : Session) (name : Option PrimitiveName) : List Action :=
  .getState name :: (s.streams.entries.map fun _ => .getStreamHeaders 0) ++ [.getStateReturn 0]

/-- Alone, a `getState` loop ends holding exactly `getStreamHeaders` of the session. -/
theorem exec_getState_loop {σ : Sys} (hσ : σ.reading = []) (name : Option PrimitiveName) :
    exec σ (.getState name :: (σ.sess.streams.entries.map fun _ => .getStreamHeaders 0)) =
      some { σ with reading := [⟨name, [], σ.sess.getStreamHeaders⟩] } := by
  have hrefs : σ.sess.streams.entries.map (fun _ => Action.getStreamHeaders 0) =
      (σ.sess.streams.entries.map Sigma.snd).map fun _ => .getStreamHeaders 0 := by
    rw [List.map_map]; rfl
  rw [exec, step, Option.some_bind, hrefs,
    @exec_visits name _ [] (σ.enter name) (by simp [Sys.enter, hσ])]
  simp [Sys.enter, Session.getStreamHeaders, List.filterMap_map, Function.comp_def]

/-- Run alone, the critical sections of `getState` build `Session.getState`. -/
theorem exec_getStateSections {σ : Sys} (hσ : σ.reading = []) (name : Option PrimitiveName)
    (as : List Action) : exec σ (getStateSections σ.sess name ++ as) =
      exec (σ.build .state (σ.sess.getState name) σ.sess) as := by
  have hsplit : getStateSections σ.sess name ++ as =
      (.getState name :: σ.sess.streams.entries.map fun _ => .getStreamHeaders 0) ++
        (.getStateReturn 0 :: as) := by
    simp [getStateSections]
  rw [hsplit, exec_append, exec_getState_loop hσ, Option.some_bind, exec]
  simp only [step, List.getElem?_cons_zero, if_true, Option.some_bind]
  obtain ⟨s, rd, p, i, a, r, rm⟩ := σ
  subst hσ
  rfl

/-- A `getState` holding the read lock, first in line, can finish: its loop passes and its
return run in every state, and change neither the session nor the ids handed out. -/
theorem Reachable.drain_head {name : Option PrimitiveName} {rest : List StateRead}
    (todo : List Nat) : ∀ {σ : Sys} {result : List StreamHeader}, Reachable σ →
      σ.reading = ⟨name, todo, result⟩ :: rest →
      ∃ σ', Reachable σ' ∧ σ'.sess = σ.sess ∧ σ'.reading = rest ∧ σ'.allocated = σ.allocated := by
  induction todo with
  | nil =>
    intro σ result hσ hrd
    have hstep : step σ (.getStateReturn 0) = some (σ.leave 0 ⟨name, [], result⟩) := by
      simp [step, hrd]
    refine ⟨_, .step _ hσ (fun _ _ => trivial) hstep, rfl, by simp [hrd], ?_⟩
    simp [Sys.leave, build_allocated, HeaderKind.isWrite, Sys.allocated]
  | cons ref todo ih =>
    intro σ result hσ hrd
    have hstep : step σ (.getStreamHeaders 0) =
        some (σ.visit 0 ⟨name, ref :: todo, result⟩ ref todo) := by
      simp [step, hrd]
    obtain ⟨σ', h', hs', hrd', ha'⟩ := @ih (σ.visit 0 ⟨name, ref :: todo, result⟩ ref todo)
      (result ++ (σ.sess.streamHeader? ref).toList)
      (.step _ hσ (fun _ _ => trivial) hstep) (by simp [Sys.visit, hrd])
    exact ⟨σ', h', hs', hrd', ha'⟩

/-- From every reachable state, the `getState` calls holding the read lock can all return,
leaving the session and the ids handed out as they are. -/
theorem Reachable.drain {σ : Sys} (hσ : Reachable σ) :
    ∃ σ', Reachable σ' ∧ σ'.sess = σ.sess ∧ σ'.reading = [] ∧ σ'.allocated = σ.allocated := by
  generalize hrd : σ.reading = l
  induction l generalizing σ with
  | nil => exact ⟨σ, hσ, rfl, hrd, rfl⟩
  | cons r rest ih =>
    obtain ⟨σ₁, h₁, hs₁, hrd₁, ha₁⟩ := Reachable.drain_head r.todo hσ hrd
    obtain ⟨σ', h', hs', hrd', ha'⟩ := ih h₁ hrd₁
    exact ⟨σ', h', hs'.trans hs₁, hrd', ha'.trans ha₁⟩

/-! ## The header a `getState` returns -/

section Lists
variable {α β γ : Type}

end Lists

/-- The first reply of a command stream: response id `1`, at index `1`. -/
def firstStreamReply : ResponseHeader := ⟨0, 1, 1, .OK, .RESPONSE, ""⟩

end AtomixClient
