import AtomixClient.Dispatch
import AtomixClient.Joint
import AtomixClient.StateHeaders
import AtomixClient.Watermarks

/-!
# Unary calls among the session's other callers

`Dispatch` models `doQuery`, `doCommand`, `doPrimitive` and `doSession` as functions of the
session and of the attempts their `doRequest` loop sees; `Interleaving` models the session under
concurrent callers, one critical section at a time. A unary call enters the session's critical
sections to build its header (for a state header, the whole loop of `getState`), and, when it
returns `OK`, in `recordResponse` (the read-locked check, then the write-locked update when the
check passes). The RPC and `Reconnect` are outside the session. `Call.sections` lists those
critical sections in order.

* `Call.exec_sections`: from every reachable state where no `getState` holds the lock, a call
  made alone runs its critical sections through and ends with the session `Dispatch` computes;
* `calls_read_your_writes`: over every sequence of calls made one after the other on a fresh
  session whose server answers with one session id, every header built after a call recorded a
  reply carries an index at least that reply's.
-/

namespace AtomixClient

variable {α : Type}

/-- One unary call of a session, with the attempts its `doRequest` loop sees. -/
inductive Call (α : Type) where
  /-- `doQuery`. -/
  | query (name : PrimitiveName) (attempts : List (Attempt α))
  /-- `doCommand`. -/
  | command (name : PrimitiveName) (attempts : List (Attempt α))
  /-- `doPrimitive`, and `doCreate` and `doClose` through it. -/
  | primitive (name : PrimitiveName) (attempts : List (Attempt α))
  /-- `doSession`: `open`, `keepAlive` and `close`. -/
  | session (attempts : List (Attempt α))

namespace Call

/-- The call, as `Dispatch` models it. -/
def run (s : Session) : Call α → Run α
  | .query name as => doQuery s name as
  | .command name as => doCommand s name as
  | .primitive name as => doPrimitive s name as
  | .session as => doSession s as

/-- The attempts the call's `doRequest` loop sees. -/
def attempts : Call α → List (Attempt α)
  | .query _ as | .command _ as | .primitive _ as | .session as => as

/-- The critical sections that build the call's header on `s`: one for a query or a command
header; for a state header, `getState` taking the read lock, one pass of its loop per stream, and
its return. -/
def headerSections (s : Session) : Call α → List Action
  | .query name _ => [.getQueryHeader name]
  | .command name _ => [.nextCommandHeader name]
  | .primitive name _ => getStateSections s (some name)
  | .session _ => getStateSections s none

/-- The builder of the call's header. -/
def kind : Call α → HeaderKind
  | .query .. => .query
  | .command .. => .command
  | .primitive .. | .session .. => .state

/-- The header the call sends, built on `s`. -/
def requestHeader (s : Session) : Call α → RequestHeader
  | .query name _ => s.getQueryHeader name
  | .command name _ => (s.nextCommandHeader name).2
  | .primitive name _ => s.getState (some name)
  | .session _ => s.getState none

/-- The session once the call's header is built. -/
def headerSession (s : Session) : Call α → Session
  | .command name _ => (s.nextCommandHeader name).1
  | _ => s

theorem run_eq (s : Session) (call : Call α) :
    call.run s = doRequest (call.requestHeader s) call.attempts (call.headerSession s) := by
  cases call <;> rfl

/-- Every header a call sends carries the session's `lastIndex`. -/
@[simp] theorem requestHeader_Index (s : Session) (call : Call α) :
    (call.requestHeader s).Index = s.lastIndex := by
  cases call <;> rfl

/-- With no `getState` holding the lock, building the header runs through: the header is issued,
the session is `headerSession`, and the lock is free again. -/
theorem exec_header {σ : Sys} (hrd : σ.reading = []) (call : Call α) :
    ∃ σ₁, exec σ (call.headerSections σ.sess) = some σ₁ ∧ σ₁.sess = call.headerSession σ.sess ∧
      (call.kind, call.requestHeader σ.sess) ∈ σ₁.issued ∧ σ₁.returned = σ.returned ∧
      σ₁.reading = [] := by
  have hstate (name : Option PrimitiveName) : exec σ (getStateSections σ.sess name) =
      some (σ.build .state (σ.sess.getState name) σ.sess) := by
    rw [← List.append_nil (getStateSections _ _), exec_getStateSections hrd]
    rfl
  cases call with
  | query name as => exact ⟨_, rfl, rfl, List.mem_cons_self _ _, rfl, hrd⟩
  | command name as =>
    exact ⟨σ.nextCommand name, by simp [headerSections, exec, step, hrd], rfl,
      List.mem_cons_self _ _, rfl, hrd⟩
  | primitive name as => exact ⟨_, hstate (some name), rfl, List.mem_cons_self _ _, rfl, hrd⟩
  | session as => exact ⟨_, hstate none, rfl, List.mem_cons_self _ _, rfl, hrd⟩

theorem getStateSections_reply? {s : Session} {name : Option PrimitiveName} {a : Action}
    (ha : a ∈ getStateSections s name) : a.reply? = none := by
  simp only [getStateSections, List.cons_append, List.mem_cons, List.mem_append, List.mem_map,
    List.mem_singleton, List.not_mem_nil, or_false] at ha
  rcases ha with rfl | ⟨_, -, rfl⟩ | rfl <;> rfl

/-- Building a header records no reply. -/
theorem headerSections_reply? (s : Session) (call : Call α) :
    ∀ a ∈ call.headerSections s, a.reply? = none := by
  intro a ha
  cases call with
  | query => rw [List.mem_singleton.1 ha]; rfl
  | command => rw [List.mem_singleton.1 ha]; rfl
  | primitive => exact getStateSections_reply? ha
  | session => exact getStateSections_reply? ha

end Call

/-- `recordResponse` as critical sections run one after the other: the read-locked check, then
the write-locked update when the check passes. -/
def recordSections (s : Session) (kind : HeaderKind) (req : RequestHeader)
    (resp : ResponseHeader) : List Action :=
  .recordCheck kind req resp :: if s.recordCheck resp then [.recordUpdate req resp] else []

/-- The critical sections of an effect of `doRequest`: only `recordResponse` enters the lock. -/
def Effect.sections (s : Session) (kind : HeaderKind) : Effect → List Action
  | .record req resp => recordSections s kind req resp
  | _ => []

/-- The critical sections a call on `s` enters, in order: its header's, then its effects'. -/
def Call.sections (s : Session) (call : Call α) : List Action :=
  call.headerSections s ++
    (call.run s).effects.flatMap (Effect.sections (call.headerSession s) call.kind)

/-- Calls made one after the other on a session: the session after the last. -/
def runCalls (s : Session) : List (Call α) → Session
  | [] => s
  | call :: calls => runCalls (call.run s).session calls

/-! ## A call's critical sections -/

theorem exec_recordSections {σ : Sys} (resp : ResponseHeader) (as : List Action)
    {kind : HeaderKind} {req : RequestHeader} (hk : (kind, req) ∈ σ.issued)
    (hok : resp.Status = .OK) (hrd : σ.reading = []) :
    exec σ (recordSections σ.sess kind req resp ++ as) = exec (σ.record kind req resp) as := by
  have hcheck : step σ (.recordCheck kind req resp) = some (σ.check kind req resp) :=
    if_pos ⟨hk, hok⟩
  unfold recordSections Sys.record
  split
  next hc =>
    have hupdate : step (σ.check kind req resp) (.recordUpdate req resp) =
        some ((σ.check kind req resp).update req resp) :=
      if_pos ⟨by simpa using hrd, by simp [Sys.check, hc]⟩
    rw [List.cons_append, exec, hcheck, Option.some_bind, List.singleton_append, exec, hupdate,
      Option.some_bind]
  next => rw [List.cons_append, exec, hcheck, Option.some_bind, List.nil_append]

@[simp] theorem Sys.record_returned (σ : Sys) (kind : HeaderKind) (req : RequestHeader)
    (resp : ResponseHeader) : (σ.record kind req resp).returned = resp :: σ.returned := by
  unfold Sys.record Sys.check
  split <;> simp [*, Sys.update]

theorem mem_recordSections_reply? {s : Session} {kind : HeaderKind} {req : RequestHeader}
    {resp : ResponseHeader} {a : Action} (ha : a ∈ recordSections s kind req resp) :
    a.reply? = some resp := by
  unfold recordSections at ha
  split at ha <;> simp only [List.mem_cons, List.mem_singleton, List.not_mem_nil, or_false] at ha <;>
    rcases ha with rfl | rfl <;> rfl

theorem flatMap_sections_filter (s : Session) (kind : HeaderKind) (l : List Effect) :
    l.flatMap (Effect.sections s kind) =
      (l.filter Effect.isRecord).flatMap (Effect.sections s kind) := by
  induction l with
  | nil => rfl
  | cons e l ih => cases e <;> simp [Effect.sections, Effect.isRecord, ih]

theorem Attempt.okReply?_eq_some {a : Attempt α} {h : ResponseHeader} {r : α}
    (ha : a.okReply? = some (h, r)) : a = .reply h r ∧ h.Status = .OK := by
  cases a with
  | reply h' r' =>
    simp only [Attempt.okReply?, Option.ite_none_right_eq_some, Option.some.injEq,
      Prod.mk.injEq] at ha
    obtain ⟨hs, rfl, rfl⟩ := ha
    exact ⟨rfl, hs⟩
  | _ => cases ha

theorem mem_of_mem_seen {a : Attempt α} : ∀ {as : List (Attempt α)}, a ∈ seen as → a ∈ as
  | [], h => h
  | b :: bs, h => by
    unfold seen at h
    split at h
    · rcases List.mem_cons.1 h with rfl | h
      · exact List.mem_cons_self _ _
      · exact List.mem_cons_of_mem _ (mem_of_mem_seen h)
    · rcases List.mem_singleton.1 h with rfl
      exact List.mem_cons_self _ _

/-- The only reply a `doRequest` call records is the final attempt it sees, an `OK` reply. -/
theorem mem_seen_effects_record {req req' : RequestHeader} {h : ResponseHeader}
    {as : List (Attempt α)} (hm : Effect.record req' h ∈ (seen as).flatMap (Attempt.effects req)) :
    ∃ r, ((seen as).getLast?).bind Attempt.okReply? = some (h, r) := by
  have hf : Effect.record req' h ∈ List.filter Effect.isRecord _ := List.mem_filter.2 ⟨hm, rfl⟩
  rw [seen_filter_isRecord] at hf
  obtain ⟨⟨h', r⟩, hp, he⟩ := List.mem_map.1 hf
  cases (Effect.record.inj he).2
  exact ⟨r, Option.mem_toList.1 hp⟩

/-- A call's critical sections after its header: those of `recordResponse` on the final reply,
if it is `OK`. -/
theorem Call.sections_eq (s : Session) (call : Call α) :
    call.sections s = call.headerSections s ++
      match ((seen call.attempts).getLast?).bind Attempt.okReply? with
      | some (h, _) => recordSections (call.headerSession s) call.kind (call.requestHeader s) h
      | none => [] := by
  rw [Call.sections, Call.run_eq, doRequest_eq_seen, flatMap_sections_filter, seen_filter_isRecord]
  cases ((seen call.attempts).getLast?).bind Attempt.okReply? with
  | none => rfl
  | some p => simp [Effect.sections]

/-- From every state reached with replies in `Replies` where no `getState` holds the lock, a call
made alone whose replies are in `Replies` runs its critical sections through; they end with the
session the call computes, the lock free, and the reply it records among those whose
`recordResponse` returned. -/
theorem Call.exec_sections {Replies : ResponseHeader → Prop} {σ : Sys}
    (hσ : ReachableWith Replies σ) (hrd : σ.reading = []) (call : Call α)
    (hr : ∀ h r, Attempt.reply h r ∈ call.attempts → Replies h) :
    ∃ σ', exec σ (call.sections σ.sess) = some σ' ∧ σ'.sess = (call.run σ.sess).session ∧
      ReachableWith Replies σ' ∧ σ'.reading = [] ∧ σ.returned ⊆ σ'.returned ∧
      ∀ req h, Effect.record req h ∈ (call.run σ.sess).effects → h ∈ σ'.returned := by
  obtain ⟨σ₁, h₁, hs₁, hi₁, hret₁, hrd₁⟩ := call.exec_header hrd
  have hσ₁ : ReachableWith Replies σ₁ := reachableWith_exec hσ
    (fun a ha r hr => by rw [call.headerSections_reply? _ a ha] at hr; cases hr) h₁
  rw [Call.sections_eq, Call.run_eq, doRequest_eq_seen]
  dsimp only
  cases hok : ((seen call.attempts).getLast?).bind Attempt.okReply? with
  | none =>
    refine ⟨σ₁, by rwa [List.append_nil], hs₁, hσ₁, hrd₁, hret₁ ▸ List.Subset.refl _,
      fun req h hm => ?_⟩
    obtain ⟨r, hr⟩ := mem_seen_effects_record hm
    exact absurd (hok ▸ hr) (Option.some_ne_none _).symm
  | some p =>
    obtain ⟨h, r⟩ := p
    obtain ⟨a, ha, hokr⟩ := Option.bind_eq_some.1 hok
    obtain ⟨rfl, hst⟩ := Attempt.okReply?_eq_some hokr
    have hRep : Replies h := hr h r (mem_of_mem_seen (List.mem_of_getLast?_eq_some ha))
    have hexec : exec σ₁ (recordSections σ₁.sess call.kind (call.requestHeader σ.sess) h) =
        some (σ₁.record call.kind (call.requestHeader σ.sess) h) := by
      rw [← List.append_nil (recordSections _ _ _ _), exec_recordSections _ _ hi₁ hst hrd₁]
      rfl
    refine ⟨_, by rw [exec_append, h₁, Option.some_bind, ← hs₁, hexec], by simp [hs₁],
      reachableWith_exec hσ₁ (fun b hb r' hr' => ?_) hexec, by simp [hrd₁], ?_, fun req h' hm => ?_⟩
    · rw [mem_recordSections_reply? hb] at hr'
      exact Option.some.inj hr' ▸ hRep
    · simp [hret₁]
    · obtain ⟨r', hr'⟩ := mem_seen_effects_record hm
      cases (Prod.mk.inj (Option.some.inj (hok.symm.trans hr'))).1
      exact (Sys.record_returned ..) ▸ List.mem_cons_self _ _

/-! ## Calls one after the other -/

/-- A sequence of calls made one after the other, each with replies in `Replies`, is a run of `Sys`
that keeps every reply whose `recordResponse` returned. -/
theorem exec_runCalls {Replies : ResponseHeader → Prop} : ∀ (calls : List (Call α)) {σ : Sys},
    ReachableWith Replies σ → σ.reading = [] →
    (∀ c ∈ calls, ∀ h r, Attempt.reply h r ∈ c.attempts → Replies h) →
    ∃ σ', σ'.sess = runCalls σ.sess calls ∧ ReachableWith Replies σ' ∧ σ'.reading = [] ∧
      σ.returned ⊆ σ'.returned
  | [], σ, hσ, hrd, _ => ⟨σ, rfl, hσ, hrd, List.Subset.refl _⟩
  | call :: calls, σ, hσ, hrd, hr => by
    obtain ⟨σ₁, -, hs₁, hσ₁, hrd₁, hsub₁, -⟩ :=
      call.exec_sections hσ hrd (hr call (List.mem_cons_self _ _))
    obtain ⟨σ', hs', hσ', hrd', hsub'⟩ :=
      exec_runCalls calls hσ₁ hrd₁ fun c hc => hr c (List.mem_cons_of_mem _ hc)
    exact ⟨σ', by rw [hs', hs₁]; rfl, hσ', hrd', hsub₁.trans hsub'⟩

/-- Over every sequence of unary calls on a fresh session whose server answers with one session
id: once a call has recorded a reply, every header built later, by whichever call, carries an
index at least that reply's. -/
theorem calls_read_your_writes (partition : GoInt) (sid : UInt64) (before after : List (Call α))
    (call later : Call α)
    (hsid : ∀ c ∈ before ++ call :: after, ∀ h r, Attempt.reply h r ∈ c.attempts → h.SessionID = sid)
    {req : RequestHeader} {h : ResponseHeader}
    (hrec : Effect.record req h ∈ (call.run (runCalls (Session.init partition) before)).effects) :
    h.Index ≤ (later.requestHeader
      (runCalls (call.run (runCalls (Session.init partition) before)).session after)).Index := by
  obtain ⟨σ₁, hs₁, hσ₁, hrd₁, -⟩ := exec_runCalls before (.init partition) rfl
    fun c hc => hsid c (List.mem_append_left _ hc)
  obtain ⟨σ₂, -, hs₂, hσ₂, hrd₂, -, hret⟩ := call.exec_sections hσ₁ hrd₁ (hsid call (by simp))
  obtain ⟨σ₃, hs₃, hσ₃, -, hsub⟩ := exec_runCalls after hσ₂ hrd₂ fun c hc => hsid c (by simp [hc])
  have hs₁ : σ₁.sess = runCalls (Session.init partition) before := hs₁
  rw [← hs₁] at hrec ⊢
  rw [Call.requestHeader_Index, ← hs₂, ← hs₃]
  exact hσ₃.lastIndexInv.floor h (hsub (hret req h hrec))

theorem calls_read_your_writes_probe :
    probeReply.Index ≤ ((Call.query probeName [] : Call Unit).requestHeader
      (runCalls ((Call.command probeName [.reply probeReply ()] : Call Unit).run
        (runCalls (Session.init 0) ([] : List (Call Unit)))).session ([] : List (Call Unit)))).Index :=
  calls_read_your_writes 0 0 [] [] (.command probeName [.reply probeReply ()])
    (.query probeName []) (by simp [Call.attempts, probeReply]) (.tail _ (.head _))

end AtomixClient
