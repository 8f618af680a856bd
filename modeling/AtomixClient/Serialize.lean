import AtomixClient.Session
import Mathlib.Order.Bounds.Basic

/-!
# `Stream.Serialize` over a sequence of replies

A command stream passes every `OPEN_STREAM`, `CLOSE_STREAM` and `RESPONSE`/`OK` header to
`Stream.Serialize`, which accepts a header iff its `ResponseID` is the stream's `responseID + 1`.
Over a whole sequence this is a greedy scan for the run `1, 2, 3, ...`:

* `greedyCount c ids` is that scan on `Nat`, started after `c`;
* `range'_sublist_iff_le_greedyCount` shows the scan is optimal: `c+1, ..., c+n` occurs as a
  subsequence of `ids` iff `c + n ≤ greedyCount c ids`;
* `serializeAll_of_lt` ties `Serialize` on `UInt64` to the scan for as long as the counter stays
  below `2^64 - 1`; `serializeAll_countingHeaders` runs it over `n` in-order replies for every
  `n`, past the wrap included.
-/

namespace AtomixClient

/-! ## The greedy scan on `Nat` -/

/-- The counter of the scan that accepts `c + 1`, then `c + 2`, and so on, through `ids`. -/
def greedyCount (c : Nat) : List Nat → Nat
  | [] => c
  | x :: xs => if x = c + 1 then greedyCount (c + 1) xs else greedyCount c xs

theorem le_greedyCount (c : Nat) (ids : List Nat) : c ≤ greedyCount c ids := by
  induction ids generalizing c with
  | nil => exact le_rfl
  | cons x xs ih =>
    unfold greedyCount
    split
    · exact (Nat.le_succ c).trans (ih _)
    · exact ih c

/-- The greedy scan finds the longest run `c+1, ..., c+n` that occurs in `ids` as a
subsequence. -/
theorem range'_sublist_iff_le_greedyCount (c n : Nat) (ids : List Nat) :
    (List.range' (c + 1) n).Sublist ids ↔ c + n ≤ greedyCount c ids := by
  induction ids generalizing c n with
  | nil => cases n <;> simp [greedyCount]
  | cons x xs ih =>
    cases n with
    | zero => simpa using le_greedyCount c (x :: xs)
    | succ n =>
      rw [List.range'_succ, List.sublist_cons_iff]
      unfold greedyCount
      split
      · subst x
        have key := ih (c + 1) n
        rw [show c + (n + 1) = c + 1 + n by omega, ← key]
        constructor
        · rintro (h | ⟨r, hr, h⟩)
          · exact (List.sublist_cons_self _ _).trans h
          · exact (List.cons.inj hr).2 ▸ h
        · exact fun h => .inr ⟨_, rfl, h⟩
      · rename_i hx
        rw [← ih c (n + 1), List.range'_succ]
        constructor
        · rintro (h | ⟨r, hr, _⟩)
          · exact h
          · exact absurd (List.cons.inj hr).1.symm hx
        · exact .inl

/-- `1, 2, ..., m` occurs, in this order, among the response ids `ids`. -/
def PrefixRun (m : Nat) (ids : List Nat) : Prop := (List.range' 1 m).Sublist ids

theorem prefixRun_iff (m : Nat) (ids : List Nat) : PrefixRun m ids ↔ m ≤ greedyCount 0 ids := by
  simpa using range'_sublist_iff_le_greedyCount 0 m ids

/-- `greedyCount 0 ids` is the largest `m` such that `1, ..., m` occurs in `ids`. -/
theorem greedyCount_isGreatest (ids : List Nat) :
    IsGreatest {m | PrefixRun m ids} (greedyCount 0 ids) :=
  ⟨(prefixRun_iff _ _).2 le_rfl, fun _ hm => (prefixRun_iff _ _).1 hm⟩

/-- Ids `1, 3, 2, 4, 3` in this order: `1`, `2` and the second `3` are accepted. -/
example : greedyCount 0 [1, 3, 2, 4, 3] = 3 := rfl

/-! ## `Serialize` on a sequence -/

namespace Stream

/-- Pass `headers` to `Serialize` in order: the stream afterwards, and the accepted headers. -/
def serializeAll (st : Stream) : List ResponseHeader → Stream × List ResponseHeader
  | [] => (st, [])
  | h :: hs =>
    let r := st.Serialize h
    let rest := serializeAll r.2 hs
    (rest.1, if r.1 then h :: rest.2 else rest.2)

/-- The response ids of `headers`, as numbers. -/
def ids (headers : List ResponseHeader) : List Nat := headers.map (·.ResponseID.toNat)

@[simp] theorem ids_nil : ids [] = [] := rfl
@[simp] theorem ids_cons (h : ResponseHeader) (hs : List ResponseHeader) :
    ids (h :: hs) = h.ResponseID.toNat :: ids hs := rfl

theorem serializeAll_append (st : Stream) (l₁ l₂ : List ResponseHeader) :
    serializeAll st (l₁ ++ l₂) =
      ((serializeAll (serializeAll st l₁).1 l₂).1,
        (serializeAll st l₁).2 ++ (serializeAll (serializeAll st l₁).1 l₂).2) := by
  induction l₁ generalizing st with
  | nil => rfl
  | cons h hs ih =>
    rw [List.cons_append]
    simp only [serializeAll]
    rw [ih]
    split <;> simp

/-- Below the top of `UInt64`, `Serialize` accepts exactly the id after the counter. -/
theorem Serialize_eq_of_lt (st : Stream) (h : ResponseHeader)
    (hlt : st.responseID.toNat < 2 ^ 64 - 1) :
    st.Serialize h = if h.ResponseID.toNat = st.responseID.toNat + 1 then
      (true, { st with responseID := st.responseID + 1 }) else (false, st) := by
  have hne : h.ResponseID = st.responseID + 1 ↔ h.ResponseID.toNat = st.responseID.toNat + 1 := by
    rw [← u64_toNat_add_one hlt]
    exact ⟨congrArg _, UInt64.ext⟩
  simp only [Serialize, hne]

/-- As long as the scan stays below `2^64 - 1`, `serializeAll` is the greedy scan: it keeps the
stream's id, ends at `greedyCount`, and accepts exactly the ids `c+1, ..., greedyCount c ids`. -/
theorem serializeAll_of_lt (st : Stream) (hs : List ResponseHeader)
    (hlt : greedyCount st.responseID.toNat (ids hs) < 2 ^ 64 - 1) :
    (serializeAll st hs).1.ID = st.ID ∧
    (serializeAll st hs).1.responseID.toNat = greedyCount st.responseID.toNat (ids hs) ∧
    ids (serializeAll st hs).2 = List.range' (st.responseID.toNat + 1)
      (greedyCount st.responseID.toNat (ids hs) - st.responseID.toNat) := by
  induction hs generalizing st with
  | nil => simp [serializeAll, greedyCount]
  | cons h hs ih =>
    rw [ids_cons, greedyCount] at hlt ⊢
    simp only [serializeAll]
    by_cases hx : h.ResponseID.toNat = st.responseID.toNat + 1
    · rw [if_pos hx] at hlt ⊢
      have hg := le_greedyCount (st.responseID.toNat + 1) (ids hs)
      have hnext : ({ st with responseID := st.responseID + 1 } : Stream).responseID.toNat =
          st.responseID.toNat + 1 := u64_toNat_add_one (by omega)
      rw [Serialize_eq_of_lt st h (by omega), if_pos hx]
      obtain ⟨h1, h2, h3⟩ := ih { st with responseID := st.responseID + 1 } (by rwa [hnext])
      rw [hnext] at h2 h3
      refine ⟨h1, h2, ?_⟩
      rw [if_pos rfl, ids_cons, h3, hx, show greedyCount (st.responseID.toNat + 1) (ids hs) -
        st.responseID.toNat = (greedyCount (st.responseID.toNat + 1) (ids hs) -
        (st.responseID.toNat + 1)) + 1 by omega, List.range'_succ]
    · rw [if_neg hx] at hlt ⊢
      have hg := le_greedyCount st.responseID.toNat (ids hs)
      rw [Serialize_eq_of_lt st h (by omega), if_neg hx]
      exact ih st hlt

/-- The replies `1, 2, ..., n` in `uint64`: the last one is `0` when `n = 2^64`. -/
def countingHeaders (template : ResponseHeader) (n : Nat) : List ResponseHeader :=
  (List.range n).map fun i => { template with ResponseID := UInt64.ofNat (i + 1) }

/-- `Serialize` accepts the replies `1, 2, ..., n` one after the other for every `n`, also past
the top of `UInt64`, where the counter wraps. -/
theorem serializeAll_countingHeaders (st : Stream) (template : ResponseHeader) (n : Nat) :
    serializeAll { st with responseID := 0 } (countingHeaders template n) =
      ({ st with responseID := UInt64.ofNat n }, countingHeaders template n) := by
  induction n with
  | zero => rfl
  | succ n ih =>
    rw [countingHeaders, List.range_succ, List.map_append, ← countingHeaders,
      serializeAll_append, ih]
    simp [serializeAll, Serialize, u64_ofNat_succ]

theorem serializeAll_countingHeaders_accepted (st : Stream) (template : ResponseHeader) (n : Nat) :
    (serializeAll { st with responseID := 0 } (countingHeaders template n)).2 =
      countingHeaders template n := by
  rw [serializeAll_countingHeaders]

theorem mem_countingHeaders (template : ResponseHeader) (n : Nat) :
    { template with ResponseID := UInt64.ofNat (n + 1) } ∈ countingHeaders template (n + 1) := by
  rw [countingHeaders, List.range_succ, List.map_append]
  simp

end Stream

end AtomixClient
