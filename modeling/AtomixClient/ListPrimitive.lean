import AtomixClient.Headers
import Mathlib.Algebra.Ring.Int.Defs

/-!
# The index of a list request

`Insert`, `Set`, `Get` and `Remove` of the list primitive (package `list`) each hand the session a
closure that builds the request from the header it is given and `uint32(index)`; nothing reads
`index` before. The closures differ only in the request type and in whether a value goes with
it, so the model is one request builder, `indexRequest`, that each of them applies to its own
arguments.

* `uint32_toNat`: Go's conversion keeps the index modulo `2^32`;
* `indexRequest_Index_eq_iff`: the request carries the caller's index exactly when
  `0 ≤ index < 2^32`; `wrapped_index_sent` is the call with `index = 2^32`, which sends index `0`.
-/

namespace AtomixClient

namespace list

/-- Go's `uint32(index)` on an `int`: the low 32 bits. -/
def uint32 (index : GoInt) : UInt32 := ⟨index.setWidth 32⟩

/-- The fields of `InsertRequest`, `SetRequest`, `GetRequest` and `RemoveRequest` that the calls
set; `Value` is the (base64-encoded) value of `Insert` and `Set`. -/
structure IndexRequest where
  Header : RequestHeader
  Index : UInt32
  Value : Option (List UInt8)
  deriving DecidableEq, Repr

/-- The request the closure of a list call builds from the session's header. -/
def indexRequest (header : RequestHeader) (index : GoInt) (value : Option (List UInt8)) :
    IndexRequest :=
  ⟨header, uint32 index, value⟩

/-- `list.Insert`: the request of its `DoCommand` closure. -/
def Insert (index : GoInt) (value : List UInt8) (header : RequestHeader) : IndexRequest :=
  indexRequest header index (some value)

/-- `list.Set`: the request of its `DoCommand` closure. -/
def Set (index : GoInt) (value : List UInt8) (header : RequestHeader) : IndexRequest :=
  indexRequest header index (some value)

/-- `list.Get`: the request of its `DoQuery` closure. -/
def Get (index : GoInt) (header : RequestHeader) : IndexRequest :=
  indexRequest header index none

/-- `list.Remove`: the request of its `DoCommand` closure. -/
def Remove (index : GoInt) (header : RequestHeader) : IndexRequest :=
  indexRequest header index none

theorem uint32_toNat (index : GoInt) : (uint32 index).toNat = index.toNat % 2 ^ 32 :=
  BitVec.toNat_setWidth 32 index

/-- A list request carries the caller's `int` index exactly when it lies in `[0, 2^32)`. -/
theorem indexRequest_Index_eq_iff (header : RequestHeader) (index : GoInt)
    (value : Option (List UInt8)) :
    ((indexRequest header index value).Index.toNat : Int) = index.toInt ↔
      0 ≤ index.toInt ∧ index.toInt < 2 ^ 32 := by
  have hlt := index.isLt
  simp only [indexRequest, uint32_toNat, BitVec.toInt_eq_toNat_cond]
  split_ifs <;> omega

example (header : RequestHeader) : (Get (-1) header).Index = 4294967295 := rfl

/-- Called with index `2^32`, each of `Insert`, `Set`, `Get` and `Remove` sends a request for
position `0`, with no error before sending. -/
theorem wrapped_index_sent (header : RequestHeader) (value : List UInt8) :
    (Insert 4294967296 value header).Index = 0 ∧ (Set 4294967296 value header).Index = 0 ∧
      (Get 4294967296 header).Index = 0 ∧ (Remove 4294967296 header).Index = 0 :=
  ⟨rfl, rfl, rfl, rfl⟩

end list

end AtomixClient
