import Mathlib.Data.List.AList
import Mathlib.Data.String.Basic

/-!
# Request and response headers

The wire vocabulary of the session layer (`github.com/atomix/api/proto/atomix/headers`), as far
as `pkg/client/primitive/session.go` reads or writes it:

* `RequestHeader`, built by the session under its lock and sent with every RPC;
* `ResponseHeader`, returned by the server and interpreted by `doRequest` and the stream
  readers;
* `StreamHeader`, the per-stream watermark a state header advertises to the server.

Go's `uint64` fields are `UInt64`, so that the counters wrap exactly where the code's do. Go's
`int` is the 64-bit integer of the platforms the client is built for, `GoInt`; a conversion such
as `int32(x)` or `uint32(x)` keeps the low bits, which is `BitVec.setWidth`.

The order on `UInt64` is the order of `toNat`; `u64_le_iff` and `u64_lt_iff` turn a comparison
into one on `Nat`, where `omega` decides it.
-/

namespace AtomixClient

/-- Go's `int` on a 64-bit platform. -/
abbrev GoInt := BitVec 64

theorem u64_le_iff {a b : UInt64} : a ≤ b ↔ a.toNat ≤ b.toNat := Iff.rfl

theorem u64_lt_iff {a b : UInt64} : a < b ↔ a.toNat < b.toNat := Iff.rfl

/-- `x + 1` on a `uint64` that has not reached its largest value does not wrap. -/
theorem u64_toNat_add_one {x : UInt64} (h : x.toNat < 2 ^ 64 - 1) :
    (x + 1).toNat = x.toNat + 1 := by
  rw [UInt64.toNat_add]
  simp only [UInt64.toNat_ofNat, UInt64.size]
  omega

theorem u64_toNat_ofNat (n : Nat) : (UInt64.ofNat n).toNat = n % 2 ^ 64 := rfl

/-- `UInt64.ofNat` counts in `uint64` arithmetic, wrapping at `2^64`. -/
theorem u64_ofNat_succ (n : Nat) : UInt64.ofNat (n + 1) = UInt64.ofNat n + 1 := by
  apply UInt64.ext
  rw [UInt64.toNat_add, u64_toNat_ofNat, u64_toNat_ofNat]
  simp only [UInt64.toNat_ofNat, UInt64.size]
  omega

/-- The name of a primitive as the headers carry it (`primitiveapi.Name`). -/
structure PrimitiveName where
  Name : String
  Namespace : String
  deriving DecidableEq, Repr

/-- The acknowledged position of one server-push stream (`headers.StreamHeader`). -/
structure StreamHeader where
  StreamID : UInt64
  ResponseID : UInt64
  deriving DecidableEq, Repr

/-- The header sent with every request (`headers.RequestHeader`). `Name` is `nil` in the
session-level control RPCs. -/
structure RequestHeader where
  Name : Option PrimitiveName
  Partition : BitVec 32
  SessionID : UInt64
  Index : UInt64
  RequestID : UInt64
  Streams : List StreamHeader
  deriving DecidableEq, Repr

/-- `headers.ResponseStatus`. -/
inductive ResponseStatus where
  | OK
  | ERROR
  | NOT_LEADER
  deriving DecidableEq, Repr

/-- `headers.ResponseType`. -/
inductive ResponseType where
  | RESPONSE
  | OPEN_STREAM
  | CLOSE_STREAM
  deriving DecidableEq, Repr

/-- The header of every reply (`headers.ResponseHeader`), with the fields the client reads. -/
structure ResponseHeader where
  SessionID : UInt64
  Index : UInt64
  ResponseID : UInt64
  Status : ResponseStatus
  «Type» : ResponseType
  Leader : String
  deriving DecidableEq, Repr

end AtomixClient
