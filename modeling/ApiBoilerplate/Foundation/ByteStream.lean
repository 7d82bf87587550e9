import Mathlib.Data.List.Basic

/-!
# Byte streams

A finite stream of byte chunks that ends normally or with an error. How a
stream is cut into chunks is its sender's affair; what it carries is the
concatenation of the chunks and the error, if one ends it.
-/

namespace Foundation

universe u v

abbrev Bytes := List UInt8

structure ByteStream (Failure : Type u) where
  chunks : List Bytes
  error : Option Failure
  deriving DecidableEq, Repr

namespace ByteStream
variable {Failure : Type u}

/-- What polling the stream yields, in order. -/
def items (s : ByteStream Failure) : List (Except Failure Bytes) :=
  s.chunks.map .ok ++ s.error.toList.map .error

def bytes (s : ByteStream Failure) : Bytes := s.chunks.flatten

def contents (s : ByteStream Failure) : Bytes × Option Failure := (s.bytes, s.error)

def once (body : Bytes) : ByteStream Failure := ⟨[body], none⟩

/-- Read the whole stream; an error discards what came before it. -/
def collect (s : ByteStream Failure) : Except Failure Bytes :=
  match s.error with
  | none => .ok s.bytes
  | some failure => .error failure

@[simp] theorem bytes_once (body : Bytes) : (once body : ByteStream Failure).bytes = body := by
  simp [once, bytes]

@[simp] theorem contents_once (body : Bytes) :
    (once body : ByteStream Failure).contents = (body, none) := by
  rw [contents, bytes_once, once]

theorem collect_ok_iff (s : ByteStream Failure) (body : Bytes) :
    s.collect = .ok body ↔ s.contents = (body, none) := by
  rcases s with ⟨chunks, _ | failure⟩ <;> simp [collect, contents, bytes]

theorem collect_error_iff (s : ByteStream Failure) :
    (∃ failure, s.collect = .error failure) ↔ s.error ≠ none := by
  rcases s with ⟨chunks, _ | failure⟩ <;> simp [collect]

/-- Reading a stream whole and sending it on as one chunk keeps what it carries. -/
theorem contents_once_collect {s : ByteStream Failure} {body : Bytes}
    (collected : s.collect = .ok body) :
    (once body : ByteStream Failure).contents = s.contents := by
  rw [contents_once, (s.collect_ok_iff body).mp collected]

theorem contents_eq_once_iff (s : ByteStream Failure) (body : Bytes) :
    (once body : ByteStream Failure).contents = s.contents ↔
      body = s.bytes ∧ s.error = none := by
  rw [contents_once, contents, Prod.mk.injEq, eq_comm (a := none)]

end ByteStream
end Foundation
