import Crosscheck.Text.Utf8

/-! # Capturing a stream

A stream arrives in chunks of any size. Everything is read so that the writer is never held up, but
only the first `cap` bytes are kept.
-/

namespace Crosscheck

/-- One attempt to read from a stream. -/
inductive Reading (ε : Type) where
  /-- Some bytes; none means that the stream has ended. -/
  | chunk (bytes : Bytes)
  /-- The attempt was cut short and is made again. -/
  | interrupted
  | failed (error : ε)

/-- The kept chunks of a stream, the latest first, how many more bytes are kept, and whether any
were left out. -/
structure Capture where
  chunks : List Bytes
  room : Nat
  cut : Bool
  deriving DecidableEq, Repr

namespace Capture

def start (cap : Nat) : Capture := ⟨[], cap, false⟩

/-- The kept bytes. -/
def kept (capture : Capture) : Bytes :=
  capture.chunks.reverse.flatten

/-- Takes in one chunk. Once bytes have been left out nothing more is kept. -/
def add (capture : Capture) (chunk : Bytes) : Capture :=
  if capture.cut then capture
  else if chunk.length ≤ capture.room then
    ⟨chunk :: capture.chunks, capture.room - chunk.length, false⟩
  else ⟨chunk.take capture.room :: capture.chunks, 0, true⟩

/-- Reads until the stream ends or an attempt fails. -/
def read {ε : Type} : Capture → List (Reading ε) → Except ε Capture
  | capture, [] => .ok capture
  | capture, .interrupted :: rest => read capture rest
  | _, .failed error :: _ => .error error
  | capture, .chunk [] :: _ => .ok capture
  | capture, .chunk (b :: bytes) :: rest => read (capture.add (b :: bytes)) rest

/-- A byte string delivered in chunks of at most `size` bytes, then the end of the stream. -/
def deliver {ε : Type} (size : Nat) : Nat → Bytes → List (Reading ε)
  | 0, _ => [.chunk []]
  | n + 1, bytes =>
    if bytes.isEmpty then [.chunk []]
    else .chunk (bytes.take size) :: deliver size n (bytes.drop size)

/-- The capture of a whole byte string. -/
def ofBytes (cap : Nat) (bytes : Bytes) : Capture :=
  let readings : List (Reading Empty) := deliver 8192 (bytes.length / 8192 + 1) bytes
  match (start cap).read readings with
  | .ok capture => capture
  | .error error => nomatch error

end Capture

end Crosscheck
