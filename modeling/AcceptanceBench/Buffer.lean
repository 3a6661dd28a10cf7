import AcceptanceBench.Data

/-!
Buffers accumulate what a channel has received. Whoever waits on a buffer is notified of every
append, which the count of signals shows.
-/

namespace AcceptanceBench

/-- A buffer with the bytes received since the last reset, those that resets have discarded, and the
number of times it was notified. -/
structure Buffer where
  name : String
  discarded : Bytes
  data : Bytes
  signals : Nat
  deriving Repr, DecidableEq

namespace Buffer

/-- A new buffer. -/
def empty (name : String) : Buffer := ⟨name, [], [], 0⟩

/-- The buffer with more bytes, after everyone who waits on it was notified. -/
def append (b : Buffer) (chunk : Bytes) : Buffer :=
  { b with data := b.data ++ chunk, signals := b.signals + 1 }

/-- The buffer without bytes. Nobody is notified. -/
def reset (b : Buffer) : Buffer :=
  { b with discarded := b.discarded ++ b.data, data := [] }

/-- The buffer after everyone who waits on it was notified without new bytes. -/
def notify (b : Buffer) : Buffer :=
  { b with signals := b.signals + 1 }

/-- What checks see. -/
def snapshot (b : Buffer) : Data :=
  .received b.data

end Buffer

end AcceptanceBench
