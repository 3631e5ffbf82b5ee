/-
Pipes: bounded queues between two ends, each of which may go away.

A send waits while the pipe is full, and a receive while it is empty. Without
a receiver nothing can be sent; without a sender what is left is received, and
after that the pipe has ended.
-/
import LanRelay.Flow.Polled

namespace LanRelay

structure Pipe (α : Type) where
  capacity : Nat
  items : List α := []
  hasSender : Bool := true
  hasReceiver : Bool := true
deriving Repr

namespace Pipe

variable {α : Type}

def send (pipe : Pipe α) (item : α) : Polled (Pipe α) :=
  if pipe.hasSender && pipe.hasReceiver then
    if pipe.items.length < pipe.capacity then
      .ready { pipe with items := pipe.items ++ [item] }
    else .pending
  else .closed

def receive (pipe : Pipe α) : Polled (α × Pipe α) :=
  match pipe.items with
  | item :: items => .ready (item, { pipe with items })
  | [] => if pipe.hasSender then .pending else .closed

def dropSender (pipe : Pipe α) : Pipe α := { pipe with hasSender := false }

/-- What is in the pipe goes away with its receiver. -/
def dropReceiver (pipe : Pipe α) : Pipe α :=
  { pipe with hasReceiver := false, items := [] }

end Pipe

end LanRelay
