/-
Outlets: a queue, a worker that empties it, and the sink that the worker
writes to.

Offering never waits for the sink; only the worker does. The worker writes one
item after the other. It goes on after a failed write, and stops when the sink
says that its other end is gone, or when the queue is closed and empty. Before
it ends it flushes the sink and then closes it, and what these come to makes
no difference.
-/
import LanRelay.Fault
import LanRelay.Flow.Queue
import LanRelay.Text.Quoted

namespace LanRelay

/-- How a kind of sink behaves. `σ` is what a sink knows, `ω` what it shares
with others, and `α` what it takes. -/
class Sink (σ : Type) (ω : outParam Type) (α : outParam Type) where
  /-- Write an item. There is no result while the write has to wait. -/
  write : α → σ × ω → Option (Except Fault Unit × σ × ω)
  flush : σ × ω → Except Fault Unit × σ × ω
  close : σ × ω → Except Fault Unit × σ × ω

/-- What is measured at an outlet. -/
structure OutletMetrics where
  /-- The length of the queue when it was last looked at. -/
  queued : Nat := 0
  written : Nat := 0
  failed : Nat := 0
  dropped : Nat := 0
  /-- The drops since an item was last queued without loss. -/
  consecutive : Nat := 0
deriving DecidableEq, Repr

namespace OutletMetrics

/-- Account for the outcome of an offer. -/
def record (metrics : OutletMetrics) : Offer → OutletMetrics
  | .queued => { metrics with consecutive := 0 }
  | .droppedOldest | .droppedNewest =>
      { metrics with
        dropped := metrics.dropped + 1
        consecutive := metrics.consecutive + 1 }
  | .closed => metrics

/-- Totals over several outlets. Consecutive drops have no total. -/
def add (left right : OutletMetrics) : OutletMetrics where
  queued := left.queued + right.queued
  written := left.written + right.written
  failed := left.failed + right.failed
  dropped := left.dropped + right.dropped

end OutletMetrics

/-- What the worker of an outlet is doing. -/
inductive WorkerPhase (α : Type) where
  | idle
  /-- An item is out of the queue and not yet written. -/
  | writing (item : α)
  | ended
deriving Repr

structure Outlet (σ α : Type) where
  name : String
  policy : DropPolicy
  queue : Queue α
  metrics : OutletMetrics := {}
  phase : WorkerPhase α := .idle
  sink : σ

namespace Outlet

variable {σ ω α : Type}

/-- An outlet with an empty queue. -/
def create (name : String) (capacity : Nat) (policy : DropPolicy) (sink : σ) :
    Outlet σ α where
  name := name
  policy := policy
  queue := { capacity }
  sink := sink

/-- Offer an item to the queue, as the policy says. -/
def offer (outlet : Outlet σ α) (item : α) : Outlet σ α × Offer :=
  let (queue, outcome) := outlet.queue.offer outlet.policy item
  ({ outlet with
      queue
      metrics := { outlet.metrics.record outcome with queued := queue.size } },
    outcome)

/-- Take no more items. The worker writes what is queued, and then ends. -/
def close (outlet : Outlet σ α) : Outlet σ α :=
  { outlet with queue := outlet.queue.close }

def isClosed (outlet : Outlet σ α) : Bool := !outlet.queue.isOpen

/-- The worker is done. -/
def hasEnded (outlet : Outlet σ α) : Bool :=
  match outlet.phase with
  | .ended => true
  | .idle | .writing _ => false

/-- Flush the sink, close it, and end. -/
def windDown [Sink σ ω α] (outlet : Outlet σ α) (world : ω) :
    Outlet σ α × ω :=
  let (_, sink, world) := Sink.flush (outlet.sink, world)
  let (_, sink, world) := Sink.close (sink, world)
  ({ outlet with sink, phase := .ended }, world)

/-- Account for a write. A sink that is gone closes the queue and ends the
worker; what is still queued is lost. -/
def written [Sink σ ω α] (outlet : Outlet σ α) (result : Except Fault Unit)
    (world : ω) : Outlet σ α × ω :=
  let metrics := outlet.metrics
  match result with
  | .ok () =>
      ({ outlet with
          metrics := { metrics with written := metrics.written + 1 }
          phase := .idle },
        world)
  | .error (.sinkClosed _) => outlet.close.windDown world
  | .error _ =>
      ({ outlet with
          metrics := { metrics with failed := metrics.failed + 1 }
          phase := .idle },
        world)

/-- The next step of the worker, if it can take one. -/
def work? [Sink σ ω α] (outlet : Outlet σ α) (world : ω) :
    Option (Outlet σ α × ω) :=
  match outlet.phase with
  | .ended => none
  | .idle =>
      match outlet.queue.receive with
      | (queue, some item) =>
          some
            ({ outlet with
                queue
                metrics := { outlet.metrics with queued := queue.size }
                phase := .writing item },
              world)
      | (_, none) =>
          if outlet.queue.isOpen then none else some (outlet.windDown world)
  | .writing item => do
      let (result, sink, world) ← Sink.write item (outlet.sink, world)
      return { outlet with sink }.written result world

/-- An outlet as it is shown to a developer. -/
def describe (outlet : Outlet σ α) : String :=
  let metrics := outlet.metrics
  let policy :=
    match outlet.policy with
    | .dropOldest => "DropOldest"
    | .dropNewest => "DropNewest"
  "SinkHandle \x7b name: " ++ Text.quoted outlet.name ++ ", drop_policy: " ++
    policy ++ ", metrics: MetricsSnapshot \x7b " ++
    s!"queue_len: {metrics.queued}, write_count: {metrics.written}, " ++
    s!"failure_count: {metrics.failed}, dropped_count: {metrics.dropped}" ++
    " \x7d \x7d"

end Outlet

end LanRelay
