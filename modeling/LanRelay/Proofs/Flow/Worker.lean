/-
The steps of the worker of an outlet, and how the worker comes to its end.

A worker takes an item, writes it, and goes on with the next one whatever the
write came to, as long as the other end of its sink is there. When its outlet
is closed it has only so many steps left.

Main statements: `Outlet.works_of_work?`, by which a step is one of three
things, `Outlet.work?_eq_none_iff`, which says when there is none, and
`Outlet.hasEnded_run_work` for an outlet that is closed.
-/
import LanRelay.Flow.Outlet

namespace LanRelay

variable {σ ω α : Type}

/-- What is done to an outlet. The worker takes its next step, if it can take
one, in the world as others have left it. -/
inductive OutletAct (ω α : Type) where
  | offer (item : α)
  | close
  | work (world : ω)

def OutletAct.item? : OutletAct ω α → Option α
  | offer item => some item
  | close | work _ => none

/-- The other end of a sink is gone. -/
def Fault.isSinkClosed : Fault → Bool
  | sinkClosed _ => true
  | _ => false

namespace Outlet

/-- What a worker may do in a step. -/
inductive Works [Sink σ ω α] (outlet : Outlet σ α) (world : ω) :
    Outlet σ α × ω → Prop where
  /-- It takes the next item out of the queue. -/
  | takes (hphase : outlet.phase = .idle) (item : α) (rest : List α)
      (hitems : outlet.queue.items = item :: rest) :
      Works outlet world
        ({ outlet with
            queue := { outlet.queue with items := rest }
            metrics := { outlet.metrics with queued := rest.length }
            phase := .writing item },
          world)
  /-- The queue is closed and empty, and the worker ends. -/
  | ends (hphase : outlet.phase = .idle) (hitems : outlet.queue.items = [])
      (hclosed : outlet.isClosed = true) :
      Works outlet world (outlet.windDown world)
  /-- The item in hand is written. -/
  | writes (item : α) (hphase : outlet.phase = .writing item) (sink : σ)
      (world' : ω)
      (hwrite : Sink.write item (outlet.sink, world) =
        some (.ok (), sink, world')) :
      Works outlet world
        ({ outlet with
            sink
            metrics :=
              { outlet.metrics with written := outlet.metrics.written + 1 }
            phase := .idle },
          world')
  /-- The item in hand is not written, and that is all. -/
  | fails (item : α) (hphase : outlet.phase = .writing item) (fault : Fault)
      (hthere : fault.isSinkClosed = false) (sink : σ) (world' : ω)
      (hwrite : Sink.write item (outlet.sink, world) =
        some (.error fault, sink, world')) :
      Works outlet world
        ({ outlet with
            sink
            metrics :=
              { outlet.metrics with failed := outlet.metrics.failed + 1 }
            phase := .idle },
          world')
  /-- The other end of the sink is gone, and the worker ends at once. -/
  | loses (item : α) (hphase : outlet.phase = .writing item) (fault : Fault)
      (hgone : fault.isSinkClosed = true) (sink : σ) (world' : ω)
      (hwrite : Sink.write item (outlet.sink, world) =
        some (.error fault, sink, world')) :
      Works outlet world
        (({ outlet with sink } : Outlet σ α).close.windDown world')

theorem works_of_work? [Sink σ ω α] {outlet : Outlet σ α} {world : ω}
    {result : Outlet σ α × ω} (h : outlet.work? world = some result) :
    Works outlet world result := by
  unfold work? at h
  split at h
  · cases h
  · rename_i hphase
    cases hitems : outlet.queue.items with
    | nil =>
        simp only [Queue.receive, hitems] at h
        split at h
        · cases h
        · rename_i hopen
          cases h
          exact .ends hphase hitems (by simpa [isClosed] using hopen)
    | cons item rest =>
        simp only [Queue.receive, hitems] at h
        cases h
        exact .takes hphase item rest hitems
  · rename_i item hphase
    obtain ⟨⟨outcome, sink, world'⟩, hwrite, hwritten⟩ :=
      Option.bind_eq_some_iff.mp h
    cases hwritten
    unfold written
    split
    · exact .writes item hphase sink world' hwrite
    · exact .loses item hphase _ rfl sink world' hwrite
    · rename_i fault hother
      have hthere : fault.isSinkClosed = false := by
        cases fault with
        | sinkClosed name => exact absurd rfl (hother name)
        | _ => rfl
      exact .fails item hphase fault hthere sink world' hwrite

theorem hasEnded_iff {outlet : Outlet σ α} :
    outlet.hasEnded = true ↔ outlet.phase = .ended := by
  unfold hasEnded
  split <;> simp [*]

/-- A worker has nothing to do when it has ended, while it waits for an item,
and while it waits for its sink. -/
theorem work?_eq_none_iff [Sink σ ω α] {outlet : Outlet σ α} {world : ω} :
    outlet.work? world = none ↔
      outlet.hasEnded = true ∨
      (outlet.phase = .idle ∧ outlet.queue.items = [] ∧
        outlet.isClosed = false) ∨
      ∃ item, outlet.phase = .writing item ∧
        Sink.write item (outlet.sink, world) = none := by
  rw [hasEnded_iff]
  cases hphase : outlet.phase with
  | ended => simp [work?, hphase]
  | idle =>
      cases hitems : outlet.queue.items with
      | nil => simp [work?, hphase, Queue.receive, hitems, isClosed]
      | cons item rest => simp [work?, hphase, Queue.receive, hitems]
  | writing item =>
      rw [work?, hphase]
      cases hwrite : Sink.write item (outlet.sink, world) <;> simp [hwrite]

/-! The end of a worker. -/

/-- How many steps a worker has left at most, if nothing more is offered. -/
def toDo (outlet : Outlet σ α) : Nat :=
  match outlet.phase with
  | .ended => 0
  | .idle => 2 * outlet.queue.size + 1
  | .writing _ => 2 * outlet.queue.size + 2

theorem Works.toDo_lt [Sink σ ω α] {outlet : Outlet σ α} {world : ω}
    {result : Outlet σ α × ω} (h : Works outlet world result) :
    result.1.toDo < outlet.toDo := by
  cases h with
  | takes hphase item rest hitems =>
      simp only [toDo, hphase, Queue.size, hitems, List.length_cons]
      omega
  | ends hphase hitems hclosed => simp [toDo, hphase, windDown]
  | writes item hphase => simp [toDo, hphase]
  | fails item hphase => simp [toDo, hphase]
  | loses item hphase => simp [toDo, hphase, windDown]

theorem Works.isClosed [Sink σ ω α] {outlet : Outlet σ α} {world : ω}
    {result : Outlet σ α × ω} (h : Works outlet world result)
    (hclosed : outlet.isClosed = true) : result.1.isClosed = true := by
  cases h with
  | loses => rfl
  | _ => exact hclosed

/-- A worker leaves the drops in a row as they are. -/
theorem Works.consecutive_eq [Sink σ ω α] {outlet : Outlet σ α} {world : ω}
    {result : Outlet σ α × ω} (h : Works outlet world result) :
    result.1.metrics.consecutive = outlet.metrics.consecutive := by
  cases h <;> rfl

def act [Sink σ ω α] (outlet : Outlet σ α) : OutletAct ω α → Outlet σ α
  | .offer item => (outlet.offer item).1
  | .close => outlet.close
  | .work world => ((outlet.work? world).map Prod.fst).getD outlet

def run [Sink σ ω α] (outlet : Outlet σ α) (acts : List (OutletAct ω α)) :
    Outlet σ α :=
  acts.foldl act outlet

/-- The worker of a closed outlet comes to its end, unless its sink has it
wait. -/
theorem hasEnded_run_work [Sink σ ω α]
    (hready : ∀ (item : α) (state : σ × ω), (Sink.write item state).isSome)
    {outlet : Outlet σ α} (hclosed : outlet.isClosed = true) {worlds : List ω}
    (h : outlet.toDo ≤ worlds.length) :
    (outlet.run (worlds.map .work)).hasEnded = true := by
  induction worlds generalizing outlet with
  | nil =>
      rw [hasEnded_iff]
      change outlet.phase = .ended
      cases hphase : outlet.phase <;> simp [toDo, hphase] at h ⊢
  | cons world worlds ih =>
      rw [List.length_cons] at h
      change ((outlet.act (.work world)).run (worlds.map .work)).hasEnded = true
      cases hwork : outlet.work? world with
      | none =>
          -- Nothing is left to do, so the outlet stays as it is.
          have hended : outlet.hasEnded = true := by
            rcases work?_eq_none_iff.mp hwork with
              hended | ⟨-, -, hopen⟩ | ⟨item, -, hwaits⟩
            · exact hended
            · rw [hclosed] at hopen
              cases hopen
            · have hsome := hready item (outlet.sink, world)
              rw [hwaits] at hsome
              cases hsome
          have hstays : outlet.act (.work world) = outlet := by
            simp [act, hwork]
          rw [hstays]
          apply ih hclosed
          simp [toDo, hasEnded_iff.mp hended]
      | some result =>
          have hworks := works_of_work? hwork
          have hless := hworks.toDo_lt
          have hnext : outlet.act (.work world) = result.1 := by
            simp [act, hwork]
          rw [hnext]
          exact ih (hworks.isClosed hclosed) (by omega)

end Outlet

end LanRelay
