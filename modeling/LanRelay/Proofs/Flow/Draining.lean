/-
What becomes of the items that are offered to an outlet.

The worker is seen through its sink, which takes note of all that it is asked
for. Every item that the outlet did not turn away is written in its turn, or
fails in it, or is lost in a drop that is counted; items are left over only
if the other end of the sink goes away. At its end the worker flushes the
sink and closes it, after all writes.

Main statements: `OutletLife.queueLife_act`, by which the items in the outlet
and before its sink are those of a queue from which items are received,
`OutletLife.Noted.act`, and `worker_accounts_for_every_item`.
-/
import LanRelay.Proofs.Flow.DropPolicy
import LanRelay.Proofs.Flow.Ownership
import LanRelay.Proofs.Flow.Worker
import Mathlib.Data.List.Perm.Subperm

namespace LanRelay

variable {σ ω α : Type}

namespace Queue

theorem isOpen_trySend (queue : Queue α) (item : α) :
    (queue.trySend item).1.isOpen = queue.isOpen := by
  rcases queue.trySend_eq item with h | h | h <;> rw [h]

theorem isOpen_offer (policy : DropPolicy) (queue : Queue α) (item : α) :
    (queue.offer policy item).1.isOpen = queue.isOpen := by
  have hfirst := queue.isOpen_trySend item
  unfold offer
  split
  · simpa [*] using hfirst
  · simpa [*] using hfirst
  · rename_i full hfull
    rw [hfull] at hfirst
    cases policy with
    | dropNewest => exact hfirst
    | dropOldest =>
        have hagain := full.receive.1.isOpen_trySend item
        rw [full.isOpen_receive, hfirst] at hagain
        rcases hsecond : full.receive.1.trySend item with ⟨queue', sent⟩
        rw [hsecond] at hagain
        cases sent <;> exact hagain

end Queue

/-! A sink that takes note of its calls. -/

/-- What a write came to. -/
inductive WriteOutcome where
  | written
  | failed
  /-- The other end of the sink is gone. -/
  | lost
deriving DecidableEq

/-- A write of an item. -/
structure SinkWrite (α : Type) where
  item : α
  result : Except Fault Unit

def SinkWrite.outcome (write : SinkWrite α) : WriteOutcome :=
  match write.result with
  | .ok () => .written
  | .error fault => if fault.isSinkClosed then .lost else .failed

@[simp]
theorem SinkWrite.outcome_ok (item : α) :
    (SinkWrite.mk item (.ok ())).outcome = .written := rfl

@[simp]
theorem SinkWrite.outcome_error (item : α) (fault : Fault) :
    (SinkWrite.mk item (.error fault)).outcome =
      if fault.isSinkClosed then .lost else .failed := rfl

/-- What a sink was asked for, and what that came to. -/
inductive SinkCall (α : Type) where
  | write (write : SinkWrite α)
  | flush (result : Except Fault Unit)
  | close (result : Except Fault Unit)

@[simp]
def SinkCall.write? : SinkCall α → Option (SinkWrite α)
  | write made => some made
  | flush _ | close _ => none

/-- A sink with all its calls, the first at the head. -/
structure NotedSink (σ α : Type) where
  sink : σ
  calls : List (SinkCall α) := []

namespace NotedSink

def note (noted : NotedSink σ α) (sink : σ) (call : SinkCall α) :
    NotedSink σ α where
  sink := sink
  calls := noted.calls ++ [call]

instance [Sink σ ω α] : Sink (NotedSink σ α) ω α where
  write item state :=
    (Sink.write item (state.1.sink, state.2)).map fun (result, sink, world) =>
      (result, state.1.note sink (.write ⟨item, result⟩), world)
  flush state :=
    let (result, sink, world) := Sink.flush (state.1.sink, state.2)
    (result, state.1.note sink (.flush result), world)
  close state :=
    let (result, sink, world) := Sink.close (state.1.sink, state.2)
    (result, state.1.note sink (.close result), world)

def writes (noted : NotedSink σ α) : List (SinkWrite α) :=
  noted.calls.filterMap SinkCall.write?

@[simp]
theorem calls_note (noted : NotedSink σ α) (sink : σ) (call : SinkCall α) :
    (noted.note sink call).calls = noted.calls ++ [call] := rfl

@[simp]
theorem writes_note (noted : NotedSink σ α) (sink : σ) (call : SinkCall α) :
    (noted.note sink call).writes = noted.writes ++ call.write?.toList := by
  cases call <;> simp [writes, note]

theorem eq_note_of_write [Sink σ ω α] {noted noted' : NotedSink σ α}
    {world world' : ω} {item : α} {result : Except Fault Unit}
    (h : Sink.write item (noted, world) = some (result, noted', world')) :
    ∃ sink, noted' = noted.note sink (.write ⟨item, result⟩) := by
  obtain ⟨⟨result', sink, world₁⟩, -, hresult⟩ := Option.map_eq_some_iff.mp h
  cases hresult
  exact ⟨sink, rfl⟩

end NotedSink

namespace Outlet

/-- A worker that ends has its sink flushed and then closed. -/
theorem windDown_eq [Sink σ ω α] (outlet : Outlet (NotedSink σ α) α)
    (world : ω) : ∃ sink flushed closed,
      (outlet.windDown world).1 = { outlet with
        sink :=
          (outlet.sink.note sink (.flush flushed)).note sink (.close closed)
        phase := .ended } :=
  ⟨_, _, _, rfl⟩

/-- What a worker may do in a step, with what its sink takes note of. -/
inductive NotedWorks (outlet : Outlet (NotedSink σ α) α) :
    Outlet (NotedSink σ α) α → Prop where
  | takes (hphase : outlet.phase = .idle) (item : α) (rest : List α)
      (hitems : outlet.queue.items = item :: rest) :
      NotedWorks outlet { outlet with
        queue := { outlet.queue with items := rest }
        metrics := { outlet.metrics with queued := rest.length }
        phase := .writing item }
  | ends (hphase : outlet.phase = .idle) (hitems : outlet.queue.items = [])
      (hclosed : outlet.isClosed = true) (sink : σ)
      (flushed closed : Except Fault Unit) :
      NotedWorks outlet { outlet with
        sink :=
          (outlet.sink.note sink (.flush flushed)).note sink (.close closed)
        phase := .ended }
  /-- The worker is done with the item in hand, and goes on. -/
  | goesOn (write : SinkWrite α) (hphase : outlet.phase = .writing write.item)
      (hthere : write.outcome ≠ .lost) (sink : σ) (metrics : OutletMetrics)
      (hwritten : metrics.written = outlet.metrics.written +
        if write.outcome = .written then 1 else 0)
      (hfailed : metrics.failed = outlet.metrics.failed +
        if write.outcome = .failed then 1 else 0)
      (hdropped : metrics.dropped = outlet.metrics.dropped) :
      NotedWorks outlet { outlet with
        sink := outlet.sink.note sink (.write write)
        metrics
        phase := .idle }
  /-- The other end of the sink is gone. -/
  | loses (write : SinkWrite α) (hphase : outlet.phase = .writing write.item)
      (hgone : write.outcome = .lost) (sink : σ)
      (flushed closed : Except Fault Unit) :
      NotedWorks outlet { outlet.close with
        sink := ((outlet.sink.note sink (.write write)).note sink
          (.flush flushed)).note sink (.close closed)
        phase := .ended }

theorem Works.noted [Sink σ ω α] {outlet : Outlet (NotedSink σ α) α}
    {world : ω} {result : Outlet (NotedSink σ α) α × ω}
    (h : Works outlet world result) : outlet.NotedWorks result.1 := by
  cases h with
  | takes hphase item rest hitems => exact .takes hphase item rest hitems
  | ends hphase hitems hclosed =>
      obtain ⟨sink, flushed, closed, hended⟩ := outlet.windDown_eq world
      rw [hended]
      exact .ends hphase hitems hclosed sink flushed closed
  | writes item hphase sink world' hwrite =>
      obtain ⟨sink', rfl⟩ := NotedSink.eq_note_of_write hwrite
      exact .goesOn ⟨item, .ok ()⟩ hphase (by simp) sink' _ (by simp) (by simp)
        rfl
  | fails item hphase fault hthere sink world' hwrite =>
      obtain ⟨sink', rfl⟩ := NotedSink.eq_note_of_write hwrite
      exact .goesOn ⟨item, .error fault⟩ hphase (by simp [hthere]) sink' _
        (by simp [hthere]) (by simp [hthere]) rfl
  | loses item hphase fault hgone sink world' hwrite =>
      obtain ⟨sink', rfl⟩ := NotedSink.eq_note_of_write hwrite
      obtain ⟨sink, flushed, closed, hended⟩ := Outlet.windDown_eq
        (Outlet.close { outlet with
          sink := outlet.sink.note sink' (.write ⟨item, .error fault⟩) }) world'
      rw [hended]
      exact .loses ⟨item, .error fault⟩ hphase (by simp [hgone]) sink flushed
        closed

/-- The outlet with the sink itself. -/
def unnoted (outlet : Outlet (NotedSink σ α) α) : Outlet σ α where
  name := outlet.name
  policy := outlet.policy
  queue := outlet.queue
  metrics := outlet.metrics
  phase := outlet.phase
  sink := outlet.sink.sink

theorem unnoted_written [Sink σ ω α] (outlet : Outlet (NotedSink σ α) α)
    (result : Except Fault Unit) (world : ω) :
    ((outlet.written result world).1.unnoted, (outlet.written result world).2) =
      outlet.unnoted.written result world := by
  unfold written
  split <;> rfl

theorem unnoted_work? [Sink σ ω α] (outlet : Outlet (NotedSink σ α) α)
    (world : ω) :
    (outlet.work? world).map (fun result => (result.1.unnoted, result.2)) =
      outlet.unnoted.work? world := by
  unfold work?
  rw [show outlet.unnoted.phase = outlet.phase from rfl,
    show outlet.unnoted.queue = outlet.queue from rfl]
  cases outlet.phase with
  | ended => rfl
  | idle =>
      rcases outlet.queue.receive with ⟨queue, item?⟩
      cases item? with
      | some item => rfl
      | none => cases hopen : outlet.queue.isOpen <;> rfl
  | writing item =>
      change Option.map _ ((Option.map _ (Sink.write item
        (outlet.sink.sink, world))).bind _) =
          (Sink.write item (outlet.sink.sink, world)).bind _
      cases Sink.write item (outlet.sink.sink, world) with
      | none => rfl
      | some result =>
          exact congrArg some (unnoted_written { outlet with
            sink := outlet.sink.note _ _ } _ _)

/-- Taking note of the calls makes no difference to an outlet. -/
theorem unnoted_act [Sink σ ω α] (outlet : Outlet (NotedSink σ α) α)
    (act : OutletAct ω α) :
    (outlet.act act).unnoted = outlet.unnoted.act act := by
  cases act with
  | offer item => rfl
  | close => rfl
  | work world =>
      simp only [Outlet.act, ← unnoted_work?]
      cases outlet.work? world <;> rfl

theorem unnoted_run [Sink σ ω α] (outlet : Outlet (NotedSink σ α) α)
    (acts : List (OutletAct ω α)) :
    (outlet.run acts).unnoted = outlet.unnoted.run acts := by
  induction acts generalizing outlet with
  | nil => rfl
  | cons act acts ih =>
      change ((outlet.act act).run acts).unnoted =
        (outlet.unnoted.act act).run acts
      rw [ih, unnoted_act]

end Outlet

namespace OutletMetrics

variable (metrics : OutletMetrics) (outcome : Offer)

@[simp]
theorem written_record : (metrics.record outcome).written = metrics.written := by
  cases outcome <;> rfl

@[simp]
theorem failed_record : (metrics.record outcome).failed = metrics.failed := by
  cases outcome <;> rfl

@[simp]
theorem dropped_record : (metrics.record outcome).dropped =
    metrics.dropped + if outcome.isDrop then 1 else 0 := by
  cases outcome <;> rfl

end OutletMetrics

/-! An outlet from its creation. -/

/-- An outlet whose sink takes note of its calls, and the items that were
offered to it with what their offers came to. -/
structure OutletLife (σ α : Type) where
  outlet : Outlet (NotedSink σ α) α
  offered : List (α × Offer) := []

namespace OutletLife

def start (name : String) (capacity : Nat) (policy : DropPolicy) (sink : σ) :
    OutletLife σ α where
  outlet := .create name capacity policy { sink }

def act [Sink σ ω α] (life : OutletLife σ α) (act : OutletAct ω α) :
    OutletLife σ α where
  outlet := life.outlet.act act
  offered :=
    match act with
    | .offer item => life.offered ++ [(item, (life.outlet.offer item).2)]
    | .close | .work _ => life.offered

def run [Sink σ ω α] (life : OutletLife σ α) (acts : List (OutletAct ω α)) :
    OutletLife σ α :=
  acts.foldl act life

def writes (life : OutletLife σ α) : List (SinkWrite α) :=
  life.outlet.sink.writes

/-- How many writes came to an outcome. -/
def count (life : OutletLife σ α) (outcome : WriteOutcome) : Nat :=
  life.writes.countP (·.outcome = outcome)

/-- The other end of the sink is gone. -/
def hasLost (life : OutletLife σ α) : Bool :=
  life.writes.any (·.outcome = .lost)

/-- The queue of the outlet, where what was handed to the worker counts as
received. -/
def queueLife (life : OutletLife σ α) : QueueLife α where
  policy := life.outlet.policy
  queue := life.outlet.queue
  offered := life.offered
  received := life.writes.map SinkWrite.item ++ life.outlet.inHand

variable {life : OutletLife σ α}

@[simp]
theorem run_cons [Sink σ ω α] (act : OutletAct ω α)
    (acts : List (OutletAct ω α)) :
    life.run (act :: acts) = (life.act act).run acts := rfl

theorem outlet_run [Sink σ ω α] (acts : List (OutletAct ω α)) :
    (life.run acts).outlet = life.outlet.run acts := by
  induction acts generalizing life with
  | nil => rfl
  | cons act acts ih => exact ih

theorem act_work_of_none [Sink σ ω α] {world : ω}
    (h : life.outlet.work? world = none) : life.act (.work world) = life := by
  simp [act, Outlet.act, h]

theorem act_work_of_some [Sink σ ω α] {world : ω}
    {result : Outlet (NotedSink σ α) α × ω}
    (h : life.outlet.work? world = some result) :
    life.act (.work world) = { life with outlet := result.1 } := by
  simp [act, Outlet.act, h]

/-- Whatever is done to an outlet, its queue and what was handed to its worker
change as a queue from which items are received. -/
theorem queueLife_act [Sink σ ω α] (life : OutletLife σ α)
    (act : OutletAct ω α) :
    ∃ acts, (life.act act).queueLife = life.queueLife.run acts := by
  cases act with
  | offer item => exact ⟨[.offer item], rfl⟩
  | close => exact ⟨[.close], rfl⟩
  | work world =>
      cases hwork : life.outlet.work? world with
      | none => exact ⟨[], by rw [act_work_of_none hwork]; rfl⟩
      | some result =>
          rw [act_work_of_some hwork]
          have hnoted := (Outlet.works_of_work? hwork).noted
          generalize result.1 = outlet at hnoted ⊢
          cases hnoted with
          | takes hphase item rest hitems =>
              refine ⟨[.receive], ?_⟩
              simp [queueLife, QueueLife.act, Queue.receive, hitems, writes,
                Outlet.inHand, hphase]
          | ends hphase =>
              refine ⟨[], ?_⟩
              simp [queueLife, writes, Outlet.inHand, hphase]
          | goesOn write hphase =>
              refine ⟨[], ?_⟩
              simp [queueLife, writes, Outlet.inHand, hphase]
          | loses write hphase =>
              refine ⟨[.close], ?_⟩
              simp [queueLife, QueueLife.act, writes, Outlet.inHand, hphase,
                Outlet.close]

/-- The calls of a sink after all writes. -/
inductive ClosingCalls : Bool → List (SinkCall α) → Prop where
  | running : ClosingCalls false []
  | ended (flushed closed : Except Fault Unit) :
      ClosingCalls true [.flush flushed, .close closed]

/-- What the sink was asked for agrees with the counts of the outlet and with
what the worker is doing. -/
structure Noted (life : OutletLife σ α) : Prop where
  calls : ∃ closing, ClosingCalls life.outlet.hasEnded closing ∧
    life.outlet.sink.calls = life.writes.map .write ++ closing
  written : life.outlet.metrics.written = life.count .written
  failed : life.outlet.metrics.failed = life.count .failed
  dropped : life.outlet.metrics.dropped = life.queueLife.drops
  /-- Only the latest write may have found the other end gone. -/
  earlier : ∀ write ∈ life.writes.dropLast, write.outcome ≠ .lost
  lost : life.hasLost = true → life.outlet.hasEnded = true
  ended : life.outlet.hasEnded = true → life.outlet.isClosed = true ∧
    (life.hasLost = true ∨ life.outlet.queue.items = [])

namespace Noted

theorem calls_of_running (h : life.Noted)
    (hrunning : life.outlet.hasEnded = false) :
    life.outlet.sink.calls = life.writes.map .write := by
  obtain ⟨closing, hclosing, hcalls⟩ := h.calls
  rw [hrunning] at hclosing
  cases hclosing
  rw [hcalls, List.append_nil]

theorem not_lost_of_running (h : life.Noted)
    (hrunning : life.outlet.hasEnded = false) :
    ∀ write ∈ life.writes, write.outcome ≠ .lost := by
  intro write hwrite hlost
  have hany : life.hasLost = true :=
    List.any_eq_true.mpr ⟨write, hwrite, by simp [hlost]⟩
  rw [h.lost hany] at hrunning
  cases hrunning

theorem offer [Sink σ ω α] (h : life.Noted) (item : α) :
    (life.act (.offer item : OutletAct ω α)).Noted where
  calls := h.calls
  written := (OutletMetrics.written_record ..).trans h.written
  failed := (OutletMetrics.failed_record ..).trans h.failed
  dropped := by
    refine (OutletMetrics.dropped_record ..).trans ?_
    rw [h.dropped]
    exact (life.queueLife.drops_offer item).symm
  earlier := h.earlier
  lost := h.lost
  ended := by
    intro hended
    obtain ⟨hclosed, hrest⟩ := h.ended hended
    have hshut : life.outlet.queue.isOpen = false := by
      simpa [Outlet.isClosed] using hclosed
    have hsame : (life.outlet.queue.offer life.outlet.policy item).1 =
        life.outlet.queue := by
      simp only [Queue.offer, Queue.trySend_of_closed item hshut]
    refine ⟨?_, hrest.imp_right fun hitems => ?_⟩
    · simpa [act, Outlet.act, Outlet.offer, Outlet.isClosed, hsame] using hshut
    · simpa [act, Outlet.act, Outlet.offer, hsame] using hitems

theorem close [Sink σ ω α] (h : life.Noted) :
    (life.act (.close : OutletAct ω α)).Noted where
  calls := h.calls
  written := h.written
  failed := h.failed
  dropped := h.dropped
  earlier := h.earlier
  lost := h.lost
  ended hended := ⟨rfl, (h.ended hended).2⟩

theorem work [Sink σ ω α] (h : life.Noted) (world : ω) :
    (life.act (.work world)).Noted := by
  cases hwork : life.outlet.work? world with
  | none =>
      rw [act_work_of_none hwork]
      exact h
  | some result =>
      rw [act_work_of_some hwork]
      -- A worker that takes a step has not ended, so that all calls until now
      -- are writes, and none of them has found the other end gone.
      have hrunning : life.outlet.hasEnded = false := by
        cases hended : life.outlet.hasEnded with
        | false => rfl
        | true =>
            rw [Outlet.work?_eq_none_iff.mpr (Or.inl hended)] at hwork
            cases hwork
      have hcalls := h.calls_of_running hrunning
      have hnone := h.not_lost_of_running hrunning
      have hnoted := (Outlet.works_of_work? hwork).noted
      generalize result.1 = outlet at hnoted ⊢
      cases hnoted with
      | takes hphase item rest hitems =>
          exact
            { calls := ⟨[], .running, by simpa [writes] using hcalls⟩
              written := h.written
              failed := h.failed
              dropped := h.dropped
              earlier := h.earlier
              lost := fun hlost => by
                rw [h.lost hlost] at hrunning
                cases hrunning
              ended := fun hended => by cases hended }
      | ends hphase hitems hclosed sink flushed closed =>
          exact
            { calls := ⟨_, .ended flushed closed, by simp [writes, hcalls]⟩
              written := by simpa [count, writes] using h.written
              failed := by simpa [count, writes] using h.failed
              dropped := h.dropped
              earlier := by simpa [writes] using h.earlier
              lost := fun _ => rfl
              ended := fun _ => ⟨hclosed, Or.inr hitems⟩ }
      | goesOn write hphase hthere sink metrics hwritten hfailed hdropped =>
          exact
            { calls := ⟨[], .running, by simp [writes, hcalls]⟩
              written := by
                rw [hwritten, h.written]
                simp [count, writes]
              failed := by
                rw [hfailed, h.failed]
                simp [count, writes]
              dropped := hdropped.trans h.dropped
              earlier := by simpa [writes] using hnone
              lost := fun hlost => by
                have hbefore : life.hasLost = true := by
                  simpa [hasLost, writes, hthere] using hlost
                rw [h.lost hbefore] at hrunning
                cases hrunning
              ended := fun hended => by cases hended }
      | loses write hphase hgone sink flushed closed =>
          exact
            { calls := ⟨_, .ended flushed closed, by simp [writes, hcalls]⟩
              written := by
                simpa [count, writes, Outlet.close, hgone] using h.written
              failed := by
                simpa [count, writes, Outlet.close, hgone] using h.failed
              dropped := h.dropped
              earlier := by simpa [writes] using hnone
              lost := fun _ => rfl
              ended := fun _ => ⟨rfl, Or.inl (by
                simp [hasLost, writes, hgone])⟩ }

theorem act [Sink σ ω α] (h : life.Noted) (act : OutletAct ω α) :
    (life.act act).Noted := by
  cases act with
  | offer item => exact h.offer item
  | close => exact h.close
  | work world => exact h.work world

theorem run [Sink σ ω α] (h : life.Noted) (acts : List (OutletAct ω α)) :
    (life.run acts).Noted := by
  induction acts generalizing life with
  | nil => exact h
  | cons act acts ih =>
      rw [run_cons]
      exact ih (h.act act)

end Noted

/-! Whole runs. -/

theorem noted_start (name : String) (capacity : Nat) (policy : DropPolicy)
    (sink : σ) : (start name capacity policy sink : OutletLife σ α).Noted where
  calls := ⟨[], .running, rfl⟩
  written := rfl
  failed := rfl
  dropped := rfl
  earlier := by
    intro write hwrite
    cases hwrite
  lost := by
    intro hlost
    cases hlost
  ended := by
    intro hended
    cases hended

theorem queueLife_run [Sink σ ω α] (life : OutletLife σ α)
    (acts : List (OutletAct ω α)) :
    ∃ queueActs, (life.run acts).queueLife = life.queueLife.run queueActs := by
  induction acts generalizing life with
  | nil => exact ⟨[], rfl⟩
  | cons act acts ih =>
      obtain ⟨first, hfirst⟩ := life.queueLife_act act
      obtain ⟨rest, hrest⟩ := ih (life.act act)
      refine ⟨first ++ rest, ?_⟩
      rw [run_cons, hrest, hfirst, QueueLife.run, QueueLife.run, QueueLife.run,
        List.foldl_append]

theorem offered_run [Sink σ ω α] (life : OutletLife σ α)
    (acts : List (OutletAct ω α)) :
    (life.run acts).offered.map Prod.fst =
      life.offered.map Prod.fst ++ acts.filterMap OutletAct.item? := by
  induction acts generalizing life with
  | nil => simp [run]
  | cons act acts ih =>
      rw [run_cons, ih]
      cases act <;> simp [OutletLife.act, OutletAct.item?, List.filterMap_cons]

/-- A worker that has ended asks its sink for nothing more. -/
theorem sink_run_of_hasEnded [Sink σ ω α] (acts : List (OutletAct ω α))
    (h : life.outlet.hasEnded = true) :
    (life.run acts).outlet.sink = life.outlet.sink := by
  induction acts generalizing life with
  | nil => rfl
  | cons act acts ih =>
      rw [run_cons]
      cases act with
      | offer item => exact ih h
      | close => exact ih h
      | work world =>
          rw [act_work_of_none (Outlet.work?_eq_none_iff.mpr (Or.inl h))]
          exact ih h

/-- Nothing else closes an outlet than a close and a sink whose other end is
gone. -/
theorem hasLost_act_of_isClosed [Sink σ ω α] {act : OutletAct ω α}
    (hact : act ≠ .close)
    (h : life.outlet.isClosed = true → life.hasLost = true)
    (hclosed : (life.act act).outlet.isClosed = true) :
    (life.act act).hasLost = true := by
  cases act with
  | offer item =>
      apply h
      rw [Outlet.isClosed, Bool.not_eq_true'] at hclosed ⊢
      refine Eq.trans (Eq.symm ?_) hclosed
      exact Queue.isOpen_offer ..
  | close => exact absurd rfl hact
  | work world =>
      cases hwork : life.outlet.work? world with
      | none =>
          rw [act_work_of_none hwork] at hclosed ⊢
          exact h hclosed
      | some result =>
          rw [act_work_of_some hwork] at hclosed ⊢
          have hnoted := (Outlet.works_of_work? hwork).noted
          generalize result.1 = outlet at hnoted hclosed ⊢
          cases hnoted with
          | takes => exact h hclosed
          | ends => simpa [hasLost, writes] using h hclosed
          | goesOn write hphase hthere =>
              simpa [hasLost, writes, hthere] using h hclosed
          | loses write hphase hgone => simp [hasLost, writes, hgone]

theorem hasLost_run_of_isClosed [Sink σ ω α] {acts : List (OutletAct ω α)}
    (hacts : ∀ act ∈ acts, act ≠ .close)
    (h : life.outlet.isClosed = true → life.hasLost = true)
    (hclosed : (life.run acts).outlet.isClosed = true) :
    (life.run acts).hasLost = true := by
  induction acts generalizing life with
  | nil => exact h hclosed
  | cons act acts ih =>
      rw [List.forall_mem_cons] at hacts
      exact ih hacts.2 (hasLost_act_of_isClosed hacts.1 h) hclosed

/-- Every write came to one of three things. -/
theorem count_add (life : OutletLife σ α) :
    life.count .written + life.count .failed + life.count .lost =
      life.writes.length := by
  unfold count
  induction life.writes with
  | nil => rfl
  | cons write writes ih =>
      simp only [List.countP_cons, List.length_cons]
      cases write.outcome <;> simp <;> omega

theorem Noted.count_lost (h : life.Noted) :
    life.count .lost = if life.hasLost then 1 else 0 := by
  have hearlier := h.earlier
  unfold count hasLost
  rcases List.eq_nil_or_concat life.writes with hnone | ⟨before, last, hwrites⟩
  · simp [hnone]
  · rw [hwrites] at hearlier ⊢
    rw [List.concat_eq_append, List.dropLast_concat] at hearlier
    have hbefore : before.countP (·.outcome = .lost) = 0 := by
      rw [List.countP_eq_zero]
      intro write hwrite
      simpa using hearlier write hwrite
    have hany : before.any (·.outcome = .lost) = false := by
      simpa using hearlier
    simp [List.countP_append, hbefore, hany]

theorem Noted.offer_closed [Sink σ ω α] (h : life.Noted)
    (hlost : life.hasLost = true) (item : α) :
    (life.outlet.offer item).2 = .closed := by
  have hshut : life.outlet.queue.isOpen = false := by
    simpa [Outlet.isClosed] using (h.ended (h.lost hlost)).1
  simp only [Outlet.offer, Queue.offer, Queue.trySend_of_closed item hshut]

theorem Noted.waiting_eq_nil (h : life.Noted)
    (hended : life.outlet.hasEnded = true) (hnone : life.hasLost = false) :
    life.outlet.waiting = [] := by
  have hempty : life.outlet.queue.items = [] := by
    rcases (h.ended hended).2 with hlost | hempty
    · rw [hnone] at hlost
      cases hlost
    · exact hempty
  simp [Outlet.waiting, Outlet.inHand, Outlet.hasEnded_iff.mp hended, hempty]

/-- What was written or is still to come is in the order of the offers. -/
theorem kept_sublist (h : life.queueLife.Balanced) :
    (life.writes.map SinkWrite.item ++ life.outlet.waiting).Sublist
      life.queueLife.accepted := by
  simpa [QueueLife.kept, queueLife, Outlet.waiting] using h.order

/-- What is not kept was lost, and there were as many drops. -/
theorem Noted.exists_lost (h : life.Noted)
    (hbalanced : life.queueLife.Balanced) :
    ∃ lost, life.queueLife.accepted.Perm
        (life.writes.map SinkWrite.item ++ life.outlet.waiting ++ lost) ∧
      lost.length = life.outlet.metrics.dropped := by
  obtain ⟨lost, hperm⟩ := (kept_sublist hbalanced).exists_perm_append
  refine ⟨lost, hperm, ?_⟩
  have hlength := hperm.length_eq
  rw [hbalanced.count, ← h.dropped] at hlength
  simp only [queueLife, Queue.size, Outlet.waiting,
    List.length_append] at hlength
  omega

theorem balanced_run_start [Sink σ ω α] (name : String) (policy : DropPolicy)
    {capacity : Nat} (hroom : 0 < capacity) (sink : σ)
    (acts : List (OutletAct ω α)) :
    ((start name capacity policy sink).run acts).queueLife.Balanced := by
  obtain ⟨queueActs, hqueue⟩ :=
    (start name capacity policy sink : OutletLife σ α).queueLife_run acts
  rw [hqueue]
  exact QueueLife.Balanced.run ⟨List.Sublist.refl _, rfl⟩
    (QueueLife.fits_start policy hroom) queueActs

/-- A worker ends because it is told to, or because the other end of its sink
is gone. -/
theorem hasLost_or_close_mem [Sink σ ω α] {acts : List (OutletAct ω α)}
    (h : (life.run acts).Noted)
    (hopen : life.outlet.isClosed = false)
    (hended : (life.run acts).outlet.hasEnded = true) :
    (life.run acts).hasLost = true ∨ .close ∈ acts := by
  by_cases hclose : .close ∈ acts
  · exact Or.inr hclose
  · left
    apply hasLost_run_of_isClosed _ _ (h.ended hended).1
    · rintro act hact rfl
      exact hclose hact
    · intro hclosed
      rw [hopen] at hclosed
      cases hclosed

end OutletLife

open OutletLife in
/-- Whatever is offered to an outlet, and whatever its sink says, each item is
accounted for once, and the worker ends in order. -/
theorem worker_accounts_for_every_item [Sink σ ω α] (name : String)
    (policy : DropPolicy) {capacity : Nat} (hroom : 0 < capacity) (sink : σ)
    (acts : List (OutletAct ω α)) :
    let life := (start name capacity policy sink).run acts
    life.outlet.unnoted = (Outlet.create name capacity policy sink).run acts ∧
    life.offered.map Prod.fst = acts.filterMap OutletAct.item? ∧
    (life.writes.map SinkWrite.item).Sublist
      (acts.filterMap OutletAct.item?) ∧
    life.outlet.metrics.written = life.count .written ∧
    life.outlet.metrics.failed = life.count .failed ∧
    life.outlet.metrics.written + life.outlet.metrics.failed +
      (if life.hasLost then 1 else 0) = life.writes.length ∧
    (∀ write ∈ life.writes.dropLast, write.outcome ≠ .lost) ∧
    (life.hasLost = true → life.outlet.hasEnded = true ∧
      ∀ later item, ((life.run later).outlet.offer item).2 = .closed) ∧
    (life.outlet.hasEnded = true → ∀ later,
      (life.run later).outlet.sink.calls = life.outlet.sink.calls) ∧
    (life.outlet.hasEnded = true → life.hasLost = true ∨ .close ∈ acts) ∧
    (∃ closing, ClosingCalls life.outlet.hasEnded closing ∧
      life.outlet.sink.calls = life.writes.map .write ++ closing) ∧
    (∃ lost, life.queueLife.accepted.Perm
        (life.writes.map SinkWrite.item ++ life.outlet.waiting ++ lost) ∧
      lost.length = life.outlet.metrics.dropped) ∧
    (life.outlet.hasEnded = true → life.hasLost = false →
      life.outlet.waiting = []) ∧
    (∀ world : ω, life.outlet.work? world = none ↔
      life.outlet.hasEnded = true ∨
      (life.outlet.phase = .idle ∧ life.outlet.queue.items = [] ∧
        life.outlet.isClosed = false) ∨
      ∃ item, life.outlet.phase = .writing item ∧
        Sink.write item (life.outlet.sink, world) = none) ∧
    (life.outlet.isClosed = true →
      (∀ (item : α) (state : σ × ω), (Sink.write item state).isSome) →
      ∀ worlds : List ω, life.outlet.toDo ≤ worlds.length →
        (life.run (worlds.map .work)).outlet.hasEnded = true) := by
  intro life
  have hnoted : life.Noted := (noted_start name capacity policy sink).run acts
  have hbalanced : life.queueLife.Balanced :=
    balanced_run_start name policy hroom sink acts
  have hitems : life.offered.map Prod.fst = acts.filterMap OutletAct.item? :=
    offered_run _ acts
  have hstays : life.outlet.hasEnded = true → ∀ later : List (OutletAct ω α),
      (life.run later).outlet.sink = life.outlet.sink :=
    fun hended later => sink_run_of_hasEnded later hended
  refine ⟨?_, hitems, ?_, hnoted.written, hnoted.failed, ?_,
    hnoted.earlier, fun hlost => ⟨hnoted.lost hlost, ?_⟩, ?_,
    hasLost_or_close_mem hnoted rfl, hnoted.calls,
    hnoted.exists_lost hbalanced, hnoted.waiting_eq_nil,
    fun world => Outlet.work?_eq_none_iff, ?_⟩
  · rw [show life.outlet = _ from outlet_run acts, Outlet.unnoted_run]
    rfl
  · rw [← hitems]
    exact ((List.sublist_append_left _ _).trans (kept_sublist hbalanced)).trans
      (List.filter_sublist.map Prod.fst)
  · rw [hnoted.written, hnoted.failed, ← hnoted.count_lost, count_add]
  · intro later item
    apply (hnoted.run later).offer_closed
    simpa only [hasLost, writes, hstays (hnoted.lost hlost)] using hlost
  · intro hended later
    rw [hstays hended]
  · intro hclosed hready worlds henough
    rw [outlet_run]
    apply Outlet.hasEnded_run_work _ hclosed henough
    intro item state
    have hsome := hready item (state.1.sink, state.2)
    exact (Option.isSome_map ..).trans hsome

/-- A sink for what its own writes come to. -/
structure Echo where

instance : Sink Echo Unit (Except Fault Unit) where
  write item state := some (item, state)
  flush state := (.ok (), state)
  close state := (.ok (), state)

open OutletLife in
theorem worker_accounts_for_every_item_of_samples :
    0 < 1 ∧
    (let life := (start "echo" 1 .dropOldest Echo.mk).run
      [.offer (.ok ()), .offer (.error (.sinkClosed "echo")), .work (),
        .work ()]
    life.hasLost = true ∧
      (∀ later item, ((life.run later).outlet.offer item).2 = .closed) ∧
      life.outlet.hasEnded = true ∧
      ∀ later, (life.run later).outlet.sink.calls =
        life.outlet.sink.calls) ∧
    (let life := (start "echo" 2 .dropNewest Echo.mk).run
      [.offer (.ok ()), .offer (.error (.sinkWrite "echo" "refused")),
        .offer (.ok ()), .work (), .close]
    life.outlet.isClosed = true ∧
      (life.run (List.replicate 4 (.work ()))).outlet.hasEnded = true) ∧
    (let life := (start "echo" 2 .dropNewest Echo.mk).run
      [.offer (.ok ()), .close, .work (), .work (), .work ()]
    life.outlet.hasEnded = true ∧ life.hasLost = false ∧
      life.outlet.waiting = []) := by
  refine ⟨by decide, ⟨rfl, ?_⟩, ⟨rfl, ?_⟩, rfl, rfl, ?_⟩
  · obtain ⟨-, -, -, -, -, -, -, hlost, hended, -⟩ :=
      worker_accounts_for_every_item "echo" .dropOldest (by decide : 0 < 1)
        Echo.mk [.offer (.ok ()), .offer (.error (.sinkClosed "echo")),
          .work (), .work ()]
    exact ⟨(hlost rfl).2, rfl, hended rfl⟩
  · obtain ⟨-, -, -, -, -, -, -, -, -, -, -, -, -, -, hends⟩ :=
      worker_accounts_for_every_item "echo" .dropNewest (by decide : 0 < 2)
        Echo.mk [.offer (.ok ()), .offer (.error (.sinkWrite "echo" "refused")),
          .offer (.ok ()), .work (), .close]
    exact hends rfl (fun _ _ => rfl) [(), (), (), ()] (by decide)
  · obtain ⟨-, -, -, -, -, -, -, -, -, -, -, -, hnone, -⟩ :=
      worker_accounts_for_every_item "echo" .dropNewest (by decide : 0 < 2)
        Echo.mk [.offer (.ok ()), .close, .work (), .work (), .work ()]
    exact hnone rfl rfl

end LanRelay
