/-
The passes of a fan-out: one for each item, over the outlets that are
registered when the item is taken up.

The sessions of a table stand in no certain order, so in a pass the loop may
turn to any session that has yet to get the item. The workers take their steps
in between, each in whatever world it finds, and outlets may be closed. What the
loop does is written down as it happens; no move depends on what was written
down.

Main statements: `FanoutRun.play?_eq_some_iff`, by which a move does what its
case of `Plays` says, `FanoutRun.exists_move_of_step?`, by which every step of
the loop is a move, and `FanoutRun.Kept.plays`, by which every pass offers its
item once to each outlet of its snapshot.
-/
import LanRelay.Proofs.Flow.Registry
import Mathlib.Algebra.Ring.Nat
import Mathlib.Data.List.Basic

namespace LanRelay

variable {σ ω α : Type}

/-- An offer that the loop has made. -/
structure Made (α : Type) where
  item : α
  /-- The session and the number of its outlet. -/
  entry : SessionId × Nat
  outcome : Offer
deriving Repr

structure Pass (α : Type) where
  item : α
  /-- What was registered when the item was taken up. -/
  snapshot : List (SessionId × Nat)
  offers : List (Made α) := []
  /-- The sessions that were removed. -/
  evicted : List SessionId := []
deriving Repr

namespace Pass

def note (pass : Pass α) (made : Made α) : Pass α :=
  { pass with offers := pass.offers ++ [made] }

def evict (pass : Pass α) (id : SessionId) (removed : Bool) : Pass α :=
  if removed then { pass with evicted := pass.evicted ++ [id] } else pass

/-- What has been offered the item so far. -/
def entries (pass : Pass α) : List (SessionId × Nat) :=
  pass.offers.map (·.entry)

end Pass

/-- The item of the loop, and the entries that have yet to get it. -/
def FanoutLoop.task? : FanoutLoop α → Option (α × List (SessionId × Nat))
  | offering item pending | evicting _ item pending => some (item, pending)
  | waiting | ended => none

/-- A fan-out, and what its loop has done since it was started. -/
structure FanoutRun (σ α : Type) where
  fanout : Fanout σ α
  /-- The passes that are over, the first one at the head. -/
  finished : List (Pass α) := []
  /-- The pass that the loop is in. -/
  current : Option (Pass α) := none

/-- What happens next around a fan-out. -/
inductive FanoutMove (ω : Type) where
  /-- The loop takes an item up, or finds that there will be none. -/
  | take
  /-- The loop turns to a session that has yet to get the item. -/
  | offer (id : SessionId)
  /-- The loop removes the session that it has judged. -/
  | evict (id : SessionId)
  /-- The loop has come to the end of a pass. -/
  | finish
  /-- The loop heeds a call to stop. -/
  | stop
  /-- The worker of an outlet takes a step in the world that it finds. -/
  | work (number : Nat) (world : ω)
  /-- Somebody closes an outlet. -/
  | close (number : Nat)

/-- The loop makes the move, and not somebody else. -/
def FanoutMove.isOfLoop : FanoutMove ω → Bool
  | take | offer _ | evict _ | finish | stop => true
  | work .. | close _ => false

namespace FanoutRun

/-- The run of a fan-out that is started. -/
def start (fanout : Fanout σ α) : FanoutRun σ α := { fanout := fanout.start }

def withRegistry (run : FanoutRun σ α) (registry : Registry σ α) :
    FanoutRun σ α :=
  { run with fanout := { run.fanout with registry } }

def task? (run : FanoutRun σ α) : Option (α × List (SessionId × Nat)) :=
  run.fanout.loop.bind FanoutLoop.task?

/-- The entries that have yet to get the item of the loop. -/
def pending (run : FanoutRun σ α) : List (SessionId × Nat) :=
  (run.task?.map Prod.snd).getD []

/-- All passes, the one that the loop is in at the end. -/
def passes (run : FanoutRun σ α) : List (Pass α) :=
  run.finished ++ run.current.toList

/-- All offers that the loop has made. -/
def offers (run : FanoutRun σ α) : List (Made α) :=
  run.passes.flatMap (·.offers)

/-- The run after a move, if that is possible now. -/
def play? [Sink σ ω α] (run : FanoutRun σ α) :
    FanoutMove ω → Option (FanoutRun σ α)
  | .take =>
      match run.fanout.loop with
      | some .waiting =>
          run.fanout.step?.map fun fanout =>
            { run with
              fanout
              current := (fanout.loop.bind FanoutLoop.task?).map fun task =>
                { item := task.1, snapshot := run.fanout.registry.snapshot } }
      | _ => none
  | .offer id =>
      match run.fanout.loop with
      | some (.offering item pending) => do
          let entry ← pending.find? (·.1 = id)
          let others := pending.filter (·.1 ≠ id)
          let fanout ← Fanout.step?
            { run.fanout with loop := some (.offering item (entry :: others)) }
          let outcome := (run.fanout.registry.offer entry.2 item).2
          return { run with
            fanout
            current := run.current.map (·.note { item, entry, outcome }) }
      | _ => none
  | .evict id =>
      match run.fanout.loop with
      | some (.evicting judged _ _) =>
          if judged = id then
            run.fanout.step?.map fun fanout =>
              { run with
                fanout
                current := run.current.map
                  (·.evict id (run.fanout.registry.contains id)) }
          else none
      | _ => none
  | .finish =>
      match run.fanout.loop with
      | some (.offering _ []) =>
          run.fanout.step?.map fun fanout =>
            { fanout, finished := run.passes, current := none }
      | _ => none
  | .stop => run.fanout.stop?.map fun fanout => { run with fanout }
  | .work number world =>
      (run.fanout.work? number world).map fun (fanout, _) =>
        { run with fanout }
  | .close number =>
      some (run.withRegistry (run.fanout.registry.adjust number Outlet.close))

/-- The run after some moves, if they are possible one after the other. -/
def playAll? [Sink σ ω α] (run : FanoutRun σ α) :
    List (FanoutMove ω) → Option (FanoutRun σ α)
  | [] => some run
  | move :: moves => (run.play? move).bind (·.playAll? moves)

/-! What a move does. -/

/-- The loop has taken an item up. -/
def took (run : FanoutRun σ α) (source : Queue α) (item : α) :
    FanoutRun σ α :=
  let snapshot := run.fanout.registry.snapshot
  let totals := run.fanout.totals
  { run with
    fanout := { run.fanout with
      source
      loop := some (.offering item snapshot)
      totals := { totals with items := totals.items + 1 } }
    current := some { item, snapshot } }

/-- The loop has ended. -/
def ended (run : FanoutRun σ α) : FanoutRun σ α :=
  { run with
    fanout := { run.fanout with loop := some .ended }
    current := none }

/-- The loop has offered the item to an outlet. -/
def offered (run : FanoutRun σ α) (item : α) (entry : SessionId × Nat)
    (pending : List (SessionId × Nat)) : FanoutRun σ α :=
  let registry := run.fanout.registry.offer entry.2 item
  { run with
    fanout := { run.fanout with registry := registry.1 }.judge registry.2
      entry.1 entry.2 item pending
    current := run.current.map
      (·.note { item, entry, outcome := registry.2 }) }

/-- The loop has removed the session that it had judged. -/
def evicted (run : FanoutRun σ α) (id : SessionId) (item : α)
    (pending : List (SessionId × Nat)) : FanoutRun σ α :=
  { run with
    fanout := run.fanout.evict id item pending
    current := run.current.map
      (·.evict id (run.fanout.registry.contains id)) }

/-- The loop has come to the end of a pass. -/
def passed (run : FanoutRun σ α) : FanoutRun σ α where
  fanout := { run.fanout with loop := some .waiting }
  finished := run.passes
  current := none

/-- The cases of a move. -/
inductive Plays [Sink σ ω α] (run : FanoutRun σ α) :
    FanoutMove ω → FanoutRun σ α → Prop where
  | took (source : Queue α) (item : α)
      (hloop : run.fanout.loop = some .waiting)
      (hreceive : run.fanout.source.receive = (source, some item)) :
      Plays run .take (run.took source item)
  | ended (source : Queue α) (hloop : run.fanout.loop = some .waiting)
      (hempty : run.fanout.source.receive = (source, none))
      (hclosed : run.fanout.source.isOpen = false) :
      Plays run .take run.ended
  | offered (id : SessionId) (item : α) (entry : SessionId × Nat)
      (pending : List (SessionId × Nat))
      (hloop : run.fanout.loop = some (.offering item pending))
      (hentry : pending.find? (·.1 = id) = some entry) :
      Plays run (.offer id)
        (run.offered item entry (pending.filter (·.1 ≠ id)))
  | evicted (id : SessionId) (item : α) (pending : List (SessionId × Nat))
      (hloop : run.fanout.loop = some (.evicting id item pending)) :
      Plays run (.evict id) (run.evicted id item pending)
  | passed (item : α) (hloop : run.fanout.loop = some (.offering item [])) :
      Plays run .finish run.passed
  | stopped (hloop : run.fanout.loop = some .waiting) :
      Plays run .stop
        { run with fanout := { run.fanout with loop := some .ended } }
  | worked (number : Nat) (world world' : ω) (outlet outlet' : Outlet σ α)
      (houtlet : run.fanout.registry.outlets[number]? = some outlet)
      (hwork : outlet.work? world = some (outlet', world')) :
      Plays run (.work number world)
        (run.withRegistry { run.fanout.registry with
          outlets := run.fanout.registry.outlets.set number outlet' })
  | closed (number : Nat) :
      Plays run (.close number)
        (run.withRegistry (run.fanout.registry.adjust number Outlet.close))

variable [Sink σ ω α] {run run' : FanoutRun σ α}

theorem plays_of_take (h : run.play? (.take : FanoutMove ω) = some run') :
    Plays run (.take : FanoutMove ω) run' := by
  simp only [play?] at h
  split at h
  · rename_i hloop
    obtain ⟨fanout, hstep, rfl⟩ := Option.map_eq_some_iff.mp h
    simp only [Fanout.step?, hloop, Fanout.take?] at hstep
    split at hstep
    · rename_i source item hreceive
      cases hstep
      exact .took source item hloop hreceive
    · rename_i source hempty
      split at hstep
      · cases hstep
      · rename_i hclosed
        cases hstep
        exact .ended source hloop hempty (by simpa using hclosed)
  · cases h

theorem step?_offering (fanout : Fanout σ α) (item : α)
    (entry : SessionId × Nat) (pending : List (SessionId × Nat)) :
    Fanout.step?
        { fanout with loop := some (.offering item (entry :: pending)) } =
      some (Fanout.judge
        { fanout with registry := (fanout.registry.offer entry.2 item).1 }
        (fanout.registry.offer entry.2 item).2 entry.1 entry.2 item
        pending) := by
  obtain ⟨id, number⟩ := entry
  simp only [Fanout.step?]
  cases (fanout.registry.offer number item).2 <;> rfl

theorem play?_eq_some_iff {move : FanoutMove ω} :
    run.play? move = some run' ↔ Plays run move run' := by
  constructor
  · intro h
    cases move with
    | take => exact plays_of_take h
    | offer id =>
        simp only [play?] at h
        split at h
        · rename_i item pending hloop
          obtain ⟨entry, hentry, hrest⟩ := Option.bind_eq_some_iff.mp h
          rw [step?_offering] at hrest
          cases hrest
          exact .offered id item entry pending hloop hentry
        · cases h
    | evict id =>
        simp only [play?] at h
        split at h
        · rename_i judged item pending hloop
          split at h
          · rename_i hid
            subst hid
            simp only [Fanout.step?, hloop] at h
            cases h
            exact .evicted judged item pending hloop
          · cases h
        · cases h
    | finish =>
        simp only [play?] at h
        split at h
        · rename_i item hloop
          simp only [Fanout.step?, hloop] at h
          cases h
          exact .passed item hloop
        · cases h
    | stop =>
        obtain ⟨fanout, hstop, rfl⟩ := Option.map_eq_some_iff.mp h
        simp only [Fanout.stop?] at hstop
        split at hstop
        · rename_i hloop
          cases hstop
          exact .stopped hloop
        · cases hstop
    | work number world =>
        obtain ⟨⟨fanout, world'⟩, hwork, rfl⟩ := Option.map_eq_some_iff.mp h
        obtain ⟨outlet, outlet', houtlet, hstep, rfl⟩ :=
          Fanout.eq_of_work? hwork
        exact .worked number world world' outlet outlet' houtlet hstep
    | close number =>
        cases h
        exact .closed number
  · intro h
    cases h with
    | took source item hloop hreceive =>
        simp [play?, hloop, Fanout.step?, Fanout.take?, hreceive, took,
          FanoutLoop.task?]
    | ended source hloop hempty hclosed =>
        simp [play?, hloop, Fanout.step?, Fanout.take?, hempty, hclosed,
          FanoutRun.ended, FanoutLoop.task?]
    | offered id item entry pending hloop hentry =>
        simp [play?, hloop, hentry, step?_offering, offered]
    | evicted id item pending hloop =>
        simp [play?, hloop, Fanout.step?, evicted]
    | passed item hloop =>
        simp [play?, hloop, Fanout.step?, passed]
    | stopped hloop => simp [play?, Fanout.stop?, hloop]
    | worked number world world' outlet outlet' houtlet hwork =>
        simp [play?, Fanout.work?, Registry.work?, houtlet, hwork, withRegistry]
    | closed number => rfl

end FanoutRun

/-! What has been offered and what has yet to be. -/

/-- The entries that have been offered the item of a pass, and those that have
yet to be, are those of its snapshot, each once. -/
structure Pass.Left (pass : Pass α) (pending : List (SessionId × Nat)) :
    Prop where
  perm : (pass.entries ++ pending).Perm pass.snapshot
  nodup : (pass.snapshot.map Prod.fst).Nodup
  items : ∀ made ∈ pass.offers, made.item = pass.item

theorem filter_others {entry : SessionId × Nat}
    {entries : List (SessionId × Nat)}
    (hnodup : ((entry :: entries).map Prod.fst).Nodup) :
    entries.filter (·.1 ≠ entry.1) = entries := by
  rw [List.map_cons, List.nodup_cons] at hnodup
  refine List.filter_eq_self.mpr fun other hother => ?_
  rw [decide_eq_true_iff]
  intro hsame
  exact hnodup.1 (hsame ▸ List.mem_map_of_mem hother)

/-- With the entry of a session in front, the others come after it. -/
theorem cons_filter_perm {entries : List (SessionId × Nat)} {id : SessionId}
    {entry : SessionId × Nat} (hnodup : (entries.map Prod.fst).Nodup)
    (h : entries.find? (·.1 = id) = some entry) :
    (entry :: entries.filter (·.1 ≠ id)).Perm entries := by
  induction entries with
  | nil => cases h
  | cons first entries ih =>
      by_cases hfirst : first.1 = id
      · subst hfirst
        have hothers := filter_others hnodup
        rw [List.find?_cons_of_pos (by simp)] at h
        cases h
        rw [List.filter_cons_of_neg (by simp), hothers]
      · rw [List.map_cons, List.nodup_cons] at hnodup
        rw [List.find?_cons_of_neg (by simpa using hfirst)] at h
        rw [List.filter_cons_of_pos (by simpa using hfirst)]
        exact (List.Perm.swap ..).trans ((ih hnodup.2 h).cons first)

namespace Pass.Left

variable {pass : Pass α} {pending : List (SessionId × Nat)}

theorem nodup_pending (h : pass.Left pending) :
    (pending.map Prod.fst).Nodup := by
  have hnodup := ((h.perm.map Prod.fst).nodup_iff).mpr h.nodup
  rw [List.map_append] at hnodup
  exact (List.nodup_append.mp hnodup).2.1

/-- An offer to one of the entries that have yet to get the item. -/
theorem note (h : pass.Left pending) {id : SessionId}
    {entry : SessionId × Nat} (hentry : pending.find? (·.1 = id) = some entry)
    (outcome : Offer) :
    (pass.note { item := pass.item, entry, outcome }).Left
      (pending.filter (·.1 ≠ id)) where
  perm := by
    have hfront := cons_filter_perm h.nodup_pending hentry
    have hperm := (hfront.append_left pass.entries).trans h.perm
    simpa [Pass.note, Pass.entries] using hperm
  nodup := h.nodup
  items made hmade := by
    rcases List.mem_append.mp hmade with hold | hnew
    · exact h.items made hold
    · rw [List.mem_singleton.mp hnew]
      rfl

theorem evict (h : pass.Left pending) (id : SessionId) (removed : Bool) :
    (pass.evict id removed).Left pending := by
  cases removed with
  | false => exact h
  | true => exact ⟨h.perm, h.nodup, h.items⟩

theorem length_add (h : pass.Left pending) :
    pass.offers.length + pending.length = pass.snapshot.length := by
  simpa [Pass.entries] using h.perm.length_eq

end Pass.Left

namespace Fanout

variable (fanout : Fanout σ α) (outcome : Offer) (id : SessionId)
  (number : Nat) (item : α) (pending : List (SessionId × Nat))

theorem judge_totals :
    (fanout.judge outcome id number item pending).totals =
      { fanout.totals with
        delivered := fanout.totals.delivered +
          if outcome = .queued then 1 else 0
        dropped := fanout.totals.dropped +
          if outcome.isDrop then 1 else 0 } := by
  cases outcome <;> rfl

theorem evict_totals :
    (fanout.evict id item pending).totals =
      { fanout.totals with
        evicted := fanout.totals.evicted +
          if fanout.registry.contains id then 1 else 0 } := by
  have hremoved : (fanout.registry.unregister id).2 =
      fanout.registry.contains id := by
    unfold Registry.unregister
    split <;> rename_i hnumber <;>
      simp [Registry.contains, Keyed.contains, hnumber]
  simp only [evict, hremoved]
  cases fanout.registry.contains id <;> rfl

end Fanout

/-- What a loop counts that has made these passes. -/
def Stats.DispatchTotals.ofPasses (passes : List (Pass α)) :
    Stats.DispatchTotals where
  items := passes.length
  delivered := (passes.flatMap (·.offers)).countP (·.outcome = .queued)
  dropped := (passes.flatMap (·.offers)).countP (·.outcome.isDrop)
  evicted := (passes.flatMap (·.evicted)).length

theorem countP_outcomes (offers : List (Made α)) :
    offers.countP (·.outcome = .queued) + offers.countP (·.outcome.isDrop) +
      offers.countP (·.outcome = .closed) = offers.length := by
  induction offers with
  | nil => rfl
  | cons made offers ih =>
      rw [List.length_cons, ← ih]
      cases houtcome : made.outcome <;>
        simp [houtcome, Offer.isDrop] <;> omega

namespace FanoutRun

/-- What holds of the passes of a run that was started on these items. -/
structure Kept (items : List α) (run : FanoutRun σ α) : Prop where
  busy {item : α} {pending : List (SessionId × Nat)} :
    run.task? = some (item, pending) →
    ∃ pass, run.current = some pass ∧ pass.item = item ∧ pass.Left pending
  idle : run.task? = none → run.current = none
  finished : ∀ pass ∈ run.finished, pass.Left []
  read : run.passes.map (·.item) ++ run.fanout.source.items = items
  totals : run.fanout.totals = .ofPasses run.passes

variable {items : List α} {run run' : FanoutRun σ α}

theorem kept_start (fanout : Fanout σ α) :
    (start fanout).Kept fanout.source.items where
  busy h := by cases h
  idle _ := rfl
  finished _ hpass := absurd hpass List.not_mem_nil
  read := rfl
  totals := rfl

theorem passes_of_current {pass : Pass α} (h : run.current = some pass) :
    run.passes = run.finished ++ [pass] := by
  rw [passes, h, Option.toList_some]

theorem loop_offered (run : FanoutRun σ α) (item : α)
    (entry : SessionId × Nat) (pending : List (SessionId × Nat)) :
    (run.offered item entry pending).fanout.loop =
        some (.offering item pending) ∨
      (run.offered item entry pending).fanout.loop =
        some (.evicting entry.1 item pending) :=
  Fanout.judge_loop ..

theorem loop_evicted (run : FanoutRun σ α) (id : SessionId) (item : α)
    (pending : List (SessionId × Nat)) :
    (run.evicted id item pending).fanout.loop =
      some (.offering item pending) := rfl

theorem task?_offered (run : FanoutRun σ α) (item : α)
    (entry : SessionId × Nat) (pending : List (SessionId × Nat)) :
    (run.offered item entry pending).task? = some (item, pending) := by
  rcases run.loop_offered item entry pending with hloop | hloop
  · rw [task?, hloop]
    rfl
  · rw [task?, hloop]
    rfl

namespace Kept

theorem passes_of_idle (h : run.Kept items) (hidle : run.task? = none) :
    run.passes = run.finished := by
  rw [passes, h.idle hidle, Option.toList_none, List.append_nil]

theorem left_of_current (h : run.Kept items) {pass : Pass α}
    (hpass : run.current = some pass) : pass.Left run.pending := by
  cases htask : run.task? with
  | none =>
      rw [h.idle htask] at hpass
      cases hpass
  | some task =>
      obtain ⟨pass', hpass', -, hleft⟩ := h.busy htask
      obtain rfl : pass' = pass := Option.some.inj (hpass'.symm.trans hpass)
      rw [pending, htask]
      exact hleft

/-- A pass begins with all entries of the table ahead of it. -/
theorem took (h : run.Kept items) {source : Queue α} {item : α}
    (hidle : run.task? = none)
    (hreceive : run.fanout.source.receive = (source, some item)) :
    (run.took source item).Kept items := by
  have hnew : (run.took source item).passes =
      run.passes ++ [⟨item, run.fanout.registry.snapshot, [], []⟩] := by
    rw [h.passes_of_idle hidle]
    rfl
  constructor
  · intro other pending hbusy
    cases hbusy
    exact ⟨_, rfl, rfl, List.Perm.refl _, run.fanout.registry.table.nodup,
      fun _ hmade => absurd hmade List.not_mem_nil⟩
  · intro hnone
    cases hnone
  · exact h.finished
  · rw [hnew, ← h.read, Queue.eq_cons_of_receive hreceive]
    simp [FanoutRun.took]
  · rw [hnew]
    simp [FanoutRun.took, h.totals, Stats.DispatchTotals.ofPasses]

theorem offered (h : run.Kept items) {id : SessionId} {item : α}
    {entry : SessionId × Nat} {pending : List (SessionId × Nat)}
    (hbusy : run.task? = some (item, pending))
    (hentry : pending.find? (·.1 = id) = some entry) :
    (run.offered item entry (pending.filter (·.1 ≠ id))).Kept items := by
  obtain ⟨pass, hpass, rfl, hleft⟩ := h.busy hbusy
  have hread := h.read
  have htotals := h.totals
  rw [passes_of_current hpass] at hread htotals
  have hcurrent : (run.offered pass.item entry
      (pending.filter (·.1 ≠ id))).current = some (pass.note _) :=
    congrArg (Option.map _) hpass
  have htask := run.task?_offered pass.item entry (pending.filter (·.1 ≠ id))
  constructor
  · intro item' pending' hbusy'
    rw [htask] at hbusy'
    cases hbusy'
    exact ⟨_, hcurrent, rfl, hleft.note hentry _⟩
  · intro hidle
    rw [htask] at hidle
    cases hidle
  · exact h.finished
  · rw [passes_of_current hcurrent, ← hread]
    simp [FanoutRun.offered, Pass.note]
  · rw [passes_of_current hcurrent, FanoutRun.offered, Fanout.judge_totals,
      htotals]
    simp [Stats.DispatchTotals.ofPasses, Pass.note, List.countP_singleton,
      Nat.add_assoc]

theorem evicted (h : run.Kept items) {id : SessionId} {item : α}
    {pending : List (SessionId × Nat)}
    (hbusy : run.task? = some (item, pending)) :
    (run.evicted id item pending).Kept items := by
  obtain ⟨pass, hpass, rfl, hleft⟩ := h.busy hbusy
  have hread := h.read
  have htotals := h.totals
  rw [passes_of_current hpass] at hread htotals
  have hcurrent : (run.evicted id pass.item pending).current =
      some (pass.evict id _) := congrArg (Option.map _) hpass
  constructor
  · intro item' pending' hbusy'
    cases hbusy'
    exact ⟨_, hcurrent, by simp [Pass.evict, apply_ite], hleft.evict id _⟩
  · intro hidle
    cases hidle
  · exact h.finished
  · rw [passes_of_current hcurrent, ← hread]
    simp [FanoutRun.evicted, Fanout.evict, Pass.evict, apply_ite]
  · rw [passes_of_current hcurrent, FanoutRun.evicted, Fanout.evict_totals,
      htotals]
    cases run.fanout.registry.contains id <;>
      simp [Stats.DispatchTotals.ofPasses, Pass.evict, Nat.add_assoc]

/-- A pass is over when nothing is left of it. -/
theorem passed (h : run.Kept items) {item : α}
    (hbusy : run.task? = some (item, [])) : run.passed.Kept items := by
  obtain ⟨pass, hpass, rfl, hleft⟩ := h.busy hbusy
  have hpasses : run.passed.passes = run.passes := List.append_nil _
  constructor
  · intro item' pending' hbusy'
    cases hbusy'
  · intro _
    rfl
  · intro pass' hpass'
    rw [FanoutRun.passed, passes_of_current hpass] at hpass'
    rcases List.mem_append.mp hpass' with hold | hnew
    · exact h.finished pass' hold
    · rw [List.mem_singleton.mp hnew]
      exact hleft
  · rw [hpasses]
    exact h.read
  · rw [hpasses]
    exact h.totals

theorem ended (h : run.Kept items) (hidle : run.task? = none) :
    run.ended.Kept items := by
  have hpasses : run.ended.passes = run.passes := by
    rw [h.passes_of_idle hidle]
    exact List.append_nil _
  constructor
  · intro item' pending' hbusy'
    cases hbusy'
  · intro _
    rfl
  · exact h.finished
  · rw [hpasses]
    exact h.read
  · rw [hpasses]
    exact h.totals

theorem withRegistry (h : run.Kept items) (registry : Registry σ α) :
    (run.withRegistry registry).Kept items :=
  ⟨h.busy, h.idle, h.finished, h.read, h.totals⟩

/-- Every move keeps what holds of the passes. -/
theorem plays [Sink σ ω α] (h : run.Kept items) {move : FanoutMove ω}
    (hplays : Plays run move run') : run'.Kept items := by
  cases hplays with
  | took source item hloop hreceive =>
      exact h.took (congrArg (Option.bind · _) hloop) hreceive
  | ended source hloop hempty hclosed =>
      exact h.ended (congrArg (Option.bind · _) hloop)
  | offered id item entry pending hloop hentry =>
      exact h.offered (congrArg (Option.bind · _) hloop) hentry
  | evicted id item pending hloop =>
      exact h.evicted (congrArg (Option.bind · _) hloop)
  | passed item hloop => exact h.passed (congrArg (Option.bind · _) hloop)
  | stopped hloop =>
      have hidle : run.task? = none := congrArg (Option.bind · _) hloop
      have hended := h.ended hidle
      rw [FanoutRun.ended, ← h.idle hidle] at hended
      exact hended
  | worked number world world' outlet outlet' houtlet hwork =>
      exact h.withRegistry _
  | closed number => exact h.withRegistry _

theorem playAll [Sink σ ω α] {moves : List (FanoutMove ω)}
    (h : run.Kept items) (hrun : run.playAll? moves = some run') :
    run'.Kept items := by
  induction moves generalizing run with
  | nil =>
      cases hrun
      exact h
  | cons move moves ih =>
      obtain ⟨next, hmove, hrest⟩ := Option.bind_eq_some_iff.mp hrun
      exact ih (h.plays (play?_eq_some_iff.mp hmove)) hrest

/-- The offers made and those that are still to be made are as many as there
are entries in all snapshots. -/
theorem length_offers_add (h : run.Kept items) :
    run.offers.length + run.pending.length =
      (run.passes.map (·.snapshot.length)).sum := by
  have hfinished : (run.finished.flatMap (·.offers)).length =
      (run.finished.map (·.snapshot.length)).sum := by
    rw [List.length_flatMap]
    congr 1
    exact List.map_congr_left fun pass hpass =>
      (h.finished pass hpass).length_add
  cases htask : run.task? with
  | none =>
      rw [offers, h.passes_of_idle htask, pending, htask, hfinished]
      rfl
  | some task =>
      obtain ⟨item, pending⟩ := task
      obtain ⟨pass, hpass, -, hleft⟩ := h.busy htask
      have hlength := hleft.length_add
      rw [offers, passes_of_current hpass, FanoutRun.pending, htask,
        List.flatMap_append, List.length_append, hfinished, List.map_append,
        List.sum_append, List.flatMap_singleton, List.map_singleton,
        List.sum_singleton, ← hlength]
      exact Nat.add_assoc ..

theorem sum_outcomes (h : run.Kept items) :
    run.fanout.totals.delivered + run.fanout.totals.dropped +
      run.offers.countP (·.outcome = .closed) + run.pending.length =
      (run.passes.map (·.snapshot.length)).sum := by
  rw [← h.length_offers_add, ← countP_outcomes, h.totals]
  rfl

end Kept

/-! What the loop can do by itself. -/

/-- Every step of the loop is a move. -/
theorem exists_move_of_step? [Sink σ ω α] (h : run.Kept items)
    {fanout : Fanout σ α} (hstep : run.fanout.step? = some fanout) :
    ∃ (move : FanoutMove ω) (run' : FanoutRun σ α),
      run.play? move = some run' ∧ run'.fanout = fanout := by
  unfold Fanout.step? at hstep
  split at hstep
  · cases hstep
  · cases hstep
  · rename_i hloop
    refine ⟨.take, ?_⟩
    simp [play?, hloop, Fanout.step?, hstep]
  · rename_i item hloop
    cases hstep
    exact ⟨.finish, _, play?_eq_some_iff.mpr (.passed item hloop), rfl⟩
  · rename_i item id number pending hloop
    obtain ⟨pass, -, -, hleft⟩ := h.busy (congrArg (Option.bind · _) hloop)
    have hfront : ((id, number) :: pending).find? (·.1 = id) =
        some (id, number) := List.find?_cons_of_pos (by simp)
    have hothers : ((id, number) :: pending).filter (·.1 ≠ id) = pending := by
      rw [List.filter_cons_of_neg (by simp)]
      exact filter_others hleft.nodup_pending
    cases hstep
    exact ⟨.offer id, _,
      play?_eq_some_iff.mpr (.offered id item (id, number) _ hloop hfront),
      by rw [hothers]; rfl⟩
  · rename_i id item pending hloop
    cases hstep
    exact ⟨.evict id, _, play?_eq_some_iff.mpr (.evicted id item pending hloop),
      rfl⟩

theorem playAll?_append [Sink σ ω α] (run : FanoutRun σ α)
    (first rest : List (FanoutMove ω)) :
    run.playAll? (first ++ rest) =
      (run.playAll? first).bind (·.playAll? rest) := by
  induction first generalizing run with
  | nil => rfl
  | cons move moves ih =>
      rw [List.cons_append, playAll?, playAll?, Option.bind_assoc]
      congr 1
      funext next
      exact ih next

/-- The loop by itself takes one run to another. -/
def LoopReaches [Sink σ ω α] (run run' : FanoutRun σ α) : Prop :=
  ∃ moves : List (FanoutMove ω), (∀ move ∈ moves, move.isOfLoop = true) ∧
    run.playAll? moves = some run'

theorem LoopReaches.refl [Sink σ ω α] (run : FanoutRun σ α) :
    run.LoopReaches run :=
  ⟨[], fun _ hmove => absurd hmove List.not_mem_nil, rfl⟩

theorem LoopReaches.trans [Sink σ ω α] {next : FanoutRun σ α}
    (h : run.LoopReaches next)
    (h' : next.LoopReaches run') : run.LoopReaches run' := by
  obtain ⟨moves, hmoves, hrun⟩ := h
  obtain ⟨moves', hmoves', hrun'⟩ := h'
  refine ⟨moves ++ moves', List.forall_mem_append.mpr ⟨hmoves, hmoves'⟩, ?_⟩
  rw [playAll?_append, hrun]
  exact hrun'

theorem LoopReaches.head [Sink σ ω α] {next : FanoutRun σ α}
    {move : FanoutMove ω} (hmove : move.isOfLoop = true)
    (hplays : Plays run move next) (h : next.LoopReaches run') :
    run.LoopReaches run' := by
  have hfirst : run.LoopReaches next := by
    refine ⟨[move], List.forall_mem_singleton.mpr hmove, ?_⟩
    rw [playAll?, play?_eq_some_iff.mpr hplays]
    rfl
  exact hfirst.trans h

/-- A pass comes to its end, and no worker has to do anything for that. -/
theorem exists_waiting_of_offering [Sink σ ω α] {item : α} {length : Nat}
    {run : FanoutRun σ α} {pending : List (SessionId × Nat)}
    (hlength : pending.length ≤ length)
    (hloop : run.fanout.loop = some (.offering item pending)) :
    ∃ run', run.LoopReaches run' ∧
      run'.fanout.loop = some .waiting ∧
      run'.fanout.source = run.fanout.source := by
  induction length generalizing run pending with
  | zero =>
      obtain rfl := List.length_eq_zero_iff.mp (Nat.le_zero.mp hlength)
      exact ⟨run.passed, .head rfl (.passed item hloop) (.refl _), rfl, rfl⟩
  | succ length ih =>
      cases pending with
      | nil =>
          exact ⟨run.passed, .head rfl (.passed item hloop) (.refl _), rfl, rfl⟩
      | cons entry rest =>
          have hfront : (entry :: rest).find? (·.1 = entry.1) = some entry :=
            List.find?_cons_of_pos (by simp)
          have hothers : ((entry :: rest).filter (·.1 ≠ entry.1)).length ≤
              length := by
            rw [List.filter_cons_of_neg (by simp)]
            exact Nat.le_trans (List.length_filter_le ..)
              (Nat.le_of_succ_le_succ hlength)
          have hoffer : Plays run (.offer entry.1 : FanoutMove ω) _ :=
            .offered entry.1 item entry _ hloop hfront
          have hsource : (run.offered item entry
              ((entry :: rest).filter (·.1 ≠ entry.1))).fanout.source =
                run.fanout.source := by
            rw [offered, Fanout.judge_source]
          rcases run.loop_offered item entry
            ((entry :: rest).filter (·.1 ≠ entry.1)) with hnext | hnext
          · obtain ⟨run', hrun, hwaiting, hkept⟩ := ih hothers hnext
            exact ⟨run', .head rfl hoffer hrun, hwaiting, hkept.trans hsource⟩
          · have hevict : Plays _ (.evict entry.1 : FanoutMove ω) _ :=
              .evicted entry.1 item _ hnext
            obtain ⟨run', hrun, hwaiting, hkept⟩ :=
              ih hothers (FanoutRun.loop_evicted _ entry.1 item _)
            exact ⟨run', .head rfl hoffer (.head rfl hevict hrun), hwaiting,
              hkept.trans hsource⟩

/-- A loop that waits gets through all items, and no worker has to do anything
for that. -/
theorem exists_drained_of_waiting [Sink σ ω α] {items : List α}
    {run : FanoutRun σ α} (hitems : run.fanout.source.items = items)
    (hloop : run.fanout.loop = some .waiting) :
    ∃ run', run.LoopReaches run' ∧
      run'.fanout.loop = some .waiting ∧ run'.fanout.source.items = [] := by
  induction items generalizing run with
  | nil => exact ⟨run, .refl run, hloop, hitems⟩
  | cons item items ih =>
      have hreceive : run.fanout.source.receive =
          ({ run.fanout.source with items }, some item) := by
        rw [Queue.receive, hitems]
      have htake : Plays run (.take : FanoutMove ω)
          (run.took { run.fanout.source with items } item) :=
        .took _ item hloop hreceive
      obtain ⟨passed, hpass, hwaiting, hsource⟩ :=
        exists_waiting_of_offering (Nat.le_refl _)
          (show (run.took { run.fanout.source with items } item).fanout.loop =
            _ from rfl)
      obtain ⟨run', hrest, hend⟩ := ih (congrArg Queue.items hsource) hwaiting
      exact ⟨run', .head rfl htake (hpass.trans hrest), hend⟩

/-- From wherever it is, a loop that has not ended gets through all items. -/
theorem exists_drained [Sink σ ω α] {run : FanoutRun σ α}
    (h : run.fanout.isAtRest = false) :
    ∃ run', run.LoopReaches run' ∧
      run'.fanout.loop = some .waiting ∧ run'.fanout.source.items = [] := by
  cases hloop : run.fanout.loop with
  | none => simp [Fanout.isAtRest, hloop] at h
  | some loop =>
      cases loop with
      | ended => simp [Fanout.isAtRest, hloop] at h
      | waiting => exact exists_drained_of_waiting rfl hloop
      | offering item pending =>
          obtain ⟨next, hnext, hwaiting, -⟩ :=
            exists_waiting_of_offering (Nat.le_refl _) hloop
          obtain ⟨run', hrest, hend⟩ := exists_drained_of_waiting rfl hwaiting
          exact ⟨run', hnext.trans hrest, hend⟩
      | evicting id item pending =>
          have hevict : Plays run (.evict id : FanoutMove ω) _ :=
            .evicted id item pending hloop
          obtain ⟨next, hnext, hwaiting, -⟩ :=
            exists_waiting_of_offering (Nat.le_refl _)
              (run.loop_evicted id item pending)
          obtain ⟨run', hrest, hend⟩ := exists_drained_of_waiting rfl hwaiting
          exact ⟨run', .head rfl hevict (hnext.trans hrest), hend⟩

end FanoutRun

end LanRelay
