/-
The outlets of a fan-out do not disturb each other.

What the loop and its worker do with the outlet of a session is the same as if
no other session were registered, whatever the other outlets are up to and in
whatever order the loop turns to them. To see this, a run is followed side by
side with one in which only that session is registered; the moves that do not
concern the session leave the other run where it is.

Main statements: `FanoutRun.Mirrors.plays` for one move, and
`fanout_isolates_every_outlet`.
-/
import LanRelay.Proofs.Flow.Passes
import LanRelay.Proofs.Keyed
import LanRelay.Session.Sinks
import Mathlib.Data.List.Nodup

namespace LanRelay

variable {σ ω α : Type}

/-! The view of one session. -/

/-- The same fan-out with no other session registered. -/
def Fanout.alone (fanout : Fanout σ α) (id : SessionId) : Fanout σ α :=
  { fanout with
    registry := { fanout.registry with
      table := fanout.registry.table.keepIf fun key _ => key = id } }

def FanoutLoop.only (id : SessionId) : FanoutLoop α → FanoutLoop α
  | waiting => waiting
  | offering item pending => offering item (pending.filter (·.1 = id))
  | evicting judged item pending =>
      if judged = id then evicting judged item (pending.filter (·.1 = id))
      else offering item (pending.filter (·.1 = id))
  | ended => ended

/-- What a pass has to do with a session. -/
def Pass.only (id : SessionId) (pass : Pass α) : Pass α where
  item := pass.item
  snapshot := pass.snapshot.filter (·.1 = id)
  offers := pass.offers.filter (·.entry.1 = id)
  evicted := pass.evicted.filter (· = id)

/-- A move that is not about another session or another outlet. -/
def FanoutMove.concerns (id : SessionId) (number : Nat) : FanoutMove ω → Bool
  | take | finish | stop => true
  | offer other | evict other => other = id
  | work other _ | close other => other = number

/-! What is seen of a registry at the number of one outlet. -/

namespace Registry

variable {registry registry' : Registry σ α} {number other : Nat}

theorem table_offer (registry : Registry σ α) (number : Nat) (item : α) :
    (registry.offer number item).1.table = registry.table := by
  unfold offer
  split <;> rfl

theorem getElem?_offer_of_ne (item : α) (h : number ≠ other) :
    (registry.offer number item).1.outlets[other]? =
      registry.outlets[other]? := by
  unfold offer
  split
  · rfl
  · exact List.getElem?_set_ne h

/-- An offer depends on the outlet that it is made to, and on nothing else. -/
theorem offer_congr (item : α)
    (h : registry'.outlets[number]? = registry.outlets[number]?) :
    (registry'.offer number item).2 = (registry.offer number item).2 ∧
      (registry'.offer number item).1.outlets[number]? =
        (registry.offer number item).1.outlets[number]? := by
  unfold offer
  rw [h]
  cases houtlet : registry.outlets[number]? with
  | none => exact ⟨rfl, h⟩
  | some outlet =>
      obtain ⟨hrange, -⟩ := List.getElem?_eq_some_iff.mp houtlet
      obtain ⟨hrange', -⟩ := List.getElem?_eq_some_iff.mp (h.trans houtlet)
      exact ⟨rfl, (List.getElem?_set_self hrange').trans
        (List.getElem?_set_self hrange).symm⟩

end Registry

/-! What comes after an offer. -/

/-- After an offer with this outcome the session of the outlet is removed. -/
def Fanout.condemns (fanout : Fanout σ α) (outcome : Offer) (number : Nat) :
    Bool :=
  match outcome with
  | .queued => false
  | .droppedOldest | .droppedNewest => fanout.isTooSlow number
  | .closed => true

theorem Fanout.judge_loop_eq (fanout : Fanout σ α) (outcome : Offer)
    (id : SessionId) (number : Nat) (item : α)
    (pending : List (SessionId × Nat)) :
    (fanout.judge outcome id number item pending).loop =
      some (if fanout.condemns outcome number then .evicting id item pending
        else .offering item pending) := by
  cases outcome <;> rfl

theorem Fanout.judge_limit (fanout : Fanout σ α) (outcome : Offer)
    (id : SessionId) (number : Nat) (item : α)
    (pending : List (SessionId × Nat)) :
    (fanout.judge outcome id number item pending).limit = fanout.limit := by
  cases outcome <;> rfl

theorem Fanout.condemns_congr (fanout fanout' : Fanout σ α) {number : Nat}
    (outcome : Offer) (hlimit : fanout'.limit = fanout.limit)
    (houtlet : fanout'.registry.outlets[number]? =
      fanout.registry.outlets[number]?) :
    fanout'.condemns outcome number = fanout.condemns outcome number := by
  cases outcome <;> simp [condemns, isTooSlow, hlimit, houtlet]

namespace FanoutRun

variable {id : SessionId} {number : Nat} {run run' solo : FanoutRun σ α}

/-! A number that belongs to one session. -/

/-- The number stands in the entry of the session, and in no other. -/
def Owns (id : SessionId) (number : Nat) (entry : SessionId × Nat) : Prop :=
  entry.1 = id ↔ entry.2 = number

/-- No other session has the number of the outlet, neither in the table nor
among the entries that the loop has yet to turn to. -/
structure Apart (id : SessionId) (number : Nat) (run : FanoutRun σ α) :
    Prop where
  table : ∀ entry ∈ run.fanout.registry.table.entries, Owns id number entry
  pending : ∀ entry ∈ run.pending, Owns id number entry

theorem apart_start {fanout : Fanout σ α} (h : fanout.registry.Numbered)
    (hnumber : fanout.registry.table.get? id = some number) :
    (start fanout).Apart id number where
  table entry hentry := by
    have hmem := Keyed.mem_entries_iff.mpr hnumber
    have hkeys := List.inj_on_of_nodup_map fanout.registry.table.nodup
    have hvalues := List.inj_on_of_nodup_map h.nodup
    constructor
    · intro hid
      exact congrArg Prod.snd (hkeys hentry hmem hid)
    · intro heq
      exact congrArg Prod.fst (hvalues hentry hmem heq)
  pending _ hentry := absurd hentry List.not_mem_nil

theorem Apart.get?_ne (h : run.Apart id number) {other : SessionId}
    (hother : other ≠ id) :
    run.fanout.registry.table.get? other ≠ some number := by
  intro hget
  exact hother
    ((h.table (other, number) (Keyed.mem_entries_iff.mpr hget)).mpr rfl)

theorem Apart.plays [Sink σ ω α] (h : run.Apart id number)
    {move : FanoutMove ω} (hplays : Plays run move run') :
    run'.Apart id number := by
  cases hplays with
  | took source item hloop hreceive => exact ⟨h.table, h.table⟩
  | ended source hloop hempty hclosed =>
      exact ⟨h.table, fun _ hentry => absurd hentry List.not_mem_nil⟩
  | offered other item entry pending hloop hentry =>
      have hpending : run.pending = pending := by
        rw [FanoutRun.pending, task?, hloop]
        rfl
      constructor
      · intro entry' hentry'
        apply h.table
        rwa [offered, Fanout.judge_registry, Registry.table_offer] at hentry'
      · intro entry' hentry'
        apply h.pending
        rw [FanoutRun.pending, task?_offered] at hentry'
        rw [hpending]
        exact List.mem_of_mem_filter hentry'
  | evicted other item pending hloop =>
      have hpending : run.pending = pending := by
        rw [FanoutRun.pending, task?, hloop]
        rfl
      constructor
      · intro entry hentry
        apply h.table
        have htable := run.fanout.registry.table_unregister other
        rw [show (run.evicted other item pending).fanout.registry.table =
          run.fanout.registry.table.erase other from htable] at hentry
        exact List.mem_of_mem_filter hentry
      · intro entry hentry
        apply h.pending
        rw [hpending]
        exact hentry
  | passed item hloop =>
      exact ⟨h.table, fun _ hentry => absurd hentry List.not_mem_nil⟩
  | stopped hloop =>
      exact ⟨h.table, fun _ hentry => absurd hentry List.not_mem_nil⟩
  | worked other world world' outlet outlet' houtlet hwork =>
      exact ⟨h.table, h.pending⟩
  | closed other => exact ⟨h.table, h.pending⟩

/-! Side by side. -/

/-- One run is what the other looks like to a session and its outlet. -/
structure Mirrors (id : SessionId) (number : Nat) (run solo : FanoutRun σ α) :
    Prop where
  source : solo.fanout.source = run.fanout.source
  limit : solo.fanout.limit = run.fanout.limit
  loop : solo.fanout.loop = run.fanout.loop.map (·.only id)
  table : solo.fanout.registry.table =
    run.fanout.registry.table.keepIf fun key _ => key = id
  outlet : solo.fanout.registry.outlets[number]? =
    run.fanout.registry.outlets[number]?
  finished : solo.finished = run.finished.map (·.only id)
  current : solo.current = run.current.map (·.only id)

theorem mirrors_start (id : SessionId) (number : Nat) (fanout : Fanout σ α) :
    (start fanout).Mirrors id number (start (fanout.alone id)) where
  source := rfl
  limit := rfl
  loop := rfl
  table := rfl
  outlet := rfl
  finished := rfl
  current := rfl

theorem filter_filter_others (entries : List (SessionId × Nat))
    {other : SessionId} (h : other ≠ id) :
    (entries.filter (·.1 ≠ other)).filter (·.1 = id) =
      entries.filter (·.1 = id) := by
  rw [List.filter_filter]
  apply List.filter_congr
  rintro entry -
  by_cases hentry : entry.1 = id
  · simp [hentry, h.symm]
  · simp [hentry]

theorem find?_filter_self (entries : List (SessionId × Nat))
    (id : SessionId) : (entries.filter (·.1 = id)).find? (·.1 = id) =
      entries.find? (·.1 = id) := by
  rw [List.find?_filter]
  congr 1
  funext entry
  simp

namespace Mirrors

theorem get?_table (h : run.Mirrors id number solo) :
    solo.fanout.registry.table.get? id =
      run.fanout.registry.table.get? id := by
  rw [h.table, Keyed.get?_keepIf]
  cases run.fanout.registry.table.get? id <;> simp [Option.filter]

theorem passes (h : run.Mirrors id number solo) :
    solo.passes = run.passes.map (·.only id) := by
  rw [FanoutRun.passes, FanoutRun.passes, h.finished, h.current,
    List.map_append]
  cases run.current <;> rfl

theorem took (h : run.Mirrors id number solo) (source : Queue α) (item : α) :
    (run.took source item).Mirrors id number (solo.took source item) where
  source := rfl
  limit := h.limit
  loop := by
    simp only [FanoutRun.took, Registry.snapshot, h.table]
    rfl
  table := h.table
  outlet := h.outlet
  finished := h.finished
  current := by
    simp only [FanoutRun.took, Registry.snapshot, h.table]
    rfl

theorem ended (h : run.Mirrors id number solo) :
    run.ended.Mirrors id number solo.ended :=
  ⟨h.source, h.limit, rfl, h.table, h.outlet, h.finished, rfl⟩

theorem passed (h : run.Mirrors id number solo) :
    run.passed.Mirrors id number solo.passed :=
  ⟨h.source, h.limit, rfl, h.table, h.outlet, h.passes, rfl⟩

/-- An offer to the outlet itself has the same outcome on both sides, and the
outlet is judged alike. -/
theorem offered (h : run.Mirrors id number solo) (item : α)
    (pending : List (SessionId × Nat)) :
    (run.offered item (id, number) (pending.filter (·.1 ≠ id))).Mirrors id
      number (solo.offered item (id, number)
        ((pending.filter (·.1 = id)).filter (·.1 ≠ id))) := by
  obtain ⟨houtcome, houtlet⟩ := Registry.offer_congr item h.outlet
  have hothers : (pending.filter (·.1 = id)).filter (·.1 ≠ id) =
      (pending.filter (·.1 ≠ id)).filter (·.1 = id) := by
    rw [List.filter_filter, List.filter_filter]
    congr 1
    funext entry
    exact Bool.and_comm ..
  constructor
  · simpa [FanoutRun.offered] using h.source
  · rw [FanoutRun.offered, FanoutRun.offered, Fanout.judge_limit,
      Fanout.judge_limit]
    exact h.limit
  · simp only [FanoutRun.offered, Fanout.judge_loop_eq, hothers, houtcome]
    rw [Fanout.condemns_congr
      { run.fanout with
        registry := (run.fanout.registry.offer number item).1 }
      { solo.fanout with
        registry := (solo.fanout.registry.offer number item).1 }
      _ h.limit houtlet]
    split <;> simp [FanoutLoop.only]
  · simpa [FanoutRun.offered, Registry.table_offer] using h.table
  · simpa [FanoutRun.offered] using houtlet
  · exact h.finished
  · simp only [FanoutRun.offered, h.current, houtcome, Option.map_map]
    congr 1
    funext pass
    simp [Pass.only, Pass.note]

/-- An offer to another session is not seen. -/
theorem offered_other (h : run.Mirrors id number solo) {item : α}
    {entry : SessionId × Nat} {pending : List (SessionId × Nat)}
    (hloop : run.fanout.loop = some (.offering item pending))
    (hid : entry.1 ≠ id) (hnumber : entry.2 ≠ number) :
    (run.offered item entry (pending.filter (·.1 ≠ entry.1))).Mirrors id number
      solo := by
  have hpending := filter_filter_others pending hid
  constructor
  · simpa [FanoutRun.offered] using h.source
  · rw [FanoutRun.offered, Fanout.judge_limit]
    exact h.limit
  · rw [h.loop, hloop, FanoutRun.offered, Fanout.judge_loop_eq]
    split <;> simp only [Option.map_some, FanoutLoop.only, if_neg hid, hpending]
  · simpa [FanoutRun.offered, Registry.table_offer] using h.table
  · rw [FanoutRun.offered, Fanout.judge_registry,
      Registry.getElem?_offer_of_ne item hnumber]
    exact h.outlet
  · exact h.finished
  · rw [h.current, FanoutRun.offered, Option.map_map]
    congr 1
    funext pass
    simp [Pass.only, Pass.note, hid]

/-- The session itself is removed on both sides. -/
theorem evicted (h : run.Mirrors id number solo) (item : α)
    (pending : List (SessionId × Nat)) :
    (run.evicted id item pending).Mirrors id number
      (solo.evicted id item (pending.filter (·.1 = id))) := by
  have htable := h.get?_table
  have hcontains : solo.fanout.registry.contains id =
      run.fanout.registry.contains id := congrArg Option.isSome htable
  constructor
  · exact h.source
  · exact h.limit
  · rfl
  · simp only [FanoutRun.evicted, Fanout.evict, Registry.table_unregister,
      h.table]
    exact Keyed.ext (List.filter_comm ..)
  · simp only [FanoutRun.evicted, Fanout.evict, Registry.getElem?_unregister,
      htable, h.outlet]
  · exact h.finished
  · simp only [FanoutRun.evicted, h.current, hcontains, Option.map_map]
    congr 1
    funext pass
    cases run.fanout.registry.contains id <;> simp [Pass.only, Pass.evict]

/-- That another session is removed is not seen. -/
theorem evicted_other (h : run.Mirrors id number solo)
    (hapart : run.Apart id number) {other : SessionId} {item : α}
    {pending : List (SessionId × Nat)} (hother : other ≠ id)
    (hloop : run.fanout.loop = some (.evicting other item pending)) :
    (run.evicted other item pending).Mirrors id number solo := by
  constructor
  · exact h.source
  · exact h.limit
  · rw [h.loop, hloop]
    simp only [Option.map_some, FanoutLoop.only, if_neg hother]
    rfl
  · simp only [FanoutRun.evicted, Fanout.evict, Registry.table_unregister,
      h.table]
    exact Keyed.ext (filter_filter_others _ hother).symm
  · simp only [FanoutRun.evicted, Fanout.evict, Registry.getElem?_unregister,
      if_neg (hapart.get?_ne hother), h.outlet]
  · exact h.finished
  · rw [FanoutRun.evicted, h.current, Option.map_map]
    congr 1
    funext pass
    cases run.fanout.registry.contains other <;>
      simp [Pass.only, Pass.evict, hother]

theorem withRegistry (h : run.Mirrors id number solo)
    {registry registry' : Registry σ α}
    (htable : registry.table = run.fanout.registry.table)
    (htable' : registry'.table = solo.fanout.registry.table)
    (houtlet : registry'.outlets[number]? = registry.outlets[number]?) :
    (run.withRegistry registry).Mirrors id number
      (solo.withRegistry registry') where
  source := h.source
  limit := h.limit
  loop := h.loop
  table := by
    rw [FanoutRun.withRegistry, FanoutRun.withRegistry, htable, htable']
    exact h.table
  outlet := houtlet
  finished := h.finished
  current := h.current

/-- What befalls another outlet is not seen. -/
theorem withRegistry_other (h : run.Mirrors id number solo)
    {registry : Registry σ α}
    (htable : registry.table = run.fanout.registry.table)
    (houtlet : registry.outlets[number]? =
      run.fanout.registry.outlets[number]?) :
    (run.withRegistry registry).Mirrors id number solo :=
  h.withRegistry htable rfl (h.outlet.trans houtlet.symm)

end Mirrors

variable [Sink σ ω α] {move : FanoutMove ω}

theorem Plays.playAll?_filter {solo' : FanoutRun σ α}
    (hplays : Plays solo move solo')
    (hconcerns : move.concerns id number = true) :
    solo.playAll? ([move].filter (·.concerns id number)) = some solo' := by
  rw [List.filter_singleton, hconcerns, cond_true, playAll?,
    play?_eq_some_iff.mpr hplays]
  rfl

theorem playAll?_of_not_concerns (hconcerns : move.concerns id number = false) :
    solo.playAll? ([move].filter (·.concerns id number)) = some solo := by
  rw [List.filter_singleton, hconcerns]
  rfl

/-- A move that concerns the session is made on both sides, and any other on
one side only. -/
theorem Mirrors.plays (h : run.Mirrors id number solo)
    (hapart : run.Apart id number) (hplays : Plays run move run') :
    ∃ solo', solo.playAll? ([move].filter (·.concerns id number)) =
        some solo' ∧ run'.Mirrors id number solo' := by
  cases hplays with
  | took source item hloop hreceive =>
      have hsolo : Plays solo (.take : FanoutMove ω) (solo.took source item) :=
        .took source item (by rw [h.loop, hloop]; rfl) (by rwa [h.source])
      exact ⟨_, hsolo.playAll?_filter rfl, h.took source item⟩
  | ended source hloop hempty hclosed =>
      have hsolo : Plays solo (.take : FanoutMove ω) solo.ended :=
        .ended source (by rw [h.loop, hloop]; rfl) (by rwa [h.source])
          (by rwa [h.source])
      exact ⟨_, hsolo.playAll?_filter rfl, h.ended⟩
  | offered other item entry pending hloop hentry =>
      have hkey : entry.1 = other := by simpa using List.find?_some hentry
      have howns : Owns id number entry := by
        apply hapart.pending
        rw [FanoutRun.pending, task?, hloop]
        exact List.mem_of_find?_eq_some hentry
      subst hkey
      by_cases hid : entry.1 = id
      · obtain ⟨id', number'⟩ := entry
        obtain rfl : id' = id := hid
        obtain rfl : number' = number := howns.mp rfl
        have hsolo : Plays solo (.offer id' : FanoutMove ω) _ :=
          .offered id' item (id', number') (pending.filter (·.1 = id'))
            (by rw [h.loop, hloop]; rfl) (by rwa [find?_filter_self])
        exact ⟨_, hsolo.playAll?_filter (decide_eq_true rfl),
          h.offered item pending⟩
      · exact ⟨solo, playAll?_of_not_concerns (decide_eq_false hid),
          h.offered_other hloop hid (mt howns.mpr hid)⟩
  | evicted other item pending hloop =>
      by_cases hid : other = id
      · subst hid
        have hsolo : Plays solo (.evict other : FanoutMove ω) _ :=
          .evicted other item (pending.filter (·.1 = other))
            (by rw [h.loop, hloop]; exact congrArg some (if_pos rfl))
        exact ⟨_, hsolo.playAll?_filter (decide_eq_true rfl),
          h.evicted item pending⟩
      · exact ⟨solo, playAll?_of_not_concerns (decide_eq_false hid),
          h.evicted_other hapart hid hloop⟩
  | passed item hloop =>
      have hsolo : Plays solo (.finish : FanoutMove ω) solo.passed :=
        .passed item (by rw [h.loop, hloop]; rfl)
      exact ⟨_, hsolo.playAll?_filter rfl, h.passed⟩
  | stopped hloop =>
      have hsolo : Plays solo (.stop : FanoutMove ω) _ :=
        .stopped (by rw [h.loop, hloop]; rfl)
      exact ⟨_, hsolo.playAll?_filter rfl,
        ⟨h.source, h.limit, rfl, h.table, h.outlet, h.finished, h.current⟩⟩
  | worked other world world' outlet outlet' houtlet hwork =>
      by_cases hother : other = number
      · subst hother
        have hrange := (List.getElem?_eq_some_iff.mp houtlet).1
        have houtlet' := h.outlet.trans houtlet
        have hrange' := (List.getElem?_eq_some_iff.mp houtlet').1
        have hsolo : Plays solo (.work other world) _ :=
          .worked other world world' outlet outlet' houtlet' hwork
        refine ⟨_, hsolo.playAll?_filter (decide_eq_true rfl),
          h.withRegistry rfl rfl ?_⟩
        exact (List.getElem?_set_self hrange').trans
          (List.getElem?_set_self hrange).symm
      · exact ⟨solo, playAll?_of_not_concerns (decide_eq_false hother),
          h.withRegistry_other rfl (List.getElem?_set_ne hother)⟩
  | closed other =>
      by_cases hother : other = number
      · subst hother
        have hsolo : Plays solo (.close other : FanoutMove ω) _ := .closed other
        refine ⟨_, hsolo.playAll?_filter (decide_eq_true rfl),
          h.withRegistry rfl rfl ?_⟩
        simp [Registry.adjust, h.outlet]
      · refine ⟨solo, playAll?_of_not_concerns (decide_eq_false hother),
          h.withRegistry_other rfl ?_⟩
        simp [Registry.adjust, hother]

theorem Mirrors.playAll {moves : List (FanoutMove ω)}
    (h : run.Mirrors id number solo) (hapart : run.Apart id number)
    (hrun : run.playAll? moves = some run') :
    ∃ solo', solo.playAll? (moves.filter (·.concerns id number)) =
        some solo' ∧ run'.Mirrors id number solo' := by
  induction moves generalizing run solo with
  | nil =>
      cases hrun
      exact ⟨solo, rfl, h⟩
  | cons move moves ih =>
      obtain ⟨next, hmove, hrest⟩ := Option.bind_eq_some_iff.mp hrun
      have hplays := play?_eq_some_iff.mp hmove
      obtain ⟨between, hbetween, hmirrors⟩ := h.plays hapart hplays
      obtain ⟨solo', hsolo, hend⟩ := ih hmirrors (hapart.plays hplays) hrest
      refine ⟨solo', ?_, hend⟩
      rw [← List.singleton_append, List.filter_append, playAll?_append,
        hbetween]
      exact hsolo

end FanoutRun

def sampleFanout : Fanout EventSink Event where
  registry :=
    (((Registry.clear { stream := .event }).register "stalled"
      (.create "stalled" 1 .dropNewest (.log "stalled" 0))).1.register "brisk"
      (.create "brisk" 1 .dropOldest (.log "brisk" 0))).1
  source := {
    capacity := 2
    items := [⟨"first", .zero, .raw []⟩, ⟨"second", .zero, .raw []⟩] }
  limit := 1

def sampleMoves : List (FanoutMove Scene) :=
  [.take, .offer "brisk", .offer "stalled", .finish, .work 1 {}, .work 1 {},
    .take, .offer "stalled", .evict "stalled", .offer "brisk", .finish]

end LanRelay
