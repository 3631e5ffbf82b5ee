/-
What leaves the table of a fan-out, and through whom.

An outlet leaves the table when the loop removes its session, after an offer,
or when somebody else does. What the loop takes out is noted with the pass in
which it does so; that is all that can be seen of its judgements from outside.

Main definition: `Watched.Exact`, what holds of the removals at any time.
-/
import LanRelay.Proofs.Flow.Streaks
import LanRelay.Proofs.Session.Eviction

namespace LanRelay

variable {σ ω α : Type}

/-! Who takes outlets out of the table. -/

/-- The numbers that are in the first table and no more in the second. -/
def Registry.lost (before after : Registry σ α) : List Nat :=
  before.table.values.filter (· ∉ after.table.values)

/-- A run of a fan-out beside others, and what has left the table. -/
structure Watched (σ α : Type) where
  shared : SharedRun σ α
  /-- What the loop has taken out of the table, and in which pass. -/
  removed : List (Nat × Nat) := []
  /-- What others have taken out. -/
  withdrawn : List Nat := []

namespace Watched

def start (fanout : Fanout σ α) : Watched σ α := { shared := .start fanout }

def run (watched : Watched σ α) : FanoutRun σ α := watched.shared.run

def registry (watched : Watched σ α) : Registry σ α := watched.shared.registry

/-- Note what a move has taken out of the table. -/
def note (watched : Watched σ α) (isOfOthers : Bool)
    (shared : SharedRun σ α) : Watched σ α :=
  let lost := watched.registry.lost shared.registry
  if isOfOthers then
    { watched with shared, withdrawn := watched.withdrawn ++ lost }
  else
    { watched with
      shared
      removed := watched.removed ++
        lost.map fun number => (watched.run.finished.length, number) }

/-- The run after a move, if that is possible now. -/
def move? [Sink σ ω α] (watched : Watched σ α) (move : SharedMove σ ω α) :
    Option (Watched σ α) :=
  (watched.shared.move? move).map (watched.note move.isOfOthers)

def moveAll? [Sink σ ω α] (watched : Watched σ α) :
    List (SharedMove σ ω α) → Option (Watched σ α)
  | [] => some watched
  | move :: moves => (watched.move? move).bind (·.moveAll? moves)

@[simp]
theorem run_note (watched : Watched σ α) (isOfOthers : Bool)
    (shared : SharedRun σ α) : (watched.note isOfOthers shared).run =
      shared.run := by
  cases isOfOthers <;> rfl

end Watched

/-- Whoever registers an outlet brings one that was offered nothing yet. -/
def SharedMove.BringsNew : SharedMove σ ω α → Prop
  | play _ | unregister _ => True
  | register _ outlet => outlet.metrics.consecutive = 0

namespace Registry

variable {registry registry' : Registry σ α}

theorem lost_eq_nil
    (h : ∀ number ∈ registry.table.values, number ∈ registry'.table.values) :
    registry.lost registry' = [] := by
  rw [lost, List.filter_eq_nil_iff]
  intro number hnumber
  simpa using h number hnumber

theorem lost_of_table_eq (h : registry'.table = registry.table) :
    registry.lost registry' = [] :=
  lost_eq_nil fun _ hnumber => h ▸ hnumber

/-- What is registered comes under the next number, if it comes at all. -/
theorem entries_register (registry : Registry σ α) (id : SessionId)
    (outlet : Outlet σ α) :
    (registry.register id outlet).1.table.entries =
        registry.table.entries ++ [(id, registry.outlets.length)] ∨
      (registry.register id outlet).1.table.entries =
        registry.table.entries := by
  rcases registry.register_cases id outlet with ⟨hnew, heq⟩ | ⟨-, heq⟩
  · rw [heq]
    exact Or.inl (Keyed.putEntry_of_not_mem _
      (Keyed.not_mem_keys_of_not_contains hnew))
  · rw [heq]
    exact Or.inr rfl

theorem mem_entries_register {registry : Registry σ α} (id : SessionId)
    (outlet : Outlet σ α) {entry : SessionId × Nat}
    (h : entry ∈ registry.table.entries) :
    entry ∈ (registry.register id outlet).1.table.entries := by
  rcases registry.entries_register id outlet with hentries | hentries
  · rw [hentries]
    exact List.mem_append_left _ h
  · rwa [hentries]

theorem mem_values_or_eq_of_register {registry : Registry σ α} {id : SessionId}
    {outlet : Outlet σ α} {number : Nat}
    (h : number ∈ (registry.register id outlet).1.table.values) :
    number ∈ registry.table.values ∨ number = registry.outlets.length := by
  rw [Keyed.values] at h
  rcases registry.entries_register id outlet with hentries | hentries
  · rw [hentries, List.map_append, List.mem_append] at h
    exact h.imp_right List.mem_singleton.mp
  · rw [hentries] at h
    exact Or.inl h

/-- Registering takes nothing out of the table. -/
theorem lost_register (registry : Registry σ α) (id : SessionId)
    (outlet : Outlet σ α) :
    registry.lost (registry.register id outlet).1 = [] := by
  apply lost_eq_nil
  intro number hnumber
  obtain ⟨entry, hentry, rfl⟩ := List.mem_map.mp hnumber
  exact List.mem_map_of_mem (mem_entries_register id outlet hentry)

/-- A number that is in the table without a session is that of another
session. -/
theorem Numbered.mem_values_erase_iff (h : registry.Numbered) {id : SessionId}
    {number : Nat} :
    number ∈ (registry.table.erase id).values ↔
      number ∈ registry.table.values ∧
        registry.table.get? id ≠ some number := by
  simp only [Keyed.mem_values_iff, Keyed.get?_erase]
  constructor
  · rintro ⟨key, hkey⟩
    split at hkey
    · cases hkey
    · rename_i hother
      refine ⟨⟨key, hkey⟩, fun hid => hother ?_⟩
      have hsame := List.inj_on_of_nodup_map h.nodup
        (Keyed.mem_entries_iff.mpr hkey) (Keyed.mem_entries_iff.mpr hid) rfl
      exact congrArg Prod.fst hsame
  · rintro ⟨⟨key, hkey⟩, hother⟩
    refine ⟨key, ?_⟩
    rw [if_neg, hkey]
    rintro rfl
    exact hother hkey

/-- Removing a session takes its number out of the table, if it has one. -/
theorem Numbered.lost_unregister (h : registry.Numbered) (id : SessionId) :
    registry.lost (registry.unregister id).1 =
      (registry.table.get? id).toList := by
  rw [lost, table_unregister]
  cases hid : registry.table.get? id with
  | none =>
      rw [Option.toList_none, List.filter_eq_nil_iff]
      intro number hnumber
      simpa [h.mem_values_erase_iff, hid] using hnumber
  | some gone =>
      have hmem : gone ∈ registry.table.values :=
        Keyed.mem_values_iff.mpr ⟨id, hid⟩
      have honly : registry.table.values.filter
          (· ∉ (registry.table.erase id).values) =
            registry.table.values.filter (· = gone) := by
        refine List.filter_congr fun number hnumber => ?_
        simp [h.mem_values_erase_iff, hnumber, hid, eq_comm]
      rw [honly, List.filter_eq, List.count_eq_one_of_mem h.nodup hmem]
      rfl

end Registry

/-! What holds of the removals. -/

@[simp]
theorem Pass.offers_evict (pass : Pass α) (id : SessionId) (removed : Bool) :
    (pass.evict id removed).offers = pass.offers := by
  cases removed <;> rfl

/-- The offers of the first passes. -/
def FanoutRun.offersBefore (run : FanoutRun σ α) (passes : Nat) :
    List (Made α) :=
  (run.finished.take passes).flatMap (·.offers)

/-- The loop has judged an outlet and has yet to remove its session. -/
def FanoutRun.isEvicting (run : FanoutRun σ α) : Bool :=
  match run.fanout.loop with
  | some (.evicting ..) => true
  | _ => false

/-- The offers of a pass after which the loop has done what it does. -/
def FanoutRun.decided (run : FanoutRun σ α) (pass : Pass α) : List (Made α) :=
  if run.isEvicting then pass.offers.dropLast else pass.offers

namespace FanoutRun

variable {run : FanoutRun σ α} {pass : Pass α} {item : α} {id : SessionId}
  {pending : List (SessionId × Nat)}

theorem decided_of_offering
    (h : run.fanout.loop = some (.offering item pending)) :
    run.decided pass = pass.offers := by
  rw [decided, isEvicting, h]
  rfl

theorem decided_of_evicting
    (h : run.fanout.loop = some (.evicting id item pending)) :
    run.decided pass = pass.offers.dropLast := by
  rw [decided, isEvicting, h]
  rfl

theorem offers_of_current (h : run.current = some pass) :
    run.offers = run.offersBefore run.finished.length ++ pass.offers := by
  rw [offers, passes_of_current h, offersBefore, List.take_length,
    List.flatMap_append, List.flatMap_singleton]

/-- The pass that the loop is in has its own place behind the others. -/
theorem passes_current (h : run.current = some pass) :
    run.passes[run.finished.length]? = some pass := by
  rw [passes_of_current h, List.getElem?_concat_length]

/-- The loop goes on with its pass. -/
structure GoesOn (run next : FanoutRun σ α) (pass pass' : Pass α) : Prop where
  current : run.current = some pass
  following : next.current = some pass'
  finished : next.finished = run.finished
  limit : next.fanout.limit = run.fanout.limit
  snapshot : pass'.snapshot = pass.snapshot
  offers : pass.offers ⊆ pass'.offers

namespace GoesOn

variable {next : FanoutRun σ α} {pass' : Pass α}

theorem offersBefore (h : run.GoesOn next pass pass') (passes : Nat) :
    next.offersBefore passes = run.offersBefore passes := by
  rw [FanoutRun.offersBefore, h.finished, FanoutRun.offersBefore]

/-- Every pass keeps its place, its snapshot and its offers. -/
theorem getElem?_passes (h : run.GoesOn next pass pass') {index : Nat}
    {earlier : Pass α} (hearlier : run.passes[index]? = some earlier) :
    ∃ later, next.passes[index]? = some later ∧
      later.snapshot = earlier.snapshot ∧ earlier.offers ⊆ later.offers := by
  rw [passes_of_current h.current] at hearlier
  rw [passes_of_current h.following, h.finished]
  rcases getElem?_concat_eq_some.mp hearlier with hover | ⟨rfl, rfl⟩
  · exact ⟨earlier, getElem?_concat_eq_some.mpr (Or.inl hover), rfl,
      List.Subset.refl _⟩
  · exact ⟨pass', List.getElem?_concat_length, h.snapshot, h.offers⟩

theorem offered (hpass : run.current = some pass) (item : α)
    (entry : SessionId × Nat) (pending : List (SessionId × Nat)) :
    run.GoesOn (run.offered item entry pending) pass
      (pass.note { item, entry, outcome :=
        (run.fanout.registry.offer entry.2 item).2 }) :=
  ⟨hpass, congrArg (Option.map _) hpass, rfl, Fanout.judge_limit .., rfl,
    List.subset_append_left _ _⟩

theorem evicted (hpass : run.current = some pass) (id : SessionId) (item : α)
    (pending : List (SessionId × Nat)) :
    run.GoesOn (run.evicted id item pending) pass
      (pass.evict id (run.fanout.registry.contains id)) := by
  refine ⟨hpass, congrArg (Option.map _) hpass, rfl, rfl,
    Pass.snapshot_evict .., ?_⟩
  rw [Pass.offers_evict]
  exact List.Subset.refl _

end GoesOn

end FanoutRun

namespace Watched

/-- After each of these offers of a pass the loop has taken the outlet out of
the table if and only if the offers so far condemn it. -/
def Verdicts (watched : Watched σ α) (index : Nat) (offers : List (Made α)) :
    Prop :=
  ∀ before made after, offers = before ++ made :: after →
    made.entry.2 ∉ watched.withdrawn →
    ((index, made.entry.2) ∈ watched.removed ↔
      Condemned watched.run.fanout.limit (outcomesOf made.entry.2
        (watched.run.offersBefore index ++ before ++ [made])))

/-- What the loop has taken out in a pass it had made its offer to in that pass,
or it came under the session of such an outlet when others had taken that one
out. -/
def Sourced (watched : Watched σ α) (index number : Nat) : Prop :=
  ∃ pass made, watched.run.passes[index]? = some pass ∧ made ∈ pass.offers ∧
    (made.entry.2 = number ∨ number ∉ pass.snapshot.map Prod.snd ∧
      made.entry.2 ∈ watched.withdrawn)

/-- What holds of a run on these items, and of what has left the table. -/
structure Exact (items : List α) (watched : Watched σ α) : Prop where
  tracked : watched.shared.Tracked items
  counted : watched.run.Counted
  nodup : (watched.removed.map Prod.snd ++ watched.withdrawn).Nodup
  out : ∀ number ∈ watched.removed.map Prod.snd ++ watched.withdrawn,
    number ∉ watched.registry.table.values ∧
      number < watched.registry.outlets.length
  evicted : watched.run.fanout.totals.evicted = watched.removed.length
  finished {index : Nat} {pass : Pass α} :
    watched.run.finished[index]? = some pass →
    watched.Verdicts index pass.offers
  current {pass : Pass α} : watched.run.current = some pass →
    watched.Verdicts watched.run.finished.length (watched.run.decided pass)
  stays {pass : Pass α} : watched.run.current = some pass →
    ∀ entry ∈ pass.snapshot, entry ∈ watched.registry.table.entries ∨
      (watched.run.finished.length, entry.2) ∈ watched.removed ∨
      entry.2 ∈ watched.withdrawn
  sources {index number : Nat} : (index, number) ∈ watched.removed →
    watched.Sourced index number
  last {id : SessionId} {item : α} {pending : List (SessionId × Nat)} :
    watched.run.fanout.loop = some (.evicting id item pending) →
    ∃ pass before made, watched.run.current = some pass ∧
      pass.offers = before ++ [made] ∧ made.entry.1 = id ∧
      (watched.run.finished.length, made.entry.2) ∉ watched.removed ∧
      Condemned watched.run.fanout.limit
        (outcomesOf made.entry.2 watched.run.offers)

section Transfer

variable {watched watched' : Watched σ α} {index number : Nat}
  {offers : List (Made α)}

theorem Verdicts.nil : watched.Verdicts index [] := by
  intro before made after hnil
  simp at hnil

theorem Verdicts.concat (h : watched.Verdicts index offers) {last : Made α}
    (hlast : last.entry.2 ∉ watched.withdrawn →
      ((index, last.entry.2) ∈ watched.removed ↔
        Condemned watched.run.fanout.limit (outcomesOf last.entry.2
          (watched.run.offersBefore index ++ offers ++ [last])))) :
    watched.Verdicts index (offers ++ [last]) := by
  intro before made after hsplit
  rcases List.eq_nil_or_concat after with rfl | ⟨others, end_, rfl⟩
  · obtain ⟨rfl, hsame⟩ := List.append_inj' hsplit rfl
    obtain rfl := List.singleton_inj.mp hsame
    exact hlast
  · rw [List.concat_eq_append, ← List.cons_append, ← List.append_assoc]
      at hsplit
    obtain ⟨rfl, -⟩ := List.append_inj' hsplit rfl
    exact h before made others rfl

/-- Removals of other outlets, and of other passes, make no difference. -/
theorem Verdicts.transfer (h : watched.Verdicts index offers)
    (hlimit : watched'.run.fanout.limit = watched.run.fanout.limit)
    (hbefore : watched'.run.offersBefore index =
      watched.run.offersBefore index)
    (hwithdrawn : watched.withdrawn ⊆ watched'.withdrawn)
    (hremoved : ∀ made ∈ offers,
      ((index, made.entry.2) ∈ watched'.removed ↔
        (index, made.entry.2) ∈ watched.removed)) :
    watched'.Verdicts index offers := by
  intro before made after hsplit hstill
  have hmade : made ∈ offers := by simp [hsplit]
  rw [hlimit, hbefore, hremoved made hmade]
  exact h before made after hsplit fun hgone => hstill (hwithdrawn hgone)

theorem Sourced.transfer (h : watched.Sourced index number)
    (hwithdrawn : watched.withdrawn ⊆ watched'.withdrawn)
    (hpasses : ∀ pass, watched.run.passes[index]? = some pass →
      ∃ pass', watched'.run.passes[index]? = some pass' ∧
        pass'.snapshot = pass.snapshot ∧ pass.offers ⊆ pass'.offers) :
    watched'.Sourced index number := by
  obtain ⟨pass, made, hpass, hmade, hsource⟩ := h
  obtain ⟨pass', hpass', hsnapshot, hoffers⟩ := hpasses pass hpass
  refine ⟨pass', made, hpass', hoffers hmade, ?_⟩
  rw [hsnapshot]
  exact hsource.imp_right fun ⟨hother, hgone⟩ => ⟨hother, hwithdrawn hgone⟩

theorem Sourced.of_passes (h : watched.Sourced index number)
    (hwithdrawn : watched.withdrawn ⊆ watched'.withdrawn)
    (hpasses : ∀ pass, watched.run.passes[index]? = some pass →
      watched'.run.passes[index]? = some pass) :
    watched'.Sourced index number :=
  h.transfer hwithdrawn fun pass hpass =>
    ⟨pass, hpasses pass hpass, rfl, List.Subset.refl _⟩

/-- While the loop goes on with its pass and removes nothing, nothing changes. -/
theorem Verdicts.goesOn (h : watched.Verdicts index offers)
    {next : FanoutRun σ α} {pass pass' : Pass α}
    (hgoes : watched.run.GoesOn next pass pass')
    (newcomers : List (SessionId × Nat)) :
    Verdicts { watched with shared := { run := next, newcomers } } index
      offers :=
  h.transfer hgoes.limit (hgoes.offersBefore index) (List.Subset.refl _)
    fun _ _ => Iff.rfl

/-- An offer that does not condemn its outlet asks for nothing. -/
theorem Verdicts.spare {next : FanoutRun σ α} {pass pass' : Pass α}
    (h : watched.Verdicts watched.run.finished.length pass.offers)
    (hgoes : watched.run.GoesOn next pass pass')
    (newcomers : List (SessionId × Nat)) {made : Made α}
    (hoffers : next.offers = watched.run.offers ++ [made])
    (hstill : (watched.run.finished.length, made.entry.2) ∉ watched.removed)
    (hspared : ¬ Condemned watched.run.fanout.limit
      (outcomesOf made.entry.2 next.offers)) :
    Verdicts { watched with shared := { run := next, newcomers } }
      watched.run.finished.length (pass.offers ++ [made]) := by
  refine (h.goesOn hgoes newcomers).concat fun _ => iff_of_false hstill ?_
  change ¬ Condemned next.fanout.limit (outcomesOf made.entry.2
    (next.offersBefore watched.run.finished.length ++ pass.offers ++ [made]))
  rw [hgoes.offersBefore, ← FanoutRun.offers_of_current hgoes.current,
    ← hoffers, hgoes.limit]
  exact hspared

theorem note_of_lost {shared : SharedRun σ α}
    (h : watched.registry.lost shared.registry = []) (isOfOthers : Bool) :
    watched.note isOfOthers shared = { watched with shared } := by
  simp [note, h]

/-- What is removed in the pass that the loop is in, if anything is. -/
def removals (watched : Watched σ α) (gone : Option Nat) : List (Nat × Nat) :=
  gone.toList.map fun number => (watched.run.finished.length, number)

theorem mem_removals {gone : Option Nat} :
    (index, number) ∈ watched.removals gone ↔
      index = watched.run.finished.length ∧ gone = some number := by
  simp [removals, eq_comm, and_comm]

/-- What there is when the loop goes on after it has removed a session. -/
def removing (watched : Watched σ α) (id : SessionId) (next : FanoutRun σ α)
    (newcomers : List (SessionId × Nat)) : Watched σ α :=
  { watched with
    shared := { run := next, newcomers }
    removed := watched.removed ++
      watched.removals (watched.registry.table.get? id) }

section Removing

variable {next : FanoutRun σ α} {pass pass' : Pass α} {id : SessionId}

/-- While the loop goes on with its pass, the removal of another outlet makes no
difference. -/
theorem Verdicts.remove (h : watched.Verdicts index offers)
    (hgoes : watched.run.GoesOn next pass pass')
    (newcomers : List (SessionId × Nat))
    (helsewhere : ∀ made ∈ offers, (index, made.entry.2) ∉
      watched.removals (watched.registry.table.get? id)) :
    (watched.removing id next newcomers).Verdicts index offers := by
  refine h.transfer hgoes.limit (hgoes.offersBefore index)
    (List.Subset.refl _) ?_
  intro made hmade
  rw [removing, List.mem_append, or_iff_left (helsewhere made hmade)]

/-- The removal of the outlet that the last offer has condemned is what that
offer asks for. -/
theorem Verdicts.remove_last {before : List (Made α)} {made : Made α}
    (h : watched.Verdicts watched.run.finished.length before)
    (hgoes : watched.run.GoesOn next pass pass')
    (newcomers : List (SessionId × Nat))
    (hoffers : pass.offers = before ++ [made])
    (hcondemned : Condemned watched.run.fanout.limit
      (outcomesOf made.entry.2 watched.run.offers))
    (hthere : made.entry.2 ∉ watched.withdrawn →
      watched.registry.table.get? id = some made.entry.2)
    (hothers : ∀ earlier ∈ before,
      watched.registry.table.get? id ≠ some earlier.entry.2) :
    (watched.removing id next newcomers).Verdicts watched.run.finished.length
      pass.offers := by
  have hfront := h.remove hgoes newcomers fun earlier hearlier hthis =>
    hothers earlier hearlier (mem_removals.mp hthis).2
  rw [hoffers]
  refine hfront.concat fun hkept => iff_of_true ?_ ?_
  · exact List.mem_append_right _ (mem_removals.mpr ⟨rfl, hthere hkept⟩)
  · change Condemned next.fanout.limit (outcomesOf made.entry.2
      (next.offersBefore watched.run.finished.length ++ before ++ [made]))
    rw [hgoes.offersBefore, List.append_assoc, ← hoffers,
      ← FanoutRun.offers_of_current hgoes.current, hgoes.limit]
    exact hcondemned

/-- What is removed after an offer is that of the offer, or has come under its
session since. -/
theorem sourced_removing {made : Made α}
    (hsources : (index, number) ∈ watched.removed →
      watched.Sourced index number)
    (hgoes : watched.run.GoesOn next pass pass')
    (newcomers : List (SessionId × Nat)) (hmade : made ∈ pass.offers)
    (hwhich : ∀ number, watched.registry.table.get? id = some number →
      made.entry.2 = number ∨ number ∉ pass.snapshot.map Prod.snd ∧
        made.entry.2 ∈ watched.withdrawn)
    (hremoved : (index, number) ∈
      (watched.removing id next newcomers).removed) :
    (watched.removing id next newcomers).Sourced index number := by
  rcases List.mem_append.mp hremoved with hold | hnow
  · exact (hsources hold).transfer (List.Subset.refl _)
      fun _ => hgoes.getElem?_passes
  · obtain ⟨rfl, hnumber⟩ := mem_removals.mp hnow
    refine ⟨pass', made, ?_, hgoes.offers hmade, ?_⟩
    · rw [← hgoes.finished]
      exact FanoutRun.passes_current hgoes.following
    · rw [hgoes.snapshot]
      exact hwhich number hnumber

end Removing

/-- In whatever order, the numbers that have left the table are these. -/
theorem perm_removals (watched : Watched σ α) (gone : Option Nat) :
    ((watched.removed ++ watched.removals gone).map Prod.snd ++
      watched.withdrawn).Perm
        (watched.removed.map Prod.snd ++ watched.withdrawn ++ gone.toList) := by
  have hnumbers : (watched.removals gone).map Prod.snd = gone.toList := by
    rw [removals, List.map_map]
    exact List.map_id _
  rw [List.map_append, hnumbers, List.append_assoc, List.append_assoc]
  exact List.perm_append_comm.append_left _

end Transfer

theorem exact_start {fanout : Fanout σ α} (hnumbered : fanout.registry.Numbered)
    (hnew : ∀ outlet ∈ fanout.registry.outlets,
      outlet.metrics.consecutive = 0) :
    (start fanout).Exact fanout.source.items where
  tracked := SharedRun.tracked_start hnumbered
  counted := FanoutRun.counted_start hnew
  nodup := List.nodup_nil
  out _ hnumber := absurd hnumber List.not_mem_nil
  evicted := rfl
  finished hpass := nomatch hpass
  current hpass := nomatch hpass
  stays hpass := nomatch hpass
  sources hremoved := absurd hremoved List.not_mem_nil
  last hloop := nomatch hloop

namespace Exact

variable {items : List α} {watched : Watched σ α}

/-- What leaves the table has not left it before. -/
theorem nodup_append_get? (h : watched.Exact items) (id : SessionId) :
    (watched.removed.map Prod.snd ++ watched.withdrawn ++
      (watched.registry.table.get? id).toList).Nodup := by
  rw [List.nodup_append]
  refine ⟨h.nodup, ?_, ?_⟩
  · cases watched.registry.table.get? id <;> simp
  · rintro number hgone _ hnumber rfl
    have hid := Option.mem_toList.mp hnumber
    exact (h.out number hgone).1 (Keyed.mem_values_iff.mpr ⟨id, hid⟩)

/-- What has left the table, now or before, is not there any more. -/
theorem out_append_get? (h : watched.Exact items) {id : SessionId}
    {number : Nat}
    (hgone : number ∈ watched.removed.map Prod.snd ++ watched.withdrawn ++
      (watched.registry.table.get? id).toList) :
    number ∉ (watched.registry.table.erase id).values ∧
      number < watched.registry.outlets.length := by
  have hnumbered : watched.registry.Numbered := h.tracked.numbered
  rw [hnumbered.mem_values_erase_iff]
  rcases List.mem_append.mp hgone with hearlier | hnow
  · obtain ⟨hout, hrange⟩ := h.out number hearlier
    exact ⟨fun hnumber => hout hnumber.1, hrange⟩
  · have hid := Option.mem_toList.mp hnow
    exact ⟨fun hnumber => hnumber.2 hid,
      hnumbered.range number (Keyed.mem_values_iff.mpr ⟨id, hid⟩)⟩

/-- Without a session an entry stays in the table, or it was that of the
session. -/
theorem mem_erase_or_get? {entry : SessionId × Nat} {id : SessionId}
    (h : entry ∈ watched.registry.table.entries) :
    entry ∈ (watched.registry.table.erase id).entries ∨
      watched.registry.table.get? id = some entry.2 := by
  by_cases hid : entry.1 = id
  · subst hid
    exact Or.inr (Keyed.mem_entries_iff.mp h)
  · exact Or.inl (List.mem_filter.mpr ⟨h, decide_eq_true hid⟩)

/-- What the snapshot of the pass has is in the table without a session, or it
was that of the session, or it has left the table before. -/
theorem stays_erase (h : watched.Exact items) (id : SessionId) {pass : Pass α}
    (hpass : watched.run.current = some pass) {entry : SessionId × Nat}
    (hentry : entry ∈ pass.snapshot) :
    entry ∈ (watched.registry.table.erase id).entries ∨
      watched.registry.table.get? id = some entry.2 ∨
      (watched.run.finished.length, entry.2) ∈ watched.removed ∨
      entry.2 ∈ watched.withdrawn := by
  rcases h.stays hpass entry hentry with hstill | hgone
  · exact (mem_erase_or_get? hstill).imp_right Or.inl
  · exact Or.inr (Or.inr hgone)

end Exact

end Watched

end LanRelay
