/-
What the loop of a fan-out removes, while others register and remove outlets.

The loop judges an outlet of the snapshot that it took, and then removes what
is registered for the session at that time. If the outlet that it judged was
removed by others in between, and another one was registered under the same
identifier, then it removes the other one.

Main statements: `SharedRun.Tracked.move`, by which all that is in the table was
in the snapshot or has been registered since, and `loop_evicts_by_identifier`.
-/
import LanRelay.Proofs.Flow.Isolation
import LanRelay.Proofs.Session.Registration

namespace LanRelay

variable {σ ω α : Type}

/-- A run of a fan-out beside others who register and remove outlets. -/
structure SharedRun (σ α : Type) where
  run : FanoutRun σ α
  /-- What others have registered since the loop took its item up. -/
  newcomers : List (SessionId × Nat) := []

/-- What happens next around a fan-out that the loop does not have to itself. -/
inductive SharedMove (σ ω α : Type) where
  | play (move : FanoutMove ω)
  /-- Somebody hands an outlet to the registry. -/
  | register (id : SessionId) (outlet : Outlet σ α)
  /-- Somebody removes the outlet of a session. -/
  | unregister (id : SessionId)

/-- Somebody registers or removes an outlet. -/
def SharedMove.isOfOthers : SharedMove σ ω α → Bool
  | register _ _ | unregister _ => true
  | play _ => false

namespace SharedRun

def start (fanout : Fanout σ α) : SharedRun σ α := { run := .start fanout }

def registry (shared : SharedRun σ α) : Registry σ α :=
  shared.run.fanout.registry

def registered (shared : SharedRun σ α) (id : SessionId)
    (outlet : Outlet σ α) : SharedRun σ α :=
  let (registry, result) := shared.registry.register id outlet
  { run := shared.run.withRegistry registry
    newcomers :=
      match result with
      | .ok number => shared.newcomers ++ [(id, number)]
      | .error _ => shared.newcomers }

def unregistered (shared : SharedRun σ α) (id : SessionId) : SharedRun σ α :=
  { shared with
    run := shared.run.withRegistry (shared.registry.unregister id).1 }

/-- What counts as registered since: a pass begins with nothing. -/
def remembered (shared : SharedRun σ α) :
    FanoutMove ω → List (SessionId × Nat)
  | .take => []
  | .offer _ | .evict _ | .finish | .stop | .work .. | .close _ =>
      shared.newcomers

/-- The run after a move, if that is possible now. -/
def move? [Sink σ ω α] (shared : SharedRun σ α) :
    SharedMove σ ω α → Option (SharedRun σ α)
  | .play move =>
      (shared.run.play? move).map fun run =>
        { run, newcomers := shared.remembered move }
  | .register id outlet => some (shared.registered id outlet)
  | .unregister id => some (shared.unregistered id)

def moveAll? [Sink σ ω α] (shared : SharedRun σ α) :
    List (SharedMove σ ω α) → Option (SharedRun σ α)
  | [] => some shared
  | move :: moves => (shared.move? move).bind (·.moveAll? moves)

end SharedRun

/-! The judgement of an outlet. -/

namespace Fanout

/-- An offer after which its outlet is removed: the outlet was closed, or an
item was dropped and too many were in a row. -/
def Condemns (fanout : Fanout σ α) (made : Made α) : Prop :=
  made.outcome = .closed ∨
    made.outcome.isDrop = true ∧ fanout.isTooSlow made.entry.2 = true

theorem condemns_of_judge {fanout : Fanout σ α} {outcome : Offer}
    {id judged : SessionId} {number : Nat} {item item' : α}
    {pending pending' : List (SessionId × Nat)}
    (h : (fanout.judge outcome id number item pending).loop =
      some (.evicting judged item' pending')) :
    judged = id ∧ (outcome = .closed ∨
      outcome.isDrop = true ∧ fanout.isTooSlow number = true) := by
  cases outcome with
  | queued => cases h
  | closed =>
      cases h
      exact ⟨rfl, Or.inl rfl⟩
  | droppedOldest | droppedNewest =>
      by_cases hslow : fanout.isTooSlow number = true
      · rw [judge, if_pos hslow] at h
        cases h
        exact ⟨rfl, Or.inr ⟨rfl, hslow⟩⟩
      · rw [judge, if_neg hslow] at h
        cases h

theorem isTooSlow_judge (fanout : Fanout σ α) (outcome : Offer)
    (id : SessionId) (number other : Nat) (item : α)
    (pending : List (SessionId × Nat)) :
    (fanout.judge outcome id number item pending).isTooSlow other =
      fanout.isTooSlow other := by
  cases outcome <;> rfl

/-- Whether an outlet is too slow can be told by its drops in a row. -/
theorem isTooSlow_congr {fanout fanout' : Fanout σ α} {number : Nat}
    (hlimit : fanout'.limit = fanout.limit)
    (h : (fanout'.registry.outlets.map (·.metrics.consecutive))[number]? =
      (fanout.registry.outlets.map (·.metrics.consecutive))[number]?) :
    fanout'.isTooSlow number = fanout.isTooSlow number := by
  simp only [List.getElem?_map] at h
  unfold isTooSlow
  rw [hlimit]
  cases hafter : fanout'.registry.outlets[number]? with
  | none =>
      rw [hafter] at h
      rw [Option.map_eq_none_iff.mp h.symm]
  | some outlet' =>
      rw [hafter] at h
      obtain ⟨outlet, hbefore, hsame⟩ := Option.map_eq_some_iff.mp h.symm
      rw [hbefore]
      dsimp only at hsame ⊢
      rw [hsame]

end Fanout

@[simp]
theorem Pass.snapshot_evict (pass : Pass α) (id : SessionId) (removed : Bool) :
    (pass.evict id removed).snapshot = pass.snapshot := by
  cases removed <;> rfl

/-! What is in the table. -/

/-- What is in the table during a pass: what was in its snapshot, and what has
been registered since under new numbers. -/
structure Registry.Since (registry : Registry σ α)
    (snapshot newcomers : List (SessionId × Nat)) : Prop where
  entries : ∀ entry ∈ registry.snapshot,
    entry ∈ snapshot ∨ entry ∈ newcomers
  fresh : ∀ entry ∈ newcomers, entry.2 ∉ snapshot.map Prod.snd
  range : ∀ number ∈ snapshot.map Prod.snd, number < registry.outlets.length
  nodup : (snapshot.map Prod.snd).Nodup

namespace Registry.Since

variable {registry registry' : Registry σ α}
  {snapshot newcomers : List (SessionId × Nat)}

theorem begin (h : registry.Numbered) :
    registry.Since registry.snapshot [] where
  entries _ hentry := Or.inl hentry
  fresh _ hentry := absurd hentry List.not_mem_nil
  range := h.range
  nodup := h.nodup

/-- Nothing is put into the table. -/
theorem mono (h : registry.Since snapshot newcomers)
    (htable : registry'.snapshot ⊆ registry.snapshot)
    (hlength : registry.outlets.length ≤ registry'.outlets.length) :
    registry'.Since snapshot newcomers where
  entries entry hentry := h.entries entry (htable hentry)
  fresh := h.fresh
  range number hnumber := Nat.lt_of_lt_of_le (h.range number hnumber) hlength
  nodup := h.nodup

theorem offer (h : registry.Since snapshot newcomers) (number : Nat)
    (item : α) : (registry.offer number item).1.Since snapshot newcomers := by
  refine h.mono ?_ (Nat.le_of_eq (registry.length_offer number item).symm)
  rw [Registry.snapshot, table_offer]
  exact List.Subset.refl _

theorem unregister (h : registry.Since snapshot newcomers) (id : SessionId) :
    (registry.unregister id).1.Since snapshot newcomers := by
  refine h.mono ?_ (Nat.le_of_eq (registry.length_unregister id).symm)
  rw [Registry.snapshot, table_unregister]
  exact List.filter_sublist.subset

theorem register (h : registry.Since snapshot newcomers) (id : SessionId)
    (outlet : Outlet σ α) :
    (registry.register id outlet).1.Since snapshot
      (match (registry.register id outlet).2 with
        | .ok number => newcomers ++ [(id, number)]
        | .error _ => newcomers) := by
  cases hid : registry.contains id with
  | true =>
      rw [register_snd_of_contains outlet hid]
      refine h.mono ?_ (registry.length_register_le id outlet)
      rw [Registry.snapshot, (registry.lawful).table_register, if_pos hid]
      exact List.Subset.refl _
  | false =>
      rw [register_snd_of_not_contains outlet hid]
      have htable := registry.lawful.table_register id outlet
      rw [hid, if_neg Bool.false_ne_true] at htable
      refine ⟨fun entry hentry => ?_, fun entry hentry => ?_, ?_, h.nodup⟩
      · have hentries : (registry.register id outlet).1.snapshot =
            registry.snapshot ++ [(id, registry.outlets.length)] := by
          rw [Registry.snapshot, htable]
          exact Keyed.putEntry_of_not_mem _
            (Keyed.not_mem_keys_of_not_contains hid)
        rw [hentries, List.mem_append] at hentry
        rcases hentry with hold | hnew
        · exact (h.entries entry hold).imp_right (List.mem_append_left _)
        · exact Or.inr (List.mem_append_right _ hnew)
      · rcases List.mem_append.mp hentry with hold | hnew
        · exact h.fresh entry hold
        · -- The new number is beyond all that are in the snapshot.
          rw [List.mem_singleton.mp hnew]
          exact fun hnumber => Nat.lt_irrefl _ (h.range _ hnumber)
      · exact fun number hnumber => Nat.lt_of_lt_of_le (h.range number hnumber)
          (registry.length_register_le id outlet)

/-- What is registered for a session of the snapshot is the outlet that was
registered then, or one that came since, and then the former is in the table
no more. -/
theorem eq_or_newcomer (h : registry.Since snapshot newcomers)
    (hkeys : (snapshot.map Prod.fst).Nodup) {entry : SessionId × Nat}
    (hentry : entry ∈ snapshot) {number : Nat}
    (hnumber : registry.table.get? entry.1 = some number) :
    number = entry.2 ∨ (entry.1, number) ∈ newcomers ∧
      number ∉ snapshot.map Prod.snd ∧ entry.2 ∉ registry.table.values := by
  rcases h.entries _ (Keyed.mem_entries_iff.mpr hnumber) with hold | hnew
  · have hsame := List.inj_on_of_nodup_map hkeys hold hentry rfl
    exact Or.inl (congrArg Prod.snd hsame)
  · refine Or.inr ⟨hnew, h.fresh _ hnew, fun hstill => ?_⟩
    have hlisted : entry.2 ∈ snapshot.map Prod.snd :=
      List.mem_map_of_mem hentry
    obtain ⟨key, hkey⟩ := Keyed.mem_values_iff.mp hstill
    rcases h.entries _ (Keyed.mem_entries_iff.mpr hkey) with hsnap | hlater
    · -- It would still be the outlet of its session, and not the newcomer.
      have hsame := List.inj_on_of_nodup_map h.nodup hsnap hentry rfl
      rw [show key = entry.1 from congrArg Prod.fst hsame, hnumber] at hkey
      exact h.fresh _ hnew (Option.some.inj hkey ▸ hlisted)
    · exact h.fresh _ hlater hlisted

end Registry.Since

namespace SharedRun

/-- The loop has made its last offer to this session, and is to remove it. -/
def Judged (run : FanoutRun σ α) (id : SessionId) : Prop :=
  ∃ pass earlier made, run.current = some pass ∧
    pass.offers = earlier ++ [made] ∧ made.entry ∈ pass.snapshot ∧
    made.entry.1 = id ∧ run.fanout.Condemns made

/-- What holds of a run on these items while others register and remove
outlets. -/
structure Tracked (items : List α) (shared : SharedRun σ α) : Prop where
  kept : shared.run.Kept items
  numbered : shared.registry.Numbered
  since {pass : Pass α} : shared.run.current = some pass →
    shared.registry.Since pass.snapshot shared.newcomers
  judged {id : SessionId} {item : α} {pending : List (SessionId × Nat)} :
    shared.run.fanout.loop = some (.evicting id item pending) →
    Judged shared.run id

variable {items : List α} {shared shared' : SharedRun σ α}
  {run : FanoutRun σ α}

/-- Changes of the registry that leave the drops in a row of all outlets as they
are take back no judgement. -/
theorem Judged.withRegistry {id : SessionId} (h : Judged run id)
    (hrange : ∀ pass, run.current = some pass → ∀ number ∈
      pass.snapshot.map Prod.snd, number < run.fanout.registry.outlets.length)
    {registry : Registry σ α}
    (hstays : run.fanout.registry.outlets.map (·.metrics.consecutive) <+:
      registry.outlets.map (·.metrics.consecutive)) :
    Judged (run.withRegistry registry) id := by
  obtain ⟨pass, earlier, made, hpass, hoffers, hlisted, hid, hcondemns⟩ := h
  refine ⟨pass, earlier, made, hpass, hoffers, hlisted, hid, ?_⟩
  refine hcondemns.imp_right fun ⟨hdrop, hslow⟩ => ⟨hdrop, ?_⟩
  rw [← hslow]
  refine Fanout.isTooSlow_congr rfl ?_
  have hnumber := hrange pass hpass _ (List.mem_map_of_mem hlisted)
  obtain ⟨later, hlater⟩ := hstays
  change (registry.outlets.map _)[made.entry.2]? = _
  rw [← hlater, List.getElem?_append_left (by simpa using hnumber)]

theorem Tracked.withRegistry (h : shared.Tracked items)
    {registry : Registry σ α} {newcomers : List (SessionId × Nat)}
    (hnumbered : registry.Numbered)
    (hsince : ∀ {snapshot},
      shared.registry.Since snapshot shared.newcomers →
      registry.Since snapshot newcomers)
    (hstays : shared.registry.outlets.map (·.metrics.consecutive) <+:
      registry.outlets.map (·.metrics.consecutive)) :
    Tracked items { run := shared.run.withRegistry registry, newcomers } where
  kept := h.kept.withRegistry registry
  numbered := hnumbered
  since hpass := hsince (h.since hpass)
  judged hloop := (h.judged hloop).withRegistry
    (fun _ hpass => (h.since hpass).range) hstays

theorem Tracked.registered (h : shared.Tracked items) (id : SessionId)
    (outlet : Outlet σ α) : (shared.registered id outlet).Tracked items := by
  have hmap : (shared.registry.register id outlet).1.outlets.map
      (·.metrics.consecutive) = shared.registry.outlets.map
        (·.metrics.consecutive) ++ [outlet.metrics.consecutive] :=
    Registry.map_register _ id rfl
  exact h.withRegistry (h.numbered.register id outlet)
    (fun hsince => hsince.register id outlet) ⟨_, hmap.symm⟩

theorem Tracked.unregistered (h : shared.Tracked items) (id : SessionId) :
    (shared.unregistered id).Tracked items := by
  have hmap : (shared.registry.unregister id).1.outlets.map
      (·.metrics.consecutive) =
        shared.registry.outlets.map (·.metrics.consecutive) :=
    Registry.unregister_outlets _ id fun _ => rfl
  exact h.withRegistry (h.numbered.unregister id)
    (fun hsince => hsince.unregister id) (hmap ▸ List.prefix_rfl)

/-- An offer may be a judgement. -/
theorem judged_offered (h : run.Kept items) {id judged : SessionId}
    {item item' : α} {entry : SessionId × Nat}
    {pending pending' : List (SessionId × Nat)}
    (hbusy : run.task? = some (item, pending))
    (hentry : pending.find? (·.1 = id) = some entry)
    (hloop : (run.offered item entry
        (pending.filter (·.1 ≠ id))).fanout.loop =
      some (.evicting judged item' pending')) :
    Judged (run.offered item entry (pending.filter (·.1 ≠ id))) judged := by
  obtain ⟨pass, hpass, rfl, hleft⟩ := h.busy hbusy
  obtain ⟨rfl, houtcome⟩ := Fanout.condemns_of_judge hloop
  refine ⟨_, pass.offers, _, congrArg (Option.map _) hpass, rfl, ?_, rfl, ?_⟩
  · exact hleft.perm.subset
      (List.mem_append_right _ (List.mem_of_find?_eq_some hentry))
  · refine houtcome.imp_right fun ⟨hdrop, hslow⟩ => ⟨hdrop, ?_⟩
    exact (Fanout.isTooSlow_judge ..).trans hslow

/-- A change of outlets in their places. -/
theorem Tracked.withOutlets (h : shared.Tracked items)
    {outlets : List (Outlet σ α)}
    (hmap : outlets.map (·.metrics.consecutive) =
      shared.registry.outlets.map (·.metrics.consecutive)) :
    Tracked items { shared with
      run := shared.run.withRegistry { shared.registry with outlets } } := by
  have hlength : outlets.length = shared.registry.outlets.length := by
    simpa using congrArg List.length hmap
  exact h.withRegistry (h.numbered.of_outlets hlength)
    (fun hsince => hsince.mono (List.Subset.refl _) (Nat.le_of_eq hlength.symm))
    (hmap ▸ List.prefix_rfl)

/-- Every move of the loop, of a worker and of whoever closes an outlet keeps
what holds of the run. -/
theorem Tracked.plays [Sink σ ω α] (h : shared.Tracked items)
    {move : FanoutMove ω} (hplays : shared.run.Plays move run) :
    Tracked items { run, newcomers := shared.remembered move } := by
  have hkept := h.kept.plays hplays
  cases hplays with
  | took source item hloop hreceive =>
      refine ⟨hkept, h.numbered, fun hpass => ?_, nofun⟩
      cases hpass
      exact .begin h.numbered
  | ended source hloop hempty hclosed => exact ⟨hkept, h.numbered, nofun, nofun⟩
  | offered id item entry pending hloop hentry =>
      have hbusy : shared.run.task? = some (item, pending) :=
        congrArg (Option.bind · _) hloop
      have hregistry : (shared.run.offered item entry
          (pending.filter (·.1 ≠ id))).fanout.registry =
            (shared.registry.offer entry.2 item).1 := Fanout.judge_registry ..
      refine ⟨hkept, ?_, fun hcurrent => ?_, judged_offered h.kept hbusy hentry⟩
      · rw [SharedRun.registry, hregistry]
        exact h.numbered.offer entry.2 item
      · obtain ⟨pass, hpass, rfl⟩ := Option.map_eq_some_iff.mp hcurrent
        rw [SharedRun.registry, hregistry]
        exact (h.since hpass).offer entry.2 item
  | evicted id item pending hloop =>
      refine ⟨hkept, h.numbered.unregister id, fun hcurrent => ?_, nofun⟩
      obtain ⟨pass, hpass, rfl⟩ := Option.map_eq_some_iff.mp hcurrent
      rw [Pass.snapshot_evict]
      exact (h.since hpass).unregister id
  | passed item hloop => exact ⟨hkept, h.numbered, nofun, nofun⟩
  | stopped hloop => exact ⟨hkept, h.numbered, h.since, nofun⟩
  | worked number world world' outlet outlet' houtlet hwork =>
      exact h.withOutlets (Registry.map_set houtlet
        (Outlet.works_of_work? hwork).consecutive_eq)
  | closed number =>
      exact h.withOutlets (Registry.map_adjust _ number fun _ => rfl)

theorem Tracked.move [Sink σ ω α] (h : shared.Tracked items)
    {move : SharedMove σ ω α} (hmove : shared.move? move = some shared') :
    shared'.Tracked items := by
  cases move with
  | play move =>
      obtain ⟨run, hplay, rfl⟩ := Option.map_eq_some_iff.mp hmove
      exact h.plays (FanoutRun.play?_eq_some_iff.mp hplay)
  | register id outlet =>
      cases hmove
      exact h.registered id outlet
  | unregister id =>
      cases hmove
      exact h.unregistered id

theorem Tracked.moveAll [Sink σ ω α] {moves : List (SharedMove σ ω α)}
    (h : shared.Tracked items) (hmoves : shared.moveAll? moves = some shared') :
    shared'.Tracked items := by
  induction moves generalizing shared with
  | nil =>
      cases hmoves
      exact h
  | cons move moves ih =>
      obtain ⟨next, hmove, hrest⟩ := Option.bind_eq_some_iff.mp hmoves
      exact ih (h.move hmove) hrest

theorem tracked_start {fanout : Fanout σ α} (h : fanout.registry.Numbered) :
    (start fanout).Tracked fanout.source.items where
  kept := FanoutRun.kept_start fanout
  numbered := h
  since := nofun
  judged := nofun

/-- The loop takes nothing out of the table but in the step in which it removes
the session that it has judged. -/
theorem evicted_of_gone [Sink σ ω α] {move : FanoutMove ω}
    (hmove : move.isOfLoop = true) (hplays : shared.run.Plays move run)
    {id : SessionId} {number : Nat}
    (hentry : shared.registry.table.get? id = some number)
    (hgone : run.fanout.registry.table.get? id ≠ some number) :
    move = .evict id ∧ ∃ item pending,
      shared.run.fanout.loop = some (.evicting id item pending) ∧
      run = shared.run.evicted id item pending := by
  cases hplays with
  | took => exact absurd hentry hgone
  | ended => exact absurd hentry hgone
  | passed => exact absurd hentry hgone
  | stopped => exact absurd hentry hgone
  | worked => cases hmove
  | closed => cases hmove
  | offered judged item entry pending hloop hfound =>
      rw [FanoutRun.offered, Fanout.judge_registry, Registry.table_offer]
        at hgone
      exact absurd hentry hgone
  | evicted judged item pending hloop =>
      have htable : (shared.run.evicted judged item
          pending).fanout.registry.table =
            shared.registry.table.erase judged :=
        Registry.table_unregister _ judged
      rw [htable, Keyed.get?_erase] at hgone
      by_cases hid : id = judged
      · subst hid
        exact ⟨rfl, item, pending, hloop, rfl⟩
      · rw [if_neg hid] at hgone
        exact absurd hentry hgone

/-- Others can bring a fan-out to be as it then is. -/
def OthersReach [Sink σ ω α] (fanout fanout' : Fanout σ α) : Prop :=
  ∀ shared : SharedRun σ α, shared.run.fanout = fanout →
    ∃ moves : List (SharedMove σ ω α),
      (∀ move ∈ moves, move.isOfOthers = true) ∧
      ∃ shared', shared.moveAll? moves = some shared' ∧
        shared'.run.fanout = fanout'

namespace OthersReach

variable [Sink σ ω α] {fanout : Fanout σ α}

theorem refl (fanout : Fanout σ α) : OthersReach fanout fanout :=
  fun shared hshared =>
    ⟨[], fun _ hmove => absurd hmove List.not_mem_nil, shared, rfl, hshared⟩

theorem register (fanout : Fanout σ α) (id : SessionId)
    (outlet : Outlet σ α) : OthersReach fanout
      { fanout with registry := (fanout.registry.register id outlet).1 } := by
  rintro shared rfl
  exact ⟨[.register id outlet], List.forall_mem_singleton.mpr rfl, _, rfl, rfl⟩

theorem register_unregister (fanout : Fanout σ α) (id : SessionId)
    (outlet : Outlet σ α) : OthersReach fanout
      { fanout with registry :=
          ((fanout.registry.register id outlet).1.unregister id).1 } := by
  rintro shared rfl
  refine ⟨[.register id outlet, .unregister id], ?_, _, rfl, rfl⟩
  simp [SharedMove.isOfOthers]

end OthersReach

/-- To attach log sinks is to register in both streams, and to take the first
one back if the second is refused. -/
theorem othersReach_attachLog (proxy : Proxy) :
    OthersReach proxy.packets proxy.attachLog.1.packets ∧
      OthersReach proxy.events proxy.attachLog.1.events := by
  unfold Proxy.attachLog
  dsimp only
  split
  · rename_i first fault hfirst
    obtain rfl := congrArg Prod.fst hfirst
    exact ⟨.register _ _ _, .refl _⟩
  · rename_i first number hfirst
    obtain rfl := congrArg Prod.fst hfirst
    split
    · rename_i second fault hsecond
      obtain rfl := congrArg Prod.fst hsecond
      exact ⟨.register_unregister _ _ _, .register _ _ _⟩
    · rename_i second number' hsecond
      obtain rfl := congrArg Prod.fst hsecond
      exact ⟨.register _ _ _, .register _ _ _⟩

end SharedRun

/-- However others register and remove outlets in between, log sinks among
them: what the loop takes out of the table is registered for the session that
it has just judged, whose outlet was closed or had dropped too many items in a
row. It is the outlet that was judged, or one that came for the session since
the snapshot, if the one that was judged is in the table no more; so it is the
former if nothing came. It is closed, and no other outlet is touched. Once the
loop has judged, it removes whatever the session has. -/
theorem loop_evicts_by_identifier [Sink σ ω α] (fanout : Fanout σ α)
    (hnumbered : fanout.registry.Numbered) (moves : List (SharedMove σ ω α))
    (shared : SharedRun σ α)
    (hrun : (SharedRun.start fanout).moveAll? moves = some shared) :
    (∀ (move : FanoutMove ω) (shared' : SharedRun σ α),
      move.isOfLoop = true → shared.move? (.play move) = some shared' →
      ∀ (id : SessionId) (number : Nat),
        shared.registry.table.get? id = some number →
        shared'.registry.table.get? id ≠ some number →
        move = .evict id ∧
        (∃ pass earlier made, shared.run.current = some pass ∧
          pass.offers = earlier ++ [made] ∧ made.entry ∈ pass.snapshot ∧
          made.entry.1 = id ∧ shared.run.fanout.Condemns made ∧
          (number = made.entry.2 ∨ (id, number) ∈ shared.newcomers ∧
            number ∉ pass.snapshot.map Prod.snd ∧
            made.entry.2 ∉ shared.registry.table.values) ∧
          ((∀ entry ∈ shared.newcomers, entry.1 ≠ id) →
            number = made.entry.2)) ∧
        shared'.registry.table = shared.registry.table.erase id ∧
        (∀ other, shared'.registry.outlets[other]? =
          if number = other then
            (shared.registry.outlets[other]?).map Outlet.close
          else shared.registry.outlets[other]?) ∧
        shared'.run.fanout.totals.evicted =
          shared.run.fanout.totals.evicted + 1) ∧
    (∀ id item pending,
      shared.run.fanout.loop = some (.evicting id item pending) →
      ∃ shared', shared.move? (.play (.evict id)) = some shared' ∧
        shared'.registry = (shared.registry.unregister id).1) ∧
    ∀ proxy : Proxy,
      SharedRun.OthersReach proxy.packets proxy.attachLog.1.packets ∧
        SharedRun.OthersReach proxy.events proxy.attachLog.1.events := by
  have htracked := (SharedRun.tracked_start hnumbered).moveAll hrun
  refine ⟨?_, ?_, SharedRun.othersReach_attachLog⟩
  · intro move shared' hloop hmove id number hentry hgone
    obtain ⟨run, hplay, rfl⟩ := Option.map_eq_some_iff.mp hmove
    obtain ⟨rfl, item, pending, hevicting, rfl⟩ := SharedRun.evicted_of_gone
      hloop (FanoutRun.play?_eq_some_iff.mp hplay) hentry hgone
    obtain ⟨pass, earlier, made, hpass, hoffers, hlisted, rfl, hcondemns⟩ :=
      htracked.judged hevicting
    have hkeys := (htracked.kept.left_of_current hpass).nodup
    have hwhich := (htracked.since hpass).eq_or_newcomer hkeys hlisted hentry
    refine ⟨rfl, ⟨pass, earlier, made, hpass, hoffers, hlisted, rfl, hcondemns,
      hwhich, ?_⟩, Registry.table_unregister .., ?_, ?_⟩
    · intro hnobody
      rcases hwhich with hjudged | ⟨hnewcomer, -⟩
      · exact hjudged
      · exact absurd rfl (hnobody (made.entry.1, number) hnewcomer)
    · intro other
      refine (Registry.getElem?_unregister ..).trans ?_
      rw [show shared.run.fanout.registry.table.get? _ = _ from hentry]
      simp only [Option.some.injEq]
      rfl
    · have hcontains : shared.registry.contains made.entry.1 = true := by
        rw [Registry.contains, Keyed.contains, hentry]
        rfl
      refine (congrArg Stats.DispatchTotals.evicted
        (Fanout.evict_totals ..)).trans ?_
      exact congrArg _ (if_pos hcontains)
  · intro id item pending hloop
    exact ⟨_, congrArg (Option.map _) (FanoutRun.play?_eq_some_iff.mpr
      (.evicted id item pending hloop)), rfl⟩

/-- The outlet of one session drops the second item, and the loop is to remove
it. -/
def stalledMoves : List (SharedMove EventSink Scene Event) :=
  [.play .take, .play (.offer "stalled"), .play (.offer "brisk"),
    .play .finish, .play .take, .play (.offer "stalled")]

theorem loop_evicts_by_identifier_of_sample :
    sampleFanout.registry.Numbered ∧ ∃ shared shared',
      (SharedRun.start sampleFanout).moveAll? stalledMoves = some shared ∧
      shared.move? (.play (.evict "stalled")) = some shared' ∧
      shared.registry.table.get? "stalled" = some 0 ∧
      shared'.registry.table.get? "stalled" ≠ some 0 ∧
      ∃ pass earlier made, shared.run.current = some pass ∧
        pass.offers = earlier ++ [made] ∧
        made.entry.1 = "stalled" ∧ made.entry.2 = 0 ∧
        shared.run.fanout.Condemns made := by
  have hnumbered : sampleFanout.registry.Numbered :=
    ((Registry.Numbered.clear _).register _ _).register _ _
  obtain ⟨shared, shared', hrun, hmove, hentry, hgone, hnewcomers⟩ :
      ∃ shared shared',
        (SharedRun.start sampleFanout).moveAll? stalledMoves = some shared ∧
        shared.move? (.play (.evict "stalled")) = some shared' ∧
        shared.registry.table.get? "stalled" = some 0 ∧
        shared'.registry.table.get? "stalled" = none ∧
        shared.newcomers = [] := ⟨_, _, rfl, rfl, rfl, rfl, rfl⟩
  have hnow : shared'.registry.table.get? "stalled" ≠ some 0 := by
    rw [hgone]
    exact nofun
  obtain ⟨hloop, -⟩ :=
    loop_evicts_by_identifier sampleFanout hnumbered stalledMoves shared hrun
  obtain ⟨-, ⟨pass, earlier, made, hpass, hoffers, -, hid, hcondemns, -, hsame⟩,
    -⟩ := hloop (.evict "stalled") shared' rfl hmove "stalled" 0 hentry hnow
  refine ⟨hnumbered, shared, shared', hrun, hmove, hentry, hnow, pass, earlier,
    made, hpass, hoffers, hid, (hsame ?_).symm, hcondemns⟩
  rw [hnewcomers]
  exact nofun

/-- Before the loop removes it, somebody else does, and registers another
outlet for the session. -/
def replacedMoves : List (SharedMove EventSink Scene Event) :=
  stalledMoves ++ [.unregister "stalled",
    .register "stalled" (.create "again" 1 .dropNewest (.log "again" 0))]

/-- The new outlet has been offered nothing, and is removed and closed. -/
theorem loop_evicts_a_namesake :
    ∃ shared shared',
      (SharedRun.start sampleFanout).moveAll? replacedMoves = some shared ∧
      shared.move? (.play (.evict "stalled")) = some shared' ∧
      shared.run.offers.map (·.entry) =
        [("stalled", 0), ("brisk", 1), ("stalled", 0)] ∧
      shared.registry.table.get? "stalled" = some 2 ∧
      (shared.registry.outlets[2]?).map Outlet.isClosed = some false ∧
      shared'.registry.table.get? "stalled" = none ∧
      (shared'.registry.outlets[2]?).map Outlet.isClosed = some true ∧
      shared'.run.fanout.totals.evicted = 1 :=
  ⟨_, _, rfl, rfl, rfl, rfl, rfl, rfl, rfl, rfl⟩

end LanRelay
