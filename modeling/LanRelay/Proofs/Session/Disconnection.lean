/-
Which outlets the loop of a fan-out removes, and when.

In every pass the loop takes those outlets out of the table that the offers so
far condemn: the offer of the pass found the outlet closed, or it was the last
of too many drops in a row. It takes out no other outlet, and each one at most
once. Others may register outlets meanwhile, close them, or remove sessions; an
outlet that somebody else has taken out of the table is not there any more for
the loop to take.

Main statements: `Watched.Exact.move` for one move, and
`condemned_outlets_are_removed_exactly`.
-/
import LanRelay.Proofs.Session.Removals

namespace LanRelay

variable {σ ω α : Type}

namespace Watched.Exact

variable {items : List α} {watched : Watched σ α} {run : FanoutRun σ α}
  {newcomers : List (SessionId × Nat)}

/-- The registry changes and nothing leaves the table. -/
theorem withRegistry (h : watched.Exact items) {registry : Registry σ α}
    (htracked : SharedRun.Tracked items
      { run := watched.run.withRegistry registry, newcomers })
    (hcounted : (watched.run.withRegistry registry).Counted)
    (hstays : ∀ entry ∈ watched.registry.table.entries,
      entry ∈ registry.table.entries)
    (hlength : watched.registry.outlets.length ≤ registry.outlets.length)
    (hnew : ∀ number ∈ registry.table.values,
      number ∈ watched.registry.table.values ∨
        watched.registry.outlets.length ≤ number) :
    Exact items { watched with
      shared := { run := watched.run.withRegistry registry, newcomers } } where
  tracked := htracked
  counted := hcounted
  nodup := h.nodup
  out number hgone := by
    obtain ⟨hout, hrange⟩ := h.out number hgone
    refine ⟨fun hnumber => ?_, Nat.lt_of_lt_of_le hrange hlength⟩
    rcases hnew number hnumber with hold | hbeyond
    · exact hout hold
    · exact Nat.not_lt.mpr hbeyond hrange
  evicted := h.evicted
  finished := h.finished
  current := h.current
  stays hpass entry hentry := (h.stays hpass entry hentry).imp_left (hstays _)
  sources := h.sources
  last := h.last

/-- Others take the outlet of a session out of the table. -/
theorem withdraw (h : watched.Exact items) (id : SessionId)
    (hcounted : (watched.shared.unregistered id).run.Counted) :
    (watched.note true (watched.shared.unregistered id)).Exact items := by
  have hlost : watched.registry.lost
      (watched.shared.unregistered id).registry =
        (watched.registry.table.get? id).toList :=
    h.tracked.numbered.lost_unregister id
  have htable : (watched.shared.unregistered id).registry.table =
      watched.registry.table.erase id := Registry.table_unregister ..
  have hlength : (watched.shared.unregistered id).registry.outlets.length =
      watched.registry.outlets.length := Registry.length_unregister ..
  have hnote : watched.note true (watched.shared.unregistered id) =
      { watched with
        shared := watched.shared.unregistered id
        withdrawn := watched.withdrawn ++
          (watched.registry.table.get? id).toList } := by
    rw [← hlost]
    rfl
  have hgrows : watched.withdrawn ⊆ watched.withdrawn ++
      (watched.registry.table.get? id).toList := List.subset_append_left _ _
  rw [hnote]
  exact {
    tracked := h.tracked.unregistered id
    counted := hcounted
    nodup := by
      rw [← List.append_assoc]
      exact h.nodup_append_get? id
    out := fun number hgone => by
      rw [registry, htable, hlength]
      rw [← List.append_assoc] at hgone
      exact h.out_append_get? hgone
    evicted := h.evicted
    finished := fun hpass =>
      (h.finished hpass).transfer rfl rfl hgrows fun _ _ => Iff.rfl
    current := fun hpass =>
      (h.current hpass).transfer rfl rfl hgrows fun _ _ => Iff.rfl
    stays := fun hpass entry hentry => by
      rw [registry, htable]
      rcases h.stays_erase id hpass hentry with
        hkept | hgone | hremoved | hwithdrawn
      · exact Or.inl hkept
      · exact Or.inr (Or.inr
          (List.mem_append_right _ (Option.mem_toList.mpr hgone)))
      · exact Or.inr (Or.inl hremoved)
      · exact Or.inr (Or.inr (hgrows hwithdrawn))
    sources := fun hremoved =>
      (h.sources hremoved).of_passes hgrows fun _ hpass => hpass
    last := h.last }

/-- A pass begins with everything in the table. -/
theorem took (h : watched.Exact items) {source : Queue α} {item : α}
    (hloop : watched.run.fanout.loop = some .waiting)
    (htracked : SharedRun.Tracked items
      { run := watched.run.took source item, newcomers })
    (hcounted : (watched.run.took source item).Counted) :
    Exact items { watched with
      shared := { run := watched.run.took source item, newcomers } } := by
  have hidle : watched.run.passes = watched.run.finished :=
    h.tracked.kept.passes_of_idle (congrArg (Option.bind · _) hloop)
  exact {
    tracked := htracked
    counted := hcounted
    nodup := h.nodup
    out := h.out
    evicted := h.evicted
    finished := h.finished
    current := fun hpass => by
      cases hpass
      exact .nil
    stays := fun hpass entry hentry => by
      cases hpass
      exact Or.inl hentry
    sources := fun hremoved => by
      refine (h.sources hremoved).of_passes (List.Subset.refl _) ?_
      intro pass hpass
      rw [hidle] at hpass
      exact getElem?_concat_eq_some.mpr (Or.inl hpass)
    last := fun hevicting => by cases hevicting }

/-- The loop ends, between two passes. -/
theorem ends (h : watched.Exact items) {run : FanoutRun σ α}
    (hloop : watched.run.fanout.loop = some .waiting)
    (hrun : run = { watched.run with
      fanout := { watched.run.fanout with loop := some .ended }
      current := none })
    (htracked : SharedRun.Tracked items { run, newcomers })
    (hcounted : run.Counted) :
    Exact items { watched with shared := { run, newcomers } } := by
  have hidle : watched.run.passes = watched.run.finished :=
    h.tracked.kept.passes_of_idle (congrArg (Option.bind · _) hloop)
  subst hrun
  exact {
    tracked := htracked
    counted := hcounted
    nodup := h.nodup
    out := h.out
    evicted := h.evicted
    finished := h.finished
    current := fun hpass => by cases hpass
    stays := fun hpass => by cases hpass
    sources := fun {index number} hremoved => by
      refine (h.sources hremoved).of_passes (List.Subset.refl _) ?_
      intro pass hpass
      rw [hidle] at hpass
      exact (congrArg (·[index]?) (List.append_nil _)).trans hpass
    last := fun hevicting => by cases hevicting }

/-- When a pass is over, all its offers are decided. -/
theorem passed (h : watched.Exact items) {item : α}
    (hloop : watched.run.fanout.loop = some (.offering item []))
    (htracked : SharedRun.Tracked items
      { run := watched.run.passed, newcomers })
    (hcounted : watched.run.passed.Counted) :
    Exact items { watched with
      shared := { run := watched.run.passed, newcomers } } := by
  obtain ⟨pass, hpass, -⟩ :=
    h.tracked.kept.busy (congrArg (Option.bind · _) hloop)
  have hpasses : watched.run.passes = watched.run.finished ++ [pass] :=
    FanoutRun.passes_of_current hpass
  have hbefore {index : Nat} (hindex : index ≤ watched.run.finished.length) :
      watched.run.passed.offersBefore index =
        watched.run.offersBefore index := by
    rw [FanoutRun.offersBefore, FanoutRun.passed, hpasses,
      List.take_append_of_le_length hindex]
    rfl
  exact {
    tracked := htracked
    counted := hcounted
    nodup := h.nodup
    out := h.out
    evicted := h.evicted
    finished := fun {index pass'} hpass' => by
      rw [show (Watched.run _).finished = watched.run.passes from rfl, hpasses]
        at hpass'
      rcases getElem?_concat_eq_some.mp hpass' with hold | ⟨rfl, rfl⟩
      · have hindex := (List.getElem?_eq_some_iff.mp hold).1
        exact (h.finished hold).transfer rfl (hbefore (Nat.le_of_lt hindex))
          (List.Subset.refl _) fun _ _ => Iff.rfl
      · have hverdicts := h.current hpass
        rw [FanoutRun.decided_of_offering hloop] at hverdicts
        exact hverdicts.transfer rfl (hbefore (Nat.le_refl _))
          (List.Subset.refl _) fun _ _ => Iff.rfl
    current := fun hpass' => by cases hpass'
    stays := fun hpass' => by cases hpass'
    sources := fun {index number} hremoved =>
      (h.sources hremoved).of_passes (List.Subset.refl _) fun pass hpass =>
        (congrArg (·[index]?) (List.append_nil _)).trans hpass
    last := fun hevicting => by cases hevicting }

/-- A number that has yet to get the item is not removed in the pass. -/
theorem not_removed_of_pending (h : watched.Exact items) {pass : Pass α}
    (hpass : watched.run.current = some pass)
    {pending : List (SessionId × Nat)} (hleft : pass.Left pending)
    {entry : SessionId × Nat} (hentry : entry ∈ pending) :
    (watched.run.finished.length, entry.2) ∉ watched.removed := by
  intro hremoved
  have hnumbers : ((pass.entries ++ pending).map Prod.snd).Nodup :=
    ((hleft.perm.map Prod.snd).nodup_iff).mpr (h.tracked.since hpass).nodup
  rw [List.map_append, List.nodup_append] at hnumbers
  obtain ⟨pass', made, hindex, hmade, hsource⟩ := h.sources hremoved
  rw [FanoutRun.passes_current hpass] at hindex
  obtain rfl := Option.some.inj hindex
  rcases hsource with hsame | ⟨hother, -⟩
  · exact hnumbers.2.2 made.entry.2
      (List.mem_map_of_mem (List.mem_map_of_mem hmade)) entry.2
      (List.mem_map_of_mem hentry) hsame
  · exact hother (List.mem_map_of_mem
      (hleft.perm.subset (List.mem_append_right _ hentry)))

/-- An offer is one more of the pass that the loop is in, and its outlet has not
been removed in that pass. The loop is to remove the session if and only if the
offers condemn the outlet. -/
theorem makes (h : watched.Exact items) {item : α} {entry : SessionId × Nat}
    {pending : List (SessionId × Nat)}
    (hloop : watched.run.fanout.loop = some (.offering item pending))
    (hentry : entry ∈ pending) (rest : List (SessionId × Nat)) :
    ∃ pass made, watched.run.current = some pass ∧ made.entry = entry ∧
      (watched.run.finished.length, entry.2) ∉ watched.removed ∧
      watched.run.GoesOn (watched.run.offered item entry rest) pass
        (pass.note made) ∧
      (watched.run.offered item entry rest).offers =
        watched.run.offers ++ [made] ∧
      (Condemned watched.run.fanout.limit (outcomesOf entry.2
          (watched.run.offered item entry rest).offers) ∧
        (watched.run.offered item entry rest).fanout.loop =
          some (.evicting entry.1 item rest) ∨
      ¬ Condemned watched.run.fanout.limit (outcomesOf entry.2
          (watched.run.offered item entry rest).offers) ∧
        (watched.run.offered item entry rest).fanout.loop =
          some (.offering item rest)) := by
  obtain ⟨pass, hpass, rfl, hleft⟩ : ∃ pass, watched.run.current = some pass ∧
      pass.item = item ∧ pass.Left pending :=
    h.tracked.kept.busy (congrArg (Option.bind · _) hloop)
  have hlisted : entry ∈ pass.snapshot :=
    hleft.perm.subset (List.mem_append_right _ hentry)
  have houtlet := List.getElem?_eq_getElem
    ((h.tracked.since hpass).range _ (List.mem_map_of_mem hlisted))
  exact ⟨pass, _, hpass, rfl, h.not_removed_of_pending hpass hleft hentry,
    .offered hpass pass.item entry rest,
    FanoutRun.offers_offered hpass pass.item entry rest,
    h.counted.judged hpass houtlet pass.item rest⟩

/-- After an offer the loop has taken nothing out yet, and is to do so if and
only if the offers condemn the outlet. -/
theorem offered (h : watched.Exact items) {id : SessionId} {item : α}
    {entry : SessionId × Nat} {pending : List (SessionId × Nat)}
    (hloop : watched.run.fanout.loop = some (.offering item pending))
    (hentry : pending.find? (·.1 = id) = some entry)
    {next : FanoutRun σ α}
    (hnext : watched.run.offered item entry (pending.filter (·.1 ≠ id)) = next)
    (htracked : SharedRun.Tracked items { run := next, newcomers })
    (hcounted : next.Counted) :
    Exact items { watched with shared := { run := next, newcomers } } := by
  obtain ⟨pass, made, hpass, rfl, hstill, hgoes, hoffers, hjudged⟩ :=
    h.makes hloop (List.mem_of_find?_eq_some hentry) (pending.filter (·.1 ≠ id))
  have hregistry := watched.run.registry_offered item made.entry
    (pending.filter (·.1 ≠ id))
  have hevicted : next.fanout.totals.evicted =
      watched.run.fanout.totals.evicted := by
    rw [← hnext, FanoutRun.offered, Fanout.judge_totals]
  rw [hnext] at hgoes hoffers hjudged hregistry
  exact {
    tracked := htracked
    counted := hcounted
    nodup := h.nodup
    out := fun number hgone => by
      change number ∉ next.fanout.registry.table.values ∧
        number < next.fanout.registry.outlets.length
      rw [hregistry, Registry.table_offer, Registry.length_offer]
      exact h.out number hgone
    evicted := hevicted.trans h.evicted
    finished := fun {index earlier} hearlier => by
      change next.finished[index]? = some earlier at hearlier
      rw [hgoes.finished] at hearlier
      exact (h.finished hearlier).goesOn hgoes newcomers
    current := fun hlater => by
      obtain rfl := Option.some.inj (hgoes.following.symm.trans hlater)
      have hold := h.current hpass
      rw [FanoutRun.decided_of_offering hloop] at hold
      change Verdicts _ next.finished.length (next.decided _)
      rw [hgoes.finished]
      rcases hjudged with ⟨-, hevicts⟩ | ⟨hspared, hspares⟩
      · rw [FanoutRun.decided_of_evicting hevicts, Pass.note,
          List.dropLast_concat]
        exact hold.goesOn hgoes newcomers
      · rw [FanoutRun.decided_of_offering hspares]
        exact hold.spare hgoes newcomers hoffers hstill hspared
    stays := fun hlater other hother => by
      obtain rfl := Option.some.inj (hgoes.following.symm.trans hlater)
      change other ∈ next.fanout.registry.table.entries ∨
        (next.finished.length, other.2) ∈ watched.removed ∨ _
      rw [hregistry, Registry.table_offer, hgoes.finished]
      exact h.stays hpass other hother
    sources := fun hremoved =>
      (h.sources hremoved).transfer (List.Subset.refl _)
        fun _ => hgoes.getElem?_passes
    last := fun hevicting => by
      rcases hjudged with ⟨hcondemned, hevicts⟩ | ⟨-, hspares⟩
      · cases hevicts.symm.trans hevicting
        refine ⟨_, pass.offers, made, hgoes.following, rfl, rfl, ?_, ?_⟩
        · change (next.finished.length, made.entry.2) ∉ watched.removed
          rw [hgoes.finished]
          exact hstill
        · change Condemned next.fanout.limit
            (outcomesOf made.entry.2 next.offers)
          rw [hgoes.limit]
          exact hcondemned
      · cases hspares.symm.trans hevicting }

/-- What the loop finds for a session that it has judged: the outlet of its
offer, unless others have taken that one out, and none that it has made an
offer to before. -/
theorem finds (h : watched.Exact items) {id : SessionId} {item : α}
    {pending : List (SessionId × Nat)}
    (hloop : watched.run.fanout.loop = some (.evicting id item pending)) :
    ∃ pass before made, watched.run.current = some pass ∧
      pass.offers = before ++ [made] ∧
      Condemned watched.run.fanout.limit
        (outcomesOf made.entry.2 watched.run.offers) ∧
      (∀ number, watched.registry.table.get? id = some number →
        made.entry.2 = number ∨ number ∉ pass.snapshot.map Prod.snd ∧
          made.entry.2 ∈ watched.withdrawn) ∧
      (made.entry.2 ∉ watched.withdrawn →
        watched.registry.table.get? id = some made.entry.2) ∧
      ∀ earlier ∈ before,
        watched.registry.table.get? id ≠ some earlier.entry.2 := by
  obtain ⟨pass, before, made, hpass, hoffers, rfl, hstill, hcondemned⟩ :=
    h.last hloop
  have hleft := h.tracked.kept.left_of_current hpass
  have hsince := h.tracked.since hpass
  have hlisted (other : Made α) (hother : other ∈ pass.offers) :
      other.entry ∈ pass.snapshot :=
    hleft.perm.subset
      (List.mem_append_left _ (List.mem_map_of_mem hother))
  have hmade : made ∈ pass.offers := by simp [hoffers]
  have hthere (hkept : made.entry.2 ∉ watched.withdrawn) :
      watched.registry.table.get? made.entry.1 = some made.entry.2 := by
    rcases h.stays hpass _ (hlisted made hmade) with
      hentry | hremoved | hwithdrawn
    · exact Keyed.mem_entries_iff.mp hentry
    · exact absurd hremoved hstill
    · exact absurd hwithdrawn hkept
  have hwhich (number : Nat)
      (hnumber : watched.registry.table.get? made.entry.1 = some number) :
      made.entry.2 = number ∨ number ∉ pass.snapshot.map Prod.snd ∧
        made.entry.2 ∈ watched.withdrawn := by
    by_cases hkept : made.entry.2 ∈ watched.withdrawn
    · rcases hsince.eq_or_newcomer hleft.nodup (hlisted made hmade) hnumber with
        hsame | ⟨-, hother, -⟩
      · exact Or.inl hsame.symm
      · exact Or.inr ⟨hother, hkept⟩
    · exact Or.inl (Option.some.inj ((hthere hkept).symm.trans hnumber))
  refine ⟨pass, before, made, hpass, hoffers, hcondemned, hwhich, hthere, ?_⟩
  intro earlier hearlier hnumber
  have hmem : earlier ∈ pass.offers :=
    hoffers ▸ List.mem_append_left _ hearlier
  rcases hwhich earlier.entry.2 hnumber with hsame | ⟨hother, -⟩
  · -- No two offers of a pass are to one outlet.
    have hnumbers :=
      ((hleft.perm.map Prod.snd).nodup_iff).mpr hsince.nodup
    rw [Pass.entries, hoffers, List.map_append, List.map_append,
      List.map_append] at hnumbers
    have hfront := (List.nodup_append.mp (List.nodup_append.mp hnumbers).1).2.2
    exact hfront earlier.entry.2
      (List.mem_map_of_mem (List.mem_map_of_mem hearlier)) made.entry.2
      (List.mem_singleton.mpr rfl) hsame.symm
  · exact hother (List.mem_map_of_mem (hlisted earlier hmem))

/-- The loop counts what it removes. -/
theorem evicted_evicted (watched : Watched σ α) (id : SessionId) (item : α)
    (pending : List (SessionId × Nat)) :
    (watched.run.evicted id item pending).fanout.totals.evicted =
      watched.run.fanout.totals.evicted +
        (watched.removals (watched.registry.table.get? id)).length := by
  have hcontains : watched.run.fanout.registry.contains id =
      (watched.registry.table.get? id).isSome := rfl
  rw [FanoutRun.evicted, Fanout.evict_totals, hcontains, removals,
    List.length_map]
  cases watched.registry.table.get? id <;> rfl

/-- What the loop takes out with a session is what the table has for it. -/
theorem note_removing (h : watched.Exact items) {id : SessionId}
    {next : FanoutRun σ α}
    (hregistry : next.fanout.registry = (watched.registry.unregister id).1) :
    watched.note false { run := next, newcomers } =
      watched.removing id next newcomers := by
  have hlost : watched.registry.lost next.fanout.registry =
      (watched.registry.table.get? id).toList := by
    rw [hregistry]
    exact h.tracked.numbered.lost_unregister id
  rw [removing, removals, ← hlost]
  rfl

/-- What the snapshot has is still in the table after that, or it is among what
was taken out. -/
theorem stays_removing (h : watched.Exact items) {id : SessionId}
    {next : FanoutRun σ α} {pass pass' : Pass α}
    (hgoes : watched.run.GoesOn next pass pass')
    (htable : next.fanout.registry.table = watched.registry.table.erase id)
    {entry : SessionId × Nat} (hentry : entry ∈ pass'.snapshot) :
    entry ∈ next.fanout.registry.table.entries ∨
      (next.finished.length, entry.2) ∈
        (watched.removing id next newcomers).removed ∨
      entry.2 ∈ watched.withdrawn := by
  rw [hgoes.snapshot] at hentry
  rw [htable, hgoes.finished]
  rcases h.stays_erase id hgoes.current hentry with
    hkept | hnow | hremoved | hwithdrawn
  · exact Or.inl hkept
  · exact Or.inr (Or.inl
      (List.mem_append_right _ (mem_removals.mpr ⟨rfl, hnow⟩)))
  · exact Or.inr (Or.inl (List.mem_append_left _ hremoved))
  · exact Or.inr (Or.inr hwithdrawn)

/-- When the loop has removed the session that it has judged, that offer is
decided too. -/
theorem evict (h : watched.Exact items) {id : SessionId} {item : α}
    {pending : List (SessionId × Nat)}
    (hloop : watched.run.fanout.loop = some (.evicting id item pending))
    {next : FanoutRun σ α}
    (hnext : watched.run.evicted id item pending = next)
    (htracked : SharedRun.Tracked items { run := next, newcomers })
    (hcounted : next.Counted) :
    (watched.note false { run := next, newcomers }).Exact items := by
  obtain ⟨pass, before, made, hpass, hoffers, hcondemned, hwhich, hthere,
    hothers⟩ := h.finds hloop
  have hregistry : next.fanout.registry =
      (watched.registry.unregister id).1 := hnext ▸ rfl
  have htable : next.fanout.registry.table =
      watched.registry.table.erase id := by
    rw [hregistry, Registry.table_unregister]
  have hlength : next.fanout.registry.outlets.length =
      watched.registry.outlets.length := by
    rw [hregistry, Registry.length_unregister]
  have hloop' : next.fanout.loop = some (.offering item pending) :=
    hnext ▸ rfl
  obtain ⟨pass', hgoes, hoffers'⟩ : ∃ pass',
      watched.run.GoesOn next pass pass' ∧ pass'.offers = pass.offers := by
    rw [← hnext]
    exact ⟨_, .evicted hpass id item pending, Pass.offers_evict ..⟩
  have hperm := watched.perm_removals (watched.registry.table.get? id)
  rw [h.note_removing hregistry]
  exact {
    tracked := htracked
    counted := hcounted
    nodup := hperm.nodup_iff.mpr (h.nodup_append_get? id)
    out := fun number hnumber => by
      change number ∉ next.fanout.registry.table.values ∧
        number < next.fanout.registry.outlets.length
      rw [htable, hlength]
      exact h.out_append_get? (hperm.mem_iff.mp hnumber)
    evicted := by
      change next.fanout.totals.evicted = (watched.removed ++ _).length
      rw [List.length_append, ← h.evicted, ← hnext]
      exact evicted_evicted ..
    finished := fun {index pass} hearlier => by
      change next.finished[index]? = some pass at hearlier
      rw [hgoes.finished] at hearlier
      have hindex := (List.getElem?_eq_some_iff.mp hearlier).1
      exact (h.finished hearlier).remove hgoes newcomers fun _ _ hthis =>
        Nat.ne_of_lt hindex (mem_removals.mp hthis).1
    current := fun hlater => by
      obtain rfl := Option.some.inj (hgoes.following.symm.trans hlater)
      have hearlier := h.current hpass
      rw [FanoutRun.decided_of_evicting hloop, hoffers,
        List.dropLast_concat] at hearlier
      change Verdicts _ next.finished.length (next.decided pass')
      rw [FanoutRun.decided_of_offering hloop', hoffers', hgoes.finished]
      exact hearlier.remove_last hgoes newcomers hoffers hcondemned hthere
        hothers
    stays := fun hlater entry hentry => by
      obtain rfl := Option.some.inj (hgoes.following.symm.trans hlater)
      exact h.stays_removing hgoes htable hentry
    sources := sourced_removing h.sources hgoes newcomers (by simp [hoffers])
      hwhich
    last := fun hevicting => by cases hloop'.symm.trans hevicting }

/-- Only the removal of a session takes something out of the table. -/
theorem lost_of_plays [Sink σ ω α] {run next : FanoutRun σ α}
    {move : FanoutMove ω} (hplays : run.Plays move next)
    (hmove : ∀ id, move ≠ .evict id) :
    run.fanout.registry.lost next.fanout.registry = [] := by
  apply Registry.lost_of_table_eq
  cases hplays with
  | offered id item entry pending hloop hentry =>
      rw [FanoutRun.registry_offered, Registry.table_offer]
  | evicted id item pending hloop => exact absurd rfl (hmove id)
  | took | ended | passed | stopped | worked | closed => rfl

/-- Every move of the loop, of a worker and of whoever closes an outlet keeps
what holds of the removals. -/
theorem plays [Sink σ ω α] (h : watched.Exact items) {move : FanoutMove ω}
    (hplays : watched.run.Plays move run) :
    Exact items (watched.note false
      { run, newcomers := watched.shared.remembered move }) := by
  have htracked := h.tracked.plays hplays
  have hcounted := h.counted.plays h.tracked.kept
    (fun hpass => (h.tracked.since hpass).range) hplays
  by_cases hmove : ∃ id, move = .evict id
  · obtain ⟨id, rfl⟩ := hmove
    cases hplays with
    | evicted id item pending hloop => exact h.evict hloop rfl htracked hcounted
  · rw [note_of_lost (lost_of_plays hplays fun id hid => hmove ⟨id, hid⟩)]
    cases hplays with
    | took source item hloop hreceive => exact h.took hloop htracked hcounted
    | ended source hloop hempty hclosed =>
        exact h.ends hloop rfl htracked hcounted
    | offered id item entry pending hloop hentry =>
        exact h.offered hloop hentry rfl htracked hcounted
    | evicted id item pending hloop => exact absurd ⟨id, rfl⟩ hmove
    | passed item hloop => exact h.passed hloop htracked hcounted
    | stopped hloop =>
        have hidle : watched.run.current = none :=
          h.tracked.kept.idle (congrArg (Option.bind · _) hloop)
        exact h.ends hloop (by rw [← hidle]) htracked hcounted
    | worked number world world' outlet outlet' houtlet hwork =>
        exact h.withRegistry htracked hcounted (fun _ hentry => hentry)
          (Nat.le_of_eq List.length_set.symm) fun _ => Or.inl
    | closed number =>
        exact h.withRegistry htracked hcounted (fun _ hentry => hentry)
          (Nat.le_of_eq (Registry.length_adjust ..).symm) fun _ => Or.inl

/-- So does whoever registers a new outlet. -/
theorem registered (h : watched.Exact items) (id : SessionId)
    {outlet : Outlet σ α} (hnew : outlet.metrics.consecutive = 0) :
    (watched.note true (watched.shared.registered id outlet)).Exact items := by
  have hregistry : (watched.shared.registered id outlet).registry =
      (watched.registry.register id outlet).1 := rfl
  rw [note_of_lost (hregistry ▸ Registry.lost_register ..)]
  refine h.withRegistry (h.tracked.registered id outlet)
    (h.counted.of_rests rfl (Registry.rests_register _ id hnew))
    (fun _ => Registry.mem_entries_register id outlet)
    (Registry.length_register_le ..) fun number hnumber => ?_
  exact (Registry.mem_values_or_eq_of_register hnumber).imp_right
    fun hlast => Nat.le_of_eq hlast.symm

theorem move [Sink σ ω α] (h : watched.Exact items)
    {move : SharedMove σ ω α} (hnew : move.BringsNew)
    {watched' : Watched σ α} (hmove : watched.move? move = some watched') :
    watched'.Exact items := by
  obtain ⟨shared, hshared, rfl⟩ := Option.map_eq_some_iff.mp hmove
  cases move with
  | play move =>
      obtain ⟨run, hplay, rfl⟩ := Option.map_eq_some_iff.mp hshared
      exact h.plays (FanoutRun.play?_eq_some_iff.mp hplay)
  | register id outlet =>
      cases hshared
      exact h.registered id hnew
  | unregister id =>
      cases hshared
      exact h.withdraw id
        (h.counted.of_rests rfl (Registry.rests_unregister _ id))

theorem moveAll [Sink σ ω α] {moves : List (SharedMove σ ω α)}
    (h : watched.Exact items) (hnew : ∀ move ∈ moves, move.BringsNew)
    {watched' : Watched σ α}
    (hmoves : watched.moveAll? moves = some watched') :
    watched'.Exact items := by
  induction moves generalizing watched with
  | nil =>
      cases hmoves
      exact h
  | cons move moves ih =>
      obtain ⟨next, hmove, hrest⟩ := Option.bind_eq_some_iff.mp hmoves
      obtain ⟨hfirst, hlater⟩ := List.forall_mem_cons.mp hnew
      exact ih (h.move hfirst hmove) hlater hrest

/-- Every offer has had its consequence, but for the one by which the loop has
just judged an outlet. -/
theorem removed_iff (h : watched.Exact items) {index : Nat} {pass : Pass α}
    (hpass : watched.run.passes[index]? = some pass)
    {before after : List (Made α)} {made : Made α}
    (hsplit : pass.offers = before ++ made :: after)
    (hdone : watched.run.isEvicting = true →
      index = watched.run.finished.length → after ≠ [])
    (hkept : made.entry.2 ∉ watched.withdrawn) :
    (index, made.entry.2) ∈ watched.removed ↔
      Condemned watched.run.fanout.limit (outcomesOf made.entry.2
        (watched.run.offersBefore index ++ before ++ [made])) := by
  cases hcurrent : watched.run.current with
  | none =>
      rw [FanoutRun.passes, hcurrent, Option.toList_none, List.append_nil]
        at hpass
      exact h.finished hpass before made after hsplit hkept
  | some last =>
      rw [FanoutRun.passes_of_current hcurrent] at hpass
      rcases getElem?_concat_eq_some.mp hpass with hover | ⟨rfl, rfl⟩
      · exact h.finished hover before made after hsplit hkept
      · have hverdicts := h.current hcurrent
        rw [FanoutRun.decided, hsplit] at hverdicts
        cases hevicting : watched.run.isEvicting with
        | false =>
            rw [hevicting, if_neg Bool.false_ne_true] at hverdicts
            exact hverdicts before made after rfl hkept
        | true =>
            obtain ⟨others, end_, rfl⟩ :=
              (List.eq_nil_or_concat after).resolve_left (hdone hevicting rfl)
            rw [hevicting, if_pos rfl, List.concat_eq_append,
              ← List.cons_append, ← List.append_assoc, List.dropLast_concat]
              at hverdicts
            exact hverdicts before made others rfl hkept

/-- What a move of the loop adds to the removals is registered for the session
that the loop has judged. -/
theorem gained [Sink σ ω α] (h : watched.Exact items)
    {move : SharedMove σ ω α} {watched' : Watched σ α}
    (hmove : watched.move? move = some watched') {index number : Nat}
    (hnow : (index, number) ∈ watched'.removed)
    (hbefore : (index, number) ∉ watched.removed) :
    ∃ id item pending,
      watched.run.fanout.loop = some (.evicting id item pending) ∧
      watched.registry.table.get? id = some number := by
  obtain ⟨shared, hshared, rfl⟩ := Option.map_eq_some_iff.mp hmove
  cases move with
  | register id outlet => exact absurd hnow hbefore
  | unregister id => exact absurd hnow hbefore
  | play move =>
      obtain ⟨run, hplay, rfl⟩ := Option.map_eq_some_iff.mp hshared
      have hplays := FanoutRun.play?_eq_some_iff.mp hplay
      obtain ⟨gone, hgone, hentry⟩ :=
        List.mem_map.mp ((List.mem_append.mp hnow).resolve_left hbefore)
      obtain rfl : gone = number := congrArg Prod.snd hentry
      by_cases hevict : ∃ id, move = .evict id
      · obtain ⟨id, rfl⟩ := hevict
        cases hplays with
        | evicted id item pending hloop =>
            have hlost : watched.registry.lost (watched.run.evicted id item
                pending).fanout.registry =
                  (watched.registry.table.get? id).toList :=
              h.tracked.numbered.lost_unregister id
            exact ⟨id, item, pending, hloop,
              Option.mem_toList.mp (hlost ▸ hgone)⟩
      · have hlost := lost_of_plays hplays fun id hid => hevict ⟨id, hid⟩
        have hnone : gone ∈ [] := hlost ▸ hgone
        exact absurd hnone List.not_mem_nil

/-- Without a limit the loop takes out only what is closed already. -/
theorem isClosed_of_gained [Sink σ ω α] (h : watched.Exact items)
    (hlimit : watched.run.fanout.limit = 0) (halone : watched.withdrawn = [])
    {move : SharedMove σ ω α} {watched' : Watched σ α}
    (hmove : watched.move? move = some watched') {index number : Nat}
    (hnow : (index, number) ∈ watched'.removed)
    (hbefore : (index, number) ∉ watched.removed) :
    ∃ outlet, watched.registry.outlets[number]? = some outlet ∧
      outlet.isClosed = true := by
  obtain ⟨id, item, pending, hloop, hnumber⟩ := h.gained hmove hnow hbefore
  obtain ⟨pass, before, made, hpass, hoffers, hcondemned, hwhich, -, -⟩ :=
    h.finds hloop
  obtain rfl : made.entry.2 = number := by
    rcases hwhich number hnumber with hsame | ⟨-, hgone⟩
    · exact hsame
    · rw [halone] at hgone
      exact absurd hgone List.not_mem_nil
  obtain hclosed | ⟨hpositive, -⟩ := hcondemned
  · obtain ⟨earlier, hearlier, hsame, houtcome⟩ :=
      mem_outcomesOf.mp (List.mem_of_head? hclosed)
    have hrange := h.counted.range earlier hearlier
    have houtlet := List.getElem?_eq_getElem hrange
    refine ⟨_, ?_, h.counted.closed hearlier houtcome houtlet⟩
    rw [← hsame]
    exact houtlet
  · exact absurd hlimit (Nat.ne_of_gt hpositive)

end Watched.Exact

namespace Watched

/-- No move changes the limit. -/
theorem limit_of_move? [Sink σ ω α] {move : SharedMove σ ω α}
    {watched watched' : Watched σ α}
    (hmove : watched.move? move = some watched') :
    watched'.run.fanout.limit = watched.run.fanout.limit := by
  obtain ⟨shared, hshared, rfl⟩ := Option.map_eq_some_iff.mp hmove
  rw [run_note]
  cases move with
  | play move =>
      obtain ⟨run, hplay, rfl⟩ := Option.map_eq_some_iff.mp hshared
      cases FanoutRun.play?_eq_some_iff.mp hplay with
      | offered => exact Fanout.judge_limit ..
      | took | ended | evicted | passed | stopped | worked | closed => rfl
  | register id outlet =>
      cases hshared
      rfl
  | unregister id =>
      cases hshared
      rfl

theorem limit_of_moveAll? [Sink σ ω α] {moves : List (SharedMove σ ω α)}
    {watched watched' : Watched σ α}
    (hmoves : watched.moveAll? moves = some watched') :
    watched'.run.fanout.limit = watched.run.fanout.limit := by
  induction moves generalizing watched with
  | nil =>
      cases hmoves
      rfl
  | cons move moves ih =>
      obtain ⟨next, hmove, hrest⟩ := Option.bind_eq_some_iff.mp hmoves
      exact (ih hrest).trans (limit_of_move? hmove)

end Watched

/-- However the loop and its workers take turns, and while others register new
outlets, close some or remove sessions: every outlet counts the drops since an
item was last queued for it. An outlet that nobody else has taken out of the
table is taken out by the loop in a pass if and only if the offers so far
condemn it, as soon as the loop has done what it does after the offer; and if
nobody else takes any out, the loop takes out none but those that it has made
an offer to in the pass. Without a limit it then takes out only outlets that
are closed. It takes out each one at most once, and counts every one. -/
theorem condemned_outlets_are_removed_exactly [Sink σ ω α] (fanout : Fanout σ α)
    (hnumbered : fanout.registry.Numbered)
    (hfresh : ∀ outlet ∈ fanout.registry.outlets,
      outlet.metrics.consecutive = 0)
    (moves : List (SharedMove σ ω α)) (hnew : ∀ move ∈ moves, move.BringsNew)
    (watched : Watched σ α)
    (hrun : (Watched.start fanout).moveAll? moves = some watched) :
    (∀ (number : Nat) (outlet : Outlet σ α),
      watched.registry.outlets[number]? = some outlet →
      outlet.metrics.consecutive =
        dropsSinceQueued (outcomesOf number watched.run.offers)) ∧
    (∀ (index : Nat) (pass : Pass α),
      watched.run.passes[index]? = some pass →
      ∀ before made after, pass.offers = before ++ made :: after →
        (watched.run.isEvicting = true →
          index = watched.run.finished.length → after ≠ []) →
        made.entry.2 ∉ watched.withdrawn →
        ((index, made.entry.2) ∈ watched.removed ↔
          Condemned fanout.limit (outcomesOf made.entry.2
            (watched.run.offersBefore index ++ before ++ [made])))) ∧
    (watched.withdrawn = [] → ∀ (index number : Nat),
      (index, number) ∈ watched.removed →
      ∃ pass made, watched.run.passes[index]? = some pass ∧
        made ∈ pass.offers ∧ made.entry.2 = number) ∧
    (fanout.limit = 0 → watched.withdrawn = [] →
      ∀ (move : SharedMove σ ω α) (watched' : Watched σ α),
        watched.move? move = some watched' →
        ∀ (index number : Nat), (index, number) ∈ watched'.removed →
          (index, number) ∉ watched.removed →
          ∃ outlet, watched.registry.outlets[number]? = some outlet ∧
            outlet.isClosed = true) ∧
    watched.run.fanout.totals.evicted = watched.removed.length ∧
    (watched.removed.map Prod.snd).Nodup := by
  have hexact := (Watched.exact_start hnumbered hfresh).moveAll hnew hrun
  have hlimit : watched.run.fanout.limit = fanout.limit :=
    Watched.limit_of_moveAll? hrun
  refine ⟨fun number outlet => hexact.counted.consecutive_eq, ?_, ?_, ?_,
    hexact.evicted, (List.nodup_append.mp hexact.nodup).1⟩
  · intro index pass hpass before made after hsplit hdone hkept
    rw [← hlimit]
    exact hexact.removed_iff hpass hsplit hdone hkept
  · intro halone index number hremoved
    obtain ⟨pass, made, hpass, hmade, hsource⟩ := hexact.sources hremoved
    refine ⟨pass, made, hpass, hmade, hsource.resolve_right ?_⟩
    rintro ⟨-, hgone⟩
    rw [halone] at hgone
    exact absurd hgone List.not_mem_nil
  · intro hunlimited halone move watched' hmove index number
    exact hexact.isClosed_of_gained (hlimit.trans hunlimited) halone hmove

/-- The outlet of one session drops the second item, and the loop removes it. -/
theorem condemned_outlets_are_removed_exactly_of_sample :
    sampleFanout.registry.Numbered ∧
    (∀ outlet ∈ sampleFanout.registry.outlets,
      outlet.metrics.consecutive = 0) ∧
    (∀ move ∈ stalledMoves ++ [.play (.evict "stalled")], move.BringsNew) ∧
    ∃ watched pass before made, (Watched.start sampleFanout).moveAll?
        (stalledMoves ++ [.play (.evict "stalled")]) = some watched ∧
      watched.run.passes[1]? = some pass ∧
      pass.offers = before ++ [made] ∧ made.entry.2 = 0 ∧
      watched.removed = [(1, 0)] ∧ watched.withdrawn = [] ∧
      Condemned sampleFanout.limit (outcomesOf made.entry.2
        (watched.run.offersBefore 1 ++ before ++ [made])) := by
  have hnumbered : sampleFanout.registry.Numbered :=
    ((Registry.Numbered.clear _).register _ _).register _ _
  have hfresh : ∀ outlet ∈ sampleFanout.registry.outlets,
      outlet.metrics.consecutive = 0 := by
    intro outlet houtlet
    rcases List.mem_pair.mp houtlet with rfl | rfl <;> rfl
  have hnew : ∀ move ∈ stalledMoves ++ [.play (.evict "stalled")],
      move.BringsNew := by
    simp [stalledMoves, SharedMove.BringsNew]
  obtain ⟨watched, pass, made, hrun, hpass, hoffers, hnumber, hremoved,
      hwithdrawn, hevicting⟩ : ∃ watched pass made,
      (Watched.start sampleFanout).moveAll?
          (stalledMoves ++ [.play (.evict "stalled")]) = some watched ∧
        watched.run.passes[1]? = some pass ∧ pass.offers = [] ++ [made] ∧
        made.entry.2 = 0 ∧ watched.removed = [(1, 0)] ∧
        watched.withdrawn = [] ∧ watched.run.isEvicting = false :=
    ⟨_, _, _, rfl, rfl, rfl, rfl, rfl, rfl, rfl⟩
  obtain ⟨-, hverdicts, -⟩ := condemned_outlets_are_removed_exactly
    sampleFanout hnumbered hfresh _ hnew watched hrun
  refine ⟨hnumbered, hfresh, hnew, watched, pass, [], made, hrun, hpass,
    hoffers, hnumber, hremoved, hwithdrawn, ?_⟩
  refine (hverdicts 1 pass hpass [] made [] hoffers ?_ ?_).mp ?_
  · rw [hevicting]
    exact nofun
  · rw [hwithdrawn]
    exact List.not_mem_nil
  · rw [hnumber, hremoved]
    exact List.mem_singleton.mpr rfl

end LanRelay
