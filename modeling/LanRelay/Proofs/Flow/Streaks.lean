/-
Drops in a row.

An outlet counts the drops since an item was last queued without loss. The loop
of a fan-out is the only one that offers anything to its outlets, so what an
outlet counts can be read off the offers that the loop has made. An outlet that
is closed stays closed and drops nothing more, so the count is at the limit
exactly when the latest offers, as many as the limit says, were all drops.

Main statements: `FanoutRun.Counted.plays`, by which the count is right after
every move, and `FanoutRun.Counted.condemns_iff`.
-/
import LanRelay.Proofs.Flow.Draining
import LanRelay.Proofs.Flow.Isolation

namespace LanRelay

variable {σ ω α : Type}

/-! The outcomes of the offers to one outlet. -/

/-- What the offers to the outlet with a number came to, the latest first. -/
def outcomesOf (number : Nat) (offers : List (Made α)) : List Offer :=
  ((offers.filter (·.entry.2 = number)).map (·.outcome)).reverse

theorem outcomesOf_concat (number : Nat) (offers : List (Made α))
    (made : Made α) :
    outcomesOf number (offers ++ [made]) =
      if made.entry.2 = number then made.outcome :: outcomesOf number offers
      else outcomesOf number offers := by
  by_cases hnumber : made.entry.2 = number <;> simp [outcomesOf, hnumber]

theorem mem_outcomesOf {number : Nat} {offers : List (Made α)}
    {outcome : Offer} :
    outcome ∈ outcomesOf number offers ↔
      ∃ made ∈ offers, made.entry.2 = number ∧ made.outcome = outcome := by
  simp [outcomesOf, and_assoc]

/-- The drops since an item was last queued without loss. -/
def dropsSinceQueued (recent : List Offer) : Nat :=
  (recent.takeWhile (· ≠ .queued)).countP Offer.isDrop

theorem dropsSinceQueued_cons (outcome : Offer) (recent : List Offer) :
    dropsSinceQueued (outcome :: recent) =
      if outcome = .queued then 0
      else dropsSinceQueued recent + if outcome.isDrop then 1 else 0 := by
  by_cases hqueued : outcome = .queued
  · simp [dropsSinceQueued, hqueued]
  · rw [dropsSinceQueued, List.takeWhile_cons_of_pos (by simpa using hqueued),
      List.countP_cons, if_neg hqueued, dropsSinceQueued]

/-- The latest offer found its outlet closed, or it and those before it were
drops, as many as the limit says. There is no limit if it is zero. -/
def Condemned (limit : Nat) (recent : List Offer) : Prop :=
  recent.head? = some .closed ∨
    0 < limit ∧ limit ≤ recent.length ∧
      ∀ outcome ∈ recent.take limit, outcome.isDrop = true

/-- An outlet that has the right count has it after one more offer. -/
theorem OutletMetrics.consecutive_record {metrics : OutletMetrics}
    {recent : List Offer} (outcome : Offer)
    (h : metrics.consecutive = dropsSinceQueued recent) :
    (metrics.record outcome).consecutive =
      dropsSinceQueued (outcome :: recent) := by
  rw [dropsSinceQueued_cons, ← h]
  cases outcome <;> rfl

/-- As long as the outlet was open, the count is at the limit if and only if so
many of the latest offers were drops. -/
theorem le_dropsSinceQueued_iff {limit : Nat} {recent : List Offer}
    (hopen : .closed ∉ recent) :
    limit ≤ dropsSinceQueued recent ↔
      limit ≤ recent.length ∧
        ∀ outcome ∈ recent.take limit, outcome.isDrop = true := by
  induction recent generalizing limit with
  | nil => cases limit <;> simp [dropsSinceQueued]
  | cons outcome recent ih =>
      rw [List.mem_cons, not_or] at hopen
      cases limit with
      | zero => simp
      | succ limit =>
          have hless := @ih limit hopen.2
          rw [dropsSinceQueued_cons, List.length_cons, List.take_succ_cons,
            List.forall_mem_cons]
          cases outcome with
          | queued => simp [Offer.isDrop]
          | closed => exact absurd rfl hopen.1
          | droppedOldest | droppedNewest =>
              simpa [Offer.isDrop] using hless

theorem condemned_iff {limit : Nat} {recent : List Offer}
    (hopen : .closed ∉ recent) :
    Condemned limit recent ↔ 0 < limit ∧ limit ≤ dropsSinceQueued recent := by
  have hhead : recent.head? ≠ some .closed :=
    fun hclosed => hopen (List.mem_of_head? hclosed)
  rw [Condemned, or_iff_right hhead, le_dropsSinceQueued_iff hopen]

/-! What leaves the counts alone. -/

/-- No item was offered to the outlet in between. -/
structure Outlet.Rests (outlet outlet' : Outlet σ α) : Prop where
  consecutive_eq : outlet'.metrics.consecutive = outlet.metrics.consecutive
  isClosed : outlet.isClosed = true → outlet'.isClosed = true

theorem Outlet.Rests.refl (outlet : Outlet σ α) : outlet.Rests outlet :=
  ⟨rfl, id⟩

theorem Outlet.rests_close (outlet : Outlet σ α) : outlet.Rests outlet.close :=
  ⟨rfl, fun _ => rfl⟩

theorem Outlet.Works.rests [Sink σ ω α] {outlet : Outlet σ α} {world : ω}
    {result : Outlet σ α × ω} (h : outlet.Works world result) :
    outlet.Rests result.1 :=
  ⟨h.consecutive_eq, h.isClosed⟩

/-- No item was offered to any outlet in between, and those that came begin
with no drops. -/
structure Registry.Rests (registry registry' : Registry σ α) : Prop where
  length_le : registry.outlets.length ≤ registry'.outlets.length
  kept {number : Nat} {outlet' : Outlet σ α} :
    number < registry.outlets.length →
    registry'.outlets[number]? = some outlet' →
    ∃ outlet, registry.outlets[number]? = some outlet ∧ outlet.Rests outlet'
  fresh {number : Nat} {outlet' : Outlet σ α} :
    registry.outlets.length ≤ number →
    registry'.outlets[number]? = some outlet' →
    outlet'.metrics.consecutive = 0

namespace Registry

variable {registry registry' : Registry σ α}

/-- Every outlet is changed in its place, if at all. -/
theorem rests_of_places
    (hlength : registry'.outlets.length = registry.outlets.length)
    (h : ∀ (number : Nat) (outlet' : Outlet σ α),
      registry'.outlets[number]? = some outlet' →
      ∃ outlet, registry.outlets[number]? = some outlet ∧
        outlet.Rests outlet') : registry.Rests registry' where
  length_le := Nat.le_of_eq hlength.symm
  kept _ houtlet' := h _ _ houtlet'
  fresh hbeyond houtlet' := by
    rw [List.getElem?_eq_none (hlength ▸ hbeyond)] at houtlet'
    cases houtlet'

theorem Rests.refl (registry : Registry σ α) : registry.Rests registry :=
  rests_of_places rfl fun _ outlet' houtlet' =>
    ⟨outlet', houtlet', .refl outlet'⟩

theorem rests_set {number : Nat} {outlet outlet' : Outlet σ α}
    (houtlet : registry.outlets[number]? = some outlet)
    (h : outlet.Rests outlet') :
    registry.Rests
      { registry with outlets := registry.outlets.set number outlet' } := by
  refine rests_of_places List.length_set fun other later hlater => ?_
  by_cases hnumber : number = other
  · subst hnumber
    obtain ⟨hrange, -⟩ := List.getElem?_eq_some_iff.mp houtlet
    obtain rfl := Option.some.inj
      ((List.getElem?_set_self hrange).symm.trans hlater)
    exact ⟨outlet, houtlet, h⟩
  · exact ⟨later, (List.getElem?_set_ne hnumber).symm.trans hlater, .refl _⟩

theorem rests_adjust_close (registry : Registry σ α) (number : Nat) :
    registry.Rests (registry.adjust number Outlet.close) := by
  refine rests_of_places (registry.length_adjust ..)
    fun other outlet' houtlet' => ?_
  rw [adjust, List.getElem?_modify] at houtlet'
  obtain ⟨outlet, houtlet, rfl⟩ := Option.map_eq_some_iff.mp houtlet'
  refine ⟨outlet, houtlet, ?_⟩
  split
  · exact outlet.rests_close
  · exact .refl outlet

theorem rests_unregister (registry : Registry σ α) (id : SessionId) :
    registry.Rests (registry.unregister id).1 := by
  unfold unregister
  split
  · exact .refl registry
  · have hrests := registry.rests_adjust_close
    exact ⟨(hrests _).length_le, (hrests _).kept, (hrests _).fresh⟩

/-- An outlet that is registered, or refused, comes behind all others. -/
theorem rests_register (registry : Registry σ α) (id : SessionId)
    {outlet : Outlet σ α} (hnew : outlet.metrics.consecutive = 0) :
    registry.Rests (registry.register id outlet).1 := by
  have hbehind (last : Outlet σ α) (hlast : last.metrics.consecutive = 0)
      (table : Keyed SessionId Nat) :
      registry.Rests { registry with
        outlets := registry.outlets ++ [last], table } := by
    constructor
    · simp
    · intro number outlet' hrange houtlet'
      rw [List.getElem?_append_left hrange] at houtlet'
      exact ⟨outlet', houtlet', .refl outlet'⟩
    · intro number outlet' hbeyond houtlet'
      rw [List.getElem?_append_right hbeyond] at houtlet'
      obtain rfl := List.mem_singleton.mp (List.mem_of_getElem? houtlet')
      exact hlast
  rcases registry.register_cases id outlet with ⟨-, heq⟩ | ⟨-, heq⟩
  · rw [heq]
    exact hbehind outlet hnew _
  · rw [heq]
    exact hbehind outlet.close hnew _

end Registry

/-! An offer and its outlet. -/

/-- An offer comes to nothing if and only if its outlet is closed. -/
theorem Queue.offer_eq_closed_iff (policy : DropPolicy) (queue : Queue α)
    (item : α) :
    (queue.offer policy item).2 = .closed ↔ queue.isOpen = false := by
  cases hopen : queue.isOpen with
  | false => simp [offer, trySend, hopen]
  | true =>
      have hreceived := queue.isOpen_receive
      rw [hopen] at hreceived
      by_cases hroom : queue.size < queue.capacity
      · simp [offer, trySend, hopen, hroom]
      · cases policy with
        | dropNewest => simp [offer, trySend, hopen, hroom]
        | dropOldest =>
            by_cases hmade : queue.receive.1.size < queue.receive.1.capacity
            · simp [offer, trySend, hopen, hroom, hreceived, hmade]
            · simp [offer, trySend, hopen, hroom, hreceived, hmade]

theorem Outlet.isClosed_offer (outlet : Outlet σ α) (item : α) :
    (outlet.offer item).1.isClosed = outlet.isClosed := by
  rw [isClosed, isClosed]
  exact congrArg (! ·) (Queue.isOpen_offer outlet.policy outlet.queue item)

theorem Outlet.offer_eq_closed_iff (outlet : Outlet σ α) (item : α) :
    (outlet.offer item).2 = .closed ↔ outlet.isClosed = true := by
  rw [isClosed, Bool.not_eq_true']
  exact Queue.offer_eq_closed_iff outlet.policy outlet.queue item

theorem Outlet.consecutive_offer (outlet : Outlet σ α) (item : α) :
    (outlet.offer item).1.metrics.consecutive =
      (outlet.metrics.record (outlet.offer item).2).consecutive := rfl

theorem Registry.offer_of_getElem? {registry : Registry σ α} {number : Nat}
    {outlet : Outlet σ α} (houtlet : registry.outlets[number]? = some outlet)
    (item : α) :
    (registry.offer number item).2 = (outlet.offer item).2 ∧
      (registry.offer number item).1.outlets[number]? =
        some (outlet.offer item).1 := by
  obtain ⟨hrange, -⟩ := List.getElem?_eq_some_iff.mp houtlet
  rw [offer, houtlet]
  exact ⟨rfl, List.getElem?_set_self hrange⟩

/-- An outlet is too slow when its count is at the limit. -/
theorem Fanout.isTooSlow_iff {fanout : Fanout σ α} {number : Nat}
    {outlet : Outlet σ α}
    (houtlet : fanout.registry.outlets[number]? = some outlet) :
    fanout.isTooSlow number = true ↔
      0 < fanout.limit ∧ fanout.limit ≤ outlet.metrics.consecutive := by
  simp [isTooSlow, houtlet]

/-! The counts of a run. -/

namespace FanoutRun

/-- Every outlet has counted its drops in a row. The loop has made offers to
outlets that there are, and those that it found closed are closed. -/
structure Counted (run : FanoutRun σ α) : Prop where
  range : ∀ made ∈ run.offers,
    made.entry.2 < run.fanout.registry.outlets.length
  consecutive_eq {number : Nat} {outlet : Outlet σ α} :
    run.fanout.registry.outlets[number]? = some outlet →
    outlet.metrics.consecutive = dropsSinceQueued (outcomesOf number run.offers)
  closed {made : Made α} {outlet : Outlet σ α} : made ∈ run.offers →
    made.outcome = .closed →
    run.fanout.registry.outlets[made.entry.2]? = some outlet →
    outlet.isClosed = true

variable {run run' : FanoutRun σ α}

theorem counted_start {fanout : Fanout σ α}
    (h : ∀ outlet ∈ fanout.registry.outlets,
      outlet.metrics.consecutive = 0) : (start fanout).Counted where
  range _ hmade := absurd hmade List.not_mem_nil
  consecutive_eq houtlet := h _ (List.mem_of_getElem? houtlet)
  closed hmade := absurd hmade List.not_mem_nil

theorem offers_offered {pass : Pass α} (hpass : run.current = some pass)
    (item : α) (entry : SessionId × Nat) (pending : List (SessionId × Nat)) :
    (run.offered item entry pending).offers = run.offers ++
      [{ item, entry, outcome := (run.fanout.registry.offer entry.2 item).2 }]
    := by
  simp [offers, passes, offered, hpass, Pass.note]

theorem registry_offered (run : FanoutRun σ α) (item : α)
    (entry : SessionId × Nat) (pending : List (SessionId × Nat)) :
    (run.offered item entry pending).fanout.registry =
      (run.fanout.registry.offer entry.2 item).1 :=
  Fanout.judge_registry ..

namespace Counted

/-- Without a new offer the counts stay right. -/
theorem of_rests (h : run.Counted) (hoffers : run'.offers = run.offers)
    (hrests : run.fanout.registry.Rests run'.fanout.registry) :
    run'.Counted where
  range made hmade := by
    rw [hoffers] at hmade
    exact Nat.lt_of_lt_of_le (h.range made hmade) hrests.length_le
  consecutive_eq {number outlet'} houtlet' := by
    rw [hoffers]
    rcases Nat.lt_or_ge number run.fanout.registry.outlets.length with
      hrange | hbeyond
    · obtain ⟨outlet, houtlet, hsame⟩ := hrests.kept hrange houtlet'
      exact hsame.consecutive_eq.trans (h.consecutive_eq houtlet)
    · -- No offer was made to an outlet that has just come.
      have hnone : outcomesOf number run.offers = [] := by
        rw [List.eq_nil_iff_forall_not_mem]
        intro outcome houtcome
        obtain ⟨made, hmade, rfl, -⟩ := mem_outcomesOf.mp houtcome
        exact Nat.not_lt.mpr hbeyond (h.range made hmade)
      rw [hnone]
      exact hrests.fresh hbeyond houtlet'
  closed {made outlet'} hmade hclosed houtlet' := by
    rw [hoffers] at hmade
    obtain ⟨outlet, houtlet, hsame⟩ :=
      hrests.kept (h.range made hmade) houtlet'
    exact hsame.isClosed (h.closed hmade hclosed houtlet)

variable {item : α} {entry : SessionId × Nat} {pass : Pass α}
  {outlet : Outlet σ α}

/-- After an offer the count of its outlet is right again. -/
theorem offered (h : run.Counted) (hpass : run.current = some pass)
    (houtlet : run.fanout.registry.outlets[entry.2]? = some outlet)
    (item : α) (pending : List (SessionId × Nat)) :
    (run.offered item entry pending).Counted := by
  obtain ⟨houtcome, hnext⟩ := Registry.offer_of_getElem? houtlet item
  have hregistry := run.registry_offered item entry pending
  have hoffers := offers_offered hpass item entry pending
  constructor
  · intro made hmade
    rw [hregistry, Registry.length_offer]
    rw [hoffers, List.mem_append, List.mem_singleton] at hmade
    rcases hmade with hold | rfl
    · exact h.range made hold
    · exact (List.getElem?_eq_some_iff.mp houtlet).1
  · intro number outlet' houtlet'
    rw [hregistry] at houtlet'
    rw [hoffers, outcomesOf_concat]
    by_cases hnumber : entry.2 = number
    · subst hnumber
      obtain rfl := Option.some.inj (hnext.symm.trans houtlet')
      rw [if_pos rfl, Outlet.consecutive_offer, houtcome]
      exact OutletMetrics.consecutive_record _ (h.consecutive_eq houtlet)
    · rw [if_neg hnumber]
      rw [Registry.getElem?_offer_of_ne item hnumber] at houtlet'
      exact h.consecutive_eq houtlet'
  · intro made outlet' hmade hclosed houtlet'
    rw [hregistry] at houtlet'
    rw [hoffers, List.mem_append, List.mem_singleton] at hmade
    by_cases hnumber : entry.2 = made.entry.2
    · rw [← hnumber] at houtlet'
      obtain rfl := Option.some.inj (hnext.symm.trans houtlet')
      rw [Outlet.isClosed_offer]
      rcases hmade with hold | rfl
      · rw [hnumber] at houtlet
        exact h.closed hold hclosed houtlet
      · exact (outlet.offer_eq_closed_iff item).mp (houtcome ▸ hclosed)
    · rcases hmade with hold | rfl
      · rw [Registry.getElem?_offer_of_ne item hnumber] at houtlet'
        exact h.closed hold hclosed houtlet'
      · exact absurd rfl hnumber

/-- The loop removes the session of an outlet after an offer if and only if the
offers so far condemn the outlet. -/
theorem condemns_iff (h : run.Counted) (hpass : run.current = some pass)
    (houtlet : run.fanout.registry.outlets[entry.2]? = some outlet)
    (item : α) (pending : List (SessionId × Nat)) :
    Fanout.condemns
        { run.fanout with
          registry := (run.fanout.registry.offer entry.2 item).1 }
        (run.fanout.registry.offer entry.2 item).2 entry.2 = true ↔
      Condemned run.fanout.limit (outcomesOf entry.2
        (run.offered item entry pending).offers) := by
  obtain ⟨houtcome, hnext⟩ := Registry.offer_of_getElem? houtlet item
  have hregistry := run.registry_offered item entry pending
  have hcounted := h.offered hpass houtlet item pending
  have hcount := hcounted.consecutive_eq (hregistry ▸ hnext)
  have hslow : Fanout.isTooSlow { run.fanout with
      registry := (run.fanout.registry.offer entry.2 item).1 } entry.2 = true ↔
        0 < run.fanout.limit ∧
          run.fanout.limit ≤ (outlet.offer item).1.metrics.consecutive :=
    Fanout.isTooSlow_iff hnext
  have hrecent : outcomesOf entry.2 (run.offered item entry pending).offers =
      (outlet.offer item).2 :: outcomesOf entry.2 run.offers := by
    rw [offers_offered hpass, outcomesOf_concat, if_pos rfl, houtcome]
  have hopen : (outlet.offer item).2 ≠ .closed →
      .closed ∉ outcomesOf entry.2 (run.offered item entry pending).offers := by
    intro hmade hmem
    obtain ⟨made, hearlier, hnumber, hclosed⟩ := mem_outcomesOf.mp hmem
    rw [← hregistry, ← hnumber] at hnext
    have hshut := hcounted.closed hearlier hclosed hnext
    rw [Outlet.isClosed_offer] at hshut
    exact hmade ((outlet.offer_eq_closed_iff item).mpr hshut)
  rw [houtcome]
  cases hoffer : (outlet.offer item).2 with
  | closed =>
      rw [hrecent, hoffer]
      exact iff_of_true rfl (Or.inl rfl)
  | queued =>
      rw [condemned_iff (hopen (by rw [hoffer]; nofun)), hrecent, hoffer,
        dropsSinceQueued_cons, if_pos rfl]
      exact iff_of_false nofun (by omega)
  | droppedOldest | droppedNewest =>
      rw [condemned_iff (hopen (by rw [hoffer]; nofun)), ← hcount]
      exact hslow

/-- After an offer the loop is about to remove the session if the offers so far
condemn the outlet, and goes on with the other outlets if not. -/
theorem judged (h : run.Counted) (hpass : run.current = some pass)
    (houtlet : run.fanout.registry.outlets[entry.2]? = some outlet)
    (item : α) (pending : List (SessionId × Nat)) :
    (Condemned run.fanout.limit (outcomesOf entry.2
        (run.offered item entry pending).offers) ∧
      (run.offered item entry pending).fanout.loop =
        some (.evicting entry.1 item pending)) ∨
    (¬ Condemned run.fanout.limit (outcomesOf entry.2
        (run.offered item entry pending).offers) ∧
      (run.offered item entry pending).fanout.loop =
        some (.offering item pending)) := by
  have hloop : (run.offered item entry pending).fanout.loop = some (if _ then
      .evicting entry.1 item pending else .offering item pending) :=
    Fanout.judge_loop_eq ..
  rw [hloop, ← h.condemns_iff hpass houtlet item pending]
  split
  · rename_i hcondemns
    exact Or.inl ⟨hcondemns, rfl⟩
  · rename_i hspares
    exact Or.inr ⟨hspares, rfl⟩

/-- Every move of the loop, of a worker and of whoever closes an outlet leaves
the counts right. -/
theorem plays [Sink σ ω α] {items : List α} {move : FanoutMove ω}
    (h : run.Counted) (hkept : run.Kept items)
    (hrange : ∀ {pass : Pass α}, run.current = some pass →
      ∀ number ∈ pass.snapshot.map Prod.snd,
        number < run.fanout.registry.outlets.length)
    (hplays : run.Plays move run') : run'.Counted := by
  cases hplays with
  | took source item hloop hreceive =>
      have hidle := hkept.idle (congrArg (Option.bind · _) hloop)
      exact h.of_rests (by simp [offers, passes, took, hidle]) (.refl _)
  | ended source hloop hempty hclosed =>
      have hidle := hkept.idle (congrArg (Option.bind · _) hloop)
      exact h.of_rests (by simp [offers, passes, ended, hidle]) (.refl _)
  | offered id item entry pending hloop hentry =>
      obtain ⟨pass, hpass, -, hleft⟩ :=
        hkept.busy (congrArg (Option.bind · _) hloop)
      have hlisted : entry ∈ pass.snapshot := hleft.perm.subset
        (List.mem_append_right _ (List.mem_of_find?_eq_some hentry))
      have houtlet := List.getElem?_eq_getElem
        (hrange hpass _ (List.mem_map_of_mem hlisted))
      exact h.offered hpass houtlet item _
  | evicted id item pending hloop =>
      refine h.of_rests ?_ (Registry.rests_unregister _ id)
      cases hpass : run.current <;>
        simp [offers, passes, evicted, hpass, Pass.evict, apply_ite]
  | passed item hloop =>
      exact h.of_rests (by simp [offers, passes, passed]) (.refl _)
  | stopped hloop => exact h.of_rests rfl (.refl _)
  | worked number world world' outlet outlet' houtlet hwork =>
      exact h.of_rests rfl
        (Registry.rests_set houtlet (Outlet.works_of_work? hwork).rests)
  | closed number => exact h.of_rests rfl (Registry.rests_adjust_close _ number)

end Counted

end FanoutRun

end LanRelay
