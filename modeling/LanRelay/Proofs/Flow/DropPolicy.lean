/-
What a queue keeps and what it loses under a drop policy.

Items are offered and received in any order, and at some time the queue may be
closed. Every item whose offer the queue did not turn away has been received,
is queued, or is the one item that a drop has lost, and the order of the items
stays.

Main statements: `Queue.offer_spec`, by which an offer does one of four things,
and `queue_accounts_for_every_item`.
-/
import LanRelay.Proofs.Flow.Waiting

namespace LanRelay

variable {α : Type}

namespace Queue

/-- What an offer may do to a queue that has room for an item. -/
inductive Offered (policy : DropPolicy) (queue : Queue α) (item : α) :
    Queue α × Offer → Prop where
  /-- Nothing is added to a closed queue. -/
  | closed (h : queue.isOpen = false) :
      Offered policy queue item (queue, .closed)
  /-- There is room, and nothing is lost. -/
  | queued (hopen : queue.isOpen = true) (h : queue.size < queue.capacity) :
      Offered policy queue item
        ({ queue with items := queue.items ++ [item] }, .queued)
  /-- The queue is full, and its oldest item is lost. -/
  | droppedOldest (hopen : queue.isOpen = true)
      (h : queue.size = queue.capacity) (hpolicy : policy = .dropOldest)
      (oldest : α) (rest : List α) (hitems : queue.items = oldest :: rest) :
      Offered policy queue item
        ({ queue with items := rest ++ [item] }, .droppedOldest)
  /-- The queue is full, and the item is lost. -/
  | droppedNewest (hopen : queue.isOpen = true)
      (h : queue.size = queue.capacity) (hpolicy : policy = .dropNewest) :
      Offered policy queue item (queue, .droppedNewest)

theorem trySend_of_closed {queue : Queue α} (item : α)
    (h : queue.isOpen = false) : queue.trySend item = (queue, .closed) := by
  simp [trySend, h]

theorem trySend_of_room {queue : Queue α} (item : α)
    (hopen : queue.isOpen = true) (h : queue.size < queue.capacity) :
    queue.trySend item =
      ({ queue with items := queue.items ++ [item] }, .queued) := by
  simp [trySend, hopen, h]

theorem trySend_of_full {queue : Queue α} (item : α)
    (hopen : queue.isOpen = true) (h : queue.size = queue.capacity) :
    queue.trySend item = (queue, .full) := by
  simp [trySend, hopen, h]

theorem receive_of_cons {queue : Queue α} {item : α} {items : List α}
    (h : queue.items = item :: items) :
    queue.receive = ({ queue with items }, some item) := by
  simp [receive, h]

theorem offer_spec (policy : DropPolicy) {queue : Queue α} (item : α)
    (hroom : 0 < queue.capacity) (hsize : queue.size ≤ queue.capacity) :
    Offered policy queue item (queue.offer policy item) := by
  cases hopen : queue.isOpen with
  | false =>
      have hsend := trySend_of_closed item hopen
      simpa only [offer, hsend] using Offered.closed hopen
  | true =>
      rcases Nat.lt_or_eq_of_le hsize with hless | hfull
      · have hsend := trySend_of_room item hopen hless
        simpa only [offer, hsend] using Offered.queued hopen hless
      · have hsend := trySend_of_full item hopen hfull
        cases policy with
        | dropNewest =>
            simpa only [offer, hsend] using
              Offered.droppedNewest hopen hfull rfl
        | dropOldest =>
            obtain ⟨oldest, rest, hitems⟩ :=
              List.exists_cons_of_length_pos (hfull ▸ hroom)
            -- Taking the oldest item out leaves room for the new one.
            have hless : ({ queue with items := rest } : Queue α).size <
                queue.capacity := by
              have hlength : queue.size = rest.length + 1 := by
                rw [size, hitems, List.length_cons]
              change rest.length < queue.capacity
              omega
            have hagain :
                ({ queue with items := rest } : Queue α).trySend item =
                  ({ queue with items := rest ++ [item] }, .queued) :=
              trySend_of_room item hopen hless
            simpa only [offer, hsend, receive_of_cons hitems, hagain] using
              Offered.droppedOldest hopen hfull rfl oldest rest hitems

namespace Offered

variable {policy : DropPolicy} {queue : Queue α} {item : α}
  {result : Queue α × Offer}

theorem capacity_eq (h : Offered policy queue item result) :
    result.1.capacity = queue.capacity := by
  cases h <;> rfl

theorem isOpen_eq (h : Offered policy queue item result) :
    result.1.isOpen = queue.isOpen := by
  cases h <;> rfl

theorem closed_iff (h : Offered policy queue item result) :
    result.2 = .closed ↔ queue.isOpen = false := by
  cases h <;> simp [*]

theorem size_le (h : Offered policy queue item result)
    (hsize : queue.size ≤ queue.capacity) :
    result.1.size ≤ queue.capacity := by
  cases h with
  | closed hclosed => exact hsize
  | queued hopen hless =>
      rw [size, List.length_append, List.length_singleton]
      exact hless
  | droppedOldest hopen hfull hpolicy oldest rest hitems =>
      rw [← hfull]
      simp [size, hitems]
  | droppedNewest hopen hfull hpolicy => exact hsize

/-- Under a policy that drops the oldest item, the item of an offer is the
newest one right after it. -/
theorem getLast?_eq (h : Offered policy queue item result)
    (hpolicy : policy = .dropOldest) (hanswer : result.2 ≠ .closed) :
    result.1.items.getLast? = some item := by
  cases h with
  | closed hclosed => exact absurd rfl hanswer
  | queued hopen hless => exact List.getLast?_concat
  | droppedOldest hopen hfull hpolicy' oldest rest hitems =>
      exact List.getLast?_concat
  | droppedNewest hopen hfull hpolicy' =>
      rw [hpolicy] at hpolicy'
      cases hpolicy'

/-- Under a policy that drops the newest item, no queued item is lost. -/
theorem items_kept (h : Offered policy queue item result)
    (hpolicy : policy = .dropNewest) : queue.items <+: result.1.items := by
  cases h with
  | closed hclosed => exact List.prefix_refl _
  | queued hopen hless => exact List.prefix_append _ _
  | droppedOldest hopen hfull hpolicy' oldest rest hitems =>
      rw [hpolicy] at hpolicy'
      cases hpolicy'
  | droppedNewest hopen hfull hpolicy' => exact List.prefix_refl _

end Offered

end Queue

/-- What a policy keeps of items that come to a queue with so much room and are
not received: the last of them, or the first. -/
def DropPolicy.kept (policy : DropPolicy) (room : Nat) (items : List α) :
    List α :=
  match policy with
  | .dropOldest => items.drop (items.length - room)
  | .dropNewest => items.take room

theorem DropPolicy.kept_of_length_le (policy : DropPolicy) {room : Nat}
    {items : List α} (h : items.length ≤ room) :
    policy.kept room items = items := by
  cases policy with
  | dropOldest => rw [kept, Nat.sub_eq_zero_of_le h, List.drop_zero]
  | dropNewest => exact List.take_of_length_le h

theorem DropPolicy.length_kept (policy : DropPolicy) (room : Nat)
    (items : List α) :
    (policy.kept room items).length = min items.length room := by
  cases policy with
  | dropOldest =>
      rw [kept, List.length_drop]
      omega
  | dropNewest => rw [kept, List.length_take, Nat.min_comm]

theorem DropPolicy.kept_dropOldest_concat {room : Nat} {items rest : List α}
    {oldest : α} (item : α) (hfull : room ≤ items.length)
    (h : DropPolicy.dropOldest.kept room items = oldest :: rest) :
    DropPolicy.dropOldest.kept room (items ++ [item]) = rest ++ [item] := by
  have hlength := congrArg List.length h
  rw [length_kept, List.length_cons] at hlength
  have hrest : items.drop (items.length - room + 1) = rest := by
    rw [← List.drop_drop, ← kept, h, List.drop_succ_cons, List.drop_zero]
  rw [kept, List.length_append, List.length_singleton, Nat.sub_add_comm hfull,
    List.drop_append_of_le_length (by omega), hrest]

theorem DropPolicy.kept_dropNewest_concat {room : Nat} {items : List α}
    (item : α) (hfull : room ≤ items.length) :
    DropPolicy.dropNewest.kept room (items ++ [item]) =
      DropPolicy.dropNewest.kept room items := by
  rw [kept, kept, List.take_append_of_le_length hfull]

/-- What is done to a queue. -/
inductive QueueAct (α : Type) where
  | offer (item : α)
  | receive
  | close

def QueueAct.item? : QueueAct α → Option α
  | offer item => some item
  | receive | close => none

/-- A queue under a policy, and all that went in and came out. -/
structure QueueLife (α : Type) where
  policy : DropPolicy
  queue : Queue α
  /-- The items that were offered, and what their offers came to. -/
  offered : List (α × Offer) := []
  received : List α := []

namespace QueueLife

/-- An empty queue. -/
def start (policy : DropPolicy) (capacity : Nat) : QueueLife α where
  policy := policy
  queue := { capacity }

def act (life : QueueLife α) : QueueAct α → QueueLife α
  | .offer item =>
      let (queue, outcome) := life.queue.offer life.policy item
      { life with queue, offered := life.offered ++ [(item, outcome)] }
  | .receive =>
      let (queue, item?) := life.queue.receive
      { life with queue, received := life.received ++ item?.toList }
  | .close => { life with queue := life.queue.close }

def run (life : QueueLife α) (acts : List (QueueAct α)) : QueueLife α :=
  acts.foldl act life

/-- The items that the queue did not turn away. -/
def accepted (life : QueueLife α) : List α :=
  (life.offered.filter (·.2 ≠ .closed)).map Prod.fst

/-- How many offers have lost an item. -/
def drops (life : QueueLife α) : Nat := life.offered.countP (·.2.isDrop)

/-- What has come out of the queue, followed by what is to come. -/
def kept (life : QueueLife α) : List α := life.received ++ life.queue.items

variable {life : QueueLife α}

@[simp]
theorem run_nil : life.run [] = life := rfl

@[simp]
theorem run_cons (act : QueueAct α) (acts : List (QueueAct α)) :
    life.run (act :: acts) = (life.act act).run acts := rfl

/-! Single acts. -/

@[simp]
theorem policy_act (act : QueueAct α) :
    (life.act act).policy = life.policy := by
  cases act <;> rfl

theorem accepted_offer (item : α) : (life.act (.offer item)).accepted =
    life.accepted ++ if (life.queue.offer life.policy item).2 = .closed then []
      else [item] := by
  cases h : (life.queue.offer life.policy item).2 <;>
    simp [accepted, act, h]

theorem drops_offer (item : α) : (life.act (.offer item)).drops =
    life.drops + if (life.queue.offer life.policy item).2.isDrop then 1
      else 0 := by
  simp [drops, act, List.countP_append, List.countP_cons]

/-- A receive moves the oldest item from the queue to those received. -/
theorem kept_receive (life : QueueLife α) :
    (life.act .receive).kept = life.kept := by
  simp only [kept, act, Queue.receive]
  cases hitems : life.queue.items with
  | nil => simp [hitems]
  | cons item items => simp

theorem size_receive_le (life : QueueLife α) :
    (life.act .receive).queue.size ≤ life.queue.size :=
  life.queue.receive_items_sublist.length_le

theorem capacity_receive (life : QueueLife α) :
    (life.act .receive).queue.capacity = life.queue.capacity := by
  simp only [act, Queue.receive]
  cases life.queue.items <;> rfl

theorem isOpen_receive (life : QueueLife α) :
    (life.act .receive).queue.isOpen = life.queue.isOpen := by
  simp only [act, Queue.receive]
  cases life.queue.items <;> rfl

/-! What every act keeps. -/

/-- A queue that has room for an item and holds no more than it has room
for. -/
structure Fits (life : QueueLife α) (capacity : Nat) : Prop where
  room : 0 < capacity
  capacity_eq : life.queue.capacity = capacity
  bound : life.queue.size ≤ capacity

namespace Fits

variable {capacity : Nat}

theorem offered (h : life.Fits capacity) (item : α) :
    Queue.Offered life.policy life.queue item
      (life.queue.offer life.policy item) :=
  Queue.offer_spec life.policy item (h.capacity_eq ▸ h.room)
    (h.capacity_eq ▸ h.bound)

theorem act (h : life.Fits capacity) (act : QueueAct α) :
    (life.act act).Fits capacity where
  room := h.room
  capacity_eq := by
    cases act with
    | offer item => exact (h.offered item).capacity_eq.trans h.capacity_eq
    | receive => exact life.capacity_receive.trans h.capacity_eq
    | close => exact h.capacity_eq
  bound := by
    cases act with
    | offer item =>
        have hsize := (h.offered item).size_le (h.capacity_eq ▸ h.bound)
        exact h.capacity_eq ▸ hsize
    | receive => exact Nat.le_trans life.size_receive_le h.bound
    | close => exact h.bound

theorem run (h : life.Fits capacity) (acts : List (QueueAct α)) :
    (life.run acts).Fits capacity := by
  induction acts generalizing life with
  | nil => exact h
  | cons act acts ih => exact ih (h.act act)

end Fits

theorem fits_start (policy : DropPolicy) {capacity : Nat} (h : 0 < capacity) :
    (start policy capacity : QueueLife α).Fits capacity where
  room := h
  capacity_eq := rfl
  bound := Nat.zero_le _

/-- Every accepted item was kept or lost by a drop, and what is kept stands in
the order of the offers. -/
structure Balanced (life : QueueLife α) : Prop where
  order : life.kept.Sublist life.accepted
  count : life.accepted.length =
    life.received.length + life.queue.size + life.drops

namespace Balanced

variable {capacity : Nat}

theorem offer (h : life.Balanced) (hfits : life.Fits capacity) (item : α) :
    (life.act (.offer item)).Balanced := by
  have hoffered := hfits.offered item
  have haccepted := life.accepted_offer item
  have hdrops := life.drops_offer item
  obtain ⟨horder, hcount⟩ := h
  unfold kept at horder
  unfold Queue.size at hcount
  constructor
  · rw [haccepted]
    simp only [kept, QueueLife.act]
    generalize life.queue.offer life.policy item = result at hoffered ⊢
    cases hoffered with
    | closed hclosed => simpa using horder
    | queued hopen hless =>
        simpa using horder.append_right [item]
    | droppedOldest hopen hfull hpolicy oldest rest hitems =>
        rw [hitems] at horder
        have hrest : (life.received ++ rest).Sublist life.accepted :=
          ((List.sublist_cons_self oldest rest).append_left _).trans horder
        simpa using hrest.append_right [item]
    | droppedNewest hopen hfull hpolicy =>
        exact horder.trans (List.sublist_append_left _ _)
  · rw [haccepted, hdrops]
    simp only [QueueLife.act, Queue.size]
    generalize life.queue.offer life.policy item = result at hoffered ⊢
    cases hoffered with
    | closed hclosed => simpa [Offer.isDrop] using hcount
    | queued hopen hless =>
        simp [Offer.isDrop]
        omega
    | droppedOldest hopen hfull hpolicy oldest rest hitems =>
        rw [hitems] at hcount
        simp [Offer.isDrop] at hcount ⊢
        omega
    | droppedNewest hopen hfull hpolicy =>
        simp [Offer.isDrop]
        omega

theorem receive (h : life.Balanced) : (life.act .receive).Balanced where
  order := life.kept_receive ▸ h.order
  count := by
    have hkept := congrArg List.length life.kept_receive
    simp only [kept, List.length_append] at hkept
    have hcount := h.count
    unfold Queue.size at hcount ⊢
    rw [hkept]
    exact hcount

theorem act (h : life.Balanced) (hfits : life.Fits capacity)
    (act : QueueAct α) : (life.act act).Balanced := by
  cases act with
  | offer item => exact h.offer hfits item
  | receive => exact h.receive
  | close => exact ⟨h.order, h.count⟩

theorem run (h : life.Balanced) (hfits : life.Fits capacity)
    (acts : List (QueueAct α)) : (life.run acts).Balanced := by
  induction acts generalizing life with
  | nil => exact h
  | cons act acts ih => exact ih (h.act hfits act) (hfits.act act)

end Balanced

/-! What later acts do not take back. -/

section Later

variable {capacity : Nat}

/-- A policy that drops the newest item takes nothing back that was queued. -/
theorem kept_prefix_run (hfits : life.Fits capacity)
    (hpolicy : life.policy = .dropNewest) (acts : List (QueueAct α)) :
    life.kept <+: (life.run acts).kept := by
  induction acts generalizing life with
  | nil => exact List.prefix_refl _
  | cons act acts ih =>
      have hact : life.kept <+: (life.act act).kept := by
        cases act with
        | offer item =>
            have hitems := (hfits.offered item).items_kept hpolicy
            exact (List.prefix_append_right_inj _).mpr hitems
        | receive => exact life.kept_receive ▸ List.prefix_refl _
        | close => exact List.prefix_refl _
      exact hact.trans (ih (hfits.act act) (by simpa using hpolicy))

/-- Nothing is added to a closed queue, and nothing is lost. -/
theorem kept_run_of_closed (hfits : life.Fits capacity)
    (hclosed : life.queue.isOpen = false) (acts : List (QueueAct α)) :
    (life.run acts).kept = life.kept := by
  induction acts generalizing life with
  | nil => rfl
  | cons act acts ih =>
      cases act with
      | offer item =>
          have hoffered := hfits.offered item
          have hstill : (life.act (.offer item)).queue.isOpen = false :=
            hoffered.isOpen_eq.trans hclosed
          have hsame : (life.queue.offer life.policy item).1 = life.queue := by
            generalize life.queue.offer life.policy item = result at hoffered ⊢
            cases hoffered <;> simp_all
          rw [run_cons, ih (hfits.act _) hstill]
          simp only [kept, QueueLife.act, hsame]
      | receive =>
          have hstill := life.isOpen_receive.trans hclosed
          rw [run_cons, ih (hfits.act _) hstill, life.kept_receive]
      | close => exact ih (hfits.act .close) rfl

end Later

/-- So many receives give the oldest items, the oldest first. -/
theorem received_run_receives (life : QueueLife α) (n : Nat) :
    (life.run (List.replicate n .receive)).received =
      life.received ++ life.queue.items.take n := by
  induction n generalizing life with
  | zero => simp
  | succ n ih =>
      rw [List.replicate_succ, run_cons, ih]
      simp only [act, Queue.receive]
      cases hitems : life.queue.items with
      | nil => simp [hitems]
      | cons item items => simp

/-! Queues from which nothing is received. -/

/-- While nothing is received, the queue holds what the policy keeps. -/
def KeepsLatest (life : QueueLife α) (capacity : Nat) : Prop :=
  life.queue.items = life.policy.kept capacity life.accepted

theorem KeepsLatest.offer {capacity : Nat} (h : life.KeepsLatest capacity)
    (hfits : life.Fits capacity) (item : α) :
    (life.act (.offer item)).KeepsLatest capacity := by
  have hoffered := hfits.offered item
  have hlength := congrArg List.length h
  rw [life.policy.length_kept] at hlength
  have hcapacity := hfits.capacity_eq
  unfold KeepsLatest at h ⊢
  rw [accepted_offer]
  simp only [act]
  generalize life.queue.offer life.policy item = result at hoffered ⊢
  cases hoffered with
  | closed hclosed => simpa using h
  | queued hopen hless =>
      unfold Queue.size at hless
      rw [life.policy.kept_of_length_le (by omega)] at h
      rw [if_neg (by simp), life.policy.kept_of_length_le, h]
      rw [List.length_append, List.length_singleton]
      omega
  | droppedOldest hopen hfull hpolicy oldest rest hitems =>
      unfold Queue.size at hfull
      rw [hpolicy, hitems] at h
      rw [if_neg (by simp), hpolicy,
        DropPolicy.kept_dropOldest_concat item (by omega) h.symm]
  | droppedNewest hopen hfull hpolicy =>
      unfold Queue.size at hfull
      rw [if_neg (by simp), hpolicy,
        DropPolicy.kept_dropNewest_concat item (by omega), ← hpolicy]
      exact h

theorem KeepsLatest.run {capacity : Nat} (h : life.KeepsLatest capacity)
    (hfits : life.Fits capacity) {acts : List (QueueAct α)}
    (hacts : ∀ act ∈ acts, act ≠ .receive) :
    (life.run acts).KeepsLatest capacity := by
  induction acts generalizing life with
  | nil => exact h
  | cons act acts ih =>
      rw [List.forall_mem_cons] at hacts
      have hact : (life.act act).KeepsLatest capacity := by
        cases act with
        | offer item => exact h.offer hfits item
        | receive => exact absurd rfl hacts.1
        | close => exact h
      exact ih hact (hfits.act act) hacts.2

/-- An open queue turns no offer away. -/
theorem accepted_run_offers {capacity : Nat} (hfits : life.Fits capacity)
    (hopen : life.queue.isOpen = true) (items : List α) :
    (life.run (items.map .offer)).accepted = life.accepted ++ items := by
  induction items generalizing life with
  | nil => simp
  | cons item items ih =>
      have hoffered := hfits.offered item
      have hanswer : (life.queue.offer life.policy item).2 ≠ .closed := by
        simp [hoffered.closed_iff, hopen]
      have hstill : (life.act (.offer item)).queue.isOpen = true :=
        hoffered.isOpen_eq.trans hopen
      rw [List.map_cons, run_cons, ih (hfits.act _) hstill, accepted_offer,
        if_neg hanswer]
      simp

theorem offered_run (life : QueueLife α) (acts : List (QueueAct α)) :
    (life.run acts).offered.map Prod.fst =
      life.offered.map Prod.fst ++ acts.filterMap QueueAct.item? := by
  induction acts generalizing life with
  | nil => simp
  | cons act acts ih =>
      rw [run_cons, ih]
      cases act <;> simp [QueueLife.act, QueueAct.item?, List.filterMap_cons]

theorem policy_run (life : QueueLife α) (acts : List (QueueAct α)) :
    (life.run acts).policy = life.policy := by
  induction acts generalizing life with
  | nil => rfl
  | cons act acts ih => rw [run_cons, ih, policy_act]

end QueueLife

open QueueLife in
/-- Whatever is done to a queue that has room for an item, it holds no more
than it has room for, and every item is accounted for. -/
theorem queue_accounts_for_every_item (policy : DropPolicy) {capacity : Nat}
    (hroom : 0 < capacity) (acts : List (QueueAct α)) :
    let life := (start policy capacity).run acts
    life.offered.map Prod.fst = acts.filterMap QueueAct.item? ∧
    life.queue.size ≤ capacity ∧
    life.kept.Sublist life.accepted ∧
    life.accepted.length =
      life.received.length + life.queue.size + life.drops ∧
    (∀ item, Queue.Offered policy life.queue item
      (life.queue.offer policy item)) ∧
    (policy = .dropOldest → ∀ item,
      (life.queue.offer policy item).2 ≠ .closed →
        (life.queue.offer policy item).1.items.getLast? = some item) ∧
    (policy = .dropNewest → ∀ later, life.kept <+: (life.run later).kept) ∧
    (life.queue.isOpen = false →
      ∀ later, (life.run later).kept = life.kept) ∧
    (∀ n, (life.run (List.replicate n .receive)).received =
      life.received ++ life.queue.items.take n) ∧
    ((∀ act ∈ acts, act ≠ .receive) →
      life.queue.items = policy.kept capacity life.accepted) ∧
    (∀ items, acts = items.map .offer →
      life.queue.items = policy.kept capacity items) := by
  intro life
  have hstart := fits_start (α := α) policy hroom
  have hfits : life.Fits capacity := hstart.run acts
  have hpolicy : life.policy = policy := policy_run ..
  have hbalanced : life.Balanced :=
    Balanced.run ⟨List.Sublist.refl _, rfl⟩ hstart acts
  have hoffered := hpolicy ▸ hfits.offered
  have hlatest : (∀ act ∈ acts, act ≠ .receive) →
      life.queue.items = policy.kept capacity life.accepted := by
    intro hacts
    have hempty : (start policy capacity : QueueLife α).KeepsLatest capacity :=
      (policy.kept_of_length_le (Nat.zero_le _)).symm
    exact hpolicy ▸ hempty.run hstart hacts
  refine ⟨offered_run _ acts, hfits.bound, hbalanced.order, hbalanced.count,
    hoffered, fun holdest item => (hoffered item).getLast?_eq holdest,
    fun hnewest => kept_prefix_run hfits (hpolicy.trans hnewest),
    kept_run_of_closed hfits, life.received_run_receives, hlatest, ?_⟩
  rintro items rfl
  rw [hlatest (by simp)]
  exact congrArg _ (accepted_run_offers hstart rfl items)

open QueueLife in
theorem queue_accounts_for_every_item_of_samples :
    (0 < 2 ∧ ((start .dropOldest 2).run
        [.offer 1, .offer 2, .offer 3, .receive, .close]).queue.isOpen = false ∧
      ∀ later, (((start .dropOldest 2).run
        [.offer 1, .offer 2, .offer 3, .receive, .close]).run later).kept =
          [2, 3]) ∧
    ((Queue.offer .dropOldest
        ((start .dropOldest 2).run [.offer 1, .offer 2]).queue 3).2 ≠ .closed ∧
      (Queue.offer .dropOldest
        ((start .dropOldest 2).run [.offer 1, .offer 2]).queue 3
          ).1.items.getLast? = some 3) ∧
    (∀ later, [1] <+: (((start .dropNewest 1).run
      [.offer 1, .offer 2]).run later).kept) ∧
    ((start .dropNewest 2).run
      ([1, 2, 3].map .offer)).queue.items = [1, 2] := by
  refine ⟨⟨by decide, rfl, ?_⟩, ⟨by decide, ?_⟩, ?_, ?_⟩
  · obtain ⟨-, -, -, -, -, -, -, hclosed, -⟩ := queue_accounts_for_every_item
      .dropOldest (by decide : 0 < 2)
      [.offer 1, .offer 2, .offer 3, .receive, .close]
    exact hclosed rfl
  · obtain ⟨-, -, -, -, -, hnewest, -⟩ := queue_accounts_for_every_item
      .dropOldest (by decide : 0 < 2) [.offer 1, .offer 2]
    exact hnewest rfl 3 (by decide)
  · obtain ⟨-, -, -, -, -, -, hkept, -⟩ := queue_accounts_for_every_item
      .dropNewest (by decide : 0 < 1) [.offer 1, .offer 2]
    exact hkept rfl
  · obtain ⟨-, -, -, -, -, -, -, -, -, hlatest, -⟩ :=
      queue_accounts_for_every_item .dropNewest (by decide : 0 < 2)
        ([1, 2, 3].map .offer)
    exact hlatest (by simp)

end LanRelay
