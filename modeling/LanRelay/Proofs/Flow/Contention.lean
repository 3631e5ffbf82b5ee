/-
Offers to one queue that come between each other's steps.

An offer to a full queue that drops the oldest item is three sends and receives,
and other offers and receives may come between these. What the offer took out of
the queue is not among what it comes to: it may have found nothing to take out
and yet say that it dropped the oldest item, and it may have taken an item out
and yet find no room for its own. So the drops that are counted can be too many
and too few; they are right if nothing comes between the steps of an offer.

Main statements: `Call.moves_step`, by which a step of an offer is one of eight
moves, `Contention.Balanced.run`, by which every item is accounted for, and
`overlapping_offers_account_for_losses`.
-/
import LanRelay.Flow.Intake
import LanRelay.Proofs.Flow.Draining
import LanRelay.Proofs.Flow.Passes

namespace LanRelay

variable {σ α : Type}

/-- An offer that somebody has begun, and how far it has come. -/
structure Call (α : Type) where
  item : α
  stage : OfferStage α
  /-- What the call has taken out of the queue. -/
  evicted : Option α := none
deriving Repr

theorem Queue.capacity_receive (queue : Queue α) :
    queue.receive.1.capacity = queue.capacity := by
  unfold receive
  split <;> rfl

namespace Call

def start (item : α) : Call α := { item, stage := .start item }

/-- The next send or receive of a call. -/
def step (policy : DropPolicy) (queue : Queue α) (call : Call α) :
    Queue α × Call α :=
  let (rest, stage) := call.stage.step policy queue
  (rest,
    { call with
      stage
      evicted :=
        match call.stage with
        | .evict _ => queue.receive.2
        | .start _ | .retry _ | .finished _ => call.evicted })

/-- What a call has come to, once it has returned. -/
def outcome? (call : Call α) : Option Offer :=
  match call.stage with
  | .finished outcome => some outcome
  | .start _ | .evict _ | .retry _ => none

def hasReturned (call : Call α) : Bool := call.outcome?.isSome

/-- The call has queued its item at once. -/
def isQueued (call : Call α) : Bool := call.outcome? = some .queued

/-- The call has returned and says that an item was lost. -/
def isDrop (call : Call α) : Bool := call.outcome?.any Offer.isDrop

/-- The items that are lost through a call. -/
def lost (call : Call α) : List α :=
  match call.outcome? with
  | none | some .queued | some .droppedOldest => call.evicted.toList
  | some .droppedNewest | some .closed => call.evicted.toList ++ [call.item]

/-- The call says that the oldest item was dropped, and has dropped none. -/
def isUnfounded (call : Call α) : Bool :=
  call.outcome? = some .droppedOldest && call.evicted.isNone

/-- The call says that an item was dropped, and has dropped two. -/
def isDoubled (call : Call α) : Bool :=
  call.outcome? = some .droppedNewest && call.evicted.isSome

/-- The calls that have been made under a policy, by their stages. -/
inductive Sound (policy : DropPolicy) : Call α → Prop where
  | start (item : α) : Sound policy ⟨item, .start item, none⟩
  | evict (item : α) (hpolicy : policy = .dropOldest) :
      Sound policy ⟨item, .evict item, none⟩
  | retry (item : α) (evicted : Option α) (hpolicy : policy = .dropOldest) :
      Sound policy ⟨item, .retry item, evicted⟩
  | queued (item : α) : Sound policy ⟨item, .finished .queued, none⟩
  | droppedOldest (item : α) (evicted : Option α)
      (hpolicy : policy = .dropOldest) :
      Sound policy ⟨item, .finished .droppedOldest, evicted⟩
  | droppedNewest (item : α) (evicted : Option α)
      (hpolicy : evicted.isSome → policy = .dropOldest) :
      Sound policy ⟨item, .finished .droppedNewest, evicted⟩

/-- What the next step of a call may do to an open queue. -/
inductive Moves (policy : DropPolicy) (queue : Queue α) :
    Call α → Queue α × Call α → Prop where
  | queued (item : α) (hroom : queue.size < queue.capacity) :
      Moves policy queue ⟨item, .start item, none⟩
        ({ queue with items := queue.items ++ [item] },
          ⟨item, .finished .queued, none⟩)
  | refused (item : α) (hfull : queue.size = queue.capacity)
      (hpolicy : policy = .dropNewest) :
      Moves policy queue ⟨item, .start item, none⟩
        (queue, ⟨item, .finished .droppedNewest, none⟩)
  | blocked (item : α) (hfull : queue.size = queue.capacity)
      (hpolicy : policy = .dropOldest) :
      Moves policy queue ⟨item, .start item, none⟩
        (queue, ⟨item, .evict item, none⟩)
  | evicted (item oldest : α) (rest : List α)
      (hitems : queue.items = oldest :: rest) (hpolicy : policy = .dropOldest) :
      Moves policy queue ⟨item, .evict item, none⟩
        ({ queue with items := rest }, ⟨item, .retry item, some oldest⟩)
  /-- Others have emptied the queue. -/
  | missed (item : α) (hitems : queue.items = [])
      (hpolicy : policy = .dropOldest) :
      Moves policy queue ⟨item, .evict item, none⟩
        (queue, ⟨item, .retry item, none⟩)
  | replaced (item : α) (evicted : Option α)
      (hroom : queue.size < queue.capacity) (hpolicy : policy = .dropOldest) :
      Moves policy queue ⟨item, .retry item, evicted⟩
        ({ queue with items := queue.items ++ [item] },
          ⟨item, .finished .droppedOldest, evicted⟩)
  /-- Others have filled the queue. -/
  | forestalled (item : α) (evicted : Option α)
      (hfull : queue.size = queue.capacity) (hpolicy : policy = .dropOldest) :
      Moves policy queue ⟨item, .retry item, evicted⟩
        (queue, ⟨item, .finished .droppedNewest, evicted⟩)
  | returned (call : Call α) (h : call.hasReturned = true) :
      Moves policy queue call (queue, call)

variable {policy : DropPolicy} {queue : Queue α} {call : Call α}

theorem exists_stage_eq (h : call.hasReturned = true) :
    ∃ outcome, call.stage = .finished outcome := by
  cases hstage : call.stage with
  | finished outcome => exact ⟨outcome, rfl⟩
  | start item | evict item | retry item =>
      simp [hasReturned, outcome?, hstage] at h

theorem moves_step (h : call.Sound policy) (hopen : queue.isOpen = true)
    (hsize : queue.size ≤ queue.capacity) :
    Moves policy queue call (call.step policy queue) := by
  cases h with
  | start item =>
      rcases Nat.lt_or_eq_of_le hsize with hroom | hfull
      · simpa only [step, OfferStage.step,
          Queue.trySend_of_room item hopen hroom] using Moves.queued item hroom
      · have hsend := Queue.trySend_of_full item hopen hfull
        cases hpolicy : policy with
        | dropNewest =>
            simpa only [step, OfferStage.step, hsend] using
              Moves.refused item hfull rfl
        | dropOldest =>
            simpa only [step, OfferStage.step, hsend] using
              Moves.blocked item hfull rfl
  | evict item hpolicy =>
      cases hitems : queue.items with
      | nil =>
          have hreceive : queue.receive = (queue, none) := by
            simp [Queue.receive, hitems]
          simpa only [step, OfferStage.step, hreceive] using
            Moves.missed item hitems hpolicy
      | cons oldest rest =>
          simpa only [step, OfferStage.step, Queue.receive_of_cons hitems] using
            Moves.evicted item oldest rest hitems hpolicy
  | retry item evicted hpolicy =>
      rcases Nat.lt_or_eq_of_le hsize with hroom | hfull
      · simpa only [step, OfferStage.step,
          Queue.trySend_of_room item hopen hroom] using
          Moves.replaced item evicted hroom hpolicy
      · simpa only [step, OfferStage.step,
          Queue.trySend_of_full item hopen hfull] using
          Moves.forestalled item evicted hfull hpolicy
  | queued item => exact .returned _ rfl
  | droppedOldest item evicted hpolicy => exact .returned _ rfl
  | droppedNewest item evicted hpolicy => exact .returned _ rfl

/-- By what a call that has returned is said to have lost, it has lost one item
too few or one too many. -/
theorem length_lost_add (h : call.Sound policy)
    (hreturned : call.hasReturned = true) :
    call.lost.length + (if call.isUnfounded then 1 else 0) =
      (if call.isDrop then 1 else 0) + if call.isDoubled then 1 else 0 := by
  cases h with
  | start | evict | retry => cases hreturned
  | queued item => rfl
  | droppedOldest item evicted hpolicy => cases evicted <;> rfl
  | droppedNewest item evicted hpolicy => cases evicted <;> rfl

theorem length_lost_le (h : call.Sound policy)
    (hreturned : call.hasReturned = true) :
    call.lost.length ≤ 2 * if call.isDrop then 1 else 0 := by
  cases h with
  | start | evict | retry => cases hreturned
  | queued item => exact Nat.zero_le _
  | droppedOldest item evicted hpolicy =>
      cases evicted <;> simp [lost, outcome?, isDrop, Offer.isDrop]
  | droppedNewest item evicted hpolicy =>
      cases evicted <;> simp [lost, outcome?, isDrop, Offer.isDrop]

/-- On an open queue a call either queues its item at once or counts as a
drop. -/
theorem queued_or_isDrop (h : call.Sound policy)
    (hreturned : call.hasReturned = true) :
    (if call.isQueued then 1 else 0) + (if call.isDrop then 1 else 0) = 1 := by
  cases h with
  | start | evict | retry => cases hreturned
  | queued | droppedOldest | droppedNewest => rfl

namespace Moves

variable {result : Queue α × Call α}

theorem capacity_eq (h : Moves policy queue call result) :
    result.1.capacity = queue.capacity := by
  cases h <;> rfl

theorem isOpen_eq (h : Moves policy queue call result) :
    result.1.isOpen = queue.isOpen := by
  cases h <;> rfl

theorem sound (h : Moves policy queue call result)
    (hsound : call.Sound policy) : result.2.Sound policy := by
  cases h with
  | queued item hroom => exact .queued item
  | refused item hfull hpolicy => exact .droppedNewest item none (by simp)
  | blocked item hfull hpolicy => exact .evict item hpolicy
  | evicted item oldest rest hitems hpolicy => exact .retry item _ hpolicy
  | missed item hitems hpolicy => exact .retry item none hpolicy
  | replaced item evicted hroom hpolicy =>
      exact .droppedOldest item evicted hpolicy
  | forestalled item evicted hfull hpolicy =>
      exact .droppedNewest item evicted fun _ => hpolicy
  | returned h => exact hsound

theorem size_le (h : Moves policy queue call result)
    (hsize : queue.size ≤ queue.capacity) :
    result.1.size ≤ queue.capacity := by
  cases h with
  | queued item hroom =>
      rw [Queue.size, List.length_append]
      exact hroom
  | replaced item evicted hroom hpolicy =>
      rw [Queue.size, List.length_append]
      exact hroom
  | evicted item oldest rest hitems hpolicy =>
      rw [Queue.size, hitems] at hsize
      exact Nat.le_of_succ_le hsize
  | refused => exact hsize
  | blocked => exact hsize
  | missed => exact hsize
  | forestalled => exact hsize
  | returned => exact hsize

/-- No item comes to be or is forgotten in a step of a call. -/
theorem perm (h : Moves policy queue call result) :
    (result.1.items ++ (result.2.lost ++ result.2.stage.inFlight)).Perm
      (queue.items ++ (call.lost ++ call.stage.inFlight)) := by
  cases h with
  | queued item hroom => simp [lost, outcome?, OfferStage.inFlight]
  | refused item hfull hpolicy => exact List.Perm.refl _
  | blocked item hfull hpolicy => exact List.Perm.refl _
  | evicted item oldest rest hitems hpolicy =>
      rw [hitems]
      exact List.perm_middle
  | missed item hitems hpolicy => exact List.Perm.refl _
  | replaced item evicted hroom hpolicy =>
      have hswap := (@List.perm_append_comm _ [item] evicted.toList).append_left
        queue.items
      simpa [lost, outcome?, OfferStage.inFlight] using hswap
  | forestalled item evicted hfull hpolicy =>
      simp [lost, outcome?, OfferStage.inFlight]
  | returned h => exact List.Perm.refl _

end Moves

end Call

/-- A queue to which several callers offer items. -/
structure Contention (α : Type) where
  policy : DropPolicy
  queue : Queue α
  /-- All calls that were ever begun, the first one at the head. -/
  calls : List (Call α) := []
  received : List α := []
deriving Repr

/-- What happens next around a queue. -/
inductive ContentionAct (α : Type) where
  /-- Somebody begins to offer an item. -/
  | call (item : α)
  /-- The call with a number takes its next step, whatever the others do. -/
  | step (number : Nat)
  | receive
deriving DecidableEq, Repr

def ContentionAct.item? : ContentionAct α → Option α
  | call item => some item
  | step _ | receive => none

namespace Contention

def start (policy : DropPolicy) (capacity : Nat) : Contention α :=
  { policy, queue := { capacity } }

def act (state : Contention α) : ContentionAct α → Contention α
  | .call item => { state with calls := state.calls ++ [.start item] }
  | .step number =>
      match state.calls[number]? with
      | none => state
      | some call =>
          let (queue, call) := call.step state.policy state.queue
          { state with queue, calls := state.calls.set number call }
  | .receive =>
      let (queue, item) := state.queue.receive
      { state with queue, received := state.received ++ item.toList }

def run (state : Contention α) (acts : List (ContentionAct α)) :
    Contention α :=
  acts.foldl act state

/-- All calls have returned. -/
def hasSettled (state : Contention α) : Bool :=
  state.calls.all Call.hasReturned

/-- What has been lost. -/
def lost (state : Contention α) : List α := state.calls.flatMap Call.lost

/-- What the calls have come to. -/
def outcomes (state : Contention α) : List Offer :=
  state.calls.filterMap Call.outcome?

/-- How many calls have said that an item was lost. -/
def drops (state : Contention α) : Nat := state.outcomes.countP Offer.isDrop

/-- How many calls have queued their items at once. -/
def queued (state : Contention α) : Nat :=
  state.calls.countP Call.isQueued

/-- Every act is one that a rule allows in the state that it finds. -/
def Follows (rule : Contention α → ContentionAct α → Bool) :
    Contention α → List (ContentionAct α) → Bool
  | _, [] => true
  | state, act :: acts => rule state act && Follows rule (state.act act) acts

/-- No call begins while another one has not returned. -/
def oneByOne (state : Contention α) : ContentionAct α → Bool
  | .call _ => state.hasSettled
  | .step _ | .receive => true

/-- While a call has not returned, nothing happens but its steps. -/
def undisturbed (state : Contention α) : ContentionAct α → Bool
  | .call _ | .receive => state.hasSettled
  | .step _ => true

/-! What holds of the queue and of every call. -/

/-- An open queue with no more than it has room for, and the calls as far as
they can have come. -/
structure Fits (state : Contention α) (capacity : Nat) : Prop where
  isOpen : state.queue.isOpen = true
  capacity_eq : state.queue.capacity = capacity
  bound : state.queue.size ≤ state.queue.capacity
  sound : ∀ call ∈ state.calls, call.Sound state.policy

variable {state : Contention α} {capacity : Nat}

/-- What the step of a call does: nothing if there is no such call or it has
returned, and else one of the moves. -/
inductive Steps (state : Contention α) : Contention α → Prop where
  | still : Steps state state
  | moved (before after : List (Call α)) (call call' : Call α)
      (queue : Queue α) (hcalls : state.calls = before ++ call :: after)
      (hbusy : call.hasReturned = false)
      (hmove : call.Moves state.policy state.queue (queue, call')) :
      Steps state { state with queue, calls := before ++ call' :: after }

theorem Fits.steps (h : state.Fits capacity) (number : Nat) :
    state.Steps (state.act (.step number)) := by
  simp only [act]
  split
  · exact .still
  · rename_i call hcall
    obtain ⟨hrange, hget⟩ := List.getElem?_eq_some_iff.mp hcall
    have hsound := h.sound call (List.mem_of_getElem? hcall)
    have hmove := Call.moves_step hsound h.isOpen h.bound
    by_cases hbusy : call.hasReturned = true
    · -- A call that has returned leaves everything as it is.
      have hsame : call.step state.policy state.queue =
          (state.queue, call) := by
        generalize call.step state.policy state.queue = result at hmove ⊢
        cases hmove with
        | returned => rfl
        | _ => cases hbusy
      rw [hsame, ← hget, List.set_getElem_self]
      exact .still
    · have hcalls := List.take_append_drop number state.calls
      rw [List.drop_eq_getElem_cons hrange, hget] at hcalls
      rw [List.set_eq_take_append_cons_drop, if_pos hrange]
      exact .moved _ _ call _ _ hcalls.symm (by simpa using hbusy) hmove

theorem fits_start (policy : DropPolicy) (capacity : Nat) :
    (start policy capacity : Contention α).Fits capacity where
  isOpen := rfl
  capacity_eq := rfl
  bound := Nat.zero_le _
  sound _ hcall := absurd hcall List.not_mem_nil

theorem Fits.act (h : state.Fits capacity) (act : ContentionAct α) :
    (state.act act).Fits capacity := by
  cases act with
  | call item =>
      refine ⟨h.isOpen, h.capacity_eq, h.bound, ?_⟩
      exact List.forall_mem_append.mpr
        ⟨h.sound, List.forall_mem_singleton.mpr (.start item)⟩
  | step number =>
      have hsteps := h.steps number
      generalize state.act (.step number) = state' at hsteps ⊢
      cases hsteps with
      | still => exact h
      | moved before after call call' queue hcalls hbusy hmove =>
          have hsound := h.sound
          rw [hcalls, List.forall_mem_append, List.forall_mem_cons] at hsound
          obtain ⟨hbefore, hcall, hafter⟩ := hsound
          refine ⟨hmove.isOpen_eq.trans h.isOpen,
            hmove.capacity_eq.trans h.capacity_eq,
            hmove.capacity_eq.symm ▸ hmove.size_le h.bound, ?_⟩
          exact List.forall_mem_append.mpr
            ⟨hbefore, List.forall_mem_cons.mpr ⟨hmove.sound hcall, hafter⟩⟩
  | receive =>
      have hcapacity := state.queue.capacity_receive
      refine ⟨?_, hcapacity.trans h.capacity_eq, ?_, h.sound⟩
      · exact state.queue.isOpen_receive.trans h.isOpen
      · exact hcapacity.symm ▸
          Nat.le_trans state.queue.receive_items_sublist.length_le h.bound

theorem Fits.run (h : state.Fits capacity) (acts : List (ContentionAct α)) :
    (state.run acts).Fits capacity := by
  induction acts generalizing state with
  | nil => exact h
  | cons act acts ih => exact ih (h.act act)

/-! Where the items are. -/

/-- What a call has lost and what it has yet to queue. -/
def charged (call : Call α) : List α := call.lost ++ call.stage.inFlight

/-- The items of these calls have been received, are queued, or are charged to
a call. -/
def Balanced (items : List α) (state : Contention α) : Prop :=
  items.Perm
    (state.received ++ (state.queue.items ++ state.calls.flatMap charged))

/-- One call may be looked at apart from the others. -/
theorem flatMap_charged_perm (before after : List (Call α)) (call : Call α) :
    ((before ++ call :: after).flatMap charged).Perm
      (charged call ++ (before ++ after).flatMap charged) :=
  List.perm_middle.flatMap_right charged

open scoped List in
theorem Balanced.act {items : List α} (h : state.Balanced items)
    (hfits : state.Fits capacity) (act : ContentionAct α) :
    (state.act act).Balanced (items ++ act.item?.toList) := by
  cases act with
  | call item =>
      have hnew := h.append_right [item]
      simpa [Balanced, Contention.act, Call.start, charged, Call.lost,
        Call.outcome?, OfferStage.inFlight, ContentionAct.item?] using hnew
  | step number =>
      have hsteps := hfits.steps number
      rw [show (ContentionAct.step number : ContentionAct α).item? = none
        from rfl, Option.toList_none, List.append_nil]
      generalize state.act (.step number) = state' at hsteps ⊢
      cases hsteps with
      | still => exact h
      | moved before after call call' queue hcalls hbusy hmove =>
          -- What the step charges to its call it takes from the queue, and
          -- what it queues it no longer charges.
          have hperm : queue.items ++ (before ++ call' :: after).flatMap charged
              ~ state.queue.items ++ state.calls.flatMap charged := by
            calc queue.items ++ (before ++ call' :: after).flatMap charged
              _ ~ queue.items ++ (charged call' ++
                  (before ++ after).flatMap charged) :=
                (flatMap_charged_perm ..).append_left _
              _ = (queue.items ++ charged call') ++
                  (before ++ after).flatMap charged :=
                (List.append_assoc ..).symm
              _ ~ (state.queue.items ++ charged call) ++
                  (before ++ after).flatMap charged :=
                hmove.perm.append_right _
              _ = state.queue.items ++ (charged call ++
                  (before ++ after).flatMap charged) :=
                List.append_assoc ..
              _ ~ state.queue.items ++ state.calls.flatMap charged := by
                rw [hcalls]
                exact (flatMap_charged_perm ..).symm.append_left _
          exact h.trans (hperm.symm.append_left _)
  | receive =>
      simp only [Balanced, Contention.act, Queue.receive, ContentionAct.item?,
        Option.toList_none, List.append_nil] at h ⊢
      split
      · rename_i hitems
        simpa [hitems] using h
      · rename_i item rest hitems
        simpa [hitems] using h

theorem Balanced.run {items : List α} (h : state.Balanced items)
    (hfits : state.Fits capacity) (acts : List (ContentionAct α)) :
    (state.run acts).Balanced
      (items ++ acts.filterMap ContentionAct.item?) := by
  induction acts generalizing state items with
  | nil => simpa [run] using h
  | cons act acts ih =>
      have hrest := ih (h.act hfits act) (hfits.act act)
      rw [List.append_assoc] at hrest
      cases act <;> exact hrest

/-! What the calls say against what they have lost. -/

theorem drops_eq (state : Contention α) :
    state.drops = state.calls.countP Call.isDrop := by
  rw [drops, outcomes, List.countP_filterMap]
  refine List.countP_congr fun call _ => ?_
  rw [Call.isDrop]
  cases call.outcome? <;> rfl

/-- Each drop that is counted stands for one item, up to the drops in which
nothing was lost and those in which two items were. -/
theorem length_lost_add {policy : DropPolicy} {calls : List (Call α)}
    (hsound : ∀ call ∈ calls, call.Sound policy)
    (hsettled : calls.all Call.hasReturned = true) :
    (calls.flatMap Call.lost).length + calls.countP Call.isUnfounded =
      calls.countP Call.isDrop + calls.countP Call.isDoubled := by
  induction calls with
  | nil => rfl
  | cons call calls ih =>
      rw [List.forall_mem_cons] at hsound
      rw [List.all_cons, Bool.and_eq_true] at hsettled
      have hcall := Call.length_lost_add hsound.1 hsettled.1
      have hcalls := ih hsound.2 hsettled.2
      rw [List.flatMap_cons, List.length_append, List.countP_cons,
        List.countP_cons, List.countP_cons]
      omega

theorem length_lost_le {policy : DropPolicy} {calls : List (Call α)}
    (hsound : ∀ call ∈ calls, call.Sound policy)
    (hsettled : calls.all Call.hasReturned = true) :
    (calls.flatMap Call.lost).length ≤ 2 * calls.countP Call.isDrop := by
  induction calls with
  | nil => exact Nat.zero_le _
  | cons call calls ih =>
      rw [List.forall_mem_cons] at hsound
      rw [List.all_cons, Bool.and_eq_true] at hsettled
      have hcall := Call.length_lost_le hsound.1 hsettled.1
      have hcalls := ih hsound.2 hsettled.2
      rw [List.flatMap_cons, List.length_append, List.countP_cons]
      omega

theorem queued_add_drops {policy : DropPolicy} {calls : List (Call α)}
    (hsound : ∀ call ∈ calls, call.Sound policy)
    (hsettled : calls.all Call.hasReturned = true) :
    calls.countP Call.isQueued + calls.countP Call.isDrop = calls.length := by
  induction calls with
  | nil => rfl
  | cons call calls ih =>
      rw [List.forall_mem_cons] at hsound
      rw [List.all_cons, Bool.and_eq_true] at hsettled
      have hcall := Call.queued_or_isDrop hsound.1 hsettled.1
      have hcalls := ih hsound.2 hsettled.2
      rw [List.countP_cons, List.countP_cons, List.length_cons]
      omega

/-! Calls between whose steps no other call begins. -/

/-- What a call keeps as long as no other call takes a step before it has
returned. -/
structure KeptAlone (policy : DropPolicy) (capacity : Nat)
    (P : Queue α → Call α → Prop) : Prop where
  start (queue : Queue α) (item : α) : P queue (.start item)
  returned {queue queue' : Queue α} {call : Call α} :
    call.hasReturned = true → P queue call → P queue' call
  moves {queue queue' : Queue α} {call call' : Call α} :
    queue.size ≤ capacity → queue.capacity = capacity →
    call.Moves policy queue (queue', call') → P queue call → P queue' call'

/-- No more than one call has yet to return, and this holds of every call. -/
structure Alone (P : Queue α → Call α → Prop) (state : Contention α) :
    Prop where
  busy : state.calls.countP (!·.hasReturned) ≤ 1
  each : ∀ call ∈ state.calls, P state.queue call

variable {P : Queue α → Call α → Prop}

theorem all_returned_of_countP {calls : List (Call α)}
    (h : calls.countP (!·.hasReturned) = 0) :
    ∀ call ∈ calls, call.hasReturned = true := by
  intro call hcall
  have hnone := List.countP_eq_zero.mp h call hcall
  simpa using hnone

theorem Alone.call (h : state.Alone P)
    (hkept : KeptAlone state.policy capacity P) (item : α)
    (hsettled : state.hasSettled = true) :
    (state.act (.call item)).Alone P where
  busy := by
    have hnone : state.calls.countP (!·.hasReturned) = 0 := by
      rw [List.countP_eq_zero]
      intro call hcall
      simp [List.all_eq_true.mp hsettled call hcall]
    change (state.calls ++ [Call.start item]).countP _ ≤ 1
    rw [List.countP_append, hnone]
    exact Nat.le_refl 1
  each := List.forall_mem_append.mpr
    ⟨h.each, List.forall_mem_singleton.mpr (hkept.start ..)⟩

theorem Alone.step (h : state.Alone P) (hfits : state.Fits capacity)
    (hkept : KeptAlone state.policy capacity P) (number : Nat) :
    (state.act (.step number)).Alone P := by
  have hsteps := hfits.steps number
  generalize state.act (.step number) = state' at hsteps ⊢
  cases hsteps with
  | still => exact h
  | moved before after call call' queue hcalls hbusy hmove =>
      have heach := h.each
      rw [hcalls, List.forall_mem_append, List.forall_mem_cons] at heach
      obtain ⟨hbefore, hcall, hafter⟩ := heach
      have hone := h.busy
      rw [hcalls, List.countP_append,
        List.countP_cons_of_pos (by simp [hbusy])] at hone
      -- All other calls have returned, so the step makes no difference to them.
      have hold : ∀ other ∈ before, other.hasReturned = true :=
        all_returned_of_countP (by omega)
      have hnew : ∀ other ∈ after, other.hasReturned = true :=
        all_returned_of_countP (by omega)
      constructor
      · have hcount := List.countP_le_length (p := (!Call.hasReturned ·))
          (l := [call'])
        change (before ++ ([call'] ++ after)).countP _ ≤ 1
        rw [List.countP_append, List.countP_append]
        rw [List.length_singleton] at hcount
        omega
      · refine List.forall_mem_append.mpr ⟨fun other hother => ?_,
          List.forall_mem_cons.mpr ⟨?_, fun other hother => ?_⟩⟩
        · exact hkept.returned (hold other hother) (hbefore other hother)
        · exact hkept.moves (hfits.capacity_eq ▸ hfits.bound)
            hfits.capacity_eq hmove hcall
        · exact hkept.returned (hnew other hother) (hafter other hother)

theorem policy_act (state : Contention α) (act : ContentionAct α) :
    (state.act act).policy = state.policy := by
  cases act with
  | call item => rfl
  | step number =>
      simp only [Contention.act]
      split <;> rfl
  | receive => rfl

/-- A rule that lets no call begin beside another one keeps what every call
keeps that is alone, if it lets nothing be received that would not keep it. -/
theorem Alone.run {rule : Contention α → ContentionAct α → Bool}
    (hcall : ∀ (state : Contention α) (item : α),
      rule state (.call item) = true → state.hasSettled = true)
    (hreceive : ∀ state : Contention α, rule state .receive = true →
      state.Alone P → (state.act .receive).Alone P)
    {acts : List (ContentionAct α)} (hfollows : state.Follows rule acts = true)
    (h : state.Alone P) (hfits : state.Fits capacity)
    (hkept : KeptAlone state.policy capacity P) :
    (state.run acts).Alone P := by
  induction acts generalizing state with
  | nil => exact h
  | cons act acts ih =>
      rw [Follows, Bool.and_eq_true] at hfollows
      have hnext : (state.act act).Alone P := by
        cases act with
        | call item => exact h.call hkept item (hcall state item hfollows.1)
        | step number => exact h.step hfits hkept number
        | receive => exact hreceive state hfollows.1 h
      exact ih hfollows.2 hnext (hfits.act act)
        ((state.policy_act act).symm ▸ hkept)

/-- A call that is about to send again finds room, and has not dropped two
items. -/
structure Roomy (queue : Queue α) (call : Call α) : Prop where
  room {item : α} : call.stage = .retry item → queue.size < queue.capacity
  single : call.isDoubled = false

/-- A call that is about to take an item out finds one, and has dropped one if
it says so. -/
structure Founded (queue : Queue α) (call : Call α) : Prop where
  found {item : α} : call.stage = .evict item → queue.items ≠ []
  evicted {item : α} : call.stage = .retry item → call.evicted.isSome = true
  founded : call.isUnfounded = false

theorem keptAlone_roomy (policy : DropPolicy) (hroom : 0 < capacity) :
    KeptAlone (α := α) policy capacity Roomy where
  start queue item := ⟨fun hstage => (by cases hstage), rfl⟩
  returned hreturned h := by
    obtain ⟨outcome, hfinished⟩ := Call.exists_stage_eq hreturned
    exact ⟨fun hstage => by simp [hfinished] at hstage, h.single⟩
  moves hsize hcapacity hmove h := by
    cases hmove with
    | queued | refused | blocked | replaced =>
        exact ⟨fun hstage => (by cases hstage), rfl⟩
    | evicted item oldest rest hitems hpolicy =>
        refine ⟨fun _ => ?_, rfl⟩
        rw [Queue.size, hitems, List.length_cons] at hsize
        rw [← hcapacity] at hsize
        exact hsize
    | missed item hitems hpolicy =>
        refine ⟨fun _ => ?_, rfl⟩
        rw [Queue.size, hitems, hcapacity]
        exact hroom
    | forestalled item evicted hfull hpolicy =>
        exact absurd hfull (Nat.ne_of_lt (h.room rfl))
    | returned hreturned => exact h

theorem keptAlone_founded (policy : DropPolicy) (hroom : 0 < capacity) :
    KeptAlone (α := α) policy capacity Founded where
  start queue item :=
    ⟨fun hstage => (by cases hstage), fun hstage => (by cases hstage), rfl⟩
  returned hreturned h := by
    obtain ⟨outcome, hfinished⟩ := Call.exists_stage_eq hreturned
    exact ⟨fun hstage => by simp [hfinished] at hstage,
      fun hstage => by simp [hfinished] at hstage, h.founded⟩
  moves hsize hcapacity hmove h := by
    cases hmove with
    | queued | refused | forestalled =>
        exact ⟨fun hstage => (by cases hstage),
          fun hstage => (by cases hstage), rfl⟩
    | blocked item hfull hpolicy =>
        refine ⟨fun _ hempty => ?_, fun hstage => (by cases hstage), rfl⟩
        rw [Queue.size, hempty, hcapacity] at hfull
        exact absurd hfull (Nat.ne_of_lt hroom)
    | evicted item oldest rest hitems hpolicy =>
        exact ⟨fun hstage => (by cases hstage), fun _ => rfl, rfl⟩
    | missed item hitems hpolicy => exact absurd hitems (h.found rfl)
    | replaced item evicted hless hpolicy =>
        refine ⟨fun hstage => (by cases hstage),
          fun hstage => (by cases hstage), ?_⟩
        obtain ⟨oldest, rfl⟩ := Option.isSome_iff_exists.mp (h.evicted rfl)
        rfl
    | returned hreturned => exact h

/-- What is received leaves more room. -/
theorem Alone.receive_roomy (h : state.Alone Roomy) :
    (state.act .receive).Alone Roomy := by
  refine ⟨h.busy, fun call hcall =>
    ⟨fun hstage => ?_, (h.each call hcall).single⟩⟩
  have hless := (h.each call hcall).room hstage
  have hsize := state.queue.receive_items_sublist.length_le
  exact state.queue.capacity_receive.symm ▸ Nat.lt_of_le_of_lt hsize hless

/-- Once all calls have returned, nothing that is received concerns them. -/
theorem Alone.receive_settled (hkept : KeptAlone state.policy capacity P)
    (hsettled : state.hasSettled = true) (h : state.Alone P) :
    (state.act .receive).Alone P := by
  refine ⟨h.busy, fun call hcall => ?_⟩
  exact hkept.returned (List.all_eq_true.mp hsettled call hcall)
    (h.each call hcall)

theorem alone_start (policy : DropPolicy) (capacity : Nat) :
    (start policy capacity).Alone P :=
  ⟨Nat.zero_le 1, fun _ hcall => absurd hcall List.not_mem_nil⟩

/-- One call after the other never loses more than is counted. -/
theorem isDoubled_of_oneByOne {policy : DropPolicy} (hroom : 0 < capacity)
    {acts : List (ContentionAct α)}
    (h : (start policy capacity).Follows oneByOne acts = true) :
    ∀ call ∈ ((start policy capacity).run acts).calls,
      call.isDoubled = false := by
  have halone := Alone.run (fun _ _ hcall => hcall)
    (fun _ _ halone => halone.receive_roomy) h (alone_start policy capacity)
    (fits_start policy capacity) (keptAlone_roomy policy hroom)
  exact fun call hcall => (halone.each call hcall).single

theorem oneByOne_of_undisturbed {acts : List (ContentionAct α)}
    (h : state.Follows undisturbed acts = true) :
    state.Follows oneByOne acts = true := by
  induction acts generalizing state with
  | nil => rfl
  | cons act acts ih =>
      rw [Follows, Bool.and_eq_true] at h ⊢
      refine ⟨?_, ih h.2⟩
      cases act with
      | call item => exact h.1
      | step number => rfl
      | receive => rfl

theorem isUnfounded_of_undisturbed {policy : DropPolicy} (hroom : 0 < capacity)
    {acts : List (ContentionAct α)}
    (h : (start policy capacity).Follows undisturbed acts = true) :
    ∀ call ∈ ((start policy capacity).run acts).calls,
      call.isUnfounded = false := by
  have halone := Alone.run (fun _ _ hcall => hcall)
    (fun state hsettled halone => halone.receive_settled
      (keptAlone_founded state.policy hroom) hsettled) h
    (alone_start policy capacity) (fits_start policy capacity)
    (keptAlone_founded policy hroom)
  exact fun call hcall => (halone.each call hcall).founded

/-! Queues from which nothing is received. -/

/-- Nothing was received, and either no call has found the queue full or the
items that filled it count as queued without loss. -/
structure Unread (state : Contention α) : Prop where
  received : state.received = []
  filled :
    (state.queue.size = state.queued ∧ ∀ call ∈ state.calls,
      call.stage = .start call.item ∨ call.isQueued = true) ∨
    state.queue.capacity ≤ state.queued

theorem Unread.call (h : state.Unread) (item : α) :
    (state.act (.call item)).Unread := by
  have hqueued : (state.act (.call item)).queued = state.queued := by
    simp [queued, act, Call.start, Call.isQueued, Call.outcome?]
  refine ⟨h.received, ?_⟩
  rw [hqueued]
  rcases h.filled with ⟨hsize, hcalls⟩ | hfilled
  · refine .inl ⟨hsize, List.forall_mem_append.mpr ⟨hcalls, ?_⟩⟩
    exact List.forall_mem_singleton.mpr (.inl rfl)
  · exact .inr hfilled

theorem Unread.step (h : state.Unread) (hfits : state.Fits capacity)
    (number : Nat) : (state.act (.step number)).Unread := by
  have hsteps := hfits.steps number
  generalize state.act (.step number) = state' at hsteps ⊢
  cases hsteps with
  | still => exact h
  | moved before after call call' queue hcalls hbusy hmove =>
      have hnot : call.isQueued = false := by
        rw [Call.hasReturned, Option.isSome_eq_false_iff,
          Option.isNone_iff_eq_none] at hbusy
        simp [Call.isQueued, hbusy]
      have hcount : (before ++ call' :: after).countP Call.isQueued =
          state.queued + if call'.isQueued then 1 else 0 := by
        rw [queued, hcalls, List.countP_append, List.countP_append,
          List.countP_cons, List.countP_cons, hnot, if_neg Bool.false_ne_true]
        exact (Nat.add_assoc ..).symm
      refine ⟨h.received, ?_⟩
      rw [show queued { state with queue, calls := before ++ call' :: after } =
        _ from hcount]
      rcases h.filled with ⟨hsize, hstages⟩ | hfilled
      · rw [hcalls, List.forall_mem_append, List.forall_mem_cons] at hstages
        obtain ⟨hbefore, hstage, hafter⟩ := hstages
        cases hmove with
        | queued item hroom =>
            refine .inl ⟨?_, List.forall_mem_append.mpr
              ⟨hbefore, List.forall_mem_cons.mpr ⟨.inr rfl, hafter⟩⟩⟩
            rw [Queue.size, List.length_append]
            exact congrArg (· + 1) hsize
        | refused item hfull hpolicy =>
            exact .inr (Nat.le_of_eq (hfull.symm.trans hsize))
        | blocked item hfull hpolicy =>
            exact .inr (Nat.le_of_eq (hfull.symm.trans hsize))
        | evicted | missed | replaced | forestalled =>
            rcases hstage with hstage | hstage <;> cases hstage
        | returned _ hreturned =>
            rw [hreturned] at hbusy
            cases hbusy
      · refine .inr ?_
        have hcapacity := hmove.capacity_eq
        exact hcapacity.symm ▸ Nat.le_add_right_of_le hfilled

theorem Unread.run {acts : List (ContentionAct α)} (h : state.Unread)
    (hfits : state.Fits capacity) (hacts : ∀ act ∈ acts, act ≠ .receive) :
    (state.run acts).Unread := by
  induction acts generalizing state with
  | nil => exact h
  | cons act acts ih =>
      rw [List.forall_mem_cons] at hacts
      have hnext : (state.act act).Unread := by
        cases act with
        | call item => exact h.call item
        | step number => exact h.step hfits number
        | receive => exact absurd rfl hacts.1
      exact ih hnext (hfits.act act) hacts.2

theorem unread_start {policy : DropPolicy} :
    (start policy capacity : Contention α).Unread :=
  ⟨rfl, .inl ⟨rfl, fun _ hcall => absurd hcall List.not_mem_nil⟩⟩

/-- While nothing is received, the items that the queue has no room for are at
least as many as the drops. -/
theorem Unread.drops_le_length_lost (h : state.Unread)
    (hfits : state.Fits capacity) (hsettled : state.hasSettled = true)
    (hlength : state.calls.length =
      state.received.length + (state.queue.size + state.lost.length)) :
    state.drops ≤ state.lost.length := by
  have hqueued : state.queued + state.calls.countP Call.isDrop =
      state.calls.length := queued_add_drops hfits.sound hsettled
  have hbound := hfits.bound
  rw [h.received, List.length_nil] at hlength
  rw [drops_eq]
  rcases h.filled with ⟨hsize, -⟩ | hfilled
  · omega
  · omega

theorem length_calls_run (state : Contention α)
    (acts : List (ContentionAct α)) :
    (state.run acts).calls.length =
      state.calls.length + (acts.filterMap ContentionAct.item?).length := by
  induction acts generalizing state with
  | nil => rfl
  | cons act acts ih =>
      have hact : (state.act act).calls.length =
          state.calls.length + act.item?.toList.length := by
        cases act with
        | call item => exact List.length_append ..
        | step number =>
            simp only [Contention.act]
            split
            · rfl
            · exact List.length_set ..
        | receive => rfl
      refine (ih (state.act act)).trans ?_
      rw [hact, Nat.add_assoc, ← List.length_append]
      cases act <;> rfl

theorem countP_eq_zero {p : Call α → Bool} {calls : List (Call α)}
    (h : ∀ call ∈ calls, p call = false) : calls.countP p = 0 := by
  rw [List.countP_eq_zero]
  intro call hcall
  simp [h call hcall]

theorem policy_run (state : Contention α) (acts : List (ContentionAct α)) :
    (state.run acts).policy = state.policy := by
  induction acts generalizing state with
  | nil => rfl
  | cons act acts ih => exact (ih (state.act act)).trans (state.policy_act act)

/-- Once all calls have returned, what is charged to them is lost. -/
theorem flatMap_charged (hsettled : state.hasSettled = true) :
    state.calls.flatMap charged = state.lost := by
  refine List.flatMap_congr fun call hcall => ?_
  obtain ⟨outcome, hfinished⟩ :=
    Call.exists_stage_eq (List.all_eq_true.mp hsettled call hcall)
  simp [charged, hfinished, OfferStage.inFlight]

/-- Under a policy that drops the newest item nothing is taken out for a
call. -/
theorem isUnfounded_isDoubled_of_dropNewest {call : Call α}
    (h : call.Sound .dropNewest) :
    call.isUnfounded = false ∧ call.isDoubled = false := by
  cases h with
  | start | queued => exact ⟨rfl, rfl⟩
  | evict | retry | droppedOldest => contradiction
  | droppedNewest item evicted hpolicy =>
      cases evicted with
      | none => exact ⟨rfl, rfl⟩
      | some oldest => cases hpolicy rfl

end Contention

/-! What the counters make of the outcomes. -/

theorem OutletMetrics.dropped_foldl_record (metrics : OutletMetrics)
    (outcomes : List Offer) :
    (outcomes.foldl record metrics).dropped =
      metrics.dropped + outcomes.countP Offer.isDrop := by
  induction outcomes generalizing metrics with
  | nil => rfl
  | cons outcome outcomes ih =>
      rw [List.foldl_cons, ih, dropped_record, List.countP_cons]
      omega

theorem Fanout.dropped_foldl_judge (fanout : Fanout σ α) (id : SessionId)
    (number : Nat) (item : α) (pending : List (SessionId × Nat))
    (outcomes : List Offer) :
    (outcomes.foldl (·.judge · id number item pending) fanout).totals.dropped =
      fanout.totals.dropped + outcomes.countP Offer.isDrop := by
  induction outcomes generalizing fanout with
  | nil => rfl
  | cons outcome outcomes ih =>
      rw [List.foldl_cons, ih, judge_totals, List.countP_cons]
      dsimp only
      omega

theorem Intake.dropped_offerPacket (intake : Intake) (packet : Rtp.Packet) :
    (intake.offerPacket packet).1.metrics.dropped =
      intake.metrics.dropped +
        if (intake.packets.offer intake.policy packet).2.isDrop then 1
        else 0 := by
  rcases hoffer : intake.packets.offer intake.policy packet with
    ⟨packets, outcome⟩
  cases outcome <;> simp [offerPacket, hoffer, Offer.isDrop]

open Contention in
/-- Calls that overlap on an open queue, with items received at any time. When
all have returned, every item has been received, is queued or is lost, and
each call that says so has lost one item, except for those that have lost none
and those that have lost two. There is none of either under a policy that
drops the newest item, or if nothing comes between the steps of a call; there
is none of the latter if no call begins before the others have returned, and
if nothing is received there are no more of the former than of the latter. The
counters of outlets, fan-outs and the intake count what the calls say; no
counter of the intake counts events. -/
theorem overlapping_offers_account_for_losses (policy : DropPolicy)
    {capacity : Nat} (hroom : 0 < capacity) (acts : List (ContentionAct α))
    (hsettled : ((start policy capacity).run acts).hasSettled = true) :
    let state := (start policy capacity).run acts
    (acts.filterMap ContentionAct.item?).Perm
      (state.received ++ (state.queue.items ++ state.lost)) ∧
    state.queue.size ≤ capacity ∧
    state.lost.length + state.calls.countP Call.isUnfounded =
      state.drops + state.calls.countP Call.isDoubled ∧
    state.lost.length ≤ 2 * state.drops ∧
    (policy = .dropNewest → state.lost.length = state.drops) ∧
    ((start policy capacity).Follows undisturbed acts = true →
      state.lost.length = state.drops) ∧
    ((start policy capacity).Follows oneByOne acts = true →
      state.lost.length ≤ state.drops) ∧
    ((∀ act ∈ acts, act ≠ .receive) → state.drops ≤ state.lost.length) ∧
    (∀ metrics : OutletMetrics,
      (state.outcomes.foldl OutletMetrics.record metrics).dropped =
        metrics.dropped + state.drops) ∧
    (∀ (fanout : Fanout σ α) (id : SessionId) (number : Nat) (item : α)
      (pending : List (SessionId × Nat)),
      (state.outcomes.foldl (·.judge · id number item pending)
          fanout).totals.dropped = fanout.totals.dropped + state.drops) ∧
    (∀ (intake : Intake) (packet : Rtp.Packet),
      (intake.offerPacket packet).1.metrics.dropped = intake.metrics.dropped +
        if (intake.packets.offer intake.policy packet).2.isDrop then 1
        else 0) ∧
    ∀ (intake : Intake) (event : Event),
      (intake.offerEvent event).1.metrics = intake.metrics := by
  intro state
  have hfits : state.Fits capacity := (fits_start policy capacity).run acts
  have hpolicy : state.policy = policy := policy_run ..
  have hperm : (acts.filterMap ContentionAct.item?).Perm
      (state.received ++ (state.queue.items ++ state.lost)) := by
    have hstart : (start policy capacity : Contention α).Balanced [] :=
      List.Perm.refl _
    have hbalanced := hstart.run (fits_start policy capacity) acts
    rw [Contention.Balanced, flatMap_charged hsettled] at hbalanced
    exact hbalanced
  have hbound : state.queue.size ≤ capacity := hfits.capacity_eq ▸ hfits.bound
  have hcount := length_lost_add hfits.sound hsettled
  have hexact (hunfounded : ∀ call ∈ state.calls, call.isUnfounded = false)
      (hdoubled : ∀ call ∈ state.calls, call.isDoubled = false) :
      state.lost.length = state.drops := by
    rw [countP_eq_zero hunfounded, countP_eq_zero hdoubled] at hcount
    rw [drops_eq]
    exact hcount
  refine ⟨hperm, hbound, ?_, ?_, ?_, ?_, ?_, ?_, ?_, ?_,
    Intake.dropped_offerPacket, fun _ _ => rfl⟩
  · rw [drops_eq]
    exact hcount
  · rw [drops_eq]
    exact length_lost_le hfits.sound hsettled
  · intro hnewest
    have hsound := hfits.sound
    rw [hpolicy, hnewest] at hsound
    exact hexact
      (fun call hcall =>
        (isUnfounded_isDoubled_of_dropNewest (hsound call hcall)).1)
      (fun call hcall =>
        (isUnfounded_isDoubled_of_dropNewest (hsound call hcall)).2)
  · intro hfollows
    exact hexact (isUnfounded_of_undisturbed hroom hfollows)
      (isDoubled_of_oneByOne hroom (oneByOne_of_undisturbed hfollows))
  · intro hfollows
    rw [countP_eq_zero (isDoubled_of_oneByOne hroom hfollows)] at hcount
    rw [drops_eq]
    exact Nat.le_of_add_right_le (Nat.le_of_eq hcount)
  · intro hacts
    have hlength : state.calls.length =
        state.received.length + (state.queue.size + state.lost.length) := by
      have hcalls := (start policy capacity).length_calls_run acts
      rw [hperm.length_eq, List.length_append, List.length_append] at hcalls
      exact hcalls.trans (Nat.zero_add _)
    exact (unread_start.run (fits_start policy capacity) hacts
      ).drops_le_length_lost hfits hsettled hlength
  · intro metrics
    exact metrics.dropped_foldl_record state.outcomes
  · intro fanout id number item pending
    exact fanout.dropped_foldl_judge id number item pending state.outcomes

/-- The queue is emptied while the second call is about to take an item out. -/
def emptiedMeanwhile : List (ContentionAct Nat) :=
  [.call 1, .step 0, .call 2, .step 1, .receive, .step 1, .step 1]

/-- The room that the second call has made is taken by the third. -/
def forestalledTwice : List (ContentionAct Nat) :=
  [.call 1, .step 0, .call 2, .step 1, .step 1, .call 3, .step 2, .step 1]

/-- Each call takes all its steps before anything else happens. -/
def undisturbedCalls : List (ContentionAct Nat) :=
  [.call 1, .step 0, .call 2, .step 1, .step 1, .step 1, .receive]

open Contention in
theorem overlapping_offers_account_for_losses_of_samples :
    (0 < 1 ∧ ((start .dropOldest 1).run emptiedMeanwhile).hasSettled = true ∧
      (start .dropOldest 1).Follows oneByOne emptiedMeanwhile = true ∧
      ((start .dropOldest 1).run emptiedMeanwhile).lost.length ≤
        ((start .dropOldest 1).run emptiedMeanwhile).drops) ∧
    (((start .dropOldest 1).run forestalledTwice).hasSettled = true ∧
      (∀ act ∈ forestalledTwice, act ≠ .receive) ∧
      ((start .dropOldest 1).run forestalledTwice).drops ≤
        ((start .dropOldest 1).run forestalledTwice).lost.length) ∧
    (((start .dropOldest 1).run undisturbedCalls).hasSettled = true ∧
      (start .dropOldest 1).Follows undisturbed undisturbedCalls = true ∧
      ((start .dropOldest 1).run undisturbedCalls).lost.length =
        ((start .dropOldest 1).run undisturbedCalls).drops) ∧
    (((start .dropNewest 1).run forestalledTwice).hasSettled = true ∧
      ((start .dropNewest 1).run forestalledTwice).lost.length =
        ((start .dropNewest 1).run forestalledTwice).drops) := by
  refine ⟨⟨by decide, by decide, by decide, ?_⟩, ⟨by decide, by decide, ?_⟩,
    ⟨by decide, by decide, ?_⟩, ⟨by decide, ?_⟩⟩
  · obtain ⟨-, -, -, -, -, -, honeByOne, -⟩ :=
      overlapping_offers_account_for_losses (σ := Unit) .dropOldest
        (by decide : 0 < 1) emptiedMeanwhile (by decide)
    exact honeByOne (by decide)
  · obtain ⟨-, -, -, -, -, -, -, hunread, -⟩ :=
      overlapping_offers_account_for_losses (σ := Unit) .dropOldest
        (by decide : 0 < 1) forestalledTwice (by decide)
    exact hunread (by decide)
  · obtain ⟨-, -, -, -, -, hundisturbed, -⟩ :=
      overlapping_offers_account_for_losses (σ := Unit) .dropOldest
        (by decide : 0 < 1) undisturbedCalls (by decide)
    exact hundisturbed (by decide)
  · obtain ⟨-, -, -, -, hnewest, -⟩ :=
      overlapping_offers_account_for_losses (σ := Unit) .dropNewest
        (by decide : 0 < 1) forestalledTwice (by decide)
    exact hnewest rfl

open Contention in
/-- Of two items one is received and the other is queued, and yet one call says
that the oldest was dropped. Of three items two are lost, and one call says
that one was. And of two events that are offered to the intake the first is
pushed out, and the drops of the intake stay at zero. -/
theorem overlapping_offers_are_miscounted :
    (let state := (start .dropOldest 1).run emptiedMeanwhile
     state.hasSettled = true ∧ state.received = [1] ∧
      state.queue.items = [2] ∧ state.lost = [] ∧
      state.outcomes = [.queued, .droppedOldest] ∧ state.drops = 1) ∧
    (let state := (start .dropOldest 1).run forestalledTwice
     state.hasSettled = true ∧ state.received = [] ∧
      state.queue.items = [3] ∧ state.lost = [1, 2] ∧
      state.outcomes = [.queued, .droppedNewest, .queued] ∧
      state.drops = 1) ∧
    (let first : Event := ⟨"a", ⟨0, 0⟩, ⟨"", []⟩⟩
     let second : Event := ⟨"b", ⟨0, 0⟩, ⟨"", []⟩⟩
     let intake : Intake :=
      { packets := { capacity := 1 }, events := { capacity := 1 },
        policy := .dropOldest }
     let pushed := (intake.offerEvent first).1.offerEvent second
     pushed.2 = .droppedOldest ∧ pushed.1.events.items = [second] ∧
      pushed.1.metrics.dropped = 0) := by
  decide

end LanRelay
