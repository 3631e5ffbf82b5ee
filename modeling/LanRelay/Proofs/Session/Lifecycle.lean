/-
The life of a session, from its offer to its end.

A session is negotiating until it is established, and it may close at any time.
However the loops, the workers, the sessions and others take turns, it is
registered only while it is established, and what is counted of sessions agrees
with the lives that they have had.

Main statements: `View.Sound.turn`, `Lived.concat`, and `life_of_run`.
-/
import LanRelay.Proofs.Session.Turns

namespace LanRelay

/-! Changes in a list. -/

theorem getElem?_set_cases {α : Type} {xs : List α} {x y : α} {i j : Nat}
    (h : (xs.set i x)[j]? = some y) :
    (j = i ∧ y = x) ∨ (j ≠ i ∧ xs[j]? = some y) := by
  rw [List.getElem?_set] at h
  split at h
  · rename_i hsame
    split at h
    · exact Or.inl ⟨hsame.symm, (Option.some.inj h).symm⟩
    · cases h
  · rename_i hother
    exact Or.inr ⟨fun hsame => hother hsame.symm, h⟩

theorem getElem?_set_self {α : Type} {xs : List α} {x : α} {i : Nat}
    (h : xs[i]? = some x) (y : α) : (xs.set i y)[i]? = some y := by
  obtain ⟨hrange, -⟩ := List.getElem?_eq_some_iff.mp h
  exact List.getElem?_set_self hrange

/-- A change of an item is not seen in what it leaves alone. -/
theorem map_set_eq_self {α β : Type} {xs : List α} {x y : α} {i : Nat}
    {f : α → β} (h : xs[i]? = some x) (hf : f y = f x) :
    (xs.set i y).map f = xs.map f := by
  obtain ⟨hrange, rfl⟩ := List.getElem?_eq_some_iff.mp h
  rw [List.map_set, hf, ← List.map_set, List.set_getElem_self]

/-- How a count changes with one item. -/
theorem countP_set_add {α : Type} {p : α → Bool} {xs : List α} {x : α}
    {i : Nat} (h : xs[i]? = some x) (y : α) :
    (xs.set i y).countP p + (if p x then 1 else 0) =
      xs.countP p + (if p y then 1 else 0) := by
  have hcounted : p x = true → 0 < xs.countP p := fun hp =>
    List.countP_pos_iff.mpr ⟨x, List.mem_of_getElem? h, hp⟩
  obtain ⟨hrange, rfl⟩ := List.getElem?_eq_some_iff.mp h
  rw [List.countP_set hrange]
  by_cases hp : p xs[i]
  · have hpos := hcounted hp
    simp only [hp, if_true]
    omega
  · simp [hp]

/-- How a count changes with one number. -/
theorem countP_range_flip {p q : Nat → Bool} {k n : Nat} (hk : k < n)
    (hp : p k = false) (hq : q k = true)
    (hsame : ∀ i < n, i ≠ k → q i = p i) :
    (List.range n).countP q = (List.range n).countP p + 1 := by
  induction n with
  | zero => cases hk
  | succ n ih =>
      simp only [List.range_succ, List.countP_append, List.countP_singleton]
      by_cases hlast : k = n
      · subst hlast
        have hrest : (List.range k).countP q = (List.range k).countP p :=
          List.countP_congr fun i hi => by
            have hi := List.mem_range.mp hi
            rw [hsame i (Nat.lt_succ_of_lt hi) (Nat.ne_of_lt hi)]
        simp [hrest, hp, hq]
      · have hrest := ih (by omega) fun i hi hne =>
          hsame i (Nat.lt_succ_of_lt hi) hne
        rw [hrest, hsame n (Nat.lt_succ_self n) fun h => hlast h.symm]
        omega

/-! The place of the sessions in a registry. -/

theorem id_ne_of_ne {vitals : List Vital} {vital other : Vital} {i j : Nat}
    (hdistinct : (vitals.map Vital.id).Nodup) (hi : vitals[i]? = some vital)
    (hj : vitals[j]? = some other) (hne : j ≠ i) : other.id ≠ vital.id := by
  intro hsame
  obtain ⟨hrange, -⟩ := List.getElem?_eq_some_iff.mp hj
  refine hne ((List.getElem?_inj (by simpa using hrange) hdistinct).mp ?_)
  simp [hi, hj, hsame]

theorem nodup_ids_set {vitals : List Vital} {vital vital' : Vital} {i : Nat}
    (h : vitals[i]? = some vital) (hid : vital'.id = vital.id)
    (hdistinct : (vitals.map Vital.id).Nodup) :
    ((vitals.set i vital').map Vital.id).Nodup := by
  rwa [map_set_eq_self h hid]

namespace Registry.Suits

variable {σ α : Type} {owner : σ → Option Nat} {vitals : List Vital}
  {registry registry' : Registry σ α}

/-- Without sessions there is nothing to rely on. -/
theorem nil (h : registry.outlets = []) : registry.Suits owner [] where
  absent hvital := by cases hvital
  serves hvital := by cases hvital
  ownerless _ number outlet houtlet := by simp [h] at houtlet

theorem calm (h : registry.Suits owner vitals)
    (hcalm : registry.Calm owner vitals registry') :
    registry'.Suits owner vitals where
  absent hvital hstate :=
    hcalm.absent _ (List.mem_of_getElem? hvital) (h.absent hvital hstate)
  serves hvital hstate :=
    (h.serves hvital hstate).step (hcalm.ages _)
      (hcalm.stays _ (List.mem_of_getElem? hvital) (by simp [hstate]))
  ownerless hnone := (h.ownerless hnone).ages (hcalm.ages _)

/-- A session that begins has no place yet. -/
theorem concat (h : registry.Suits owner vitals) {id : SessionId}
    (habsent : registry.contains id = false) :
    registry.Suits owner (vitals ++ [⟨id, .negotiating, false⟩]) where
  absent hvital hstate := by
    rcases getElem?_concat_eq_some.mp hvital with hold | ⟨-, rfl⟩
    · exact h.absent hold hstate
    · exact habsent
  serves hvital hstate := by
    rcases getElem?_concat_eq_some.mp hvital with hold | ⟨-, rfl⟩
    · exact h.serves hold hstate
    · cases hstate
  ownerless hnone := h.ownerless fun vital hvital =>
    hnone vital (getElem?_concat_eq_some.mpr (Or.inl hvital))

variable {number : Nat} {vital : Vital}

/-- A session gets its place. -/
theorem set_established (h : registry.Suits owner vitals)
    (hdistinct : (vitals.map Vital.id).Nodup)
    (hvital : vitals[number]? = some vital)
    (hstate : vital.state = .negotiating) {outlet : Outlet σ α}
    (howner : owner outlet.sink = some number) :
    (registry.register vital.id outlet).1.Suits owner
      (vitals.set number { vital with state := .established }) where
  absent {other after} hafter hwaits := by
    rcases getElem?_set_cases hafter with ⟨-, rfl⟩ | ⟨hne, hother⟩
    · exact absurd rfl hwaits
    · exact (stays_register outlet
        (id_ne_of_ne hdistinct hvital hother hne)).absent
          (h.absent hother hwaits)
  serves {other after} hafter hserved := by
    rcases getElem?_set_cases hafter with ⟨rfl, rfl⟩ | ⟨hne, hother⟩
    · have hnone : registry.Ownerless owner other :=
        h.ownerless fun before hbefore => by
          rwa [← Option.some.inj (hvital.symm.trans hbefore)]
      exact hnone.serves_register
        (h.absent hvital (by simp [hstate])) howner
    · exact (h.serves hother hserved).step
        (ages_register (by simp [howner, hne.symm]))
        (stays_register outlet (id_ne_of_ne hdistinct hvital hother hne))
  ownerless {other} hnone := by
    have hne : other ≠ number := by
      rintro rfl
      cases hnone _ (getElem?_set_self hvital _)
    have hbefore : registry.Ownerless owner other := h.ownerless fun before h =>
      hnone before (by rwa [List.getElem?_set_ne hne.symm])
    exact hbefore.ages (ages_register (by simp [howner, hne.symm]))

/-- A session has given up its place. -/
theorem set_closed (h : registry.Suits owner vitals)
    (hvital : vitals[number]? = some vital)
    (habsent : registry.contains vital.id = false) :
    registry.Suits owner
      (vitals.set number { vital with state := .closed, isLost := false }) where
  absent hafter hwaits := by
    rcases getElem?_set_cases hafter with ⟨-, rfl⟩ | ⟨-, hother⟩
    · exact habsent
    · exact h.absent hother hwaits
  serves hafter hserved := by
    rcases getElem?_set_cases hafter with ⟨-, rfl⟩ | ⟨-, hother⟩
    · cases hserved
    · exact h.serves hother hserved
  ownerless {other} hnone := by
    have hne : other ≠ number := by
      rintro rfl
      cases hnone _ (getElem?_set_self hvital _)
    exact h.ownerless fun before h =>
      hnone before (by rwa [List.getElem?_set_ne hne.symm])

end Registry.Suits

/-! All that the sessions rely on. -/

namespace View.Sound

theorem of_create (settings : ProxySettings) (rtpSource eventSource : Nat) :
    (Proxy.create settings rtpSource eventSource).view.Sound where
  distinct := List.nodup_nil
  packets := .nil rfl
  events := .nil rfl
  found _ hmem := absurd hmem List.not_mem_nil
  cleared h := by cases h
  active := rfl
  closed := rfl

variable {view view' : View}

/-- A session begins. -/
theorem begins (h : view.Sound) {id : SessionId}
    (hdistinct : ∀ vital ∈ view.vitals, vital.id ≠ id)
    (hpackets : view.packets.contains id = false)
    (hevents : view.events.contains id = false)
    (hrunning : view.isClearing = false) :
    View.Sound { view with
      vitals := view.vitals ++ [⟨id, .negotiating, false⟩] } where
  distinct := by
    simp only [List.map_append, List.map_cons, List.map_nil]
    refine List.nodup_append.mpr ⟨h.distinct, by simp, ?_⟩
    intro other hother new hnew
    obtain ⟨vital, hmem, rfl⟩ := List.mem_map.mp hother
    rw [List.mem_singleton.mp hnew]
    exact hdistinct vital hmem
  packets := h.packets.concat hpackets
  events := h.events.concat hevents
  found vital hmem := by
    rcases List.mem_append.mp hmem with hold | hnew
    · exact h.found vital hold
    · rw [List.mem_singleton.mp hnew]
  cleared hclearing := by
    rw [hrunning] at hclearing
    cases hclearing
  active := by simp [h.active]
  closed := by simp [h.closed]

variable {number : Nat} {vital : Vital}

/-- A session that is negotiating is established. -/
theorem opens (h : view.Sound) (hvital : view.vitals[number]? = some vital)
    (hstate : vital.state = .negotiating)
    {track : Outlet PacketSink Rtp.Packet} {channel : Outlet EventSink Event}
    (htrack : track.sink.session? = some number)
    (hchannel : channel.sink.session? = some number) :
    View.Sound { view with
      vitals := view.vitals.set number { vital with state := .established }
      packets := (view.packets.register vital.id track).1
      events := (view.events.register vital.id channel).1
      active := view.active + 1
      opened := view.opened + 1 } where
  distinct := nodup_ids_set hvital rfl h.distinct
  packets := h.packets.set_established h.distinct hvital hstate htrack
  events := h.events.set_established h.distinct hvital hstate hchannel
  found other hother := by
    rcases List.mem_or_eq_of_mem_set hother with hold | rfl
    · exact h.found other hold
    · exact h.found vital (List.mem_of_getElem? hvital)
  cleared hclearing := by
    have hclosed := h.cleared hclearing vital (List.mem_of_getElem? hvital)
    rw [hstate] at hclosed
    cases hclosed
  active := by
    have hcount := countP_set_add (p := (·.state = .established)) hvital
      { vital with state := .established }
    simp [hstate] at hcount
    simp [h.active, hcount]
  closed := by
    have hcount := countP_set_add (p := (·.state = .closed)) hvital
      { vital with state := .established }
    simp [hstate] at hcount
    simp [h.closed, hcount]

/-- A session closes, whether it was established or not. -/
theorem closes (h : view.Sound) (hvital : view.vitals[number]? = some vital)
    (hstate : vital.state ≠ .closed) :
    View.Sound { view with
      vitals := view.vitals.set number
        { vital with state := .closed, isLost := false }
      packets := (view.packets.unregister vital.id).1
      events := (view.events.unregister vital.id).1
      active :=
        if vital.state = .established then view.active - 1 else view.active
      closed := view.closed + 1 } where
  distinct := nodup_ids_set hvital rfl h.distinct
  packets :=
    (h.packets.calm ((Registry.tended_unregister vital.id).calm _)).set_closed
      hvital (Registry.contains_unregister vital.id)
  events :=
    (h.events.calm ((Registry.tended_unregister vital.id).calm _)).set_closed
      hvital (Registry.contains_unregister vital.id)
  found other hother := by
    rcases List.mem_or_eq_of_mem_set hother with hold | rfl
    · exact h.found other hold
    · rfl
  cleared hclearing :=
    absurd (h.cleared hclearing vital (List.mem_of_getElem? hvital)) hstate
  active := by
    have hcount := countP_set_add (p := (·.state = .established)) hvital
      { vital with state := .closed, isLost := false }
    have hactive := h.active
    by_cases hopen : vital.state = .established
    · simp [hopen] at hcount
      simp only [hopen, if_true]
      omega
    · simp [hopen] at hcount
      simp [hopen, hcount, hactive]
  closed := by
    have hcount := countP_set_add (p := (·.state = .closed)) hvital
      { vital with state := .closed, isLost := false }
    simp [hstate] at hcount
    simp [h.closed, hcount]

/-- Every turn of the view keeps what the sessions rely on. -/
theorem turn (h : view.Sound) (hturn : Turn view view') : view'.Sound := by
  cases hturn with
  | calm packets events isClearing hpackets hevents hclearing =>
      exact { h with
        packets := h.packets.calm hpackets
        events := h.events.calm hevents
        cleared := fun hnew => (hclearing hnew).elim h.cleared id }
  | begins id hdistinct hpackets hevents hrunning =>
      exact h.begins hdistinct hpackets hevents hrunning
  | opens number vital hvital hstate track channel htrack hchannel =>
      exact h.opens hvital hstate htrack hchannel
  | closes number vital hvital hstate => exact h.closes hvital hstate

end View.Sound

/-! The states of a session. -/

/-- What may become of the state of a session. -/
inductive SessionState.Moves : SessionState → SessionState → Prop where
  | stays (state : SessionState) : Moves state state
  | opens : Moves .negotiating .established
  | closes {state : SessionState} (h : state ≠ .closed) : Moves state .closed

open SessionState in
/-- The states that a session has had so far, one for each proxy of a run, and
the one that it is in now. It is negotiating for some time, may be established
for some time after that, and is then closed. -/
inductive Lived : List SessionState → SessionState → Prop where
  | negotiating (a : Nat) : Lived (.replicate (a + 1) negotiating) negotiating
  | established (a b : Nat) :
      Lived (.replicate (a + 1) negotiating ++ .replicate (b + 1) established)
        established
  | closed (a b c : Nat) :
      Lived (.replicate (a + 1) negotiating ++ .replicate b established ++
        .replicate (c + 1) closed) closed

theorem Lived.concat {states : List SessionState} {state state' : SessionState}
    (h : Lived states state) (hmoves : state.Moves state') :
    Lived (states ++ [state']) state' := by
  cases hmoves with
  | stays =>
      cases h with
      | negotiating a =>
          rw [← List.replicate_succ']
          exact .negotiating (a + 1)
      | established a b =>
          rw [List.append_assoc, ← List.replicate_succ']
          exact .established a (b + 1)
      | closed a b c =>
          rw [List.append_assoc, ← List.replicate_succ']
          exact .closed a b (c + 1)
  | opens =>
      cases h with
      | negotiating a => exact .established a 0
  | closes hstate =>
      cases h with
      | negotiating a => simpa using Lived.closed a 0 0
      | established a b => exact .closed a (b + 1) 0
      | closed a b c => exact absurd rfl hstate

theorem Lived.mem_of_established {states : List SessionState}
    (h : Lived states .established) : .established ∈ states := by
  cases h with
  | established a b => simp

theorem Lived.not_mem_of_negotiating {states : List SessionState}
    (h : Lived states .negotiating) : .established ∉ states := by
  cases h with
  | negotiating a => simp

namespace Turn

variable {view view' : View} {number : Nat}

theorem moves (h : Turn view view') {vital : Vital}
    (hvital : view.vitals[number]? = some vital) :
    ∃ vital', view'.vitals[number]? = some vital' ∧
      vital.state.Moves vital'.state := by
  cases h with
  | calm => exact ⟨vital, hvital, .stays _⟩
  | begins id =>
      exact ⟨vital, getElem?_concat_eq_some.mpr (Or.inl hvital), .stays _⟩
  | opens other before hbefore hstate =>
      by_cases hsame : other = number
      · subst hsame
        obtain rfl := Option.some.inj (hbefore.symm.trans hvital)
        refine ⟨_, getElem?_set_self hvital _, ?_⟩
        rw [hstate]
        exact .opens
      · exact ⟨vital, by simpa [hsame] using hvital, .stays _⟩
  | closes other before hbefore hstate =>
      by_cases hsame : other = number
      · subst hsame
        obtain rfl := Option.some.inj (hbefore.symm.trans hvital)
        exact ⟨_, getElem?_set_self hvital _, .closes hstate⟩
      · exact ⟨vital, by simpa [hsame] using hvital, .stays _⟩

theorem negotiating_of_new (h : Turn view view') {vital : Vital}
    (hnone : view.vitals[number]? = none)
    (hvital : view'.vitals[number]? = some vital) :
    vital.state = .negotiating := by
  cases h with
  | calm =>
      rw [hnone] at hvital
      cases hvital
  | begins id =>
      rcases getElem?_concat_eq_some.mp hvital with hold | ⟨-, rfl⟩
      · rw [hnone] at hold
        cases hold
      · rfl
  | opens other before hbefore | closes other before hbefore =>
      rcases getElem?_set_cases hvital with ⟨rfl, -⟩ | ⟨-, hold⟩
      · rw [hnone] at hbefore
        cases hbefore
      · rw [hnone] at hold
        cases hold

end Turn

/-! Runs of the proxy. -/

namespace Proxy

/-- The proxies that a run has gone through, the latest at the head. -/
inductive Run (settings : ProxySettings) (rtpSource eventSource : Nat) :
    List Proxy → Prop where
  | create :
      Run settings rtpSource eventSource [create settings rtpSource eventSource]
  | step {proxy proxy' : Proxy} {past : List Proxy} :
      Run settings rtpSource eventSource (proxy :: past) →
      Step proxy proxy' →
      Run settings rtpSource eventSource (proxy' :: proxy :: past)

/-- The states that a session has had in a run, one for each proxy, the first
at the head. -/
def statesOf (number : Nat) : List Proxy → List SessionState
  | [] => []
  | proxy :: past =>
      statesOf number past ++ (proxy.sessions[number]?.map (·.state)).toList

/-- A session has been established. -/
def everEstablished (run : List Proxy) (number : Nat) : Bool :=
  (statesOf number run).contains .established

theorem everEstablished_iff {run : List Proxy} {number : Nat} :
    everEstablished run number = true ↔ .established ∈ statesOf number run :=
  List.contains_iff_mem

theorem statesOf_cons (proxy : Proxy) (past : List Proxy) (number : Nat) :
    statesOf number (proxy :: past) = statesOf number past ++
      (proxy.view.vitals[number]?.map (·.state)).toList := by
  simp [statesOf, view, Function.comp_def, Session.vital]

/-- What a run has been for the sessions. -/
structure Recorded (run : List Proxy) (view : View) : Prop where
  lived {number : Nat} {vital : Vital} : view.vitals[number]? = some vital →
    Lived (statesOf number run) vital.state
  unborn {number : Nat} : view.vitals[number]? = none →
    statesOf number run = []
  opened : view.opened =
    (List.range view.vitals.length).countP (everEstablished run)

namespace Recorded

variable {past : List Proxy} {proxy' : Proxy} {view : View}

theorem lived_cons (h : Recorded past view) (hturn : Turn view proxy'.view)
    {number : Nat} {vital' : Vital}
    (hvital' : proxy'.view.vitals[number]? = some vital') :
    Lived (statesOf number (proxy' :: past)) vital'.state := by
  rw [statesOf_cons, hvital']
  cases hvital : view.vitals[number]? with
  | none =>
      have hstate := hturn.negotiating_of_new hvital hvital'
      rw [h.unborn hvital, Option.map_some, hstate]
      exact .negotiating 0
  | some vital =>
      obtain ⟨vital₁, hvital₁, hmoves⟩ := hturn.moves hvital
      obtain rfl := Option.some.inj (hvital₁.symm.trans hvital')
      exact (h.lived hvital).concat hmoves

theorem unborn_cons (h : Recorded past view) (hturn : Turn view proxy'.view)
    {number : Nat} (hnone : proxy'.view.vitals[number]? = none) :
    statesOf number (proxy' :: past) = [] := by
  rw [statesOf_cons, hnone]
  cases hvital : view.vitals[number]? with
  | none => rw [h.unborn hvital]; rfl
  | some vital =>
      obtain ⟨vital', hvital', -⟩ := hturn.moves hvital
      rw [hnone] at hvital'
      cases hvital'

/-- Only a session that opens comes to be established. -/
theorem everEstablished_cons (h : Recorded past view) {number : Nat}
    {vital vital' : Vital} (hvital : view.vitals[number]? = some vital)
    (hvital' : proxy'.view.vitals[number]? = some vital')
    (hstate : vital'.state = .established → vital.state = .established) :
    everEstablished (proxy' :: past) number = everEstablished past number := by
  have hlived := h.lived hvital
  have hmem : vital'.state = .established →
      .established ∈ statesOf number past := by
    intro hopen
    rw [hstate hopen] at hlived
    exact hlived.mem_of_established
  rw [Bool.eq_iff_iff, everEstablished_iff, everEstablished_iff, statesOf_cons,
    hvital', Option.map_some, Option.toList_some, List.mem_append,
    List.mem_singleton]
  exact ⟨fun hany => hany.elim id fun hopen => hmem hopen.symm, Or.inl⟩

theorem everEstablished_of_eq (h : Recorded past view) {number : Nat}
    (hrange : number < view.vitals.length)
    (hsame : proxy'.view.vitals[number]? = view.vitals[number]?) :
    everEstablished (proxy' :: past) number = everEstablished past number := by
  have hvital := List.getElem?_eq_getElem hrange
  exact h.everEstablished_cons hvital (hsame.trans hvital) id

/-- The count of the sessions that have been established. -/
theorem opened_cons (h : Recorded past view) {view' : View}
    (hview : proxy'.view = view') (hturn : Turn view view') :
    view'.opened = (List.range view'.vitals.length).countP
      (everEstablished (proxy' :: past)) := by
  have hvitals := congrArg View.vitals hview
  cases hturn with
  | calm packets events isClearing =>
      rw [h.opened]
      refine List.countP_congr fun number hnumber => ?_
      rw [h.everEstablished_of_eq (List.mem_range.mp hnumber) (by rw [hvitals])]
  | begins fresh =>
      have hlast : everEstablished (proxy' :: past) view.vitals.length =
          false := by
        simp [everEstablished, statesOf_cons, hvitals,
          h.unborn (List.getElem?_eq_none (Nat.le_refl _))]
      have hrest : (List.range view.vitals.length).countP
          (everEstablished (proxy' :: past)) = view.opened := by
        rw [h.opened]
        refine List.countP_congr fun number hnumber => ?_
        have hrange := List.mem_range.mp hnumber
        rw [h.everEstablished_of_eq hrange
          (by rw [hvitals, List.getElem?_append_left hrange])]
      rw [List.length_append, List.length_singleton, List.range_succ,
        List.countP_append, hrest, List.countP_singleton, hlast]
      rfl
  | opens number vital hvital hstate =>
      obtain ⟨hrange, -⟩ := List.getElem?_eq_some_iff.mp hvital
      have hbefore : everEstablished past number = false := by
        have hlived := h.lived hvital
        rw [hstate] at hlived
        rw [Bool.eq_false_iff, Ne, everEstablished_iff]
        exact hlived.not_mem_of_negotiating
      have hafter : everEstablished (proxy' :: past) number = true := by
        rw [everEstablished_iff, statesOf_cons, hvitals,
          getElem?_set_self hvital]
        simp
      have hflip := countP_range_flip hrange hbefore hafter
        fun other hother hne => h.everEstablished_of_eq hother
          (by rw [hvitals, List.getElem?_set_ne hne.symm])
      rw [List.length_set, hflip, h.opened]
  | closes number vital hvital hstate =>
      rw [List.length_set, h.opened]
      refine List.countP_congr fun other hother => ?_
      by_cases hsame : other = number
      · subst hsame
        have hvital' : proxy'.view.vitals[other]? =
            some { vital with state := .closed, isLost := false } := by
          rw [hvitals]
          exact getElem?_set_self hvital _
        rw [h.everEstablished_cons hvital hvital' fun hopen => by cases hopen]
      · rw [h.everEstablished_of_eq (List.mem_range.mp hother)
          (by rw [hvitals, List.getElem?_set_ne (Ne.symm hsame)])]

theorem cons (h : Recorded past view) (hturn : Turn view proxy'.view) :
    Recorded (proxy' :: past) proxy'.view where
  lived := h.lived_cons hturn
  unborn := h.unborn_cons hturn
  opened := h.opened_cons rfl hturn

end Recorded

/-- What the sessions rely on holds after any run. -/
theorem Run.sound {settings : ProxySettings} {rtpSource eventSource : Nat}
    {proxy : Proxy} {past : List Proxy}
    (h : Run settings rtpSource eventSource (proxy :: past)) :
    proxy.view.Sound ∧ Recorded (proxy :: past) proxy.view := by
  generalize hrun : proxy :: past = run at h
  induction h generalizing proxy past with
  | create =>
      cases hrun
      exact ⟨.of_create settings rtpSource eventSource,
        { lived := fun hvital => by cases hvital
          unborn := fun _ => rfl
          opened := rfl }⟩
  | step _ hstep ih =>
      cases hrun
      obtain ⟨hsound, hrecorded⟩ := ih rfl
      have hturn := hstep.turn hsound
      exact ⟨hsound.turn hturn, hrecorded.cons hturn⟩

/-- A data channel that is reported to a session that no longer waits for one is
let go, and nothing else changes. -/
theorem supervise?_of_further_channel {proxy proxy' : Proxy} {number : Nat}
    {session : Session} {link link' : Link} {channel : Nat}
    (hsession : proxy.sessions[number]? = some session)
    (hstate : session.state ≠ .negotiating)
    (hlink : proxy.scene.links[number]? = some link)
    (hreport : link.nextReport = .ready (.channelOpened channel, link'))
    (h : proxy.supervise? number .report = some proxy') :
    proxy' = { proxy with
      scene := proxy.scene.setLink number (link'.dropChannel channel) } := by
  have hlinks : (proxy.scene.links.modify number fun _ => link').modify number
      (·.dropChannel channel) =
        proxy.scene.links.set number (link'.dropChannel channel) := by
    rw [List.modify_modify_eq, List.set_eq_modify]
    rfl
  obtain ⟨session₁, hsession₁, hact⟩ := Option.bind_eq_some_iff.mp h
  obtain rfl := Option.some.inj (hsession₁.symm.trans hsession)
  split at hact
  · cases hact
  · obtain ⟨link₁, hlink₁, hheard⟩ := Option.bind_eq_some_iff.mp hact
    obtain rfl := Option.some.inj (hlink₁.symm.trans hlink)
    rw [hreport] at hheard
    dsimp only at hheard
    rw [openChannel, if_pos (Or.inl hstate)] at hheard
    cases hheard
    simp only [adjustLink, Scene.adjustLink, Scene.setLink, hlinks]

/-- However the loops, the workers, the sessions and others take turns: a
session goes through its states in one direction, and further data channels
are let go; it is registered at most while it is established, and is then
served by its own outlets; the gauge and both counters agree with the lives of
all sessions. -/
theorem life_of_run {settings : ProxySettings} {rtpSource eventSource : Nat}
    {proxy : Proxy} {past : List Proxy}
    (h : Run settings rtpSource eventSource (proxy :: past)) :
    (∀ number session, proxy.sessions[number]? = some session →
      Lived (statesOf number (proxy :: past)) session.state ∧
      (session.state ≠ .negotiating → ∀ link link' channel,
        proxy.scene.links[number]? = some link →
        link.nextReport = .ready (.channelOpened channel, link') →
        ∀ proxy', proxy.supervise? number .report = some proxy' →
          proxy' = { proxy with
            scene := proxy.scene.setLink number
              (link'.dropChannel channel) }) ∧
      (session.state ≠ .established →
        ∀ stream, proxy.isRegistered session.id stream = false) ∧
      (session.state = .established →
        proxy.packets.registry.Serves PacketSink.session? number session.id ∧
        proxy.events.registry.Serves EventSink.session? number session.id)) ∧
    proxy.active = proxy.sessions.countP (·.state = .established) ∧
    proxy.tally.get .sessionsOpened =
      (List.range proxy.sessions.length).countP
        (everEstablished (proxy :: past)) ∧
    proxy.tally.get .sessionsClosed =
      proxy.sessions.countP (·.state = .closed) := by
  obtain ⟨hsound, hrecorded⟩ := h.sound
  refine ⟨fun number session hsession => ?_, ?_, ?_, ?_⟩
  · have hvital := getElem?_vitals hsession
    refine ⟨hrecorded.lived hvital, ?_, fun hwaits stream => ?_, fun hopen =>
      ⟨hsound.packets.serves hvital hopen, hsound.events.serves hvital hopen⟩⟩
    · intro hstate link link' channel hlink hreport proxy' hact
      exact supervise?_of_further_channel hsession hstate hlink hreport hact
    · cases stream with
      | rtp => exact hsound.packets.absent hvital hwaits
      | event => exact hsound.events.absent hvital hwaits
  · have hactive := hsound.active
    simpa [view, List.countP_map, Function.comp_def, Session.vital]
      using hactive
  · have hopened := hrecorded.opened
    simpa [view] using hopened
  · have hclosed := hsound.closed
    simpa [view, List.countP_map, Function.comp_def, Session.vital]
      using hclosed

/-! A session from its offer to its end. -/

def sampleSettings : ProxySettings where
  codec := "H264"
  ssrc := 7
  frameBytes := 256
  sinks := {}

def sampleOffer : Description where
  kind := .offer
  sdp := "m=video 9 X 102\r\na=rtpmap:102 H264/90000\r\n"

/-- The browser opens a data channel. -/
def openSample (link : Link) : Link :=
  match link.openChannel "c" with
  | .ready (_, link) => link
  | .pending | .closed => link

/-- The session is established, loses one of its outlets, and is asked to
close. -/
theorem life_of_sample_run :
    ∃ proxy past, Run sampleSettings 4 4 (proxy :: past) ∧
      statesOf 0 (proxy :: past) =
        [.negotiating, .negotiating, .established, .established, .established,
          .closed] ∧
      (∀ stream, proxy.isRegistered "s" stream = false) ∧
      proxy.tally.get .sessionsOpened = 1 := by
  have hcreated : Run sampleSettings 4 4 [create sampleSettings 4 4] := .create
  have hbegun := hcreated.step
    (.initiate sampleOffer "s" (fun _ h => absurd h List.not_mem_nil)
      (fun stream => by cases stream <;> rfl) (fun _ h => by cases h))
  have hopened := (hbegun.step (.browse 0 openSample)).step
    (.act (.session 0 .report) (Option.some_get (by decide +kernel)).symm)
  have hasked := (hopened.step (.unregister "s" .rtp)).step
    (.request 0 .dataChannelClosed)
  have hclosed := hasked.step
    (.act (.session 0 .request) (Option.some_get (by decide +kernel)).symm)
  obtain ⟨proxy, past, hrun, hstates, hsessions⟩ : ∃ proxy past,
      Run sampleSettings 4 4 (proxy :: past) ∧
      statesOf 0 (proxy :: past) =
        [.negotiating, .negotiating, .established, .established, .established,
          .closed] ∧
      proxy.sessions.map (fun session => (session.id, session.state)) =
        [("s", .closed)] :=
    ⟨_, _, hclosed, by decide +kernel, by decide +kernel⟩
  obtain ⟨session, heq, hsession⟩ := List.map_eq_singleton_iff.mp hsessions
  obtain ⟨hid, hstate⟩ := Prod.mk.inj hsession
  obtain ⟨heach, -, hcount, -⟩ := life_of_run hrun
  obtain ⟨-, -, habsent, -⟩ := heach 0 session (by rw [heq]; rfl)
  refine ⟨proxy, past, hrun, hstates, ?_, ?_⟩
  · rw [← hid]
    exact habsent (by simp [hstate])
  · rw [hcount, heq]
    simp [everEstablished, hstates]

end Proxy

end LanRelay
