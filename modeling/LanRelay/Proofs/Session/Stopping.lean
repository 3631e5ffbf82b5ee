/-
What a shutdown waits for.

It waits for the loops and then for the sessions. When all sessions have closed
it takes out what is still registered, and waits for the workers of these
outlets. The sessions have removed their own outlets before, and nobody waits
for the workers of those: when a shutdown is complete they are closed and
drain, but what is in their queues need not have been written.

Main statements: `Proxy.Stage.step`, by which a shutdown goes through its
stages, and `Proxy.shutdown_awaits_what_is_still_registered`.
-/
import LanRelay.Proofs.Session.Orphans
import LanRelay.Proofs.Session.Upkeep

namespace LanRelay

open Rtp (Packet)

/-! Workers that have ended. -/

section

variable {σ ω α : Type} [Sink σ ω α]

theorem Outlet.hasEnded_act {outlet : Outlet σ α}
    (h : outlet.hasEnded = true) (act : OutletAct ω α) :
    (outlet.act act).hasEnded = true := by
  cases act with
  | offer item => exact h
  | close => exact h
  | work world =>
      have hnone : outlet.work? world = none :=
        Outlet.work?_eq_none_iff.mpr (Or.inl h)
      rwa [Outlet.act, hnone]

theorem Outlet.hasEnded_run {outlet : Outlet σ α}
    (h : outlet.hasEnded = true) (acts : List (OutletAct ω α)) :
    (outlet.run acts).hasEnded = true := by
  induction acts generalizing outlet with
  | nil => exact h
  | cons act acts ih => exact ih (Outlet.hasEnded_act h act)

namespace Registry

variable {registry registry' : Registry σ α} {pending numbers : List Nat}

omit [Sink σ ω α] in
/-- The outlets with these numbers are there, and the workers of those that are
not pending have ended. -/
def EndedBut (pending : List Nat) (registry : Registry σ α)
    (numbers : List Nat) : Prop :=
  ∀ number ∈ numbers, ∃ outlet, registry.outlets[number]? = some outlet ∧
    (number ∈ pending ∨ outlet.hasEnded = true)

omit [Sink σ ω α] in
theorem Numbered.endedBut (h : registry.Numbered) :
    registry.EndedBut registry.table.values registry.table.values :=
  fun number hnumber => ⟨_, List.getElem?_eq_getElem (h.range number hnumber),
    Or.inl hnumber⟩

theorem EndedBut.continues (h : registry.EndedBut pending numbers)
    (hcontinues : registry.Continues registry') :
    registry'.EndedBut pending numbers := by
  intro number hnumber
  obtain ⟨outlet, houtlet, hstate⟩ := h number hnumber
  obtain ⟨acts, hkept⟩ := hcontinues.kept houtlet
  exact ⟨_, hkept, hstate.imp_right fun hended =>
    Outlet.hasEnded_run hended acts⟩

end Registry

end

/-- A shutdown goes on from an outlet when its worker has ended. -/
theorem Registry.EndedBut.attended {σ ω α : Type} [Sink σ ω α]
    {fanout : Fanout σ α} {number : Nat} {pending numbers : List Nat}
    {result : Fanout σ α × List Nat}
    (h : fanout.registry.EndedBut (number :: pending) numbers)
    (hattended : Proxy.Attended fanout number pending result) :
    result.1.registry.EndedBut result.2 numbers := by
  cases hattended with
  | closes => exact h.continues (.adjust_close fanout.registry number)
  | passes hended =>
      intro other hother
      obtain ⟨outlet, houtlet, hstate⟩ := h other hother
      refine ⟨outlet, houtlet, ?_⟩
      rcases hstate with hpending | hdone
      · rcases List.mem_cons.mp hpending with rfl | hrest
        · exact Or.inr (hended outlet houtlet)
        · exact Or.inl hrest
      · exact Or.inr hdone

namespace Proxy

variable {begun proxy proxy' : Proxy} {number : Nat}

/-! What goes on during a shutdown. -/

/-- What may happen to a proxy that is shutting down: any actor may take its
step, and others may act on the links and on the sources. -/
inductive ClosingStep (proxy : Proxy) : Proxy → Prop where
  | act (actor : Actor) {proxy' : Proxy}
      (h : proxy.step? actor = some proxy') : ClosingStep proxy proxy'
  | request (number : Nat) (reason : CloseReason) :
      ClosingStep proxy (proxy.request number reason)
  | browse (number : Nat) (f : Link → Link) :
      ClosingStep proxy (proxy.adjustLink number f)
  | detach : ClosingStep proxy { proxy with takesPeers := false }
  | stop : ClosingStep proxy proxy.stop
  | sendPacket (packet : Packet) :
      ClosingStep proxy (proxy.sendPacket packet).1
  | sendEvent (event : Event) : ClosingStep proxy (proxy.sendEvent event).1
  | closeSources : ClosingStep proxy proxy.closeSources

/-- The later proxy comes of the earlier one by such steps. -/
def ClosingSteps : Proxy → Proxy → Prop := Relation.ReflTransGen ClosingStep

/-- What others do is nothing to the registries, the loops, the sessions and
the shutdown. -/
structure Aside (proxy proxy' : Proxy) : Prop where
  packets : proxy'.packets.registry = proxy.packets.registry
  events : proxy'.events.registry = proxy.events.registry
  packetLoop : proxy'.packets.loop = proxy.packets.loop
  eventLoop : proxy'.events.loop = proxy.events.loop
  sessions : proxy'.sessions = proxy.sessions
  shutdown : proxy'.shutdown = proxy.shutdown

theorem Aside.advances (h : Aside proxy proxy') : proxy.Advances proxy' :=
  .of_eq h.packets h.events h.packetLoop h.eventLoop h.shutdown

namespace ClosingStep

theorem cases (h : ClosingStep proxy proxy') :
    (∃ actor, proxy.step? actor = some proxy') ∨ Aside proxy proxy' := by
  cases h with
  | act actor h => exact Or.inl ⟨actor, h⟩
  | _ => exact Or.inr ⟨rfl, rfl, rfl, rfl, rfl, rfl⟩

theorem step (h : ClosingStep proxy proxy') : Step proxy proxy' := by
  cases h with
  | act actor h => exact .act actor h
  | request number reason => exact .request number reason
  | browse number f => exact .browse number f
  | detach => exact .detach
  | stop => exact .stop
  | sendPacket packet => exact .sendPacket packet
  | sendEvent event => exact .sendEvent event
  | closeSources => exact .closeSources

theorem keeps (h : ClosingStep proxy proxy') : proxy.Keeps proxy' := by
  rcases h.cases with ⟨actor, h⟩ | haside
  · exact keeps_step? h
  · exact .of_eq haside.packets haside.events haside.shutdown

end ClosingStep

namespace ClosingSteps

theorem sound (h : ClosingSteps proxy proxy') (hsound : proxy.view.Sound) :
    proxy'.view.Sound := by
  induction h with
  | refl => exact hsound
  | tail _ hstep ih => exact ih.turn (hstep.step.turn ih)

theorem edits (h : ClosingSteps proxy proxy') : proxy.Edits proxy' := by
  induction h with
  | refl => exact .of_eq rfl rfl
  | tail _ hstep ih => exact ih.trans hstep.step.edits

theorem keeps (h : ClosingSteps proxy proxy') : proxy.Keeps proxy' := by
  induction h with
  | refl => exact .refl _
  | tail _ hstep ih => exact ih.trans hstep.keeps

end ClosingSteps

/-! All sessions have closed. -/

/-- Loops that rest take no steps. -/
theorem dispatch?_of_rest (hpackets : proxy.packets.isAtRest = true)
    (hevents : proxy.events.isAtRest = true) (stream : Stream) :
    proxy.dispatch? stream = none := by
  rw [← Option.not_isSome_iff_eq_none, Option.isSome_iff_exists]
  rintro ⟨proxy', h⟩
  cases stream with
  | rtp =>
      obtain ⟨_, hstep, -⟩ := Option.bind_eq_some_iff.mp h
      rw [Fanout.isAtRest_of_step? hstep] at hpackets
      cases hpackets
  | event =>
      obtain ⟨_, hstep, -⟩ := Option.bind_eq_some_iff.mp h
      rw [Fanout.isAtRest_of_step? hstep] at hevents
      cases hevents

theorem heedStop?_of_rest (hpackets : proxy.packets.isAtRest = true)
    (hevents : proxy.events.isAtRest = true) (stream : Stream) :
    proxy.heedStop? stream = none := by
  rw [← Option.not_isSome_iff_eq_none, Option.isSome_iff_exists]
  rintro ⟨proxy', h⟩
  unfold heedStop? at h
  split at h
  · cases stream with
    | rtp =>
        obtain ⟨_, hstop, -⟩ := Option.bind_eq_some_iff.mp h
        rw [Fanout.isAtRest_of_stop? hstop] at hpackets
        cases hpackets
    | event =>
        obtain ⟨_, hstop, -⟩ := Option.bind_eq_some_iff.mp h
        rw [Fanout.isAtRest_of_stop? hstop] at hevents
        cases hevents
  · cases h

/-- The reader of a session changes no state of a session and no table. -/
theorem tables_of_read? (h : proxy.read? number = some proxy') :
    proxy'.packets.registry.table = proxy.packets.registry.table ∧
    proxy'.events.registry.table = proxy.events.registry.table ∧
    proxy'.sessions.map (·.state) = proxy.sessions.map (·.state) := by
  obtain ⟨session, channel, -, -, hread⟩ := readsOn_of_read? h
  cases hread with
  | ended => exact ⟨rfl, rfl, map_modify_eq_self _ _ fun _ => rfl⟩
  | event | skipped => exact ⟨rfl, rfl, rfl⟩

theorem tables_of_work? {stream : Stream}
    (h : proxy.work? number stream = some proxy') :
    proxy'.packets.registry.table = proxy.packets.registry.table ∧
    proxy'.events.registry.table = proxy.events.registry.table ∧
    proxy'.sessions.map (·.state) = proxy.sessions.map (·.state) := by
  cases stream with
  | rtp =>
      obtain ⟨⟨packets, scene⟩, hwork, hproxy⟩ := Option.bind_eq_some_iff.mp h
      cases hproxy
      obtain ⟨_, _, _, _, rfl⟩ := Fanout.eq_of_work? hwork
      exact ⟨rfl, rfl, rfl⟩
  | event =>
      obtain ⟨⟨events, scene⟩, hwork, hproxy⟩ := Option.bind_eq_some_iff.mp h
      cases hproxy
      obtain ⟨_, _, _, _, rfl⟩ := Fanout.eq_of_work? hwork
      exact ⟨rfl, rfl, rfl⟩

/-- Once the loops rest and all sessions have closed, only a shutdown changes
the tables. -/
theorem tables_of_step? {actor : Actor}
    (hpackets : proxy.packets.isAtRest = true)
    (hevents : proxy.events.isAtRest = true)
    (hclosed : ∀ session ∈ proxy.sessions, session.state = .closed)
    (hactor : actor ≠ .shutdown) (h : proxy.step? actor = some proxy') :
    proxy'.packets.registry.table = proxy.packets.registry.table ∧
    proxy'.events.registry.table = proxy.events.registry.table ∧
    proxy'.sessions.map (·.state) = proxy.sessions.map (·.state) := by
  cases actor with
  | shutdown => exact absurd rfl hactor
  | stoppedLoop stream =>
      rw [step?, heedStop?_of_rest hpackets hevents] at h
      cases h
  | loop stream =>
      rw [step?, dispatch?_of_rest hpackets hevents] at h
      cases h
  | session number trigger =>
      obtain ⟨session, hsession, hact⟩ := Option.bind_eq_some_iff.mp h
      rw [if_pos (hclosed session (List.mem_of_getElem? hsession))] at hact
      cases hact
  | reader number => exact tables_of_read? h
  | worker stream outlet => exact tables_of_work? h

/-- How far a shutdown has come with the outlets that were still registered when
all sessions had closed. -/
inductive Awaits (packets events : List Nat) (proxy : Proxy) : Prop where
  | packets (pending : List Nat)
      (hphase : proxy.phase? = some (.packetOutlets pending))
      (hempty : proxy.packets.registry.table = .empty)
      (hvalues : proxy.events.registry.table.values = events)
      (hpackets : proxy.packets.registry.EndedBut pending packets)
      (hevents : proxy.events.registry.EndedBut events events)
  | events (pending : List Nat)
      (hphase : proxy.phase? = some (.eventOutlets pending))
      (hempty : proxy.packets.registry.table = .empty)
      (hempty' : proxy.events.registry.table = .empty)
      (hpackets : proxy.packets.registry.EndedBut [] packets)
      (hevents : proxy.events.registry.EndedBut pending events)
  | complete (hphase : proxy.phase? = some .complete)
      (hempty : proxy.packets.registry.table = .empty)
      (hempty' : proxy.events.registry.table = .empty)
      (hpackets : proxy.packets.registry.EndedBut [] packets)
      (hevents : proxy.events.registry.EndedBut [] events)

/-- The loops rest, all sessions have closed, and a shutdown is about the
outlets that are left. -/
structure Clearing (packets events : List Nat) (proxy : Proxy) : Prop where
  packetsRest : proxy.packets.isAtRest = true
  eventsRest : proxy.events.isAtRest = true
  closed : ∀ session ∈ proxy.sessions, session.state = .closed
  awaits : Awaits packets events proxy

variable {packets events : List Nat}

theorem phase?_congr (h : proxy'.shutdown = proxy.shutdown) :
    proxy'.phase? = proxy.phase? := by
  rw [phase?, phase?, h]

theorem Awaits.advances (h : Awaits packets events proxy)
    (hadvances : proxy.Advances proxy')
    (hpackets : proxy'.packets.registry.table = proxy.packets.registry.table)
    (hevents : proxy'.events.registry.table = proxy.events.registry.table) :
    Awaits packets events proxy' := by
  have hphase := phase?_congr hadvances.shutdown
  have hpackets' := hadvances.packets.continues
  have hevents' := hadvances.events.continues
  cases h with
  | packets pending h hempty hvalues hleft hall =>
      exact .packets pending (hphase.trans h) (hpackets.trans hempty)
        (by rw [hevents, hvalues]) (hleft.continues hpackets')
        (hall.continues hevents')
  | events pending h hempty hempty' hleft hall =>
      exact .events pending (hphase.trans h) (hpackets.trans hempty)
        (hevents.trans hempty') (hleft.continues hpackets')
        (hall.continues hevents')
  | complete h hempty hempty' hleft hall =>
      exact .complete (hphase.trans h) (hpackets.trans hempty)
        (hevents.trans hempty') (hleft.continues hpackets')
        (hall.continues hevents')

/-- What a shutdown does while it is about the outlets. -/
theorem Clearing.shutsDown (h : Clearing packets events proxy)
    (hstep : ShutsDown proxy proxy') : Clearing packets events proxy' := by
  obtain ⟨hpacketsRest, heventsRest, hclosed, hawaits⟩ := h
  -- Each step needs a phase of its own, so most pairs of cases exclude another.
  cases hawaits with
  | packets pending hphase hempty hvalues hleft hall =>
      cases hstep with
      | packets number rest hphase' result hattended totals =>
          cases hphase.symm.trans hphase'
          exact ⟨hattended.isAtRest.trans hpacketsRest, heventsRest, hclosed,
            .packets result.2 rfl (hattended.table.trans hempty) hvalues
              (hleft.attended hattended) hall⟩
      | packetsDone hphase' totals =>
          cases hphase.symm.trans hphase'
          subst hvalues
          exact ⟨hpacketsRest, heventsRest, hclosed,
            .events _ rfl hempty rfl hleft hall⟩
      | loopsRest hphase' | sessionsClosed hphase' | events _ _ hphase'
      | eventsDone hphase' => cases hphase.symm.trans hphase'
  | events pending hphase hempty hempty' hleft hall =>
      cases hstep with
      | events number rest hphase' result hattended totals =>
          cases hphase.symm.trans hphase'
          exact ⟨hpacketsRest, hattended.isAtRest.trans heventsRest, hclosed,
            .events result.2 rfl hempty (hattended.table.trans hempty')
              hleft (hall.attended hattended)⟩
      | eventsDone hphase' totals =>
          cases hphase.symm.trans hphase'
          exact ⟨hpacketsRest, heventsRest, hclosed,
            .complete rfl hempty hempty' hleft hall⟩
      | loopsRest hphase' | sessionsClosed hphase' | packets _ _ hphase'
      | packetsDone hphase' => cases hphase.symm.trans hphase'
  | complete hphase hempty hempty' hleft hall =>
      cases hstep with
      | loopsRest hphase' | sessionsClosed hphase' | packets _ _ hphase'
      | packetsDone hphase' | events _ _ hphase' | eventsDone hphase' =>
          cases hphase.symm.trans hphase'

theorem Clearing.step (h : Clearing packets events proxy)
    (hstep : ClosingStep proxy proxy') : Clearing packets events proxy' := by
  rcases hstep.cases with ⟨actor, hact⟩ | haside
  · by_cases hactor : actor = .shutdown
    · subst hactor
      exact h.shutsDown (shutsDown_of_shutdownStep? hact)
    · have hadvances := advances_step? hactor hact
      obtain ⟨hpackets, hevents, hstates⟩ :=
        tables_of_step? h.packetsRest h.eventsRest h.closed hactor hact
      refine ⟨hadvances.packetsRest h.packetsRest,
        hadvances.eventsRest h.eventsRest, fun session hsession => ?_,
        h.awaits.advances hadvances hpackets hevents⟩
      obtain ⟨before, hbefore, hstate⟩ :=
        List.mem_map.mp (hstates ▸ List.mem_map_of_mem hsession)
      rw [← hstate]
      exact h.closed before hbefore
  · have hadvances := haside.advances
    exact ⟨hadvances.packetsRest h.packetsRest,
      hadvances.eventsRest h.eventsRest, haside.sessions ▸ h.closed,
      h.awaits.advances hadvances (by rw [haside.packets])
        (by rw [haside.events])⟩

/-! The stages of a shutdown. -/

/-- Where a shutdown is that has begun with a proxy. -/
inductive Stage (begun proxy : Proxy) : Prop where
  | loops (hphase : proxy.phase? = some .loops)
  | sessions (hphase : proxy.phase? = some .sessions)
      (hpackets : proxy.packets.isAtRest = true)
      (hevents : proxy.events.isAtRest = true)
  /-- All sessions of the proxy before have closed. -/
  | clearing (before : Proxy) (hbefore : ClosingSteps begun before)
      (hphase : before.phase? = some .sessions)
      (hclosed : ∀ session ∈ before.sessions, session.state = .closed)
      (hafter : ClosingSteps before proxy)
      (h : Clearing before.packets.registry.table.values
        before.events.registry.table.values proxy)

/-- The sessions have closed, and a shutdown takes out what is registered. -/
theorem clearing_of_sessionsClosed (hpackets : proxy.packets.isAtRest = true)
    (hevents : proxy.events.isAtRest = true)
    (hclosed : ∀ session ∈ proxy.sessions, session.state = .closed)
    (hnumbered : proxy.packets.registry.Numbered)
    (hnumbered' : proxy.events.registry.Numbered)
    (totals : List Stats.DispatchTotals) :
    Clearing proxy.packets.registry.table.values
      proxy.events.registry.table.values
      { proxy.prune with
        packets := { proxy.packets with
          registry := proxy.packets.registry.clear }
        shutdown := some {
          phase := .packetOutlets proxy.packets.registry.table.values
          totals } } where
  packetsRest := hpackets
  eventsRest := hevents
  closed session hsession := by
    obtain ⟨before, hbefore, rfl⟩ := List.mem_map.mp hsession
    exact hclosed before hbefore
  awaits := .packets _ rfl rfl rfl hnumbered.endedBut hnumbered'.endedBut

theorem Stage.step (h : Stage begun proxy) (hsteps : ClosingSteps begun proxy)
    (hsound : proxy.view.Sound) (hpackets : proxy.packets.registry.Numbered)
    (hevents : proxy.events.registry.Numbered)
    (hstep : ClosingStep proxy proxy') : Stage begun proxy' := by
  -- Until the outlets are taken out, only the shutdown itself matters.
  have hother : proxy.step? .shutdown = some proxy' ∨
      proxy.Advances proxy' := by
    rcases hstep.cases with ⟨actor, hact⟩ | haside
    · by_cases hactor : actor = .shutdown
      · subst hactor
        exact Or.inl hact
      · exact Or.inr (advances_step? hactor hact)
    · exact Or.inr haside.advances
  cases h with
  | loops hphase =>
      rcases hother with hact | hadvances
      · cases shutsDown_of_shutdownStep? hact with
        | loopsRest _ hpacketsRest heventsRest reported totals =>
            exact .sessions rfl hpacketsRest heventsRest
        | sessionsClosed hphase' | packets _ _ hphase' | packetsDone hphase'
        | events _ _ hphase' | eventsDone hphase' =>
            cases hphase.symm.trans hphase'
      · exact .loops ((phase?_congr hadvances.shutdown).trans hphase)
  | sessions hphase hpacketsRest heventsRest =>
      rcases hother with hact | hadvances
      · cases shutsDown_of_shutdownStep? hact with
        | sessionsClosed _ hall totals =>
            have hclosed : ∀ session ∈ proxy.sessions,
                session.state = .closed := fun session hsession =>
              closed_of_all hsound hall session.vital
                (List.mem_map_of_mem hsession)
            exact .clearing proxy hsteps hphase hclosed
              (Relation.ReflTransGen.single hstep)
              (clearing_of_sessionsClosed hpacketsRest heventsRest hclosed
                hpackets hevents totals)
        | loopsRest hphase' | packets _ _ hphase' | packetsDone hphase'
        | events _ _ hphase' | eventsDone hphase' =>
            cases hphase.symm.trans hphase'
      · exact .sessions ((phase?_congr hadvances.shutdown).trans hphase)
          (hadvances.packetsRest hpacketsRest)
          (hadvances.eventsRest heventsRest)
  | clearing before hbefore hphase hclosed hafter h =>
      exact .clearing before hbefore hphase hclosed (hafter.tail hstep)
        (h.step hstep)

theorem ClosingSteps.stage (h : ClosingSteps begun proxy)
    (hphase : begun.phase? = some .loops) (hsound : begun.view.Sound)
    (hpackets : begun.packets.registry.Numbered)
    (hevents : begun.events.registry.Numbered) : Stage begun proxy := by
  induction h with
  | refl => exact .loops hphase
  | tail hsteps hstep ih =>
      have hsteps : ClosingSteps begun _ := hsteps
      exact ih.step hsteps (hsteps.sound hsound)
        (hsteps.edits.packets.numbered hpackets)
        (hsteps.edits.events.numbered hevents) hstep

/-! What a shutdown has waited for. -/

theorem shutdown_of_step? {actor : Actor}
    (h : proxy.step? actor = some proxy') (hnone : proxy'.shutdown = none) :
    proxy.shutdown = none := by
  by_cases hactor : actor = .shutdown
  · subst hactor
    cases shutsDown_of_shutdownStep? h <;> cases hnone
  · rw [← (advances_step? hactor h).shutdown, hnone]

/-- As long as no shutdown has begun, no outlet gets out of the tables open. -/
theorem Step.keeps (h : Step proxy proxy') (hnone : proxy'.shutdown = none) :
    proxy.shutdown = none ∧ proxy.Keeps proxy' := by
  cases h with
  | act actor h => exact ⟨shutdown_of_step? h hnone, keeps_step? h⟩
  | initiate offer id =>
      obtain ⟨hpackets, hevents, hshutdown⟩ := untouched_initiate offer id
      exact ⟨hshutdown ▸ hnone, .of_eq hpackets hevents hshutdown⟩
  | logStream id name capacity stream =>
      refine ⟨?_, keeps_logStream ..⟩
      cases stream <;> exact hnone
  | unregister id stream =>
      refine ⟨?_, keeps_unregister id stream⟩
      cases stream <;> exact hnone
  | start =>
      obtain ⟨hpackets, hevents, hshutdown⟩ := proxy.untouched_start
      exact ⟨hshutdown ▸ hnone, .of_eq hpackets hevents hshutdown⟩
  | beginShutdown => cases hnone
  | _ => exact ⟨hnone, .of_eq rfl rfl rfl⟩

theorem Run.keeps {settings : ProxySettings} {rtpSource eventSource : Nat}
    {past : List Proxy}
    (h : Run settings rtpSource eventSource (proxy :: past))
    (hnone : proxy.shutdown = none) :
    (Proxy.create settings rtpSource eventSource).Keeps proxy := by
  generalize hrun : proxy :: past = run at h
  induction h generalizing proxy past with
  | create =>
      cases hrun
      exact .refl _
  | step _ hstep ih =>
      cases hrun
      obtain ⟨hbefore, hkeeps⟩ := hstep.keeps hnone
      exact (ih hbefore rfl).trans hkeeps

theorem keeps_beginShutdown (hnone : proxy.shutdown = none) :
    proxy.Keeps proxy.beginShutdown := by
  have hclearing : ∀ shutdown, proxy.shutdown = some shutdown →
      shutdown.phase.isClearing = false := by
    intro shutdown hshutdown
    rw [hnone] at hshutdown
    cases hshutdown
  obtain ⟨hpackets, hevents⟩ := taken_eq_nil hclearing
  exact ⟨hpackets ▸ .refl _ _, hevents ▸ .refl _ _⟩

/-- What is left of an outlet that no registry has any more: it drains, and when
its worker has ended, everything is accounted for. -/
theorem left_of_empty {σ ω α : Type} [Sink σ ω α]
    {registry registry' : Registry σ α} (hnew : registry.outlets = [])
    (hedits : registry.Edits registry')
    (hkeeps : Registry.Keeps [] [] registry registry')
    (hempty : registry'.table = .empty) {outlet : Outlet σ α}
    (houtlet : registry'.outlets[number]? = some outlet) :
    outlet.Drains ∧ (outlet.hasEnded = true → outlet.Settled) := by
  have hnone (other : Nat) : registry.outlets[other]? = none := by simp [hnew]
  have haccounted : registry'.Accounted [] := hkeeps.accounted <| by
    intro other before hbefore
    rw [hnone] at hbefore
    cases hbefore
  have hclosed : outlet.isClosed = true := by
    rcases haccounted number outlet houtlet with hlisted | htaken | hclosed
    · rw [hempty] at hlisted
      cases hlisted
    · cases htaken
    · exact hclosed
  exact ⟨Outlet.drains_of_isClosed hclosed,
    (hedits.continues.fresh (hnone number) houtlet).settled⟩

theorem settled_of_endedBut {σ ω α : Type} [Sink σ ω α]
    {registry registry' : Registry σ α} (hnew : registry.outlets = [])
    (hedits : registry.Edits registry') {numbers : List Nat}
    (hended : registry'.EndedBut [] numbers) :
    ∀ number ∈ numbers, ∃ outlet,
      registry'.outlets[number]? = some outlet ∧ outlet.Settled := by
  intro number hnumber
  obtain ⟨outlet, houtlet, hstate⟩ := hended number hnumber
  have hhistory := hedits.continues.fresh (by simp [hnew]) houtlet
  exact ⟨outlet, houtlet,
    hhistory.settled (hstate.resolve_left List.not_mem_nil)⟩

/-- However the loops, the workers, the sessions and others take turns until a
shutdown is complete: both tables are then empty, the loops rest and all
sessions have closed; every outlet there ever was is closed and drains; and at
some time all sessions had closed, when nothing was registered for any of them,
and the outlets that were registered then have all ended, with every item
written, or dropped, or lost with the other end of the sink. -/
theorem shutdown_awaits_what_is_still_registered {settings : ProxySettings}
    {rtpSource eventSource : Nat} {past : List Proxy} {finished : Proxy}
    (hrun : Run settings rtpSource eventSource (proxy :: past))
    (hfirst : proxy.shutdown = none)
    (hsteps : ClosingSteps proxy.beginShutdown finished)
    (hcomplete : finished.phase? = some .complete) :
    finished.packets.registry.table = .empty ∧
    finished.events.registry.table = .empty ∧
    finished.packets.isAtRest = true ∧ finished.events.isAtRest = true ∧
    (∀ session ∈ finished.sessions, session.state = .closed) ∧
    (∀ (number : Nat) (outlet : Outlet PacketSink Packet),
      finished.packets.registry.outlets[number]? = some outlet →
        outlet.Drains ∧ (outlet.hasEnded = true → outlet.Settled)) ∧
    (∀ (number : Nat) (outlet : Outlet EventSink Event),
      finished.events.registry.outlets[number]? = some outlet →
        outlet.Drains ∧ (outlet.hasEnded = true → outlet.Settled)) ∧
    ∃ before, ClosingSteps proxy.beginShutdown before ∧
      ClosingSteps before finished ∧ before.phase? = some .sessions ∧
      (∀ session ∈ before.sessions, session.state = .closed ∧
        ∀ stream, before.isRegistered session.id stream = false) ∧
      (∀ number ∈ before.packets.registry.table.values, ∃ outlet,
        finished.packets.registry.outlets[number]? = some outlet ∧
          outlet.Settled) ∧
      (∀ number ∈ before.events.registry.table.values, ∃ outlet,
        finished.events.registry.outlets[number]? = some outlet ∧
          outlet.Settled) := by
  have hsound := (hrun.step .beginShutdown).sound.1
  have hnew {σ α : Type} (stream : Stream) :
      ({ stream } : Registry σ α).Numbered :=
    ⟨List.nodup_nil, fun _ hnumber => absurd hnumber List.not_mem_nil⟩
  have hbegun := (hrun.step .beginShutdown).edits
  have hedits := hbegun.trans hsteps.edits
  have hkeeps := ((hrun.keeps hfirst).trans
    (keeps_beginShutdown hfirst)).trans hsteps.keeps
  have hclearing : ∀ shutdown, finished.shutdown = some shutdown →
      shutdown.phase.isClearing = false := by
    intro shutdown hshutdown
    have hphase : shutdown.phase = .complete := by
      simpa [phase?, hshutdown] using hcomplete
    rw [hphase]
    rfl
  have htaken := taken_eq_nil hclearing
  have hpackets : Registry.Keeps [] [] _ finished.packets.registry :=
    htaken.1 ▸ hkeeps.packets
  have hevents : Registry.Keeps [] [] _ finished.events.registry :=
    htaken.2 ▸ hkeeps.events
  cases hsteps.stage rfl hsound (hbegun.packets.numbered (hnew .rtp))
      (hbegun.events.numbered (hnew .event)) with
  | loops hphase | sessions hphase =>
      rw [hphase] at hcomplete
      cases hcomplete
  | clearing before hbefore hphase hclosed hafter h =>
      obtain ⟨hpacketsRest, heventsRest, hallClosed, hawaits⟩ := h
      cases hawaits with
      | packets _ hother | events _ hother =>
          rw [hother] at hcomplete
          cases hcomplete
      | complete _ hempty hempty' hended hended' =>
          refine ⟨hempty, hempty', hpacketsRest, heventsRest, hallClosed,
            fun _ _ => left_of_empty rfl hedits.packets hpackets hempty,
            fun _ _ => left_of_empty rfl hedits.events hevents hempty',
            before, hbefore, hafter, hphase, fun session hsession => ?_,
            settled_of_endedBut rfl hedits.packets hended,
            settled_of_endedBut rfl hedits.events hended'⟩
          have hstate := hclosed session hsession
          obtain ⟨number, hnumber⟩ := List.getElem?_of_mem hsession
          have hvital := getElem?_vitals hnumber
          have hwaits : session.vital.state ≠ .established := by
            simp [Session.vital, hstate]
          have hsoundBefore := hbefore.sound hsound
          refine ⟨hstate, fun stream => ?_⟩
          cases stream with
          | rtp => exact hsoundBefore.packets.absent hvital hwaits
          | event => exact hsoundBefore.events.absent hvital hwaits

/-! A shutdown that comes while a packet is queued. -/

/-- Actors that take their steps one after the other. -/
def stepAll? (proxy : Proxy) (actors : List Actor) : Option Proxy :=
  actors.foldlM step? proxy

theorem stepAll?_cons {actor : Actor} {actors : List Actor}
    (h : proxy.stepAll? (actor :: actors) = some proxy') :
    ∃ between, proxy.step? actor = some between ∧
      between.stepAll? actors = some proxy' := by
  rw [stepAll?, List.foldlM_cons] at h
  exact Option.bind_eq_some_iff.mp h

theorem ClosingSteps.of_stepAll? {actors : List Actor}
    (h : proxy.stepAll? actors = some proxy') : ClosingSteps proxy proxy' := by
  induction actors generalizing proxy with
  | nil =>
      cases h
      exact Relation.ReflTransGen.refl
  | cons actor actors ih =>
      obtain ⟨between, hstep, hrest⟩ := stepAll?_cons h
      exact (ih hrest).head (.act actor hstep)

theorem Run.stepAll? {settings : ProxySettings} {rtpSource eventSource : Nat}
    {past : List Proxy} {actors : List Actor}
    (hrun : Run settings rtpSource eventSource (proxy :: past))
    (h : proxy.stepAll? actors = some proxy') :
    ∃ past', Run settings rtpSource eventSource (proxy' :: past') := by
  induction actors generalizing proxy past with
  | nil =>
      cases h
      exact ⟨past, hrun⟩
  | cons actor actors ih =>
      obtain ⟨between, hstep, hrest⟩ := stepAll?_cons h
      exact ih (hrun.step (.act actor hstep)) hrest

def samplePacket : Packet where
  marker := false
  payloadType := 102
  sequence := 1
  timestamp := 2
  ssrc := 7
  contributors := []
  ext := none
  payload := [255]

/-- The packets are logged, and a session waits for its data channel, which the
browser has opened. -/
def readySample : Proxy :=
  let (proxy, _) := (create sampleSettings 4 4).logStream "log" "log" 4 .rtp
  (proxy.initiate sampleOffer "s").1.adjustLink 0 openSample

/-- A packet has come for the log and for the session. -/
def busySample? : Option Proxy :=
  (readySample.step? (.session 0 .report)).bind fun proxy =>
    (proxy.start.1.sendPacket samplePacket).1.stepAll?
      (List.replicate 4 (.loop .rtp))

/-- Whoever is in the way of the shutdown steps aside, and only the log is
written. -/
def stoppingActors : List Actor :=
  [.stoppedLoop .rtp, .stoppedLoop .event, .session 0 .stop, .shutdown,
    .shutdown, .shutdown, .worker .rtp 0, .worker .rtp 0, .worker .rtp 0,
    .shutdown, .shutdown, .shutdown]

def stoppedSample? : Option Proxy :=
  busySample?.bind (·.beginShutdown.stop.stepAll? stoppingActors)

theorem shutdown_of_sample : ∃ proxy past finished,
    Run sampleSettings 4 4 (proxy :: past) ∧ proxy.shutdown = none ∧
      ClosingSteps proxy.beginShutdown finished ∧
      stoppedSample? = some finished := by
  obtain ⟨opened, hopened⟩ : ∃ opened,
      readySample.step? (.session 0 .report) = some opened :=
    ⟨_, (Option.some_get (by decide +kernel)).symm⟩
  obtain ⟨finished, hfinished⟩ : ∃ finished, stoppedSample? = some finished :=
    ⟨_, (Option.some_get (by decide +kernel)).symm⟩
  have hready : Run sampleSettings 4 4 _ :=
    ((Run.create.step (.logStream "log" "log" 4 .rtp
      fun _ h => absurd h List.not_mem_nil)).step
        (.initiate sampleOffer "s" (fun _ h => absurd h List.not_mem_nil)
          (fun stream => by cases stream <;> decide +kernel)
          (fun _ h => by cases h))).step (.browse 0 openSample)
  have hsent := (((hready.step (.act (.session 0 .report) hopened)).step
    .start).step (.sendPacket samplePacket))
  obtain ⟨proxy, hbusy, hstopped⟩ := Option.bind_eq_some_iff.mp hfinished
  have hloops := hbusy
  rw [busySample?, hopened, Option.bind_some] at hloops
  obtain ⟨past, hrun⟩ := hsent.stepAll? hloops
  have hnone : busySample?.map (·.shutdown.isNone) = some true := by
    decide +kernel
  rw [hbusy, Option.map_some, Option.some.injEq, Option.isNone_iff_eq_none]
    at hnone
  exact ⟨proxy, past, finished, hrun, hnone,
    (ClosingSteps.of_stepAll? hstopped).head .stop, hfinished⟩

/-- The log has ended in order. -/
theorem shutdown_awaits_what_is_still_registered_of_sample :
    ∃ finished outlet, stoppedSample? = some finished ∧
      finished.packets.registry.table = .empty ∧
      finished.packets.registry.outlets[0]? = some outlet ∧
      outlet.Settled := by
  obtain ⟨proxy, past, finished, hrun, hfirst, hsteps, hfinished⟩ :=
    shutdown_of_sample
  have hstate : stoppedSample?.map (fun finished => (finished.phase?,
      (finished.packets.registry.outlets[0]?).any Outlet.hasEnded)) =
        some (some .complete, true) := by
    decide +kernel
  rw [hfinished, Option.map_some, Option.some.injEq, Prod.mk.injEq] at hstate
  obtain ⟨houtlet, hended⟩ := Option.any_eq_true _ _ |>.mp hstate.2
  obtain ⟨hempty, -, -, -, -, hleft, -⟩ :=
    shutdown_awaits_what_is_still_registered hrun hfirst hsteps hstate.1
  exact ⟨finished, _, hfinished, hempty, hended.1,
    (hleft 0 _ hended.1).2 hended.2⟩

/-- A shutdown is complete, and a packet that was taken for the session is in
the queue of its outlet, neither written nor dropped. -/
theorem shutdown_leaves_a_packet_queued :
    ∃ proxy past finished outlet,
      Run sampleSettings 4 4 (proxy :: past) ∧ proxy.shutdown = none ∧
      ClosingSteps proxy.beginShutdown finished ∧
      finished.stopped = true ∧ finished.phase? = some .complete ∧
      finished.packets.registry.table = .empty ∧
      finished.events.registry.table = .empty ∧
      finished.packets.registry.outlets[1]? = some outlet ∧
      outlet.hasEnded = false ∧ outlet.queue.items = [samplePacket] ∧
      outlet.metrics.written = 0 ∧ outlet.metrics.dropped = 0 := by
  obtain ⟨proxy, past, finished, hrun, hfirst, hsteps, hfinished⟩ :=
    shutdown_of_sample
  have hstate : stoppedSample?.map (fun finished => (finished.stopped,
      finished.phase?, finished.events.registry.table.entries)) =
        some (true, some .complete, []) := by
    decide +kernel
  have hqueued : stoppedSample?.bind (fun finished =>
      (finished.packets.registry.outlets[1]?).map fun outlet =>
        (outlet.hasEnded, outlet.queue.items, outlet.metrics.written,
          outlet.metrics.dropped)) = some (false, [samplePacket], 0, 0) := by
    decide +kernel
  have hempty : stoppedSample?.map
      (·.packets.registry.table.entries) = some [] := by
    decide +kernel
  rw [hfinished] at hstate hqueued hempty
  obtain ⟨outlet, houtlet, heq⟩ := Option.map_eq_some_iff.mp hqueued
  simp only [Option.map_some, Option.some.injEq, Prod.mk.injEq]
    at hstate hempty heq
  obtain ⟨hstopped, hcomplete, hempty'⟩ := hstate
  obtain ⟨hrunning, hitems, hwritten, hdropped⟩ := heq
  exact ⟨proxy, past, finished, outlet, hrun, hfirst, hsteps, hstopped,
    hcomplete, Keyed.ext hempty, Keyed.ext hempty', houtlet, hrunning, hitems,
    hwritten, hdropped⟩

end Proxy

end LanRelay
