/-
What the steps of the proxy do to its two registries.

Each step comes to a number of changes of either registry. All steps but those
of a shutdown leave the shutdown as it is, and loops that are at rest stay so
unless somebody starts them.

Main statements: `Proxy.shutsDown_of_shutdownStep?`, by which a shutdown takes a
step of one of six kinds, `Proxy.advances_step?` for all other actors, and
`Proxy.Run.edits`.
-/
import LanRelay.Proofs.Flow.History
import LanRelay.Proofs.Session.Lifecycle
import LanRelay.Proofs.Session.Registration

namespace LanRelay

open Rtp (Packet)

namespace Registry

variable {σ ω α : Type} [Sink σ ω α] {registry : Registry σ α}

theorem Edits.refl (registry : Registry σ α) : registry.Edits registry :=
  Relation.ReflTransGen.refl

theorem Edit.edits {registry' : Registry σ α} (h : registry.Edit registry') :
    registry.Edits registry' :=
  Relation.ReflTransGen.single h

end Registry

namespace Fanout

variable {σ ω α : Type} [Sink σ ω α] {fanout fanout' : Fanout σ α}

theorem edits_step? (h : fanout.step? = some fanout') :
    fanout.registry.Edits fanout'.registry := by
  unfold step? at h
  split at h
  · cases h
  · cases h
  · rw [registry_take? h]
    exact .refl _
  · cases h
    exact .refl _
  · cases h
    rw [judge_registry]
    exact (Registry.Edit.offer _ _).edits
  · cases h
    exact (Registry.Edit.unregister _).edits

theorem edits_work? {number : Nat} {world world' : ω}
    (h : fanout.work? number world = some (fanout', world')) :
    fanout.registry.Edits fanout'.registry := by
  obtain ⟨outlet, outlet', houtlet, hwork, rfl⟩ := eq_of_work? h
  exact (Registry.Edit.work number outlet outlet' world world' houtlet
    hwork).edits

omit [Sink σ ω α] in
/-- A loop that is at rest takes no step. -/
theorem isAtRest_of_step? (h : fanout.step? = some fanout') :
    fanout.isAtRest = false := by
  unfold isAtRest
  split
  · rename_i hloop
    rw [step?, hloop] at h
    cases h
  · rename_i hloop
    rw [step?, hloop] at h
    cases h
  · rfl

omit [Sink σ ω α] in
theorem isAtRest_of_stop? (h : fanout.stop? = some fanout') :
    fanout.isAtRest = false := by
  unfold stop? at h
  split at h
  · rename_i hloop
    rw [isAtRest, hloop]
  · cases h

omit [Sink σ ω α] in
theorem isAtRest_congr (h : fanout'.loop = fanout.loop) :
    fanout'.isAtRest = fanout.isAtRest := by
  rw [isAtRest, isAtRest, h]

end Fanout

namespace Proxy

variable {proxy proxy' proxy'' : Proxy} {number : Nat}

/-! A shutdown. -/

/-- What a shutdown does to an outlet that it is to close. -/
inductive Attended {σ α : Type} (fanout : Fanout σ α) (number : Nat)
    (pending : List Nat) : Fanout σ α × List Nat → Prop where
  | closes : Attended fanout number pending
      ({ fanout with registry := fanout.registry.adjust number Outlet.close },
        number :: pending)
  /-- Its worker is done. -/
  | passes (h : ∀ outlet, fanout.registry.outlets[number]? = some outlet →
      outlet.hasEnded = true) :
      Attended fanout number pending (fanout, pending)

theorem attended_of_attend? {σ α : Type} {fanout : Fanout σ α}
    {pending : List Nat} {result : Fanout σ α × List Nat}
    (h : attend? fanout number pending = some result) :
    Attended fanout number pending result := by
  unfold attend? at h
  split at h
  · rename_i hnone
    cases h
    refine .passes fun outlet houtlet => ?_
    rw [hnone] at houtlet
    cases houtlet
  · rename_i outlet houtlet
    split at h
    · cases h
      exact .closes
    · split at h
      · rename_i hended
        cases h
        refine .passes fun other hother => ?_
        rwa [← Option.some.inj (houtlet.symm.trans hother)]
      · cases h

theorem Attended.isAtRest {σ α : Type} {fanout : Fanout σ α}
    {pending : List Nat} {result : Fanout σ α × List Nat}
    (h : Attended fanout number pending result) :
    result.1.isAtRest = fanout.isAtRest := by
  cases h <;> rfl

theorem Attended.table {σ α : Type} {fanout : Fanout σ α}
    {pending : List Nat} {result : Fanout σ α × List Nat}
    (h : Attended fanout number pending result) :
    result.1.registry.table = fanout.registry.table := by
  cases h <;> rfl

/-- What a shutdown is waiting for, if there is one. -/
def phase? (proxy : Proxy) : Option ShutdownPhase :=
  proxy.shutdown.map (·.phase)

/-- What a shutdown may do in a step. -/
inductive ShutsDown (proxy : Proxy) : Proxy → Prop where
  | loopsRest (hphase : proxy.phase? = some .loops)
      (hpackets : proxy.packets.isAtRest = true)
      (hevents : proxy.events.isAtRest = true) (reported : Bool)
      (totals : List Stats.DispatchTotals) :
      ShutsDown proxy { proxy with
        reported, shutdown := some { phase := .sessions, totals } }
  | sessionsClosed (hphase : proxy.phase? = some .sessions)
      (hall : proxy.sessions.all (fun session =>
        !session.isListed || session.state == .closed) = true)
      (totals : List Stats.DispatchTotals) :
      ShutsDown proxy { proxy.prune with
        packets := { proxy.packets with
          registry := proxy.packets.registry.clear }
        shutdown := some {
          phase := .packetOutlets proxy.packets.registry.table.values
          totals } }
  | packets (number : Nat) (pending : List Nat)
      (hphase : proxy.phase? = some (.packetOutlets (number :: pending)))
      (result : Fanout PacketSink Packet × List Nat)
      (h : Attended proxy.packets number pending result)
      (totals : List Stats.DispatchTotals) :
      ShutsDown proxy { proxy with
        packets := result.1
        shutdown := some { phase := .packetOutlets result.2, totals } }
  | packetsDone (hphase : proxy.phase? = some (.packetOutlets []))
      (totals : List Stats.DispatchTotals) :
      ShutsDown proxy { proxy with
        events := { proxy.events with registry := proxy.events.registry.clear }
        shutdown := some {
          phase := .eventOutlets proxy.events.registry.table.values
          totals } }
  | events (number : Nat) (pending : List Nat)
      (hphase : proxy.phase? = some (.eventOutlets (number :: pending)))
      (result : Fanout EventSink Event × List Nat)
      (h : Attended proxy.events number pending result)
      (totals : List Stats.DispatchTotals) :
      ShutsDown proxy { proxy with
        events := result.1
        shutdown := some { phase := .eventOutlets result.2, totals } }
  | eventsDone (hphase : proxy.phase? = some (.eventOutlets []))
      (totals : List Stats.DispatchTotals) :
      ShutsDown proxy { proxy with
        shutdown := some { phase := .complete, totals } }

theorem shutsDown_of_shutdownStep? (h : proxy.shutdownStep? = some proxy') :
    ShutsDown proxy proxy' := by
  obtain ⟨⟨phase, totals⟩, hshutdown, h⟩ := Option.bind_eq_some_iff.mp h
  have hphase : proxy.phase? = some phase := by simp [phase?, hshutdown]
  dsimp only at h
  split at h
  · split at h
    · rename_i hrest
      obtain ⟨hpackets, hevents⟩ := Bool.and_eq_true_iff.mp hrest
      cases h
      exact .loopsRest hphase hpackets hevents _ _
    · cases h
  · split at h
    · rename_i hall
      cases h
      exact .sessionsClosed hphase hall totals
    · cases h
  · cases h
    exact .packetsDone hphase totals
  · rename_i number pending
    obtain ⟨result, hattend, hproxy⟩ := Option.bind_eq_some_iff.mp h
    cases hproxy
    exact .packets number pending hphase result (attended_of_attend? hattend)
      totals
  · cases h
    exact .eventsDone hphase totals
  · rename_i number pending
    obtain ⟨result, hattend, hproxy⟩ := Option.bind_eq_some_iff.mp h
    cases hproxy
    exact .events number pending hphase result (attended_of_attend? hattend)
      totals
  · cases h

/-! Changes of the registries. -/

/-- Both registries have been changed. -/
structure Edits (proxy proxy' : Proxy) : Prop where
  packets : proxy.packets.registry.Edits proxy'.packets.registry
  events : proxy.events.registry.Edits proxy'.events.registry

theorem Edits.of_eq
    (hpackets : proxy'.packets.registry = proxy.packets.registry)
    (hevents : proxy'.events.registry = proxy.events.registry) :
    proxy.Edits proxy' :=
  ⟨hpackets ▸ .refl _, hevents ▸ .refl _⟩

theorem Edits.trans (h : proxy.Edits proxy') (h' : proxy'.Edits proxy'') :
    proxy.Edits proxy'' :=
  ⟨Relation.ReflTransGen.trans h.packets h'.packets,
    Relation.ReflTransGen.trans h.events h'.events⟩

theorem Attended.edits {σ ω α : Type} [Sink σ ω α] {fanout : Fanout σ α}
    {pending : List Nat} {result : Fanout σ α × List Nat}
    (h : Attended fanout number pending result) :
    fanout.registry.Edits result.1.registry := by
  cases h with
  | closes => exact (Registry.Edit.close number).edits
  | passes => exact .refl _

theorem ShutsDown.edits (h : ShutsDown proxy proxy') : proxy.Edits proxy' := by
  cases h with
  | loopsRest | eventsDone => exact .of_eq rfl rfl
  | sessionsClosed => exact ⟨Registry.Edit.clear.edits, .refl _⟩
  | packets number pending hphase result h => exact ⟨h.edits, .refl _⟩
  | packetsDone => exact ⟨.refl _, Registry.Edit.clear.edits⟩
  | events number pending hphase result h => exact ⟨.refl _, h.edits⟩

/-- All that steps other than those of a shutdown do to the registries, the
loops and the shutdown. -/
structure Advances (proxy proxy' : Proxy) : Prop extends
    Edits proxy proxy' where
  packetsRest : proxy.packets.isAtRest = true → proxy'.packets.isAtRest = true
  eventsRest : proxy.events.isAtRest = true → proxy'.events.isAtRest = true
  shutdown : proxy'.shutdown = proxy.shutdown

namespace Advances

theorem of_edits (h : proxy.Edits proxy')
    (hpackets : proxy'.packets.loop = proxy.packets.loop)
    (hevents : proxy'.events.loop = proxy.events.loop)
    (hshutdown : proxy'.shutdown = proxy.shutdown) :
    proxy.Advances proxy' where
  toEdits := h
  packetsRest := by rw [Fanout.isAtRest_congr hpackets]; exact id
  eventsRest := by rw [Fanout.isAtRest_congr hevents]; exact id
  shutdown := hshutdown

theorem of_eq (hpackets : proxy'.packets.registry = proxy.packets.registry)
    (hevents : proxy'.events.registry = proxy.events.registry)
    (hpacketLoop : proxy'.packets.loop = proxy.packets.loop)
    (heventLoop : proxy'.events.loop = proxy.events.loop)
    (hshutdown : proxy'.shutdown = proxy.shutdown) : proxy.Advances proxy' :=
  .of_edits (.of_eq hpackets hevents) hpacketLoop heventLoop hshutdown

theorem trans (h : proxy.Advances proxy') (h' : proxy'.Advances proxy'') :
    proxy.Advances proxy'' where
  toEdits := h.toEdits.trans h'.toEdits
  packetsRest := h'.packetsRest ∘ h.packetsRest
  eventsRest := h'.eventsRest ∘ h.eventsRest
  shutdown := h'.shutdown.trans h.shutdown

end Advances

theorem advances_openChannel (proxy : Proxy) (number : Nat) (session : Session)
    (channel : Nat) :
    proxy.Advances (proxy.openChannel number session channel) := by
  have hopens := proxy.openChannel_spec number session channel
  generalize proxy.openChannel number session channel = result at hopens ⊢
  cases hopens with
  | further => exact .of_eq rfl rfl rfl rfl rfl
  | trackRefused =>
      exact .of_edits ⟨(Registry.Edit.register ..).edits, .refl _⟩ rfl rfl rfl
  | channelRefused | established =>
      exact .of_edits ⟨(Registry.Edit.register ..).edits,
        (Registry.Edit.register ..).edits⟩ rfl rfl rfl

theorem advances_closeSession (proxy : Proxy) (number : Nat)
    (session : Session) (reason : CloseReason) :
    proxy.Advances (proxy.closeSession number session reason) :=
  .of_edits ⟨(Registry.Edit.unregister session.id).edits,
    (Registry.Edit.unregister session.id).edits⟩ rfl rfl rfl

theorem advances_supervise? {trigger : Trigger}
    (h : proxy.supervise? number trigger = some proxy') :
    proxy.Advances proxy' := by
  obtain ⟨session, -, -, hact⟩ := supervises_of_supervise? h
  have hheard (link : Link) :
      proxy.Advances (proxy.adjustLink number fun _ => link) :=
    .of_eq rfl rfl rfl rfl rfl
  cases hact with
  | stopped | requested | dropped => exact advances_closeSession ..
  | opens link link' => exact (hheard link').trans (advances_openChannel ..)
  | fails link link' => exact (hheard link').trans (advances_closeSession ..)
  | goesOn link link' => exact hheard link'

theorem advances_read? (h : proxy.read? number = some proxy') :
    proxy.Advances proxy' := by
  obtain ⟨session, channel, -, -, hread⟩ := readsOn_of_read? h
  cases hread with
  | ended | event | skipped => exact .of_eq rfl rfl rfl rfl rfl

/-- The step of a loop, which is not at rest then. -/
theorem advances_packets {packets : Fanout PacketSink Packet}
    (h : proxy.packets.registry.Edits packets.registry)
    (hbusy : proxy.packets.isAtRest = false) :
    proxy.Advances { proxy with packets := closeUnread packets } where
  packets := by
    rw [show ({ proxy with packets := closeUnread packets } :
      Proxy).packets.registry = packets.registry from registry_closeUnread _]
    exact h
  events := .refl _
  packetsRest hrest := by rw [hbusy] at hrest; cases hrest
  eventsRest := id
  shutdown := rfl

theorem advances_events {events : Fanout EventSink Event}
    (h : proxy.events.registry.Edits events.registry)
    (hbusy : proxy.events.isAtRest = false) :
    proxy.Advances { proxy with events := closeUnread events } where
  packets := .refl _
  events := by
    rw [show ({ proxy with events := closeUnread events } :
      Proxy).events.registry = events.registry from registry_closeUnread _]
    exact h
  packetsRest := id
  eventsRest hrest := by rw [hbusy] at hrest; cases hrest
  shutdown := rfl

theorem advances_dispatch? {stream : Stream}
    (h : proxy.dispatch? stream = some proxy') : proxy.Advances proxy' := by
  cases stream with
  | rtp =>
      obtain ⟨packets, hstep, hproxy⟩ := Option.bind_eq_some_iff.mp h
      cases hproxy
      exact advances_packets (Fanout.edits_step? hstep)
        (Fanout.isAtRest_of_step? hstep)
  | event =>
      obtain ⟨events, hstep, hproxy⟩ := Option.bind_eq_some_iff.mp h
      cases hproxy
      exact advances_events (Fanout.edits_step? hstep)
        (Fanout.isAtRest_of_step? hstep)

theorem advances_heedStop? {stream : Stream}
    (h : proxy.heedStop? stream = some proxy') : proxy.Advances proxy' := by
  unfold heedStop? at h
  split at h
  · cases stream with
    | rtp =>
        obtain ⟨packets, hstop, hproxy⟩ := Option.bind_eq_some_iff.mp h
        cases hproxy
        refine advances_packets ?_ (Fanout.isAtRest_of_stop? hstop)
        rw [Fanout.registry_stop? hstop]
        exact .refl _
    | event =>
        obtain ⟨events, hstop, hproxy⟩ := Option.bind_eq_some_iff.mp h
        cases hproxy
        refine advances_events ?_ (Fanout.isAtRest_of_stop? hstop)
        rw [Fanout.registry_stop? hstop]
        exact .refl _
  · cases h

theorem advances_work? {stream : Stream}
    (h : proxy.work? number stream = some proxy') : proxy.Advances proxy' := by
  cases stream with
  | rtp =>
      obtain ⟨⟨packets, scene⟩, hwork, hproxy⟩ :=
        Option.bind_eq_some_iff.mp h
      cases hproxy
      obtain ⟨_, _, _, _, rfl⟩ := Fanout.eq_of_work? hwork
      exact .of_edits ⟨Fanout.edits_work? hwork, .refl _⟩ rfl rfl rfl
  | event =>
      obtain ⟨⟨events, scene⟩, hwork, hproxy⟩ :=
        Option.bind_eq_some_iff.mp h
      cases hproxy
      obtain ⟨_, _, _, _, rfl⟩ := Fanout.eq_of_work? hwork
      exact .of_edits ⟨.refl _, Fanout.edits_work? hwork⟩ rfl rfl rfl

theorem advances_step? {actor : Actor} (hactor : actor ≠ .shutdown)
    (h : proxy.step? actor = some proxy') : proxy.Advances proxy' := by
  cases actor with
  | stoppedLoop stream => exact advances_heedStop? h
  | loop stream => exact advances_dispatch? h
  | session number trigger => exact advances_supervise? h
  | reader number => exact advances_read? h
  | worker stream outlet => exact advances_work? h
  | shutdown => exact absurd rfl hactor

theorem edits_step? {actor : Actor} (h : proxy.step? actor = some proxy') :
    proxy.Edits proxy' := by
  by_cases hactor : actor = .shutdown
  · subst hactor
    exact (shutsDown_of_shutdownStep? h).edits
  · exact (advances_step? hactor h).toEdits

/-! Whole runs. -/

theorem edits_logStream (id : SessionId) (name : String) (capacity : Nat)
    (stream : Stream) :
    proxy.Edits (proxy.logStream id name capacity stream).1 := by
  cases stream with
  | rtp => exact ⟨(Registry.Edit.register ..).edits, .refl _⟩
  | event => exact ⟨.refl _, (Registry.Edit.register ..).edits⟩

theorem edits_unregister (id : SessionId) (stream : Stream) :
    proxy.Edits (proxy.unregister id stream).1 := by
  cases stream with
  | rtp => exact ⟨(Registry.Edit.unregister id).edits, .refl _⟩
  | event => exact ⟨.refl _, (Registry.Edit.unregister id).edits⟩

theorem untouched_initiate (offer : Description) (id : SessionId) :
    (proxy.initiate offer id).1.packets.registry = proxy.packets.registry ∧
    (proxy.initiate offer id).1.events.registry = proxy.events.registry ∧
    (proxy.initiate offer id).1.shutdown = proxy.shutdown := by
  unfold initiate
  split
  · exact ⟨rfl, rfl, rfl⟩
  · dsimp only
    split <;> exact ⟨rfl, rfl, rfl⟩

theorem untouched_start :
    proxy.start.1.packets.registry = proxy.packets.registry ∧
    proxy.start.1.events.registry = proxy.events.registry ∧
    proxy.start.1.shutdown = proxy.shutdown := by
  unfold start
  split <;> exact ⟨rfl, rfl, rfl⟩

theorem Step.edits (h : Step proxy proxy') : proxy.Edits proxy' := by
  cases h with
  | act actor h => exact edits_step? h
  | initiate offer id =>
      obtain ⟨hpackets, hevents, -⟩ := untouched_initiate offer id
      exact .of_eq hpackets hevents
  | logStream id name capacity stream => exact edits_logStream ..
  | unregister id stream => exact edits_unregister id stream
  | start =>
      obtain ⟨hpackets, hevents, -⟩ := proxy.untouched_start
      exact .of_eq hpackets hevents
  | _ => exact .of_eq rfl rfl

theorem Run.edits {settings : ProxySettings} {rtpSource eventSource : Nat}
    {past : List Proxy}
    (h : Run settings rtpSource eventSource (proxy :: past)) :
    (Proxy.create settings rtpSource eventSource).Edits proxy := by
  generalize hrun : proxy :: past = run at h
  induction h generalizing proxy past with
  | create =>
      cases hrun
      exact .of_eq rfl rfl
  | step _ hstep ih =>
      cases hrun
      exact (ih rfl).trans hstep.edits

end Proxy

end LanRelay
