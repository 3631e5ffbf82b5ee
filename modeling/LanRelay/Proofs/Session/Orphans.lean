/-
No outlet of the proxy is left open with nobody to close it.

Outlets are registered and removed under any identifier, by sessions, by log
sinks, by the loops and by a shutdown. In between, each outlet that was ever
handed to a registry is in its table, or a shutdown that is under way has yet
to close it, or it is closed.

Main statements: `Proxy.SinkStep.keeps`, which goes through all that may be
done, and `no_outlet_is_orphaned`.
-/
import LanRelay.Proofs.Session.Lifecycle
import LanRelay.Proofs.Session.Registration
import Mathlib.Logic.Relation

namespace LanRelay

open Rtp (Packet)

/-! Outlets that a shutdown has taken out. -/

namespace ShutdownPhase

def takenPackets : ShutdownPhase → List Nat
  | packetOutlets pending => pending
  | loops | sessions | eventOutlets _ | complete => []

def takenEvents : ShutdownPhase → List Nat
  | eventOutlets pending => pending
  | loops | sessions | packetOutlets _ | complete => []

end ShutdownPhase

namespace Proxy

/-- The outlets of packets that a shutdown has yet to close, or to see end. -/
def takenPackets (proxy : Proxy) : List Nat :=
  (proxy.shutdown.map (·.phase.takenPackets)).getD []

def takenEvents (proxy : Proxy) : List Nat :=
  (proxy.shutdown.map (·.phase.takenEvents)).getD []

/-- Both registries keep their outlets, and let none out of the table open. -/
structure Keeps (proxy proxy' : Proxy) : Prop where
  packets : Registry.Keeps proxy.takenPackets proxy'.takenPackets
    proxy.packets.registry proxy'.packets.registry
  events : Registry.Keeps proxy.takenEvents proxy'.takenEvents
    proxy.events.registry proxy'.events.registry

variable {proxy proxy' proxy'' : Proxy} {number : Nat}

namespace Keeps

theorem refl (proxy : Proxy) : proxy.Keeps proxy :=
  ⟨.refl _ _, .refl _ _⟩

theorem trans (h : proxy.Keeps proxy') (h' : proxy'.Keeps proxy'') :
    proxy.Keeps proxy'' :=
  ⟨h.packets.trans h'.packets, h.events.trans h'.events⟩

/-- A change of the registries while no shutdown goes on. -/
theorem of_registries
    (hpackets : ∀ taken, Registry.Keeps taken taken proxy.packets.registry
      proxy'.packets.registry)
    (hevents : ∀ taken, Registry.Keeps taken taken proxy.events.registry
      proxy'.events.registry)
    (hshutdown : proxy'.shutdown = proxy.shutdown) : proxy.Keeps proxy' := by
  constructor
  · rw [takenPackets, takenPackets, hshutdown]
    exact hpackets _
  · rw [takenEvents, takenEvents, hshutdown]
    exact hevents _

theorem of_eq (hpackets : proxy'.packets.registry = proxy.packets.registry)
    (hevents : proxy'.events.registry = proxy.events.registry)
    (hshutdown : proxy'.shutdown = proxy.shutdown) : proxy.Keeps proxy' := by
  apply of_registries _ _ hshutdown
  · intro taken
    rw [hpackets]
    exact .refl _ _
  · intro taken
    rw [hevents]
    exact .refl _ _

theorem of_packets {packets : Fanout PacketSink Packet}
    (h : ∀ taken, Registry.Keeps taken taken proxy.packets.registry
      packets.registry) : proxy.Keeps { proxy with packets } :=
  of_registries h (fun _ => .refl _ _) rfl

theorem of_events {events : Fanout EventSink Event}
    (h : ∀ taken, Registry.Keeps taken taken proxy.events.registry
      events.registry) : proxy.Keeps { proxy with events } :=
  of_registries (fun _ => .refl _ _) h rfl

end Keeps

/-! Sessions and log sinks. -/

theorem keeps_unregister (id : SessionId) (stream : Stream) :
    proxy.Keeps (proxy.unregister id stream).1 := by
  cases stream with
  | rtp => exact .of_packets fun _ => .of_tended (Registry.tended_unregister id)
  | event => exact .of_events fun _ => .of_tended (Registry.tended_unregister id)

theorem keeps_logStream (id : SessionId) (name : String) (capacity : Nat)
    (stream : Stream) :
    proxy.Keeps (proxy.logStream id name capacity stream).1 := by
  cases stream with
  | rtp => exact .of_packets fun _ => .register ..
  | event => exact .of_events fun _ => .register ..

theorem keeps_attachLog (proxy : Proxy) : proxy.Keeps proxy.attachLog.1 := by
  unfold attachLog
  dsimp only
  split
  · rename_i first fault hfirst
    have hkeeps := proxy.keeps_logStream logId logId
      proxy.settings.sinks.rtpCapacity.toNat .rtp
    rwa [hfirst] at hkeeps
  · rename_i first taken hfirst
    have hkeeps := proxy.keeps_logStream logId logId
      proxy.settings.sinks.rtpCapacity.toNat .rtp
    have hthen := first.keeps_logStream logId logId
      proxy.settings.sinks.eventCapacity.toNat .event
    rw [hfirst] at hkeeps
    split
    · rename_i second fault hsecond
      rw [hsecond] at hthen
      exact (hkeeps.trans hthen).trans (second.keeps_unregister logId .rtp)
    · rename_i second served hsecond
      rw [hsecond] at hthen
      exact hkeeps.trans hthen

theorem keeps_openChannel (proxy : Proxy) (number : Nat) (session : Session)
    (channel : Nat) :
    proxy.Keeps (proxy.openChannel number session channel) := by
  have hopens := proxy.openChannel_spec number session channel
  generalize proxy.openChannel number session channel = result at hopens ⊢
  cases hopens with
  | further => exact .of_eq rfl rfl rfl
  | trackRefused =>
      exact .of_registries (fun _ => .register ..) (fun _ => .refl _ _) rfl
  | channelRefused =>
      exact .of_registries (fun _ => .register ..) (fun _ => .register ..) rfl
  | established =>
      exact .of_registries (fun _ => .register ..) (fun _ => .register ..) rfl

theorem keeps_closeSession (proxy : Proxy) (number : Nat) (session : Session)
    (reason : CloseReason) :
    proxy.Keeps (proxy.closeSession number session reason) :=
  .of_registries (fun _ => .of_tended (Registry.tended_unregister _))
    (fun _ => .of_tended (Registry.tended_unregister _)) rfl

theorem keeps_supervise? {trigger : Trigger}
    (h : proxy.supervise? number trigger = some proxy') :
    proxy.Keeps proxy' := by
  obtain ⟨session, -, -, hact⟩ := supervises_of_supervise? h
  have hheard (link : Link) :
      proxy.Keeps (proxy.adjustLink number fun _ => link) := .of_eq rfl rfl rfl
  cases hact with
  | stopped | requested | dropped => exact keeps_closeSession ..
  | opens link link' => exact (hheard link').trans (keeps_openChannel ..)
  | fails link link' => exact (hheard link').trans (keeps_closeSession ..)
  | goesOn link link' => exact hheard link'

theorem keeps_read? (h : proxy.read? number = some proxy') :
    proxy.Keeps proxy' := by
  obtain ⟨session, channel, -, -, hread⟩ := readsOn_of_read? h
  cases hread with
  | ended | event | skipped => exact .of_eq rfl rfl rfl

/-! Loops and workers. -/

theorem keeps_heedStop? {stream : Stream}
    (h : proxy.heedStop? stream = some proxy') : proxy.Keeps proxy' := by
  unfold heedStop? at h
  split at h
  · cases stream with
    | rtp =>
        obtain ⟨packets, hstop, hproxy⟩ := Option.bind_eq_some_iff.mp h
        cases hproxy
        refine .of_eq ?_ rfl rfl
        exact (registry_closeUnread _).trans (Fanout.registry_stop? hstop)
    | event =>
        obtain ⟨events, hstop, hproxy⟩ := Option.bind_eq_some_iff.mp h
        cases hproxy
        refine .of_eq rfl ?_ rfl
        exact (registry_closeUnread _).trans (Fanout.registry_stop? hstop)
  · cases h

theorem keeps_dispatch? {stream : Stream}
    (h : proxy.dispatch? stream = some proxy') : proxy.Keeps proxy' := by
  cases stream with
  | rtp =>
      obtain ⟨packets, hstep, hproxy⟩ := Option.bind_eq_some_iff.mp h
      cases hproxy
      apply Keeps.of_packets
      intro taken
      rw [registry_closeUnread]
      exact .of_tended (Fanout.tended_step? hstep)
  | event =>
      obtain ⟨events, hstep, hproxy⟩ := Option.bind_eq_some_iff.mp h
      cases hproxy
      apply Keeps.of_events
      intro taken
      rw [registry_closeUnread]
      exact .of_tended (Fanout.tended_step? hstep)

theorem keeps_work? {stream : Stream}
    (h : proxy.work? number stream = some proxy') : proxy.Keeps proxy' := by
  cases stream with
  | rtp =>
      obtain ⟨⟨packets, scene⟩, hwork, hproxy⟩ :=
        Option.bind_eq_some_iff.mp h
      cases hproxy
      refine .of_registries (fun _ => .of_tended ?_) (fun _ => .refl _ _) rfl
      exact Fanout.tended_work? ⟨fun _ => rfl, fun _ => rfl, fun _ => rfl⟩
        hwork
  | event =>
      obtain ⟨⟨events, scene⟩, hwork, hproxy⟩ :=
        Option.bind_eq_some_iff.mp h
      cases hproxy
      refine .of_registries (fun _ => .refl _ _) (fun _ => .of_tended ?_) rfl
      exact Fanout.tended_work? ⟨fun _ => rfl, fun _ => rfl, fun _ => rfl⟩
        hwork

/-! Shutdowns. -/

/-- A shutdown passes on from an outlet once it is closed. -/
theorem keeps_attend? {σ α : Type} {fanout fanout' : Fanout σ α}
    {pending pending' : List Nat}
    (h : attend? fanout number pending = some (fanout', pending')) :
    Registry.Keeps (number :: pending) pending' fanout.registry
      fanout'.registry := by
  unfold attend? at h
  split at h
  · rename_i hnone
    cases h
    refine .settle fun outlet houtlet => ?_
    rw [hnone] at houtlet
    cases houtlet
  · rename_i outlet houtlet
    split at h
    · cases h
      exact .of_tended
        (Registry.tended_adjust fun outlet _ => outlet.later_close)
    · rename_i hclosed
      split at h
      · cases h
        refine .settle fun other hother => ?_
        obtain rfl := Option.some.inj (houtlet.symm.trans hother)
        simpa using hclosed
      · cases h

theorem keeps_shutdownStep? (h : proxy.shutdownStep? = some proxy') :
    proxy.Keeps proxy' := by
  obtain ⟨shutdown, hshutdown, h⟩ := Option.bind_eq_some_iff.mp h
  have hpackets : proxy.takenPackets = shutdown.phase.takenPackets := by
    simp [takenPackets, hshutdown]
  have hevents : proxy.takenEvents = shutdown.phase.takenEvents := by
    simp [takenEvents, hshutdown]
  dsimp only at h
  split at h
  · rename_i hphase
    rw [hphase] at hpackets hevents
    split at h
    · cases h
      exact ⟨hpackets ▸ .refl _ _, hevents ▸ .refl _ _⟩
    · cases h
  · rename_i hphase
    rw [hphase] at hpackets hevents
    split at h
    · cases h
      exact ⟨hpackets ▸ .clear _, hevents ▸ .refl _ _⟩
    · cases h
  · rename_i hphase
    rw [hphase] at hpackets hevents
    cases h
    exact ⟨hpackets ▸ .refl _ _, hevents ▸ .clear _⟩
  · rename_i number pending hphase
    obtain ⟨⟨packets, pending'⟩, hattend, hproxy⟩ :=
      Option.bind_eq_some_iff.mp h
    rw [hphase] at hpackets hevents
    cases hproxy
    exact ⟨hpackets ▸ keeps_attend? hattend, hevents ▸ .refl _ _⟩
  · rename_i hphase
    rw [hphase] at hpackets hevents
    cases h
    exact ⟨hpackets ▸ .refl _ _, hevents ▸ .refl _ _⟩
  · rename_i number pending hphase
    obtain ⟨⟨events, pending'⟩, hattend, hproxy⟩ :=
      Option.bind_eq_some_iff.mp h
    rw [hphase] at hpackets hevents
    cases hproxy
    exact ⟨hpackets ▸ .refl _ _, hevents ▸ keeps_attend? hattend⟩
  · cases h

theorem keeps_step? {actor : Actor} (h : proxy.step? actor = some proxy') :
    proxy.Keeps proxy' := by
  cases actor with
  | stoppedLoop stream => exact keeps_heedStop? h
  | loop stream => exact keeps_dispatch? h
  | session number trigger => exact keeps_supervise? h
  | reader number => exact keeps_read? h
  | worker stream outlet => exact keeps_work? h
  | shutdown => exact keeps_shutdownStep? h

/-- Only a shutdown that removes what is registered has outlets to close. -/
theorem taken_eq_nil (h : ∀ shutdown, proxy.shutdown = some shutdown →
    shutdown.phase.isClearing = false) :
    proxy.takenPackets = [] ∧ proxy.takenEvents = [] := by
  cases hshutdown : proxy.shutdown with
  | none => simp [takenPackets, takenEvents, hshutdown]
  | some shutdown =>
      have hphase := h shutdown hshutdown
      simp only [takenPackets, takenEvents, hshutdown, Option.map_some,
        Option.getD_some]
      cases hcase : shutdown.phase with
      | packetOutlets | eventOutlets =>
          rw [hcase] at hphase
          cases hphase
      | _ => exact ⟨rfl, rfl⟩

/-! All that may be done. -/

def registerPackets (proxy : Proxy) (id : SessionId)
    (outlet : Outlet PacketSink Packet) : Proxy :=
  { proxy with packets := { proxy.packets with
      registry := (proxy.packets.registry.register id outlet).1 } }

def registerEvents (proxy : Proxy) (id : SessionId)
    (outlet : Outlet EventSink Event) : Proxy :=
  { proxy with events := { proxy.events with
      registry := (proxy.events.registry.register id outlet).1 } }

/-- Remove and close all outlets of a stream. -/
def closeAll (proxy : Proxy) : Stream → Proxy
  | .rtp =>
      { proxy with packets := { proxy.packets with
          registry := proxy.packets.registry.closeAll } }
  | .event =>
      { proxy with events := { proxy.events with
          registry := proxy.events.registry.closeAll } }

/-- What may be done to the registries of a proxy, under any identifier and in
any order. -/
inductive SinkStep (proxy : Proxy) : Proxy → Prop where
  | registerPackets (id : SessionId) (outlet : Outlet PacketSink Packet) :
      SinkStep proxy (proxy.registerPackets id outlet)
  | registerEvents (id : SessionId) (outlet : Outlet EventSink Event) :
      SinkStep proxy (proxy.registerEvents id outlet)
  | unregister (id : SessionId) (stream : Stream) :
      SinkStep proxy (proxy.unregister id stream).1
  | attachLog : SinkStep proxy proxy.attachLog.1
  | closeAll (stream : Stream) : SinkStep proxy (proxy.closeAll stream)
  /-- A loop, a worker, a session, a reader or a shutdown takes a step. -/
  | act (actor : Actor) {proxy' : Proxy}
      (h : proxy.step? actor = some proxy') : SinkStep proxy proxy'
  /-- No other shutdown has outlets left to close. -/
  | beginShutdown (h : ∀ shutdown, proxy.shutdown = some shutdown →
      shutdown.phase.isClearing = false) :
      SinkStep proxy proxy.beginShutdown
  /-- Anything that is not about the registries. -/
  | elsewhere (proxy' : Proxy)
      (hpackets : proxy'.packets.registry = proxy.packets.registry)
      (hevents : proxy'.events.registry = proxy.events.registry)
      (hshutdown : proxy'.shutdown = proxy.shutdown) : SinkStep proxy proxy'

theorem SinkStep.keeps (h : SinkStep proxy proxy') : proxy.Keeps proxy' := by
  cases h with
  | registerPackets id outlet => exact .of_packets fun _ => .register ..
  | registerEvents id outlet => exact .of_events fun _ => .register ..
  | unregister id stream => exact keeps_unregister ..
  | attachLog => exact keeps_attachLog ..
  | closeAll stream =>
      cases stream with
      | rtp => exact .of_packets fun _ => .closeAll ..
      | event => exact .of_events fun _ => .closeAll ..
  | act actor h => exact keeps_step? h
  | beginShutdown h =>
      obtain ⟨hpackets, hevents⟩ := taken_eq_nil h
      exact ⟨hpackets ▸ .refl _ _, hevents ▸ .refl _ _⟩
  | elsewhere proxy' hpackets hevents hshutdown =>
      exact .of_eq hpackets hevents hshutdown

/-- The later proxy comes of the earlier one by such steps. -/
def SinkSteps : Proxy → Proxy → Prop := Relation.ReflTransGen SinkStep

theorem SinkSteps.keeps (h : SinkSteps proxy proxy') : proxy.Keeps proxy' := by
  induction h with
  | refl => exact .refl _
  | tail _ hstep ih => exact ih.trans hstep.keeps

/-- However outlets are registered and removed: registering is refused if and
only if the identifier is in the table, and removing takes out that one entry;
if log sinks cannot be attached, both tables are as before; and whatever was
handed to a registry is in its table, or about to be closed by a shutdown that
is under way, or is closed and drains. -/
theorem no_outlet_is_orphaned {settings : ProxySettings}
    {rtpSource eventSource : Nat}
    (hrun : SinkSteps (create settings rtpSource eventSource) proxy)
    (hlater : SinkSteps proxy proxy') :
    proxy.packets.registry.Lawful ∧ proxy.events.registry.Lawful ∧
    (∀ fault, proxy.attachLog.2 = .error fault →
      proxy.attachLog.1.packets.registry.table =
          proxy.packets.registry.table ∧
        proxy.attachLog.1.events.registry.table =
          proxy.events.registry.table) ∧
    (∀ number outlet, proxy.packets.registry.outlets[number]? = some outlet →
      ∃ outlet', proxy'.packets.registry.outlets[number]? = some outlet' ∧
        (number ∈ proxy'.packets.registry.table.values ∨
          number ∈ proxy'.takenPackets ∨ outlet'.Drains)) ∧
    (∀ number outlet, proxy.events.registry.outlets[number]? = some outlet →
      ∃ outlet', proxy'.events.registry.outlets[number]? = some outlet' ∧
        (number ∈ proxy'.events.registry.table.values ∨
          number ∈ proxy'.takenEvents ∨ outlet'.Drains)) ∧
    ((∀ shutdown, proxy'.shutdown = some shutdown →
        shutdown.phase.isClearing = false) →
      proxy'.takenPackets = [] ∧ proxy'.takenEvents = []) := by
  have hkeeps := hlater.keeps
  have hall := hrun.keeps.trans hkeeps
  have hpackets : proxy'.packets.registry.Accounted proxy'.takenPackets := by
    apply hall.packets.accounted
    intro number outlet houtlet
    cases houtlet
  have hevents : proxy'.events.registry.Accounted proxy'.takenEvents := by
    apply hall.events.accounted
    intro number outlet houtlet
    cases houtlet
  refine ⟨Registry.lawful _, Registry.lawful _, ?_, ?_, ?_, taken_eq_nil⟩
  · intro fault herror
    rcases proxy.attachLog_cases with ⟨hok, -⟩ | ⟨-, -, htables⟩
    · rw [hok] at herror
      cases herror
    · exact htables
  · intro number outlet houtlet
    obtain ⟨outlet', houtlet', -⟩ :=
      hkeeps.packets.stays number outlet houtlet
    refine ⟨outlet', houtlet', ?_⟩
    exact (hpackets number outlet' houtlet').imp_right
      (Or.imp_right Outlet.drains_of_isClosed)
  · intro number outlet houtlet
    obtain ⟨outlet', houtlet', -⟩ := hkeeps.events.stays number outlet houtlet
    refine ⟨outlet', houtlet', ?_⟩
    exact (hevents number outlet' houtlet').imp_right
      (Or.imp_right Outlet.drains_of_isClosed)

def spareOutlet : Outlet PacketSink Packet :=
  .create "spare" 4 .dropNewest (.log "spare" 0)

/-- Two outlets are registered under one identifier. -/
def twiceRegistered : Proxy :=
  ((create sampleSettings 4 4).registerPackets "a" spareOutlet).registerPackets
    "a" spareOutlet

/-- The second outlet is refused, and the first one is removed later on. -/
theorem no_outlet_is_orphaned_of_sample :
    SinkSteps (create sampleSettings 4 4) twiceRegistered ∧
      SinkSteps twiceRegistered (twiceRegistered.unregister "a" .rtp).1 ∧
      ∀ number < 2, ∃ outlet,
        (twiceRegistered.unregister "a" .rtp).1.packets.registry.outlets[
          number]? = some outlet ∧ outlet.Drains := by
  have hrun : SinkSteps (create sampleSettings 4 4) twiceRegistered :=
    (Relation.ReflTransGen.single (.registerPackets "a" spareOutlet)).tail
      (.registerPackets "a" spareOutlet)
  have hlater : SinkSteps twiceRegistered
      (twiceRegistered.unregister "a" .rtp).1 :=
    Relation.ReflTransGen.single (.unregister "a" .rtp)
  refine ⟨hrun, hlater, fun number hnumber => ?_⟩
  obtain ⟨-, -, -, hpackets, -⟩ := no_outlet_is_orphaned hrun hlater
  obtain ⟨outlet, houtlet, hplace⟩ := hpackets number _
    (List.getElem?_eq_getElem hnumber)
  refine ⟨outlet, houtlet, ?_⟩
  rcases hplace with hlisted | htaken | hdrains
  · cases hlisted
  · cases htaken
  · exact hdrains

end Proxy

end LanRelay
