/-
Every outlet of a proxy has room for an item, whatever happens.

An outlet is as large as it was made. The outlets of sessions and of the log are
as large as the settings say, and others make theirs with room.

Main statement: `Proxy.Becomes.hasRoom`.
-/
import LanRelay.Proofs.Flow.Contention
import LanRelay.Proofs.Session.Ledger

namespace LanRelay

open Rtp (Packet)

variable {σ ω α : Type}

/-! Queues and registries. -/

theorem Queue.capacity_trySend (queue : Queue α) (item : α) :
    (queue.trySend item).1.capacity = queue.capacity := by
  unfold trySend
  split
  · split <;> rfl
  · rfl

theorem Queue.capacity_offer (policy : DropPolicy) (queue : Queue α)
    (item : α) : (queue.offer policy item).1.capacity = queue.capacity := by
  have hfirst := queue.capacity_trySend item
  rcases hsend : queue.trySend item with ⟨queue₁, sent⟩
  rw [hsend] at hfirst
  cases sent with
  | queued | closed => simpa only [offer, hsend] using hfirst
  | full =>
      cases policy with
      | dropNewest => simpa only [offer, hsend] using hfirst
      | dropOldest =>
          have hsecond := queue₁.receive.1.capacity_trySend item
          rcases hagain : queue₁.receive.1.trySend item with ⟨queue₂, sent⟩
          rw [hagain, queue₁.capacity_receive] at hsecond
          cases sent <;>
            simpa only [offer, hsend, hagain] using hsecond.trans hfirst

namespace Outlet

theorem capacity_offer (outlet : Outlet σ α) (item : α) :
    (outlet.offer item).1.queue.capacity = outlet.queue.capacity :=
  outlet.queue.capacity_offer outlet.policy item

theorem capacity_of_work? [Sink σ ω α] {outlet : Outlet σ α} {world : ω}
    {result : Outlet σ α × ω} (h : outlet.work? world = some result) :
    result.1.queue.capacity = outlet.queue.capacity := by
  cases works_of_work? h <;> rfl

end Outlet

/-- Every outlet has room, also those that are not registered any more. -/
def Registry.HasRoom (registry : Registry σ α) : Prop :=
  ∀ outlet ∈ registry.outlets, 0 < outlet.queue.capacity

namespace Registry.HasRoom

variable {registry registry' : Registry σ α}

theorem iff_capacities : registry.HasRoom ↔
    ∀ capacity ∈ registry.outlets.map (·.queue.capacity), 0 < capacity := by
  simp [HasRoom]

/-- The outlets are as large as they were. -/
theorem of_capacities (h : registry.HasRoom)
    (hcapacities : registry'.outlets.map (·.queue.capacity) =
      registry.outlets.map (·.queue.capacity)) : registry'.HasRoom := by
  rw [iff_capacities] at h ⊢
  rwa [hcapacities]

theorem register (h : registry.HasRoom) (id : SessionId)
    {outlet : Outlet σ α} (hroom : 0 < outlet.queue.capacity) :
    (registry.register id outlet).1.HasRoom := by
  rw [iff_capacities] at h ⊢
  rw [registry.map_register id rfl]
  intro capacity hcapacity
  rcases List.mem_append.mp hcapacity with hold | hnew
  · exact h capacity hold
  · rwa [List.mem_singleton.mp hnew]

theorem unregister (h : registry.HasRoom) (id : SessionId) :
    (registry.unregister id).1.HasRoom :=
  h.of_capacities (registry.unregister_outlets id fun _ => rfl)

theorem adjust_close (h : registry.HasRoom) (number : Nat) :
    (registry.adjust number Outlet.close).HasRoom :=
  h.of_capacities (registry.map_adjust number fun _ => rfl)

theorem offer (h : registry.HasRoom) (number : Nat) (item : α) :
    (registry.offer number item).1.HasRoom := by
  unfold Registry.offer
  split
  · exact h
  · rename_i outlet houtlet
    exact h.of_capacities
      (map_set houtlet (outlet.capacity_offer item))

theorem step? {fanout fanout' : Fanout σ α} (h : fanout.registry.HasRoom)
    (hstep : fanout.step? = some fanout') : fanout'.registry.HasRoom := by
  unfold Fanout.step? at hstep
  split at hstep
  · cases hstep
  · cases hstep
  · rwa [Fanout.registry_take? hstep]
  · cases hstep
    exact h
  · cases hstep
    rw [Fanout.judge_registry]
    exact h.offer _ _
  · cases hstep
    exact h.unregister _

theorem work? [Sink σ ω α] {fanout fanout' : Fanout σ α} {number : Nat}
    {world world' : ω} (h : fanout.registry.HasRoom)
    (hwork : fanout.work? number world = some (fanout', world')) :
    fanout'.registry.HasRoom := by
  obtain ⟨outlet, outlet', houtlet, hstep, rfl⟩ := Fanout.eq_of_work? hwork
  exact h.of_capacities (map_set houtlet (Outlet.capacity_of_work? hstep))

end Registry.HasRoom

/-! The proxy. -/

namespace Proxy

variable {proxy proxy' : Proxy} {number : Nat} {session : Session}

/-- Every outlet has room, and the outlets that are yet to be made will. -/
structure HasRoom (proxy : Proxy) : Prop where
  rtpCapacity : 0 < proxy.settings.sinks.rtpCapacity.toNat
  eventCapacity : 0 < proxy.settings.sinks.eventCapacity.toNat
  packets : proxy.packets.registry.HasRoom
  events : proxy.events.registry.HasRoom

theorem hasRoom_create {settings : ProxySettings}
    (hrtp : 0 < settings.sinks.rtpCapacity.toNat)
    (hevent : 0 < settings.sinks.eventCapacity.toNat)
    (rtpSource eventSource : Nat) :
    (create settings rtpSource eventSource).HasRoom :=
  ⟨hrtp, hevent, fun _ h => absurd h List.not_mem_nil,
    fun _ h => absurd h List.not_mem_nil⟩

namespace HasRoom

/-- The registries are others. -/
theorem of_registries (h : proxy.HasRoom)
    (hsettings : proxy'.settings = proxy.settings)
    (hpackets : proxy'.packets.registry.HasRoom)
    (hevents : proxy'.events.registry.HasRoom) : proxy'.HasRoom :=
  ⟨hsettings ▸ h.rtpCapacity, hsettings ▸ h.eventCapacity, hpackets, hevents⟩

theorem closeSession (h : proxy.HasRoom) (number : Nat) (session : Session)
    (reason : CloseReason) :
    (proxy.closeSession number session reason).HasRoom :=
  h.of_registries rfl (h.packets.unregister _) (h.events.unregister _)

theorem openChannel (h : proxy.HasRoom) (number : Nat) (session : Session)
    (channel : Nat) : (proxy.openChannel number session channel).HasRoom := by
  have htrack :
      (proxy.registerTrack number session).1.packets.registry.HasRoom :=
    h.packets.register _ h.rtpCapacity
  have hchannel : ((proxy.registerTrack number session).1.registerChannel number
      session channel).1.events.registry.HasRoom :=
    h.events.register _ h.eventCapacity
  have hopens := proxy.openChannel_spec number session channel
  generalize proxy.openChannel number session channel = result at hopens ⊢
  cases hopens with
  | further => exact h.of_registries rfl h.packets h.events
  | trackRefused => exact h.of_registries rfl htrack h.events
  | channelRefused | established => exact h.of_registries rfl htrack hchannel

theorem supervise? {trigger : Trigger} (h : proxy.HasRoom)
    (hsupervise : proxy.supervise? number trigger = some proxy') :
    proxy'.HasRoom := by
  obtain ⟨session, -, -, hact⟩ := supervises_of_supervise? hsupervise
  have hheard (link : Link) :
      (proxy.adjustLink number fun _ => link).HasRoom :=
    h.of_registries rfl h.packets h.events
  cases hact with
  | stopped | requested | dropped => exact h.closeSession ..
  | opens link link' => exact (hheard link').openChannel ..
  | fails link link' => exact (hheard link').closeSession ..
  | goesOn link link' => exact hheard link'

theorem read? (h : proxy.HasRoom) (hread : proxy.read? number = some proxy') :
    proxy'.HasRoom := by
  obtain ⟨session, channel, -, -, hreads⟩ := readsOn_of_read? hread
  cases hreads with
  | ended | event | skipped => exact h.of_registries rfl h.packets h.events

theorem heedStop? {stream : Stream} (h : proxy.HasRoom)
    (hstop : proxy.heedStop? stream = some proxy') : proxy'.HasRoom := by
  unfold Proxy.heedStop? at hstop
  split at hstop
  · cases stream with
    | rtp =>
        obtain ⟨packets, hheed, hproxy⟩ := Option.bind_eq_some_iff.mp hstop
        cases hproxy
        refine h.of_registries rfl ?_ h.events
        rw [registry_closeUnread, Fanout.registry_stop? hheed]
        exact h.packets
    | event =>
        obtain ⟨events, hheed, hproxy⟩ := Option.bind_eq_some_iff.mp hstop
        cases hproxy
        refine h.of_registries rfl h.packets ?_
        rw [registry_closeUnread, Fanout.registry_stop? hheed]
        exact h.events
  · cases hstop

theorem dispatch? {stream : Stream} (h : proxy.HasRoom)
    (hstep : proxy.dispatch? stream = some proxy') : proxy'.HasRoom := by
  cases stream with
  | rtp =>
      obtain ⟨packets, hpackets, hproxy⟩ := Option.bind_eq_some_iff.mp hstep
      cases hproxy
      refine h.of_registries rfl ?_ h.events
      rw [registry_closeUnread]
      exact h.packets.step? hpackets
  | event =>
      obtain ⟨events, hevents, hproxy⟩ := Option.bind_eq_some_iff.mp hstep
      cases hproxy
      refine h.of_registries rfl h.packets ?_
      rw [registry_closeUnread]
      exact h.events.step? hevents

theorem work? {stream : Stream} (h : proxy.HasRoom)
    (hwork : proxy.work? number stream = some proxy') : proxy'.HasRoom := by
  cases stream with
  | rtp =>
      obtain ⟨⟨packets, scene⟩, hstep, hproxy⟩ :=
        Option.bind_eq_some_iff.mp hwork
      cases hproxy
      exact h.of_registries rfl (h.packets.work? hstep) h.events
  | event =>
      obtain ⟨⟨events, scene⟩, hstep, hproxy⟩ :=
        Option.bind_eq_some_iff.mp hwork
      cases hproxy
      exact h.of_registries rfl h.packets (h.events.work? hstep)

end HasRoom

theorem Attended.hasRoom {fanout : Fanout σ α} {pending : List Nat}
    {result : Fanout σ α × List Nat}
    (h : Attended fanout number pending result)
    (hroom : fanout.registry.HasRoom) : result.1.registry.HasRoom := by
  cases h with
  | closes => exact hroom.adjust_close number
  | passes => exact hroom

namespace HasRoom

theorem shutdownStep? (h : proxy.HasRoom)
    (hstep : proxy.shutdownStep? = some proxy') : proxy'.HasRoom := by
  cases shutsDown_of_shutdownStep? hstep with
  | loopsRest | eventsDone => exact h.of_registries rfl h.packets h.events
  | sessionsClosed => exact h.of_registries rfl h.packets h.events
  | packetsDone => exact h.of_registries rfl h.packets h.events
  | packets number pending hphase result hattended =>
      exact h.of_registries rfl (hattended.hasRoom h.packets) h.events
  | events number pending hphase result hattended =>
      exact h.of_registries rfl h.packets (hattended.hasRoom h.events)

theorem step? {actor : Actor} (h : proxy.HasRoom)
    (hstep : proxy.step? actor = some proxy') : proxy'.HasRoom := by
  cases actor with
  | stoppedLoop stream => exact h.heedStop? hstep
  | loop stream => exact h.dispatch? hstep
  | session number trigger => exact h.supervise? hstep
  | reader number => exact h.read? hstep
  | worker stream outlet => exact h.work? hstep
  | shutdown => exact h.shutdownStep? hstep

theorem of_logStream {id : SessionId} {name : String} {capacity : Nat}
    {stream : Stream} {result : Except RegistryFault Nat} (h : proxy.HasRoom)
    (hroom : 0 < capacity)
    (hlog : proxy.logStream id name capacity stream = (proxy', result)) :
    proxy'.HasRoom := by
  cases stream with
  | rtp =>
      cases hlog
      exact h.of_registries rfl (h.packets.register id hroom) h.events
  | event =>
      cases hlog
      exact h.of_registries rfl h.packets (h.events.register id hroom)

theorem unregister (h : proxy.HasRoom) (id : SessionId) (stream : Stream) :
    (proxy.unregister id stream).1.HasRoom := by
  cases stream with
  | rtp => exact h.of_registries rfl (h.packets.unregister id) h.events
  | event => exact h.of_registries rfl h.packets (h.events.unregister id)

/-- The outlets of the log are as large as those of sessions. -/
theorem attachLog (h : proxy.HasRoom) : proxy.attachLog.1.HasRoom := by
  unfold Proxy.attachLog
  dsimp only
  split
  · rename_i first fault hfirst
    exact h.of_logStream h.rtpCapacity hfirst
  · rename_i first taken hfirst
    have hlogged := h.of_logStream h.rtpCapacity hfirst
    split
    · rename_i second fault hsecond
      exact (hlogged.of_logStream h.eventCapacity hsecond).unregister ..
    · rename_i second served hsecond
      exact hlogged.of_logStream h.eventCapacity hsecond

theorem meanwhile (h : proxy.HasRoom) (hstep : Meanwhile proxy proxy') :
    proxy'.HasRoom := by
  cases hstep with
  | act actor hact => exact h.step? hact
  | logStream id name capacity stream hroom => exact h.of_logStream hroom rfl
  | attachLog => exact h.attachLog
  | unregister id stream => exact h.unregister id stream
  | start =>
      unfold Proxy.start
      split <;> exact h.of_registries rfl h.packets h.events
  | request | browse | detach | stop | beginShutdown | prune | sendPacket
  | sendEvent | closeSources => exact h.of_registries rfl h.packets h.events

theorem initiate (h : proxy.HasRoom) (offer : Description) (id : SessionId) :
    (proxy.initiate offer id).1.HasRoom := by
  obtain ⟨hpackets, hevents, -⟩ := @untouched_initiate proxy offer id
  refine h.of_registries ?_ (hpackets ▸ h.packets) (hevents ▸ h.events)
  unfold Proxy.initiate
  split
  · rfl
  · dsimp only
    split <;> rfl

end HasRoom

/-- A proxy goes on: an offer comes in, or something else happens. -/
inductive GoesOn (proxy : Proxy) : Proxy → Prop where
  | initiate (offer : Description) (id : SessionId) :
      GoesOn proxy (proxy.initiate offer id).1
  | meanwhile {proxy' : Proxy} (h : Meanwhile proxy proxy') :
      GoesOn proxy proxy'

/-- What may become of a proxy. -/
def Becomes : Proxy → Proxy → Prop := Relation.ReflTransGen GoesOn

theorem Becomes.hasRoom (h : Becomes proxy proxy') (hroom : proxy.HasRoom) :
    proxy'.HasRoom := by
  induction h with
  | refl => exact hroom
  | tail _ hstep ih =>
      cases hstep with
      | initiate offer id => exact ih.initiate offer id
      | meanwhile hstep => exact ih.meanwhile hstep

end Proxy

end LanRelay
