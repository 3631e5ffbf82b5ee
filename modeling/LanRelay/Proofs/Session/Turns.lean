/-
What the steps of the proxy are to its sessions.

Most steps are nothing to them. A session begins, opens or closes in one step,
and in that step both registries change with it. So much of the proxy as this
is about is its view, and each step turns the view in one of four ways.

Main statements: `turn_openChannel` and `turn_closeSession` for the two steps
that a session takes in its life, and `Step.turn` for all of them.
-/
import LanRelay.Proofs.Flow.Ownership
import LanRelay.Proofs.Session.Supervision

namespace LanRelay

open Rtp (Packet)

/-! A change of one item of a list, seen through a function of the items. -/

theorem map_modify_eq_set {α β : Type} {xs : List α} {x : α} {n : Nat}
    {f : α → α} {g : α → β} (h : xs[n]? = some x) :
    (xs.modify n f).map g = (xs.map g).set n (g (f x)) := by
  obtain ⟨hrange, rfl⟩ := List.getElem?_eq_some_iff.mp h
  rw [List.modify_eq_set_get f hrange, List.map_set, List.get_eq_getElem]

theorem map_modify_eq_self {α β : Type} (xs : List α) (n : Nat) {f : α → α}
    {g : α → β} (h : ∀ x, g (f x) = g x) :
    (xs.modify n f).map g = xs.map g := by
  apply List.ext_getElem?
  intro m
  cases hx : xs[m]? <;> by_cases hsame : n = m <;> simp [hx, hsame, h]

/-! Whose the sinks are. -/

def PacketSink.session? : PacketSink → Option Nat
  | track session _ => some session
  | log _ _ => none

def EventSink.session? : EventSink → Option Nat
  | channel session _ _ => some session
  | log _ _ => none

theorem PacketSink.keepsOwner :
    Sink.KeepsOwner (α := Packet) PacketSink.session? where
  write {packet sink sink' scene scene' result} h := by
    cases sink with
    | track session payloadType =>
        obtain ⟨_, _, hresult⟩ := Option.bind_eq_some_iff.mp h
        cases hresult
        rfl
    | log name items =>
        cases h
        rfl
  flush _ := rfl
  close state := by
    obtain ⟨sink, scene⟩ := state
    cases sink <;> rfl

theorem EventSink.keepsOwner :
    Sink.KeepsOwner (α := Event) EventSink.session? where
  write {event sink sink' scene scene' result} h := by
    cases sink with
    | channel session number frameBytes =>
        simp only [Sink.write, EventSink.write] at h
        split at h
        · cases h
          rfl
        · obtain ⟨_, _, hresult⟩ := Option.bind_eq_some_iff.mp h
          cases hresult
          rfl
    | log name items =>
        cases h
        rfl
  flush _ := rfl
  close state := by
    obtain ⟨sink, scene⟩ := state
    cases sink <;> rfl

/-! The view of a proxy. -/

/-- What the life of a session is about. -/
structure Vital where
  id : SessionId
  state : SessionState
  /-- It is not in the table of the proxy, though it has not closed. -/
  isLost : Bool

def Session.vital (session : Session) : Vital where
  id := session.id
  state := session.state
  isLost := !session.isListed && session.state ≠ .closed

/-- A shutdown is about to remove what is still registered. -/
def ShutdownPhase.isClearing : ShutdownPhase → Bool
  | loops | sessions | complete => false
  | packetOutlets _ | eventOutlets _ => true

/-- What of a proxy the lives of its sessions are about. -/
structure View where
  vitals : List Vital
  packets : Registry PacketSink Packet
  events : Registry EventSink Event
  /-- The gauge of established sessions. -/
  active : Int
  /-- The counters of sessions that were established, and that have closed. -/
  opened : Nat
  closed : Nat
  isClearing : Bool

def Proxy.view (proxy : Proxy) : View where
  vitals := proxy.sessions.map Session.vital
  packets := proxy.packets.registry
  events := proxy.events.registry
  active := proxy.active
  opened := proxy.tally.get .sessionsOpened
  closed := proxy.tally.get .sessionsClosed
  isClearing := proxy.shutdown.any (·.phase.isClearing)

/-- No session comes into a registry, and none gets out of it with an open
outlet unless it has closed. -/
structure Registry.Calm {σ α : Type} (owner : σ → Option Nat)
    (vitals : List Vital) (registry registry' : Registry σ α) : Prop where
  ages : ∀ session, Ages owner session registry registry'
  absent : ∀ vital ∈ vitals, registry.contains vital.id = false →
    registry'.contains vital.id = false
  stays : ∀ vital ∈ vitals, vital.state ≠ .closed →
    Stays vital.id registry registry'

theorem Registry.Tended.calm {σ α : Type} {owner : σ → Option Nat}
    {registry registry' : Registry σ α} (h : Tended owner registry registry')
    (vitals : List Vital) : Calm owner vitals registry registry' where
  ages := h.ages
  absent vital _ := (h.stays vital.id).absent
  stays vital _ _ := h.stays vital.id

theorem Registry.Calm.refl {σ α : Type} {owner : σ → Option Nat}
    (vitals : List Vital) (registry : Registry σ α) :
    Calm owner vitals registry registry :=
  (Tended.refl registry).calm vitals

/-- A registry may be cleared once all sessions have closed. -/
theorem Registry.calm_clear {σ α : Type} {owner : σ → Option Nat}
    {vitals : List Vital} (h : ∀ vital ∈ vitals, vital.state = .closed)
    (registry : Registry σ α) : Calm owner vitals registry registry.clear where
  ages _ := .of_outlets_eq rfl
  absent _ _ _ := rfl
  stays vital hmem hstate := absurd (h vital hmem) hstate

/-- What others register is not under the identifier of a session. -/
theorem Registry.calm_register {σ α : Type} {owner : σ → Option Nat}
    {vitals : List Vital} {id : SessionId}
    (h : ∀ vital ∈ vitals, vital.id ≠ id) (registry : Registry σ α)
    {outlet : Outlet σ α} (howner : owner outlet.sink = none) :
    Calm owner vitals registry (registry.register id outlet).1 where
  ages session := ages_register (by simp [howner])
  absent vital hmem := (stays_register outlet (h vital hmem)).absent
  stays vital hmem _ := stays_register outlet (h vital hmem)

/-- The ways in which a step may turn the view. -/
inductive Turn (view : View) : View → Prop where
  | calm (packets : Registry PacketSink Packet)
      (events : Registry EventSink Event) (isClearing : Bool)
      (hpackets : view.packets.Calm PacketSink.session? view.vitals packets)
      (hevents : view.events.Calm EventSink.session? view.vitals events)
      (hclearing : isClearing = true → view.isClearing = true ∨
        ∀ vital ∈ view.vitals, vital.state = .closed) :
      Turn view { view with packets, events, isClearing }
  | begins (id : SessionId) (hdistinct : ∀ vital ∈ view.vitals, vital.id ≠ id)
      (hpackets : view.packets.contains id = false)
      (hevents : view.events.contains id = false)
      (hrunning : view.isClearing = false) :
      Turn view { view with
        vitals := view.vitals ++ [⟨id, .negotiating, false⟩] }
  | opens (number : Nat) (vital : Vital)
      (hvital : view.vitals[number]? = some vital)
      (hstate : vital.state = .negotiating)
      (track : Outlet PacketSink Packet) (channel : Outlet EventSink Event)
      (htrack : track.sink.session? = some number)
      (hchannel : channel.sink.session? = some number) :
      Turn view { view with
        vitals := view.vitals.set number { vital with state := .established }
        packets := (view.packets.register vital.id track).1
        events := (view.events.register vital.id channel).1
        active := view.active + 1
        opened := view.opened + 1 }
  | closes (number : Nat) (vital : Vital)
      (hvital : view.vitals[number]? = some vital)
      (hstate : vital.state ≠ .closed) :
      Turn view { view with
        vitals := view.vitals.set number
          { vital with state := .closed, isLost := false }
        packets := (view.packets.unregister vital.id).1
        events := (view.events.unregister vital.id).1
        active :=
          if vital.state = .established then view.active - 1 else view.active
        closed := view.closed + 1 }

namespace Turn

variable {view : View}

theorem of_tended {packets : Registry PacketSink Packet}
    {events : Registry EventSink Event}
    (hpackets : view.packets.Tended PacketSink.session? packets)
    (hevents : view.events.Tended EventSink.session? events) :
    Turn view { view with packets, events } :=
  .calm packets events view.isClearing (hpackets.calm _) (hevents.calm _)
    Or.inl

theorem refl (view : View) : Turn view view :=
  .of_tended (.refl _) (.refl _)

end Turn

/-! What the sessions rely on. -/

/-- The place of the sessions in a registry: nothing is registered before a
session is established or after it has closed, and in between it is served. -/
structure Registry.Suits {σ α : Type} (owner : σ → Option Nat)
    (vitals : List Vital) (registry : Registry σ α) : Prop where
  absent {number : Nat} {vital : Vital} : vitals[number]? = some vital →
    vital.state ≠ .established → registry.contains vital.id = false
  serves {number : Nat} {vital : Vital} : vitals[number]? = some vital →
    vital.state = .established → registry.Serves owner number vital.id
  /-- A session that has not begun or is not yet established has no outlet. -/
  ownerless {number : Nat} : (∀ vital, vitals[number]? = some vital →
    vital.state = .negotiating) → registry.Ownerless owner number

structure View.Sound (view : View) : Prop where
  distinct : (view.vitals.map Vital.id).Nodup
  packets : view.packets.Suits PacketSink.session? view.vitals
  events : view.events.Suits EventSink.session? view.vitals
  found : ∀ vital ∈ view.vitals, vital.isLost = false
  cleared : view.isClearing = true →
    ∀ vital ∈ view.vitals, vital.state = .closed
  active : view.active =
    view.vitals.countP (·.state = .established)
  closed : view.closed = view.vitals.countP (·.state = .closed)

namespace Proxy

variable {proxy proxy' : Proxy} {number : Nat} {session : Session}

/-! The two steps in the life of a session. -/

theorem view_adjustSession (number : Nat) {f : Session → Session}
    (h : ∀ session, (f session).vital = session.vital) :
    (proxy.adjustSession number f).view = proxy.view := by
  simp only [view, adjustSession, map_modify_eq_self _ _ h]

theorem getElem?_vitals (h : proxy.sessions[number]? = some session) :
    proxy.view.vitals[number]? = some session.vital := by
  simp [view, h]

/-- A session closes for any reason. -/
theorem turn_closeSession (h : proxy.sessions[number]? = some session)
    (hstate : session.state ≠ .closed) (reason : CloseReason) :
    Turn proxy.view (proxy.closeSession number session reason).view := by
  have hview : (proxy.closeSession number session reason).view =
      { proxy.view with
        vitals := proxy.view.vitals.set number
          { session.vital with state := .closed, isLost := false }
        packets := (proxy.view.packets.unregister session.id).1
        events := (proxy.view.events.unregister session.id).1
        active := if session.state = .established then proxy.active - 1
          else proxy.active
        closed := proxy.view.closed + 1 } := by
    simp only [closeSession, view, adjustSession, adjustLink, count,
      map_modify_eq_set h]
    simp [Tally.get_count, Session.vital]
  rw [hview]
  exact .closes number session.vital (getElem?_vitals h) hstate

/-- The first data channel of a session establishes it, unless something else
is registered under its identifier. -/
theorem openChannel_eq (number : Nat) (hstate : session.state = .negotiating)
    (htrack : session.hasTrack = true)
    (hpackets : proxy.packets.registry.contains session.id = false)
    (hevents : proxy.events.registry.contains session.id = false)
    (channel : Nat) :
    proxy.openChannel number session channel =
      { proxy with
        packets := { proxy.packets with
          registry := (proxy.packets.registry.register session.id
            (proxy.trackOutlet number session)).1 }
        events := { proxy.events with
          registry := (proxy.events.registry.register session.id
            (proxy.channelOutlet number session channel)).1 }
        sessions := proxy.sessions.modify number ({ · with
          hasTrack := false, reader := some channel, state := .established })
        active := proxy.active + 1
        tally := proxy.tally.count .sessionsOpened } := by
  have hfirst : ¬ (session.state ≠ .negotiating ∨ !session.hasTrack) := by
    simp [hstate, htrack]
  have hregistered : proxy.registerTrack number session =
      ((proxy.registerTrack number session).1,
        .ok proxy.packets.registry.outlets.length) :=
    Prod.ext rfl (by simp [registerTrack, Registry.register, hpackets])
  have hboth : (proxy.registerTrack number session).1.registerChannel number
        session channel =
      (((proxy.registerTrack number session).1.registerChannel number session
        channel).1, .ok proxy.events.registry.outlets.length) :=
    Prod.ext rfl (by simp [registerTrack, registerChannel, Registry.register,
      adjustSession, hevents])
  have hsessions : (proxy.sessions.modify number
        ({ · with hasTrack := false })).modify number
          ({ · with reader := some channel, state := .established }) =
      proxy.sessions.modify number ({ · with
        hasTrack := false, reader := some channel, state := .established }) :=
    List.modify_modify_eq ..
  rw [openChannel, if_neg hfirst, hregistered]
  dsimp only
  rw [hboth, ← hsessions]
  rfl

/-- A further data channel is let go. The first one is served, as there is
nothing in the way of it. -/
theorem turn_openChannel (h : proxy.sessions[number]? = some session)
    (hsound : proxy.view.Sound) (channel : Nat) :
    Turn proxy.view (proxy.openChannel number session channel).view := by
  by_cases hfirst : session.state ≠ .negotiating ∨ !session.hasTrack
  · rw [openChannel, if_pos hfirst]
    exact .refl _
  · obtain ⟨hstate, htrack⟩ := not_or.mp hfirst
    have hstate : session.state = .negotiating := Decidable.not_not.mp hstate
    have hvital := getElem?_vitals h
    have hwaits : session.vital.state ≠ .established := by
      simp [Session.vital, hstate]
    have heq := openChannel_eq number hstate (by simpa using htrack)
      (hsound.packets.absent hvital hwaits)
      (hsound.events.absent hvital hwaits) channel
    have hview : (proxy.openChannel number session channel).view =
        { proxy.view with
          vitals := proxy.view.vitals.set number
            { session.vital with state := .established }
          packets := (proxy.view.packets.register session.id
            (proxy.trackOutlet number session)).1
          events := (proxy.view.events.register session.id
            (proxy.channelOutlet number session channel)).1
          active := proxy.view.active + 1
          opened := proxy.view.opened + 1 } := by
      simp only [heq, view, map_modify_eq_set h]
      simp [Tally.get_count, Session.vital, hstate]
    rw [hview]
    exact .opens number session.vital hvital hstate _ _ rfl rfl

/-! The steps of the actors. -/

theorem turn_supervise? {trigger : Trigger} (hsound : proxy.view.Sound)
    (h : proxy.supervise? number trigger = some proxy') :
    Turn proxy.view proxy'.view := by
  obtain ⟨session, hsession, hstate, hact⟩ := supervises_of_supervise? h
  -- Hearing a report changes nothing in view, and the session is still there.
  have hheard (link : Link) :
      (proxy.adjustLink number fun _ => link).view = proxy.view ∧
      (proxy.adjustLink number fun _ => link).sessions[number]? =
        some session := ⟨rfl, hsession⟩
  cases hact with
  | stopped | requested | dropped =>
      exact turn_closeSession hsession hstate _
  | opens link link' channel =>
      obtain ⟨hview, hthere⟩ := hheard link'
      rw [← hview] at hsound ⊢
      exact turn_openChannel hthere hsound channel
  | fails link link' state =>
      obtain ⟨hview, hthere⟩ := hheard link'
      rw [← hview]
      exact turn_closeSession hthere hstate _
  | goesOn link link' state =>
      rw [(hheard link').1]
      exact .refl _

theorem view_receive (inbound : Inbound) :
    (proxy.receive inbound).view = proxy.view := by
  cases inbound with
  | event event => rfl
  | skipped defect => simp [receive, view, count, Tally.get_count]

theorem turn_read? (h : proxy.read? number = some proxy') :
    Turn proxy.view proxy'.view := by
  obtain ⟨session, channel, -, -, hread⟩ := readsOn_of_read? h
  have hview : proxy'.view = proxy.view := by
    cases hread with
    | ended => exact proxy.view_adjustSession number fun _ => rfl
    | event | skipped => exact view_receive _
  rw [hview]
  exact .refl _

theorem turn_packets {packets : Fanout PacketSink Packet}
    (h : proxy.packets.registry.Tended PacketSink.session? packets.registry) :
    Turn proxy.view { proxy with packets }.view :=
  .of_tended h (.refl _)

theorem turn_events {events : Fanout EventSink Event}
    (h : proxy.events.registry.Tended EventSink.session? events.registry) :
    Turn proxy.view { proxy with events }.view :=
  .of_tended (.refl _) h

theorem registry_closeUnread {σ α : Type} (fanout : Fanout σ α) :
    (closeUnread fanout).registry = fanout.registry := by
  unfold closeUnread
  split <;> rfl

theorem turn_heedStop? {stream : Stream}
    (h : proxy.heedStop? stream = some proxy') :
    Turn proxy.view proxy'.view := by
  unfold heedStop? at h
  split at h
  · cases stream with
    | rtp =>
        obtain ⟨packets, hstop, hproxy⟩ := Option.bind_eq_some_iff.mp h
        cases hproxy
        apply turn_packets
        rw [registry_closeUnread, Fanout.registry_stop? hstop]
        exact .refl _
    | event =>
        obtain ⟨events, hstop, hproxy⟩ := Option.bind_eq_some_iff.mp h
        cases hproxy
        apply turn_events
        rw [registry_closeUnread, Fanout.registry_stop? hstop]
        exact .refl _
  · cases h

theorem turn_dispatch? {stream : Stream}
    (h : proxy.dispatch? stream = some proxy') :
    Turn proxy.view proxy'.view := by
  cases stream with
  | rtp =>
      obtain ⟨packets, hstep, hproxy⟩ := Option.bind_eq_some_iff.mp h
      cases hproxy
      apply turn_packets
      rw [registry_closeUnread]
      exact Fanout.tended_step? hstep
  | event =>
      obtain ⟨events, hstep, hproxy⟩ := Option.bind_eq_some_iff.mp h
      cases hproxy
      apply turn_events
      rw [registry_closeUnread]
      exact Fanout.tended_step? hstep

theorem turn_work? {stream : Stream}
    (h : proxy.work? number stream = some proxy') :
    Turn proxy.view proxy'.view := by
  cases stream with
  | rtp =>
      obtain ⟨⟨packets, scene⟩, hwork, hproxy⟩ :=
        Option.bind_eq_some_iff.mp h
      cases hproxy
      exact turn_packets (Fanout.tended_work? PacketSink.keepsOwner hwork)
  | event =>
      obtain ⟨⟨events, scene⟩, hwork, hproxy⟩ :=
        Option.bind_eq_some_iff.mp h
      cases hproxy
      exact turn_events (Fanout.tended_work? EventSink.keepsOwner hwork)

/-! The steps of a shutdown. -/

theorem tended_attend? {σ α : Type} {owner : σ → Option Nat}
    {fanout fanout' : Fanout σ α} {pending pending' : List Nat}
    (h : attend? fanout number pending = some (fanout', pending')) :
    Registry.Tended owner fanout.registry fanout'.registry := by
  unfold attend? at h
  split at h
  · cases h
    exact .refl _
  · split at h
    · cases h
      exact Registry.tended_adjust fun outlet _ => outlet.later_close
    · split at h
      · cases h
        exact .refl _
      · cases h

theorem view_prune : proxy.prune.view = proxy.view := by
  have hvital (session : Session) :
      Session.vital { session with
        isListed := session.isListed && session.state ≠ .closed } =
      session.vital := by
    cases hlisted : session.isListed <;>
      cases hstate : session.state <;> simp [Session.vital, hlisted, hstate]
  simp only [view, prune, List.map_map, Function.comp_def, hvital]

/-- All sessions have closed that the proxy has no more in its table. -/
theorem closed_of_all (hsound : proxy.view.Sound)
    (h : proxy.sessions.all (fun session =>
      !session.isListed || session.state == .closed) = true) :
    ∀ vital ∈ proxy.view.vitals, vital.state = .closed := by
  intro vital hmem
  have hfound := hsound.found vital hmem
  obtain ⟨session, hsession, rfl⟩ := List.mem_map.mp hmem
  have hall := List.all_eq_true.mp h session hsession
  simp only [Session.vital] at hfound ⊢
  cases hlisted : session.isListed <;> simp_all

/-- A shutdown clears the registries when all sessions have closed. -/
theorem turn_shutdownStep? (hsound : proxy.view.Sound)
    (h : proxy.shutdownStep? = some proxy') :
    Turn proxy.view proxy'.view := by
  obtain ⟨shutdown, hshutdown, h⟩ := Option.bind_eq_some_iff.mp h
  have hclearing : proxy.view.isClearing = shutdown.phase.isClearing := by
    simp [view, hshutdown]
  have hwaits : Turn proxy.view { proxy.view with isClearing := false } :=
    .calm _ _ false (.refl _ _) (.refl _ _) fun hnew => by cases hnew
  dsimp only at h
  split at h
  · split at h
    · cases h
      exact hwaits
    · cases h
  · split at h
    · rename_i hall
      cases h
      have hclosed := closed_of_all hsound hall
      change Turn proxy.view { proxy.prune.view with
        packets := proxy.packets.registry.clear, isClearing := true }
      rw [view_prune]
      exact .calm _ _ true (Registry.calm_clear hclosed _) (.refl _ _)
        fun _ => Or.inr hclosed
    · cases h
  · rename_i hphase
    cases h
    rw [hphase] at hclearing
    have hclosed := hsound.cleared hclearing
    exact .calm _ _ true (.refl _ _) (Registry.calm_clear hclosed _)
      fun _ => Or.inr hclosed
  · rename_i number pending hphase
    obtain ⟨⟨packets, pending'⟩, hattend, hproxy⟩ :=
      Option.bind_eq_some_iff.mp h
    cases hproxy
    rw [hphase] at hclearing
    exact .calm _ _ true ((tended_attend? hattend).calm _) (.refl _ _)
      fun _ => Or.inl hclearing
  · cases h
    exact hwaits
  · rename_i number pending hphase
    obtain ⟨⟨events, pending'⟩, hattend, hproxy⟩ :=
      Option.bind_eq_some_iff.mp h
    cases hproxy
    rw [hphase] at hclearing
    exact .calm _ _ true (.refl _ _) ((tended_attend? hattend).calm _)
      fun _ => Or.inl hclearing
  · cases h

theorem turn_step? {actor : Actor} (hsound : proxy.view.Sound)
    (h : proxy.step? actor = some proxy') : Turn proxy.view proxy'.view := by
  cases actor with
  | stoppedLoop stream => exact turn_heedStop? h
  | loop stream => exact turn_dispatch? h
  | session number trigger => exact turn_supervise? hsound h
  | reader number => exact turn_read? h
  | worker stream outlet => exact turn_work? h
  | shutdown => exact turn_shutdownStep? hsound h

/-! All steps. -/

/-- What may happen to a proxy. Any actor may take its step, and others may act
on the proxy; they do not register under the identifier of a session. -/
inductive Step (proxy : Proxy) : Proxy → Prop where
  | act (actor : Actor) {proxy' : Proxy}
      (h : proxy.step? actor = some proxy') : Step proxy proxy'
  /-- The identifier is fresh, and a shutdown does not yet wait for the
  sessions, or is complete. -/
  | initiate (offer : Description) (id : SessionId)
      (hdistinct : ∀ session ∈ proxy.sessions, session.id ≠ id)
      (hfree : ∀ stream, proxy.isRegistered id stream = false)
      (hrunning : ∀ shutdown, proxy.shutdown = some shutdown →
        shutdown.phase = .loops ∨ shutdown.phase = .complete) :
      Step proxy (proxy.initiate offer id).1
  | logStream (id : SessionId) (name : String) (capacity : Nat)
      (stream : Stream) (hother : ∀ session ∈ proxy.sessions, session.id ≠ id) :
      Step proxy (proxy.logStream id name capacity stream).1
  | unregister (id : SessionId) (stream : Stream) :
      Step proxy (proxy.unregister id stream).1
  | request (number : Nat) (reason : CloseReason) :
      Step proxy (proxy.request number reason)
  /-- The browser or the transport does something to a link. -/
  | browse (number : Nat) (f : Link → Link) :
      Step proxy (proxy.adjustLink number f)
  /-- Nobody takes the browser's sides of new links any more. -/
  | detach : Step proxy { proxy with takesPeers := false }
  | start : Step proxy proxy.start.1
  | stop : Step proxy proxy.stop
  | beginShutdown : Step proxy proxy.beginShutdown
  | prune : Step proxy proxy.prune
  | sendPacket (packet : Rtp.Packet) : Step proxy (proxy.sendPacket packet).1
  | sendEvent (event : Event) : Step proxy (proxy.sendEvent event).1
  | closeSources : Step proxy proxy.closeSources

theorem turn_initiate (offer : Description) {id : SessionId}
    (hdistinct : ∀ session ∈ proxy.sessions, session.id ≠ id)
    (hfree : ∀ stream, proxy.isRegistered id stream = false)
    (hrunning : ∀ shutdown, proxy.shutdown = some shutdown →
      shutdown.phase = .loops ∨ shutdown.phase = .complete) :
    Turn proxy.view (proxy.initiate offer id).1.view := by
  unfold initiate
  split
  · have hview : (proxy.count .offersRejected).view = proxy.view := by
      simp [view, count, Tally.get_count]
    rw [hview]
    exact .refl _
  · rename_i payloadType hresolve
    dsimp only
    split
    · exact .refl _
    · rename_i link hnegotiate
      have hvitals : (proxy.sessions ++ [({ id, payloadType } : Session)]).map
          Session.vital = proxy.view.vitals ++ [⟨id, .negotiating, false⟩] := by
        simp [view, Session.vital]
      change Turn proxy.view { proxy.view with
        vitals := (proxy.sessions ++ [({ id, payloadType } : Session)]).map
          Session.vital }
      rw [hvitals]
      refine .begins id (fun vital hmem => ?_) (hfree .rtp) (hfree .event) ?_
      · obtain ⟨session, hsession, rfl⟩ := List.mem_map.mp hmem
        exact hdistinct session hsession
      · cases hshutdown : proxy.shutdown with
        | none => simp [view, hshutdown]
        | some shutdown =>
            rcases hrunning shutdown hshutdown with hphase | hphase <;>
              simp [view, hshutdown, hphase, ShutdownPhase.isClearing]

theorem Step.turn (hstep : Step proxy proxy') (hsound : proxy.view.Sound) :
    Turn proxy.view proxy'.view := by
  cases hstep with
  | act actor h => exact turn_step? hsound h
  | initiate offer id hdistinct hfree hrunning =>
      exact turn_initiate offer hdistinct hfree hrunning
  | logStream id name capacity stream hother =>
      have hids : ∀ vital ∈ proxy.view.vitals, vital.id ≠ id := by
        intro vital hmem
        obtain ⟨session, hsession, rfl⟩ := List.mem_map.mp hmem
        exact hother session hsession
      cases stream with
      | rtp =>
          exact .calm _ _ _ (Registry.calm_register hids _ rfl) (.refl _ _)
            Or.inl
      | event =>
          exact .calm _ _ _ (.refl _ _) (Registry.calm_register hids _ rfl)
            Or.inl
  | unregister id stream =>
      cases stream with
      | rtp => exact turn_packets (Registry.tended_unregister id)
      | event => exact turn_events (Registry.tended_unregister id)
  | request number reason => exact .refl _
  | browse number f => exact .refl _
  | detach => exact .refl _
  | start =>
      unfold Proxy.start
      split <;> exact .refl _
  | stop => exact .refl _
  | beginShutdown =>
      exact .calm _ _ false (.refl _ _) (.refl _ _) fun h => by cases h
  | prune =>
      rw [view_prune]
      exact .refl _
  | sendPacket packet => exact .refl _
  | sendEvent event => exact .refl _
  | closeSources => exact .refl _

end Proxy

end LanRelay
