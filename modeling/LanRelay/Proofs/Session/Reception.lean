/-
What the steps of the proxy are to those who read data channels.

So much of the proxy as the readers are about is its reception: the state and
the reader of each session, the events that went out, the counts of the frames
that were skipped, and how often each session was asked to close because its
channel had ended. A reader that gets something changes the reception in one of
two ways. In all that others do nothing is read: a session begins, opens its
channel or closes, or the reception stays as it is.

Main statements: `Proxy.Beside.waits` for what others do, and
`Proxy.reception_heed_frame` and `Proxy.reception_heed_end` for a reader.
-/
import LanRelay.Proofs.Flow.Worker
import LanRelay.Proofs.Session.Upkeep

namespace LanRelay

open Rtp (Packet)

/-! What a worker leaves as it is. -/

section Workers

variable {σ ω α β : Type} [Sink σ ω α]

/-- Whatever is done with a sink, so much of the world stays as it is. -/
structure Sink.Leaves (σ α : Type) [Sink σ ω α] (part : ω → β) : Prop where
  write {item : α} {sink sink' : σ} {world world' : ω}
    {result : Except Fault Unit} :
    Sink.write item (sink, world) = some (result, sink', world') →
      part world' = part world
  flush (state : σ × ω) : part (Sink.flush state).2.2 = part state.2
  close (state : σ × ω) : part (Sink.close state).2.2 = part state.2

theorem Sink.Leaves.windDown {part : ω → β} (h : Sink.Leaves σ α part)
    (outlet : Outlet σ α) (world : ω) :
    part (outlet.windDown world).2 = part world :=
  (h.close _).trans (h.flush _)

theorem Sink.Leaves.work? {part : ω → β} (h : Sink.Leaves σ α part)
    {fanout fanout' : Fanout σ α} {number : Nat} {world world' : ω}
    (hwork : fanout.work? number world = some (fanout', world')) :
    part world' = part world := by
  obtain ⟨outlet, outlet', -, hstep, -⟩ := Fanout.eq_of_work? hwork
  have hworks := Outlet.works_of_work? hstep
  cases hworks with
  | takes => rfl
  | ends => exact h.windDown outlet world
  | writes item hphase sink world' hwrite => exact h.write hwrite
  | fails item hphase fault hthere sink world' hwrite => exact h.write hwrite
  | loses item hphase fault hgone sink world' hwrite =>
      exact (h.windDown _ world').trans (h.write hwrite)

end Workers

namespace Scene

/-- How often each session was asked to close because its channel had ended. -/
def endings (scene : Scene) : List Nat :=
  scene.requests.map (·.count .dataChannelClosed)

theorem endings_request (scene : Scene) (number : Nat) {reason : CloseReason}
    (h : reason ≠ .dataChannelClosed) :
    (scene.request number reason).endings = scene.endings := by
  apply map_modify_eq_self
  intro reasons
  simp [h]

theorem endings_request_dataChannelClosed (scene : Scene) (number : Nat) :
    (scene.request number .dataChannelClosed).endings =
      scene.endings.modify number (· + 1) := by
  apply List.ext_getElem?
  intro other
  simp only [endings, request, List.getElem?_map, List.getElem?_modify]
  by_cases hsame : number = other <;> simp [hsame, Function.comp_def]

theorem endings_of_onLink {scene scene' : Scene} {session : Nat}
    {side : LinkEnd} {act : Link → Polled Link} {result : Except Fault Unit}
    (h : scene.onLink session side act = some (result, scene')) :
    scene'.endings = scene.endings := by
  unfold onLink at h
  split at h
  · obtain ⟨-, rfl⟩ := h
    rfl
  · split at h
    · obtain ⟨-, rfl⟩ := h
      rfl
    · contradiction
    · obtain ⟨-, rfl⟩ := h
      rfl

end Scene

/-- A sink asks its session to close, but not because a channel has ended. -/
theorem PacketSink.leaves_endings :
    Sink.Leaves PacketSink Packet Scene.endings where
  write {packet sink sink' scene scene' result} h := by
    cases sink with
    | track session payloadType =>
        obtain ⟨_, hlink, hresult⟩ := Option.bind_eq_some_iff.mp h
        cases hresult
        exact Scene.endings_of_onLink hlink
    | log name items =>
        cases h
        rfl
  flush _ := rfl
  close state := by
    obtain ⟨sink, scene⟩ := state
    cases sink with
    | track session payloadType =>
        exact Scene.endings_request _ _ (by decide)
    | log name items => rfl

theorem EventSink.leaves_endings :
    Sink.Leaves EventSink Event Scene.endings where
  write {event sink sink' scene scene' result} h := by
    cases sink with
    | channel session number frameBytes =>
        simp only [Sink.write, EventSink.write] at h
        split at h
        · cases h
          rfl
        · obtain ⟨_, hlink, hresult⟩ := Option.bind_eq_some_iff.mp h
          cases hresult
          exact Scene.endings_of_onLink hlink
    | log name items =>
        cases h
        rfl
  flush _ := rfl
  close state := by
    obtain ⟨sink, scene⟩ := state
    cases sink with
    | channel session number frameBytes =>
        exact Scene.endings_request _ _ (by decide)
    | log name items => rfl

/-! The reception of a proxy. -/

/-- Nothing comes on a channel after this. -/
def Reading.isEnd : Reading → Bool
  | frame _ => false
  | ended | failed _ => true

/-- What of a proxy the readers of data channels are about. -/
structure Reception where
  frameBytes : Nat
  published : List Event
  /-- How many frames were skipped for each of the reasons. -/
  skipped : FrameDefect → Nat
  /-- The state of each session, and the channel that it reads. -/
  readers : List (SessionState × Option Nat)
  /-- How often each session was asked to close as its channel had ended. -/
  endings : List Nat

namespace Reception

/-- What becomes of the reception when nothing is read. -/
inductive Waits (reception : Reception) : Reception → Prop where
  | rests : Waits reception reception
  | begins :
      Waits reception { reception with
        readers := reception.readers ++ [(.negotiating, none)]
        endings := reception.endings ++ [0] }
  | opens (number channel : Nat) (reader : Option Nat)
      (h : reception.readers[number]? = some (.negotiating, reader)) :
      Waits reception { reception with
        readers := reception.readers.set number (.established, some channel) }
  | closes (number : Nat) (state : SessionState) (reader : Option Nat)
      (h : reception.readers[number]? = some (state, reader)) :
      Waits reception { reception with
        readers := reception.readers.set number (.closed, none) }

/-- A frame has come in. -/
def took (reception : Reception) (inbound : Inbound) : Reception :=
  { reception with
    published := reception.published ++ inbound.event?.toList
    skipped := fun defect =>
      reception.skipped defect + inbound.defect?.toList.count defect }

/-- The channel of a session in this state has ended. -/
def ended (reception : Reception) (number : Nat) (state : SessionState) :
    Reception :=
  { reception with
    readers := reception.readers.set number (state, none)
    endings := reception.endings.modify number (· + 1) }

end Reception

def Session.reading (session : Session) : SessionState × Option Nat :=
  (session.state, session.reader)

namespace Proxy

def reception (proxy : Proxy) : Reception where
  frameBytes := proxy.settings.frameBytes
  published := proxy.published
  skipped defect := proxy.tally.get (.malformedFrames defect)
  readers := proxy.sessions.map Session.reading
  endings := proxy.scene.endings

variable {proxy proxy' : Proxy} {number channel : Nat} {session : Session}

theorem getElem?_readers (h : proxy.sessions[number]? = some session) :
    proxy.reception.readers[number]? = some session.reading := by
  simp [reception, h]

/-! The readers. -/

theorem reception_heed_frame (proxy : Proxy) (number channel : Nat)
    (bytes : Bytes) :
    (proxy.heed number channel (.frame bytes)).reception =
      proxy.reception.took (.ofFrame proxy.settings.frameBytes bytes) := by
  rw [heed]
  cases Inbound.ofFrame proxy.settings.frameBytes bytes with
  | event event => rfl
  | skipped defect =>
      have hskipped (reason : FrameDefect) :
          (proxy.tally.count (.malformedFrames defect)).get
              (.malformedFrames reason) =
            proxy.tally.get (.malformedFrames reason) +
              [defect].count reason := by
        rw [Tally.get_count, List.count_singleton]
        by_cases hsame : reason = defect
        · simp [hsame]
        · simp [hsame, Ne.symm hsame]
      simp only [receive, Reception.took, reception, count, Inbound.event?,
        Inbound.defect?, hskipped, Option.toList_none, Option.toList_some,
        List.append_nil]

theorem reception_heed_end (h : proxy.sessions[number]? = some session)
    (channel : Nat) {reading : Reading} (hend : reading.isEnd = true) :
    (proxy.heed number channel reading).reception =
      proxy.reception.ended number session.state := by
  have hheed : proxy.heed number channel reading =
      ((proxy.adjustSession number ({ · with reader := none })).adjustLink
        number (·.dropReader channel)).request number .dataChannelClosed := by
    cases reading with
    | frame bytes => contradiction
    | ended => rfl
    | failed fault => rfl
  have hendings := Scene.endings_request_dataChannelClosed
    (proxy.scene.adjustLink number (·.dropReader channel)) number
  rw [hheed]
  simp only [reception, Reception.ended, request, adjustLink, adjustSession,
    hendings, map_modify_eq_set h]
  rfl

/-! What others do. -/

theorem waits_of_eq (h : proxy'.reception = proxy.reception) :
    proxy.reception.Waits proxy'.reception := by
  rw [h]
  exact .rests

theorem waits_closeSession (h : proxy.sessions[number]? = some session)
    (reason : CloseReason) :
    proxy.reception.Waits
      (proxy.closeSession number session reason).reception := by
  have hreception : (proxy.closeSession number session reason).reception =
      { proxy.reception with
        readers := proxy.reception.readers.set number (.closed, none) } := by
    simp only [closeSession, reception, adjustSession, adjustLink, count,
      map_modify_eq_set h, Tally.get_count]
    simp [Session.reading, Scene.adjustLink, Scene.endings]
  rw [hreception]
  exact .closes number session.state session.reader (getElem?_readers h)

theorem waits_openChannel (h : proxy.sessions[number]? = some session)
    (channel : Nat) :
    proxy.reception.Waits
      (proxy.openChannel number session channel).reception := by
  have hkept : (proxy.sessions.modify number
      ({ · with hasTrack := false })).map Session.reading =
        proxy.sessions.map Session.reading :=
    map_modify_eq_self _ _ fun _ => rfl
  have hasked : (proxy.scene.request number .registrationFailed).endings =
      proxy.scene.endings := Scene.endings_request _ _ (by decide)
  have hopens := proxy.openChannel_spec number session channel
  generalize proxy.openChannel number session channel = result at hopens ⊢
  cases hopens with
  | further => exact .rests
  | trackRefused | channelRefused =>
      apply waits_of_eq
      simp only [reception, adjustLink, request, registerTrack, registerChannel,
        adjustSession, hkept, Reception.mk.injEq]
      exact ⟨trivial, trivial, trivial, trivial, hasked⟩
  | established hstate =>
      have hsessions : (proxy.sessions.modify number
          ({ · with hasTrack := false })).modify number
            ({ · with reader := some channel, state := .established }) =
          proxy.sessions.modify number ({ · with
            hasTrack := false
            reader := some channel
            state := .established }) := List.modify_modify_eq ..
      have hreception : reception
          { (((proxy.registerTrack number session).1.registerChannel number
              session channel).1.adjustSession number ({ · with
                reader := some channel, state := .established })).count
                .sessionsOpened with
            active := proxy.active + 1 } =
          { proxy.reception with
            readers := proxy.reception.readers.set number
              (.established, some channel) } := by
        simp only [reception, registerTrack, registerChannel, adjustSession,
          count, hsessions, map_modify_eq_set h, Tally.get_count]
        simp [Session.reading]
      rw [hreception]
      refine .opens number channel session.reader ?_
      rw [getElem?_readers h, Session.reading, hstate]

theorem waits_supervise? {trigger : Trigger}
    (h : proxy.supervise? number trigger = some proxy') :
    proxy.reception.Waits proxy'.reception := by
  obtain ⟨session, hsession, -, hact⟩ := supervises_of_supervise? h
  have hheard (link : Link) : (proxy.adjustLink number fun _ => link).sessions[
      number]? = some session := hsession
  cases hact with
  | stopped | requested | dropped => exact waits_closeSession hsession _
  | opens link link' => exact waits_openChannel (hheard link') _
  | fails link link' => exact waits_closeSession (hheard link') _
  | goesOn => exact .rests

theorem reception_work? {stream : Stream}
    (h : proxy.work? number stream = some proxy') :
    proxy'.reception = proxy.reception := by
  cases stream with
  | rtp =>
      obtain ⟨⟨packets, scene⟩, hwork, hproxy⟩ :=
        Option.bind_eq_some_iff.mp h
      obtain rfl := Option.some.inj hproxy
      simp only [reception, PacketSink.leaves_endings.work? hwork]
  | event =>
      obtain ⟨⟨events, scene⟩, hwork, hproxy⟩ :=
        Option.bind_eq_some_iff.mp h
      obtain rfl := Option.some.inj hproxy
      simp only [reception, EventSink.leaves_endings.work? hwork]

theorem reception_heedStop? {stream : Stream}
    (h : proxy.heedStop? stream = some proxy') :
    proxy'.reception = proxy.reception := by
  unfold heedStop? at h
  split at h
  · cases stream with
    | rtp | event =>
        obtain ⟨fanout, -, hproxy⟩ := Option.bind_eq_some_iff.mp h
        obtain rfl := Option.some.inj hproxy
        rfl
  · contradiction

theorem reception_dispatch? {stream : Stream}
    (h : proxy.dispatch? stream = some proxy') :
    proxy'.reception = proxy.reception := by
  cases stream with
  | rtp | event =>
      obtain ⟨fanout, -, hproxy⟩ := Option.bind_eq_some_iff.mp h
      obtain rfl := Option.some.inj hproxy
      rfl

theorem reception_prune (proxy : Proxy) :
    proxy.prune.reception = proxy.reception := by
  simp only [reception, prune, List.map_map]
  rfl

theorem reception_shutdownStep? (h : proxy.shutdownStep? = some proxy') :
    proxy'.reception = proxy.reception := by
  cases shutsDown_of_shutdownStep? h with
  | sessionsClosed => exact proxy.reception_prune
  | loopsRest | packets | packetsDone | events | eventsDone => rfl

theorem waits_step? {actor : Actor} (hactor : ∀ number, actor ≠ .reader number)
    (h : proxy.step? actor = some proxy') :
    proxy.reception.Waits proxy'.reception := by
  cases actor with
  | stoppedLoop stream => exact waits_of_eq (reception_heedStop? h)
  | loop stream => exact waits_of_eq (reception_dispatch? h)
  | session number trigger => exact waits_supervise? h
  | reader number => exact absurd rfl (hactor number)
  | worker stream outlet => exact waits_of_eq (reception_work? h)
  | shutdown => exact waits_of_eq (reception_shutdownStep? h)

theorem waits_initiate (offer : Description) (id : SessionId) :
    proxy.reception.Waits (proxy.initiate offer id).1.reception := by
  unfold initiate
  split
  · apply waits_of_eq
    simp [reception, count, Tally.get_count]
  · rename_i payloadType hresolve
    dsimp only
    split
    · exact .rests
    · rename_i link hnegotiate
      have hreception : reception
          { proxy with
            scene := { proxy.scene with
              links := proxy.scene.links ++ [link]
              requests := proxy.scene.requests ++ [[]] }
            sessions := proxy.sessions ++ [{ id, payloadType }] } =
          { proxy.reception with
            readers := proxy.reception.readers ++ [(.negotiating, none)]
            endings := proxy.reception.endings ++ [0] } := by
        simp [reception, Scene.endings, Session.reading]
      rw [hreception]
      exact .begins

/-- What others than the readers may do to a proxy. They do not say that a
channel has ended. -/
inductive Beside (proxy : Proxy) : Proxy → Prop where
  | act (actor : Actor) (hactor : ∀ number, actor ≠ .reader number)
      {proxy' : Proxy} (h : proxy.step? actor = some proxy') :
      Beside proxy proxy'
  | initiate (offer : Description) (id : SessionId) :
      Beside proxy (proxy.initiate offer id).1
  | logStream (id : SessionId) (name : String) (capacity : Nat)
      (stream : Stream) :
      Beside proxy (proxy.logStream id name capacity stream).1
  | unregister (id : SessionId) (stream : Stream) :
      Beside proxy (proxy.unregister id stream).1
  | request (number : Nat) (reason : CloseReason)
      (hreason : reason ≠ .dataChannelClosed) :
      Beside proxy (proxy.request number reason)
  /-- The browser or the transport does something to a link. -/
  | browse (number : Nat) (f : Link → Link) :
      Beside proxy (proxy.adjustLink number f)
  /-- Nobody takes the browser's sides of new links any more. -/
  | detach : Beside proxy { proxy with takesPeers := false }
  | start : Beside proxy proxy.start.1
  | stop : Beside proxy proxy.stop
  | beginShutdown : Beside proxy proxy.beginShutdown
  | prune : Beside proxy proxy.prune
  | sendPacket (packet : Packet) : Beside proxy (proxy.sendPacket packet).1
  | sendEvent (event : Event) : Beside proxy (proxy.sendEvent event).1
  | closeSources : Beside proxy proxy.closeSources

theorem Beside.waits (h : Beside proxy proxy') :
    proxy.reception.Waits proxy'.reception := by
  cases h with
  | act actor hactor h => exact waits_step? hactor h
  | initiate offer id => exact waits_initiate offer id
  | logStream id name capacity stream => cases stream <;> exact .rests
  | unregister id stream => cases stream <;> exact .rests
  | request number reason hreason =>
      apply waits_of_eq
      simp only [reception, Proxy.request, Scene.endings_request _ _ hreason]
  | start =>
      unfold Proxy.start
      split <;> exact .rests
  | prune => exact waits_of_eq proxy.reception_prune
  | browse | detach | stop | beginShutdown | sendPacket | sendEvent
  | closeSources => exact .rests

end Proxy

end LanRelay
