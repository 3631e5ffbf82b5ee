/-
What the setting up of sessions leaves behind in a proxy, and that nothing else
touches it.

The ledger of a proxy says which sessions were set up, on which terms links came
about, and how many offers were rejected. Loops, workers, sessions,
readers and a shutdown leave it as it is, and so do those who act on the proxy
without an offer.

Main statement: `Proxy.Meanwhile.ledger`.
-/
import LanRelay.Proofs.Session.Reception
import LanRelay.Proofs.Session.Tracks

namespace LanRelay

open Rtp (Packet)

/-! The terms of a link stay. -/

namespace Link

variable {link link' : Link} {number : Nat}

theorem terms_dropReports (link : Link) :
    link.dropReports.terms = link.terms := by
  show (List.foldl _ link link.reports.items).terms = link.terms
  generalize link.reports.items = reports
  induction reports generalizing link with
  | nil => rfl
  | cons report reports ih =>
      rw [List.foldl_cons, ih]
      cases report <;> rfl

theorem terms_of_nextReport {report : Report}
    (h : link.nextReport = .ready (report, link')) :
    link'.terms = link.terms := by
  unfold nextReport at h
  cases hreceive : link.reports.receive with
  | ready received =>
      rw [hreceive] at h
      cases h
      rfl
  | pending =>
      rw [hreceive] at h
      cases h
  | closed =>
      rw [hreceive] at h
      cases h

theorem terms_of_readFrame {frame : Bytes}
    (h : link.readFrame number = .ready (frame, link')) :
    link'.terms = link.terms := by
  unfold readFrame at h
  split at h
  · cases h
  · rename_i channel hchannel
    cases hreceive : channel.inbound.receive with
    | ready received =>
        rw [hreceive] at h
        cases h
        rfl
    | pending =>
        rw [hreceive] at h
        cases h
    | closed =>
        rw [hreceive] at h
        cases h

theorem terms_of_writeFrame {frame : Bytes}
    (h : link.writeFrame number frame = .ready link') :
    link'.terms = link.terms := by
  unfold writeFrame at h
  split at h
  · cases h
  · rename_i channel hchannel
    cases hsend : channel.outbound.send frame with
    | ready outbound =>
        rw [hsend] at h
        cases h
        rfl
    | pending =>
        rw [hsend] at h
        cases h
    | closed =>
        rw [hsend] at h
        cases h

end Link

namespace Scene

theorem terms_adjustLink (scene : Scene) (number : Nat) {f : Link → Link}
    (h : ∀ link, (f link).terms = link.terms) :
    (scene.adjustLink number f).terms = scene.terms :=
  map_modify_eq_self _ _ h

/-- A link is replaced by one with the same terms. -/
theorem terms_adjustLink_const {scene : Scene} {number : Nat}
    {link link' : Link} (hlink : scene.links[number]? = some link)
    (hterms : link'.terms = link.terms) :
    (scene.adjustLink number fun _ => link').terms = scene.terms := by
  have hset : scene.adjustLink number (fun _ => link') =
      scene.setLink number link' := by
    rw [adjustLink, setLink, List.set_eq_modify]
  rw [hset, terms_setLink hlink hterms]

end Scene

theorem PacketSink.leaves_terms :
    Sink.Leaves PacketSink Packet Scene.terms where
  write h := (PacketSink.write_spec h).2.1
  flush _ := rfl
  close state := (PacketSink.close_spec state.1 state.2).2.1

theorem EventSink.leaves_terms : Sink.Leaves EventSink Event Scene.terms where
  write {event sink sink' scene scene' result} h := by
    cases sink with
    | channel session number frameBytes =>
        simp only [Sink.write, EventSink.write] at h
        split at h
        · cases h
          rfl
        · obtain ⟨⟨outcome, after⟩, hlink, hresult⟩ :=
            Option.bind_eq_some_iff.mp h
          cases hresult
          unfold Scene.onLink at hlink
          split at hlink
          · cases hlink
            rfl
          · rename_i link hthere
            split at hlink
            · rename_i link' hwrite
              cases hlink
              exact Scene.terms_setLink hthere
                (Link.terms_of_writeFrame hwrite)
            · cases hlink
            · cases hlink
              rfl
    | log name items =>
        cases h
        rfl
  flush _ := rfl
  close state := by
    obtain ⟨sink, scene⟩ := state
    cases sink with
    | channel session number frameBytes =>
        exact scene.terms_adjustLink session fun _ => rfl
    | log name items => rfl

/-! The ledger of a proxy. -/

/-- What is settled when a session is set up. -/
def Session.entry (session : Session) : SessionId × UInt8 :=
  (session.id, session.payloadType)

structure Ledger where
  settings : ProxySettings
  /-- The sessions that were set up, with their payload types. -/
  entries : List (SessionId × UInt8)
  /-- The terms of the links that came about. -/
  terms : List Terms
  rejected : Nat

namespace Proxy

def ledger (proxy : Proxy) : Ledger where
  settings := proxy.settings
  entries := proxy.sessions.map Session.entry
  terms := proxy.scene.terms
  rejected := proxy.tally.get .offersRejected

variable {proxy proxy' : Proxy} {number : Nat} {session : Session}

/-- The ledger depends on nothing else. -/
theorem ledger_congr (hsettings : proxy'.settings = proxy.settings)
    (hentries : proxy'.sessions.map Session.entry =
      proxy.sessions.map Session.entry)
    (hterms : proxy'.scene.terms = proxy.scene.terms)
    (hrejected : proxy'.tally.get .offersRejected =
      proxy.tally.get .offersRejected) :
    proxy'.ledger = proxy.ledger := by
  rw [ledger, ledger, hsettings, hentries, hterms, hrejected]

theorem entries_adjustSession (proxy : Proxy) (number : Nat)
    {f : Session → Session} (h : ∀ session, (f session).entry = session.entry) :
    (proxy.adjustSession number f).sessions.map Session.entry =
      proxy.sessions.map Session.entry :=
  map_modify_eq_self _ _ h

theorem ledger_adjustLink (proxy : Proxy) (number : Nat) {f : Link → Link}
    (h : ∀ link, (f link).terms = link.terms) :
    (proxy.adjustLink number f).ledger = proxy.ledger :=
  ledger_congr rfl rfl (proxy.scene.terms_adjustLink number h) rfl

/-- Another counter counts. -/
theorem rejected_count (tally : Tally) {counter : Counter}
    (h : counter ≠ .offersRejected) :
    (tally.count counter).get .offersRejected =
      tally.get .offersRejected := by
  rw [Tally.get_count, if_neg h.symm, Nat.add_zero]

theorem ledger_closeSession (proxy : Proxy) (number : Nat) (session : Session)
    (reason : CloseReason) :
    (proxy.closeSession number session reason).ledger = proxy.ledger := by
  refine ledger_congr rfl (proxy.entries_adjustSession number fun _ => rfl)
    (proxy.scene.terms_adjustLink number fun link => ?_)
    (rejected_count _ (by decide))
  cases session.reader <;> cases session.hasTrack <;>
    exact Link.terms_dropReports _

theorem ledger_openChannel (proxy : Proxy) (number : Nat) (session : Session)
    (channel : Nat) :
    (proxy.openChannel number session channel).ledger = proxy.ledger := by
  have hentries : (proxy.registerTrack number session).1.sessions.map
      Session.entry = proxy.sessions.map Session.entry :=
    proxy.entries_adjustSession number fun _ => rfl
  have hopens := proxy.openChannel_spec number session channel
  generalize proxy.openChannel number session channel = result at hopens ⊢
  cases hopens with
  | further => exact proxy.ledger_adjustLink number fun _ => rfl
  | trackRefused | channelRefused =>
      exact ledger_congr rfl hentries
        (proxy.scene.terms_adjustLink number fun _ => rfl) rfl
  | established =>
      refine ledger_congr rfl (Eq.trans ?_ hentries) rfl
        (rejected_count _ (by decide))
      exact map_modify_eq_self _ _ fun _ => rfl

theorem ledger_supervise? {trigger : Trigger}
    (h : proxy.supervise? number trigger = some proxy') :
    proxy'.ledger = proxy.ledger := by
  obtain ⟨session, -, -, hact⟩ := supervises_of_supervise? h
  have hheard {link link' : Link} {report : Report}
      (hlink : proxy.scene.links[number]? = some link)
      (hready : link.nextReport = .ready (report, link')) :
      (proxy.adjustLink number fun _ => link').ledger = proxy.ledger :=
    ledger_congr rfl rfl (Scene.terms_adjustLink_const hlink
      (Link.terms_of_nextReport hready)) rfl
  cases hact with
  | stopped | requested | dropped => exact ledger_closeSession ..
  | opens link link' channel hlink hready =>
      exact (ledger_openChannel ..).trans (hheard hlink hready)
  | fails link link' state hlink hready =>
      exact (ledger_closeSession ..).trans (hheard hlink hready)
  | goesOn link link' state hlink hready => exact hheard hlink hready

theorem ledger_read? (h : proxy.read? number = some proxy') :
    proxy'.ledger = proxy.ledger := by
  obtain ⟨session, channel, -, -, hread⟩ := readsOn_of_read? h
  cases hread with
  | ended =>
      exact ledger_congr rfl (proxy.entries_adjustSession number fun _ => rfl)
        (proxy.scene.terms_adjustLink number fun _ => rfl) rfl
  | event link link' frame event hlink hready =>
      exact ledger_congr rfl rfl (Scene.terms_adjustLink_const hlink
        (Link.terms_of_readFrame hready)) rfl
  | skipped link link' frame defect hlink hready =>
      exact ledger_congr rfl rfl (Scene.terms_adjustLink_const hlink
        (Link.terms_of_readFrame hready)) (rejected_count _ (by simp))

theorem ledger_heedStop? {stream : Stream}
    (h : proxy.heedStop? stream = some proxy') :
    proxy'.ledger = proxy.ledger := by
  unfold heedStop? at h
  split at h
  · cases stream with
    | rtp | event =>
        obtain ⟨fanout, -, hproxy⟩ := Option.bind_eq_some_iff.mp h
        cases hproxy
        rfl
  · cases h

theorem ledger_dispatch? {stream : Stream}
    (h : proxy.dispatch? stream = some proxy') :
    proxy'.ledger = proxy.ledger := by
  cases stream with
  | rtp | event =>
      obtain ⟨fanout, -, hproxy⟩ := Option.bind_eq_some_iff.mp h
      cases hproxy
      rfl

theorem ledger_work? {stream : Stream}
    (h : proxy.work? number stream = some proxy') :
    proxy'.ledger = proxy.ledger := by
  cases stream with
  | rtp =>
      obtain ⟨⟨packets, scene⟩, hwork, hproxy⟩ :=
        Option.bind_eq_some_iff.mp h
      cases hproxy
      exact ledger_congr rfl rfl (PacketSink.leaves_terms.work? hwork) rfl
  | event =>
      obtain ⟨⟨events, scene⟩, hwork, hproxy⟩ :=
        Option.bind_eq_some_iff.mp h
      cases hproxy
      exact ledger_congr rfl rfl (EventSink.leaves_terms.work? hwork) rfl

theorem ledger_prune (proxy : Proxy) : proxy.prune.ledger = proxy.ledger := by
  refine ledger_congr rfl ?_ rfl rfl
  rw [prune, List.map_map]
  rfl

theorem ledger_shutdownStep? (h : proxy.shutdownStep? = some proxy') :
    proxy'.ledger = proxy.ledger := by
  cases shutsDown_of_shutdownStep? h with
  | sessionsClosed => exact proxy.ledger_prune
  | loopsRest | packets | packetsDone | events | eventsDone => rfl

theorem ledger_step? {actor : Actor} (h : proxy.step? actor = some proxy') :
    proxy'.ledger = proxy.ledger := by
  cases actor with
  | stoppedLoop stream => exact ledger_heedStop? h
  | loop stream => exact ledger_dispatch? h
  | session number trigger => exact ledger_supervise? h
  | reader number => exact ledger_read? h
  | worker stream outlet => exact ledger_work? h
  | shutdown => exact ledger_shutdownStep? h

/-- What may happen to a proxy besides offers. Any actor may take its step, and
others may act on the proxy. -/
inductive Meanwhile (proxy : Proxy) : Proxy → Prop where
  | act (actor : Actor) {proxy' : Proxy}
      (h : proxy.step? actor = some proxy') : Meanwhile proxy proxy'
  | logStream (id : SessionId) (name : String) (capacity : Nat)
      (stream : Stream) (hroom : 0 < capacity) :
      Meanwhile proxy (proxy.logStream id name capacity stream).1
  | attachLog : Meanwhile proxy proxy.attachLog.1
  | unregister (id : SessionId) (stream : Stream) :
      Meanwhile proxy (proxy.unregister id stream).1
  | request (number : Nat) (reason : CloseReason) :
      Meanwhile proxy (proxy.request number reason)
  /-- The browser or the transport does something to a link; its terms are
  settled. -/
  | browse (number : Nat) (f : Link → Link)
      (hterms : ∀ link, (f link).terms = link.terms) :
      Meanwhile proxy (proxy.adjustLink number f)
  /-- Nobody takes the browser's sides of new links any more. -/
  | detach : Meanwhile proxy { proxy with takesPeers := false }
  | start : Meanwhile proxy proxy.start.1
  | stop : Meanwhile proxy proxy.stop
  | beginShutdown : Meanwhile proxy proxy.beginShutdown
  | prune : Meanwhile proxy proxy.prune
  | sendPacket (packet : Packet) :
      Meanwhile proxy (proxy.sendPacket packet).1
  | sendEvent (event : Event) : Meanwhile proxy (proxy.sendEvent event).1
  | closeSources : Meanwhile proxy proxy.closeSources

theorem ledger_of_logStream {id : SessionId} {name : String} {capacity : Nat}
    {stream : Stream} {result : Except RegistryFault Nat}
    (h : proxy.logStream id name capacity stream = (proxy', result)) :
    proxy'.ledger = proxy.ledger := by
  cases stream <;> cases h <;> rfl

theorem ledger_unregister (proxy : Proxy) (id : SessionId) (stream : Stream) :
    (proxy.unregister id stream).1.ledger = proxy.ledger := by
  cases stream <;> rfl

theorem ledger_attachLog (proxy : Proxy) :
    proxy.attachLog.1.ledger = proxy.ledger := by
  unfold attachLog
  dsimp only
  split
  · rename_i first fault hfirst
    exact ledger_of_logStream hfirst
  · rename_i first taken hfirst
    split
    · rename_i second fault hsecond
      exact (ledger_unregister second ..).trans
        ((ledger_of_logStream hsecond).trans (ledger_of_logStream hfirst))
    · rename_i second served hsecond
      exact (ledger_of_logStream hsecond).trans (ledger_of_logStream hfirst)

/-- Without an offer no session is set up, no link comes about and no offer is
rejected. -/
theorem Meanwhile.ledger (h : Meanwhile proxy proxy') :
    proxy'.ledger = proxy.ledger := by
  cases h with
  | act actor h => exact ledger_step? h
  | logStream id name capacity stream => exact ledger_of_logStream rfl
  | attachLog => exact proxy.ledger_attachLog
  | unregister id stream => exact proxy.ledger_unregister id stream
  | browse number f hterms => exact proxy.ledger_adjustLink number hterms
  | start =>
      unfold Proxy.start
      split <;> rfl
  | prune => exact proxy.ledger_prune
  | request | detach | stop | beginShutdown | sendPacket | sendEvent
  | closeSources => rfl

end Proxy

end LanRelay
