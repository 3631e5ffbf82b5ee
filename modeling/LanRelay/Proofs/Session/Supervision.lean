/-
What a session, or its reader, does in one step.

A session closes for a reason, or it takes one report from its link and heeds
it. A reader takes one frame from its channel, or finds that there is no more.

Main statements: `supervises_of_supervise?` and `readsOn_of_read?`.
-/
import LanRelay.Session.Proxy

namespace LanRelay

namespace Proxy

variable {proxy proxy' : Proxy} {number : Nat} {session : Session}

/-- How a session acts on a trigger. -/
inductive Supervises (proxy : Proxy) (number : Nat) (session : Session) :
    Trigger → Proxy → Prop where
  | stopped (h : proxy.stopped = true) :
      Supervises proxy number session .stop
        (proxy.closeSession number session .shutdown)
  | requested (reason : CloseReason) (later : List CloseReason)
      (h : proxy.scene.requests[number]? = some (reason :: later)) :
      Supervises proxy number session .request
        (proxy.closeSession number session reason)
  | dropped (link : Link) (hlink : proxy.scene.links[number]? = some link)
      (h : link.nextReport = .closed) :
      Supervises proxy number session .report
        (proxy.closeSession number session .transportDropped)
  | opens (link link' : Link) (channel : Nat)
      (hlink : proxy.scene.links[number]? = some link)
      (h : link.nextReport = .ready (.channelOpened channel, link')) :
      Supervises proxy number session .report
        ((proxy.adjustLink number fun _ => link').openChannel number session
          channel)
  | fails (link link' : Link) (state : ConnectionState)
      (hlink : proxy.scene.links[number]? = some link)
      (h : link.nextReport = .ready (.connection state, link'))
      (hterminal : state.isTerminal = true) :
      Supervises proxy number session .report
        ((proxy.adjustLink number fun _ => link').closeSession number session
          (.connection state))
  | goesOn (link link' : Link) (state : ConnectionState)
      (hlink : proxy.scene.links[number]? = some link)
      (h : link.nextReport = .ready (.connection state, link'))
      (hlives : state.isTerminal = false) :
      Supervises proxy number session .report
        (proxy.adjustLink number fun _ => link')

theorem supervises_of_hearReport?
    (h : proxy.hearReport? number session = some proxy') :
    Supervises proxy number session .report proxy' := by
  obtain ⟨link, hlink, hnext⟩ := Option.bind_eq_some_iff.mp h
  split at hnext
  · cases hnext
  · rename_i hclosed
    cases hnext
    exact .dropped link hlink hclosed
  · rename_i report link' hready
    cases report with
    | channelOpened channel =>
        cases hnext
        exact .opens link link' channel hlink hready
    | connection state =>
        cases hterminal : state.isTerminal with
        | true =>
            simp only [hterminal, if_true] at hnext
            cases hnext
            exact .fails link link' state hlink hready hterminal
        | false =>
            simp only [hterminal, Bool.false_eq_true, if_false] at hnext
            cases hnext
            exact .goesOn link link' state hlink hready hterminal

/-- A session that acts is there, and it is not closed. -/
theorem supervises_of_supervise? {trigger : Trigger}
    (h : proxy.supervise? number trigger = some proxy') :
    ∃ session, proxy.sessions[number]? = some session ∧
      session.state ≠ .closed ∧
      Supervises proxy number session trigger proxy' := by
  obtain ⟨session, hsession, hact⟩ := Option.bind_eq_some_iff.mp h
  refine ⟨session, hsession, ?_⟩
  split at hact
  · cases hact
  · rename_i hstate
    refine ⟨hstate, ?_⟩
    cases trigger with
    | stop =>
        dsimp only at hact
        split at hact
        · rename_i hstopped
          cases hact
          exact .stopped hstopped
        · cases hact
    | request =>
        dsimp only at hact
        split at hact
        · rename_i reason later hrequests
          cases hact
          exact .requested reason later hrequests
        · cases hact
    | report => exact supervises_of_hearReport? hact

/-- How the reader of a session reads on. -/
inductive ReadsOn (proxy : Proxy) (number channel : Nat) : Proxy → Prop where
  | ended (link : Link) (hlink : proxy.scene.links[number]? = some link)
      (h : link.readFrame channel = .closed) :
      ReadsOn proxy number channel (proxy.heed number channel .ended)
  | event (link link' : Link) (frame : Bytes) (event : Event)
      (hlink : proxy.scene.links[number]? = some link)
      (h : link.readFrame channel = .ready (frame, link'))
      (hframe : Inbound.ofFrame proxy.settings.frameBytes frame =
        .event event) :
      ReadsOn proxy number channel
        ((proxy.adjustLink number fun _ => link').receive (.event event))
  | skipped (link link' : Link) (frame : Bytes) (defect : FrameDefect)
      (hlink : proxy.scene.links[number]? = some link)
      (h : link.readFrame channel = .ready (frame, link'))
      (hframe : Inbound.ofFrame proxy.settings.frameBytes frame =
        .skipped defect) :
      ReadsOn proxy number channel
        ((proxy.adjustLink number fun _ => link').receive (.skipped defect))

/-- A reader that reads on is that of a session, and reads from its channel. -/
theorem readsOn_of_read? (h : proxy.read? number = some proxy') :
    ∃ session channel, proxy.sessions[number]? = some session ∧
      session.reader = some channel ∧
      ReadsOn proxy number channel proxy' := by
  obtain ⟨session, hsession, h⟩ := Option.bind_eq_some_iff.mp h
  obtain ⟨channel, hchannel, h⟩ := Option.bind_eq_some_iff.mp h
  obtain ⟨link, hlink, h⟩ := Option.bind_eq_some_iff.mp h
  refine ⟨session, channel, hsession, hchannel, ?_⟩
  split at h
  · cases h
  · rename_i hended
    cases h
    exact .ended link hlink hended
  · rename_i frame link' hready
    cases h
    have hheed : (proxy.adjustLink number fun _ => link').heed number channel
        (.frame frame) = (proxy.adjustLink number fun _ => link').receive
          (.ofFrame proxy.settings.frameBytes frame) := rfl
    rw [hheed]
    cases hframe : Inbound.ofFrame proxy.settings.frameBytes frame with
    | event event => exact .event link link' frame event hlink hready hframe
    | skipped defect =>
        exact .skipped link link' frame defect hlink hready hframe

end Proxy

end LanRelay
