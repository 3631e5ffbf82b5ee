/-
What comes of registering in both streams.

A session registers its track first and its channel then, and a log sink its
packets first and its events then. Each of the two may be refused. A log sink
takes back what it has registered before; a session leaves it to its end.

Main statements: `Proxy.openChannel_spec` and `Proxy.attachLog_spec`.
-/
import LanRelay.Proofs.Flow.Custody
import LanRelay.Session.Proxy

namespace LanRelay

namespace Proxy

variable {proxy : Proxy} {number channel : Nat} {session : Session}

/-- What may come of a data channel that opens. -/
inductive Opens (proxy : Proxy) (number : Nat) (session : Session)
    (channel : Nat) : Proxy → Prop where
  /-- A further channel is let go. -/
  | further (h : session.state ≠ .negotiating ∨ session.hasTrack = false) :
      Opens proxy number session channel
        (proxy.adjustLink number (·.dropChannel channel))
  /-- Something is registered for the packets. -/
  | trackRefused (hstate : session.state = .negotiating)
      (htrack : session.hasTrack = true)
      (hpackets : proxy.packets.registry.contains session.id = true) :
      Opens proxy number session channel
        (((proxy.registerTrack number session).1.request number
          .registrationFailed).adjustLink number (·.dropChannel channel))
  /-- Nothing is registered for the packets, and something for the events. -/
  | channelRefused (hstate : session.state = .negotiating)
      (htrack : session.hasTrack = true)
      (hpackets : proxy.packets.registry.contains session.id = false)
      (hevents : proxy.events.registry.contains session.id = true) :
      Opens proxy number session channel
        ((((proxy.registerTrack number session).1.registerChannel number
          session channel).1.request number .registrationFailed).adjustLink
            number (·.dropReader channel))
  | established (hstate : session.state = .negotiating)
      (htrack : session.hasTrack = true)
      (hpackets : proxy.packets.registry.contains session.id = false)
      (hevents : proxy.events.registry.contains session.id = false) :
      Opens proxy number session channel
        { (((proxy.registerTrack number session).1.registerChannel number
            session channel).1.adjustSession number
              ({ · with reader := some channel, state := .established })).count
              .sessionsOpened with
          active := proxy.active + 1 }

theorem openChannel_spec (proxy : Proxy) (number : Nat) (session : Session)
    (channel : Nat) : Opens proxy number session channel
      (proxy.openChannel number session channel) := by
  by_cases hfurther : session.state ≠ .negotiating ∨ !session.hasTrack
  · rw [openChannel, if_pos hfurther]
    exact .further (hfurther.imp_right (by simp))
  · obtain ⟨hstate, htrack⟩ : session.state = .negotiating ∧
        session.hasTrack = true := by simpa [not_or] using hfurther
    rw [openChannel, if_neg hfurther]
    cases hpackets : proxy.packets.registry.contains session.id with
    | true =>
        have hrefused : proxy.registerTrack number session =
            ((proxy.registerTrack number session).1,
              .error (.alreadyRegistered _ _)) :=
          Prod.ext rfl (Registry.register_snd_of_contains _ hpackets)
        rw [hrefused]
        exact .trackRefused hstate htrack hpackets
    | false =>
        have htaken : proxy.registerTrack number session =
            ((proxy.registerTrack number session).1, .ok _) :=
          Prod.ext rfl (Registry.register_snd_of_not_contains _ hpackets)
        rw [htaken]
        dsimp only
        cases hevents : proxy.events.registry.contains session.id with
        | true =>
            have hrefused : (proxy.registerTrack number
                session).1.registerChannel number session channel =
                  (((proxy.registerTrack number session).1.registerChannel
                    number session channel).1,
                    .error (.alreadyRegistered _ _)) :=
              Prod.ext rfl (Registry.register_snd_of_contains _ hevents)
            rw [hrefused]
            exact .channelRefused hstate htrack hpackets hevents
        | false =>
            have hserved : (proxy.registerTrack number
                session).1.registerChannel number session channel =
                  (((proxy.registerTrack number session).1.registerChannel
                    number session channel).1, .ok _) :=
              Prod.ext rfl (Registry.register_snd_of_not_contains _ hevents)
            rw [hserved]
            exact .established hstate htrack hpackets hevents

/-! Log sinks. -/

theorem register_of_logStream_rtp {id : SessionId} {name : String}
    {capacity : Nat} {proxy' : Proxy} {result : Except RegistryFault Nat}
    (h : proxy.logStream id name capacity .rtp = (proxy', result)) :
    ∃ outlet, proxy.packets.registry.register id outlet =
        (proxy'.packets.registry, result) ∧
      proxy' = { proxy with packets := proxy'.packets } := by
  cases h
  exact ⟨_, rfl, rfl⟩

theorem register_of_logStream_event {id : SessionId} {name : String}
    {capacity : Nat} {proxy' : Proxy} {result : Except RegistryFault Nat}
    (h : proxy.logStream id name capacity .event = (proxy', result)) :
    ∃ outlet, proxy.events.registry.register id outlet =
        (proxy'.events.registry, result) ∧
      proxy' = { proxy with events := proxy'.events } := by
  cases h
  exact ⟨_, rfl, rfl⟩

/-- Both streams are logged if nothing stands in the way. Otherwise both tables
are as before. -/
theorem attachLog_cases (proxy : Proxy) :
    (proxy.attachLog.2 = .ok () ∧
      proxy.packets.registry.contains logId = false ∧
      proxy.events.registry.contains logId = false) ∨
    (∃ fault, proxy.attachLog.2 = .error fault) ∧
      (proxy.packets.registry.contains logId = true ∨
        proxy.events.registry.contains logId = true) ∧
      proxy.attachLog.1.packets.registry.table =
        proxy.packets.registry.table ∧
      proxy.attachLog.1.events.registry.table =
        proxy.events.registry.table := by
  unfold attachLog
  dsimp only
  split
  · rename_i first fault hfirst
    obtain ⟨outlet, hregister, hrest⟩ := register_of_logStream_rtp hfirst
    obtain ⟨hcontains, htable⟩ :=
      Registry.table_of_register_error hregister
    refine Or.inr ⟨⟨_, rfl⟩, Or.inl hcontains, htable, ?_⟩
    rw [hrest]
  · rename_i first taken hfirst
    obtain ⟨outlet, hregister, hrest⟩ := register_of_logStream_rtp hfirst
    obtain ⟨habsent, htable⟩ := Registry.table_of_register_ok hregister
    split
    · rename_i second fault hsecond
      obtain ⟨outlet', hregister', hrest'⟩ :=
        register_of_logStream_event hsecond
      obtain ⟨hcontains, htable'⟩ :=
        Registry.table_of_register_error hregister'
      have hevents : first.events = proxy.events := by rw [hrest]
      have hpackets : second.packets = first.packets := by rw [hrest']
      rw [hevents] at hcontains htable'
      refine Or.inr ⟨⟨_, rfl⟩, Or.inr hcontains, ?_, htable'⟩
      -- What was registered for the packets is removed again.
      change (second.packets.registry.unregister logId).1.table = _
      have hnumber : second.packets.registry.table.get? logId =
          some proxy.packets.registry.outlets.length := by
        rw [hpackets, htable, Keyed.get?_put, if_pos rfl]
      rw [Registry.unregister_of_get? hnumber, hpackets, htable]
      exact Keyed.erase_put _ habsent
    · rename_i second served hsecond
      obtain ⟨outlet', hregister', -⟩ := register_of_logStream_event hsecond
      obtain ⟨habsent', -⟩ := Registry.table_of_register_ok hregister'
      have hevents : first.events = proxy.events := by rw [hrest]
      rw [hevents] at habsent'
      exact Or.inl ⟨rfl, habsent, habsent'⟩

end Proxy

end LanRelay
