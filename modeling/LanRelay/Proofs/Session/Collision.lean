/-
A session whose identifier is taken.

It fails to register, and until then nobody's outlet is touched. When it closes
it removes what is registered under its identifier, in both streams and whoever
has registered it; all else stays as it is.

Main statements: `Registry.Tried.abandoned`, which says what a session leaves
behind in a registry, and `failed_session_removes_its_namesake`.
-/
import LanRelay.Proofs.Session.Lifecycle
import LanRelay.Proofs.Session.Registration
import Mathlib.Data.List.Nodup

namespace LanRelay

namespace Registry

variable {σ α : Type} {registry registry' : Registry σ α} {id : SessionId}

/-- Everything that is registered stays registered, and as it is. -/
def Spares (registry registry' : Registry σ α) : Prop :=
  ∀ id number, registry.table.get? id = some number →
    registry'.table.get? id = some number ∧
      registry'.outlets[number]? = registry.outlets[number]?

/-- A session has handed over an outlet, or has not come so far. -/
def Tried (id : SessionId) (registry registry' : Registry σ α) : Prop :=
  registry' = registry ∨
    ∃ outlet, registry' = (registry.register id outlet).1

/-- What a session leaves behind that could not register, under its
identifier. -/
structure Abandoned (id : SessionId) (registry registry' : Registry σ α) :
    Prop where
  removed : registry'.table.get? id = none
  /-- What others have registered under it is closed. -/
  closed {number : Nat} : registry.table.get? id = some number →
    registry'.outlets[number]? = (registry.outlets[number]?).map Outlet.close
  others {other : SessionId} {number : Nat} : other ≠ id →
    registry.table.get? other = some number →
      registry'.table.get? other = some number ∧
        registry'.outlets[number]? = registry.outlets[number]?
  /-- What is new is not registered, and it is closed. -/
  own {number : Nat} {outlet : Outlet σ α} :
    registry.outlets.length ≤ number →
      registry'.outlets[number]? = some outlet →
        number ∉ registry'.table.values ∧ outlet.isClosed = true

theorem Numbered.eq_of_get? (h : registry.Numbered) {other : SessionId}
    {number : Nat} (hid : registry.table.get? id = some number)
    (hother : registry.table.get? other = some number) : id = other := by
  have hsame := List.inj_on_of_nodup_map h.nodup
    (Keyed.mem_entries_iff.mpr hid) (Keyed.mem_entries_iff.mpr hother) rfl
  exact congrArg Prod.fst hsame

theorem Numbered.lt_of_get? (h : registry.Numbered) {number : Nat}
    (hid : registry.table.get? id = some number) :
    number < registry.outlets.length :=
  h.range number (Keyed.mem_values_iff.mpr ⟨id, hid⟩)

theorem contains_of_get? {number : Nat}
    (h : registry.table.get? id = some number) :
    registry.contains id = true := by
  simp [contains, Keyed.contains, h]

/-- Registering touches nothing that is registered. -/
theorem spares_register (h : registry.Numbered) (id : SessionId)
    (outlet : Outlet σ α) : registry.Spares (registry.register id outlet).1 := by
  intro other number hother
  have hrange := h.lt_of_get? hother
  rcases registry.register_cases id outlet with ⟨habsent, heq⟩ | ⟨-, heq⟩
  · have hne : other ≠ id := by
      rintro rfl
      rw [contains_of_get? hother] at habsent
      cases habsent
    rw [heq]
    refine ⟨?_, List.getElem?_append_left hrange⟩
    rw [Keyed.get?_put, if_neg hne, hother]
  · rw [heq]
    exact ⟨hother, List.getElem?_append_left hrange⟩

namespace Tried

theorem spares (h : Tried id registry registry')
    (hnumbered : registry.Numbered) : registry.Spares registry' := by
  rcases h with rfl | ⟨outlet, rfl⟩
  · exact fun _ _ hid => ⟨hid, rfl⟩
  · exact spares_register hnumbered id outlet

theorem numbered (h : Tried id registry registry')
    (hnumbered : registry.Numbered) : registry'.Numbered := by
  rcases h with rfl | ⟨outlet, rfl⟩
  · exact hnumbered
  · exact hnumbered.register id outlet

theorem keeps (h : Tried id registry registry') (taken : List Nat) :
    Keeps taken taken registry registry' := by
  rcases h with rfl | ⟨outlet, rfl⟩
  · exact .refl _ _
  · exact .register ..

theorem get?_of_ne (h : Tried id registry registry') {other : SessionId}
    (hother : other ≠ id) :
    registry'.table.get? other = registry.table.get? other := by
  rcases h with rfl | ⟨outlet, rfl⟩
  · rfl
  · rw [registry.lawful.table_register]
    split
    · rfl
    · rw [Keyed.get?_put, if_neg hother]

/-- When a session has tried to register and closes, nothing is left under its
identifier, and nothing has changed under others. -/
theorem abandoned (h : Tried id registry registry')
    (hnumbered : registry.Numbered) :
    Abandoned id registry (registry'.unregister id).1 where
  removed := by rw [registry'.lawful.get?_unregister, if_pos rfl]
  closed {number} hid := by
    obtain ⟨hstill, hsame⟩ := h.spares hnumbered id number hid
    rw [getElem?_unregister, if_pos hstill, hsame]
  others {other number} hne hother := by
    obtain ⟨hstill, hsame⟩ := h.spares hnumbered other number hother
    have hapart : registry'.table.get? id ≠ some number := fun hid =>
      hne ((h.numbered hnumbered).eq_of_get? hstill hid)
    rw [registry'.lawful.get?_unregister, if_neg hne, getElem?_unregister,
      if_neg hapart]
    exact ⟨hstill, hsame⟩
  own {number outlet} hnew houtlet := by
    have hout : number ∉ (registry'.unregister id).1.table.values := by
      intro hlisted
      obtain ⟨other, hother⟩ := Keyed.mem_values_iff.mp hlisted
      rw [registry'.lawful.get?_unregister] at hother
      split at hother
      · cases hother
      · rename_i hne
        rw [h.get?_of_ne hne] at hother
        exact Nat.not_lt.mpr hnew (hnumbered.lt_of_get? hother)
    refine ⟨hout, ?_⟩
    -- The outlets from before are set aside, so that only the new one counts.
    have hkeeps := (h.keeps (List.range registry.outlets.length)).trans
      (.of_tended (tended_unregister id))
    have hbefore : registry.Accounted (List.range registry.outlets.length) := by
      intro other before hbefore
      have hrange := (List.getElem?_eq_some_iff.mp hbefore).choose
      exact Or.inr (Or.inl (List.mem_range.mpr hrange))
    rcases hkeeps.accounted hbefore number outlet houtlet with
      hlisted | hold | hclosed
    · exact absurd hlisted hout
    · exact absurd (List.mem_range.mp hold) (Nat.not_lt.mpr hnew)
    · exact hclosed

end Tried

/-- Others are spared if and only if they have not registered under the
identifier. -/
theorem Abandoned.spares_iff (h : Abandoned id registry registry') :
    registry.Spares registry' ↔ registry.contains id = false := by
  constructor
  · intro hspares
    cases hid : registry.table.get? id with
    | none => simp [contains, Keyed.contains, hid]
    | some number =>
        have hstill := (hspares id number hid).1
        rw [h.removed] at hstill
        cases hstill
  · intro habsent other number hother
    refine h.others ?_ hother
    rintro rfl
    rw [contains_of_get? hother] at habsent
    cases habsent

end Registry

namespace Proxy

variable {proxy : Proxy} {number channel : Nat} {session : Session}
  {asked : List CloseReason}

/-- A session whose identifier is taken asks itself to close. -/
theorem openChannel_of_taken (hsession : proxy.sessions[number]? = some session)
    (hstate : session.state = .negotiating) (htrack : session.hasTrack = true)
    (hasked : proxy.scene.requests[number]? = some asked)
    (htaken : ∃ stream, proxy.isRegistered session.id stream = true)
    (channel : Nat) :
    let refused := proxy.openChannel number session channel
    refused.sessions[number]? = some { session with hasTrack := false } ∧
    refused.scene.requests[number]? =
      some (asked ++ [.registrationFailed]) ∧
    Registry.Tried session.id proxy.packets.registry
      refused.packets.registry ∧
    Registry.Tried session.id proxy.events.registry refused.events.registry := by
  intro refused
  have hopens : Opens proxy number session channel refused :=
    openChannel_spec ..
  generalize refused = result at hopens
  have hsessions : (proxy.sessions.modify number
      ({ · with hasTrack := false }))[number]? =
        some { session with hasTrack := false } := by
    simp [hsession]
  have hrequests : (proxy.scene.requests.modify number
      (· ++ [.registrationFailed]))[number]? =
        some (asked ++ [.registrationFailed]) := by
    simp [hasked]
  cases hopens with
  | further h =>
      rcases h with h | h
      · exact absurd hstate h
      · rw [htrack] at h
        cases h
  | trackRefused =>
      exact ⟨hsessions, hrequests, Or.inr ⟨_, rfl⟩, Or.inl rfl⟩
  | channelRefused =>
      exact ⟨hsessions, hrequests, Or.inr ⟨_, rfl⟩, Or.inr ⟨_, rfl⟩⟩
  | established _ _ hpackets hevents =>
      obtain ⟨stream, hstream⟩ := htaken
      cases stream with
      | rtp =>
          rw [isRegistered, hpackets] at hstream
          cases hstream
      | event =>
          rw [isRegistered, hevents] at hstream
          cases hstream

theorem supervise?_of_channel {link link' : Link}
    (hsession : proxy.sessions[number]? = some session)
    (hstate : session.state = .negotiating)
    (hlink : proxy.scene.links[number]? = some link)
    (hreport : link.nextReport = .ready (.channelOpened channel, link')) :
    proxy.supervise? number .report = some
      ((proxy.adjustLink number fun _ => link').openChannel number session
        channel) := by
  simp [supervise?, hearReport?, hsession, hstate, hlink, hreport]

theorem supervise?_of_request {reason : CloseReason}
    {reasons : List CloseReason}
    (hsession : proxy.sessions[number]? = some session)
    (hstate : session.state ≠ .closed)
    (hasked : proxy.scene.requests[number]? = some (reason :: reasons)) :
    proxy.supervise? number .request =
      some (proxy.closeSession number session reason) := by
  simp [supervise?, hsession, hstate, hasked]

theorem state_closeSession (hsession : proxy.sessions[number]? = some session)
    (closing : Session) (reason : CloseReason) :
    (proxy.closeSession number closing reason).sessions[number]?.map
      (·.state) = some .closed := by
  simp [closeSession, adjustSession, adjustLink, count, hsession]

/-- A session opens its data channel, and something is registered under its
identifier. It fails to register and asks itself to close, and all that is
registered stays as it is. It then closes for the first reason there is, and
removes and closes whatever is registered under its identifier, in both
streams. So others are spared in those streams only in which they have nothing
under this identifier. Its own outlets are closed, and not registered. -/
theorem failed_session_removes_its_namesake {link link' : Link}
    (hsession : proxy.sessions[number]? = some session)
    (hstate : session.state = .negotiating) (htrack : session.hasTrack = true)
    (hlink : proxy.scene.links[number]? = some link)
    (hreport : link.nextReport = .ready (.channelOpened channel, link'))
    (hasked : proxy.scene.requests[number]? = some asked)
    (hpackets : proxy.packets.registry.Numbered)
    (hevents : proxy.events.registry.Numbered)
    (htaken : ∃ stream, proxy.isRegistered session.id stream = true) :
    ∃ refused closed,
      proxy.supervise? number .report = some refused ∧
      refused.sessions[number]? = some { session with hasTrack := false } ∧
      refused.scene.requests[number]? =
        some (asked ++ [.registrationFailed]) ∧
      proxy.packets.registry.Spares refused.packets.registry ∧
      proxy.events.registry.Spares refused.events.registry ∧
      refused.supervise? number .request = some closed ∧
      closed.sessions[number]?.map (·.state) = some .closed ∧
      Registry.Abandoned session.id proxy.packets.registry
        closed.packets.registry ∧
      Registry.Abandoned session.id proxy.events.registry
        closed.events.registry ∧
      (proxy.packets.registry.Spares closed.packets.registry ↔
        proxy.isRegistered session.id .rtp = false) ∧
      (proxy.events.registry.Spares closed.events.registry ↔
        proxy.isRegistered session.id .event = false) := by
  obtain ⟨hrefused, hrequests, htried, htried'⟩ :=
    (proxy.adjustLink number fun _ => link').openChannel_of_taken hsession
      hstate htrack hasked htaken channel
  obtain ⟨reason, reasons, hreasons⟩ : ∃ reason reasons,
      asked ++ [.registrationFailed] = reason :: reasons :=
    List.exists_cons_of_ne_nil (by simp)
  have hcloses := supervise?_of_request hrefused
    (by simp [hstate] : session.state ≠ .closed) (hreasons ▸ hrequests)
  have habandoned := htried.abandoned hpackets
  have habandoned' := htried'.abandoned hevents
  exact ⟨_, _, supervise?_of_channel hsession hstate hlink hreport, hrefused,
    hrequests, htried.spares hpackets, htried'.spares hevents, hcloses,
    state_closeSession hrefused _ reason, habandoned, habandoned',
    habandoned.spares_iff, habandoned'.spares_iff⟩

/-- Somebody logs the events under the identifier of a session that waits for
its data channel. -/
def crowded : Proxy :=
  let (proxy, _) := (create sampleSettings 4 4).initiate sampleOffer "s"
  (proxy.logStream "s" "log" 4 .event).1.adjustLink 0 openSample

theorem numbered_crowded : crowded.packets.registry.Numbered ∧
    crowded.events.registry.Numbered := by
  have hpackets : crowded.packets.registry = { stream := .rtp } := rfl
  have hevents : crowded.events.registry =
      (Registry.register { stream := .event } "s"
        (.create "log/events" 4 .dropNewest (.log "log/events" 0))).1 := rfl
  have hempty {σ α : Type} (stream : Stream) :
      ({ stream } : Registry σ α).Numbered :=
    ⟨List.nodup_nil, fun _ hnumber => absurd hnumber List.not_mem_nil⟩
  rw [hpackets, hevents]
  exact ⟨hempty .rtp, (hempty .event).register ..⟩

/-- The log sink does not outlive the session that could not register. -/
theorem failed_session_removes_its_namesake_of_crowded :
    ∃ refused closed, crowded.supervise? 0 .report = some refused ∧
      refused.supervise? 0 .request = some closed ∧
      ¬ crowded.events.registry.Spares closed.events.registry := by
  obtain ⟨session, hsession, hid, hstate, htrack⟩ : ∃ session,
      crowded.sessions[0]? = some session ∧ session.id = "s" ∧
        session.state = .negotiating ∧ session.hasTrack = true :=
    ⟨_, (Option.some_get (by decide +kernel)).symm, by decide +kernel,
      by decide +kernel, by decide +kernel⟩
  obtain ⟨link, hlink, hopened⟩ : ∃ link, crowded.scene.links[0]? = some link ∧
      (match link.nextReport with
        | .ready (.channelOpened _, _) => true
        | _ => false) = true :=
    ⟨_, (Option.some_get (by decide +kernel)).symm, by decide +kernel⟩
  split at hopened
  · rename_i channel link' hreport
    have htaken : crowded.isRegistered session.id .event = true := by
      rw [hid]
      decide +kernel
    obtain ⟨refused, closed, hrefused, -, -, -, -, hclosed, -, -, -, -, hspares⟩ :=
      failed_session_removes_its_namesake hsession hstate htrack hlink hreport
        (show crowded.scene.requests[0]? = some [] by decide +kernel)
        numbered_crowded.1 numbered_crowded.2 ⟨.event, htaken⟩
    refine ⟨refused, closed, hrefused, hclosed, fun hstill => ?_⟩
    rw [hspares.mp hstill] at htaken
    cases htaken
  · cases hopened

/-- Somebody has registered an open log sink for the events. The session fails
to register, closes for that reason, and the log sink is neither registered nor
open any more. -/
theorem log_sink_is_closed_with_its_namesake :
    crowded.sessions.map (fun session => (session.id, session.state)) =
      [("s", .negotiating)] ∧
    crowded.events.registry.table.get? "s" = some 0 ∧
    crowded.events.registry.outlets.map Outlet.isClosed = [false] ∧
    ∃ refused closed, crowded.supervise? 0 .report = some refused ∧
      refused.supervise? 0 .request = some closed ∧
      closed.sessions.map (fun session =>
          (session.state, session.ending.map (·.reason))) =
        [(.closed, some .registrationFailed)] ∧
      closed.events.registry.table.get? "s" = none ∧
      closed.events.registry.outlets[0]?.map Outlet.isClosed = some true := by
  exact ⟨by decide +kernel, by decide +kernel, by decide +kernel, _, _,
    (Option.some_get (by decide +kernel)).symm,
    (Option.some_get (by decide +kernel)).symm, by decide +kernel,
    by decide +kernel, by decide +kernel⟩

end Proxy

end LanRelay
