/-
Negotiation is all or nothing.

A call with an offer takes three steps: the offer is looked at, a link comes
about and its other side is handed out as a peer, and the session is entered.
Whoever takes the peers may go away at any point. A call that fails leaves the
sessions, the links and both fan-outs as they were. A call that succeeds adds
one session and one link, and they match.

Main statement: `negotiation_is_all_or_nothing`, for any sequence of calls and
whatever happens between them.
-/
import LanRelay.Proofs.Session.Ledger
import LanRelay.Proofs.Session.Lifecycle

namespace LanRelay

/-! The steps of a call. -/

/-- How far a call has come that sets up a session for an offer. -/
inductive SetupStage where
  | start (offer : Description)
  /-- The offer has the codec. -/
  | resolved (terms : Terms)
  /-- The link is there, and the session is to be entered. -/
  | linked (terms : Terms)
  | finished (result : Except SessionFault (Nat × Description))

namespace Proxy

variable {proxy proxy' : Proxy}

/-- The next step of a call. -/
def setUp (proxy : Proxy) (id : SessionId) :
    SetupStage → Proxy × SetupStage
  | .start offer =>
      match offer.resolvePayloadType proxy.settings.codec with
      | .error fault =>
          (proxy.count .offersRejected, .finished (.error fault))
      | .ok payloadType =>
          (proxy, .resolved {
            offer, payloadType
            codec := proxy.settings.codec
            ssrc := proxy.settings.ssrc })
  | .resolved terms =>
      match proxy.negotiate terms with
      | .error fault => (proxy, .finished (.error fault))
      | .ok link =>
          let scene := proxy.scene
          ({ proxy with
              scene := { scene with links := scene.links ++ [link] } },
            .linked terms)
  | .linked terms =>
      let scene := proxy.scene
      ({ proxy with
          scene := { scene with requests := scene.requests ++ [[]] }
          sessions :=
            proxy.sessions ++ [{ id, payloadType := terms.payloadType }] },
        .finished (.ok (proxy.sessions.length, terms.answer)))
  | .finished result => (proxy, .finished result)

/-- Whoever takes the peers goes away, or nothing happens. -/
def detachIf (proxy : Proxy) (drops : Bool) : Proxy :=
  { proxy with takesPeers := proxy.takesPeers && !drops }

/-- A call, with the proxy that it finds. -/
structure Call where
  before : Proxy
  offer : Description
  id : SessionId
  /-- Whoever takes the peers goes away before the link comes about. -/
  dropsEarly : Bool
  /-- Whoever takes the peers goes away after that. -/
  dropsLate : Bool

namespace Call

def run (call : Call) : Proxy × Except SessionFault (Nat × Description) :=
  let (proxy, result) :=
    (call.before.detachIf call.dropsEarly).initiate call.offer call.id
  (proxy.detachIf call.dropsLate, result)

def after (call : Call) : Proxy := call.run.1

def result (call : Call) : Except SessionFault (Nat × Description) :=
  call.run.2

def isOk (call : Call) : Bool :=
  match call.result with
  | .ok _ => true
  | .error _ => false

/-- The steps of a call, with what happens in between. -/
def steps (call : Call) : Proxy × SetupStage :=
  let (proxy, stage) := call.before.setUp call.id (.start call.offer)
  let (proxy, stage) := (proxy.detachIf call.dropsEarly).setUp call.id stage
  (proxy.detachIf call.dropsLate).setUp call.id stage

/-- In the middle of a call whoever takes the peers may go away; it is as if
that were before the call or after it. -/
theorem steps_eq (call : Call) :
    call.steps = (call.after, .finished call.result) := by
  obtain ⟨before, offer, id, early, late⟩ := call
  cases hresolve : offer.resolvePayloadType before.settings.codec with
  | error fault =>
      simp only [steps, after, result, run, setUp, initiate, detachIf,
        hresolve]
      rfl
  | ok payloadType =>
      cases htakes : before.takesPeers && !early <;>
        simp [steps, after, result, run, setUp, initiate, detachIf, hresolve,
          negotiate, htakes]

end Call

end Proxy

/-- An offer comes to no payload type for a codec. -/
def Description.isUnresolved (offer : Description) (codec : String) : Bool :=
  match offer.resolvePayloadType codec with
  | .error _ => true
  | .ok _ => false

/-- The terms that an offer has under some settings, if it has the codec. -/
def Description.termsUnder? (offer : Description) (settings : ProxySettings) :
    Option Terms :=
  match offer.resolvePayloadType settings.codec with
  | .error _ => none
  | .ok payloadType => some {
      offer, payloadType, codec := settings.codec, ssrc := settings.ssrc }

theorem Description.termsUnder?_eq_some {offer : Description}
    {settings : ProxySettings} {terms : Terms}
    (h : offer.termsUnder? settings = some terms) :
    terms.offer = offer ∧ terms.codec = settings.codec ∧
      offer.resolvePayloadType settings.codec = .ok terms.payloadType ∧
      terms.ssrc = settings.ssrc := by
  unfold termsUnder? at h
  split at h
  · cases h
  · rename_i payloadType hresolve
    cases h
    exact ⟨rfl, rfl, hresolve, rfl⟩

theorem Description.termsUnder?_eq_none_iff {offer : Description}
    {settings : ProxySettings} :
    offer.termsUnder? settings = none ↔
      offer.isUnresolved settings.codec = true := by
  unfold termsUnder? isUnresolved
  cases offer.resolvePayloadType settings.codec <;> simp

theorem Description.isSome_termsUnder? {offer : Description}
    {settings : ProxySettings} :
    (offer.termsUnder? settings).isSome = true ↔
      ∃ payloadType, offer.resolvePayloadType settings.codec =
        .ok payloadType := by
  unfold termsUnder?
  cases offer.resolvePayloadType settings.codec <;> simp

namespace Proxy

variable {first proxy proxy' : Proxy}

/-! What a call comes to. -/

namespace Call

variable {call : Call} {fault : SessionFault} {number : Nat}
  {answer : Description}

def terms? (call : Call) : Option Terms :=
  call.offer.termsUnder? call.before.settings

/-- What may come of a call. -/
inductive Comes (call : Call) : Prop where
  /-- The offer does not have the codec. -/
  | unresolved (hterms : call.terms? = none) (takesPeers : Bool)
      (hafter : call.after =
        { call.before.count .offersRejected with takesPeers })
      (fault : SessionFault) (hresult : call.result = .error fault)
  /-- Nobody takes the peer. -/
  | untaken (terms : Terms) (hterms : call.terms? = some terms)
      (htakes : (call.before.takesPeers && !call.dropsEarly) = false)
      (takesPeers : Bool)
      (hafter : call.after = { call.before with takesPeers })
      (fault : SessionFault) (hresult : call.result = .error fault)
  | granted (terms : Terms) (hterms : call.terms? = some terms)
      (htakes : (call.before.takesPeers && !call.dropsEarly) = true)
      (takesPeers : Bool)
      (hafter : call.after = { call.before with
        takesPeers
        scene := { call.before.scene with
          links := call.before.scene.links ++ [{ terms }]
          requests := call.before.scene.requests ++ [[]] }
        sessions := call.before.sessions ++
          [{ id := call.id, payloadType := terms.payloadType }] })
      (hresult : call.result =
        .ok (call.before.sessions.length, terms.answer))

theorem comes (call : Call) : call.Comes := by
  obtain ⟨before, offer, id, early, late⟩ := call
  cases hresolve : offer.resolvePayloadType before.settings.codec with
  | error fault =>
      have hterms : terms? ⟨before, offer, id, early, late⟩ = none := by
        simp only [terms?, Description.termsUnder?, hresolve]
      refine .unresolved hterms (before.takesPeers && !early && !late) ?_ fault
        ?_ <;> simp only [after, result, run, initiate, detachIf, hresolve]
      rfl
  | ok payloadType =>
      have hterms : terms? ⟨before, offer, id, early, late⟩ = some {
          offer, payloadType
          codec := before.settings.codec
          ssrc := before.settings.ssrc } := by
        simp only [terms?, Description.termsUnder?, hresolve]
      cases htakes : before.takesPeers && !early with
      | false =>
          refine .untaken _ hterms htakes false ?_
              (.negotiation "loopback peer receiver dropped") ?_ <;>
            simp [after, result, run, initiate, detachIf, hresolve, negotiate,
              htakes]
      | true =>
          refine .granted _ hterms htakes (!late) ?_ ?_ <;>
            simp [after, result, run, initiate, detachIf, hresolve, negotiate,
              htakes]

/-- A call succeeds just if the offer has the codec and somebody is there to
take the peer when the link comes about. -/
theorem isOk_iff (call : Call) : call.isOk = true ↔
    (∃ payloadType,
      call.offer.resolvePayloadType call.before.settings.codec =
        .ok payloadType) ∧
    call.before.takesPeers = true ∧ call.dropsEarly = false := by
  rw [← Description.isSome_termsUnder?, ← terms?]
  cases call.comes with
  | unresolved hterms takesPeers hafter fault hresult =>
      simp [isOk, hresult, hterms]
  | untaken terms hterms htakes takesPeers hafter fault hresult =>
      simp_all [isOk]
  | granted terms hterms htakes takesPeers hafter hresult =>
      simp_all [isOk]

/-- A call that fails leaves nothing behind. It is counted just if the offer
does not have the codec. -/
structure LeavesNothing (call : Call) : Prop where
  sessions : call.after.sessions = call.before.sessions
  scene : call.after.scene = call.before.scene
  packets : call.after.packets = call.before.packets
  events : call.after.events = call.before.events
  rejected : call.after.tally.get .offersRejected =
    call.before.tally.get .offersRejected +
      if call.offer.isUnresolved call.before.settings.codec then 1 else 0
  tally (counter : Counter) (h : counter ≠ .offersRejected) :
    call.after.tally.get counter = call.before.tally.get counter

/-- A call that succeeds adds one session and one link, whose other side is
handed out as a peer, and nothing else. -/
structure SetsUp (call : Call) (terms : Terms) (number : Nat)
    (answer : Description) : Prop where
  offer : terms.offer = call.offer
  codec : terms.codec = call.before.settings.codec
  payloadType : call.offer.resolvePayloadType call.before.settings.codec =
    .ok terms.payloadType
  ssrc : terms.ssrc = call.before.settings.ssrc
  sessions : call.after.sessions = call.before.sessions ++ [{
    id := call.id
    payloadType := terms.payloadType
    state := .negotiating
    isListed := true }]
  links : call.after.scene.links =
    call.before.scene.links ++ [{ terms, hasPeer := true }]
  number : number = call.before.sessions.length
  answer : answer = terms.answer
  unregistered (stream : Stream) :
    call.after.isRegistered call.id stream = false
  packets : call.after.packets = call.before.packets
  events : call.after.events = call.before.events
  tally : call.after.tally = call.before.tally
  sessionCount : call.after.sessionCount = call.before.sessionCount + 1

theorem leavesNothing (h : call.result = .error fault) :
    call.LeavesNothing := by
  cases call.comes with
  | unresolved hterms takesPeers hafter =>
      have hunresolved := Description.termsUnder?_eq_none_iff.mp hterms
      exact {
        sessions := by rw [hafter]; rfl
        scene := by rw [hafter]; rfl
        packets := by rw [hafter]; rfl
        events := by rw [hafter]; rfl
        rejected := by simp [hafter, count, Tally.get_count, hunresolved]
        tally := fun counter hother => by
          simp [hafter, count, Tally.get_count, hother] }
  | untaken terms hterms htakes takesPeers hafter =>
      have hresolved : call.offer.isUnresolved call.before.settings.codec =
          false := by
        rw [← Bool.not_eq_true, ← Description.termsUnder?_eq_none_iff, ← terms?,
          hterms]
        simp
      exact {
        sessions := by rw [hafter]
        scene := by rw [hafter]
        packets := by rw [hafter]
        events := by rw [hafter]
        rejected := by simp [hafter, hresolved]
        tally := fun counter _ => by rw [hafter] }
  | granted terms hterms htakes takesPeers hafter hresult =>
      rw [hresult] at h
      cases h

/-- The identifier of the call is fresh. -/
theorem setsUp (hfree : ∀ stream,
      call.before.isRegistered call.id stream = false)
    (h : call.result = .ok (number, answer)) :
    ∃ terms, call.SetsUp terms number answer := by
  cases call.comes with
  | unresolved hterms takesPeers hafter fault hresult
  | untaken terms hterms htakes takesPeers hafter fault hresult =>
      rw [hresult] at h
      cases h
  | granted terms hterms htakes takesPeers hafter hresult =>
      rw [hresult] at h
      cases h
      obtain ⟨hoffer, hcodec, hresolve, hssrc⟩ :=
        Description.termsUnder?_eq_some hterms
      exact ⟨terms, {
        offer := hoffer
        codec := hcodec
        payloadType := hresolve
        ssrc := hssrc
        sessions := by rw [hafter]
        links := by rw [hafter]
        number := rfl
        answer := rfl
        unregistered := fun stream => by
          rw [hafter, ← hfree stream]
          cases stream <;> rfl
        packets := by rw [hafter]
        events := by rw [hafter]
        tally := by rw [hafter]
        sessionCount := by simp [hafter, Proxy.sessionCount] }⟩

/-! What a call adds to the ledger. -/

/-- The terms of the session that a call sets up, if it sets one up. -/
def granted? (call : Call) : Option Terms :=
  if call.isOk then call.terms? else none

theorem isSome_granted? (call : Call) :
    call.granted?.isSome = call.isOk := by
  cases call.comes with
  | unresolved hterms takesPeers hafter fault hresult
  | untaken terms hterms htakes takesPeers hafter fault hresult =>
      simp [granted?, isOk, hresult]
  | granted terms hterms htakes takesPeers hafter hresult =>
      simp [granted?, isOk, hresult, hterms]

theorem ledger_after (call : Call) : call.after.ledger =
    { call.before.ledger with
      entries := call.before.ledger.entries ++
        (call.granted?.map fun terms => (call.id, terms.payloadType)).toList
      terms := call.before.ledger.terms ++ call.granted?.toList
      rejected := call.before.ledger.rejected +
        if call.terms? = none then 1 else 0 } := by
  cases call.comes with
  | unresolved hterms takesPeers hafter fault hresult =>
      simp [hafter, granted?, isOk, hresult, hterms, Proxy.ledger, count,
        Tally.get_count]
  | untaken terms hterms htakes takesPeers hafter fault hresult =>
      simp [hafter, granted?, isOk, hresult, hterms, Proxy.ledger]
  | granted terms hterms htakes takesPeers hafter hresult =>
      simp [hafter, granted?, isOk, hresult, hterms, Proxy.ledger, Scene.terms,
        Session.entry]

end Call

/-! Sequences of calls. -/

/-- Calls are made one after the other, under fresh identifiers, and other
things happen before, between and after them. -/
inductive Negotiates (first : Proxy) : List Call → Proxy → Prop where
  | start : Negotiates first [] first
  | call {calls : List Call} (call : Call)
      (hbefore : Negotiates first calls call.before)
      (hdistinct : ∀ session ∈ call.before.sessions, session.id ≠ call.id)
      (hfree : ∀ stream, call.before.isRegistered call.id stream = false) :
      Negotiates first (calls ++ [call]) call.after
  | meanwhile {calls : List Call} {proxy proxy' : Proxy}
      (hbefore : Negotiates first calls proxy)
      (h : Meanwhile proxy proxy') : Negotiates first calls proxy'

namespace Negotiates

variable {calls : List Call}

theorem ledger (h : Negotiates first calls proxy) : proxy.ledger =
    { first.ledger with
      entries := first.ledger.entries ++ calls.filterMap fun call =>
        call.granted?.map fun terms => (call.id, terms.payloadType)
      terms := first.ledger.terms ++ calls.filterMap (·.granted?)
      rejected := first.ledger.rejected +
        calls.countP (·.terms? = none) } := by
  induction h with
  | start => simp
  | call call hbefore hdistinct hfree ih =>
      have hone {β : Type} (f : Call → Option β) :
          [call].filterMap f = (f call).toList := by
        cases hf : f call <;> simp [hf]
      rw [Call.ledger_after, ih]
      simp [hone, Nat.add_assoc, List.countP_cons]
  | meanwhile hbefore h ih => rw [h.ledger, ih]

theorem settings (h : Negotiates first calls proxy) :
    proxy.settings = first.settings :=
  congrArg Ledger.settings h.ledger

/-- Each call has found such a proxy, and its identifier was fresh. -/
theorem of_mem (h : Negotiates first calls proxy) {call : Call}
    (hcall : call ∈ calls) :
    call.before.settings = first.settings ∧
      ∀ stream, call.before.isRegistered call.id stream = false := by
  induction h with
  | start => cases hcall
  | call last hbefore hdistinct hfree ih =>
      rcases List.mem_append.mp hcall with hearlier | hlast
      · exact ih hearlier
      · obtain rfl := List.mem_singleton.mp hlast
        exact ⟨hbefore.settings, hfree⟩
  | meanwhile hbefore h ih => exact ih hcall

theorem nodup_ids (h : Negotiates first calls proxy)
    (hfirst : (first.sessions.map (·.id)).Nodup) :
    (proxy.sessions.map (·.id)).Nodup := by
  have hids (proxy : Proxy) : proxy.sessions.map (·.id) =
      proxy.ledger.entries.map (·.1) := by
    rw [Proxy.ledger, List.map_map]
    rfl
  induction h with
  | start => exact hfirst
  | call call hbefore hdistinct hfree ih =>
      rw [hids, Call.ledger_after, List.map_append, ← hids]
      refine List.nodup_append.mpr ⟨ih, ?_, ?_⟩
      · cases call.granted? <;> simp
      · intro id hid id' hid'
        obtain ⟨session, hsession, rfl⟩ := List.mem_map.mp hid
        have hnew : id' = call.id := by
          cases hgranted : call.granted? <;> simp_all
        rw [hnew]
        exact hdistinct session hsession
  | meanwhile hbefore h ih => rwa [hids, h.ledger, ← hids]

/-- The sessions are those of the calls that succeeded. -/
theorem ids (h : Negotiates first calls proxy) :
    proxy.sessions.map (·.id) = first.sessions.map (·.id) ++
      (calls.filter (·.isOk)).map (·.id) := by
  have hadded : (calls.filterMap fun call => call.granted?.map fun terms =>
      (call.id, terms.payloadType)).map (·.1) =
        (calls.filter (·.isOk)).map (·.id) := by
    rw [List.map_filterMap, ← List.filterMap_eq_map, List.filterMap_filter]
    refine List.filterMap_congr fun call _ => ?_
    rw [← call.isSome_granted?]
    cases call.granted? <;> rfl
  rw [← hadded]
  simpa [Proxy.ledger, Session.entry, Function.comp_def] using
    congrArg (·.entries.map (·.1)) h.ledger

/-- So are the links, on the terms of their offers. -/
theorem terms (h : Negotiates first calls proxy) :
    proxy.scene.links.map (·.terms) = first.scene.links.map (·.terms) ++
      (calls.filter (·.isOk)).filterMap
        (·.offer.termsUnder? first.settings) := by
  have hgranted : calls.filterMap (·.granted?) =
      (calls.filter (·.isOk)).filterMap
        (·.offer.termsUnder? first.settings) := by
    rw [List.filterMap_filter]
    refine List.filterMap_congr fun call hcall => ?_
    rw [Call.granted?, Call.terms?, (h.of_mem hcall).1]
  rw [← hgranted]
  exact congrArg Ledger.terms h.ledger

theorem length_links (h : Negotiates first calls proxy) :
    proxy.scene.links.length =
      first.scene.links.length + calls.countP (·.isOk) := by
  have hlength : (calls.filterMap (·.granted?)).length =
      calls.countP (·.isOk) := by
    rw [List.length_filterMap_eq_countP]
    exact List.countP_congr fun call _ => by rw [call.isSome_granted?]
  have hterms : proxy.scene.terms =
      first.scene.terms ++ calls.filterMap (·.granted?) :=
    congrArg Ledger.terms h.ledger
  simpa [Scene.terms, hlength] using congrArg List.length hterms

theorem rejected (h : Negotiates first calls proxy) :
    proxy.tally.get .offersRejected = first.tally.get .offersRejected +
      calls.countP (·.offer.isUnresolved first.settings.codec) := by
  refine (congrArg Ledger.rejected h.ledger).trans (congrArg (_ + ·) ?_)
  refine List.countP_congr fun call hcall => ?_
  rw [decide_eq_true_iff, Call.terms?, Description.termsUnder?_eq_none_iff,
    (h.of_mem hcall).1]

end Negotiates

/-- Each call that fails leaves nothing behind, and each one that succeeds sets
up one session with its peer. So the sessions and the peers are those of the
calls that succeeded, in their order, and as many; and the offers that were
counted are those without the codec. -/
theorem negotiation_is_all_or_nothing {calls : List Call}
    (h : Negotiates first calls proxy) :
    (∀ call ∈ calls,
      call.steps = (call.after, .finished call.result) ∧
      (∀ fault, call.result = .error fault → call.LeavesNothing) ∧
      (∀ number answer, call.result = .ok (number, answer) →
        ∃ terms, call.SetsUp terms number answer) ∧
      (call.isOk = true ↔ (∃ payloadType,
          call.offer.resolvePayloadType call.before.settings.codec =
            .ok payloadType) ∧
        call.before.takesPeers = true ∧ call.dropsEarly = false)) ∧
    proxy.sessions.map (·.id) = first.sessions.map (·.id) ++
      (calls.filter (·.isOk)).map (·.id) ∧
    proxy.sessions.length = first.sessions.length + calls.countP (·.isOk) ∧
    proxy.scene.links.map (·.terms) = first.scene.links.map (·.terms) ++
      (calls.filter (·.isOk)).filterMap (·.offer.termsUnder? first.settings) ∧
    proxy.scene.links.length =
      first.scene.links.length + calls.countP (·.isOk) ∧
    proxy.tally.get .offersRejected = first.tally.get .offersRejected +
      calls.countP (·.offer.isUnresolved first.settings.codec) ∧
    ((first.sessions.map (·.id)).Nodup →
      (proxy.sessions.map (·.id)).Nodup) := by
  refine ⟨fun call hcall => ?_, h.ids, ?_, h.terms, h.length_links, h.rejected,
    h.nodup_ids⟩
  · exact ⟨call.steps_eq, fun fault => Call.leavesNothing,
      fun number answer => Call.setsUp (h.of_mem hcall).2, call.isOk_iff⟩
  · simpa [List.countP_eq_length_filter] using congrArg List.length h.ids

/-- An offer that is granted, while others go on; one without the codec; and one
that is let down when its link is to come about. -/
theorem negotiation_is_all_or_nothing_of_sample :
    ∃ calls proxy, Negotiates (create sampleSettings 4 4) calls proxy ∧
      calls.map (·.isOk) = [true, false, false] ∧
      proxy.sessions.map (·.id) = ["s"] ∧
      proxy.scene.links.length = 1 ∧
      proxy.tally.get .offersRejected = 1 := by
  have hgranted := Negotiates.call
    ⟨create sampleSettings 4 4, sampleOffer, "s", false, false⟩ .start
    (fun _ h => absurd h List.not_mem_nil)
    (fun stream => by cases stream <;> rfl)
  have hopened := (hgranted.meanwhile (.start)).meanwhile
    (.logStream "t" "log" 1 .rtp (by decide))
  have hrejected := Negotiates.call
    ⟨_, { sampleOffer with sdp := "" }, "u", false, false⟩ hopened
    (by decide +kernel) (fun stream => by cases stream <;> decide +kernel)
  have hletDown := Negotiates.call ⟨_, sampleOffer, "v", true, false⟩ hrejected
    (by decide +kernel) (fun stream => by cases stream <;> decide +kernel)
  obtain ⟨calls, proxy, hrun, hok, hids, hrejections⟩ : ∃ calls proxy,
      Negotiates (create sampleSettings 4 4) calls proxy ∧
      calls.map (·.isOk) = [true, false, false] ∧
      (calls.filter (·.isOk)).map (·.id) = ["s"] ∧
      calls.countP (·.offer.isUnresolved sampleSettings.codec) = 1 :=
    ⟨_, _, hletDown, by decide +kernel, by decide +kernel, by decide +kernel⟩
  obtain ⟨-, hsessions, -, -, hlinks, hrejected, -⟩ :=
    negotiation_is_all_or_nothing hrun
  have hcount : calls.countP (·.isOk) = 1 := by
    rw [List.countP_eq_length_filter, ← List.length_map, hids]
    rfl
  exact ⟨calls, proxy, hrun, hok, hsessions.trans hids,
    hlinks.trans (congrArg _ hcount), hrejected.trans (congrArg _ hrejections)⟩

end Proxy

end LanRelay
