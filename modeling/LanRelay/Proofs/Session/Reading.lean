/-
What the readers of data channels make of what comes in.

A session that has opened its channel reads it frame by frame, while the rest
of the proxy goes on beside it. The events that the frames hold go out in order,
every other frame is skipped and counted for one reason, and reading goes on
until the channel ends or fails. Then the session is asked to close, once. When
a session closes earlier its reader is let go, and has sent out the first of the
events.

Main statements: `Reception.Matches.waits`, `Reception.Matches.took` and
`Reception.Matches.ended` for one step, and `readers_forward_what_decodes`.
-/
import LanRelay.Proofs.Bus.Kinds
import LanRelay.Proofs.Session.Reception

namespace LanRelay

/-! What becomes of a frame. -/

/-- The event that a frame holds, if the frame is short enough and can be
decoded. -/
def eventOf? (frameBytes : Nat) (frame : Bytes) : Option Event :=
  if frame.length ≤ frameBytes then (Event.decode frame).toOption else none

/-- Why a frame is skipped, if it is. One that is short enough may still be
longer than a datagram. -/
def skipReason? (frameBytes : Nat) (frame : Bytes) : Option FrameDefect :=
  if frameBytes < frame.length then some .oversized
  else if maxDatagram < frame.length then some .other
  else if (Event.decode frame).toOption.isNone then some .decode
  else none

theorem event?_ofFrame (frameBytes : Nat) (frame : Bytes) :
    (Inbound.ofFrame frameBytes frame).event? = eventOf? frameBytes frame := by
  rw [Inbound.ofFrame, eventOf?]
  by_cases hlong : frameBytes < frame.length
  · rw [if_pos hlong, if_neg (Nat.not_le.mpr hlong)]
    rfl
  · rw [if_neg hlong, if_pos (Nat.not_lt.mp hlong)]
    cases Event.decode frame <;> rfl

theorem defect?_ofFrame (frameBytes : Nat) (frame : Bytes) :
    (Inbound.ofFrame frameBytes frame).defect? =
      skipReason? frameBytes frame := by
  rw [Inbound.ofFrame, skipReason?]
  by_cases hlong : frameBytes < frame.length
  · rw [if_pos hlong, if_pos hlong]
    rfl
  · rw [if_neg hlong, if_neg hlong]
    by_cases hbeyond : maxDatagram < frame.length
    · rw [if_pos hbeyond, Event.decode, bounded_of_gt hbeyond]
      rfl
    · rw [if_neg hbeyond]
      cases hdecode : Event.decode frame with
      | ok event => rfl
      | error fault =>
          have hfault :=
            Event.decode_isDecode (Nat.not_lt.mp hbeyond) hdecode
          simp [Inbound.defect?, hfault, Except.toOption]

/-- A frame comes to an event, or it is skipped for one reason. -/
theorem eventOf?_eq_none_iff (frameBytes : Nat) (frame : Bytes) :
    eventOf? frameBytes frame = none ↔
      ∃ reason, skipReason? frameBytes frame = some reason := by
  rw [← event?_ofFrame, ← defect?_ofFrame]
  cases Inbound.ofFrame frameBytes frame with
  | event event => simp [Inbound.event?, Inbound.defect?]
  | skipped reason => simp [Inbound.event?, Inbound.defect?]

/-- Every frame is accounted for once. -/
theorem length_events_add_skipped (frameBytes : Nat) (frames : List Bytes) :
    (frames.filterMap (eventOf? frameBytes)).length +
      (frames.countP (skipReason? frameBytes · = some .oversized) +
        frames.countP (skipReason? frameBytes · = some .decode) +
        frames.countP (skipReason? frameBytes · = some .other)) =
      frames.length := by
  induction frames with
  | nil => rfl
  | cons frame frames ih =>
      have hone := eventOf?_eq_none_iff frameBytes frame
      rw [List.filterMap_cons, List.countP_cons, List.countP_cons,
        List.countP_cons, List.length_cons, ← ih]
      cases hevent : eventOf? frameBytes frame with
      | none =>
          obtain ⟨reason, hreason⟩ := hone.mp hevent
          rw [hreason]
          cases reason with
          | oversized | decode | other =>
              simp
              omega
      | some event =>
          have hnone : skipReason? frameBytes frame = none := by
            rw [Option.eq_none_iff_forall_ne_some]
            intro reason hreason
            rw [hone.mpr ⟨reason, hreason⟩] at hevent
            contradiction
          rw [hnone]
          simp
          omega

/-! What was read. -/

def Reading.frame? : Reading → Option Bytes
  | frame bytes => some bytes
  | ended | failed _ => none

theorem Reading.frame?_eq_none {reading : Reading}
    (h : reading.isEnd = true) : reading.frame? = none := by
  cases reading with
  | frame bytes => contradiction
  | ended | failed => rfl

/-- The frames that came in, in their order. -/
def framesOf (readings : List Reading) : List Bytes :=
  readings.filterMap Reading.frame?

/-- What the reader of a session got, of all that was read. -/
def readingsOf (number : Nat) (log : List (Nat × Reading)) : List Reading :=
  (log.filter (·.1 = number)).map Prod.snd

theorem framesOf_concat (readings : List Reading) (reading : Reading) :
    framesOf (readings ++ [reading]) =
      framesOf readings ++ reading.frame?.toList := by
  rw [framesOf, List.filterMap_append]
  cases reading <;> rfl

theorem framesOf_map_frame (frames : List Bytes) :
    framesOf (frames.map .frame) = frames := by
  rw [framesOf, List.filterMap_map]
  exact List.filterMap_some

theorem readingsOf_append (number : Nat) (log more : List (Nat × Reading)) :
    readingsOf number (log ++ more) =
      readingsOf number log ++ readingsOf number more := by
  rw [readingsOf, List.filter_append, List.map_append]
  rfl

theorem readingsOf_concat (number other : Nat) (log : List (Nat × Reading))
    (reading : Reading) :
    readingsOf number (log ++ [(other, reading)]) =
      if other = number then readingsOf number log ++ [reading]
      else readingsOf number log := by
  rw [readingsOf_append]
  by_cases hsame : other = number <;> simp [readingsOf, hsame]

theorem readingsOf_map (number : Nat) (readings : List Reading) :
    readingsOf number (readings.map (number, ·)) = readings := by
  simp [readingsOf, List.filter_map, Function.comp_def]

theorem readingsOf_cons (number : Nat) (entry : Nat × Reading)
    (log : List (Nat × Reading)) :
    readingsOf number (entry :: log) =
      if entry.1 = number then entry.2 :: readingsOf number log
      else readingsOf number log := by
  by_cases hsame : entry.1 = number <;> simp [readingsOf, hsame]

/-- Every event that goes out is that of one session. -/
theorem exists_attribution (frameBytes : Nat) (log : List (Nat × Reading)) :
    ∃ sent : List (Nat × Event), sent.map Prod.snd =
        (framesOf (log.map Prod.snd)).filterMap (eventOf? frameBytes) ∧
      ∀ number, (sent.filter (·.1 = number)).map Prod.snd =
        (framesOf (readingsOf number log)).filterMap
          (eventOf? frameBytes) := by
  induction log with
  | nil => exact ⟨[], rfl, fun _ => rfl⟩
  | cons entry log ih =>
      obtain ⟨sent, hall, heach⟩ := ih
      have hfirst (readings : List Reading) :
          (framesOf (entry.2 :: readings)).filterMap (eventOf? frameBytes) =
            (entry.2.frame?.bind (eventOf? frameBytes)).toList ++
              (framesOf readings).filterMap (eventOf? frameBytes) := by
        rw [framesOf, List.filterMap_cons]
        cases entry.2.frame? with
        | none => rfl
        | some bytes =>
            dsimp only [Option.bind_some]
            rw [List.filterMap_cons]
            cases eventOf? frameBytes bytes <;> rfl
      cases hevent : entry.2.frame?.bind (eventOf? frameBytes) with
      | none =>
          rw [hevent] at hfirst
          refine ⟨sent, ?_, fun number => ?_⟩
          · rw [List.map_cons, hfirst, hall]
            rfl
          · rw [readingsOf_cons, heach]
            by_cases hsame : entry.1 = number
            · rw [if_pos hsame, hfirst]
              rfl
            · rw [if_neg hsame]
      | some event =>
          rw [hevent] at hfirst
          refine ⟨(entry.1, event) :: sent, ?_, fun number => ?_⟩
          · rw [List.map_cons, List.map_cons, hfirst, hall]
            rfl
          · rw [readingsOf_cons, List.filter_cons]
            by_cases hsame : entry.1 = number
            · rw [if_pos hsame, if_pos (decide_eq_true hsame), hfirst,
                List.map_cons, heach]
              rfl
            · rw [if_neg hsame, if_neg (by simpa using hsame), heach]

/-- What a channel gives that ends after these frames. -/
def untilEnd (frames : List Bytes) (ending : Reading) : List Reading :=
  frames.map .frame ++ [ending]

theorem framesOf_untilEnd (frames : List Bytes) {ending : Reading}
    (h : ending.isEnd = true) : framesOf (untilEnd frames ending) = frames := by
  rw [untilEnd, framesOf_concat, framesOf_map_frame,
    Reading.frame?_eq_none h]
  exact List.append_nil _

/-- Whoever has come to the end of a channel has got all of it. -/
theorem eq_untilEnd_of_exists_end {own : List Reading} {frames : List Bytes}
    {ending : Reading} (h : own <+: untilEnd frames ending)
    (hend : ∃ reading ∈ own, reading.isEnd = true) :
    own = untilEnd frames ending := by
  rcases List.prefix_concat_iff.mp h with hall | hfront
  · exact hall
  · obtain ⟨reading, hmem, hreading⟩ := hend
    obtain ⟨bytes, -, rfl⟩ := List.mem_map.mp (hfront.subset hmem)
    contradiction

/-! A session and its readings. -/

/-- How far a session has come, by its state, its reader, how often it was
asked to close because its channel had ended, and what it has read. -/
inductive Story : SessionState → Option Nat → Nat → List Reading → Prop where
  | waits : Story .negotiating none 0 []
  | reads (channel : Nat) (frames : List Bytes) :
      Story .established (some channel) 0 (frames.map .frame)
  /-- The channel has ended, whatever came of the session then. -/
  | ended (state : SessionState) (hstate : state ≠ .negotiating)
      (frames : List Bytes) (ending : Reading) (hending : ending.isEnd = true) :
      Story state none 1 (frames.map .frame ++ [ending])
  /-- The session has closed before that. -/
  | aborted (frames : List Bytes) :
      Story .closed none 0 (frames.map .frame)

namespace Story

variable {state : SessionState} {reader : Option Nat} {channel asked : Nat}
  {own : List Reading}

theorem opens (h : Story .negotiating reader asked own) (channel : Nat) :
    Story .established (some channel) asked own := by
  cases h with
  | waits => exact .reads channel []
  | ended _ hother => exact absurd rfl hother

theorem closes (h : Story state reader asked own) :
    Story .closed none asked own := by
  cases h with
  | waits => exact .aborted []
  | reads channel frames => exact .aborted frames
  | ended state hstate frames ending hending =>
      exact .ended .closed nofun frames ending hending
  | aborted frames => exact .aborted frames

theorem frame (h : Story state (some channel) asked own) (bytes : Bytes) :
    Story state (some channel) asked (own ++ [.frame bytes]) := by
  cases h with
  | reads channel frames =>
      have hmore : frames.map Reading.frame ++ [.frame bytes] =
          (frames ++ [bytes]).map .frame := by rw [List.map_append]; rfl
      rw [hmore]
      exact .reads channel (frames ++ [bytes])

theorem ends (h : Story state (some channel) asked own) {ending : Reading}
    (hending : ending.isEnd = true) :
    Story state none (asked + 1) (own ++ [ending]) := by
  cases h with
  | reads channel frames =>
      exact .ended .established nofun frames ending hending

/-- A session was asked to close if and only if its channel has ended. It reads
until then, if it does not close before. -/
theorem asked_cases (h : Story state reader asked own) :
    (asked = 1 ∧ reader = none ∧ ∃ reading ∈ own, reading.isEnd = true) ∨
    (asked = 0 ∧ (∀ reading ∈ own, reading.isEnd = false) ∧
      (own ≠ [] → state ≠ .negotiating) ∧
      (state = .established → ∃ channel, reader = some channel)) := by
  have hframes (frames : List Bytes) :
      ∀ reading ∈ frames.map Reading.frame, reading.isEnd = false := by
    intro reading hmem
    obtain ⟨bytes, -, rfl⟩ := List.mem_map.mp hmem
    rfl
  cases h with
  | waits =>
      exact Or.inr ⟨rfl, hframes [], fun hread => absurd rfl hread, nofun⟩
  | reads channel frames =>
      exact Or.inr ⟨rfl, hframes frames, fun _ => nofun,
        fun _ => ⟨channel, rfl⟩⟩
  | ended state hstate frames ending hending =>
      exact Or.inl ⟨rfl, rfl, ending, List.mem_concat_self, hending⟩
  | aborted frames =>
      exact Or.inr ⟨rfl, hframes frames, fun _ => nofun, nofun⟩

theorem exists_of_reads (h : Story state (some channel) asked own) :
    ∃ frames : List Bytes, own = frames.map .frame := by
  cases h with
  | reads channel frames => exact ⟨frames, rfl⟩

end Story

/-! All readers. -/

namespace Reception

/-- All that was read is accounted for. -/
structure Matches (log : List (Nat × Reading)) (reception : Reception) :
    Prop where
  published : reception.published =
    (framesOf (log.map Prod.snd)).filterMap (eventOf? reception.frameBytes)
  skipped (reason : FrameDefect) : reception.skipped reason =
    (framesOf (log.map Prod.snd)).countP
      (skipReason? reception.frameBytes · = some reason)
  paired : reception.endings.length = reception.readers.length
  /-- Nothing was read by a session that has not begun. -/
  unborn {number : Nat} : reception.readers.length ≤ number →
    readingsOf number log = []
  story {number : Nat} {state : SessionState} {reader : Option Nat} :
    reception.readers[number]? = some (state, reader) →
    ∃ asked, reception.endings[number]? = some asked ∧
      Story state reader asked (readingsOf number log)

namespace Matches

variable {log : List (Nat × Reading)} {reception reception' : Reception}
  {number channel : Nat} {state : SessionState} {reader : Option Nat}

/-- A session comes further without reading. -/
theorem set (h : reception.Matches log)
    (hreader : reception.readers[number]? = some (state, reader))
    {state' : SessionState} {reader' : Option Nat}
    (hfurther : ∀ {asked own}, Story state reader asked own →
      Story state' reader' asked own) :
    Matches log { reception with
      readers := reception.readers.set number (state', reader') } where
  published := h.published
  skipped := h.skipped
  paired := h.paired.trans List.length_set.symm
  unborn hbeyond := by
    rw [List.length_set] at hbeyond
    exact h.unborn hbeyond
  story hother := by
    rcases getElem?_set_cases hother with ⟨rfl, hnow⟩ | ⟨-, hold⟩
    · obtain ⟨rfl, rfl⟩ := Prod.mk.inj hnow
      obtain ⟨asked, hasked, hstory⟩ := h.story hreader
      exact ⟨asked, hasked, hfurther hstory⟩
    · exact h.story hold

/-- A session begins, which has not read anything. -/
theorem begins (h : reception.Matches log) : Matches log { reception with
      readers := reception.readers ++ [(.negotiating, none)]
      endings := reception.endings ++ [0] } where
  published := h.published
  skipped := h.skipped
  paired := by simpa using h.paired
  unborn hbeyond := by
    rw [List.length_append] at hbeyond
    exact h.unborn (Nat.le_of_add_right_le hbeyond)
  story hreader := by
    rcases getElem?_concat_eq_some.mp hreader with hold | ⟨rfl, hnew⟩
    · obtain ⟨asked, hasked, hstory⟩ := h.story hold
      exact ⟨asked, getElem?_concat_eq_some.mpr (Or.inl hasked), hstory⟩
    · obtain ⟨rfl, rfl⟩ := Prod.mk.inj hnew
      refine ⟨0, getElem?_concat_eq_some.mpr (Or.inr ⟨h.paired.symm, rfl⟩), ?_⟩
      rw [h.unborn (Nat.le_refl _)]
      exact .waits

/-- While nothing is read all stays accounted for. -/
theorem waits (h : reception.Matches log)
    (hwaits : reception.Waits reception') : reception'.Matches log := by
  cases hwaits with
  | rests => exact h
  | begins => exact h.begins
  | opens number channel reader hwaiting =>
      exact h.set hwaiting fun hstory => hstory.opens channel
  | closes number state reader hopen =>
      exact h.set hopen Story.closes

/-- A session that reads has begun. -/
theorem lt_of_reader
    (hreader : reception.readers[number]? = some (state, reader)) :
    number < reception.readers.length :=
  (List.getElem?_eq_some_iff.mp hreader).1

/-- What one session reads is not what another one reads. -/
theorem unborn_concat (h : reception.Matches log)
    (hreader : reception.readers[number]? = some (state, reader))
    (reading : Reading) {other : Nat}
    (hbeyond : reception.readers.length ≤ other) :
    readingsOf other (log ++ [(number, reading)]) = [] := by
  rw [readingsOf_concat, if_neg, h.unborn hbeyond]
  rintro rfl
  exact Nat.not_lt.mpr hbeyond (lt_of_reader hreader)

/-- A frame goes out as an event, or it is counted. -/
theorem took (h : reception.Matches log)
    (hreader : reception.readers[number]? = some (state, some channel))
    (bytes : Bytes) :
    (reception.took (.ofFrame reception.frameBytes bytes)).Matches
      (log ++ [(number, .frame bytes)]) := by
  have hframes : framesOf ((log ++ [(number, Reading.frame bytes)]).map
      Prod.snd) = framesOf (log.map Prod.snd) ++ [bytes] := by
    rw [List.map_append]
    exact framesOf_concat _ _
  exact {
    published := by
      change reception.published ++ _ =
        List.filterMap (eventOf? reception.frameBytes) _
      rw [hframes, List.filterMap_append, ← h.published, event?_ofFrame,
        List.filterMap_cons]
      cases eventOf? reception.frameBytes bytes <;> rfl
    skipped := fun reason => by
      change reception.skipped reason + _ =
        List.countP (skipReason? reception.frameBytes · = some reason) _
      rw [hframes, List.countP_append, ← h.skipped reason, defect?_ofFrame,
        List.countP_singleton]
      cases skipReason? reception.frameBytes bytes <;>
        simp [List.count_singleton]
    paired := h.paired
    unborn := fun hbeyond => h.unborn_concat hreader _ hbeyond
    story := fun {other state' reader'} hother => by
      change reception.readers[other]? = some (state', reader') at hother
      obtain ⟨asked, hasked, hstory⟩ := h.story hother
      refine ⟨asked, hasked, ?_⟩
      rw [readingsOf_concat]
      by_cases hsame : number = other
      · subst hsame
        obtain ⟨rfl, rfl⟩ :=
          Prod.mk.inj (Option.some.inj (hreader.symm.trans hother))
        rw [if_pos rfl]
        exact hstory.frame bytes
      · rw [if_neg hsame]
        exact hstory }

/-- A channel has ended. -/
theorem ended (h : reception.Matches log)
    (hreader : reception.readers[number]? = some (state, some channel))
    {ending : Reading} (hending : ending.isEnd = true) :
    (reception.ended number state).Matches (log ++ [(number, ending)]) := by
  have hframes : framesOf ((log ++ [(number, ending)]).map Prod.snd) =
      framesOf (log.map Prod.snd) := by
    rw [List.map_append, List.map_singleton, framesOf_concat,
      Reading.frame?_eq_none hending]
    exact List.append_nil _
  exact {
    published := by
      rw [hframes]
      exact h.published
    skipped := fun reason => by
      rw [hframes]
      exact h.skipped reason
    paired := by
      change (reception.endings.modify number _).length =
        (reception.readers.set number _).length
      rw [List.length_modify, List.length_set]
      exact h.paired
    unborn := fun {other} hbeyond => by
      change (reception.readers.set number _).length ≤ other at hbeyond
      rw [List.length_set] at hbeyond
      exact h.unborn_concat hreader _ hbeyond
    story := fun {other state' reader'} hother => by
      change (reception.readers.set number _)[other]? = some (state', reader')
        at hother
      change ∃ asked,
        (reception.endings.modify number _)[other]? = some asked ∧ _
      rw [readingsOf_concat]
      rcases getElem?_set_cases hother with ⟨rfl, hnow⟩ | ⟨hne, hold⟩
      · obtain ⟨rfl, rfl⟩ := Prod.mk.inj hnow
        obtain ⟨asked, hasked, hstory⟩ := h.story hreader
        refine ⟨asked + 1, ?_, ?_⟩
        · rw [List.getElem?_modify_eq, hasked]
          rfl
        · rw [if_pos rfl]
          exact hstory.ends hending
      · obtain ⟨asked, hasked, hstory⟩ := h.story hold
        refine ⟨asked, ?_, ?_⟩
        · simpa [List.getElem?_modify, Ne.symm hne] using hasked
        · rw [if_neg (Ne.symm hne)]
          exact hstory }

end Matches

end Reception

/-! Runs of the proxy. -/

namespace Proxy

/-- What a proxy may come to that began without sessions, and all that was
read, with the numbers of the sessions that read it. A session reads what its
channel gives it, as long as it has a reader; others go on beside it. -/
inductive Reads (settings : ProxySettings) (rtpSource eventSource : Nat) :
    List (Nat × Reading) → Proxy → Prop where
  | create : Reads settings rtpSource eventSource []
      (.create settings rtpSource eventSource)
  | read {log : List (Nat × Reading)} {proxy : Proxy}
      (h : Reads settings rtpSource eventSource log proxy)
      (number channel : Nat) (session : Session)
      (hsession : proxy.sessions[number]? = some session)
      (hreader : session.reader = some channel) (reading : Reading) :
      Reads settings rtpSource eventSource (log ++ [(number, reading)])
        (proxy.heed number channel reading)
  | beside {log : List (Nat × Reading)} {proxy proxy' : Proxy}
      (h : Reads settings rtpSource eventSource log proxy)
      (hbeside : Beside proxy proxy') :
      Reads settings rtpSource eventSource log proxy'

variable {settings : ProxySettings} {rtpSource eventSource : Nat}
  {log : List (Nat × Reading)} {proxy proxy' : Proxy} {number channel : Nat}
  {session : Session}

theorem frameBytes_of_waits {reception reception' : Reception}
    (h : reception.Waits reception') :
    reception'.frameBytes = reception.frameBytes := by
  cases h <;> rfl

theorem Reads.frameBytes (h : Reads settings rtpSource eventSource log proxy) :
    proxy.reception.frameBytes = settings.frameBytes := by
  induction h with
  | create => rfl
  | read h number channel session hsession hreader reading ih =>
      cases reading with
      | frame bytes =>
          rw [reception_heed_frame]
          exact ih
      | ended | failed => exact ih
  | beside h hbeside ih => exact (frameBytes_of_waits hbeside.waits).trans ih

theorem matches_create : (Proxy.create settings rtpSource
    eventSource).reception.Matches [] where
  published := rfl
  skipped _ := rfl
  paired := rfl
  unborn _ := rfl
  story hreader := nomatch hreader

theorem Reads.matches (h : Reads settings rtpSource eventSource log proxy) :
    proxy.reception.Matches log := by
  induction h with
  | create => exact matches_create
  | read h number channel session hsession hreader reading ih =>
      have hreaders := getElem?_readers hsession
      rw [Session.reading, hreader] at hreaders
      by_cases hend : reading.isEnd = true
      · rw [reception_heed_end hsession channel hend]
        exact ih.ended hreaders hend
      · cases reading with
        | frame bytes =>
            rw [reception_heed_frame]
            exact ih.took hreaders bytes
        | ended | failed => contradiction
  | beside h hbeside ih => exact ih.waits hbeside.waits

/-- Only sessions read. -/
theorem Reads.exists_session
    (h : Reads settings rtpSource eventSource log proxy)
    (hread : readingsOf number log ≠ []) :
    ∃ session, proxy.sessions[number]? = some session := by
  by_cases hrange : number < proxy.sessions.length
  · exact ⟨_, List.getElem?_eq_getElem hrange⟩
  · refine absurd (h.matches.unborn ?_) hread
    simpa [reception] using hrange

/-- A session that has a reader can get whatever its channel gives it, frame by
frame until the end. -/
theorem Reads.untilEnd (h : Reads settings rtpSource eventSource log proxy)
    (hsession : proxy.sessions[number]? = some session)
    (hreader : session.reader = some channel) (frames : List Bytes)
    (ending : Reading) :
    ∃ proxy', Reads settings rtpSource eventSource
      (log ++ (LanRelay.untilEnd frames ending).map (number, ·)) proxy' := by
  induction frames generalizing log proxy with
  | nil => exact ⟨_, h.read number channel session hsession hreader ending⟩
  | cons bytes frames ih =>
      have hread := h.read number channel session hsession hreader
        (.frame bytes)
      have hstill : (proxy.heed number channel
          (.frame bytes)).sessions[number]? = some session := by
        rw [heed]
        cases Inbound.ofFrame proxy.settings.frameBytes bytes <;> exact hsession
      obtain ⟨proxy', hproxy'⟩ := ih hread hstill
      refine ⟨proxy', ?_⟩
      rw [List.append_assoc] at hproxy'
      exact hproxy'

/-- Every step of the proxy belongs to such a run, and only readers read. -/
theorem Reads.step (h : Reads settings rtpSource eventSource log proxy)
    {actor : Actor} (hstep : proxy.step? actor = some proxy') :
    ∃ more : List (Nat × Reading), (∀ entry ∈ more, actor = .reader entry.1) ∧
      Reads settings rtpSource eventSource (log ++ more) proxy' := by
  by_cases hactor : ∃ number, actor = .reader number
  · obtain ⟨number, rfl⟩ := hactor
    obtain ⟨session, hsession, hread⟩ := Option.bind_eq_some_iff.mp hstep
    obtain ⟨channel, hreader, hread⟩ := Option.bind_eq_some_iff.mp hread
    obtain ⟨link, hlink, hread⟩ := Option.bind_eq_some_iff.mp hread
    have honly (reading : Reading) : ∀ entry ∈ [(number, reading)],
        Actor.reader number = .reader entry.1 := by
      intro entry hentry
      rw [List.mem_singleton.mp hentry]
    split at hread
    · contradiction
    · obtain rfl := Option.some.inj hread
      exact ⟨_, honly .ended, h.read number channel session hsession hreader _⟩
    · rename_i frame link' hframe
      obtain rfl := Option.some.inj hread
      have hlinked := h.beside (.browse number fun _ => link')
      exact ⟨_, honly (.frame frame),
        hlinked.read number channel session hsession hreader _⟩
  · have hbeside : Beside proxy proxy' :=
      .act actor (fun number hreads => hactor ⟨number, hreads⟩) hstep
    refine ⟨[], fun _ hentry => absurd hentry List.not_mem_nil, ?_⟩
    rw [List.append_nil]
    exact h.beside hbeside

end Proxy

def sampleEvent : Event := ⟨"a", .zero, .raw []⟩

/-- An event, a frame that is not one, one that is longer than a datagram, and
one that is too long. -/
def sampleFrames : List Bytes :=
  [sampleEvent.toWire, [255], .replicate 1025 0, .replicate 1031 0]

def roomySettings : ProxySettings :=
  { Proxy.sampleSettings with frameBytes := 1030 }

end LanRelay
