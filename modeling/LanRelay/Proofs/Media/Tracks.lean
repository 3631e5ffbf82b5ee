/-
The order of packets on the way to the tracks.

What was written to the track of a session, followed by what its outlet has yet
to write and by what the loop has yet to offer to it, are packets in the order
in which they were dispatched, and all of them were dispatched after the outlet
was registered.

Main statement: `TrackOrder.step`, by which this is kept by every step.
-/
import LanRelay.Proofs.Media.Order

namespace LanRelay

open Rtp (Packet)

namespace MediaPath

variable {path path' : MediaPath}

/-- The track that each outlet is for, and the payload type for it. -/
def tracks (path : MediaPath) : List (Option (Nat × UInt8)) :=
  path.fanout.registry.outlets.map (·.sink.track?)

theorem getElem?_concat_cases {α : Type} {items : List α} {last item : α}
    {number : Nat} (h : (items ++ [last])[number]? = some item) :
    items[number]? = some item ∨ number = items.length ∧ last = item := by
  obtain ⟨hrange, heq⟩ := List.getElem?_eq_some_iff.mp h
  rw [List.length_append, List.length_singleton] at hrange
  by_cases hlt : number < items.length
  · rw [List.getElem?_append_left hlt] at h
    exact Or.inl h
  · obtain rfl : number = items.length := by omega
    exact Or.inr ⟨rfl, by simpa using heq⟩

/-- The copy of a packet for an outlet, if the outlet is among those that are
pending. -/
def share (packet : Packet) (pending : List (SessionId × Nat))
    (number : Nat) : List Packet :=
  if number ∈ pending.map Prod.snd then [packet] else []

/-- What the loop has yet to offer to an outlet. -/
def due (path : MediaPath) (number : Nat) : List Packet :=
  match path.fanout.loop, path.offer with
  | some (.offering _ []), _ => []
  | some (.offering packet (entry :: pending)), none =>
      share packet (entry :: pending) number
  | some (.offering packet (entry :: pending)), some stage =>
      if entry.2 = number then stage.inFlight else share packet pending number
  | some (.evicting _ packet pending), _ => share packet pending number
  | none, _ | some .waiting, _ | some .ended, _ => []

/-- All that is on the way to an outlet or to its sink, the next at the
head. -/
def toCome (path : MediaPath) (number : Nat) : List Packet :=
  path.fanout.registry.waiting number ++ path.due number

theorem share_sublist (packet : Packet) (pending : List (SessionId × Nat))
    (number : Nat) : (share packet pending number).Sublist [packet] := by
  unfold share
  split
  · exact List.Sublist.refl _
  · exact List.nil_sublist _

theorem share_eq_nil {packet : Packet} {pending : List (SessionId × Nat)}
    {number : Nat} (h : number ∉ pending.map Prod.snd) :
    share packet pending number = [] := if_neg h

theorem share_cons (packet : Packet) (entry : SessionId × Nat)
    (pending : List (SessionId × Nat)) (number : Nat) :
    share packet (entry :: pending) number =
      if entry.2 = number then [packet] else share packet pending number := by
  by_cases h : entry.2 = number
  · simp [share, h]
  · have hne : number ≠ entry.2 := Ne.symm h
    simp only [share, List.map_cons, List.mem_cons, hne, false_or, if_neg h]

theorem share_perm {packet : Packet} {pending pending' : List (SessionId × Nat)}
    (h : pending'.Perm pending) (number : Nat) :
    share packet pending' number = share packet pending number := by
  simp only [share, (h.map Prod.snd).mem_iff]

theorem due_of_offering (path : MediaPath) {packet : Packet}
    {pending : List (SessionId × Nat)}
    (hloop : path.fanout.loop = some (.offering packet pending))
    (hoffer : path.offer = none) (number : Nat) :
    path.due number = share packet pending number := by
  unfold due
  rw [hloop, hoffer]
  cases pending <;> rfl

theorem due_of_offer (path : MediaPath) {packet : Packet}
    {entry : SessionId × Nat} {pending : List (SessionId × Nat)}
    {stage : OfferStage Packet}
    (hloop : path.fanout.loop = some (.offering packet (entry :: pending)))
    (hoffer : path.offer = some stage) (number : Nat) :
    path.due number =
      if entry.2 = number then stage.inFlight
      else share packet pending number := by
  unfold due
  rw [hloop, hoffer]

theorem due_of_evicting {packet : Packet} {id : SessionId}
    {pending : List (SessionId × Nat)}
    (hloop : path.fanout.loop = some (.evicting id packet pending))
    (number : Nat) : path.due number = share packet pending number := by
  unfold due
  rw [hloop]

/-- The loop has nothing for an outlet that is not before it. -/
theorem due_eq_nil {number : Nat} (h : number ∉ path.ahead) :
    path.due number = [] := by
  unfold ahead at h
  unfold due
  split
  · rfl
  · rename_i hloop hoffer
    rw [hloop] at h
    exact share_eq_nil h
  · rename_i hloop hoffer
    simp only [hloop, List.map_cons, List.mem_cons, not_or] at h
    rw [if_neg (Ne.symm h.1), share_eq_nil h.2]
  · rename_i hloop
    rw [hloop] at h
    exact share_eq_nil h
  all_goals rfl

theorem due_of_ahead (h : path.ahead = []) (number : Nat) :
    path.due number = [] := due_eq_nil (h ▸ List.not_mem_nil)

/-- A step of a worker as it is seen on the way to the tracks. -/
theorem work_spec {number : Nat} {fanout : Fanout PacketSink Packet}
    {scene : Scene}
    (h : path.fanout.work? number path.scene = some (fanout, scene)) :
    ∃ sink moved, path.tracks[number]? = some (PacketSink.track? sink) ∧
      (path.work fanout scene).tracks = path.tracks ∧
      scene.terms = path.scene.terms ∧
      (∀ session, (path.work fanout scene).written session =
        path.written session ++ sink.output session moved) ∧
      (moved ++ (path.work fanout scene).toCome number).Sublist
        (path.toCome number) ∧
      ∀ other, number ≠ other →
        (path.work fanout scene).toCome other = path.toCome other := by
  obtain ⟨outlet, outlet', houtlet, hstep, rfl⟩ := Fanout.eq_of_work? h
  obtain ⟨htrack, hterms, moved, hmoved, hmedia⟩ := Outlet.work?_spec hstep
  have hwaiting (other : Nat) :=
    Registry.waiting_set outlet' other houtlet
  refine ⟨outlet.sink, moved, ?_, Registry.map_set houtlet htrack, hterms,
    fun session => ?_, ?_, fun other hother => ?_⟩
  · rw [tracks, List.getElem?_map, houtlet]
    rfl
  · change _ ++ (scene.media session).drop _ = _
    rw [hmedia, List.drop_left]
  · change List.Sublist (moved ++ (Registry.waiting { path.fanout.registry with
      outlets := path.fanout.registry.outlets.set number outlet' } number ++
        path.due number)) _
    rw [hwaiting, if_pos rfl, toCome, Registry.waiting_of_getElem? houtlet,
      ← List.append_assoc]
    exact hmoved.append_right _
  · change Registry.waiting { path.fanout.registry with
      outlets := path.fanout.registry.outlets.set number outlet' } other ++
        path.due other = _
    rw [hwaiting, if_neg hother, toCome]

/-- The order of the packets on the way to the tracks. -/
structure TrackOrder (path : MediaPath) : Prop where
  /-- A track belongs to one outlet. -/
  owner : ∀ {number other session : Nat} {payloadType payloadType' : UInt8},
    path.tracks[number]? = some (some (session, payloadType)) →
      path.tracks[other]? = some (some (session, payloadType')) →
        number = other
  order : ∀ {number session : Nat} {payloadType : UInt8},
    path.tracks[number]? = some (some (session, payloadType)) →
      ∃ count terms packets, path.since session = some count ∧
        count ≤ path.dispatched.length ∧
        path.scene.terms[session]? = some terms ∧
        terms.payloadType = payloadType ∧
        path.written session = packets.map ({ · with payloadType }) ∧
        (packets ++ path.toCome number).Sublist (path.dispatched.drop count)
  /-- Nothing was written to a track that no outlet was made for. -/
  untouched : ∀ {session : Nat},
    (∀ payloadType : UInt8, some (session, payloadType) ∉ path.tracks) →
      path.since session = none ∧ path.written session = []

namespace TrackOrder

/-- The order stays while nothing is written or dispatched and nothing comes to
be on the way. -/
theorem of_sublist (h : TrackOrder path) (htracks : path'.tracks = path.tracks)
    (hsince : path'.since = path.since)
    (hwritten : path'.written = path.written)
    (hdispatched : path'.dispatched = path.dispatched)
    (hterms : path.scene.terms <+: path'.scene.terms)
    (hcome : ∀ number, (path'.toCome number).Sublist (path.toCome number)) :
    TrackOrder path' where
  owner hnumber hother := h.owner (htracks ▸ hnumber) (htracks ▸ hother)
  order := by
    intro number session payloadType hnumber
    obtain ⟨count, terms, packets, hcount, hle, hsession, htype, hpackets,
      hsublist⟩ := h.order (htracks ▸ hnumber)
    refine ⟨count, terms, packets, hsince ▸ hcount, hdispatched ▸ hle, ?_,
      htype, hwritten ▸ hpackets, ?_⟩
    · obtain ⟨rest, hrest⟩ := hterms
      have hrange := (List.getElem?_eq_some_iff.mp hsession).1
      rw [← hrest, List.getElem?_append_left hrange, hsession]
    · rw [hdispatched]
      exact ((hcome number).append_left packets).trans hsublist
  untouched hnone := by
    rw [hsince, hwritten]
    exact h.untouched (htracks ▸ hnone)

/-- The order stays while only registrations and outlets change, and these not
in what they are for and have yet to write. -/
theorem of_registry (h : TrackOrder path)
    {registry : Registry PacketSink Packet}
    (htracks : registry.outlets.map (·.sink.track?) = path.tracks)
    (hwaiting : registry.waiting = path.fanout.registry.waiting) :
    TrackOrder (path.withRegistry registry) :=
  h.of_sublist htracks rfl rfl rfl (List.prefix_refl _) fun number => by
    change List.Sublist (registry.waiting number ++ path.due number) _
    rw [hwaiting]
    exact List.Sublist.refl _

theorem dispatch (h : TrackOrder path) (packet : Packet)
    (hloop : path.fanout.loop = some .waiting) (hoffer : path.offer = none) :
    TrackOrder (path.dispatch packet) where
  owner := h.owner
  order := by
    intro number session payloadType hnumber
    obtain ⟨count, terms, packets, hcount, hle, hterms, htype, hpackets,
      hsublist⟩ := h.order hnumber
    have hbefore : path.toCome number =
        path.fanout.registry.waiting number := by
      rw [toCome, due_of_ahead (by rw [ahead, hloop]), List.append_nil]
    have hdue : (path.dispatch packet).due number =
        share packet path.fanout.registry.snapshot number :=
      due_of_offering (path.dispatch packet) rfl hoffer number
    have hafter : (path.dispatch packet).toCome number =
        path.fanout.registry.waiting number ++
          share packet path.fanout.registry.snapshot number :=
      congrArg _ hdue
    refine ⟨count, terms, packets, hcount, ?_, hterms, htype, hpackets, ?_⟩
    · exact Nat.le_trans hle (by simp [MediaPath.dispatch])
    · change List.Sublist _ ((path.dispatched ++ [packet]).drop count)
      rw [List.drop_append_of_le_length hle, hafter, ← List.append_assoc,
        ← hbefore]
      exact hsublist.append (share_sublist packet _ number)
  untouched := h.untouched

theorem offerTo (h : TrackOrder path) {packet : Packet}
    {entry : SessionId × Nat} {pending : List (SessionId × Nat)}
    {outlet : Outlet PacketSink Packet} {stage : OfferStage Packet}
    (hloop : path.fanout.loop = some (.offering packet (entry :: pending)))
    (houtlet : path.fanout.registry.outlets[entry.2]? = some outlet)
    (hoffer : path.offer = some stage) :
    TrackOrder (path.offerTo entry.2 outlet stage) := by
  refine h.of_sublist (Registry.map_set houtlet rfl) rfl rfl rfl
    (List.prefix_refl _) fun number => ?_
  rw [toCome, toCome, due_of_offer path hloop hoffer,
    due_of_offer (path.offerTo entry.2 outlet stage) hloop rfl]
  change List.Sublist (Registry.waiting { path.fanout.registry with
    outlets := path.fanout.registry.outlets.set entry.2 _ } number ++ _) _
  rw [Registry.waiting_set _ _ houtlet]
  by_cases hnumber : entry.2 = number
  · rw [if_pos hnumber, if_pos hnumber, if_pos hnumber, ← hnumber,
      Registry.waiting_of_getElem? houtlet, Outlet.waiting, Outlet.waiting,
      List.append_assoc, List.append_assoc]
    exact (stage.step_sublist outlet.policy outlet.queue).append_left _
  · rw [if_neg hnumber, if_neg hnumber, if_neg hnumber]

theorem account (h : TrackOrder path) {packet : Packet} {id : SessionId}
    {number : Nat} {pending : List (SessionId × Nat)} {outcome : Offer}
    (hloop : path.fanout.loop =
      some (.offering packet ((id, number) :: pending)))
    (hoffer : path.offer = some (.finished outcome))
    (hnew : number ∉ pending.map Prod.snd) :
    TrackOrder (path.account outcome id number packet pending) := by
  have hdue (other : Nat) :
      (path.account outcome id number packet pending).due other =
        share packet pending other := by
    rcases Fanout.judge_loop _ outcome id number packet pending with
      hnext | hnext
    · exact due_of_offering _ hnext rfl other
    · exact due_of_evicting hnext other
  have hwaiting : (path.account outcome id number packet
      pending).fanout.registry.waiting = path.fanout.registry.waiting :=
    (congrArg Registry.waiting (Fanout.judge_registry ..)).trans
      (Registry.waiting_adjust _ _ fun _ => rfl)
  refine h.of_sublist ?_ rfl rfl rfl (List.prefix_refl _) fun other => ?_
  · rw [tracks, MediaPath.account, Fanout.judge_registry]
    exact path.fanout.registry.map_adjust number fun _ => rfl
  · rw [toCome, toCome, hwaiting, hdue, due_of_offer path hloop hoffer]
    -- The outlet of the offer is not pending again in the same pass.
    by_cases hother : number = other
    · rw [share_eq_nil (hother ▸ hnew), if_pos hother]
      exact List.Sublist.refl _
    · rw [if_neg hother]

theorem evict (h : TrackOrder path) {packet : Packet} {id : SessionId}
    {pending : List (SessionId × Nat)}
    (hloop : path.fanout.loop = some (.evicting id packet pending))
    (hoffer : path.offer = none) :
    TrackOrder (path.evict id packet pending) := by
  have hwaiting : (path.evict id packet pending).fanout.registry.waiting =
      path.fanout.registry.waiting :=
    path.fanout.registry.waiting_unregister id
  refine h.of_sublist
    (path.fanout.registry.unregister_outlets id fun _ => rfl) rfl rfl rfl
    (List.prefix_refl _) fun number => ?_
  rw [toCome, toCome, hwaiting, due_of_evicting hloop,
    due_of_offering (path.evict id packet pending) rfl hoffer]

/-- A worker moves packets from the front of what is to come to its outlet to
the end of what was written to its track. -/
theorem work (h : TrackOrder path) {number : Nat}
    {fanout : Fanout PacketSink Packet} {scene : Scene}
    (hwork : path.fanout.work? number path.scene = some (fanout, scene)) :
    TrackOrder (path.work fanout scene) := by
  obtain ⟨sink, moved, hsink, htracks, hscene, hwritten, hcome, hothers⟩ :=
    work_spec hwork
  refine ⟨fun hone hother => h.owner (htracks ▸ hone) (htracks ▸ hother), ?_,
    fun {session} hnone => ?_⟩
  · intro other session payloadType hother
    rw [htracks] at hother
    obtain ⟨count, terms, packets, hcount, hle, hterms, htype, hpackets,
      hsublist⟩ := h.order hother
    -- The track of the worker has grown, and no other outlet writes to it.
    by_cases hnumber : number = other
    · subst hnumber
      have htrack := Option.some.inj (hsink.symm.trans hother)
      refine ⟨count, terms, packets ++ moved, hcount, hle, hscene ▸ hterms,
        htype, ?_, ?_⟩
      · rw [hwritten, hpackets, List.map_append,
          PacketSink.output_of_track? htrack]
      · rw [List.append_assoc]
        exact (hcome.append_left packets).trans hsublist
    · have hforeign : ∀ payloadType',
          sink.track? ≠ some (session, payloadType') := fun payloadType' heq =>
        hnumber (h.owner (hsink.trans (congrArg some heq)) hother)
      refine ⟨count, terms, packets, hcount, hle, hscene ▸ hterms, htype, ?_,
        ?_⟩
      · rw [hwritten, PacketSink.output_eq_nil hforeign, List.append_nil,
          hpackets]
      · rwa [hothers other hnumber]
  · rw [htracks] at hnone
    have hforeign : ∀ payloadType,
        sink.track? ≠ some (session, payloadType) := fun payloadType heq =>
      hnone payloadType (heq ▸ List.mem_of_getElem? hsink)
    obtain ⟨hsince, hnothing⟩ := h.untouched hnone
    refine ⟨hsince, ?_⟩
    rw [hwritten, PacketSink.output_eq_nil hforeign, hnothing, List.append_nil]

theorem tracks_register (path : MediaPath) (id : SessionId)
    (outlet : Outlet PacketSink Packet) :
    (path.register id outlet).tracks = path.tracks ++ [outlet.sink.track?] :=
  path.fanout.registry.map_register id rfl

theorem toCome_register (path : MediaPath) (id : SessionId)
    {outlet : Outlet PacketSink Packet} (h : outlet.waiting = []) :
    (path.register id outlet).toCome = path.toCome := by
  funext number
  exact congrArg (· number ++ path.due number)
    (path.fanout.registry.waiting_register id h)

theorem registerLog (h : TrackOrder path) (id : SessionId)
    {outlet : Outlet PacketSink Packet} (hsink : outlet.sink.track? = none)
    (houtlet : outlet.waiting = []) : TrackOrder (path.register id outlet) := by
  have htracks : (path.register id outlet).tracks = path.tracks ++ [none] :=
    hsink ▸ tracks_register path id outlet
  have hcome := toCome_register path id houtlet
  have hold {number : Nat} {track : Nat × UInt8}
      (hnumber : (path.register id outlet).tracks[number]? =
        some (some track)) : path.tracks[number]? = some (some track) := by
    rw [htracks] at hnumber
    exact (getElem?_concat_cases hnumber).resolve_right fun hlast => by
      cases hlast.2
  refine ⟨fun hone hother => h.owner (hold hone) (hold hother), ?_,
    fun hnone => ?_⟩
  · intro number session payloadType hnumber
    rw [hcome]
    exact h.order (hold hnumber)
  · refine h.untouched fun payloadType hmem => hnone payloadType ?_
    rw [htracks]
    exact List.mem_append_left _ hmem

theorem registerTrack (h : TrackOrder path) (id : SessionId) {session : Nat}
    {terms : Terms} {outlet : Outlet PacketSink Packet}
    (hsink : outlet.sink.track? = some (session, terms.payloadType))
    (houtlet : outlet.waiting = [])
    (hterms : path.scene.terms[session]? = some terms)
    (hnew : ∀ payloadType, some (session, payloadType) ∉ path.tracks)
    (hlast : path.toCome path.tracks.length = []) :
    TrackOrder (path.registerTrack id session outlet) := by
  have htracks : (path.registerTrack id session outlet).tracks =
      path.tracks ++ [some (session, terms.payloadType)] :=
    hsink ▸ tracks_register path id outlet
  have hcome : (path.registerTrack id session outlet).toCome =
      path.toCome := toCome_register path id houtlet
  have hfresh {number : Nat} {payloadType : UInt8} :
      path.tracks[number]? ≠ some (some (session, payloadType)) := fun heq =>
    hnew payloadType (List.mem_of_getElem? heq)
  refine ⟨?_, ?_, ?_⟩
  · intro number other owner payloadType payloadType' hone hother
    rw [htracks] at hone hother
    rcases getElem?_concat_cases hone with hold | ⟨heq, hlast⟩ <;>
      rcases getElem?_concat_cases hother with hold' | ⟨heq', hlast'⟩
    · exact h.owner hold hold'
    · cases hlast'
      exact absurd hold hfresh
    · cases hlast
      exact absurd hold' hfresh
    · exact heq.trans heq'.symm
  · intro number owner payloadType hnumber
    rw [htracks] at hnumber
    rcases getElem?_concat_cases hnumber with hold | ⟨rfl, hlast'⟩
    · have hother : owner ≠ session := by
        rintro rfl
        exact hfresh hold
      obtain ⟨count, terms', packets, hcount, hrest⟩ := h.order hold
      refine ⟨count, terms', packets, ?_, hcome ▸ hrest⟩
      exact (if_neg hother).trans hcount
    · cases hlast'
      refine ⟨path.dispatched.length, terms, [], if_pos rfl, Nat.le_refl _,
        hterms, rfl, (h.untouched hnew).2, ?_⟩
      rw [hcome, hlast]
      exact List.nil_sublist _
  · intro other hnone
    rw [htracks] at hnone
    have hother : other ≠ session := by
      rintro rfl
      exact hnone terms.payloadType (by simp)
    obtain ⟨hsince, hwritten⟩ := h.untouched fun payloadType hmem =>
      hnone payloadType (List.mem_append_left _ hmem)
    exact ⟨(if_neg hother).trans hsince, hwritten⟩

/-- The order stays while the loop comes to have nothing for any outlet. -/
theorem of_ahead (h : TrackOrder path) (loop : FanoutLoop Packet)
    (totals : Stats.DispatchTotals)
    (hahead : ahead { path with fanout := { path.fanout with
      loop := some loop, totals } } = []) :
    TrackOrder { path with fanout := { path.fanout with
      loop := some loop, totals } } :=
  h.of_sublist rfl rfl rfl rfl (List.prefix_refl _) fun number => by
    rw [toCome, due_of_ahead hahead, List.append_nil]
    exact List.sublist_append_left _ _

theorem step (h : TrackOrder path) (hpass : PassOrder path)
    (hstep : Step path path') : TrackOrder path' := by
  cases hstep with
  | start hloop => exact h.of_ahead .waiting {} rfl
  | dispatch packet hloop htaken =>
      exact h.dispatch packet hloop
        (hpass.offer_eq_none fun _ _ _ heq => by simp [hloop] at heq)
  | reorder packet pending pending' hloop hoffer hperm =>
      refine h.of_sublist rfl rfl rfl rfl (List.prefix_refl _) fun number => ?_
      have hdue : (path.withLoop (.offering packet pending')).due number =
          path.due number := by
        rw [due_of_offering (path.withLoop _) rfl hoffer,
          due_of_offering path hloop hoffer, share_perm hperm]
      rw [toCome, toCome, hdue]
      exact List.Sublist.refl _
  | beginOffer packet entry pending hloop hoffer =>
      refine h.of_sublist rfl rfl rfl rfl (List.prefix_refl _) fun number => ?_
      have hdue : due { path with offer := some (.start packet) } number =
          path.due number := by
        rw [due_of_offer { path with offer := some (.start packet) } hloop rfl,
          due_of_offering path hloop hoffer, share_cons]
        rfl
      rw [toCome, toCome, hdue]
  | offer packet id number pending outlet stage hloop houtlet hoffer =>
      exact h.offerTo hloop houtlet hoffer
  | account packet id number pending outcome hloop hoffer =>
      have hnodup := hpass.nodup
      simp only [ahead, hloop, List.map_cons, List.nodup_cons] at hnodup
      exact h.account hloop hoffer hnodup.1
  | evict packet id pending hloop =>
      exact h.evict hloop
        (hpass.offer_eq_none fun _ _ _ heq => by simp [hloop] at heq)
  | endPass packet hloop => exact h.of_ahead .waiting _ rfl
  | stop hloop htaken => exact h.of_ahead .ended _ rfl
  | work number fanout scene hwork => exact h.work hwork
  | registerTrack id name capacity policy session link hlink hnew =>
      refine h.registerTrack id rfl rfl ?_ ?_ ?_
      · rw [Scene.terms, List.getElem?_map, hlink]
        rfl
      · intro payloadType hmem
        obtain ⟨outlet, houtlet, htrack⟩ := List.mem_map.mp hmem
        exact hnew outlet houtlet payloadType
          (PacketSink.eq_track_of_track? htrack)
      · -- The number is new, so no pass that is under way has it.
        have hlast : path.tracks.length = path.fanout.registry.outlets.length :=
          List.length_map _
        have hdue : path.due path.tracks.length = [] :=
          due_eq_nil fun hmem => by
            have hrange := hpass.range _ hmem
            omega
        rw [toCome, hdue, hlast, Registry.waiting]
        simp
  | registerLog id name capacity policy items => exact h.registerLog id rfl rfl
  | closeOutlet number =>
      exact h.of_registry (path.fanout.registry.map_adjust number fun _ => rfl)
        (path.fanout.registry.waiting_adjust number fun _ => rfl)
  | others scene hterms =>
      exact h.of_sublist rfl rfl rfl rfl hterms fun _ => List.Sublist.refl _
  | _ =>
      exact h.of_sublist rfl rfl rfl rfl (List.prefix_refl _) fun _ =>
        List.Sublist.refl _

end TrackOrder

end MediaPath

end LanRelay
