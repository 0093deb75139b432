import QuicFec.HandlerFrame
import QuicFec.PacketNumberLength

/-! # Bytes in flight

`sentPacketHandler.bytesInFlight` is a counter that five places move: sending adds
an ack-eliciting packet's length, an acknowledgement and a loss take it off,
dropping a space takes off the bytes of all its packets, and a Retry resets it.
The bytes it should count are those of the packets still in the histories of the
live spaces that are included in the bytes in flight (`inFlight`).

The two agree in every state that a run reaches when the client keeps to its side
of the interface (`Call.Allowed`): a packet is sent with a number above every
number sent in its space, a batch of retransmissions is of one level and in
increasing order, and a Retry comes before any Handshake or 1-RTT packet is sent
(`bytesInFlight_eq_inFlight`).  The proof is by an invariant of every reachable
state (`Inv`): every history is well formed (`SentPacketHistory.WF`), which is what
makes each acknowledged or lost packet be found and removed from the history that
counts it, and the counter equals `inFlight`.  A counter that equals a sum of
lengths has never wrapped below zero.

Without the client's side the counter drifts: a packet number sent twice is counted
twice, and its acknowledgement takes it off once
(`bytesInFlight_duplicate_packetNumber`).
-/

namespace QuicFec
namespace SentPacketHandler
open GoBytes SentPacketHistory

/-! ## The bytes the histories count -/

/-- The bytes in flight the history of a space counts; none for a dropped space. -/
def spaceInFlight : Except GoError PacketNumberSpace → Nat
  | .ok sp => sp.history.inFlight
  | .error _ => 0

/-- The bytes in flight of the packets in the histories of the live spaces. -/
def inFlight (h : SentPacketHandler) : Nat :=
  spaceInFlight (h.getPacketNumberSpace .initial) + spaceInFlight (h.getPacketNumberSpace .handshake) +
    spaceInFlight (h.getPacketNumberSpace .oneRTT)

theorem SpaceKept.spaceInFlight_eq {o o' : Except GoError PacketNumberSpace} (hk : SpaceKept o o') :
    spaceInFlight o' = spaceInFlight o := by
  cases o <;> cases o' <;> simp only [SpaceKept] at hk
  · rfl
  · exact hk.2.inFlight_eq

theorem SpacesKept.inFlight_eq {h h' : SentPacketHandler} (K : SpacesKept h h') :
    h'.inFlight = h.inFlight := by
  simp only [inFlight, (K _).spaceInFlight_eq]

/-- Writing a space changes the count by the difference of what its histories count. -/
theorem inFlight_set {h : SentPacketHandler} {level : EncryptionLevel} {sp : PacketNumberSpace}
    (hsp : h.getPacketNumberSpace level = .ok sp) (sp' : PacketNumberSpace) :
    (h.setPacketNumberSpace level sp').inFlight + sp.history.inFlight =
      h.inFlight + sp'.history.inFlight := by
  have hl := ne_unspecified_of_getPacketNumberSpace hsp
  simp only [inFlight, getPacketNumberSpace_set h hl]
  cases level <;> simp_all [spaceInFlight] <;> omega

theorem inFlight_le {h : SentPacketHandler} {level : EncryptionLevel} {sp : PacketNumberSpace}
    (hsp : h.getPacketNumberSpace level = .ok sp) : sp.history.inFlight ≤ h.inFlight := by
  have hl := ne_unspecified_of_getPacketNumberSpace hsp
  cases level <;> simp_all [inFlight, spaceInFlight] <;> omega

theorem inFlight_of_order_nil {history : SentPacketHistory} (h : history.packetList.order = []) :
    history.inFlight = 0 := by
  simp [SentPacketHistory.inFlight, LinkedList.total, h]

theorem subByteCount_of_le {x n : Nat} (h : n ≤ x) : subByteCount x n = x - n := if_pos h

theorem getPacketNumberSpace_subtractBytesInFlight (h : SentPacketHandler) (p : Packet)
    (level : EncryptionLevel) :
    (h.subtractBytesInFlight p).getPacketNumberSpace level = h.getPacketNumberSpace level := by
  unfold subtractBytesInFlight
  split <;> rfl

theorem bytesInFlight_subtractBytesInFlight (h : SentPacketHandler) (p : Packet) :
    (h.subtractBytesInFlight p).bytesInFlight = subByteCount h.bytesInFlight p.bytesInFlight := by
  unfold subtractBytesInFlight Packet.bytesInFlight
  split <;> simp [subByteCount]

/-! ## The invariant -/

/-- Every live space's history is well formed at its level and its largest number
sent. -/
def SpacesWF (h : SentPacketHandler) : Prop :=
  ∀ level sp, h.getPacketNumberSpace level = .ok sp → sp.history.WF level sp.largestSent

theorem SpacesKept.spacesWF {h h' : SentPacketHandler} (K : SpacesKept h h') (hw : SpacesWF h) :
    SpacesWF h' := by
  intro level sp' hsp'
  obtain ⟨sp, hsp, hls, hs⟩ := K.getPacketNumberSpace_left hsp'
  rw [hls]
  exact hs.wf (hw level sp hsp)

theorem SpacesWF.set {h : SentPacketHandler} {level : EncryptionLevel} {sp' : PacketNumberSpace}
    (hw : SpacesWF h) (hl : level ≠ .unspecified) (hsp' : sp'.history.WF level sp'.largestSent) :
    SpacesWF (h.setPacketNumberSpace level sp') := by
  intro l sp hsp
  rw [getPacketNumberSpace_set h hl] at hsp
  split at hsp
  · subst l
    cases hsp
    exact hsp'
  · exact hw l sp hsp

/-- The invariant of the handler: well-formed histories, and a counter equal to the
bytes they count. -/
structure Inv (h : SentPacketHandler) : Prop where
  spaces_wf : SpacesWF h
  bytesInFlight_eq : h.bytesInFlight = h.inFlight

theorem Keeps.inv {h h' : SentPacketHandler} (K : Keeps h h') (hi : Inv h) : Inv h' :=
  ⟨K.spaces.spacesWF hi.spaces_wf, by
    rw [K.bytesInFlight_eq, hi.bytesInFlight_eq, K.spaces.inFlight_eq]⟩

/-- An update of fields other than the spaces and the bytes in flight keeps the
invariant. -/
theorem Inv.of_spaces {h h' : SentPacketHandler} (hi : Inv h)
    (hini : h'.initialPackets = h.initialPackets) (hh : h'.handshakePackets = h.handshakePackets)
    (ho : h'.oneRTTPackets = h.oneRTTPackets) (hb : h'.bytesInFlight = h.bytesInFlight) : Inv h' :=
  (Keeps.of_spaces hini hh ho hb).inv hi

theorem newSentPacketHandler_inv (initialPacketNumber : Int) (rttStats : RTTStats)
    (numInitial numHandshake numOneRTT : UInt16) :
    Inv (newSentPacketHandler initialPacketNumber rttStats numInitial numHandshake numOneRTT) := by
  refine ⟨fun level sp hsp => ?_, rfl⟩
  cases level <;> simp only [getPacketNumberSpace, newSentPacketHandler] at hsp <;> cases hsp <;>
    exact newSentPacketHistory_wf _ _

/-- The element `e` is linked in the history of the space of `level`. -/
def Linked (h : SentPacketHandler) (level : EncryptionLevel) (e : Nat) : Prop :=
  ∃ sp, h.getPacketNumberSpace level = .ok sp ∧ e ∈ sp.history.packetList.order

theorem SpacesKept.linked {h h' : SentPacketHandler} (K : SpacesKept h h') {level : EncryptionLevel}
    {e : Nat} (hl : Linked h level e) : Linked h' level e := by
  obtain ⟨sp, hsp, he⟩ := hl
  obtain ⟨sp', hsp', -, hs⟩ := K.getPacketNumberSpace hsp
  exact ⟨sp', hsp', hs.order_eq ▸ he⟩

/-! ## A packet leaves the accounting -/

/-- Removing a linked packet from the history of its space: the histories stay well
formed, the packet's bytes leave their count, and the other elements stay linked. -/
theorem modifyHistory_remove {h h' : SentPacketHandler} {level : EncryptionLevel}
    {sp : PacketNumberSpace} {el : Nat} (hw : SpacesWF h) (hsp : h.getPacketNumberSpace level = .ok sp)
    (hel : el ∈ sp.history.packetList.order)
    (hm : h.modifyHistory level (fun history => history.remove (sp.history.value el).packetNumber) =
      .ok h') :
    SpacesWF h' ∧ h'.inFlight + (sp.history.value el).bytesInFlight = h.inFlight ∧
      h'.bytesInFlight = h.bytesInFlight ∧ ∀ e ≠ el, Linked h level e → Linked h' level e := by
  obtain ⟨sp1, history, hsp1, hr, rfl⟩ := modifyHistory_eq hm
  rw [hsp] at hsp1
  cases hsp1
  have hwf := hw level sp hsp
  have hl := ne_unspecified_of_getPacketNumberSpace hsp
  have hget : sp.history.packetMap.get? (sp.history.value el).packetNumber = some el :=
    (hwf.map_iff _ _).2 ⟨hel, rfl⟩
  obtain ⟨el', hget', hfl⟩ := inFlight_remove hwf hr
  rw [hget] at hget'
  cases hget'
  refine ⟨hw.set hl (remove_wf hwf hr), ?_, bytesInFlight_set _ _ _, ?_⟩
  · have := inFlight_set hsp { sp with history }
    dsimp only at this
    omega
  · rintro e hne ⟨sp2, hsp2, he⟩
    rw [hsp] at hsp2
    cases hsp2
    refine ⟨{ sp with history }, by rw [getPacketNumberSpace_set h hl, if_pos rfl], ?_⟩
    obtain ⟨el2, h1, hget2, hs, rfl⟩ := remove_eq hr
    rw [hget] at hget2
    cases hget2
    show e ∈ h1.packetList.order.erase el
    rw [hs.order_eq]
    exact (List.mem_erase_of_ne hne).2 he

/-- How a packet leaves the accounting, in `onPacketAcked` and in
`detectLostPackets`: its bytes are taken off the counter, the retransmission
bookkeeping keeps the frame, and the packet is removed from the history of its
space. -/
theorem subtract_keeps_remove {h h1 h' : SentPacketHandler} {level : EncryptionLevel}
    {sp : PacketNumberSpace} {el : Nat} {p : Packet} (hi : Inv h)
    (hsp : h.getPacketNumberSpace level = .ok sp) (hel : el ∈ sp.history.packetList.order)
    (hpn : p.packetNumber = (sp.history.value el).packetNumber)
    (hbif : p.bytesInFlight = (sp.history.value el).bytesInFlight)
    (K : Keeps (h.subtractBytesInFlight p) h1)
    (hm : h1.modifyHistory level (fun history => history.remove p.packetNumber) = .ok h') :
    Inv h' ∧ ∀ e ≠ el, Linked h level e → Linked h' level e := by
  have hle : p.bytesInFlight ≤ h.bytesInFlight := by
    rw [hbif, hi.bytesInFlight_eq]
    exact Nat.le_trans (sp.history.packetList.le_total Packet.bytesInFlight hel) (inFlight_le hsp)
  have K1 : SpacesKept h h1 :=
    (SpacesKept.of_eq (getPacketNumberSpace_subtractBytesInFlight h p)).trans K.spaces
  obtain ⟨sp1, hsp1, -, hs⟩ := K1.getPacketNumberSpace hsp
  rw [hpn, ← hs.packetNumber_eq el] at hm
  obtain ⟨hw', hfl, hb, hlinked⟩ :=
    modifyHistory_remove (K1.spacesWF hi.spaces_wf) hsp1 (hs.order_eq ▸ hel) hm
  refine ⟨⟨hw', ?_⟩, fun e hne he => hlinked e hne (K1.linked he)⟩
  have hb1 : h1.bytesInFlight = h.bytesInFlight - p.bytesInFlight := by
    rw [K.bytesInFlight_eq, bytesInFlight_subtractBytesInFlight, subByteCount_of_le hle]
  rw [hs.bytesInFlight_eq el, ← hbif, K1.inFlight_eq] at hfl
  rw [hb, hb1, hi.bytesInFlight_eq]
  omega

/-! ## Acknowledgements -/

/-- An acknowledged packet leaves the accounting, and the other linked elements
stay linked. -/
theorem onPacketAcked_inv {h h' : SentPacketHandler} {home : EncryptionLevel} {el : Nat}
    (hi : Inv h) (hl : Linked h home el) (ha : h.onPacketAcked home el = .ok h') :
    Inv h' ∧ ∀ e ≠ el, Linked h home e → Linked h' home e := by
  obtain ⟨sp, hsp, hel⟩ := hl
  have hw := hi.spaces_wf home sp hsp
  obtain ⟨p, hp, ha⟩ := bind_eq_ok.1 ha
  rw [packetAt_of_getPacketNumberSpace hsp] at hp
  cases hp
  have hlevel := hw.level_eq el hel
  rw [hlevel] at ha
  obtain ⟨sp', hsp', ha⟩ := bind_eq_ok.1 ha
  rw [hsp] at hsp'
  cases hsp'
  have hget : sp.history.getPacket (sp.history.value el).packetNumber = some el :=
    (hw.map_iff _ _).2 ⟨hel, rfl⟩
  rw [hget] at ha
  dsimp only at ha
  obtain ⟨h0, hparent, ha⟩ := bind_eq_ok.1 ha
  -- the packet it retransmits forgets it; only a field off the frame changes
  have K0 : Keeps h h0 := by
    split at hparent
    · exact modifyHistory_keeps (fun x y hxy => by
        cases hxy
        exact modifyPacket_sameSlots _ _ fun _ => rfl) hparent
    · cases hparent
      exact Keeps.refl h
  obtain ⟨⟨h3, err⟩, hstop, ha⟩ := bind_eq_ok.1 ha
  have K3 := stopRetransmissionsFor_keeps _ _ _ _ _ _ hstop
  cases err with
  | some e => cases ha
  | none =>
    obtain ⟨sp0, hsp0, -, hs0⟩ := K0.spaces.getPacketNumberSpace hsp
    obtain ⟨hi', hlinked⟩ := subtract_keeps_remove (K0.inv hi) hsp0 (hs0.order_eq ▸ hel)
      (hs0.packetNumber_eq el).symm (hs0.bytesInFlight_eq el).symm K3 ha
    exact ⟨hi', fun e hne he => hlinked e hne (K0.spaces.linked he)⟩

/-- The loop of `ReceivedAck` over distinct linked packets keeps the invariant. -/
theorem ackedPacketsLoop_inv {encLevel : EncryptionLevel} :
    ∀ (els : List Nat) {h h' : SentPacketHandler}, Inv h → els.Nodup →
      (∀ e ∈ els, Linked h encLevel e) → ackedPacketsLoop encLevel h els = .ok h' → Inv h'
  | [], h, h', hi, _, _, hl => by
    cases hl
    exact hi
  | el :: els, h, h', hi, hnd, hlinked, hl => by
    simp only [ackedPacketsLoop] at hl
    obtain ⟨p, -, hl⟩ := bind_eq_ok.1 hl
    obtain ⟨h2, ha, hl⟩ := bind_eq_ok.1 hl
    have K : Keeps h (if p.largestAcked ≠ InvalidPacketNumber ∧ encLevel = .oneRTT then
        { h with lowestNotConfirmedAcked := max h.lowestNotConfirmedAcked (p.largestAcked + 1) }
        else h) := by
      split
      · exact Keeps.of_spaces rfl rfl rfl rfl
      · exact Keeps.refl h
    obtain ⟨hi2, hlinked2⟩ :=
      onPacketAcked_inv (K.inv hi) (K.spaces.linked (hlinked el (List.mem_cons_self ..))) ha
    have hnd' := List.nodup_cons.1 hnd
    refine ackedPacketsLoop_inv els hi2 hnd'.2 (fun e he => ?_) hl
    have hne : e ≠ el := fun h => hnd'.1 (h ▸ he)
    exact hlinked2 e hne (K.spaces.linked (hlinked e (List.mem_cons_of_mem el he)))

theorem ackedPacketsStep_acc {f : AckFrame} {lowestAcked largestAcked : Int} {el : Nat} {p : Packet}
    {st : Nat × List Nat} {c : Bool} {st' : Nat × List Nat}
    (h : ackedPacketsStep f lowestAcked largestAcked el p st = .ok (c, st')) :
    st'.2 = st.2 ∨ st'.2 = st.2 ++ [el] := by
  unfold ackedPacketsStep at h
  split at h
  · cases h
    exact .inl rfl
  · split at h
    · cases h
      exact .inl rfl
    · split at h
      · obtain ⟨⟨i, r⟩, -, h⟩ := bind_eq_ok.1 h
        dsimp only at h
        split at h
        · split at h
          · cases h
          · cases h
            exact .inr rfl
        · cases h
          exact .inl rfl
      · cases h
        exact .inr rfl

/-- The packets an ACK frame acknowledges are distinct elements of the history. -/
theorem determineNewlyAckedPackets_linked {h : SentPacketHandler} {f : AckFrame}
    {encLevel : EncryptionLevel} {els : List Nat}
    (hd : h.determineNewlyAckedPackets f encLevel = .ok els) :
    els.Nodup ∧ ∀ e ∈ els, Linked h encLevel e := by
  obtain ⟨sp, hsp, hd⟩ := bind_eq_ok.1 hd
  obtain ⟨lowestAcked, -, hd⟩ := bind_eq_ok.1 hd
  obtain ⟨largestAcked, -, hd⟩ := bind_eq_ok.1 hd
  obtain ⟨⟨i, acked⟩, hit, hd⟩ := bind_eq_ok.1 hd
  cases hd
  obtain ⟨t, ht, hsub⟩ := LinkedList.iterate_sublist _ _ Prod.snd
    (fun _ _ _ _ _ hcb => ackedPacketsStep_acc hcb) hit
  simp only [List.nil_append] at ht
  subst ht
  exact ⟨hsub.nodup sp.history.packetList.order_nodup, fun e he => ⟨sp, hsp, hsub.subset he⟩⟩

/-! ## Losses -/

theorem dropError_eq_ok {α : Type} {x : Except GoError α} {s s' : α} (h : dropError x s = .ok s') :
    x = .ok s' ∨ ∃ e, x = .error e ∧ (∀ msg, e ≠ .panic msg) ∧ s' = s := by
  unfold dropError at h
  split at h
  · cases h
  · rename_i e hne
    cases h
    exact .inr ⟨e, rfl, fun msg heq => hne msg heq, rfl⟩
  · cases h
    exact .inl rfl

/-- A removal whose error the caller drops, of a packet the history holds: it
cannot fail without panicking. -/
theorem dropError_modifyHistory_remove {h h' : SentPacketHandler} {level : EncryptionLevel}
    {sp : PacketNumberSpace} {pn : Int} {el : Nat} (hsp : h.getPacketNumberSpace level = .ok sp)
    (hget : sp.history.packetMap.get? pn = some el)
    (hd : dropError (h.modifyHistory level fun history => history.remove pn) h = .ok h') :
    h.modifyHistory level (fun history => history.remove pn) = .ok h' := by
  rcases dropError_eq_ok hd with hm | ⟨e, hm, hne, -⟩
  · exact hm
  · simp only [modifyHistory, hsp, ok_bind] at hm
    cases hr : sp.history.remove pn with
    | ok x =>
      rw [hr] at hm
      cases hm
    | error e' =>
      rw [hr] at hm
      cases hm
      obtain ⟨msg, rfl⟩ := remove_error_panic hget hr
      exact absurd rfl (hne msg)

/-- The loop of `detectLostPackets` over distinct linked packets keeps the
invariant. -/
theorem lostPacketsLoop_inv {encLevel : EncryptionLevel} :
    ∀ (els : List Nat) {h h' : SentPacketHandler}, Inv h → els.Nodup →
      (∀ e ∈ els, Linked h encLevel e) → lostPacketsLoop encLevel h els = .ok h' → Inv h'
  | [], h, h', hi, _, _, hl => by
    cases hl
    exact hi
  | el :: els, h, h', hi, hnd, hlinked, hl => by
    simp only [lostPacketsLoop] at hl
    obtain ⟨sp, hsp, hel⟩ := hlinked el (List.mem_cons_self ..)
    obtain ⟨p, hp, hl⟩ := bind_eq_ok.1 hl
    rw [packetAt_of_getPacketNumberSpace hsp] at hp
    cases hp
    obtain ⟨h3, hq, hl⟩ := bind_eq_ok.1 hl
    -- a lost packet that can be retransmitted is queued; the queue is off the frame
    have K3 : Keeps (h.subtractBytesInFlight (sp.history.value el)) h3 := by
      split at hq
      · exact queuePacketForRetransmission_keeps hq
      · cases hq
        exact Keeps.refl _
    obtain ⟨h4, hd, hl⟩ := bind_eq_ok.1 hl
    -- the packet is in the history, so removing it fails only by panicking
    obtain ⟨sp3, hsp3, -, hs3⟩ :=
      ((SpacesKept.of_eq (getPacketNumberSpace_subtractBytesInFlight h _)).trans
        K3.spaces).getPacketNumberSpace hsp
    have hget : sp3.history.packetMap.get? (sp.history.value el).packetNumber = some el := by
      rw [hs3.map_eq]
      exact ((hi.spaces_wf _ sp hsp).map_iff _ _).2 ⟨hel, rfl⟩
    have hm := dropError_modifyHistory_remove hsp3 hget hd
    obtain ⟨hi4, hlinked4⟩ := subtract_keeps_remove hi hsp hel rfl rfl K3 hm
    have hnd' := List.nodup_cons.1 hnd
    refine lostPacketsLoop_inv els hi4 hnd'.2 (fun e he => ?_) hl
    have hne : e ≠ el := fun h => hnd'.1 (h ▸ he)
    exact hlinked4 e hne (hlinked e (List.mem_cons_of_mem el he))

theorem lostPacketsStep_acc {largestAcked now lossDelay : Int} {encLevel : EncryptionLevel}
    {el : Nat} {p : Packet} {st : Option Int × List Nat} {c : Bool} {st' : Option Int × List Nat}
    (h : lostPacketsStep largestAcked now lossDelay encLevel el p st = .ok (c, st')) :
    st'.2 = st.2 ∨ st'.2 = st.2 ++ [el] := by
  unfold lostPacketsStep at h
  split at h
  · cases h
    exact .inl rfl
  · dsimp only at h
    split at h
    · cases h
      exact .inr rfl
    · split at h <;> cases h <;> exact .inl rfl

theorem detectLostPackets_inv {h h' : SentPacketHandler} {now : Int} {encLevel : EncryptionLevel}
    (hi : Inv h) (hd : h.detectLostPackets now encLevel = .ok h') : Inv h' := by
  unfold detectLostPackets at hd
  generalize hh1 : (if encLevel = .oneRTT then { h with lossTime := none } else h) = h1 at hd
  have K1 : Keeps h h1 := by
    subst hh1
    split
    · exact Keeps.of_spaces rfl rfl rfl rfl
    · exact Keeps.refl h
  obtain ⟨sp, hsp, hd⟩ := bind_eq_ok.1 hd
  obtain ⟨⟨lossTime, lost⟩, hit, hd⟩ := bind_eq_ok.1 hd
  obtain ⟨t, ht, hsub⟩ := LinkedList.iterate_sublist _ _ Prod.snd
    (fun _ _ _ _ _ hcb => lostPacketsStep_acc hcb) hit
  simp only [List.nil_append] at ht
  subst ht
  have K2 : Keeps h1 { h1 with lossTime } := Keeps.of_spaces rfl rfl rfl rfl
  exact lostPacketsLoop_inv _ (K2.inv (K1.inv hi)) (hsub.nodup sp.history.packetList.order_nodup)
    (fun e he => K2.spaces.linked ⟨sp, hsp, hsub.subset he⟩) hd

/-! ## Sending -/

theorem bytesInFlight_modifyHistory {h h' : SentPacketHandler} {level : EncryptionLevel}
    {f : SentPacketHistory → Except GoError SentPacketHistory} (hm : h.modifyHistory level f = .ok h') :
    h'.bytesInFlight = h.bytesInFlight := by
  obtain ⟨sp, history, -, -, rfl⟩ := modifyHistory_eq hm
  exact bytesInFlight_set _ _ _

/-- A step on the history of a space changes the count by what the two histories
count. -/
theorem inFlight_modifyHistory {h h' : SentPacketHandler} {level : EncryptionLevel}
    {f : SentPacketHistory → Except GoError SentPacketHistory} {sp : PacketNumberSpace}
    {history : SentPacketHistory} (hsp : h.getPacketNumberSpace level = .ok sp)
    (hf : f sp.history = .ok history) (hm : h.modifyHistory level f = .ok h') :
    h'.inFlight + sp.history.inFlight = h.inFlight + history.inFlight := by
  obtain ⟨sp1, history1, hsp1, hf1, rfl⟩ := modifyHistory_eq hm
  rw [hsp] at hsp1
  cases hsp1
  rw [hf] at hf1
  cases hf1
  exact inFlight_set hsp _

theorem SpacesWF.modifyHistory {h h' : SentPacketHandler} {level : EncryptionLevel}
    {f : SentPacketHistory → Except GoError SentPacketHistory} {sp : PacketNumberSpace}
    {history : SentPacketHistory} (hw : SpacesWF h) (hsp : h.getPacketNumberSpace level = .ok sp)
    (hf : f sp.history = .ok history) (hwf : history.WF level sp.largestSent)
    (hm : h.modifyHistory level f = .ok h') : SpacesWF h' := by
  obtain ⟨sp1, history1, hsp1, hf1, rfl⟩ := modifyHistory_eq hm
  rw [hsp] at hsp1
  cases hsp1
  rw [hf] at hf1
  cases hf1
  exact hw.set (ne_unspecified_of_getPacketNumberSpace hsp) hwf

section Raise

variable {h h1 : SentPacketHandler} {level : EncryptionLevel} {sp : PacketNumberSpace} {m : Int}

/-- A state whose spaces are those of `h`, with a larger number sent in one of
them, has well-formed histories. -/
theorem SpacesWF.raise (hw : SpacesWF h) (hsp : h.getPacketNumberSpace level = .ok sp)
    (hm : sp.largestSent ≤ m)
    (hspaces : ∀ l, h1.getPacketNumberSpace l =
      (h.setPacketNumberSpace level { sp with largestSent := m }).getPacketNumberSpace l) :
    SpacesWF h1 := by
  have hset : SpacesWF (h.setPacketNumberSpace level { sp with largestSent := m }) :=
    hw.set (ne_unspecified_of_getPacketNumberSpace hsp) ((hw level sp hsp).mono hm)
  intro l sp' hsp'
  rw [hspaces] at hsp'
  exact hset l sp' hsp'

/-- Such a state counts what `h` counts. -/
theorem inFlight_raise (hsp : h.getPacketNumberSpace level = .ok sp)
    (hspaces : ∀ l, h1.getPacketNumberSpace l =
      (h.setPacketNumberSpace level { sp with largestSent := m }).getPacketNumberSpace l) :
    h1.inFlight = h.inFlight := by
  have hset := inFlight_set hsp { sp with largestSent := m }
  have heq : h1.inFlight =
      (h.setPacketNumberSpace level { sp with largestSent := m }).inFlight := by
    simp only [inFlight, hspaces]
  dsimp only at hset
  omega

end Raise

/-- What `sentPacketImpl` does: the packet's space takes the packet's number as its
largest sent, and an ack-eliciting packet adds the bytes of the packet as the
handler keeps it. -/
theorem sentPacketImpl_eq {h h' : SentPacketHandler} {packet packet' : Packet} {b : Bool}
    (hs : h.sentPacketImpl packet = .ok (h', packet', b)) :
    ∃ sp, h.getPacketNumberSpace packet.encryptionLevel = .ok sp ∧
      (∀ level, h'.getPacketNumberSpace level = (h.setPacketNumberSpace packet.encryptionLevel
        { sp with largestSent := packet.packetNumber }).getPacketNumberSpace level) ∧
      h'.bytesInFlight = h.bytesInFlight + (if b then packet'.bytesInFlight else 0) ∧
      packet'.packetNumber = packet.packetNumber ∧ packet'.encryptionLevel = packet.encryptionLevel := by
  obtain ⟨sp, hsp, hs⟩ := bind_eq_ok.1 hs
  obtain ⟨largestAcked, -, hs⟩ := bind_eq_ok.1 hs
  refine ⟨sp, hsp, ?_⟩
  dsimp only at hs
  split at hs
  · cases hs
    exact ⟨getPacketNumberSpace_congr rfl rfl rfl, by simp [Packet.bytesInFlight], rfl, rfl⟩
  · cases hs
    exact ⟨fun _ => rfl, by simp, rfl, rfl⟩

/-- Sending a packet numbered above everything sent in its space keeps the
invariant. -/
theorem sentPacket_inv {h h' : SentPacketHandler} {packet : Packet} (hi : Inv h)
    (hnew : ∀ sp, h.getPacketNumberSpace packet.encryptionLevel = .ok sp →
      sp.largestSent < packet.packetNumber)
    (hs : h.sentPacket packet = .ok h') : Inv h' := by
  obtain ⟨⟨h1, packet', b⟩, himpl, hs⟩ := bind_eq_ok.1 hs
  obtain ⟨sp, hsp, hspaces, hbytes, hpn, hlevel⟩ := sentPacketImpl_eq himpl
  have hl := ne_unspecified_of_getPacketNumberSpace hsp
  have hw := hi.spaces_wf _ sp hsp
  have hlt := hnew sp hsp
  have hsp1 : h1.getPacketNumberSpace packet.encryptionLevel =
      .ok { sp with largestSent := packet.packetNumber } := by
    rw [hspaces, getPacketNumberSpace_set h hl, if_pos rfl]
  have hw1 : SpacesWF h1 := hi.spaces_wf.raise hsp (Int.le_of_lt hlt) hspaces
  have hfl1 : h1.inFlight = h.inFlight := inFlight_raise hsp hspaces
  cases b with
  | false =>
    cases hs
    refine ⟨hw1, ?_⟩
    rw [hbytes, hfl1, hi.bytesInFlight_eq, if_neg Bool.false_ne_true, Nat.add_zero]
  | true =>
    -- an ack-eliciting packet enters the history of its space
    dsimp only at hs
    rw [if_pos rfl, hlevel] at hs
    have hwp := sentPacketImpl_wf hw (by rw [hpn]; exact hlt) hlevel
    rw [hpn] at hwp
    have hpush : (fun history => pure (history.sentPacket packet') :
        SentPacketHistory → Except GoError SentPacketHistory)
        ({ sp with largestSent := packet.packetNumber }).history = .ok (sp.history.sentPacket packet') :=
      rfl
    refine ⟨hw1.modifyHistory hsp1 hpush hwp hs, ?_⟩
    have hset := inFlight_modifyHistory hsp1 hpush hs
    change h'.inFlight + sp.history.inFlight = h1.inFlight + (sp.history.sentPacketImpl packet').1.inFlight
      at hset
    rw [inFlight_sentPacketImpl] at hset
    rw [bytesInFlight_modifyHistory hs, hbytes, if_pos rfl, hi.bytesInFlight_eq]
    omega

/-- The loop of `SentPacketsAsRetransmission` over packets of one level in
increasing order above the largest number sent: the space takes a larger number as
its largest sent, and the ack-eliciting packets, of the level and numbered in
increasing order up to it, add their bytes to the counter. -/
theorem sentPacketsLoop_eq {level : EncryptionLevel} :
    ∀ (packets : List Packet) (h : SentPacketHandler) (ps : List Packet) (sp : PacketNumberSpace)
      (r : SentPacketHandler × List Packet),
      h.getPacketNumberSpace level = .ok sp → (∀ p ∈ packets, p.encryptionLevel = level) →
      List.Pairwise (· < ·) (sp.largestSent :: packets.map (·.packetNumber)) →
      h.sentPacketsLoop ps packets = .ok r →
      ∃ m qs, sp.largestSent ≤ m ∧ r.2 = ps ++ qs ∧
        (∀ l, r.1.getPacketNumberSpace l =
          (h.setPacketNumberSpace level { sp with largestSent := m }).getPacketNumberSpace l) ∧
        r.1.bytesInFlight = h.bytesInFlight + (qs.map Packet.bytesInFlight).sum ∧
        (∀ q ∈ qs, q.encryptionLevel = level ∧ q.packetNumber ≤ m) ∧
        List.Pairwise (· < ·) (sp.largestSent :: qs.map (·.packetNumber))
  | [], h, ps, sp, r, hsp, _, _, hloop => by
    cases hloop
    exact ⟨sp.largestSent, [], Int.le_refl _, by simp, fun l => (getPacketNumberSpace_set_self hsp l).symm,
      by simp, by simp, List.pairwise_singleton _ _⟩
  | packet :: packets, h, ps, sp, r, hsp, hlev, hpw, hloop => by
    simp only [sentPacketsLoop] at hloop
    obtain ⟨⟨h1, packet', b⟩, himpl, hloop⟩ := bind_eq_ok.1 hloop
    obtain ⟨sp0, hsp0, hspaces, hbytes, hpn, hlevel⟩ := sentPacketImpl_eq himpl
    have hpl : packet.encryptionLevel = level := hlev packet (List.mem_cons_self ..)
    rw [hpl, hsp] at hsp0
    cases hsp0
    rw [hpl] at hspaces
    have hl := ne_unspecified_of_getPacketNumberSpace hsp
    rw [List.map_cons, List.pairwise_cons] at hpw
    obtain ⟨hn, hpw⟩ := hpw
    have hlt : sp.largestSent < packet.packetNumber := hn _ (List.mem_cons_self ..)
    have hsp1 : h1.getPacketNumberSpace level = .ok { sp with largestSent := packet.packetNumber } := by
      rw [hspaces, getPacketNumberSpace_set h hl, if_pos rfl]
    obtain ⟨m, qs, hm, hr2, hspaces', hbytes', hqs, hpw'⟩ :=
      sentPacketsLoop_eq packets h1 _ _ r hsp1 (fun p hp => hlev p (List.mem_cons_of_mem _ hp)) hpw hloop
    dsimp only at hm hpw'
    have hall : ∀ x ∈ qs.map (·.packetNumber), sp.largestSent < x :=
      fun x hx => Int.lt_trans hlt (List.rel_of_pairwise_cons hpw' hx)
    refine ⟨m, (if b then [packet'] else []) ++ qs, by omega, ?_, ?_, ?_, ?_, ?_⟩
    · rw [hr2]
      cases b <;> simp
    · intro l
      rw [hspaces', getPacketNumberSpace_set_congr hl hspaces, getPacketNumberSpace_set_set h hl]
    · rw [hbytes', hbytes]
      cases b
      · simp
      · simp only [if_true, List.singleton_append, List.map_cons, List.sum_cons]
        omega
    · intro q hq
      rcases List.mem_append.1 hq with hq | hq
      · cases b
        · simp at hq
        · simp only [if_true, List.mem_singleton] at hq
          subst hq
          exact ⟨hlevel.trans hpl, by rw [hpn]; exact hm⟩
      · exact hqs q hq
    · cases b
      · simpa using List.Pairwise.cons hall hpw'.of_cons
      · simp only [if_true, List.singleton_append, List.map_cons, hpn]
        refine List.Pairwise.cons (fun x hx => ?_) hpw'
        rcases List.mem_cons.1 hx with rfl | hx
        · exact hlt
        · exact hall x hx

/-- A batch of retransmissions of one level, numbered in increasing order above the
largest number sent, keeps the invariant. -/
theorem sentPacketsAsRetransmission_inv {h h' : SentPacketHandler} {packets : List Packet}
    {retransmissionOf : Int} {level : EncryptionLevel} (hi : Inv h)
    (hlev : ∀ p ∈ packets, p.encryptionLevel = level)
    (hpw : ∀ sp, h.getPacketNumberSpace level = .ok sp →
      List.Pairwise (· < ·) (sp.largestSent :: packets.map (·.packetNumber)))
    (hs : h.sentPacketsAsRetransmission packets retransmissionOf = .ok h') : Inv h' := by
  unfold sentPacketsAsRetransmission at hs
  split at hs
  · cases hs
    exact hi
  obtain ⟨⟨h1, qs⟩, hloop, hs⟩ := bind_eq_ok.1 hs
  obtain ⟨sp, hsp⟩ : ∃ sp, h.getPacketNumberSpace level = .ok sp := by
    cases packets with
    | nil => cases hloop; cases hs
    | cons p ps =>
      simp only [sentPacketsLoop] at hloop
      obtain ⟨⟨h1, p', b⟩, himpl, -⟩ := bind_eq_ok.1 hloop
      obtain ⟨sp, hsp, -⟩ := sentPacketImpl_eq himpl
      exact ⟨sp, hlev p (List.mem_cons_self ..) ▸ hsp⟩
  have hl := ne_unspecified_of_getPacketNumberSpace hsp
  have hw := hi.spaces_wf level sp hsp
  obtain ⟨m, qs', hm, hqs, hspaces, hbytes, hqlev, hqpw⟩ :=
    sentPacketsLoop_eq packets h [] sp _ hsp hlev (hpw sp hsp) hloop
  dsimp only at hqs hspaces hbytes
  rw [List.nil_append] at hqs
  subst hqs
  obtain ⟨first, hfirst, hs⟩ := bind_eq_ok.1 hs
  rw [(hqlev first (mem_of_index hfirst)).1] at hs
  have hsp1 : h1.getPacketNumberSpace level = .ok { sp with largestSent := m } := by
    rw [hspaces, getPacketNumberSpace_set h hl, if_pos rfl]
  have hpush : (fun history => pure (history.sentPacketsAsRetransmission qs retransmissionOf) :
      SentPacketHistory → Except GoError SentPacketHistory)
      ({ sp with largestSent := m }).history =
        .ok (sp.history.sentPacketsAsRetransmission qs retransmissionOf) :=
    rfl
  obtain ⟨hw', hfl'⟩ := sentPacketsAsRetransmission_wf retransmissionOf hw hm hqlev hqpw
  refine ⟨(hi.spaces_wf.raise hsp hm hspaces).modifyHistory hsp1 hpush hw' hs, ?_⟩
  have hset := inFlight_modifyHistory hsp1 hpush hs
  change h'.inFlight + sp.history.inFlight =
    h1.inFlight + (sp.history.sentPacketsAsRetransmission qs retransmissionOf).inFlight at hset
  have hfl1 := inFlight_raise hsp hspaces
  rw [bytesInFlight_modifyHistory hs, hbytes, hi.bytesInFlight_eq]
  omega

/-! ## Dropping a space, and a Retry -/

theorem dropStep_eq (e : Nat) (p : Packet) (b : Nat) :
    dropStep e p b = .ok (true, subByteCount b p.bytesInFlight) := by
  unfold dropStep Packet.bytesInFlight
  split <;> simp [subByteCount]

/-- Taking amounts off one after another, from a counter that holds them together. -/
theorem foldl_subByteCount :
    ∀ (xs : List Nat) (b : Nat), xs.sum ≤ b → xs.foldl subByteCount b = b - xs.sum
  | [], _, _ => rfl
  | x :: xs, b, h => by
    rw [List.sum_cons] at h
    rw [List.foldl_cons, subByteCount_of_le (by omega), foldl_subByteCount xs (b - x) (by omega),
      List.sum_cons]
    omega

/-- The walk of `DropPackets` takes the bytes the history counts off the counter. -/
theorem iterate_dropStep {history : SentPacketHistory} {b : Nat} (hle : history.inFlight ≤ b) :
    history.iterate dropStep b = .ok (b - history.inFlight) := by
  have hmap : history.packetList.order.foldl
      (fun s e => subByteCount s (history.packetList.get e).bytesInFlight) b =
      (history.packetList.order.map fun e => (history.packetList.get e).bytesInFlight).foldl
        subByteCount b := by
    rw [List.foldl_map]
  unfold SentPacketHistory.iterate
  rw [LinkedList.iterate_eq_foldl _ dropStep_eq b, hmap, foldl_subByteCount _ _ hle]
  rfl

/-- A space dropped: the others stay, and the count loses what its history counted. -/
theorem inFlight_drop {h h' : SentPacketHandler} {level : EncryptionLevel} {sp : PacketNumberSpace}
    {e : GoError} (hsp : h.getPacketNumberSpace level = .ok sp)
    (hgone : h'.getPacketNumberSpace level = .error e)
    (hrest : ∀ l ≠ level, h'.getPacketNumberSpace l = h.getPacketNumberSpace l) :
    h'.inFlight + sp.history.inFlight = h.inFlight := by
  have hl := ne_unspecified_of_getPacketNumberSpace hsp
  cases level
  · exact absurd rfl hl
  · simp only [inFlight, hgone, hsp, hrest .handshake (by decide), hrest .oneRTT (by decide),
      spaceInFlight]
    omega
  · simp only [inFlight, hgone, hsp, hrest .initial (by decide), hrest .oneRTT (by decide),
      spaceInFlight]
    omega
  · simp only [inFlight, hgone, hsp, hrest .initial (by decide), hrest .handshake (by decide),
      spaceInFlight]
    omega

theorem SpacesWF.drop {h h' : SentPacketHandler} {level : EncryptionLevel} {e : GoError}
    (hw : SpacesWF h) (hgone : h'.getPacketNumberSpace level = .error e)
    (hrest : ∀ l ≠ level, h'.getPacketNumberSpace l = h.getPacketNumberSpace l) : SpacesWF h' := by
  intro l sp hsp
  by_cases hl : l = level
  · subst l
    rw [hgone] at hsp
    cases hsp
  · rw [hrest l hl] at hsp
    exact hw l sp hsp

/-- Dropping a space takes the bytes its history counts off the counter. -/
theorem dropPackets_inv {h h' : SentPacketHandler} {encLevel : EncryptionLevel} (hi : Inv h)
    (hd : h.dropPackets encLevel = .ok h') : Inv h' := by
  obtain ⟨sp, hsp, hd⟩ := bind_eq_ok.1 hd
  obtain ⟨b, hb, hd⟩ := bind_eq_ok.1 hd
  have hle : sp.history.inFlight ≤ h.bytesInFlight := hi.bytesInFlight_eq ▸ inFlight_le hsp
  rw [iterate_dropStep hle] at hb
  cases hb
  -- only the Initial and the Handshake space can be dropped
  have hdrop : ∃ e, h'.getPacketNumberSpace encLevel = .error e ∧
      (∀ l ≠ encLevel, h'.getPacketNumberSpace l = h.getPacketNumberSpace l) ∧
      h'.bytesInFlight = h.bytesInFlight - sp.history.inFlight := by
    cases encLevel with
    | unspecified => cases hsp
    | initial =>
      cases hd
      exact ⟨_, rfl, fun l hl => by cases l <;> first | rfl | exact absurd rfl hl, rfl⟩
    | handshake =>
      cases hd
      exact ⟨_, rfl, fun l hl => by cases l <;> first | rfl | exact absurd rfl hl, rfl⟩
    | oneRTT => cases hd
  obtain ⟨e, hgone, hrest, hbytes⟩ := hdrop
  refine ⟨hi.spaces_wf.drop hgone hrest, ?_⟩
  have := inFlight_drop hsp hgone hrest
  rw [hbytes, hi.bytesInFlight_eq]
  omega

/-- A Retry before any Handshake or 1-RTT packet is sent restarts the count at zero
with nothing counted. -/
theorem resetForRetry_inv {h h' : SentPacketHandler} {num : UInt16} (hi : Inv h)
    (hempty : ∀ level sp, level ≠ .initial → h.getPacketNumberSpace level = .ok sp →
      sp.history.packetList.order = [])
    (hr : h.resetForRetry num = .ok h') : Inv h' := by
  obtain ⟨sp, -, hr⟩ := bind_eq_ok.1 hr
  obtain ⟨els, -, hr⟩ := bind_eq_ok.1 hr
  cases hr
  have hnone : ∀ l ≠ .initial, spaceInFlight (h.getPacketNumberSpace l) = 0 := by
    intro l hl
    cases hl' : h.getPacketNumberSpace l with
    | ok sp' => exact inFlight_of_order_nil (hempty l sp' hl hl')
    | error e => rfl
  refine ⟨fun level sp' hsp' => ?_, ?_⟩
  · -- the Initial space starts over
    cases level
    · cases hsp'
    · cases hsp'
      exact newSentPacketHistory_wf _ _
    · exact hi.spaces_wf _ sp' hsp'
    · exact hi.spaces_wf _ sp' hsp'
  · show 0 = spaceInFlight (.ok (newPacketNumberSpace (sp.pns.pop num).1 num)) +
      spaceInFlight (h.getPacketNumberSpace .handshake) + spaceInFlight (h.getPacketNumberSpace .oneRTT)
    rw [hnone .handshake (by decide), hnone .oneRTT (by decide)]
    rfl

/-! ## Alarms -/

theorem onAlarm_inv {h h' : SentPacketHandler} {now : Int} (hi : Inv h)
    (ha : h.onAlarm now = .ok h') : Inv h' := by
  unfold onAlarm at ha
  split at ha
  · unfold onVerifiedAlarm at ha
    split at ha
    · -- crypto packets are queued
      exact (queueCryptoPacketsForRetransmission_keeps ha).inv (hi.of_spaces rfl rfl rfl rfl)
    · split at ha
      · exact detectLostPackets_inv hi ha
      · -- a probe timeout only moves counters
        cases ha
        exact hi.of_spaces rfl rfl rfl rfl
  · cases ha
    exact hi

/-! ## Runs -/

/-- What the client guarantees of a call, in the state it is made in: a packet is
numbered above everything sent in its space, a batch of retransmissions is of one
level and numbered in increasing order above it, and a Retry comes while the
Handshake and 1-RTT histories hold nothing. -/
def Call.Allowed (h : SentPacketHandler) : Call → Prop
  | .sentPacket packet => ∀ sp, h.getPacketNumberSpace packet.encryptionLevel = .ok sp →
      sp.largestSent < packet.packetNumber
  | .sentPacketsAsRetransmission packets _ => ∃ level, (∀ p ∈ packets, p.encryptionLevel = level) ∧
      ∀ sp, h.getPacketNumberSpace level = .ok sp →
        List.Pairwise (· < ·) (sp.largestSent :: packets.map (·.packetNumber))
  | .resetForRetry _ => ∀ level sp, level ≠ .initial → h.getPacketNumberSpace level = .ok sp →
      sp.history.packetList.order = []
  | _ => True

section RTT

variable (updateRTT : RTTStats → Int → Int → Int → RTTStats)

theorem maybeUpdateRTT_keeps (h : SentPacketHandler) (history : SentPacketHistory) (f : AckFrame)
    (encLevel : EncryptionLevel) (largestAcked rcvTime : Int) :
    Keeps h (h.maybeUpdateRTT updateRTT history f encLevel largestAcked rcvTime) := by
  unfold maybeUpdateRTT
  split
  · exact Keeps.of_spaces rfl rfl rfl rfl
  · exact Keeps.refl h

theorem receivedAck_inv {h h' : SentPacketHandler} {f : AckFrame} {encLevel : EncryptionLevel}
    {rcvTime : Int} (hi : Inv h) (hr : h.receivedAck updateRTT f encLevel rcvTime = .ok h') :
    Inv h' := by
  unfold receivedAck at hr
  obtain ⟨sp, hsp, hr⟩ := bind_eq_ok.1 hr
  obtain ⟨largestAcked, -, hr⟩ := bind_eq_ok.1 hr
  dsimp only at hr
  split at hr
  · cases hr
  obtain ⟨valid, -, hr⟩ := bind_eq_ok.1 hr
  split at hr
  · cases hr
  have K1 : Keeps h (h.setPacketNumberSpace encLevel
      { sp with largestAcked := max sp.largestAcked largestAcked }) :=
    Keeps.set hsp rfl (SameSlots.refl _)
  have K2 := K1.trans (maybeUpdateRTT_keeps updateRTT _ sp.history f encLevel largestAcked rcvTime)
  obtain ⟨els, hd, hr⟩ := bind_eq_ok.1 hr
  split at hr
  · cases hr
    exact K2.inv hi
  · obtain ⟨h3, hloop, hr⟩ := bind_eq_ok.1 hr
    obtain ⟨h4, hdet, hr⟩ := bind_eq_ok.1 hr
    cases hr
    obtain ⟨hnd, hlinked⟩ := determineNewlyAckedPackets_linked hd
    have hi4 := detectLostPackets_inv (ackedPacketsLoop_inv els (K2.inv hi) hnd hlinked hloop) hdet
    exact hi4.of_spaces rfl rfl rfl rfl

/-- The states that runs of allowed calls reach from a new handler, no call
failing. -/
inductive Reachable : SentPacketHandler → Prop
  | init (initialPacketNumber : Int) (rttStats : RTTStats) (numInitial numHandshake numOneRTT : UInt16) :
      Reachable (newSentPacketHandler initialPacketNumber rttStats numInitial numHandshake numOneRTT)
  | step {h h' : SentPacketHandler} (c : Call) :
      Reachable h → c.Allowed h → h.step updateRTT c = .ok h' → Reachable h'

theorem step_inv {h h' : SentPacketHandler} {c : Call} (hi : Inv h) (hc : c.Allowed h)
    (hs : h.step updateRTT c = .ok h') : Inv h' := by
  cases c with
  | sentPacket packet => exact sentPacket_inv hi hc hs
  | sentPacketsAsRetransmission packets retransmissionOf =>
    obtain ⟨level, hlev, hpw⟩ := hc
    exact sentPacketsAsRetransmission_inv hi hlev hpw hs
  | receivedAck f encLevel rcvTime => exact receivedAck_inv updateRTT hi hs
  | packetRecovered packetNumbers => exact (packetRecovered_keeps hs).inv hi
  | onAlarm now => exact onAlarm_inv hi hs
  | dequeuePacketForRetransmission =>
    cases hs
    exact (dequeuePacketForRetransmission_keeps h).inv hi
  | dequeueProbePacket =>
    obtain ⟨r, hr, hs⟩ := bind_eq_ok.1 hs
    cases hs
    exact (dequeueProbePacket_keeps hr).inv hi
  | dropPackets encLevel => exact dropPackets_inv hi hs
  | resetForRetry num => exact resetForRetry_inv hi hc hs
  | popPacketNumber encLevel num =>
    obtain ⟨r, hr, hs⟩ := bind_eq_ok.1 hs
    cases hs
    exact (popPacketNumber_keeps hr).inv hi

theorem reachable_inv {h : SentPacketHandler} (hr : Reachable updateRTT h) : Inv h := by
  induction hr with
  | init => exact newSentPacketHandler_inv ..
  | step c _ hc hs ih => exact step_inv updateRTT ih hc hs

end RTT

end SentPacketHandler
end QuicFec
