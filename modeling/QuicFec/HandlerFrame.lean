import QuicFec.SentPacketHandler

/-! # What the handler's bookkeeping keeps

Most of what the sent packet handler does to its histories only marks packets as
not to be retransmitted any more, queues them, or moves a counter: every history
keeps its elements, its map and the sent fields of its packets, every space keeps
its largest number sent, and the bytes in flight do not move.  `Keeps` names that
frame.  This module proves that the retransmission bookkeeping keeps it
(`queuePacketForRetransmission`, `stopRetransmissionsFor`, `PacketRecovered`, the
crypto retransmissions of an alarm, the dequeues and `PopPacketNumber`), and gives
the lemmas for reading and writing a space that the handler's proofs build on.
-/

namespace QuicFec
namespace SentPacketHandler
open GoBytes SentPacketHistory

/-! ## Reading and writing a space -/

theorem getPacketNumberSpace_congr {h h' : SentPacketHandler}
    (hi : h'.initialPackets = h.initialPackets) (hh : h'.handshakePackets = h.handshakePackets)
    (ho : h'.oneRTTPackets = h.oneRTTPackets) (level : EncryptionLevel) :
    h'.getPacketNumberSpace level = h.getPacketNumberSpace level := by
  cases level <;> simp [getPacketNumberSpace, hi, hh, ho]

theorem ne_unspecified_of_getPacketNumberSpace {h : SentPacketHandler} {level : EncryptionLevel}
    {sp : PacketNumberSpace} (hsp : h.getPacketNumberSpace level = .ok sp) :
    level ≠ .unspecified := by
  rintro rfl
  cases hsp

theorem getPacketNumberSpace_set (h : SentPacketHandler) {level : EncryptionLevel}
    (hl : level ≠ .unspecified) (sp : PacketNumberSpace) (l : EncryptionLevel) :
    (h.setPacketNumberSpace level sp).getPacketNumberSpace l =
      if l = level then .ok sp else h.getPacketNumberSpace l := by
  cases level <;> cases l <;> simp_all [setPacketNumberSpace, getPacketNumberSpace]

@[simp] theorem bytesInFlight_set (h : SentPacketHandler) (level : EncryptionLevel)
    (sp : PacketNumberSpace) : (h.setPacketNumberSpace level sp).bytesInFlight = h.bytesInFlight := by
  cases level <;> rfl

@[simp] theorem retransmissionQueue_set (h : SentPacketHandler) (level : EncryptionLevel)
    (sp : PacketNumberSpace) :
    (h.setPacketNumberSpace level sp).retransmissionQueue = h.retransmissionQueue := by
  cases level <;> rfl

theorem getPacketNumberSpace_set_self {h : SentPacketHandler} {level : EncryptionLevel}
    {sp : PacketNumberSpace} (hsp : h.getPacketNumberSpace level = .ok sp) (l : EncryptionLevel) :
    (h.setPacketNumberSpace level sp).getPacketNumberSpace l = h.getPacketNumberSpace l := by
  rw [getPacketNumberSpace_set h (ne_unspecified_of_getPacketNumberSpace hsp)]
  split
  · subst l
    exact hsp.symm
  · rfl

theorem getPacketNumberSpace_set_congr {h h' : SentPacketHandler} {level : EncryptionLevel}
    (hl : level ≠ .unspecified)
    (he : ∀ l, h'.getPacketNumberSpace l = h.getPacketNumberSpace l) (sp : PacketNumberSpace)
    (l : EncryptionLevel) :
    (h'.setPacketNumberSpace level sp).getPacketNumberSpace l =
      (h.setPacketNumberSpace level sp).getPacketNumberSpace l := by
  rw [getPacketNumberSpace_set h' hl, getPacketNumberSpace_set h hl, he]

theorem getPacketNumberSpace_set_set (h : SentPacketHandler) {level : EncryptionLevel}
    (hl : level ≠ .unspecified) (sp sp' : PacketNumberSpace) (l : EncryptionLevel) :
    ((h.setPacketNumberSpace level sp).setPacketNumberSpace level sp').getPacketNumberSpace l =
      (h.setPacketNumberSpace level sp').getPacketNumberSpace l := by
  rw [getPacketNumberSpace_set _ hl, getPacketNumberSpace_set _ hl, getPacketNumberSpace_set _ hl]
  split <;> rfl

theorem modifyHistory_eq {h h' : SentPacketHandler} {level : EncryptionLevel}
    {f : SentPacketHistory → Except GoError SentPacketHistory} (hm : h.modifyHistory level f = .ok h') :
    ∃ sp history, h.getPacketNumberSpace level = .ok sp ∧ f sp.history = .ok history ∧
      h' = h.setPacketNumberSpace level { sp with history } := by
  obtain ⟨sp, hsp, hm⟩ := bind_eq_ok.1 hm
  obtain ⟨history, hf, hm⟩ := bind_eq_ok.1 hm
  cases hm
  exact ⟨sp, history, hsp, hf, rfl⟩

theorem packetAt_of_getPacketNumberSpace {h : SentPacketHandler} {level : EncryptionLevel}
    {sp : PacketNumberSpace} (hsp : h.getPacketNumberSpace level = .ok sp) (el : Nat) :
    h.packetAt level el = .ok (sp.history.value el) := by
  simp [packetAt, hsp]

theorem packetAt_eq {h : SentPacketHandler} {level : EncryptionLevel} {el : Nat} {p : Packet}
    (hp : h.packetAt level el = .ok p) :
    ∃ sp, h.getPacketNumberSpace level = .ok sp ∧ p = sp.history.value el := by
  obtain ⟨sp, hsp, hp⟩ := bind_eq_ok.1 hp
  cases hp
  exact ⟨sp, hsp, rfl⟩

/-! ## The frame -/

/-- What the accounting reads of a space kept: a space that was there is still
there, with the same largest number sent and the same slots in its history. -/
def SpaceKept : Except GoError PacketNumberSpace → Except GoError PacketNumberSpace → Prop
  | .ok sp, .ok sp' => sp'.largestSent = sp.largestSent ∧ SameSlots sp.history sp'.history
  | .error _, .error _ => True
  | _, _ => False

theorem SpaceKept.refl (o : Except GoError PacketNumberSpace) : SpaceKept o o := by
  cases o with
  | ok sp => exact ⟨rfl, SameSlots.refl _⟩
  | error e => trivial

theorem SpaceKept.trans {o o' o'' : Except GoError PacketNumberSpace} (h1 : SpaceKept o o')
    (h2 : SpaceKept o' o'') : SpaceKept o o'' := by
  cases o <;> cases o' <;> cases o'' <;> simp only [SpaceKept] at h1 h2 ⊢
  exact ⟨h2.1.trans h1.1, h1.2.trans h2.2⟩

theorem SpaceKept.of_ok {sp : PacketNumberSpace} {o' : Except GoError PacketNumberSpace}
    (hk : SpaceKept (.ok sp) o') :
    ∃ sp', o' = .ok sp' ∧ sp'.largestSent = sp.largestSent ∧ SameSlots sp.history sp'.history := by
  cases o' with
  | ok sp' => exact ⟨sp', rfl, hk⟩
  | error e => exact hk.elim

theorem SpaceKept.of_ok_right {o : Except GoError PacketNumberSpace} {sp' : PacketNumberSpace}
    (hk : SpaceKept o (.ok sp')) :
    ∃ sp, o = .ok sp ∧ sp'.largestSent = sp.largestSent ∧ SameSlots sp.history sp'.history := by
  cases o with
  | ok sp => exact ⟨sp, rfl, hk⟩
  | error e => exact hk.elim

/-- What the accounting reads of every space kept. -/
def SpacesKept (h h' : SentPacketHandler) : Prop :=
  ∀ level, SpaceKept (h.getPacketNumberSpace level) (h'.getPacketNumberSpace level)

theorem SpacesKept.refl (h : SentPacketHandler) : SpacesKept h h := fun _ => SpaceKept.refl _

theorem SpacesKept.trans {h h' h'' : SentPacketHandler} (K1 : SpacesKept h h')
    (K2 : SpacesKept h' h'') : SpacesKept h h'' :=
  fun level => (K1 level).trans (K2 level)

theorem SpacesKept.of_eq {h h' : SentPacketHandler}
    (he : ∀ level, h'.getPacketNumberSpace level = h.getPacketNumberSpace level) : SpacesKept h h' := by
  intro level
  rw [he level]
  exact SpaceKept.refl _

theorem SpacesKept.set {h : SentPacketHandler} {level : EncryptionLevel} {sp sp' : PacketNumberSpace}
    (hsp : h.getPacketNumberSpace level = .ok sp) (hls : sp'.largestSent = sp.largestSent)
    (hs : SameSlots sp.history sp'.history) : SpacesKept h (h.setPacketNumberSpace level sp') := by
  intro l
  rw [getPacketNumberSpace_set h (ne_unspecified_of_getPacketNumberSpace hsp)]
  split
  · subst l
    rw [hsp]
    exact ⟨hls, hs⟩
  · exact SpaceKept.refl _

/-- The space a kept state has, for a space that was there. -/
theorem SpacesKept.getPacketNumberSpace {h h' : SentPacketHandler} (K : SpacesKept h h')
    {level : EncryptionLevel} {sp : PacketNumberSpace} (hsp : h.getPacketNumberSpace level = .ok sp) :
    ∃ sp', h'.getPacketNumberSpace level = .ok sp' ∧ sp'.largestSent = sp.largestSent ∧
      SameSlots sp.history sp'.history := by
  have hk := K level
  rw [hsp] at hk
  exact hk.of_ok

/-- The space a kept state came from, for a space that is there after it. -/
theorem SpacesKept.getPacketNumberSpace_left {h h' : SentPacketHandler} (K : SpacesKept h h')
    {level : EncryptionLevel} {sp' : PacketNumberSpace}
    (hsp' : h'.getPacketNumberSpace level = .ok sp') :
    ∃ sp, h.getPacketNumberSpace level = .ok sp ∧ sp'.largestSent = sp.largestSent ∧
      SameSlots sp.history sp'.history := by
  have hk := K level
  rw [hsp'] at hk
  exact hk.of_ok_right

/-- A call that keeps what the accounting reads of every space, and the bytes in
flight. -/
structure Keeps (h h' : SentPacketHandler) : Prop where
  spaces : SpacesKept h h'
  bytesInFlight_eq : h'.bytesInFlight = h.bytesInFlight

theorem Keeps.refl (h : SentPacketHandler) : Keeps h h := ⟨SpacesKept.refl h, rfl⟩

theorem Keeps.trans {h h' h'' : SentPacketHandler} (K1 : Keeps h h') (K2 : Keeps h' h'') :
    Keeps h h'' :=
  ⟨K1.spaces.trans K2.spaces, K2.bytesInFlight_eq.trans K1.bytesInFlight_eq⟩

/-- An update of fields other than the spaces and the bytes in flight. -/
theorem Keeps.of_spaces {h h' : SentPacketHandler} (hi : h'.initialPackets = h.initialPackets)
    (hh : h'.handshakePackets = h.handshakePackets) (ho : h'.oneRTTPackets = h.oneRTTPackets)
    (hb : h'.bytesInFlight = h.bytesInFlight) : Keeps h h' :=
  ⟨SpacesKept.of_eq (getPacketNumberSpace_congr hi hh ho), hb⟩

theorem Keeps.set {h : SentPacketHandler} {level : EncryptionLevel} {sp sp' : PacketNumberSpace}
    (hsp : h.getPacketNumberSpace level = .ok sp) (hls : sp'.largestSent = sp.largestSent)
    (hs : SameSlots sp.history sp'.history) : Keeps h (h.setPacketNumberSpace level sp') :=
  ⟨SpacesKept.set hsp hls hs, bytesInFlight_set h level sp'⟩

theorem modifyHistory_keeps {h h' : SentPacketHandler} {level : EncryptionLevel}
    {f : SentPacketHistory → Except GoError SentPacketHistory}
    (hf : ∀ x y, f x = .ok y → SameSlots x y) (hm : h.modifyHistory level f = .ok h') :
    Keeps h h' := by
  obtain ⟨sp, history, hsp, hfh, rfl⟩ := modifyHistory_eq hm
  exact Keeps.set hsp rfl (hf _ _ hfh)

/-! ## The calls that keep it -/

theorem queuePacketForRetransmission_keeps {h h' : SentPacketHandler} {level : EncryptionLevel}
    {el : Nat} (hq : h.queuePacketForRetransmission level el = .ok h') : Keeps h h' := by
  obtain ⟨p, -, hq⟩ := bind_eq_ok.1 hq
  dsimp only at hq
  split at hq
  · cases hq
  · obtain ⟨h1, hm, hq⟩ := bind_eq_ok.1 hq
    obtain ⟨p1, -, hq⟩ := bind_eq_ok.1 hq
    cases hq
    -- marking is the only step on the history; the queue is no part of the frame
    have K := modifyHistory_keeps (fun _ _ => markCannotBeRetransmitted_sameSlots) hm
    exact K.trans (Keeps.of_spaces rfl rfl rfl rfl)

/-- The loop of `stopRetransmissionsFor` keeps the frame when its recursive call
does. -/
theorem stopLoop_keeps {level : EncryptionLevel} {pn : Int}
    {stop : SentPacketHandler → Nat → Except GoError (SentPacketHandler × Option GoError)}
    (hstop : ∀ h n r, stop h n = .ok r → Keeps h r.1) :
    ∀ (rs : List Int) (h : SentPacketHandler) r, stopLoop level pn stop h rs = .ok r → Keeps h r.1
  | [], h, r, hr => by
    cases hr
    exact Keeps.refl h
  | x :: rs, h, r, hr => by
    simp only [stopLoop] at hr
    obtain ⟨sp, -, hr⟩ := bind_eq_ok.1 hr
    split at hr
    · cases hr
      exact Keeps.refl h
    · obtain ⟨⟨h1, e1⟩, h1s, hr⟩ := bind_eq_ok.1 hr
      exact (hstop _ _ _ h1s).trans (stopLoop_keeps hstop rs h1 r hr)

/-- `stopRetransmissionsFor` only marks packets as not to be retransmitted; the
induction is on the recursion's fuel, for every pair of levels. -/
theorem stopRetransmissionsFor_keeps :
    ∀ (fuel : Nat) (home level : EncryptionLevel) (h : SentPacketHandler) (el : Nat) r,
      stopRetransmissionsFor home level fuel h el = .ok r → Keeps h r.1
  | 0, _, _, _, _, _, hr => by cases hr
  | fuel + 1, home, level, h, el, r, hr => by
    simp only [stopRetransmissionsFor] at hr
    obtain ⟨p, -, hr⟩ := bind_eq_ok.1 hr
    split at hr
    · cases hr
    · cases hr
      exact Keeps.refl h
    · rename_i h1 hm
      obtain ⟨p1, -, hr⟩ := bind_eq_ok.1 hr
      have K1 := modifyHistory_keeps (fun _ _ => markCannotBeRetransmitted_sameSlots) hm
      exact K1.trans (stopLoop_keeps (stopRetransmissionsFor_keeps fuel level level) _ h1 r hr)

theorem onPacketRecovered_keeps {h h' : SentPacketHandler} {el : Nat}
    (hr : h.onPacketRecovered el = .ok h') : Keeps h h' := by
  obtain ⟨p, -, hr⟩ := bind_eq_ok.1 hr
  obtain ⟨sp, -, hr⟩ := bind_eq_ok.1 hr
  split at hr
  · cases hr
    exact Keeps.refl h
  · obtain ⟨⟨h1, err⟩, hs, hr⟩ := bind_eq_ok.1 hr
    cases err with
    | some e => cases hr
    | none =>
      cases hr
      exact stopRetransmissionsFor_keeps _ _ _ _ _ _ hs

theorem packetRecovered_keeps {h h' : SentPacketHandler} {pns : List Int}
    (hr : h.packetRecovered pns = .ok h') : Keeps h h' := by
  obtain ⟨els, -, hr⟩ := bind_eq_ok.1 hr
  exact foldlM_induction (Keeps h) (fun _ _ _ _ K hs => K.trans (onPacketRecovered_keeps hs))
    (Keeps.refl h) hr

/-- `PacketRecovered` of no packet number reads the lowest of none, `pns[0]`, and
panics, whatever the state of the handler. -/
theorem packetRecovered_nil_panics (h : SentPacketHandler) :
    h.packetRecovered [] = .error (.panic "index out of range") := by
  simp [packetRecovered, determineNewlyRecoveredPackets, getPacketNumberSpace, index]

theorem queueAllPacketsForRetransmission_keeps {h h' : SentPacketHandler}
    {encLevel : EncryptionLevel} (hq : h.queueAllPacketsForRetransmission encLevel = .ok h') :
    Keeps h h' := by
  obtain ⟨sp, -, hq⟩ := bind_eq_ok.1 hq
  obtain ⟨els, -, hq⟩ := bind_eq_ok.1 hq
  exact foldlM_induction (Keeps h)
    (fun _ _ _ _ K hs => K.trans (queuePacketForRetransmission_keeps hs)) (Keeps.refl h) hq

theorem queueCryptoPacketsForRetransmission_keeps {h h' : SentPacketHandler}
    (hq : h.queueCryptoPacketsForRetransmission = .ok h') : Keeps h h' := by
  obtain ⟨h1, hq1, hq⟩ := bind_eq_ok.1 hq
  exact (queueAllPacketsForRetransmission_keeps hq1).trans (queueAllPacketsForRetransmission_keeps hq)

theorem dequeuePacketForRetransmission_keeps (h : SentPacketHandler) :
    Keeps h h.dequeuePacketForRetransmission.2 := by
  unfold dequeuePacketForRetransmission
  split
  · exact Keeps.refl h
  · exact Keeps.of_spaces rfl rfl rfl rfl

theorem dequeueProbePacket_keeps {h : SentPacketHandler} {r : Option Packet × SentPacketHandler}
    (hd : h.dequeueProbePacket = .ok r) : Keeps h r.2 := by
  unfold dequeueProbePacket at hd
  -- with nothing queued, the first outstanding packet is queued first
  split at hd
  · split at hd
    · cases hd
    · obtain ⟨h1, hq, hd⟩ := bind_eq_ok.1 hd
      cases hd
      exact (queuePacketForRetransmission_keeps hq).trans (dequeuePacketForRetransmission_keeps h1)
  · cases hd
    exact dequeuePacketForRetransmission_keeps h

theorem popPacketNumber_keeps {h : SentPacketHandler} {encLevel : EncryptionLevel} {num : UInt16}
    {r : Int × SentPacketHandler} (hp : h.popPacketNumber encLevel num = .ok r) : Keeps h r.2 := by
  obtain ⟨sp, hsp, hp⟩ := bind_eq_ok.1 hp
  cases hp
  exact Keeps.set hsp rfl (SameSlots.refl _)

end SentPacketHandler
end QuicFec
