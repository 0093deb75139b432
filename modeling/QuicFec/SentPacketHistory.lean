import QuicFec.Lib.LinkedList
import QuicFec.Lib.GoMap
import QuicFec.Frames

/-! # The history of sent packets

`sentPacketHistory` (sent_packet_history.go) keeps the ack-eliciting packets of one
packet number space that are neither acknowledged nor lost yet, in sending order,
in a `PacketList`, and a map from packet number to list element.  It counts the
packets that can still be retransmitted and points to the first of them.

The handler holds pointers into the list: `GetPacket` and `FirstOutstanding`
return the address of an element's value, and the handler writes packets through
them, also after they have left the list.  The list is therefore a
`LinkedList` of packets, and a pointer is an element.

Every operation but `sentPacketImpl` and `Remove` leaves the elements, the map and
the fields a packet is sent with as they are, and only changes which packets can
be retransmitted (`SameSlots`).  The well-formedness of a history (`WF`: the map
indexes exactly the elements of the list, by their packet numbers) and the bytes
it counts in flight (`inFlight`) depend on nothing else.

Main results:

* `SameSlots.wf`, `SameSlots.inFlight_eq`: what `SameSlots` preserves;
* `markCannotBeRetransmitted_sameSlots`;
* `sentPacketImpl_wf`, `inFlight_sentPacketImpl`: pushing a packet above every
  number sent before keeps the history well formed and adds its bytes;
* `remove_wf`, `inFlight_remove`: removing a packet takes out exactly its bytes;
* `reachable_sentPacketHistory`: over every run of the calls `sentPacketHandler`
  makes, the map indexes the list, the list is in number order, the counter counts
  the packets that can be retransmitted and the pointer points to the first of
  them, and marking or removing a packet the history holds never panics.
-/

namespace QuicFec
open GoBytes

instance : Inhabited EncryptionLevel := ⟨.unspecified⟩

/-- `ackhandler.Packet`, without the `PacketType` the handler never reads.  The
handler sets the fields from `largestAcked` on. -/
structure Packet where
  packetNumber : Int
  ack : Option AckFrame
  frames : List Frame
  length : Nat
  encryptionLevel : EncryptionLevel
  sendTime : Int
  largestAcked : Int
  canBeRetransmitted : Bool
  includedInBytesInFlight : Bool
  retransmittedAs : List Int
  isRetransmission : Bool
  retransmissionOf : Int
  deriving Inhabited

/-- The fields that stay as they are from the moment a packet enters a history:
its number, its length, whether it counts in flight, and its encryption level. -/
def Packet.sent (p : Packet) : Int × Nat × Bool × EncryptionLevel :=
  (p.packetNumber, p.length, p.includedInBytesInFlight, p.encryptionLevel)

/-- The bytes a packet counts in flight. -/
def Packet.bytesInFlight (p : Packet) : Nat := if p.includedInBytesInFlight then p.length else 0

/-- `sentPacketHistory`. -/
structure SentPacketHistory where
  packetList : LinkedList Packet
  packetMap : GoMap Int Nat
  numOutstandingPackets : Int
  firstOutstanding : Option Nat

/-- `newSentPacketHistory`. -/
def newSentPacketHistory : SentPacketHistory :=
  ⟨LinkedList.empty, GoMap.empty, 0, none⟩

namespace SentPacketHistory

/-- The packet an element points to. -/
def value (h : SentPacketHistory) (e : Nat) : Packet := h.packetList.get e

/-- A write through a pointer to a packet. -/
def modifyPacket (h : SentPacketHistory) (e : Nat) (f : Packet → Packet) : SentPacketHistory :=
  { h with packetList := h.packetList.modify e f }

/-- `sentPacketImpl`: a copy of the packet is pushed at the back, and becomes the
first outstanding packet if there is none; the new element. -/
def sentPacketImpl (h : SentPacketHistory) (p : Packet) : SentPacketHistory × Nat :=
  let el := h.packetList.fresh
  ({ packetList := h.packetList.pushBack p
     packetMap := h.packetMap.insert p.packetNumber el
     numOutstandingPackets :=
       if p.canBeRetransmitted then h.numOutstandingPackets + 1 else h.numOutstandingPackets
     firstOutstanding := if h.firstOutstanding.isNone then some el else h.firstOutstanding },
   el)

/-- `SentPacket`. -/
def sentPacket (h : SentPacketHistory) (p : Packet) : SentPacketHistory := (h.sentPacketImpl p).1

/-- `SentPacketsAsRetransmission`: when the retransmitted packet is still there,
it records the numbers of its retransmissions, and they record it. -/
def sentPacketsAsRetransmission (h : SentPacketHistory) (packets : List Packet)
    (retransmissionOf : Int) : SentPacketHistory :=
  match h.packetMap.get? retransmissionOf with
  | none => packets.foldl (fun h p => (h.sentPacketImpl p).1) h
  | some r =>
    let h := h.modifyPacket r fun v => { v with retransmittedAs := packets.map (·.packetNumber) }
    packets.foldl (fun h p =>
      let (h, el) := h.sentPacketImpl p
      h.modifyPacket el fun v =>
        { v with isRetransmission := true, retransmissionOf := retransmissionOf }) h

/-- `GetPacket`: the element holding a packet number. -/
def getPacket (h : SentPacketHistory) (pn : Int) : Option Nat := h.packetMap.get? pn

/-- `Iterate`. -/
def iterate {σ : Type} (h : SentPacketHistory) (cb : Nat → Packet → σ → Except GoError (Bool × σ))
    (s : σ) : Except GoError σ :=
  h.packetList.iterate cb s

/-- `readjustFirstOutstanding`, for the first outstanding element `first`: the next
element after it that can be retransmitted. -/
def readjustFirstOutstanding (h : SentPacketHistory) (first : Nat) : SentPacketHistory :=
  { h with
    firstOutstanding := (h.packetList.after first).find? fun e => (h.value e).canBeRetransmitted }

/-- `numOutstandingPackets--`, which panics below zero. -/
def decOutstanding (h : SentPacketHistory) : Except GoError SentPacketHistory :=
  if h.numOutstandingPackets - 1 < 0 then .error (.panic "numOutstandingHandshakePackets negative")
  else .ok { h with numOutstandingPackets := h.numOutstandingPackets - 1 }

/-- The element leaves the packets that can be retransmitted, if it was one of
them: `if el.Value.canBeRetransmitted { h.numOutstandingPackets-- ... }`. -/
def uncountOutstanding (h : SentPacketHistory) (el : Nat) : Except GoError SentPacketHistory :=
  if (h.value el).canBeRetransmitted then h.decOutstanding else .ok h

/-- `MarkCannotBeRetransmitted`. -/
def markCannotBeRetransmitted (h : SentPacketHistory) (pn : Int) :
    Except GoError SentPacketHistory :=
  match h.packetMap.get? pn with
  | none => .error (.error ("sent packet history: packet " ++ toString pn ++ " not found"))
  | some el => do
    let h ← h.uncountOutstanding el
    let h := h.modifyPacket el fun v => { v with canBeRetransmitted := false }
    return if h.firstOutstanding = some el then h.readjustFirstOutstanding el else h

/-- `Len`. -/
def len (h : SentPacketHistory) : Nat := h.packetMap.len

/-- `Remove`. -/
def remove (h : SentPacketHistory) (pn : Int) : Except GoError SentPacketHistory :=
  match h.packetMap.get? pn with
  | none => .error (.error ("packet " ++ toString pn ++ " not found in sent packet history"))
  | some el => do
    let h := if h.firstOutstanding = some el then h.readjustFirstOutstanding el else h
    let h ← h.uncountOutstanding el
    return { h with packetList := h.packetList.remove el, packetMap := h.packetMap.delete pn }

/-- `HasOutstandingPackets`. -/
def hasOutstandingPackets (h : SentPacketHistory) : Bool := decide (h.numOutstandingPackets > 0)

/-! ## Well-formed histories and the bytes they count -/

/-- The bytes in flight a history counts: those of its packets that are included. -/
def inFlight (h : SentPacketHistory) : Nat := h.packetList.total Packet.bytesInFlight

/-- A history of the space of `level`, in which nothing above `largestSent` was
sent: the map indexes exactly the elements of the list, by their packet numbers,
and every packet is of that level and numbered at most `largestSent`. -/
structure WF (h : SentPacketHistory) (level : EncryptionLevel) (largestSent : Int) : Prop where
  map_iff : ∀ pn e, h.packetMap.get? pn = some e ↔
    e ∈ h.packetList.order ∧ (h.value e).packetNumber = pn
  le_largestSent : ∀ e ∈ h.packetList.order, (h.value e).packetNumber ≤ largestSent
  level_eq : ∀ e ∈ h.packetList.order, (h.value e).encryptionLevel = level

theorem newSentPacketHistory_wf (level : EncryptionLevel) (largestSent : Int) :
    newSentPacketHistory.WF level largestSent where
  map_iff pn e := by simp [newSentPacketHistory, GoMap.get?, GoMap.empty, LinkedList.empty]
  le_largestSent e he := by simp [newSentPacketHistory, LinkedList.empty] at he
  level_eq e he := by simp [newSentPacketHistory, LinkedList.empty] at he

theorem WF.mono {h : SentPacketHistory} {level : EncryptionLevel} {n m : Int} (hw : h.WF level n)
    (hnm : n ≤ m) : h.WF level m where
  map_iff := hw.map_iff
  le_largestSent e he := Int.le_trans (hw.le_largestSent e he) hnm
  level_eq := hw.level_eq

/-- Two histories with the same elements, map and sent fields: they differ at
most in which packets can be retransmitted and in the counters about them. -/
structure SameSlots (h h' : SentPacketHistory) : Prop where
  order_eq : h'.packetList.order = h.packetList.order
  fresh_eq : h'.packetList.fresh = h.packetList.fresh
  map_eq : h'.packetMap = h.packetMap
  sent_eq : ∀ e, (h'.value e).sent = (h.value e).sent

theorem SameSlots.refl (h : SentPacketHistory) : SameSlots h h := ⟨rfl, rfl, rfl, fun _ => rfl⟩

theorem SameSlots.trans {h h' h'' : SentPacketHistory} (h1 : SameSlots h h')
    (h2 : SameSlots h' h'') : SameSlots h h'' :=
  ⟨h2.order_eq.trans h1.order_eq, h2.fresh_eq.trans h1.fresh_eq, h2.map_eq.trans h1.map_eq,
    fun e => (h2.sent_eq e).trans (h1.sent_eq e)⟩

theorem SameSlots.packetNumber_eq {h h' : SentPacketHistory} (hs : SameSlots h h') (e : Nat) :
    (h'.value e).packetNumber = (h.value e).packetNumber :=
  congrArg Prod.fst (hs.sent_eq e)

theorem SameSlots.bytesInFlight_eq {h h' : SentPacketHistory} (hs : SameSlots h h') (e : Nat) :
    (h'.value e).bytesInFlight = (h.value e).bytesInFlight := by
  have := hs.sent_eq e
  simp only [Packet.sent, Prod.mk.injEq] at this
  simp only [Packet.bytesInFlight, this.2.1, this.2.2.1]

theorem SameSlots.wf {h h' : SentPacketHistory} {level : EncryptionLevel} {n : Int}
    (hs : SameSlots h h') (hw : h.WF level n) : h'.WF level n where
  map_iff pn e := by rw [hs.map_eq, hs.order_eq, hs.packetNumber_eq]; exact hw.map_iff pn e
  le_largestSent e he := by
    rw [hs.packetNumber_eq]
    exact hw.le_largestSent e (hs.order_eq ▸ he)
  level_eq e he := by
    have := congrArg (fun x => x.2.2.2) (hs.sent_eq e)
    simp only [Packet.sent] at this
    rw [this]
    exact hw.level_eq e (hs.order_eq ▸ he)

theorem SameSlots.inFlight_eq {h h' : SentPacketHistory} (hs : SameSlots h h') :
    h'.inFlight = h.inFlight :=
  LinkedList.total_congr hs.order_eq fun e _ => hs.bytesInFlight_eq e

/-! ## Operations that keep the slots -/

theorem modifyPacket_sameSlots (h : SentPacketHistory) (e : Nat) {f : Packet → Packet}
    (hf : ∀ v, (f v).sent = v.sent) : SameSlots h (h.modifyPacket e f) where
  order_eq := rfl
  fresh_eq := rfl
  map_eq := rfl
  sent_eq e' := by
    simp only [value, modifyPacket, LinkedList.get_modify]
    split
    · subst e'
      exact hf _
    · rfl

theorem readjustFirstOutstanding_sameSlots (h : SentPacketHistory) (first : Nat) :
    SameSlots h (h.readjustFirstOutstanding first) :=
  ⟨rfl, rfl, rfl, fun _ => rfl⟩

theorem decOutstanding_sameSlots {h h' : SentPacketHistory} (hd : h.decOutstanding = .ok h') :
    SameSlots h h' := by
  unfold decOutstanding at hd
  split at hd
  · cases hd
  · cases hd
    exact ⟨rfl, rfl, rfl, fun _ => rfl⟩

theorem uncountOutstanding_sameSlots {h h' : SentPacketHistory} {el : Nat}
    (hu : h.uncountOutstanding el = .ok h') : SameSlots h h' := by
  unfold uncountOutstanding at hu
  split at hu
  · exact decOutstanding_sameSlots hu
  · cases hu
    exact SameSlots.refl h

theorem markCannotBeRetransmitted_sameSlots {h h' : SentPacketHistory} {pn : Int}
    (hm : h.markCannotBeRetransmitted pn = .ok h') : SameSlots h h' := by
  unfold markCannotBeRetransmitted at hm
  split at hm
  · cases hm
  · rename_i el _
    obtain ⟨h1, hd, hm⟩ := bind_eq_ok.1 hm
    have hs1 : SameSlots h h1 := uncountOutstanding_sameSlots hd
    have hs2 := hs1.trans (@modifyPacket_sameSlots h1 el
      (fun v => { v with canBeRetransmitted := false }) fun _ => rfl)
    cases hm
    split
    · exact hs2.trans (readjustFirstOutstanding_sameSlots _ el)
    · exact hs2

/-! ## Pushing and removing packets -/

theorem sentPacketImpl_snd (h : SentPacketHistory) (p : Packet) :
    (h.sentPacketImpl p).2 = h.packetList.fresh := rfl

@[simp] theorem packetMap_sentPacketImpl (h : SentPacketHistory) (p : Packet) :
    (h.sentPacketImpl p).1.packetMap = h.packetMap.insert p.packetNumber h.packetList.fresh := rfl

@[simp] theorem order_sentPacketImpl (h : SentPacketHistory) (p : Packet) :
    (h.sentPacketImpl p).1.packetList.order = h.packetList.order ++ [h.packetList.fresh] := rfl

@[simp] theorem fresh_sentPacketImpl (h : SentPacketHistory) (p : Packet) :
    (h.sentPacketImpl p).1.packetList.fresh = h.packetList.fresh + 1 := rfl

theorem value_sentPacketImpl (h : SentPacketHistory) (p : Packet) (e : Nat) :
    (h.sentPacketImpl p).1.value e = if e = h.packetList.fresh then p else h.value e := by
  simp only [sentPacketImpl, value, LinkedList.get, LinkedList.pushBack, Function.update_apply]

theorem inFlight_sentPacketImpl (h : SentPacketHistory) (p : Packet) :
    (h.sentPacketImpl p).1.inFlight = h.inFlight + p.bytesInFlight :=
  LinkedList.total_pushBack _ _ _

/-- Every packet the history holds is numbered below `n`. -/
def Below (h : SentPacketHistory) (n : Int) : Prop :=
  ∀ e ∈ h.packetList.order, (h.value e).packetNumber < n

/-- Pushing a packet numbered above every packet the history holds: the map finds
it under its number, and every other number where it was. -/
theorem map_iff_sentPacketImpl {h : SentPacketHistory}
    (hmap : ∀ pn e, h.packetMap.get? pn = some e ↔ e ∈ h.packetList.order ∧ (h.value e).packetNumber = pn)
    {p : Packet} (hbelow : h.Below p.packetNumber) (pn : Int) (e : Nat) :
    (h.sentPacketImpl p).1.packetMap.get? pn = some e ↔
      e ∈ (h.sentPacketImpl p).1.packetList.order ∧ ((h.sentPacketImpl p).1.value e).packetNumber = pn := by
  have hold : ∀ e ∈ h.packetList.order, e ≠ h.packetList.fresh := fun e he =>
    Nat.ne_of_lt (h.packetList.order_lt e he)
  rw [packetMap_sentPacketImpl, order_sentPacketImpl, value_sentPacketImpl, GoMap.get?_insert]
  simp only [List.mem_append, List.mem_singleton]
  by_cases hpe : pn = p.packetNumber
  · subst hpe
    simp only [if_true, Option.some.injEq]
    constructor
    · rintro rfl
      simp
    · rintro ⟨he | rfl, hpn'⟩
      · rw [if_neg (hold e he)] at hpn'
        exact absurd hpn' (Int.ne_of_lt (hbelow e he))
      · rfl
  · rw [if_neg hpe, hmap]
    constructor
    · rintro ⟨he, rfl⟩
      exact ⟨.inl he, by rw [if_neg (hold e he)]⟩
    · rintro ⟨he | rfl, hpn'⟩
      · rw [if_neg (hold e he)] at hpn'
        exact ⟨he, hpn'⟩
      · simp at hpn'
        exact absurd hpn'.symm hpe

/-- Pushing a packet numbered above everything sent before, of the history's
level, keeps the history well formed. -/
theorem sentPacketImpl_wf {h : SentPacketHistory} {level : EncryptionLevel} {n : Int}
    (hw : h.WF level n) {p : Packet} (hpn : n < p.packetNumber) (hlevel : p.encryptionLevel = level) :
    (h.sentPacketImpl p).1.WF level p.packetNumber := by
  have hval := value_sentPacketImpl h p
  have hold : ∀ e ∈ h.packetList.order, e ≠ h.packetList.fresh := fun e he =>
    Nat.ne_of_lt (h.packetList.order_lt e he)
  refine ⟨map_iff_sentPacketImpl hw.map_iff fun e he => Int.lt_of_le_of_lt (hw.le_largestSent e he) hpn,
    fun e he => ?_, fun e he => ?_⟩
  · rw [order_sentPacketImpl, List.mem_append, List.mem_singleton] at he
    rw [hval]
    rcases he with he | rfl
    · rw [if_neg (hold e he)]
      exact Int.le_trans (hw.le_largestSent e he) (Int.le_of_lt hpn)
    · simp
  · rw [order_sentPacketImpl, List.mem_append, List.mem_singleton] at he
    rw [hval]
    rcases he with he | rfl
    · rw [if_neg (hold e he)]
      exact hw.level_eq e he
    · simpa using hlevel

/-- What `Remove` finds and does in a well-formed history: the element of the
packet number is in the list, and it leaves the list and the map. -/
theorem remove_eq {h h' : SentPacketHistory} {pn : Int} (hr : h.remove pn = .ok h') :
    ∃ el h1, h.packetMap.get? pn = some el ∧ SameSlots h h1 ∧
      h' = { h1 with packetList := h1.packetList.remove el, packetMap := h1.packetMap.delete pn } := by
  unfold remove at hr
  split at hr
  · cases hr
  · rename_i el hget
    obtain ⟨h1, hd, hr⟩ := bind_eq_ok.1 hr
    have hs0 : SameSlots h (if h.firstOutstanding = some el then h.readjustFirstOutstanding el else h) := by
      split
      · exact readjustFirstOutstanding_sameSlots h el
      · exact SameSlots.refl h
    have hs1 : SameSlots h h1 := hs0.trans (uncountOutstanding_sameSlots hd)
    cases hr
    exact ⟨el, h1, hget, hs1, rfl⟩

/-- Removing the element a number maps to: the map finds every other number where
it was. -/
theorem map_iff_remove {h : SentPacketHistory}
    (hmap : ∀ pn e, h.packetMap.get? pn = some e ↔ e ∈ h.packetList.order ∧ (h.value e).packetNumber = pn)
    {pn : Int} {el : Nat} (hget : h.packetMap.get? pn = some el) (pn' : Int) (e : Nat) :
    (h.packetMap.delete pn).get? pn' = some e ↔
      e ∈ h.packetList.order.erase el ∧ (h.value e).packetNumber = pn' := by
  obtain ⟨hel, hpn⟩ := (hmap pn el).1 hget
  rw [GoMap.get?_delete, h.packetList.order_nodup.mem_erase_iff]
  split
  · -- only `el` had the removed number
    subst pn'
    constructor
    · intro hnone
      cases hnone
    · rintro ⟨⟨hne, he⟩, hpe⟩
      have h1 := (hmap _ _).2 ⟨he, hpe⟩
      have h2 := (hmap _ _).2 ⟨hel, hpn⟩
      exact absurd (Option.some.inj (h1.symm.trans h2)) hne
  · rename_i hne
    rw [hmap]
    constructor
    · rintro ⟨he, rfl⟩
      refine ⟨⟨?_, he⟩, rfl⟩
      rintro rfl
      exact hne hpn
    · rintro ⟨⟨-, he⟩, hpe⟩
      exact ⟨he, hpe⟩

theorem remove_wf {h h' : SentPacketHistory} {level : EncryptionLevel} {n : Int} {pn : Int}
    (hw : h.WF level n) (hr : h.remove pn = .ok h') : h'.WF level n := by
  obtain ⟨el, h1, hget, hs, rfl⟩ := remove_eq hr
  have hw1 := hs.wf hw
  refine ⟨map_iff_remove hw1.map_iff (hs.map_eq ▸ hget), fun e he => ?_, fun e he => ?_⟩
  · simp only [LinkedList.order_remove] at he
    exact hw1.le_largestSent e (List.mem_of_mem_erase he)
  · simp only [LinkedList.order_remove] at he
    exact hw1.level_eq e (List.mem_of_mem_erase he)

/-- `Remove` takes out of the bytes in flight exactly those of the packet it
removes. -/
theorem inFlight_remove {h h' : SentPacketHistory} {level : EncryptionLevel} {n : Int} {pn : Int}
    (hw : h.WF level n) (hr : h.remove pn = .ok h') :
    ∃ el, h.packetMap.get? pn = some el ∧ h'.inFlight + (h.value el).bytesInFlight = h.inFlight := by
  obtain ⟨el, h1, hget, hs, rfl⟩ := remove_eq hr
  have hel := ((hs.wf hw).map_iff pn el).1 (hs.map_eq ▸ hget)
  refine ⟨el, hget, ?_⟩
  rw [← hs.inFlight_eq, ← hs.bytesInFlight_eq el]
  exact LinkedList.total_remove _ hel.1

/-- `Remove` of a number the map holds fails only by panicking, on the counter of
outstanding packets. -/
theorem remove_error_panic {h : SentPacketHistory} {pn : Int} {el : Nat} {e : GoError}
    (hget : h.packetMap.get? pn = some el) (hr : h.remove pn = .error e) : ∃ msg, e = .panic msg := by
  unfold remove at hr
  rw [hget] at hr
  dsimp only at hr
  generalize (if h.firstOutstanding = some el then h.readjustFirstOutstanding el else h) = h1 at hr
  cases hu : h1.uncountOutstanding el with
  | ok h2 =>
    rw [hu] at hr
    cases hr
  | error e' =>
    rw [hu] at hr
    cases hr
    unfold uncountOutstanding decOutstanding at hu
    split at hu
    · split at hu
      · cases hu
        exact ⟨_, rfl⟩
      · cases hu
    · cases hu

/-! ## Pushing retransmissions -/

section Push

variable {push : SentPacketHistory → Packet → SentPacketHistory}

/-- Pushing packets of the history's level in increasing order, each above
everything before it, and each followed by writes that keep its slot, keeps the
history well formed up to any bound on their numbers. -/
theorem foldl_push_wf (hpush : ∀ h p, SameSlots (h.sentPacketImpl p).1 (push h p))
    {level : EncryptionLevel} {m : Int} :
    ∀ (ps : List Packet) (h : SentPacketHistory) (n : Int), h.WF level n → n ≤ m →
      (∀ p ∈ ps, p.encryptionLevel = level ∧ p.packetNumber ≤ m) →
      List.Pairwise (· < ·) (n :: ps.map (·.packetNumber)) → (ps.foldl push h).WF level m
  | [], _, _, hw, hnm, _, _ => hw.mono hnm
  | p :: ps, h, n, hw, _, hps, hpw => by
    rw [List.map_cons, List.pairwise_cons] at hpw
    obtain ⟨hn, hpw⟩ := hpw
    obtain ⟨hlevel, hle⟩ := hps p (List.mem_cons_self ..)
    have hw1 := (hpush h p).wf (sentPacketImpl_wf hw (hn _ (List.mem_cons_self ..)) hlevel)
    exact foldl_push_wf hpush ps (push h p) p.packetNumber hw1 hle
      (fun q hq => hps q (List.mem_cons_of_mem p hq)) hpw

theorem inFlight_foldl_push (hpush : ∀ h p, SameSlots (h.sentPacketImpl p).1 (push h p)) :
    ∀ (ps : List Packet) (h : SentPacketHistory),
      (ps.foldl push h).inFlight = h.inFlight + (ps.map Packet.bytesInFlight).sum
  | [], h => by simp
  | p :: ps, h => by
    rw [List.foldl_cons, inFlight_foldl_push hpush ps, (hpush h p).inFlight_eq,
      inFlight_sentPacketImpl, List.map_cons, List.sum_cons]
    omega

end Push

/-- `SentPacketsAsRetransmission` pushes the packets, and only marks the packet
they retransmit and themselves as retransmissions. -/
theorem sentPacketsAsRetransmission_wf {h : SentPacketHistory} {level : EncryptionLevel}
    {n m : Int} {ps : List Packet} (retransmissionOf : Int) (hw : h.WF level n) (hnm : n ≤ m)
    (hps : ∀ p ∈ ps, p.encryptionLevel = level ∧ p.packetNumber ≤ m)
    (hpw : List.Pairwise (· < ·) (n :: ps.map (·.packetNumber))) :
    (h.sentPacketsAsRetransmission ps retransmissionOf).WF level m ∧
      (h.sentPacketsAsRetransmission ps retransmissionOf).inFlight =
        h.inFlight + (ps.map Packet.bytesInFlight).sum := by
  have hplain : ∀ (h : SentPacketHistory) p, SameSlots (h.sentPacketImpl p).1 (h.sentPacketImpl p).1 :=
    fun h _ => SameSlots.refl _
  unfold sentPacketsAsRetransmission
  split
  · exact ⟨foldl_push_wf hplain ps h n hw hnm hps hpw, inFlight_foldl_push hplain ps h⟩
  · rename_i r _
    have hs := @modifyPacket_sameSlots h r
      (fun v => { v with retransmittedAs := ps.map (·.packetNumber) }) fun _ => rfl
    have hmark : ∀ (h : SentPacketHistory) p, SameSlots (h.sentPacketImpl p).1
        ((h.sentPacketImpl p).1.modifyPacket (h.sentPacketImpl p).2 fun v =>
          { v with isRetransmission := true, retransmissionOf := retransmissionOf }) :=
      fun h p => modifyPacket_sameSlots _ _ fun _ => rfl
    exact ⟨foldl_push_wf hmark ps _ n (hs.wf hw) hnm hps hpw,
      by rw [inFlight_foldl_push hmark, hs.inFlight_eq]⟩

/-! ## The representation invariant over runs

`sentPacketHandler` pushes packets that can be retransmitted, numbered above every
packet the history holds, and marks and removes packets the history holds.  Over
every such run the map indexes exactly the elements of the list, the list is in
increasing number order, `numOutstandingPackets` counts the elements that can be
retransmitted and `firstOutstanding` points to the first of them
(`reachable_sentPacketHistory`).  So `MarkCannotBeRetransmitted` and `Remove` of a
number the history holds decrement the counter only while it is positive, and
return. -/

/-- The elements whose packet can still be retransmitted, front to back. -/
def outstanding (h : SentPacketHistory) : List Nat :=
  h.packetList.order.filter fun e => (h.value e).canBeRetransmitted

/-- The representation invariant of `sentPacketHistory`. -/
structure Inv (h : SentPacketHistory) : Prop where
  map_iff : ∀ pn e, h.packetMap.get? pn = some e ↔
    e ∈ h.packetList.order ∧ (h.value e).packetNumber = pn
  sorted : (h.packetList.order.map fun e => (h.value e).packetNumber).Pairwise (· < ·)
  count : h.numOutstandingPackets = h.outstanding.length
  first : h.firstOutstanding = h.outstanding.head?

theorem inv_newSentPacketHistory : newSentPacketHistory.Inv where
  map_iff pn e := by simp [newSentPacketHistory, GoMap.get?, GoMap.empty, LinkedList.empty]
  sorted := by simp [newSentPacketHistory, LinkedList.empty]
  count := by simp [newSentPacketHistory, outstanding, LinkedList.empty]
  first := by simp [newSentPacketHistory, outstanding, LinkedList.empty]

/-- The invariant reads of a packet only its number and whether it can be
retransmitted: a write that keeps both keeps it. -/
theorem Inv.modifyPacket {h : SentPacketHistory} (hi : h.Inv) (e : Nat) {f : Packet → Packet}
    (hf : ∀ v, (f v).packetNumber = v.packetNumber ∧ (f v).canBeRetransmitted = v.canBeRetransmitted) :
    (h.modifyPacket e f).Inv := by
  have hval : ∀ e', ((h.modifyPacket e f).value e').packetNumber = (h.value e').packetNumber ∧
      ((h.modifyPacket e f).value e').canBeRetransmitted = (h.value e').canBeRetransmitted := by
    intro e'
    simp only [value, SentPacketHistory.modifyPacket, LinkedList.get_modify]
    split
    · subst e'
      exact hf _
    · exact ⟨rfl, rfl⟩
  have hout : (h.modifyPacket e f).outstanding = h.outstanding :=
    List.filter_congr fun e' _ => (hval e').2
  refine ⟨fun pn e' => ?_, ?_, hout ▸ hi.count, hout ▸ hi.first⟩
  · rw [(hval e').1]
    exact hi.map_iff pn e'
  · have : (h.modifyPacket e f).packetList.order.map (fun x => ((h.modifyPacket e f).value x).packetNumber) =
        h.packetList.order.map fun x => (h.value x).packetNumber :=
      List.map_congr_left fun e' _ => (hval e').1
    rw [this]
    exact hi.sorted

/-- Pushing a packet that can be retransmitted, numbered above every packet the
history holds, keeps the invariant; it is the last outstanding packet. -/
theorem Inv.sentPacketImpl {h : SentPacketHistory} (hi : h.Inv) {p : Packet}
    (hp : p.canBeRetransmitted = true) (hbelow : h.Below p.packetNumber) :
    (h.sentPacketImpl p).1.Inv := by
  have hold : ∀ e ∈ h.packetList.order, (h.sentPacketImpl p).1.value e = h.value e := fun e he => by
    rw [value_sentPacketImpl, if_neg (Nat.ne_of_lt (h.packetList.order_lt e he))]
  have hnew : (h.sentPacketImpl p).1.value h.packetList.fresh = p := by
    rw [value_sentPacketImpl, if_pos rfl]
  have hout : (h.sentPacketImpl p).1.outstanding = h.outstanding ++ [h.packetList.fresh] := by
    simp only [outstanding, order_sentPacketImpl, List.filter_append, hnew, hp, List.filter_cons,
      if_true, List.filter_nil]
    congr 1
    exact List.filter_congr fun e he => by rw [hold e he]
  refine ⟨map_iff_sentPacketImpl hi.map_iff hbelow, ?_, ?_, ?_⟩
  · -- the new number is above all the others
    have hmap : h.packetList.order.map (fun x => ((h.sentPacketImpl p).1.value x).packetNumber) =
        h.packetList.order.map fun x => (h.value x).packetNumber :=
      List.map_congr_left fun e he => by rw [hold e he]
    rw [order_sentPacketImpl, List.map_append, List.map_singleton, hnew, hmap, List.pairwise_append]
    refine ⟨hi.sorted, List.pairwise_singleton _ _, ?_⟩
    intro a ha b hb
    rw [List.mem_singleton] at hb
    obtain ⟨e, he, rfl⟩ := List.mem_map.1 ha
    exact hb ▸ hbelow e he
  · show (if p.canBeRetransmitted then h.numOutstandingPackets + 1 else h.numOutstandingPackets) =
      ((h.sentPacketImpl p).1.outstanding.length : Int)
    rw [hout, if_pos hp, hi.count, List.length_append, List.length_singleton]
    push_cast
    rfl
  · rw [hout]
    show (if h.firstOutstanding.isNone then some h.packetList.fresh else h.firstOutstanding) = _
    rw [hi.first]
    cases h.outstanding <;> rfl

theorem Below.sentPacketImpl {h : SentPacketHistory} {p : Packet} {n : Int} (hbelow : h.Below n)
    (hp : p.packetNumber < n) : (h.sentPacketImpl p).1.Below n := by
  intro e he
  rw [order_sentPacketImpl, List.mem_append, List.mem_singleton] at he
  rw [value_sentPacketImpl]
  rcases he with he | rfl
  · rw [if_neg (Nat.ne_of_lt (h.packetList.order_lt e he))]
    exact hbelow e he
  · rwa [if_pos rfl]

theorem Below.modifyPacket {h : SentPacketHistory} {n : Int} (hbelow : h.Below n) (e : Nat)
    {f : Packet → Packet} (hf : ∀ v, (f v).packetNumber = v.packetNumber) :
    (h.modifyPacket e f).Below n := by
  intro e' he'
  simp only [value, SentPacketHistory.modifyPacket, LinkedList.get_modify]
  split
  · subst e'
    rw [hf]
    exact hbelow _ he'
  · exact hbelow e' he'

/-- Pushing packets that can be retransmitted, in increasing order and above every
packet the history holds, by a push that keeps the invariant, keeps it. -/
theorem Inv.foldl_push {push : SentPacketHistory → Packet → SentPacketHistory}
    (hpush : ∀ h p, h.Inv → p.canBeRetransmitted = true → h.Below p.packetNumber →
      (push h p).Inv ∧ ∀ n, p.packetNumber < n → h.Below n → (push h p).Below n) :
    ∀ (ps : List Packet) (h : SentPacketHistory), h.Inv →
      (∀ p ∈ ps, p.canBeRetransmitted = true ∧ h.Below p.packetNumber) →
      (ps.map (·.packetNumber)).Pairwise (· < ·) → (ps.foldl push h).Inv
  | [], _, hi, _, _ => hi
  | p :: ps, h, hi, hps, hpw => by
    rw [List.map_cons, List.pairwise_cons] at hpw
    obtain ⟨hcan, hbelow⟩ := hps p List.mem_cons_self
    obtain ⟨hi', hbelow'⟩ := hpush h p hi hcan hbelow
    refine Inv.foldl_push hpush ps (push h p) hi' (fun q hq => ⟨(hps q (.tail p hq)).1, ?_⟩) hpw.2
    exact hbelow' _ (hpw.1 _ (List.mem_map_of_mem hq)) (hps q (.tail p hq)).2

/-- `SentPacketsAsRetransmission` of packets that can be retransmitted, in
increasing order and above every packet the history holds, keeps the invariant. -/
theorem Inv.sentPacketsAsRetransmission {h : SentPacketHistory} (hi : h.Inv) {ps : List Packet}
    (retransmissionOf : Int) (hps : ∀ p ∈ ps, p.canBeRetransmitted = true ∧ h.Below p.packetNumber)
    (hpw : (ps.map (·.packetNumber)).Pairwise (· < ·)) :
    (h.sentPacketsAsRetransmission ps retransmissionOf).Inv := by
  unfold SentPacketHistory.sentPacketsAsRetransmission
  split
  · exact Inv.foldl_push (fun h p hi hp hb => ⟨hi.sentPacketImpl hp hb,
      fun _ hn hb' => hb'.sentPacketImpl hn⟩) ps h hi hps hpw
  · rename_i r _
    have hi₁ := hi.modifyPacket r (f := fun v => { v with retransmittedAs := ps.map (·.packetNumber) })
      fun _ => ⟨rfl, rfl⟩
    exact @Inv.foldl_push (fun h p => (h.sentPacketImpl p).1.modifyPacket (h.sentPacketImpl p).2
        fun v => { v with isRetransmission := true, retransmissionOf := retransmissionOf })
      (fun h p hi hp hb => ⟨(hi.sentPacketImpl hp hb).modifyPacket _ fun _ => ⟨rfl, rfl⟩,
        fun _ hn hb' => (hb'.sentPacketImpl hn).modifyPacket _ fun _ => rfl⟩)
      ps _ hi₁ (fun p hp => ⟨(hps p hp).1, (hps p hp).2.modifyPacket r fun _ => rfl⟩) hpw

/-- `numOutstandingPackets--` where the counter counts the outstanding packets and
`el` is one of the history's: it never goes below zero. -/
theorem uncountOutstanding_eq {h : SentPacketHistory} (hcount : h.numOutstandingPackets = h.outstanding.length)
    {el : Nat} (hel : el ∈ h.packetList.order) :
    h.uncountOutstanding el = .ok { h with numOutstandingPackets :=
      h.numOutstandingPackets - if (h.value el).canBeRetransmitted then 1 else 0 } := by
  unfold uncountOutstanding decOutstanding
  by_cases hc : (h.value el).canBeRetransmitted = true
  · -- `el` is one of the outstanding packets the counter counts
    have hpos : 0 < h.outstanding.length :=
      List.length_pos_of_mem (List.mem_filter.2 ⟨hel, hc⟩)
    rw [if_pos hc, if_neg (by omega), if_pos hc]
  · rw [if_neg hc, if_neg hc, Int.sub_zero]

/-- `readjustFirstOutstanding` only moves the pointer. -/
theorem ite_readjustFirstOutstanding (h : SentPacketHistory) (c : Prop) [Decidable c] (el : Nat) :
    (if c then h.readjustFirstOutstanding el else h) =
      { h with firstOutstanding := if c then
          List.find? (fun e => (h.value e).canBeRetransmitted) (h.packetList.after el)
        else h.firstOutstanding } := by
  split <;> rfl

/-- `MarkCannotBeRetransmitted` of a number the history holds returns, and keeps
the invariant. -/
theorem Inv.markCannotBeRetransmitted {h : SentPacketHistory} (hi : h.Inv) {pn : Int} {el : Nat}
    (hget : h.packetMap.get? pn = some el) :
    ∃ h', h.markCannotBeRetransmitted pn = .ok h' ∧ h'.Inv := by
  have hel := ((hi.map_iff pn el).1 hget).1
  set h₂ : SentPacketHistory := ({ h with numOutstandingPackets :=
      h.numOutstandingPackets - if (h.value el).canBeRetransmitted then 1 else 0 } :
        SentPacketHistory).modifyPacket el fun v => { v with canBeRetransmitted := false } with hh₂
  refine ⟨if h₂.firstOutstanding = some el then h₂.readjustFirstOutstanding el else h₂, ?_, ?_⟩
  · simp only [SentPacketHistory.markCannotBeRetransmitted, hget, uncountOutstanding_eq hi.count hel,
      ok_bind, hh₂]
    rfl
  have hval : ∀ e, (h₂.value e).packetNumber = (h.value e).packetNumber ∧
      (h₂.value e).canBeRetransmitted = if e = el then false else (h.value e).canBeRetransmitted := by
    intro e
    simp only [hh₂, value, SentPacketHistory.modifyPacket, LinkedList.get_modify]
    split
    · rename_i he
      subst he
      simp
    · simp
  have hout : h₂.outstanding = (h.packetList.order.erase el).filter fun e => (h.value e).canBeRetransmitted :=
    h.packetList.filter_of_eq_off (by rw [(hval el).2, if_pos rfl]) fun x hx => by rw [(hval x).2, if_neg hx]
  have hlen := h.packetList.length_filter_erase (fun e => (h.value e).canBeRetransmitted) hel
  have hfirst := @LinkedList.first_erase Packet h.packetList (fun e => (h.value e).canBeRetransmitted)
    (fun e => (h₂.value e).canBeRetransmitted) el h.firstOutstanding hi.first
    fun x hx => by rw [(hval x).2, if_neg hx]
  rw [ite_readjustFirstOutstanding]
  refine ⟨fun pn' e => ?_, ?_, ?_, ?_⟩
  · show h.packetMap.get? pn' = some e ↔ e ∈ h.packetList.order ∧ (h₂.value e).packetNumber = pn'
    rw [(hval e).1]
    exact hi.map_iff pn' e
  · show (h.packetList.order.map fun x => (h₂.value x).packetNumber).Pairwise (· < ·)
    rw [List.map_congr_left fun e _ => (hval e).1]
    exact hi.sorted
  · show h.numOutstandingPackets - (if (h.value el).canBeRetransmitted then 1 else 0) =
      (h₂.outstanding.length : Int)
    rw [hout, hi.count, outstanding, hlen]
    split <;> simp
  · show (if h.firstOutstanding = some el then
        List.find? (fun e => (h₂.value e).canBeRetransmitted) (h.packetList.after el)
      else h.firstOutstanding) = h₂.outstanding.head?
    rw [hfirst, hout]

/-- `Remove` of a number the history holds returns, and keeps the invariant. -/
theorem Inv.remove {h : SentPacketHistory} (hi : h.Inv) {pn : Int} {el : Nat}
    (hget : h.packetMap.get? pn = some el) :
    ∃ h', h.remove pn = .ok h' ∧ h'.Inv := by
  have hel := ((hi.map_iff pn el).1 hget).1
  -- the pointer moves first; then the counter, the list and the map change
  set F := if h.firstOutstanding = some el then
    List.find? (fun e => (h.value e).canBeRetransmitted) (h.packetList.after el)
    else h.firstOutstanding with hF
  refine ⟨{ h with
      packetList := h.packetList.remove el
      packetMap := h.packetMap.delete pn
      numOutstandingPackets := h.numOutstandingPackets - if (h.value el).canBeRetransmitted then 1 else 0
      firstOutstanding := F }, ?_, ?_⟩
  · have hu := uncountOutstanding_eq (h := { h with firstOutstanding := F }) hi.count hel
    simp only [SentPacketHistory.remove, hget, ite_readjustFirstOutstanding, ← hF, hu, ok_bind]
    rfl
  have hlen := h.packetList.length_filter_erase (fun e => (h.value e).canBeRetransmitted) hel
  refine ⟨map_iff_remove hi.map_iff hget, ?_, ?_, ?_⟩
  · exact hi.sorted.sublist (List.erase_sublist.map _)
  · show h.numOutstandingPackets - (if (h.value el).canBeRetransmitted then 1 else 0) =
      (((h.packetList.order.erase el).filter fun e => (h.value e).canBeRetransmitted).length : Int)
    rw [hi.count, outstanding, hlen]
    split <;> simp
  · exact h.packetList.first_erase hi.first fun _ _ => rfl

/-- The calls `sentPacketHandler` makes on a history: it sends packets that can be
retransmitted, numbered above every packet the history holds, alone or as the
retransmissions of a packet; it marks and removes packets the history holds. -/
inductive Step : SentPacketHistory → SentPacketHistory → Prop
  | sentPacket {h : SentPacketHistory} {p : Packet} :
      p.canBeRetransmitted = true → h.Below p.packetNumber → Step h (h.sentPacket p)
  | sentPacketsAsRetransmission {h : SentPacketHistory} {ps : List Packet} {retransmissionOf : Int} :
      (∀ p ∈ ps, p.canBeRetransmitted = true ∧ h.Below p.packetNumber) →
      (ps.map (·.packetNumber)).Pairwise (· < ·) →
      Step h (h.sentPacketsAsRetransmission ps retransmissionOf)
  | markCannotBeRetransmitted {h h' : SentPacketHistory} {pn : Int} :
      h.getPacket pn ≠ none → h.markCannotBeRetransmitted pn = .ok h' → Step h h'
  | remove {h h' : SentPacketHistory} {pn : Int} :
      h.getPacket pn ≠ none → h.remove pn = .ok h' → Step h h'

/-- The histories a run of such calls reaches from `newSentPacketHistory`. -/
inductive Reachable : SentPacketHistory → Prop
  | init : Reachable newSentPacketHistory
  | step {h h' : SentPacketHistory} : Reachable h → Step h h' → Reachable h'

theorem Inv.step {h h' : SentPacketHistory} (hi : h.Inv) (hs : Step h h') : h'.Inv := by
  cases hs with
  | sentPacket hp hbelow => exact hi.sentPacketImpl hp hbelow
  | sentPacketsAsRetransmission hps hpw => exact hi.sentPacketsAsRetransmission _ hps hpw
  | markCannotBeRetransmitted hpn hm =>
    obtain ⟨el, hget⟩ := Option.ne_none_iff_exists'.1 hpn
    obtain ⟨h'', hm', hi''⟩ := hi.markCannotBeRetransmitted hget
    rw [hm, Except.ok.injEq] at hm'
    exact hm' ▸ hi''
  | remove hpn hr =>
    obtain ⟨el, hget⟩ := Option.ne_none_iff_exists'.1 hpn
    obtain ⟨h'', hr', hi''⟩ := hi.remove hget
    rw [hr, Except.ok.injEq] at hr'
    exact hr' ▸ hi''

theorem Reachable.inv {h : SentPacketHistory} (hr : Reachable h) : h.Inv := by
  induction hr with
  | init => exact inv_newSentPacketHistory
  | step _ hs ih => exact ih.step hs

/-- **The history's representation invariant.**  In every history a run of
`SentPacket`, `SentPacketsAsRetransmission`, `MarkCannotBeRetransmitted` and
`Remove` calls reaches, as `sentPacketHandler` makes them, the map indexes exactly
the elements of the list by their numbers, the list is in increasing number order,
`numOutstandingPackets` counts the elements that can be retransmitted, and
`firstOutstanding` is the first of them (`none` when there is none); and
`MarkCannotBeRetransmitted` and `Remove` of a number the history holds return,
so neither panics on a negative count. -/
theorem reachable_sentPacketHistory {h : SentPacketHistory} (hr : Reachable h) :
    (∀ pn e, h.packetMap.get? pn = some e ↔ e ∈ h.packetList.order ∧ (h.value e).packetNumber = pn) ∧
    (h.packetList.order.map fun e => (h.value e).packetNumber).Pairwise (· < ·) ∧
    h.numOutstandingPackets = (h.packetList.order.filter fun e => (h.value e).canBeRetransmitted).length ∧
    h.firstOutstanding = h.packetList.order.find? (fun e => (h.value e).canBeRetransmitted) ∧
    ∀ pn, h.getPacket pn ≠ none →
      (∃ h', h.markCannotBeRetransmitted pn = .ok h') ∧ ∃ h', h.remove pn = .ok h' := by
  have hi := hr.inv
  refine ⟨hi.map_iff, hi.sorted, hi.count, by rw [hi.first, outstanding, List.head?_filter], ?_⟩
  intro pn hpn
  obtain ⟨el, hget⟩ := Option.ne_none_iff_exists'.1 hpn
  obtain ⟨h₁, hm, -⟩ := hi.markCannotBeRetransmitted hget
  obtain ⟨h₂, hrm, -⟩ := hi.remove hget
  exact ⟨⟨h₁, hm⟩, h₂, hrm⟩

/-- A new history with one packet sent counts one outstanding packet, and points to
it. -/
theorem reachable_sentPacketHistory_first_packet :
    Reachable (newSentPacketHistory.sentPacket { (default : Packet) with canBeRetransmitted := true }) ∧
    (newSentPacketHistory.sentPacket
      { (default : Packet) with canBeRetransmitted := true }).numOutstandingPackets = 1 ∧
    (newSentPacketHistory.sentPacket
      { (default : Packet) with canBeRetransmitted := true }).firstOutstanding = some 0 := by
  have hr : Reachable (newSentPacketHistory.sentPacket
      { (default : Packet) with canBeRetransmitted := true }) :=
    .step .init (.sentPacket rfl (by simp [Below, newSentPacketHistory, LinkedList.empty]))
  obtain ⟨-, -, hcount, hfirst, -⟩ := reachable_sentPacketHistory hr
  exact ⟨hr, hcount.trans rfl, hfirst.trans rfl⟩

end SentPacketHistory
end QuicFec