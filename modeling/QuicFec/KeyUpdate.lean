import QuicFec.SentPacketHandler

/-! # Key updates of the 1-RTT keys

`internal/handshake/updatable_aead.go`: after the handshake both sides protect
their packets with `updatableAEAD`, which replaces its keys in place.  Keys come in
generations: each new traffic secret is derived from the last one
(`getNextTrafficSecret`), and a packet's header carries only the parity of the key
phase it was sealed in.  `Open` reads that bit as the previous, the current or the
next generation by comparing the packet number with the first one received in the
current phase; opening a packet of the next generation is how a side learns that
its peer updated, and it follows (`rollKeys`).  A side starts an update itself in
`KeyPhase`, before it seals a packet, once it has sealed or opened
`keyUpdateInterval` packets in the current phase and the peer has acknowledged one
of the packets sealed in it (`updateAllowed`).

A traffic secret and the AEAD made from it are modelled by their generation:
`getNextTrafficSecret` goes from `g` to `g + 1`, and an AEAD of generation `g` opens
exactly what was sealed with generation `g` (`aeadOpen`).  The clock and the PTO
are inputs (`now`, `pto`, in nanoseconds).  Header protection, nonces and the
logger are not modelled.  Exported methods keep Go's capitalisation: the field
`keyPhase` and the method `KeyPhase` differ only in it.

**Two peers.**  `Peers` is a client and a server, every packet each side has
sealed, and every packet of its peer's each side has opened.  A run (`Reachable`)
interleaves, on either side, `KeyPhase` followed by `Seal` at a fresh packet
number, `Open` of any packet the peer ever sealed (so packets are lost,
reordered and duplicated at will), and `SetLargestAcked` with the acknowledgement
carried by a packet the side has opened.  As long as no previous key has expired,
`reachable_keyUpdate` shows that the key phases never differ by more than one and
that `Open` succeeds on exactly the packets sealed no earlier than the receiver's
previous phase; any older packet fails with `ErrDecryptionFailed` and changes
nothing, and no `Open` ever reports a protocol violation.  An acknowledgement that
does not travel in a packet lets a side update before its peer has sent anything
in the current phase (`keysUpdatedTooQuickly`), and a packet held back over two
updates cannot be opened (`keyUpdate_two_phases_late`).
-/

namespace QuicFec
open GoBytes

/-- `ErrKeysDropped`. -/
def ErrKeysDropped : GoError := .error "CryptoSetup: keys were already dropped"

/-- `ErrDecryptionFailed`. -/
def ErrDecryptionFailed : GoError := .error "decryption failed"

/-- `KeyPhase.Bit`: the key phase bit a header carries, for the key phase `p`
(`protocol.KeyPhase`, the number of key updates so far). -/
def KeyPhase.Bit (p : Nat) : Bool := p % 2 == 1

@[simp] theorem KeyPhase.Bit_succ (p : Nat) : KeyPhase.Bit (p + 1) = !KeyPhase.Bit p := by
  unfold KeyPhase.Bit
  rcases Nat.mod_two_eq_zero_or_one p with h | h <;> simp [Nat.succ_mod_two_eq_one_iff, h]

/-- A 1-RTT packet on the wire: its packet number and key phase bit, the key
generation its payload was sealed with, and the acknowledgement it carries, the
largest packet number of the receiver's that the sender had opened. -/
structure SealedPacket where
  pn : Int
  keyPhaseBit : Bool
  generation : Nat
  largestAcked : Int
  deriving DecidableEq, Repr

/-- `createAEAD`: a traffic secret and an AEAD are both their generation. -/
def createAEAD (trafficSecret : Nat) : Nat := trafficSecret

/-- `getNextTrafficSecret`: HKDF-Expand-Label "traffic upd" of a secret is the
secret of the next generation. -/
def getNextTrafficSecret (ts : Nat) : Nat := ts + 1

/-- `aead.Open`: an AEAD opens exactly what was sealed with its own generation. -/
def aeadOpen (aead : Nat) (src : SealedPacket) : Bool := src.generation == aead

/-- `updatableAEAD`, without the suite, header protection, nonce buffers and logger.
Every AEAD and traffic secret is a generation. -/
structure UpdatableAEAD where
  keyPhase : Nat
  largestAcked : Int
  keyUpdateInterval : Nat
  prevRcvAEADExpiry : Int
  prevRcvAEAD : Option Nat
  firstRcvdWithCurrentKey : Int
  firstSentWithCurrentKey : Int
  numRcvdWithCurrentKey : Nat
  numSentWithCurrentKey : Nat
  rcvAEAD : Nat
  sendAEAD : Nat
  nextRcvAEAD : Nat
  nextSendAEAD : Nat
  nextRcvTrafficSecret : Nat
  nextSendTrafficSecret : Nat
  deriving DecidableEq, Repr

/-- `newUpdatableAEAD`, with the package's `keyUpdateInterval` (set from
`QUIC_GO_KEY_UPDATE_INTERVAL`) as a parameter.  The keys are nil until
`SetReadKey` and `SetWriteKey`. -/
def newUpdatableAEAD (keyUpdateInterval : Nat) : UpdatableAEAD where
  keyPhase := 0
  largestAcked := InvalidPacketNumber
  keyUpdateInterval := keyUpdateInterval
  prevRcvAEADExpiry := 0
  prevRcvAEAD := none
  firstRcvdWithCurrentKey := InvalidPacketNumber
  firstSentWithCurrentKey := InvalidPacketNumber
  numRcvdWithCurrentKey := 0
  numSentWithCurrentKey := 0
  rcvAEAD := 0
  sendAEAD := 0
  nextRcvAEAD := 0
  nextSendAEAD := 0
  nextRcvTrafficSecret := 0
  nextSendTrafficSecret := 0

namespace UpdatableAEAD

/-- `rollKeys`: the next keys become the current ones, and the current receive
key is kept as the previous one until three PTOs from now. -/
def rollKeys (a : UpdatableAEAD) (now pto : Int) : UpdatableAEAD :=
  let nextRcvTrafficSecret := getNextTrafficSecret a.nextRcvTrafficSecret
  let nextSendTrafficSecret := getNextTrafficSecret a.nextSendTrafficSecret
  { a with
    keyPhase := a.keyPhase + 1
    firstRcvdWithCurrentKey := InvalidPacketNumber
    firstSentWithCurrentKey := InvalidPacketNumber
    numRcvdWithCurrentKey := 0
    numSentWithCurrentKey := 0
    prevRcvAEAD := some a.rcvAEAD
    prevRcvAEADExpiry := now + 3 * pto
    rcvAEAD := a.nextRcvAEAD
    sendAEAD := a.nextSendAEAD
    nextRcvTrafficSecret := nextRcvTrafficSecret
    nextSendTrafficSecret := nextSendTrafficSecret
    nextRcvAEAD := createAEAD nextRcvTrafficSecret
    nextSendAEAD := createAEAD nextSendTrafficSecret }

/-- `SetReadKey`. -/
def SetReadKey (a : UpdatableAEAD) (trafficSecret : Nat) : UpdatableAEAD :=
  let nextRcvTrafficSecret := getNextTrafficSecret trafficSecret
  { a with
    rcvAEAD := createAEAD trafficSecret
    nextRcvTrafficSecret := nextRcvTrafficSecret
    nextRcvAEAD := createAEAD nextRcvTrafficSecret }

/-- `SetWriteKey`. -/
def SetWriteKey (a : UpdatableAEAD) (trafficSecret : Nat) : UpdatableAEAD :=
  let nextSendTrafficSecret := getNextTrafficSecret trafficSecret
  { a with
    sendAEAD := createAEAD trafficSecret
    nextSendTrafficSecret := nextSendTrafficSecret
    nextSendAEAD := createAEAD nextSendTrafficSecret }

/-- `Open` of the sealed packet `src` with packet number `pn` and key phase bit
`kp`, at time `now`. -/
def Open (a : UpdatableAEAD) (now pto pn : Int) (kp : Bool) (src : SealedPacket) :
    UpdatableAEAD × Except GoError Unit :=
  -- the previous key is dropped on the first call after it expired
  let a := if a.prevRcvAEAD.isSome && decide (a.prevRcvAEADExpiry < now) then
    { a with prevRcvAEAD := none, prevRcvAEADExpiry := 0 } else a
  if kp != KeyPhase.Bit a.keyPhase then
    if a.firstRcvdWithCurrentKey == InvalidPacketNumber || decide (pn < a.firstRcvdWithCurrentKey) then
      if a.keyPhase == 0 then
        (a, .error (protocolViolation "wrong initial keyphase"))
      else
        match a.prevRcvAEAD with
        | none => (a, .error ErrKeysDropped)
        | some prevRcvAEAD =>
          -- we updated the key, but the peer hasn't updated yet
          if aeadOpen prevRcvAEAD src then (a, .ok ()) else (a, .error ErrDecryptionFailed)
    else if !aeadOpen a.nextRcvAEAD src then
      (a, .error ErrDecryptionFailed)
    else if a.firstSentWithCurrentKey == InvalidPacketNumber then
      (a, .error (protocolViolation "keys updated too quickly"))
    else
      ({ a.rollKeys now pto with firstRcvdWithCurrentKey := pn }, .ok ())
  else if aeadOpen a.rcvAEAD src then
    ({ a with
        numRcvdWithCurrentKey := a.numRcvdWithCurrentKey + 1
        firstRcvdWithCurrentKey :=
          if a.firstRcvdWithCurrentKey == InvalidPacketNumber then pn
          else a.firstRcvdWithCurrentKey }, .ok ())
  else
    (a, .error ErrDecryptionFailed)

/-- `Seal` at packet number `pn`: the new state and the AEAD it sealed with. -/
def Seal (a : UpdatableAEAD) (pn : Int) : UpdatableAEAD × Nat :=
  ({ a with
      firstSentWithCurrentKey :=
        if a.firstSentWithCurrentKey == InvalidPacketNumber then pn else a.firstSentWithCurrentKey
      numSentWithCurrentKey := a.numSentWithCurrentKey + 1 }, a.sendAEAD)

/-- `SetLargestAcked`. -/
def SetLargestAcked (a : UpdatableAEAD) (pn : Int) : UpdatableAEAD := { a with largestAcked := pn }

/-- `updateAllowed`: a packet sealed in the current phase has been acknowledged. -/
def updateAllowed (a : UpdatableAEAD) : Bool :=
  a.firstSentWithCurrentKey != InvalidPacketNumber &&
    a.largestAcked != InvalidPacketNumber &&
    decide (a.largestAcked ≥ a.firstSentWithCurrentKey)

/-- `shouldInitiateKeyUpdate`. -/
def shouldInitiateKeyUpdate (a : UpdatableAEAD) : Bool :=
  if !a.updateAllowed then false
  else if a.numRcvdWithCurrentKey ≥ a.keyUpdateInterval then true
  else if a.numSentWithCurrentKey ≥ a.keyUpdateInterval then true
  else false

/-- `KeyPhase`: start a key update if one is due, then give the key phase bit
for the next packet. -/
def KeyPhase (a : UpdatableAEAD) (now pto : Int) : UpdatableAEAD × Bool :=
  let a := if a.shouldInitiateKeyUpdate then a.rollKeys now pto else a
  (a, KeyPhase.Bit a.keyPhase)

/-- `a` once both 1-RTT keys of generation 0 are installed. -/
def oneRTT (keyUpdateInterval : Nat) : UpdatableAEAD :=
  ((newUpdatableAEAD keyUpdateInterval).SetReadKey 0).SetWriteKey 0

/-- `Open` at `now` will not drop the previous receive key. -/
def NotExpired (a : UpdatableAEAD) (now : Int) : Prop :=
  a.prevRcvAEAD = none ∨ now ≤ a.prevRcvAEADExpiry

/-! ## The keys, by generation -/

/-- The keys of `a` by generation: the current keys are those of its key phase,
the next ones one above, and the previous receive key one below. -/
structure Keys (a : UpdatableAEAD) : Prop where
  rcv : a.rcvAEAD = a.keyPhase
  send : a.sendAEAD = a.keyPhase
  nextRcv : a.nextRcvAEAD = a.keyPhase + 1
  nextSend : a.nextSendAEAD = a.keyPhase + 1
  nextRcvSecret : a.nextRcvTrafficSecret = a.keyPhase + 1
  nextSendSecret : a.nextSendTrafficSecret = a.keyPhase + 1
  prev : a.prevRcvAEAD = if a.keyPhase = 0 then none else some (a.keyPhase - 1)

theorem keys_oneRTT (keyUpdateInterval : Nat) : Keys (oneRTT keyUpdateInterval) where
  rcv := rfl
  send := rfl
  nextRcv := rfl
  nextSend := rfl
  nextRcvSecret := rfl
  nextSendSecret := rfl
  prev := rfl

@[simp] theorem rollKeys_keyPhase (a : UpdatableAEAD) (now pto : Int) :
    (a.rollKeys now pto).keyPhase = a.keyPhase + 1 := rfl

theorem Keys.rollKeys {a : UpdatableAEAD} (h : Keys a) (now pto : Int) :
    Keys (a.rollKeys now pto) where
  rcv := h.nextRcv
  send := h.nextSend
  nextRcv := by simp [UpdatableAEAD.rollKeys, createAEAD, getNextTrafficSecret, h.nextRcvSecret]
  nextSend := by simp [UpdatableAEAD.rollKeys, createAEAD, getNextTrafficSecret, h.nextSendSecret]
  nextRcvSecret := by simp [UpdatableAEAD.rollKeys, getNextTrafficSecret, h.nextRcvSecret]
  nextSendSecret := by simp [UpdatableAEAD.rollKeys, getNextTrafficSecret, h.nextSendSecret]
  prev := by simp [UpdatableAEAD.rollKeys, h.rcv]

/-! ## `Open`, case by case

Once the previous key cannot expire, which key `Open` tries is decided by the key
phase bit and by the packet number against `firstRcvdWithCurrentKey`; with the
keys of `Keys`, each case below says what comes out. -/

section Open
variable {a : UpdatableAEAD} {now pto pn : Int} {kp : Bool} {src : SealedPacket}

theorem dropExpired_eq (h : NotExpired a now) :
    (if a.prevRcvAEAD.isSome && decide (a.prevRcvAEADExpiry < now) then
      { a with prevRcvAEAD := none, prevRcvAEADExpiry := 0 } else a) = a := by
  rcases h with h | h
  · simp [h]
  · simp [Int.not_lt.2 h]

/-- A packet of the current phase opens with the current key and is counted. -/
theorem Open_current (hk : Keys a) (hexp : NotExpired a now) (hkp : kp = KeyPhase.Bit a.keyPhase)
    (hg : src.generation = a.keyPhase) :
    a.Open now pto pn kp src =
      ({ a with
          numRcvdWithCurrentKey := a.numRcvdWithCurrentKey + 1
          firstRcvdWithCurrentKey :=
            if a.firstRcvdWithCurrentKey == InvalidPacketNumber then pn
            else a.firstRcvdWithCurrentKey }, .ok ()) := by
  unfold UpdatableAEAD.Open
  rw [dropExpired_eq hexp]
  simp [hkp, aeadOpen, hk.rcv, hg]

/-- A packet of the next phase, numbered at least the first one of the current
phase, opens with the next key; once this side has sealed in the current phase
it follows the peer into the next one. -/
theorem Open_next (hk : Keys a) (hexp : NotExpired a now) (hkp : kp = KeyPhase.Bit (a.keyPhase + 1))
    (hg : src.generation = a.keyPhase + 1) (hrcvd : a.firstRcvdWithCurrentKey ≠ InvalidPacketNumber)
    (hpn : a.firstRcvdWithCurrentKey ≤ pn) (hsent : a.firstSentWithCurrentKey ≠ InvalidPacketNumber) :
    a.Open now pto pn kp src = ({ a.rollKeys now pto with firstRcvdWithCurrentKey := pn }, .ok ()) := by
  unfold UpdatableAEAD.Open
  rw [dropExpired_eq hexp]
  simp [hkp, aeadOpen, hk.nextRcv, hg, hrcvd, hsent, Int.not_lt.2 hpn]

/-- A packet of the previous phase, numbered below the first one of the current
phase, opens with the previous key and changes nothing. -/
theorem Open_prev (hk : Keys a) (hexp : NotExpired a now) (hkp : kp ≠ KeyPhase.Bit a.keyPhase)
    (hbelow : a.firstRcvdWithCurrentKey = InvalidPacketNumber ∨ pn < a.firstRcvdWithCurrentKey)
    (hg : src.generation + 1 = a.keyPhase) :
    a.Open now pto pn kp src = (a, .ok ()) := by
  unfold UpdatableAEAD.Open
  rw [dropExpired_eq hexp]
  have hne : a.keyPhase ≠ 0 := by omega
  simp [hkp, hbelow, hne, hk.prev, aeadOpen]
  omega

/-- A packet sealed two or more phases ago opens with no key this side holds. -/
theorem Open_old (hk : Keys a) (hexp : NotExpired a now) (hg : src.generation + 1 < a.keyPhase)
    (hbelow : kp ≠ KeyPhase.Bit a.keyPhase →
      a.firstRcvdWithCurrentKey = InvalidPacketNumber ∨ pn < a.firstRcvdWithCurrentKey) :
    a.Open now pto pn kp src = (a, .error ErrDecryptionFailed) := by
  unfold UpdatableAEAD.Open
  rw [dropExpired_eq hexp]
  have hne : a.keyPhase ≠ 0 := by omega
  by_cases hkp : kp = KeyPhase.Bit a.keyPhase
  · simp [hkp, aeadOpen, hk.rcv]
    omega
  · simp [hkp, hbelow hkp, hne, hk.prev, aeadOpen]
    omega

end Open

/-- The state after `Seal` has the keys of the state before. -/
theorem Keys.Seal {a : UpdatableAEAD} (h : a.Keys) (pn : Int) : (a.Seal pn).1.Keys := { h with }

/-- The state after `SetLargestAcked` has the keys of the state before. -/
theorem Keys.SetLargestAcked {a : UpdatableAEAD} (h : a.Keys) (pn : Int) :
    (a.SetLargestAcked pn).Keys := { h with }

/-- `shouldInitiateKeyUpdate` asks for `updateAllowed` first. -/
theorem updateAllowed_of_shouldInitiateKeyUpdate {a : UpdatableAEAD}
    (h : a.shouldInitiateKeyUpdate = true) : a.updateAllowed = true := by
  unfold shouldInitiateKeyUpdate at h
  cases hu : a.updateAllowed
  · simp [hu] at h
  · rfl

/-- What `updateAllowed` checks, as a proposition. -/
theorem updateAllowed_iff {a : UpdatableAEAD} :
    a.updateAllowed = true ↔ a.firstSentWithCurrentKey ≠ InvalidPacketNumber ∧
      a.largestAcked ≠ InvalidPacketNumber ∧ a.firstSentWithCurrentKey ≤ a.largestAcked := by
  simp [updateAllowed, and_assoc]

end UpdatableAEAD

/-! ## Two peers -/

/-- `Perspective.Opposite`: the perspective of the peer. -/
def Perspective.Opposite : Perspective → Perspective
  | .server => .client
  | .client => .server

@[simp] theorem Perspective.Opposite_Opposite (p : Perspective) : p.Opposite.Opposite = p := by
  cases p <;> rfl

theorem Perspective.Opposite_ne (p : Perspective) : p.Opposite ≠ p := by
  cases p <;> decide

/-- There are two sides: a perspective and its opposite. -/
theorem Perspective.eq_or_eq_Opposite (p q : Perspective) : q = p ∨ q = p.Opposite := by
  cases p <;> cases q <;> decide

/-- A client and a server: the updatable AEAD of each, every packet each has
sealed (newest first), and every packet of its peer's each has opened. -/
structure Peers where
  aead : Perspective → UpdatableAEAD
  sent : Perspective → List SealedPacket
  opened : Perspective → List SealedPacket

namespace Peers

/-- Both sides once the handshake has installed the 1-RTT keys. -/
def init (keyUpdateInterval : Perspective → Nat) : Peers where
  aead p := UpdatableAEAD.oneRTT (keyUpdateInterval p)
  sent _ := []
  opened _ := []

/-- Side `p` packs a packet numbered `pn` whose ACK frame acknowledges
`largestAcked`: the packer asks `KeyPhase` for the header's bit, then seals. -/
def sealPacket (f : Peers) (p : Perspective) (now pto pn largestAcked : Int) : Peers :=
  let k := (f.aead p).KeyPhase now pto
  let s := k.1.Seal pn
  { f with
    aead := Function.update f.aead p s.1
    sent := Function.update f.sent p (⟨pn, k.2, s.2, largestAcked⟩ :: f.sent p) }

/-- Side `p` receives `src` and opens it; what it opens is recorded. -/
def deliver (f : Peers) (p : Perspective) (now pto : Int) (src : SealedPacket) : Peers :=
  let r := (f.aead p).Open now pto src.pn src.keyPhaseBit src
  { f with
    aead := Function.update f.aead p r.1
    opened := if r.2.toBool then Function.update f.opened p (src :: f.opened p) else f.opened }

/-- Side `p` processes the ACK frame of the packet `r` it opened. -/
def setLargestAcked (f : Peers) (p : Perspective) (r : SealedPacket) : Peers :=
  { f with aead := Function.update f.aead p ((f.aead p).SetLargestAcked r.largestAcked) }

/-- One call on either side.  Packet numbers only grow, an ACK frame acknowledges
a packet the side has opened, and a packet may be opened whenever, and as often
as, the network delivers it, provided the receiver's previous key has not
expired. -/
inductive Step : Peers → Peers → Prop
  | sealPacket {f : Peers} (p : Perspective) (now pto pn largestAcked : Int) (hpn : 0 ≤ pn)
      (hfresh : ∀ q ∈ f.sent p, q.pn < pn)
      (hack : largestAcked = InvalidPacketNumber ∨ ∃ q ∈ f.opened p, q.pn = largestAcked) :
      Step f (f.sealPacket p now pto pn largestAcked)
  | deliver {f : Peers} (p : Perspective) (now pto : Int) {src : SealedPacket}
      (hsrc : src ∈ f.sent p.Opposite) (hexp : (f.aead p).NotExpired now) :
      Step f (f.deliver p now pto src)
  | setLargestAcked {f : Peers} (p : Perspective) {r : SealedPacket} (hr : r ∈ f.opened p) :
      Step f (f.setLargestAcked p r)

/-- Every state a connection's two sides can reach from the handshake. -/
inductive Reachable : Peers → Prop
  | init (keyUpdateInterval : Perspective → Nat) : Reachable (init keyUpdateInterval)
  | step {f f' : Peers} : Reachable f → Step f f' → Reachable f'

end Peers

/-! ## What each side keeps true

The invariant is stated per side, against its peer.  Its only cross-side parts
are `phase_le` and `ahead`: a side can be one phase ahead only because it
started the update itself, which `updateAllowed` permits once the peer has opened
a packet of the current phase and has since sealed one. -/

open UpdatableAEAD

/-- What holds of one side `a`, with the packets it sealed (`sent`) and the
packets of its peer's it opened (`opened`), against its peer `b` and the packets
the peer sealed (`peerSent`). -/
structure SideInv (a b : UpdatableAEAD) (sent opened peerSent : List SealedPacket) : Prop where
  keys : a.Keys
  sent_bit : ∀ q ∈ sent, q.keyPhaseBit = KeyPhase.Bit q.generation
  sent_le : ∀ q ∈ sent, q.generation ≤ a.keyPhase
  sent_pn : ∀ q ∈ sent, 0 ≤ q.pn
  /-- packets sealed in a later phase have larger numbers -/
  sent_ordered : ∀ q ∈ sent, ∀ q' ∈ sent, q.generation < q'.generation → q.pn < q'.pn
  firstSent : a.firstSentWithCurrentKey ≠ InvalidPacketNumber →
    ∃ q ∈ sent, q.generation = a.keyPhase ∧ q.pn = a.firstSentWithCurrentKey
  sent_current : ∀ q ∈ sent, q.generation = a.keyPhase →
    a.firstSentWithCurrentKey ≠ InvalidPacketNumber
  /-- a packet acknowledges only a packet opened before it was sealed -/
  sent_acks : ∀ q ∈ sent, q.largestAcked = InvalidPacketNumber ∨
    ∃ q' ∈ opened, q'.pn = q.largestAcked ∧ q'.generation ≤ q.generation
  opened_sent : ∀ q ∈ opened, q ∈ peerSent
  opened_le : ∀ q ∈ opened, q.generation ≤ a.keyPhase
  firstRcvd : a.firstRcvdWithCurrentKey ≠ InvalidPacketNumber →
    ∃ q ∈ peerSent, q.generation = a.keyPhase ∧ q.pn = a.firstRcvdWithCurrentKey
  opened_current : ∀ q ∈ opened, q.generation = a.keyPhase →
    a.firstRcvdWithCurrentKey ≠ InvalidPacketNumber
  largestAcked : a.largestAcked = InvalidPacketNumber ∨
    ∃ q ∈ opened, q.largestAcked = a.largestAcked
  phase_le : a.keyPhase ≤ b.keyPhase + 1
  /-- one phase ahead, the side left its peer's current phase behind only after
  the peer had opened and sealed in it -/
  ahead : a.keyPhase = b.keyPhase + 1 →
    b.firstRcvdWithCurrentKey ≠ InvalidPacketNumber ∧ b.firstSentWithCurrentKey ≠ InvalidPacketNumber

/-- How a side may change in a call of its own, as its peer sees it: its phase
does not go back, and within a phase what it has opened and sealed in it stays
recorded. -/
def Advances (a a' : UpdatableAEAD) : Prop :=
  a.keyPhase ≤ a'.keyPhase ∧ (a'.keyPhase = a.keyPhase →
    (a.firstRcvdWithCurrentKey ≠ InvalidPacketNumber →
      a'.firstRcvdWithCurrentKey ≠ InvalidPacketNumber) ∧
    (a.firstSentWithCurrentKey ≠ InvalidPacketNumber →
      a'.firstSentWithCurrentKey ≠ InvalidPacketNumber))

theorem advances_refl (a : UpdatableAEAD) : Advances a a := ⟨Nat.le_refl _, fun _ => ⟨id, id⟩⟩

theorem Advances.trans {a a' a'' : UpdatableAEAD} (h : Advances a a') (h' : Advances a' a'') :
    Advances a a'' := by
  refine ⟨Nat.le_trans h.1 h'.1, fun heq => ?_⟩
  have h1 : a'.keyPhase = a.keyPhase := by have := h.1; have := h'.1; omega
  have h2 : a''.keyPhase = a'.keyPhase := heq.trans h1.symm
  exact ⟨fun hr => (h'.2 h2).1 ((h.2 h1).1 hr), fun hs => (h'.2 h2).2 ((h.2 h1).2 hs)⟩

/-- A roll of the keys is an advance. -/
theorem advances_of_lt {a a' : UpdatableAEAD} (h : a.keyPhase < a'.keyPhase) : Advances a a' :=
  ⟨Nat.le_of_lt h, fun h' => absurd h' (Nat.ne_of_gt h)⟩

section SideInv
variable {a b : UpdatableAEAD} {sent opened peerSent peerOpened : List SealedPacket}

theorem sideInv_init (i j : Nat) : SideInv (oneRTT i) (oneRTT j) [] [] [] where
  keys := keys_oneRTT i
  sent_bit := by simp
  sent_le := by simp
  sent_pn := by simp
  sent_ordered := by simp
  firstSent := fun h => absurd rfl h
  sent_current := by simp
  sent_acks := by simp
  opened_sent := by simp
  opened_le := by simp
  firstRcvd := fun h => absurd rfl h
  opened_current := by simp
  largestAcked := Or.inl rfl
  phase_le := Nat.zero_le _
  ahead := fun h => absurd h (by simp [oneRTT, SetWriteKey, SetReadKey, newUpdatableAEAD])

/-- The peer's side stays true when this side advances and seals more. -/
theorem SideInv.peer {a' : UpdatableAEAD} {sent' : List SealedPacket}
    (h : SideInv b a peerSent peerOpened sent) (ha : Advances a a')
    (hsent : ∀ q ∈ sent, q ∈ sent') : SideInv b a' peerSent peerOpened sent' :=
  { h with
    opened_sent := fun q hq => hsent q (h.opened_sent q hq)
    firstRcvd := fun hr => by
      obtain ⟨q, hq, hg, hpn⟩ := h.firstRcvd hr
      exact ⟨q, hsent q hq, hg, hpn⟩
    phase_le := Nat.le_trans h.phase_le (Nat.add_le_add_right ha.1 1)
    ahead := fun hk => by
      -- a rolled key would put `b` two phases ahead of `a`
      have hsame : a'.keyPhase = a.keyPhase := by have := h.phase_le; have := ha.1; omega
      have ⟨hr, hs⟩ := h.ahead (by omega)
      exact ⟨(ha.2 hsame).1 hr, (ha.2 hsame).2 hs⟩ }

/-- A packet of the peer's sealed in an earlier phase than this side's is numbered
below the first one this side received in its phase. -/
theorem SideInv.below_firstRcvd {src : SealedPacket} (ha : SideInv a b sent opened peerSent)
    (hb : SideInv b a peerSent peerOpened sent) (hsrc : src ∈ peerSent)
    (hg : src.generation < a.keyPhase) :
    a.firstRcvdWithCurrentKey = InvalidPacketNumber ∨ src.pn < a.firstRcvdWithCurrentKey := by
  by_cases hr : a.firstRcvdWithCurrentKey = InvalidPacketNumber
  · exact Or.inl hr
  · obtain ⟨q, hq, hqg, hqpn⟩ := ha.firstRcvd hr
    exact Or.inr (hqpn ▸ hb.sent_ordered src hsrc q hq (hqg ▸ hg))

/-- What `updateAllowed` tells a side about its peer: the peer has reached the
side's phase, and if it is still there, it has opened and sealed in it. -/
theorem SideInv.peer_of_updateAllowed (ha : SideInv a b sent opened peerSent)
    (hb : SideInv b a peerSent peerOpened sent) (hu : a.updateAllowed = true) :
    a.keyPhase ≤ b.keyPhase ∧ (b.keyPhase = a.keyPhase →
      b.firstRcvdWithCurrentKey ≠ InvalidPacketNumber ∧
        b.firstSentWithCurrentKey ≠ InvalidPacketNumber) := by
  obtain ⟨hsent, hacked, hle⟩ := updateAllowed_iff.1 hu
  obtain ⟨r, hr, hrack⟩ := ha.largestAcked.resolve_left hacked
  have hrpeer := ha.opened_sent r hr
  obtain ⟨q, hq, hqpn, hqr⟩ := (hb.sent_acks r hrpeer).resolve_left (hrack ▸ hacked)
  have hqsent := hb.opened_sent q hq
  -- `q` is numbered at least the first packet of our phase, so it was sealed in it
  obtain ⟨p, hp, hpg, hppn⟩ := ha.firstSent hsent
  have hqg : a.keyPhase ≤ q.generation := by
    by_contra hlt
    have := ha.sent_ordered q hqsent p hp (by omega)
    omega
  have hqb := hb.opened_le q hq
  refine ⟨Nat.le_trans hqg hqb, fun hba => ⟨hb.opened_current q hq (by omega), ?_⟩⟩
  have hrb := hb.sent_le r hrpeer
  exact hb.sent_current r hrpeer (by omega)

/-- A side may roll its keys once its peer has reached its phase and, if the peer
is still there, the peer has opened and sealed in it. -/
theorem SideInv.rollKeys_of_peer (ha : SideInv a b sent opened peerSent)
    (hab : a.keyPhase ≤ b.keyPhase)
    (hsame : b.keyPhase = a.keyPhase → b.firstRcvdWithCurrentKey ≠ InvalidPacketNumber ∧
      b.firstSentWithCurrentKey ≠ InvalidPacketNumber) (now pto : Int) :
    SideInv (a.rollKeys now pto) b sent opened peerSent :=
  { ha with
    keys := ha.keys.rollKeys now pto
    sent_le := fun q hq => Nat.le_succ_of_le (ha.sent_le q hq)
    firstSent := fun h => absurd rfl h
    sent_current := fun q hq hg => absurd hg (by have := ha.sent_le q hq; simp; omega)
    opened_le := fun q hq => Nat.le_succ_of_le (ha.opened_le q hq)
    firstRcvd := fun h => absurd rfl h
    opened_current := fun q hq hg => absurd hg (by have := ha.opened_le q hq; simp; omega)
    phase_le := by simp; omega
    ahead := fun hk => hsame (by simp at hk; omega) }

/-- A side may start a key update once `updateAllowed` holds. -/
theorem SideInv.rollKeys (ha : SideInv a b sent opened peerSent)
    (hb : SideInv b a peerSent peerOpened sent) (hu : a.updateAllowed = true) (now pto : Int) :
    SideInv (a.rollKeys now pto) b sent opened peerSent :=
  have ⟨hab, hsame⟩ := ha.peer_of_updateAllowed hb hu
  ha.rollKeys_of_peer hab hsame now pto

theorem SideInv.KeyPhase (ha : SideInv a b sent opened peerSent)
    (hb : SideInv b a peerSent peerOpened sent) (now pto : Int) :
    SideInv (a.KeyPhase now pto).1 b sent opened peerSent ∧ Advances a (a.KeyPhase now pto).1 := by
  unfold UpdatableAEAD.KeyPhase
  by_cases hs : a.shouldInitiateKeyUpdate = true
  · simp only [hs, if_true]
    exact ⟨ha.rollKeys hb (updateAllowed_of_shouldInitiateKeyUpdate hs) now pto,
      advances_of_lt (by simp)⟩
  · simp only [hs]
    exact ⟨ha, advances_refl a⟩

/-- Sealing at a fresh, nonnegative packet number with an acknowledgement of a
packet the side opened. -/
theorem SideInv.Seal {pn ack : Int} (ha : SideInv a b sent opened peerSent) (hpn : 0 ≤ pn)
    (hfresh : ∀ q ∈ sent, q.pn < pn)
    (hack : ack = InvalidPacketNumber ∨ ∃ q ∈ opened, q.pn = ack) :
    SideInv (a.Seal pn).1 b (⟨pn, KeyPhase.Bit a.keyPhase, (a.Seal pn).2, ack⟩ :: sent) opened
        peerSent ∧ Advances a (a.Seal pn).1 := by
  have hgen : (a.Seal pn).2 = a.keyPhase := ha.keys.send
  have hfirst : (a.Seal pn).1.firstSentWithCurrentKey ≠ InvalidPacketNumber := by
    simp only [UpdatableAEAD.Seal]
    split <;> simp_all [InvalidPacketNumber]
    omega
  refine ⟨{ ha with
    keys := ha.keys.Seal pn
    sent_bit := ?_, sent_le := ?_, sent_pn := ?_, sent_ordered := ?_, firstSent := ?_,
    sent_current := ?_, sent_acks := ?_ }, ⟨Nat.le_refl _, fun _ => ⟨id, fun _ => hfirst⟩⟩⟩
  · simpa [hgen] using ha.sent_bit
  · exact List.forall_mem_cons.2 ⟨ha.keys.send.le, ha.sent_le⟩
  · simpa [hpn] using ha.sent_pn
  · -- the new packet has the largest number and the latest phase
    simp only [List.mem_cons, forall_eq_or_imp, hgen]
    refine ⟨⟨fun h => absurd h (Nat.lt_irrefl _), fun q hq hlt => absurd hlt ?_⟩,
      fun q hq => ⟨fun _ => hfresh q hq, ha.sent_ordered q hq⟩⟩
    have := ha.sent_le q hq
    omega
  · intro _
    by_cases h0 : a.firstSentWithCurrentKey = InvalidPacketNumber
    · exact ⟨_, List.mem_cons_self, hgen, by simp [UpdatableAEAD.Seal, h0]⟩
    · obtain ⟨q, hq, hqg, hqpn⟩ := ha.firstSent h0
      exact ⟨q, List.mem_cons_of_mem _ hq, hqg, by simp [UpdatableAEAD.Seal, h0, hqpn]⟩
  · exact fun _ _ _ => hfirst
  · simp only [List.mem_cons, forall_eq_or_imp, hgen]
    refine ⟨?_, ha.sent_acks⟩
    rcases hack with h | ⟨q, hq, hqpn⟩
    · exact Or.inl h
    · exact Or.inr ⟨q, hq, hqpn, ha.opened_le q hq⟩

/-- Taking an acknowledgement from a packet the side has opened. -/
theorem SideInv.SetLargestAcked {r : SealedPacket} (ha : SideInv a b sent opened peerSent)
    (hr : r ∈ opened) :
    SideInv (a.SetLargestAcked r.largestAcked) b sent opened peerSent :=
  { ha with
    keys := ha.keys.SetLargestAcked _
    largestAcked := Or.inr ⟨r, hr, rfl⟩ }

/-- Recording a packet the side has opened. -/
theorem SideInv.opened_cons {src : SealedPacket} (ha : SideInv a b sent opened peerSent)
    (hsrc : src ∈ peerSent) (hle : src.generation ≤ a.keyPhase)
    (hcur : src.generation = a.keyPhase → a.firstRcvdWithCurrentKey ≠ InvalidPacketNumber) :
    SideInv a b sent (src :: opened) peerSent :=
  { ha with
    sent_acks := fun q hq => (ha.sent_acks q hq).imp_right fun ⟨q', hq', h⟩ =>
      ⟨q', List.mem_cons_of_mem _ hq', h⟩
    opened_sent := List.forall_mem_cons.2 ⟨hsrc, ha.opened_sent⟩
    opened_le := List.forall_mem_cons.2 ⟨hle, ha.opened_le⟩
    opened_current := List.forall_mem_cons.2 ⟨hcur, ha.opened_current⟩
    largestAcked := ha.largestAcked.imp_right fun ⟨q, hq, h⟩ => ⟨q, List.mem_cons_of_mem _ hq, h⟩ }

/-- Opening a packet `src` of the current phase: `a'` is `a` with the packet
counted and, if it is the first of the phase, its number recorded. -/
theorem SideInv.openCurrent {a' : UpdatableAEAD} {src : SealedPacket}
    (ha : SideInv a b sent opened peerSent) (hsrc : src ∈ peerSent)
    (hg : src.generation = a.keyPhase) (hpn : 0 ≤ src.pn) (hk : a'.Keys)
    (hphase : a'.keyPhase = a.keyPhase)
    (hsent : a'.firstSentWithCurrentKey = a.firstSentWithCurrentKey)
    (hack : a'.largestAcked = a.largestAcked)
    (hrcvd : a'.firstRcvdWithCurrentKey = src.pn ∨
      a'.firstRcvdWithCurrentKey = a.firstRcvdWithCurrentKey ∧
        a.firstRcvdWithCurrentKey ≠ InvalidPacketNumber) :
    SideInv a' b sent (src :: opened) peerSent := by
  have hfirst : a'.firstRcvdWithCurrentKey ≠ InvalidPacketNumber := by
    rcases hrcvd with h | ⟨h, h'⟩
    · rw [h, InvalidPacketNumber]; omega
    · rwa [h]
  have hfirst' : ∃ q ∈ peerSent, q.generation = a'.keyPhase ∧ q.pn = a'.firstRcvdWithCurrentKey := by
    rcases hrcvd with h | ⟨h, h'⟩
    · exact ⟨src, hsrc, hphase ▸ hg, h.symm⟩
    · rw [h, hphase]; exact ha.firstRcvd h'
  refine
  { keys := hk
    sent_bit := ha.sent_bit
    sent_le := hphase ▸ ha.sent_le
    sent_pn := ha.sent_pn
    sent_ordered := ha.sent_ordered
    firstSent := hphase ▸ hsent ▸ ha.firstSent
    sent_current := hphase ▸ hsent ▸ ha.sent_current
    sent_acks := fun q hq => (ha.sent_acks q hq).imp_right fun ⟨q', hq', h⟩ =>
      ⟨q', List.mem_cons_of_mem _ hq', h⟩
    opened_sent := List.forall_mem_cons.2 ⟨hsrc, ha.opened_sent⟩
    opened_le := hphase ▸ List.forall_mem_cons.2 ⟨hg.le, ha.opened_le⟩
    firstRcvd := fun _ => hfirst'
    opened_current := fun _ _ _ => hfirst
    largestAcked := hack ▸ ha.largestAcked.imp_right fun ⟨q, hq, h⟩ =>
      ⟨q, List.mem_cons_of_mem _ hq, h⟩
    phase_le := hphase ▸ ha.phase_le
    ahead := hphase ▸ ha.ahead }

/-- A packet of the peer's sealed no earlier than this side's previous phase
opens, and the side advances. -/
theorem SideInv.Open_ok {src : SealedPacket} {now : Int}
    (ha : SideInv a b sent opened peerSent) (hb : SideInv b a peerSent peerOpened sent)
    (hsrc : src ∈ peerSent) (hexp : a.NotExpired now) (pto : Int)
    (hle : a.keyPhase ≤ src.generation + 1) :
    (a.Open now pto src.pn src.keyPhaseBit src).2 = .ok () ∧
      SideInv (a.Open now pto src.pn src.keyPhaseBit src).1 b sent (src :: opened) peerSent ∧
      Advances a (a.Open now pto src.pn src.keyPhaseBit src).1 := by
  have hbit := hb.sent_bit src hsrc
  have hpn := hb.sent_pn src hsrc
  have hgb := hb.sent_le src hsrc
  have hba := hb.phase_le
  rcases (show src.generation + 1 = a.keyPhase ∨ src.generation = a.keyPhase ∨
      src.generation = a.keyPhase + 1 by omega) with hg | hg | hg
  · -- the previous phase: opened with the previous key, and nothing changes
    rw [Open_prev ha.keys hexp (by rw [hbit, ← hg]; simp)
      (ha.below_firstRcvd hb hsrc (by omega)) hg]
    exact ⟨rfl, ha.opened_cons hsrc (by omega) (by omega), advances_refl a⟩
  · -- the current phase: counted, and recorded if it is the first of the phase
    rw [Open_current ha.keys hexp (by rw [hbit, hg]) hg]
    refine ⟨rfl, ha.openCurrent hsrc hg hpn { ha.keys with } rfl rfl rfl ?_, ?_⟩
    · by_cases h0 : a.firstRcvdWithCurrentKey = InvalidPacketNumber
      · exact Or.inl (by simp [h0])
      · exact Or.inr ⟨by simp [h0], h0⟩
    · refine ⟨Nat.le_refl _, fun _ => ⟨fun h => ?_, id⟩⟩
      simp [h]
  · -- the next phase: the peer is ahead, so this side has opened and sealed in its
    -- phase, and the packet is numbered above the first one of it
    obtain ⟨hrcvd, hsentc⟩ := hb.ahead (by omega)
    obtain ⟨q, hq, hqg, hqpn⟩ := ha.firstRcvd hrcvd
    have hfirst : a.firstRcvdWithCurrentKey ≤ src.pn :=
      hqpn ▸ (hb.sent_ordered q hq src hsrc (by omega)).le
    rw [Open_next ha.keys hexp (by rw [hbit, hg]) hg hrcvd hfirst hsentc]
    have hroll := ha.rollKeys_of_peer (by omega) (fun h => absurd h (by omega)) now pto
    exact ⟨rfl, hroll.openCurrent hsrc hg hpn { hroll.keys with } rfl rfl rfl (Or.inl rfl),
      advances_of_lt (by simp)⟩

/-- A packet of the peer's sealed two or more phases before this side's fails
to open and changes nothing. -/
theorem SideInv.Open_old {src : SealedPacket} {now : Int}
    (ha : SideInv a b sent opened peerSent) (hb : SideInv b a peerSent peerOpened sent)
    (hsrc : src ∈ peerSent) (hexp : a.NotExpired now) (pto : Int)
    (hlt : src.generation + 1 < a.keyPhase) :
    a.Open now pto src.pn src.keyPhaseBit src = (a, .error ErrDecryptionFailed) :=
  UpdatableAEAD.Open_old ha.keys hexp hlt fun _ => ha.below_firstRcvd hb hsrc (by omega)

end SideInv

namespace Peers

/-- Each side keeps `SideInv` against the other. -/
def Inv (f : Peers) : Prop :=
  ∀ p, SideInv (f.aead p) (f.aead p.Opposite) (f.sent p) (f.opened p) (f.sent p.Opposite)

theorem inv_init (keyUpdateInterval : Perspective → Nat) : (init keyUpdateInterval).Inv :=
  fun p => sideInv_init (keyUpdateInterval p) (keyUpdateInterval p.Opposite)

/-- A call on side `p` keeps the invariant when it keeps `p`'s side, leaves the
other side's records alone, advances `p`, and only adds to what `p` sealed. -/
theorem Inv.update {f f' : Peers} (hf : f.Inv) (p : Perspective)
    (haead : f'.aead p.Opposite = f.aead p.Opposite)
    (hsent' : f'.sent p.Opposite = f.sent p.Opposite)
    (hopened : f'.opened p.Opposite = f.opened p.Opposite)
    (hself : SideInv (f'.aead p) (f.aead p.Opposite) (f'.sent p) (f'.opened p) (f.sent p.Opposite))
    (hadv : Advances (f.aead p) (f'.aead p)) (hsent : ∀ q ∈ f.sent p, q ∈ f'.sent p) :
    f'.Inv := by
  intro x
  rcases Perspective.eq_or_eq_Opposite p x with rfl | rfl
  · rw [haead, hsent']
    exact hself
  · -- the other side: only its peer moved
    have h := hf p.Opposite
    rw [Perspective.Opposite_Opposite] at h ⊢
    rw [haead, hsent', hopened]
    exact h.peer hadv hsent

@[simp] theorem sealPacket_aead (f : Peers) (p : Perspective) (now pto pn ack : Int) :
    (f.sealPacket p now pto pn ack).aead = Function.update f.aead p
      (((f.aead p).KeyPhase now pto).1.Seal pn).1 := rfl

@[simp] theorem sealPacket_sent (f : Peers) (p : Perspective) (now pto pn ack : Int) :
    (f.sealPacket p now pto pn ack).sent = Function.update f.sent p
      (⟨pn, ((f.aead p).KeyPhase now pto).2, (((f.aead p).KeyPhase now pto).1.Seal pn).2, ack⟩ ::
        f.sent p) := rfl

@[simp] theorem sealPacket_opened (f : Peers) (p : Perspective) (now pto pn ack : Int) :
    (f.sealPacket p now pto pn ack).opened = f.opened := rfl

@[simp] theorem deliver_aead (f : Peers) (p : Perspective) (now pto : Int) (src : SealedPacket) :
    (f.deliver p now pto src).aead =
      Function.update f.aead p ((f.aead p).Open now pto src.pn src.keyPhaseBit src).1 := rfl

@[simp] theorem deliver_sent (f : Peers) (p : Perspective) (now pto : Int) (src : SealedPacket) :
    (f.deliver p now pto src).sent = f.sent := rfl

@[simp] theorem setLargestAcked_sent (f : Peers) (p : Perspective) (r : SealedPacket) :
    (f.setLargestAcked p r).sent = f.sent := rfl

@[simp] theorem setLargestAcked_opened (f : Peers) (p : Perspective) (r : SealedPacket) :
    (f.setLargestAcked p r).opened = f.opened := rfl

@[simp] theorem setLargestAcked_aead (f : Peers) (p : Perspective) (r : SealedPacket) :
    (f.setLargestAcked p r).aead =
      Function.update f.aead p ((f.aead p).SetLargestAcked r.largestAcked) := rfl

/-- What `deliver` records: the packet, when it opened. -/
theorem deliver_opened (f : Peers) (p : Perspective) (now pto : Int) (src : SealedPacket) :
    (f.deliver p now pto src).opened =
      if ((f.aead p).Open now pto src.pn src.keyPhaseBit src).2.toBool then
        Function.update f.opened p (src :: f.opened p) else f.opened := rfl

theorem Inv.sealPacket {f : Peers} (hf : f.Inv) (p : Perspective) (now pto pn ack : Int)
    (hpn : 0 ≤ pn) (hfresh : ∀ q ∈ f.sent p, q.pn < pn)
    (hack : ack = InvalidPacketNumber ∨ ∃ q ∈ f.opened p, q.pn = ack) :
    (f.sealPacket p now pto pn ack).Inv := by
  have hne := Perspective.Opposite_ne p
  have hp := hf p
  have hq := hf p.Opposite
  rw [Perspective.Opposite_Opposite] at hq
  obtain ⟨hk, hkadv⟩ := hp.KeyPhase hq now pto
  have hbit : ((f.aead p).KeyPhase now pto).2 =
      KeyPhase.Bit ((f.aead p).KeyPhase now pto).1.keyPhase := rfl
  obtain ⟨hs, hsadv⟩ := hk.Seal hpn hfresh hack
  refine hf.update p (by simp [hne]) (by simp [hne]) rfl ?_ ?_ ?_
  · simpa [hbit] using hs
  · simpa using hkadv.trans hsadv
  · intro q hq'
    simp [hq']

theorem Inv.deliver {f : Peers} (hf : f.Inv) (p : Perspective) (now pto : Int)
    {src : SealedPacket} (hsrc : src ∈ f.sent p.Opposite) (hexp : (f.aead p).NotExpired now) :
    (f.deliver p now pto src).Inv := by
  have hne := Perspective.Opposite_ne p
  have hp := hf p
  have hq := hf p.Opposite
  rw [Perspective.Opposite_Opposite] at hq
  by_cases hle : (f.aead p).keyPhase ≤ src.generation + 1
  · -- the packet opens and is recorded
    obtain ⟨hok, hs, hadv⟩ := hp.Open_ok hq hsrc hexp pto hle
    refine hf.update p (by simp [hne]) rfl ?_ ?_ ?_ (fun q hq' => hq')
    · simp [deliver_opened, hok, Except.toBool, hne]
    · simpa [deliver_opened, hok, Except.toBool] using hs
    · simpa using hadv
  · -- the packet fails to open and nothing changes
    have hold := hp.Open_old hq hsrc hexp pto (by omega)
    simpa [Peers.deliver, hold, Except.toBool] using hf

theorem Inv.setLargestAcked {f : Peers} (hf : f.Inv) (p : Perspective) {r : SealedPacket}
    (hr : r ∈ f.opened p) : (f.setLargestAcked p r).Inv := by
  have hne := Perspective.Opposite_ne p
  refine hf.update p (by simp [hne]) rfl rfl ?_ ?_ (fun q hq => hq)
  · simpa using (hf p).SetLargestAcked hr
  · simp only [setLargestAcked_aead, Function.update_self]
    exact advances_refl _

theorem Inv.step {f f' : Peers} (hf : f.Inv) (hs : Step f f') : f'.Inv := by
  cases hs with
  | sealPacket p now pto pn ack hpn hfresh hack => exact hf.sealPacket p now pto pn ack hpn hfresh hack
  | deliver p now pto hsrc hexp => exact hf.deliver p now pto hsrc hexp
  | setLargestAcked p hr => exact hf.setLargestAcked p hr

theorem Reachable.inv {f : Peers} (hr : f.Reachable) : f.Inv := by
  induction hr with
  | init keyUpdateInterval => exact inv_init keyUpdateInterval
  | step _ hs ih => exact ih.step hs

/-- Key updates keep the two sides together: in every reachable state their key
phases differ by at most one, and, while the receiver's previous key has not
expired, any packet the peer ever sealed opens if it was sealed no earlier than
the receiver's previous phase, and otherwise fails with `ErrDecryptionFailed`
and changes nothing.  In particular no `Open` reports a protocol violation. -/
theorem reachable_keyUpdate {f : Peers} (hr : f.Reachable) :
    (f.aead .client).keyPhase ≤ (f.aead .server).keyPhase + 1 ∧
    (f.aead .server).keyPhase ≤ (f.aead .client).keyPhase + 1 ∧
    ∀ (p : Perspective) (now pto : Int), ∀ src ∈ f.sent p.Opposite,
      (f.aead p).NotExpired now →
      ((f.aead p).keyPhase ≤ src.generation + 1 →
        ((f.aead p).Open now pto src.pn src.keyPhaseBit src).2 = .ok ()) ∧
      (src.generation + 1 < (f.aead p).keyPhase →
        (f.aead p).Open now pto src.pn src.keyPhaseBit src =
          (f.aead p, .error ErrDecryptionFailed)) := by
  have hinv := hr.inv
  refine ⟨(hinv .client).phase_le, (hinv .server).phase_le, fun p now pto src hsrc hexp => ?_⟩
  have hq := hinv p.Opposite
  rw [Perspective.Opposite_Opposite] at hq
  exact ⟨fun hle => ((hinv p).Open_ok hq hsrc hexp pto hle).1,
    fun hlt => (hinv p).Open_old hq hsrc hexp pto hlt⟩

/-- The server opens the first packet the client seals. -/
theorem reachable_keyUpdate_first_packet :
    ((init fun _ => 1).sealPacket .client 0 1 0 InvalidPacketNumber).Reachable ∧
      ((((init fun _ => 1).sealPacket .client 0 1 0 InvalidPacketNumber).aead .server).Open
        0 1 0 false ⟨0, false, 0, InvalidPacketNumber⟩).2 = .ok () := by
  have hr : ((init fun _ => 1).sealPacket .client 0 1 0 InvalidPacketNumber).Reachable :=
    (Reachable.init _).step (.sealPacket .client 0 1 0 _ le_rfl (by simp [init]) (Or.inl rfl))
  exact ⟨hr, ((reachable_keyUpdate hr).2.2 .server 0 1 ⟨0, false, 0, InvalidPacketNumber⟩ (by decide) (Or.inl rfl)).1 (by decide)⟩

/-- A packet held back over two key updates cannot be opened, although every
acknowledgement travelled in a packet and no key expired.  With a key update
interval of one, the client seals packets 0 and 1 in phase 0 and the network holds
packet 0 back; the server opens packet 1 and acknowledges it in its packet 0; the
client opens that, updates, and seals packet 2 in phase 1, which moves the server
to phase 1; the server acknowledges packet 2 in its packet 1, and the client,
having opened it, updates again and seals packet 3 in phase 2, which moves the
server to phase 2.  Then the client's packet 0 arrives. -/
theorem keyUpdate_two_phases_late :
    ∃ f : Peers, f.Reachable ∧ ∃ src ∈ f.sent .client, (f.aead .server).NotExpired 0 ∧
      ((f.aead .server).Open 0 1 src.pn src.keyPhaseBit src).2 = .error ErrDecryptionFailed := by
  have h₁ := (Reachable.init fun _ => 1).step
    (.sealPacket .client 0 1 0 InvalidPacketNumber le_rfl (by simp [init]) (Or.inl rfl))
  have h₂ := h₁.step (.sealPacket .client 0 1 1 InvalidPacketNumber (by decide) (by decide)
    (Or.inl rfl))
  have h₃ := h₂.step (@Step.deliver _ .server 0 1 ⟨1, false, 0, InvalidPacketNumber⟩
    (by decide) (Or.inl rfl))
  have h₄ := h₃.step (.sealPacket .server 0 1 0 1 le_rfl (by decide)
    (Or.inr ⟨⟨1, false, 0, InvalidPacketNumber⟩, by decide, rfl⟩))
  have h₅ := h₄.step (@Step.deliver _ .client 0 1 ⟨0, false, 0, 1⟩ (by decide) (Or.inl rfl))
  have h₆ := h₅.step (@Step.setLargestAcked _ .client ⟨0, false, 0, 1⟩ (by decide))
  have h₇ := h₆.step (.sealPacket .client 0 1 2 0 (by decide) (by decide)
    (Or.inr ⟨⟨0, false, 0, 1⟩, by decide, rfl⟩))
  have h₈ := h₇.step (@Step.deliver _ .server 0 1 ⟨2, true, 1, 0⟩ (by decide) (Or.inl rfl))
  have h₉ := h₈.step (.sealPacket .server 0 1 1 2 (by decide) (by decide)
    (Or.inr ⟨⟨2, true, 1, 0⟩, by decide, rfl⟩))
  have h₁₀ := h₉.step (@Step.deliver _ .client 0 1 ⟨1, true, 1, 2⟩ (by decide)
    (Or.inr (by decide)))
  have h₁₁ := h₁₀.step (@Step.setLargestAcked _ .client ⟨1, true, 1, 2⟩ (by decide))
  have h₁₂ := h₁₁.step (.sealPacket .client 0 1 3 1 (by decide) (by decide)
    (Or.inr ⟨⟨1, true, 1, 2⟩, by decide, rfl⟩))
  have h₁₃ := h₁₂.step (@Step.deliver _ .server 0 1 ⟨3, false, 2, 1⟩ (by decide)
    (Or.inr (by decide)))
  exact ⟨_, h₁₃, ⟨0, false, 0, InvalidPacketNumber⟩, by decide, Or.inr (by decide), by decide⟩

end Peers

/-- An acknowledgement that does not travel in a packet lets a side update before
its peer has sealed anything in the current phase.  With a key update interval of
one, the client seals packet 0 and the server opens it; told that the server opened
packet 0, the client updates and seals packet 1 in phase 1, which the server opens
with its next key and then rejects. -/
theorem keysUpdatedTooQuickly :
    let c₁ := (oneRTT 1).KeyPhase 0 1
    let c₂ := c₁.1.Seal 0
    let s₁ := (oneRTT 1).Open 0 1 0 c₁.2 ⟨0, c₁.2, c₂.2, InvalidPacketNumber⟩
    let c₃ := (c₂.1.SetLargestAcked 0).KeyPhase 0 1
    let c₄ := c₃.1.Seal 1
    s₁.2 = .ok () ∧ c₃.2 = true ∧ c₄.2 = 1 ∧
      (s₁.1.Open 0 1 1 c₃.2 ⟨1, c₃.2, c₄.2, InvalidPacketNumber⟩).2 =
        .error (protocolViolation "keys updated too quickly") :=
  ⟨rfl, rfl, rfl, rfl⟩

end QuicFec
