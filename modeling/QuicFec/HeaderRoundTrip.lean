import QuicFec.Header

/-! # Header round trip

What `ExtendedHeader.Write` writes, `ParsePacket` and `ParseExtended` read back.
A long header of a type with a packet number is its first byte, the version, both
connection IDs with their lengths, an Initial packet's token, and the length of
the rest of the packet, all before the packet number (`longHeaderBytes`); a short
header is its first byte and the destination connection ID.  The first pass,
`parseHeader`, reads these back (`longHeaderParsed`, `shortHeaderParsed`); the
second pass reads the first byte again, skips what the first pass took, and reads
the packet number of the length the first byte gives.

A long-header packet is cut after the length the header gives, counted from the
end of the first pass, so the packet number is in the packet only when that
length counts it: a header whose length is below its packet number length is
written, and the second pass then runs out of bytes.

Main results:

* `longHeader_roundTrip` and `shortHeader_roundTrip`: for every header whose `Write`
  succeeds, `GetLength` is the length written and both passes read the header back,
  with the packet number modulo its length.
* `extendedHeader_length_below_packetNumber`: the header with a length of 0.
-/

namespace QuicFec
open GoBytes

namespace ExtendedHeader

/-! ## Writing -/

/-- The first byte of a long header of one of the types with a packet number. -/
def longFirstByte (type : UInt8) (pnLen : Nat) : UInt8 :=
  (0xc0 : UInt8) ||| longHeaderTypeBits type <<< 4 ||| (UInt8.ofNat pnLen - 1)

/-- The first byte of a short header. -/
def shortFirstByte (pnLen : Nat) (keyPhase : Bool) : UInt8 :=
  let typeByte : UInt8 := 0x40 ||| (UInt8.ofNat pnLen - 1)
  if keyPhase = KeyPhaseOne then typeByte ||| (1 : UInt8) <<< 2 else typeByte

/-- The types of long header that carry a length and a packet number. -/
def HasPacketNumber (type : UInt8) : Prop :=
  type = PacketTypeInitial ∨ type = PacketTypeHandshake ∨ type = PacketType0RTT

/-- The first byte of such a long header: the form and fixed bits, its type, no
reserved bit, and the length of the packet number. -/
theorem longFirstByte_spec {type : UInt8} {pnLen : Nat} (ht : HasPacketNumber type)
    (h1 : 1 ≤ pnLen) (h4 : pnLen ≤ 4) :
    longFirstByte type pnLen &&& 0x80 > 0 ∧ longFirstByte type pnLen &&& 0x40 ≠ 0 ∧
      Header.longHeaderType (longFirstByte type pnLen) = type ∧
      longFirstByte type pnLen &&& 0xc = 0 ∧ (longFirstByte type pnLen &&& 0x3).toNat + 1 = pnLen := by
  rcases ht with rfl | rfl | rfl <;> interval_cases pnLen <;> decide

/-- The first byte of a short header: no form bit, the fixed bit, the key phase, no
reserved bit, and the length of the packet number. -/
theorem shortFirstByte_spec {pnLen : Nat} (keyPhase : Bool) (h1 : 1 ≤ pnLen) (h4 : pnLen ≤ 4) :
    ¬ shortFirstByte pnLen keyPhase &&& 0x80 > 0 ∧ shortFirstByte pnLen keyPhase &&& 0x40 ≠ 0 ∧
      (shortFirstByte pnLen keyPhase &&& 0x4 > 0) = keyPhase ∧
      shortFirstByte pnLen keyPhase &&& 0x18 = 0 ∧
      (shortFirstByte pnLen keyPhase &&& 0x3).toNat + 1 = pnLen := by
  cases keyPhase <;> interval_cases pnLen <;> decide


/-- `writePacketNumber` succeeds on the lengths one to four. -/
theorem writePacketNumber_eq_ok {h : ExtendedHeader} {b : Bytes} :
    h.writePacketNumber = .ok b ↔
      (1 ≤ h.PacketNumberLen ∧ h.PacketNumberLen ≤ 4) ∧ b = writeUintN h.PacketNumberLen (toUint64 h.PacketNumber) := by
  unfold writePacketNumber
  split
  case isTrue hbad =>
    simp only [reduceCtorEq, false_iff, not_and]
    intro hlen
    simp only [PacketNumberLenInvalid, PacketNumberLen4] at hbad
    omega
  case isFalse hgood =>
    simp only [PacketNumberLenInvalid, PacketNumberLen4, not_or] at hgood
    constructor
    · rintro ⟨⟩
      exact ⟨by omega, rfl⟩
    · rintro ⟨-, rfl⟩
      rfl

/-- The bytes `writeLongHeader` writes before the packet number, for a type that has
one. -/
def longHeaderBytes (h : ExtendedHeader) : Bytes :=
  [longFirstByte h.header.PacketType h.PacketNumberLen] ++ writeUint32 h.header.Version ++
    [UInt8.ofNat h.header.DestConnectionID.length] ++ h.header.DestConnectionID ++
    [UInt8.ofNat h.header.SrcConnectionID.length] ++ h.header.SrcConnectionID ++
    (if h.header.PacketType = PacketTypeInitial then
      varIntBytes h.header.Token.length ++ h.header.Token else []) ++
    varIntBytes h.header.Length

theorem HasPacketNumber.ne_retry {type : UInt8} (ht : HasPacketNumber type) : type ≠ PacketTypeRetry := by
  rcases ht with rfl | rfl | rfl <;> decide

/-- What a long header of a type with a packet number writes: the bytes before the
packet number, then the packet number, once the two varints and the packet number
length are in range. -/
theorem writeLongHeader_eq_ok {h : ExtendedHeader} {v : Nat} {w : Bytes}
    (ht : HasPacketNumber h.header.PacketType) (hw : h.writeLongHeader v = .ok w) :
    w = longHeaderBytes h ++ writeUintN h.PacketNumberLen (toUint64 h.PacketNumber) ∧
      (1 ≤ h.PacketNumberLen ∧ h.PacketNumberLen ≤ 4) ∧ h.header.Length ≤ maxVarInt8 ∧
      (h.header.PacketType = PacketTypeInitial → h.header.Token.length ≤ maxVarInt8) := by
  unfold writeLongHeader at hw
  simp only [ne_eq, ht.ne_retry, not_false_eq_true, if_true, if_false] at hw
  -- the do block of each branch is a chain of binds that all succeed
  split at hw
  case isTrue hI =>
    obtain ⟨t, htok, hw⟩ := bind_eq_ok.1 hw
    obtain ⟨hT, rfl⟩ := writeVarInt_eq_ok.1 htok
    simp only [pure_eq_ok, ok_bind] at hw
    obtain ⟨l, hlen, hw⟩ := bind_eq_ok.1 hw
    obtain ⟨hL, rfl⟩ := writeVarInt_eq_ok.1 hlen
    obtain ⟨pn, hpn, hw⟩ := bind_eq_ok.1 hw
    obtain ⟨hpnLen, rfl⟩ := writePacketNumber_eq_ok.1 hpn
    cases hw
    refine ⟨?_, hpnLen, hL, fun _ => hT⟩
    simp [longHeaderBytes, longFirstByte, hI]
  case isFalse hI =>
    simp only [pure_eq_ok, ok_bind] at hw
    obtain ⟨l, hlen, hw⟩ := bind_eq_ok.1 hw
    obtain ⟨hL, rfl⟩ := writeVarInt_eq_ok.1 hlen
    obtain ⟨pn, hpn, hw⟩ := bind_eq_ok.1 hw
    obtain ⟨hpnLen, rfl⟩ := writePacketNumber_eq_ok.1 hpn
    cases hw
    refine ⟨?_, hpnLen, hL, fun hI' => absurd hI' hI⟩
    simp [longHeaderBytes, longFirstByte, hI]


/-- What a short header writes: its first byte, the destination connection ID and
the packet number. -/
theorem writeShortHeader_eq_ok {h : ExtendedHeader} {v : Nat} {w : Bytes}
    (hw : h.writeShortHeader v = .ok w) :
    w = [shortFirstByte h.PacketNumberLen h.KeyPhase] ++ h.header.DestConnectionID ++
        writeUintN h.PacketNumberLen (toUint64 h.PacketNumber) ∧
      (1 ≤ h.PacketNumberLen ∧ h.PacketNumberLen ≤ 4) := by
  unfold writeShortHeader at hw
  obtain ⟨pn, hpn, hw⟩ := bind_eq_ok.1 hw
  obtain ⟨hpnLen, rfl⟩ := writePacketNumber_eq_ok.1 hpn
  cases hw
  exact ⟨by simp [shortFirstByte], hpnLen⟩

/-- `Write` succeeds only on connection IDs that fit, and writes the header of its
form. -/
theorem Write_eq_ok {h : ExtendedHeader} {v : Nat} {w : Bytes} (hw : h.Write v = .ok w) :
    h.header.DestConnectionID.length ≤ MaxConnIDLen ∧ h.header.SrcConnectionID.length ≤ MaxConnIDLen ∧
      (if h.header.IsLongHeader then h.writeLongHeader v else h.writeShortHeader v) = .ok w := by
  unfold Write at hw
  -- each failed check of a connection ID length is an error
  split at hw
  · cases hw
  split at hw
  · cases hw
  split at hw
  · cases hw
  refine ⟨by omega, by omega, ?_⟩
  split <;> simp_all

/-- `GetLength` of a long header is the length of what it writes. -/
theorem GetLength_long {h : ExtendedHeader} {v : Nat} (hlong : h.header.IsLongHeader = true)
    (hL : h.header.Length ≤ maxVarInt8)
    (hT : h.header.PacketType = PacketTypeInitial → h.header.Token.length ≤ maxVarInt8) :
    h.GetLength v = .ok ((longHeaderBytes h).length + h.PacketNumberLen) := by
  unfold GetLength
  simp only [hlong, if_true, varIntLen_eq_length hL, ok_bind]
  by_cases hI : h.header.PacketType = PacketTypeInitial
  · simp only [hI, if_true, varIntLen_eq_length (hT hI), ok_bind, pure_eq_ok, Except.ok.injEq,
      longHeaderBytes, List.length_append, List.length_singleton, writeUint32_length]
    omega
  · simp only [hI, if_false, pure_eq_ok, Except.ok.injEq, longHeaderBytes, List.length_append,
      List.length_singleton, writeUint32_length, List.length_nil]
    omega

section Writes

variable {h : ExtendedHeader} (v : Nat) (hD : h.header.DestConnectionID.length ≤ MaxConnIDLen)
  (hS : h.header.SrcConnectionID.length ≤ MaxConnIDLen)
  (hO : h.header.OrigDestConnectionID.length ≤ MaxConnIDLen)
  (h1 : 1 ≤ h.PacketNumberLen) (h4 : h.PacketNumberLen ≤ 4)
include hD hS hO h1 h4

/-- A long header with a packet number is written once its connection IDs fit and
its varints and packet number length are in range. -/
theorem Write_long (hlong : h.header.IsLongHeader = true) (ht : HasPacketNumber h.header.PacketType)
    (hL : h.header.Length ≤ maxVarInt8) (hT : h.header.Token.length ≤ maxVarInt8) :
    h.Write v = .ok (longHeaderBytes h ++ writeUintN h.PacketNumberLen (toUint64 h.PacketNumber)) := by
  have hpn : h.writePacketNumber = .ok (writeUintN h.PacketNumberLen (toUint64 h.PacketNumber)) :=
    writePacketNumber_eq_ok.2 ⟨⟨h1, h4⟩, rfl⟩
  unfold Write writeLongHeader
  simp only [gt_iff_lt, Nat.not_lt.mpr hD, Nat.not_lt.mpr hS, Nat.not_lt.mpr hO, if_false, hlong,
    if_true, ne_eq, ht.ne_retry, not_false_eq_true]
  -- only an Initial header writes its token
  by_cases hI : h.header.PacketType = PacketTypeInitial
  · simp [hI, writeVarInt_of_le hT, writeVarInt_of_le hL, hpn, longHeaderBytes, longFirstByte]
  · simp [hI, writeVarInt_of_le hL, hpn, longHeaderBytes, longFirstByte]

/-- A short header is written once its connection IDs fit and its packet number
length is in range. -/
theorem Write_short (hshort : h.header.IsLongHeader = false) :
    h.Write v = .ok ([shortFirstByte h.PacketNumberLen h.KeyPhase] ++ h.header.DestConnectionID ++
      writeUintN h.PacketNumberLen (toUint64 h.PacketNumber)) := by
  have hpn : h.writePacketNumber = .ok (writeUintN h.PacketNumberLen (toUint64 h.PacketNumber)) :=
    writePacketNumber_eq_ok.2 ⟨⟨h1, h4⟩, rfl⟩
  unfold Write writeShortHeader
  simp [Nat.not_lt.mpr hD, Nat.not_lt.mpr hS, Nat.not_lt.mpr hO, hshort, hpn, shortFirstByte]

end Writes

theorem GetLength_short {h : ExtendedHeader} (v : Nat) (hshort : h.header.IsLongHeader = false) :
    h.GetLength v = .ok (1 + h.header.DestConnectionID.length + h.PacketNumberLen) := by
  simp [GetLength, hshort]

end ExtendedHeader

/-! ## The first pass -/

theorem isSupportedVersion_iff {v : Nat} : IsSupportedVersion SupportedVersions v = true ↔ v = VersionTLS := by
  simp only [IsSupportedVersion, SupportedVersions, List.any_cons, List.any_nil, Bool.or_false,
    beq_iff_eq]
  exact eq_comm

namespace Header

/-- The invariant part of a long header reads back: the version and both
connection IDs. -/
theorem parseInvariant_eq (h : Header) {V : Nat} {D S : Bytes} (rest : Bytes) (hV : V < 2 ^ 32)
    (h40 : h.typeByte &&& 0x40 ≠ 0) (hD : D.length < 256) (hS : S.length < 256) :
    h.parseInvariant (writeUint32 V ++ [UInt8.ofNat D.length] ++ D ++ [UInt8.ofNat S.length] ++ S ++ rest) =
      .ok ({ h with Version := V, DestConnectionID := D, SrcConnectionID := S }, rest) := by
  simp [parseInvariant, readUint32_writeUint32 hV, h40, UInt8.toNat_ofNat', Nat.mod_eq_of_lt hD,
    Nat.mod_eq_of_lt hS, readConnectionID_append]


/-- The token of an Initial packet reads back. -/
theorem parseToken_eq {T : Bytes} (rest : Bytes) (hT : T.length ≤ maxVarInt8) :
    parseToken (varIntBytes T.length ++ (T ++ rest)) = .ok (T, rest) := by
  simp [parseToken, readVarInt_varIntBytes hT, readFull]

/-- The rest of a long header of a type with a packet number reads back: the
type, the token of an Initial packet, and the length. -/
theorem parseLongHeaderTail_eq (h : Header) {T : Bytes} {L : Nat} (rest : Bytes)
    (ht : ExtendedHeader.HasPacketNumber (longHeaderType h.typeByte)) (hL : L ≤ maxVarInt8)
    (hT : longHeaderType h.typeByte = PacketTypeInitial → T.length ≤ maxVarInt8) :
    h.parseLongHeaderTail ((if longHeaderType h.typeByte = PacketTypeInitial then
        varIntBytes T.length ++ T else []) ++ varIntBytes L ++ rest) =
      .ok ({ h with
        PacketType := longHeaderType h.typeByte
        Token := if longHeaderType h.typeByte = PacketTypeInitial then T else h.Token
        Length := L }, rest) := by
  unfold parseLongHeaderTail
  by_cases hI : longHeaderType h.typeByte = PacketTypeInitial
  · have hretry := ht.ne_retry
    rw [hI] at hretry
    simp [hretry, hI, parseToken_eq _ (hT hI), readVarInt_varIntBytes hL]
  · simp [ht.ne_retry, hI, readVarInt_varIntBytes hL]

end Header

namespace ExtendedHeader

/-- The header `parseHeader` reads back from `longHeaderBytes`. -/
def longHeaderParsed (h : ExtendedHeader) : Header :=
  { Version := h.header.Version
    SrcConnectionID := h.header.SrcConnectionID
    DestConnectionID := h.header.DestConnectionID
    IsLongHeader := true
    PacketType := h.header.PacketType
    Length := h.header.Length
    Token := if h.header.PacketType = PacketTypeInitial then h.header.Token else []
    typeByte := longFirstByte h.header.PacketType h.PacketNumberLen
    parsedLen := h.longHeaderBytes.length }

/-- **The first pass over a long header**: `parseHeader` reads back everything
before the packet number. -/
theorem parseHeader_longHeaderBytes {h : ExtendedHeader} (rest : Bytes) (n : Nat)
    (hv : IsSupportedVersion SupportedVersions h.header.Version = true)
    (ht : HasPacketNumber h.header.PacketType) (h1 : 1 ≤ h.PacketNumberLen) (h4 : h.PacketNumberLen ≤ 4)
    (hD : h.header.DestConnectionID.length ≤ MaxConnIDLen)
    (hS : h.header.SrcConnectionID.length ≤ MaxConnIDLen) (hL : h.header.Length ≤ maxVarInt8)
    (hT : h.header.PacketType = PacketTypeInitial → h.header.Token.length ≤ maxVarInt8) :
    parseHeader (h.longHeaderBytes ++ rest) n = (some h.longHeaderParsed, .ok rest) := by
  obtain ⟨hform, hfixed, htype, -, -⟩ := longFirstByte_spec ht h1 h4
  have hV := isSupportedVersion_iff.1 hv
  have hV0 : h.header.Version ≠ 0 := by rw [hV]; decide
  have hinv := Header.parseInvariant_eq
    { typeByte := longFirstByte h.header.PacketType h.PacketNumberLen, IsLongHeader := true }
    ((if h.header.PacketType = PacketTypeInitial then
      varIntBytes h.header.Token.length ++ h.header.Token else []) ++ varIntBytes h.header.Length ++ rest)
    (V := h.header.Version) (D := h.header.DestConnectionID) (S := h.header.SrcConnectionID)
    (by rw [hV]; decide) hfixed (by unfold MaxConnIDLen at hD; omega) (by unfold MaxConnIDLen at hS; omega)
  have htail := Header.parseLongHeaderTail_eq
    { Version := h.header.Version, SrcConnectionID := h.header.SrcConnectionID,
      DestConnectionID := h.header.DestConnectionID, IsLongHeader := true,
      typeByte := longFirstByte h.header.PacketType h.PacketNumberLen } rest
    (T := h.header.Token) (L := h.header.Length) (by rw [htype]; exact ht) hL (by rw [htype]; exact hT)
  rw [htype] at htail
  have hbytes : h.longHeaderBytes ++ rest = longFirstByte h.header.PacketType h.PacketNumberLen ::
      (writeUint32 h.header.Version ++ [UInt8.ofNat h.header.DestConnectionID.length] ++
        h.header.DestConnectionID ++ [UInt8.ofNat h.header.SrcConnectionID.length] ++
        h.header.SrcConnectionID ++ ((if h.header.PacketType = PacketTypeInitial then
          varIntBytes h.header.Token.length ++ h.header.Token else []) ++ varIntBytes h.header.Length ++ rest)) := by
    simp [longHeaderBytes]
  unfold parseHeader parseHeaderImpl Header.parseLongHeader
  rw [hbytes, readByte_cons]
  simp only [hform, decide_true, Bool.not_true, Bool.false_eq_true, if_false]
  rw [hinv]
  dsimp only
  simp only [hV0, hv, Bool.not_true, Bool.false_eq_true, if_false, htail]
  rw [← hbytes, List.length_append, Nat.add_sub_cancel]
  rfl


/-- The header `parseHeader` reads back from a short header. -/
def shortHeaderParsed (h : ExtendedHeader) : Header :=
  { DestConnectionID := h.header.DestConnectionID
    typeByte := shortFirstByte h.PacketNumberLen h.KeyPhase
    parsedLen := 1 + h.header.DestConnectionID.length }

/-- **The first pass over a short header**: the destination connection ID, of the
length the receiver uses. -/
theorem parseHeader_shortHeader {h : ExtendedHeader} (rest : Bytes) (h1 : 1 ≤ h.PacketNumberLen)
    (h4 : h.PacketNumberLen ≤ 4) :
    parseHeader ([shortFirstByte h.PacketNumberLen h.KeyPhase] ++ h.header.DestConnectionID ++ rest)
      h.header.DestConnectionID.length = (some h.shortHeaderParsed, .ok rest) := by
  obtain ⟨hform, hfixed, -, -, -⟩ := shortFirstByte_spec h.KeyPhase h1 h4
  simp [parseHeader, parseHeaderImpl, Header.parseShortHeader, hform, hfixed, readConnectionID_append,
    shortHeaderParsed]
  omega

/-! ## The second pass -/

/-- The packet number, of the length the first byte gives, and
the check of the reserved bits. -/
theorem readPacketNumberChecked_writeUintN (eh : ExtendedHeader) {n : Nat} (x : Nat) (rest : Bytes)
    (reservedBits : UInt8) (hn : (eh.typeByte &&& 0x3).toNat + 1 = n) (h4 : n ≤ 4) :
    eh.readPacketNumberChecked (writeUintN n x ++ rest) reservedBits =
      (some { eh with PacketNumberLen := n, PacketNumber := ((x % 2 ^ (8 * n) : Nat) : Int) },
        if eh.typeByte &&& reservedBits ≠ 0 then some ErrInvalidReservedBits else none) := by
  unfold readPacketNumberChecked readPacketNumber
  rw [hn]
  dsimp only
  rw [readUintN_writeUintN (by omega) h4]
  rfl


/-- `parse` reads the first byte, then what follows the first pass. -/
theorem parse_cons_append (h : ExtendedHeader) (fb : UInt8) (pre rest : Bytes) (v : Nat)
    (hpl : h.header.parsedLen = pre.length + 1) :
    h.parse (fb :: (pre ++ rest)) v =
      if h.header.IsLongHeader then { h with typeByte := fb }.parseLongHeader rest v
      else { h with typeByte := fb }.parseShortHeader rest v := by
  simp only [parse, readByte_cons, hpl, List.drop_succ_cons, List.drop_left]

/-- **The second pass over a long header**: on the packet cut at the length the
header gives, which holds the packet number, `ParseExtended` reads the packet
number back with no reserved bit set. -/
theorem ParseExtended_longHeader {h : ExtendedHeader} (x : Nat) (p : Bytes) (ver : Nat)
    (ht : HasPacketNumber h.header.PacketType) (h1 : 1 ≤ h.PacketNumberLen) (h4 : h.PacketNumberLen ≤ 4)
    (hpn : h.PacketNumberLen ≤ h.header.Length) :
    h.longHeaderParsed.ParseExtended ((h.longHeaderBytes ++ writeUintN h.PacketNumberLen x ++ p).take
        (h.longHeaderParsed.parsedLen + h.header.Length)) ver =
      (some
        { header := h.longHeaderParsed
          typeByte := longFirstByte h.header.PacketType h.PacketNumberLen
          PacketNumberLen := h.PacketNumberLen
          PacketNumber := ((x % 2 ^ (8 * h.PacketNumberLen) : Nat) : Int) }, none) := by
  obtain ⟨-, -, -, hreserved, hlen⟩ := longFirstByte_spec ht h1 h4
  have hpl : h.longHeaderParsed.parsedLen = h.longHeaderBytes.length := rfl
  have hpacket : (h.longHeaderBytes ++ writeUintN h.PacketNumberLen x ++ p).take
      (h.longHeaderParsed.parsedLen + h.header.Length) =
      h.longHeaderBytes ++ (writeUintN h.PacketNumberLen x ++ p.take (h.header.Length - h.PacketNumberLen)) := by
    rw [hpl, List.append_assoc, List.take_append, List.take_of_length_le (by omega),
      Nat.add_sub_cancel_left, List.take_append, List.take_of_length_le (by simp; omega), writeUintN_length]
  have hfirst : h.longHeaderBytes = longFirstByte h.header.PacketType h.PacketNumberLen ::
      h.longHeaderBytes.drop 1 := by
    simp [longHeaderBytes]
  have hpl' : h.longHeaderParsed.parsedLen = (h.longHeaderBytes.drop 1).length + 1 := by
    rw [hpl, List.length_drop]
    have : 0 < h.longHeaderBytes.length := by simp [longHeaderBytes]
    omega
  rw [hpacket, Header.ParseExtended, Header.toExtendedHeader, hfirst, List.cons_append,
    parse_cons_append _ _ _ _ _ hpl']
  simp only [longHeaderParsed, if_true, ExtendedHeader.parseLongHeader]
  rw [readPacketNumberChecked_writeUintN _ x _ _ hlen h4, hreserved]
  rfl

/-- **The second pass over a short header**: the key phase and the packet number,
with no reserved bit set. -/
theorem ParseExtended_shortHeader {h : ExtendedHeader} (x : Nat) (p : Bytes) (ver : Nat)
    (h1 : 1 ≤ h.PacketNumberLen) (h4 : h.PacketNumberLen ≤ 4) :
    h.shortHeaderParsed.ParseExtended ([shortFirstByte h.PacketNumberLen h.KeyPhase] ++
        h.header.DestConnectionID ++ writeUintN h.PacketNumberLen x ++ p) ver =
      (some
        { header := h.shortHeaderParsed
          typeByte := shortFirstByte h.PacketNumberLen h.KeyPhase
          PacketNumberLen := h.PacketNumberLen
          PacketNumber := ((x % 2 ^ (8 * h.PacketNumberLen) : Nat) : Int)
          KeyPhase := h.KeyPhase }, none) := by
  obtain ⟨-, -, hkey, hreserved, hlen⟩ := shortFirstByte_spec h.KeyPhase h1 h4
  simp only [Header.ParseExtended, Header.toExtendedHeader, List.append_assoc, List.cons_append,
    List.nil_append]
  rw [parse_cons_append _ _ _ _ _ (by simp [shortHeaderParsed]; omega)]
  simp only [shortHeaderParsed, Bool.false_eq_true, if_false, ExtendedHeader.parseShortHeader]
  rw [readPacketNumberChecked_writeUintN _ x _ _ hlen h4, hreserved]
  cases hk : h.KeyPhase <;> simp_all [KeyPhaseOne, KeyPhaseZero]

end ExtendedHeader

/-! ## Round trips -/

/-- `ParsePacket` cuts a long-header packet whose first pass succeeded after the
length the header gives. -/
theorem ParsePacket_of_long {data rest : Bytes} {n : Nat} {hdr : Header}
    (hp : parseHeader data n = (some hdr, .ok rest)) (hlong : hdr.IsLongHeader = true)
    (hlen : hdr.parsedLen + hdr.Length ≤ data.length) :
    ParsePacket data n = .ok (some hdr, data.take (hdr.parsedLen + hdr.Length),
      data.drop (hdr.parsedLen + hdr.Length)) := by
  simp [ParsePacket, hp, hlong, Nat.not_lt.2 hlen]

/-- `ParsePacket` leaves a short-header packet whole. -/
theorem ParsePacket_of_short {data rest : Bytes} {n : Nat} {hdr : Header}
    (hp : parseHeader data n = (some hdr, .ok rest)) (hshort : hdr.IsLongHeader = false) :
    ParsePacket data n = .ok (some hdr, data, []) := by
  simp [ParsePacket, hp, hshort]

namespace ExtendedHeader

/-- **Long header round trip.** -/
theorem longHeader_roundTrip {h : ExtendedHeader} {w : Bytes} (p : Bytes) (ver : Nat)
    (hv : IsSupportedVersion SupportedVersions h.header.Version = true)
    (hlong : h.header.IsLongHeader = true) (ht : HasPacketNumber h.header.PacketType)
    (hpn : h.PacketNumberLen ≤ h.header.Length) (hp : h.header.Length ≤ p.length)
    (hw : h.Write ver = .ok w) :
    h.GetLength ver = .ok w.length ∧
      ∃ hdr : Header,
        ParsePacket (w ++ p) h.header.DestConnectionID.length = .ok (some hdr,
          (w ++ p).take (hdr.parsedLen + h.header.Length), (w ++ p).drop (hdr.parsedLen + h.header.Length)) ∧
        hdr.IsLongHeader = true ∧ hdr.PacketType = h.header.PacketType ∧ hdr.Version = h.header.Version ∧
        hdr.DestConnectionID = h.header.DestConnectionID ∧ hdr.SrcConnectionID = h.header.SrcConnectionID ∧
        hdr.Token = (if h.header.PacketType = PacketTypeInitial then h.header.Token else []) ∧
        hdr.Length = h.header.Length ∧
        ∃ eh : ExtendedHeader,
          hdr.ParseExtended ((w ++ p).take (hdr.parsedLen + h.header.Length)) ver = (some eh, none) ∧
          eh.PacketNumberLen = h.PacketNumberLen ∧ eh.KeyPhase = KeyPhaseZero ∧
          eh.PacketNumber = h.PacketNumber % 2 ^ (8 * h.PacketNumberLen) := by
  obtain ⟨hD, hS, hwl⟩ := Write_eq_ok hw
  rw [hlong, if_pos rfl] at hwl
  obtain ⟨rfl, ⟨h1, h4⟩, hL, hT⟩ := writeLongHeader_eq_ok ht hwl
  have hfirst := parseHeader_longHeaderBytes (writeUintN h.PacketNumberLen (toUint64 h.PacketNumber) ++ p)
    h.header.DestConnectionID.length hv ht h1 h4 hD hS hL hT
  rw [← List.append_assoc] at hfirst
  refine ⟨?_, h.longHeaderParsed, ParsePacket_of_long hfirst rfl ?_, rfl, rfl, rfl, rfl, rfl, rfl, rfl, _,
    ParseExtended_longHeader _ p ver ht h1 h4 hpn, rfl, rfl, ?_⟩
  · rw [GetLength_long hlong hL hT, List.length_append, writeUintN_length]
  · show h.longHeaderBytes.length + h.header.Length ≤ _
    simp only [List.length_append, writeUintN_length]
    omega
  · exact toUint64_emod_two_pow _ (by omega)

/-- **Short header round trip.** -/
theorem shortHeader_roundTrip {h : ExtendedHeader} {w : Bytes} (p : Bytes) (ver : Nat)
    (hshort : h.header.IsLongHeader = false) (hw : h.Write ver = .ok w) :
    h.GetLength ver = .ok w.length ∧
      ∃ hdr : Header, ParsePacket (w ++ p) h.header.DestConnectionID.length = .ok (some hdr, w ++ p, []) ∧
        hdr.IsLongHeader = false ∧ hdr.DestConnectionID = h.header.DestConnectionID ∧
        ∃ eh : ExtendedHeader, hdr.ParseExtended (w ++ p) ver = (some eh, none) ∧
          eh.PacketNumberLen = h.PacketNumberLen ∧ eh.KeyPhase = h.KeyPhase ∧
          eh.PacketNumber = h.PacketNumber % 2 ^ (8 * h.PacketNumberLen) := by
  obtain ⟨-, -, hws⟩ := Write_eq_ok hw
  rw [hshort, if_neg Bool.false_ne_true] at hws
  obtain ⟨rfl, h1, h4⟩ := writeShortHeader_eq_ok hws
  have hfirst := parseHeader_shortHeader (writeUintN h.PacketNumberLen (toUint64 h.PacketNumber) ++ p) h1 h4
  rw [← List.append_assoc] at hfirst
  refine ⟨?_, h.shortHeaderParsed, ParsePacket_of_short hfirst rfl, rfl, rfl, _,
    ParseExtended_shortHeader _ p ver h1 h4, rfl, rfl, toUint64_emod_two_pow _ (by omega)⟩
  simp [GetLength, hshort]
  omega

end ExtendedHeader

/-- Both forms of header read back what `Write` wrote, for every header of a
supported version whose `Write` succeeds: `GetLength` is the length written;
`ParsePacket` of a long header followed by at least `Length` more bytes gives the
form, type, version, both connection IDs, the token of an Initial packet (no other
type writes one) and the length, and cuts the packet after the length, and of a
short header the form and the destination connection ID; and `ParseExtended` of the
packet reads back the packet number length, the low bytes of the packet number,
the key phase of a short header, and no reserved bit, once the length of a long
header counts the packet number. -/
theorem extendedHeader_roundTrip (ver : Nat) :
    (∀ (h : ExtendedHeader) (w p : Bytes),
      IsSupportedVersion SupportedVersions h.header.Version = true →
      h.header.IsLongHeader = true → ExtendedHeader.HasPacketNumber h.header.PacketType →
      h.PacketNumberLen ≤ h.header.Length → h.header.Length ≤ p.length →
      h.Write ver = .ok w →
      h.GetLength ver = .ok w.length ∧
      ∃ hdr : Header,
        ParsePacket (w ++ p) h.header.DestConnectionID.length = .ok (some hdr,
          (w ++ p).take (hdr.parsedLen + h.header.Length), (w ++ p).drop (hdr.parsedLen + h.header.Length)) ∧
        hdr.IsLongHeader = true ∧ hdr.PacketType = h.header.PacketType ∧ hdr.Version = h.header.Version ∧
        hdr.DestConnectionID = h.header.DestConnectionID ∧ hdr.SrcConnectionID = h.header.SrcConnectionID ∧
        hdr.Token = (if h.header.PacketType = PacketTypeInitial then h.header.Token else []) ∧
        hdr.Length = h.header.Length ∧
        ∃ eh : ExtendedHeader,
          hdr.ParseExtended ((w ++ p).take (hdr.parsedLen + h.header.Length)) ver = (some eh, none) ∧
          eh.PacketNumberLen = h.PacketNumberLen ∧ eh.KeyPhase = KeyPhaseZero ∧
          eh.PacketNumber = h.PacketNumber % 2 ^ (8 * h.PacketNumberLen)) ∧
    (∀ (h : ExtendedHeader) (w p : Bytes),
      h.header.IsLongHeader = false → h.Write ver = .ok w →
      h.GetLength ver = .ok w.length ∧
      ∃ hdr : Header, ParsePacket (w ++ p) h.header.DestConnectionID.length = .ok (some hdr, w ++ p, []) ∧
        hdr.IsLongHeader = false ∧ hdr.DestConnectionID = h.header.DestConnectionID ∧
        ∃ eh : ExtendedHeader, hdr.ParseExtended (w ++ p) ver = (some eh, none) ∧
          eh.PacketNumberLen = h.PacketNumberLen ∧ eh.KeyPhase = h.KeyPhase ∧
          eh.PacketNumber = h.PacketNumber % 2 ^ (8 * h.PacketNumberLen)) :=
  ⟨fun _ _ p hv hlong ht hpn hp hw => ExtendedHeader.longHeader_roundTrip p ver hv hlong ht hpn hp hw,
    fun _ _ p hshort hw => ExtendedHeader.shortHeader_roundTrip p ver hshort hw⟩

/-- A Handshake header of 14 bytes: `GetLength` counts them. -/
theorem extendedHeader_roundTrip_handshake :
    ExtendedHeader.GetLength
      { header :=
          { Version := VersionTLS, DestConnectionID := [1, 2, 3], SrcConnectionID := [4],
            IsLongHeader := true, PacketType := PacketTypeHandshake, Length := 2 }
        PacketNumberLen := 2
        PacketNumber := 300 } VersionTLS = .ok 14 :=
  ((extendedHeader_roundTrip VersionTLS).1 _ [225, 81, 71, 79, 255, 3, 1, 2, 3, 1, 4, 2, 1, 44] [0, 0]
    (by decide) rfl (Or.inr (Or.inl rfl)) (by decide) (by decide) (by decide)).1

/-- A Handshake header whose length, 0, does not count its packet number of two
bytes: `ParsePacket` cuts the packet before the packet number, and the second
pass runs out of bytes. -/
theorem extendedHeader_length_below_packetNumber :
    ∃ w hdr packet rest,
      ExtendedHeader.Write
        { header :=
            { Version := VersionTLS, DestConnectionID := [1, 2, 3], SrcConnectionID := [4],
              IsLongHeader := true, PacketType := PacketTypeHandshake, Length := 0 }
          PacketNumberLen := 2
          PacketNumber := 300 } VersionTLS = .ok w ∧
      ParsePacket w 3 = .ok (some hdr, packet, rest) ∧ hdr.ParseExtended packet VersionTLS = (none, some .eof) :=
  ⟨[225, 81, 71, 79, 255, 3, 1, 2, 3, 1, 4, 0, 1, 44], _, _, _, by decide, rfl, by decide⟩

end QuicFec
