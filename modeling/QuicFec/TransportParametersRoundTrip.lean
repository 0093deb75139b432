import QuicFec.TransportParameters

/-! # Transport parameters: the round trip

`Marshal` writes the parameters as records, each a two-byte ID and a two-byte
length before as many bytes of value; `Unmarshal` reads them back with one loop
(`unmarshalLoop`), applies the defaults of the two parameters that were not sent,
and rejects a parameter sent twice.

`Reads` describes a sequence of records the loop reads one by one, in the manner
of a grammar: one lemma per kind of record says that the loop reads it (a varint,
the `disable_migration` flag, the token, the connection ID), and `Reads.unmarshal`
runs the whole of `Unmarshal` over such a sequence.  `recordIDs` is the other
direction's view of the input: the IDs of its records, as a reader that skips
each value by its announced length finds them.

Main results:

* `unmarshal_marshal`: what `Marshal` writes of parameters in range, `Unmarshal`
  reads back, up to the units the wire keeps (`TransportParameters.roundTripped`);
* `unmarshal_nodup`: `Unmarshal` accepts no input with a parameter ID twice;
* `marshal_maxAckDelay_neg`: `Marshal` panics on a negative `max_ack_delay` of a
  millisecond or more, which is what `Unmarshal` makes of `2^58 - 1`.
-/

namespace QuicFec
open GoBytes

/-! ## Readers consume what they read -/

/-- A numeric parameter that reads consumes exactly the length its record announced. -/
theorem readNumericTransportParameter_rest {p p' : TransportParameters} {r r' : Bytes}
    {paramID len : Nat} (h : readNumericTransportParameter p r paramID len = .ok (p', r')) :
    r' = r.drop len := by
  simp only [readNumericTransportParameter, pure_eq_ok, ok_bind, throw_eq_error, error_bind] at h
  split at h
  case h_2 => cases h
  case h_1 x hread =>
    have hsuffix := readVarInt_suffix hread
    split at h
    · cases h
    · obtain ⟨p₁, -, h⟩ := bind_eq_ok.mp h
      cases h
      rw [List.suffix_iff_eq_drop.mp hsuffix]
      congr 1
      omega

/-- One turn of the loop records the ID of the parameter it reads and moves past
the length the parameter announces. -/
theorem unmarshalParameter_ok {sentBy : Perspective} {st st' : UnmarshalState} {a b c d : UInt8}
    {rest r' : Bytes} (h : unmarshalParameter sentBy st (a :: b :: c :: d :: rest) = .ok (st', r')) :
    st'.parameterIDs = st.parameterIDs ++ [b.toNat + a.toNat <<< 8] ∧
      r' = rest.drop (d.toNat + c.toNat <<< 8) := by
  have hr : ∀ a b : UInt8, ∀ rest, readUint16 (a :: b :: rest) = .ok (b.toNat + a.toNat <<< 8, rest) := by
    intros; rfl
  rw [unmarshalParameter, hr, ok_bind] at h
  dsimp -zeta only at h
  rw [hr, ok_bind] at h
  simp -zeta only [throw_eq_error, error_bind] at h
  dsimp only at h
  split_ifs at h <;> first
    | cases h; done
    | -- a numeric parameter: its value reads exactly the announced length
      obtain ⟨⟨p, r⟩, hnum, h⟩ := bind_eq_ok.mp h
      cases h
      exact ⟨rfl, readNumericTransportParameter_rest hnum⟩
    | cases h
      simp_all

/-! ## No parameter twice -/

/-- The IDs of the records of `r`, each a two-byte ID and a two-byte length, then
as many bytes of value: what a reader that skips every value by its announced
length finds.  A record takes four bytes at least, so `r.length` turns reach the
end of `r`. -/
def recordIDs : Nat → Bytes → List Nat
  | fuel + 1, a :: b :: c :: d :: rest =>
    (b.toNat + a.toNat <<< 8) :: recordIDs fuel (rest.drop (d.toNat + c.toNat <<< 8))
  | _, _ => []

/-- The IDs of the transport parameters in `data`, after its two-byte length. -/
def parameterIDsOf (data : Bytes) : List Nat := recordIDs data.length (data.drop 2)

/-- The loop of `Unmarshal` records the IDs of the records it walks over, in order. -/
theorem unmarshalLoop_parameterIDs {sentBy : Perspective} :
    ∀ fuel st r st' r', unmarshalLoop sentBy fuel st r = .ok (st', r') →
      st'.parameterIDs = st.parameterIDs ++ recordIDs fuel r := by
  intro fuel
  induction fuel with
  | zero =>
    intro st r st' r' h
    cases h
    simp [recordIDs]
  | succ fuel ih =>
    intro st r st' r' h
    simp only [unmarshalLoop] at h
    split at h
    case isTrue hlen =>
      obtain ⟨⟨st₁, r₁⟩, hstep, h⟩ := bind_eq_ok.mp h
      obtain ⟨a, b, c, d, rest, rfl⟩ : ∃ a b c d rest, r = a :: b :: c :: d :: rest := by
        rcases r with _ | ⟨a, _ | ⟨b, _ | ⟨c, _ | ⟨d, rest⟩⟩⟩⟩ <;> simp at hlen
        exact ⟨a, b, c, d, rest, rfl⟩
      obtain ⟨hids, rfl⟩ := unmarshalParameter_ok hstep
      rw [ih st₁ _ st' r' h, hids, recordIDs, List.append_assoc, List.singleton_append]
    case isFalse hlen =>
      cases h
      rcases r with _ | ⟨a, _ | ⟨b, _ | ⟨c, _ | ⟨d, rest⟩⟩⟩⟩ <;> simp_all [recordIDs]

/-- In a sorted list, an element equal to another one stands right before it, so
the scan for equal neighbours finds every repetition. -/
theorem firstAdjacentDuplicate_eq_none_iff {l : List Nat} (hl : l.Pairwise (· ≤ ·)) :
    firstAdjacentDuplicate l = none ↔ l.Nodup := by
  induction l with
  | nil => simp [firstAdjacentDuplicate]
  | cons a l ih =>
    cases l with
    | nil => simp [firstAdjacentDuplicate]
    | cons b rest =>
      have hab : a ≤ b := List.rel_of_pairwise_cons hl (by simp)
      simp only [firstAdjacentDuplicate]
      split
      case isTrue heq => simp [heq]
      case isFalse hne =>
        have hnotin : a ∉ b :: rest := by
          intro hmem
          rcases List.mem_cons.mp hmem with h | h
          · exact hne h
          · have := List.rel_of_pairwise_cons (List.pairwise_cons.mp hl).2 h
            omega
        rw [ih (List.pairwise_cons.mp hl).2, List.nodup_cons]
        simp [hnotin]

theorem unmarshal_nodup {data : Bytes} {sentBy : Perspective} {p : TransportParameters}
    (h : TransportParameters.unmarshal data sentBy = .ok p) : (parameterIDsOf data).Nodup := by
  simp -zeta only [TransportParameters.unmarshal, throw_eq_error, error_bind] at h
  dsimp only at h
  split at h
  · cases h
  obtain ⟨⟨length, r⟩, hread, h⟩ := bind_eq_ok.mp h
  split at h
  · cases h
  obtain ⟨⟨st, r'⟩, hloop, h⟩ := bind_eq_ok.mp h
  split at h
  · cases h
  case h_2 hnone =>
    have hsorted := (List.sortedLE_insertionSort (l := st.parameterIDs)).pairwise
    have hnodup := (firstAdjacentDuplicate_eq_none_iff hsorted).mp (by
      cases hd : firstAdjacentDuplicate (st.parameterIDs.insertionSort (· ≤ ·)) with
      | none => rfl
      | some id => exact absurd hd (hnone id))
    have hids := unmarshalLoop_parameterIDs _ _ _ _ _ hloop
    rw [readUint16_rest hread] at hids
    simpa [parameterIDsOf, hids] using (List.perm_insertionSort _ _).nodup_iff.mp hnodup

/-! ## The records the loop reads -/

/-- `Reads sentBy st r st'`: the loop of `Unmarshal`, from `st`, reads `r` record
by record and ends in `st'`; each record reads the same whatever follows it. -/
inductive Reads (sentBy : Perspective) : UnmarshalState → Bytes → UnmarshalState → Prop
  | nil (st : UnmarshalState) : Reads sentBy st [] st
  | cons {st st₁ st' : UnmarshalState} {seg r : Bytes} : 4 ≤ seg.length →
      (∀ rest, unmarshalParameter sentBy st (seg ++ rest) = .ok (st₁, rest)) →
      Reads sentBy st₁ r st' → Reads sentBy (st) (seg ++ r) st'

namespace Reads

variable {sentBy : Perspective}

theorem single {st st₁ : UnmarshalState} {seg : Bytes} (hlen : 4 ≤ seg.length)
    (hstep : ∀ rest, unmarshalParameter sentBy st (seg ++ rest) = .ok (st₁, rest)) :
    Reads sentBy st seg st₁ := by
  simpa using cons hlen hstep (nil st₁)

theorem append {st st₁ st₂ : UnmarshalState} {r₁ r₂ : Bytes} (h₁ : Reads sentBy st r₁ st₁)
    (h₂ : Reads sentBy st₁ r₂ st₂) : Reads sentBy st (r₁ ++ r₂) st₂ := by
  induction h₁ with
  | nil => exact h₂
  | cons hlen hstep _ ih => simpa using cons hlen hstep (ih h₂)

/-- A record written only when `c` holds is read only then; `st₂` is the state
after it either way. -/
theorem ite_of {c : Prop} [Decidable c] {st st₁ st₂ : UnmarshalState} {seg : Bytes}
    (h : c → Reads sentBy st seg st₁) (h₁ : c → st₁ = st₂) (h₂ : ¬ c → st = st₂) :
    Reads sentBy st (if c then seg else []) st₂ := by
  by_cases hc : c
  · simpa [hc, h₁ hc] using h hc
  · simpa [hc, ← h₂ hc] using nil st

/-- The loop runs over every record, with fuel to spare, and stops at the end of
the input. -/
theorem unmarshalLoop_eq {st st' : UnmarshalState} {r : Bytes} (h : Reads sentBy st r st') :
    ∀ fuel, r.length ≤ fuel → unmarshalLoop sentBy fuel st r = .ok (st', []) := by
  induction h with
  | nil st =>
    intro fuel _
    cases fuel <;> simp [unmarshalLoop]
  | @cons st st₁ st' seg r hlen hstep _ ih =>
    intro fuel hfuel
    obtain ⟨fuel, rfl⟩ : ∃ f, fuel = f + 1 := ⟨fuel - 1, by simp at hfuel; omega⟩
    have hge : (seg ++ r).length ≥ 4 := by simp; omega
    simp only [unmarshalLoop, if_pos hge, hstep, ok_bind]
    exact ih fuel (by simp at hfuel; omega)

/-- `Unmarshal` of the records the loop reads, after their length: the parameters
the loop ends with, the two that were not sent at their defaults, as long as no
ID repeats. -/
theorem unmarshal {b : Bytes} {st : UnmarshalState}
    (h : Reads sentBy ⟨TransportParameters.zero, [], false, false⟩ b st)
    (hnodup : st.parameterIDs.Nodup) :
    TransportParameters.unmarshal (writeUint16 b.length ++ b) sentBy =
      .ok { st.params with
        ackDelayExponent :=
          if st.readAckDelayExponent then st.params.ackDelayExponent else UInt8.ofNat AckDelayExponent
        maxAckDelay := if st.readMaxAckDelay then st.params.maxAckDelay else DefaultMaxAckDelay } := by
  have hloop := h.unmarshalLoop_eq (2 + b.length) (by omega)
  have hscan : firstAdjacentDuplicate (st.parameterIDs.insertionSort (· ≤ ·)) = none :=
    (firstAdjacentDuplicate_eq_none_iff List.sortedLE_insertionSort.pairwise).mpr
      ((List.perm_insertionSort _ _).nodup_iff.mpr hnodup)
  simp -zeta only [TransportParameters.unmarshal, throw_eq_error, error_bind]
  simp only [List.length_append, writeUint16_length, readUint16_writeUint16_mod, ok_bind]
  -- the length field only bounds the data from below, and a length modulo `2^16` does
  simp only [show ¬ 2 + b.length < 2 by omega,
    show ¬ 2 + b.length - 2 < b.length % 2 ^ 16 by have := Nat.mod_le b.length (2 ^ 16); omega,
    if_false, hloop, ok_bind, hscan, List.length_nil, ne_eq, not_true_eq_false, pure_eq_ok]
  -- the defaults: one case for each of the two flags
  rcases st with ⟨params, ids, ra, rm⟩
  cases ra <;> cases rm <;> rfl

end Reads

/-! ## One record of each kind -/

/-- The bytes `marshalVarintParam` writes for a value that fits into 62 bits. -/
def varintRecord (paramID v : Nat) : Bytes :=
  writeUint16 paramID ++ writeUint16 (varIntBytes v).length ++ varIntBytes v

/-- The record of the stateless reset token, as `Marshal` writes it: nothing when
there is no token. -/
def statelessResetTokenRecord : Option (Vector UInt8 16) → Bytes
  | some token => writeUint16 statelessResetTokenParameterID ++ writeUint16 16 ++ token.toList
  | none => []

theorem readNumericTransportParameter_varIntBytes {v paramID : Nat} {p p' : TransportParameters}
    (hv : v ≤ maxVarInt8) (hset : setNumericTransportParameter p paramID v = .ok p') (rest : Bytes) :
    readNumericTransportParameter p (varIntBytes v ++ rest) paramID (varIntBytes v).length =
      .ok (p', rest) := by
  simp [readNumericTransportParameter, readVarInt_varIntBytes hv, hset]

theorem mem_numericParameterIDs {paramID : Nat} (h : paramID ∈ numericParameterIDs) :
    paramID < 2 ^ 16 ∧ paramID ≠ ackDelayExponentParameterID ∧ paramID ≠ maxAckDelayParameterID := by
  revert paramID
  decide

theorem setNumericTransportParameter_ackDelayExponent_of_le {q : TransportParameters} {v : Nat}
    (h : v ≤ MaxAckDelayExponent) :
    setNumericTransportParameter q ackDelayExponentParameterID v =
      .ok { q with ackDelayExponent := UInt8.ofNat v } := by
  simp +decide [setNumericTransportParameter, Nat.not_lt.mpr h]

theorem setNumericTransportParameter_maxAckDelay_of_lt {q : TransportParameters} {v : Nat}
    (h : durationMillis v < MaxMaxAckDelay) :
    setNumericTransportParameter q maxAckDelayParameterID v =
      .ok { q with maxAckDelay := durationMillis v } := by
  simp +decide [setNumericTransportParameter, Int.not_le.mpr h]

theorem setNumericTransportParameter_fecSymbolSize_of_le {q : TransportParameters} {v : Nat}
    (h : v ≤ MAX_FEC_SYMBOL_SIZE) :
    setNumericTransportParameter q fecSymbolSizeParameterID v =
      .ok { q with fecSymbolSize := UInt16.ofNat v } := by
  simp +decide [setNumericTransportParameter, Nat.not_lt.mpr h]

section Records

variable {sentBy : Perspective}

/-- A numeric parameter, as `marshalVarintParam` writes it. -/
theorem reads_varint (paramID v : Nat) {st : UnmarshalState} {p' : TransportParameters}
    (hid : paramID = ackDelayExponentParameterID ∨ paramID = maxAckDelayParameterID ∨
      paramID ∈ numericParameterIDs)
    (hv : v ≤ maxVarInt8) (hset : setNumericTransportParameter st.params paramID v = .ok p') :
    Reads sentBy st (varintRecord paramID v)
      { params := p', parameterIDs := st.parameterIDs ++ [paramID],
        readAckDelayExponent := st.readAckDelayExponent || paramID == ackDelayExponentParameterID,
        readMaxAckDelay := st.readMaxAckDelay || paramID == maxAckDelayParameterID } := by
  have hid16 : paramID < 2 ^ 16 := by
    rcases hid with rfl | rfl | h
    · decide
    · decide
    · exact (mem_numericParameterIDs h).1
  have hlen : (varIntBytes v).length < 2 ^ 16 := by have := varIntBytes_length_le v; omega
  refine Reads.single (by simp only [varintRecord, List.length_append, writeUint16_length]; omega)
    fun rest => ?_
  simp only [varintRecord, unmarshalParameter, List.append_assoc, readUint16_writeUint16 hid16,
    readUint16_writeUint16 hlen, ok_bind, readNumericTransportParameter_varIntBytes hv hset]
  rcases hid with rfl | rfl | h
  · simp [ackDelayExponentParameterID, maxAckDelayParameterID]
  · simp [ackDelayExponentParameterID, maxAckDelayParameterID]
  · obtain ⟨-, h10, h11⟩ := mem_numericParameterIDs h
    simp [h, h10, h11]

/-- A numeric parameter other than the two whose presence `Unmarshal` notes. -/
theorem reads_numeric (paramID v : Nat) {st : UnmarshalState} {p' : TransportParameters}
    (hid : paramID ∈ numericParameterIDs) (hv : v ≤ maxVarInt8)
    (hset : setNumericTransportParameter st.params paramID v = .ok p') :
    Reads sentBy st (varintRecord paramID v)
      { st with params := p', parameterIDs := st.parameterIDs ++ [paramID] } := by
  obtain ⟨-, h10, h11⟩ := mem_numericParameterIDs hid
  have h := (reads_varint paramID v (.inr (.inr hid)) hv hset : Reads sentBy _ _ _)
  rwa [beq_false_of_ne h10, beq_false_of_ne h11, Bool.or_false, Bool.or_false] at h

/-- The parameter IDs that are not numeric, as `Unmarshal` tells them apart. -/
theorem not_numeric {paramID : Nat} (h : paramID = disableMigrationParameterID ∨
    paramID = statelessResetTokenParameterID ∨ paramID = originalConnectionIDParameterID) :
    paramID ≠ ackDelayExponentParameterID ∧ paramID ≠ maxAckDelayParameterID ∧
      paramID ∉ numericParameterIDs := by
  rcases h with rfl | rfl | rfl <;> decide

theorem reads_disableMigration {st : UnmarshalState} :
    Reads sentBy st (writeUint16 disableMigrationParameterID ++ writeUint16 0)
      { st with params := { st.params with disableMigration := true },
                parameterIDs := st.parameterIDs ++ [disableMigrationParameterID] } := by
  refine Reads.single (by simp) fun rest => ?_
  obtain ⟨h10, h11, hnum⟩ := not_numeric (.inl rfl)
  simp -zeta only [unmarshalParameter, List.append_assoc, readUint16_writeUint16 (by decide : disableMigrationParameterID < 2 ^ 16), readUint16_writeUint16 (by decide : 0 < 2 ^ 16), ok_bind, throw_eq_error, error_bind, if_neg h10, if_neg h11, if_neg hnum]
  simp

/-- `r.Read(token[:])` on a reader that starts with a token reads the token. -/
theorem ofFn_getD_toList_append {n : Nat} (v : Vector UInt8 n) (rest : Bytes) :
    (Vector.ofFn fun i : Fin n => (v.toList ++ rest).getD i 0) = v := by
  ext i hi
  simp [List.getD_eq_getElem?_getD, List.getElem?_append_left]

theorem reads_statelessResetToken {st : UnmarshalState} (hs : sentBy ≠ .client)
    (token : Vector UInt8 16) :
    Reads sentBy st (writeUint16 statelessResetTokenParameterID ++ writeUint16 16 ++ token.toList)
      { st with params := { st.params with statelessResetToken := some token },
                parameterIDs := st.parameterIDs ++ [statelessResetTokenParameterID] } := by
  refine Reads.single (by simp) fun rest => ?_
  obtain ⟨h10, h11, hnum⟩ := not_numeric (.inr (.inl rfl))
  have hroom : ¬ (token.toList ++ rest).length < 16 := by
    simp only [List.length_append, Vector.length_toList]
    omega
  simp -zeta only [unmarshalParameter, List.append_assoc,
    readUint16_writeUint16 (by decide : statelessResetTokenParameterID < 2 ^ 16),
    readUint16_writeUint16 (by decide : 16 < 2 ^ 16), ok_bind, throw_eq_error, error_bind,
    if_neg h10, if_neg h11, if_neg hnum, if_neg hs, if_neg hroom, ofFn_getD_toList_append]
  simp [statelessResetTokenParameterID, disableMigrationParameterID]

theorem reads_originalConnectionID {st : UnmarshalState} (hs : sentBy ≠ .client) {ocid : Bytes}
    (hlen : ocid.length < 2 ^ 16) :
    Reads sentBy st (writeUint16 originalConnectionIDParameterID ++ writeUint16 ocid.length ++ ocid)
      { st with params := { st.params with originalConnectionID := ocid },
                parameterIDs := st.parameterIDs ++ [originalConnectionIDParameterID] } := by
  refine Reads.single (by simp only [List.length_append, writeUint16_length]; omega) fun rest => ?_
  obtain ⟨h10, h11, hnum⟩ := not_numeric (.inr (.inr rfl))
  simp -zeta only [unmarshalParameter, List.append_assoc,
    readUint16_writeUint16 (by decide : originalConnectionIDParameterID < 2 ^ 16),
    readUint16_writeUint16 hlen, ok_bind, throw_eq_error, error_bind,
    if_neg h10, if_neg h11, if_neg hnum, if_neg hs]
  simp [originalConnectionIDParameterID, disableMigrationParameterID, statelessResetTokenParameterID]

/-! ### The records `Marshal` writes only sometimes -/

/-- `max_ack_delay`, sent when it is not the default. -/
theorem reads_maxAckDelay_ite (c : Prop) [Decidable c] (v : Nat) {st : UnmarshalState}
    (hv : v ≤ maxVarInt8) (hdelay : durationMillis v < MaxMaxAckDelay) :
    Reads sentBy st (if c then varintRecord maxAckDelayParameterID v else [])
      { st with
        params := { st.params with maxAckDelay := if c then durationMillis v else st.params.maxAckDelay }
        parameterIDs := st.parameterIDs ++ if c then [maxAckDelayParameterID] else []
        readMaxAckDelay := st.readMaxAckDelay || decide c } :=
  Reads.ite_of (fun _ => reads_varint _ _ (.inr (.inl rfl)) hv (setNumericTransportParameter_maxAckDelay_of_lt hdelay))
    (fun hc => by simp [hc, maxAckDelayParameterID, ackDelayExponentParameterID])
    (fun hc => by simp [hc])

/-- `ack_delay_exponent`, sent when it is not the default. -/
theorem reads_ackDelayExponent_ite (c : Prop) [Decidable c] (v : Nat) {st : UnmarshalState}
    (hv : v ≤ MaxAckDelayExponent) :
    Reads sentBy st (if c then varintRecord ackDelayExponentParameterID v else [])
      { st with
        params := { st.params with
          ackDelayExponent := if c then UInt8.ofNat v else st.params.ackDelayExponent }
        parameterIDs := st.parameterIDs ++ if c then [ackDelayExponentParameterID] else []
        readAckDelayExponent := st.readAckDelayExponent || decide c } :=
  Reads.ite_of
    (fun _ => reads_varint _ _ (.inl rfl) (by simp only [MaxAckDelayExponent, maxVarInt8] at *; omega)
      (setNumericTransportParameter_ackDelayExponent_of_le hv))
    (fun hc => by simp [hc, maxAckDelayParameterID, ackDelayExponentParameterID])
    (fun hc => by simp [hc])

/-- `disable_migration`, sent when it is set. -/
theorem reads_disableMigration_ite (b : Bool) {st : UnmarshalState} :
    Reads sentBy st (if b then writeUint16 disableMigrationParameterID ++ writeUint16 0 else [])
      { st with
        params := { st.params with disableMigration := st.params.disableMigration || b }
        parameterIDs := st.parameterIDs ++ if b then [disableMigrationParameterID] else [] } :=
  Reads.ite_of (fun _ => reads_disableMigration) (fun hb => by simp [hb]) (fun hb => by simp [hb])

/-- The stateless reset token, sent when there is one. -/
theorem reads_statelessResetToken_opt (token : Option (Vector UInt8 16)) {st : UnmarshalState}
    (hs : token.isSome → sentBy ≠ .client) :
    Reads sentBy st
      (statelessResetTokenRecord token)
      { st with
        params := { st.params with statelessResetToken := token.or st.params.statelessResetToken }
        parameterIDs := st.parameterIDs ++ if token.isSome then [statelessResetTokenParameterID] else [] } := by
  cases token with
  | none => simpa [statelessResetTokenRecord] using Reads.nil st
  | some t => simpa [statelessResetTokenRecord] using reads_statelessResetToken (hs rfl) t

/-- The original connection ID, sent when it is not empty. -/
theorem reads_originalConnectionID_ite (ocid : Bytes) {st : UnmarshalState}
    (hs : ocid.length > 0 → sentBy ≠ .client) (hlen : ocid.length < 2 ^ 16) :
    Reads sentBy st
      (if ocid.length > 0 then
        writeUint16 originalConnectionIDParameterID ++ writeUint16 ocid.length ++ ocid else [])
      { st with
        params := { st.params with
          originalConnectionID := if ocid.length > 0 then ocid else st.params.originalConnectionID }
        parameterIDs := st.parameterIDs ++
          if ocid.length > 0 then [originalConnectionIDParameterID] else [] } :=
  Reads.ite_of (fun h => reads_originalConnectionID (hs h) hlen) (fun h => by simp [h])
    (fun h => by simp [h])

end Records

/-! ## What `Marshal` writes -/

/-- The values `Marshal` writes and `Unmarshal` takes back: every number fits
into a varint, a `time.Duration` is an `int64`, and the checks of
`readNumericTransportParameter` pass. -/
structure TransportParameters.InRange (p : TransportParameters) : Prop where
  initialMaxStreamDataBidiLocal_le : p.initialMaxStreamDataBidiLocal ≤ maxVarInt8
  initialMaxStreamDataBidiRemote_le : p.initialMaxStreamDataBidiRemote ≤ maxVarInt8
  initialMaxStreamDataUni_le : p.initialMaxStreamDataUni ≤ maxVarInt8
  initialMaxData_le : p.initialMaxData ≤ maxVarInt8
  maxBidiStreamNum_nonneg : 0 ≤ p.maxBidiStreamNum
  maxBidiStreamNum_le : p.maxBidiStreamNum ≤ maxVarInt8
  maxUniStreamNum_nonneg : 0 ≤ p.maxUniStreamNum
  maxUniStreamNum_le : p.maxUniStreamNum ≤ maxVarInt8
  idleTimeout_nonneg : 0 ≤ p.idleTimeout
  idleTimeout_lt : p.idleTimeout < 2 ^ 63
  maxAckDelay_lt : p.maxAckDelay < MaxMaxAckDelay
  ackDelayExponent_le : p.ackDelayExponent.toNat ≤ MaxAckDelayExponent
  fecSymbolSize_le : p.fecSymbolSize.toNat ≤ MAX_FEC_SYMBOL_SIZE
  originalConnectionID_length_le : p.originalConnectionID.length ≤ 20

/-- What `Unmarshal` gives back of what `Marshal` wrote of `p`: `max_packet_size`
goes out as `MaxReceivePacketSize`, the idle timeout and `max_ack_delay` go out
in whole milliseconds, and the idle timeout comes back at least
`MinRemoteIdleTimeout`. -/
def TransportParameters.roundTripped (p : TransportParameters) : TransportParameters :=
  { p with
    maxPacketSize := MaxReceivePacketSize
    idleTimeout := max MinRemoteIdleTimeout (p.idleTimeout.tdiv Millisecond * Millisecond)
    maxAckDelay := p.maxAckDelay.tdiv Millisecond * Millisecond }

/-- A duration above `-1ms`, as `d / time.Millisecond` truncates it. -/
theorem tdiv_millisecond_bounds {d : Int} (h : -Millisecond < d) :
    0 ≤ d.tdiv Millisecond ∧ d.tdiv Millisecond * Millisecond ≤ max d 0 := by
  by_cases hd : 0 ≤ d
  · rw [Int.tdiv_eq_ediv_of_nonneg hd]
    simp only [Millisecond] at *
    omega
  · -- above `-1ms`, a negative duration truncates to zero
    have hzero : d.tdiv Millisecond = 0 := by
      rw [← Int.neg_neg d, Int.neg_tdiv, Int.tdiv_eq_zero_of_lt (by omega) (by omega), Int.neg_zero]
    simp [hzero]

/-- Whole milliseconds that fit into an `int64` of nanoseconds come back from the
wire unchanged. -/
theorem durationMillis_toUint64 {q : Int} (h0 : 0 ≤ q) (h : q * Millisecond < 2 ^ 63) :
    durationMillis (toUint64 q) = q * Millisecond := by
  have hq : q < 2 ^ 63 := by simp only [Millisecond] at h; omega
  unfold durationMillis
  rw [toUint64_of_nonneg h0 (by omega), toInt64_of_lt (by omega), Int.toNat_of_nonneg h0,
    wrapInt64_of_nonneg (by simp only [Millisecond]; omega) h]

/-- A stream count that fits into a varint comes back from the wire unchanged. -/
theorem toInt64_toUint64 {x : Int} (h0 : 0 ≤ x) (h : x ≤ maxVarInt8) : toInt64 (toUint64 x) = x := by
  rw [toUint64_of_nonneg h0 (by simp only [maxVarInt8] at h; omega),
    toInt64_of_lt (by simp only [maxVarInt8] at h; omega), Int.toNat_of_nonneg h0]

theorem toUint64_le_maxVarInt8 {x : Int} (h0 : 0 ≤ x) (h : x ≤ maxVarInt8) : toUint64 x ≤ maxVarInt8 := by
  rw [toUint64_of_nonneg h0 (by simp only [maxVarInt8] at h; omega)]
  omega

theorem marshalVarintParam_of_le {v : Nat} (hv : v ≤ maxVarInt8) (paramID : Nat) :
    marshalVarintParam paramID v = .ok (varintRecord paramID v) := by
  simp [marshalVarintParam, varintRecord, varIntLen_eq_length hv, writeVarInt_of_le hv]

/-- What `Marshal` writes of parameters in range: the records in the order of the
code, the optional ones only when their condition holds. -/
theorem marshal_eq_ok {p : TransportParameters} (hp : p.InRange) (hdelay : -Millisecond < p.maxAckDelay) :
    p.marshal = .ok
      (let b := varintRecord initialMaxStreamDataBidiLocalParameterID p.initialMaxStreamDataBidiLocal ++
        varintRecord initialMaxStreamDataBidiRemoteParameterID p.initialMaxStreamDataBidiRemote ++
        varintRecord initialMaxStreamDataUniParameterID p.initialMaxStreamDataUni ++
        varintRecord initialMaxDataParameterID p.initialMaxData ++
        varintRecord initialMaxStreamsBidiParameterID (toUint64 p.maxBidiStreamNum) ++
        varintRecord initialMaxStreamsUniParameterID (toUint64 p.maxUniStreamNum) ++
        varintRecord idleTimeoutParameterID (toUint64 (p.idleTimeout.tdiv Millisecond)) ++
        varintRecord maxPacketSizeParameterID MaxReceivePacketSize ++
        varintRecord fecSymbolSizeParameterID p.fecSymbolSize.toNat ++
        varintRecord fecSchemeIDParameterID p.fecSchemeID.toNat ++
        (if p.maxAckDelay ≠ DefaultMaxAckDelay then
          varintRecord maxAckDelayParameterID (toUint64 (p.maxAckDelay.tdiv Millisecond)) else []) ++
        (if p.ackDelayExponent.toNat ≠ AckDelayExponent then
          varintRecord ackDelayExponentParameterID p.ackDelayExponent.toNat else []) ++
        (if p.disableMigration then writeUint16 disableMigrationParameterID ++ writeUint16 0 else []) ++
        statelessResetTokenRecord p.statelessResetToken ++
        (if p.originalConnectionID.length > 0 then
          writeUint16 originalConnectionIDParameterID ++ writeUint16 p.originalConnectionID.length ++
            p.originalConnectionID else [])
       writeUint16 b.length ++ b) := by
  have hidle := tdiv_millisecond_bounds
    (show -Millisecond < p.idleTimeout by have := hp.idleTimeout_nonneg; simp only [Millisecond]; omega)
  have hmad := tdiv_millisecond_bounds hdelay
  have hidle_le : p.idleTimeout.tdiv Millisecond ≤ maxVarInt8 := by
    have := hp.idleTimeout_lt
    simp only [maxVarInt8, Millisecond] at *
    omega
  have hmad_le : p.maxAckDelay.tdiv Millisecond ≤ maxVarInt8 := by
    have := hp.maxAckDelay_lt
    simp only [maxVarInt8, MaxMaxAckDelay, Millisecond] at *
    omega
  simp -zeta only [TransportParameters.marshal,
    marshalVarintParam_of_le hp.initialMaxStreamDataBidiLocal_le,
    marshalVarintParam_of_le hp.initialMaxStreamDataBidiRemote_le,
    marshalVarintParam_of_le hp.initialMaxStreamDataUni_le,
    marshalVarintParam_of_le hp.initialMaxData_le,
    marshalVarintParam_of_le (toUint64_le_maxVarInt8 hp.maxBidiStreamNum_nonneg hp.maxBidiStreamNum_le),
    marshalVarintParam_of_le (toUint64_le_maxVarInt8 hp.maxUniStreamNum_nonneg hp.maxUniStreamNum_le),
    marshalVarintParam_of_le (toUint64_le_maxVarInt8 hidle.1 hidle_le),
    marshalVarintParam_of_le (by decide : MaxReceivePacketSize ≤ maxVarInt8),
    marshalVarintParam_of_le (by have := p.fecSymbolSize.toNat_lt; simp only [maxVarInt8]; omega : p.fecSymbolSize.toNat ≤ maxVarInt8),
    marshalVarintParam_of_le (by have := p.fecSchemeID.toNat_lt; simp only [maxVarInt8]; omega : p.fecSchemeID.toNat ≤ maxVarInt8),
    marshalVarintParam_of_le (toUint64_le_maxVarInt8 hmad.1 hmad_le),
    marshalVarintParam_of_le (by have := p.ackDelayExponent.toNat_lt; simp only [maxVarInt8]; omega : p.ackDelayExponent.toNat ≤ maxVarInt8),
    ok_bind, pure_eq_ok]
  split_ifs <;> rfl

/-- A record sent only sometimes, among the IDs: the ID, or nothing. -/
theorem ite_nil_sublist {α : Type} (c : Prop) [Decidable c] (l : List α) :
    (if c then l else []).Sublist l := by
  split <;> simp

/-! ## The round trip -/

theorem unmarshal_marshal {p : TransportParameters} {sentBy : Perspective} (hp : p.InRange)
    (hdelay : -Millisecond < p.maxAckDelay)
    (hsent : sentBy = .server ∨ p.statelessResetToken = none ∧ p.originalConnectionID = []) :
    ∃ data, p.marshal = .ok data ∧ TransportParameters.unmarshal data sentBy = .ok p.roundTripped := by
  refine ⟨_, marshal_eq_ok hp hdelay, ?_⟩
  have hidle := tdiv_millisecond_bounds
    (show -Millisecond < p.idleTimeout by have := hp.idleTimeout_nonneg; simp only [Millisecond]; omega)
  have hmad := tdiv_millisecond_bounds hdelay
  have hidle_le : p.idleTimeout.tdiv Millisecond ≤ maxVarInt8 := by
    have := hp.idleTimeout_lt
    simp only [maxVarInt8, Millisecond] at *
    omega
  have hmad_le : p.maxAckDelay.tdiv Millisecond ≤ maxVarInt8 := by
    have := hp.maxAckDelay_lt
    simp only [maxVarInt8, MaxMaxAckDelay, Millisecond] at *
    omega
  have hmad_wire : durationMillis (toUint64 (p.maxAckDelay.tdiv Millisecond)) < MaxMaxAckDelay := by
    have := hp.maxAckDelay_lt
    rw [durationMillis_toUint64 hmad.1 (by simp only [MaxMaxAckDelay, Millisecond] at *; omega)]
    simp only [MaxMaxAckDelay, Millisecond] at *
    omega
  have hreads : Reads sentBy ⟨TransportParameters.zero, [], false, false⟩ _ _ :=
    (reads_numeric initialMaxStreamDataBidiLocalParameterID p.initialMaxStreamDataBidiLocal
      (by decide) hp.initialMaxStreamDataBidiLocal_le rfl).append
    (reads_numeric initialMaxStreamDataBidiRemoteParameterID p.initialMaxStreamDataBidiRemote
      (by decide) hp.initialMaxStreamDataBidiRemote_le rfl)
    |>.append (reads_numeric initialMaxStreamDataUniParameterID p.initialMaxStreamDataUni
      (by decide) hp.initialMaxStreamDataUni_le rfl)
    |>.append (reads_numeric initialMaxDataParameterID p.initialMaxData
      (by decide) hp.initialMaxData_le rfl)
    |>.append (reads_numeric initialMaxStreamsBidiParameterID (toUint64 p.maxBidiStreamNum)
      (by decide)
      (toUint64_le_maxVarInt8 hp.maxBidiStreamNum_nonneg hp.maxBidiStreamNum_le) rfl)
    |>.append (reads_numeric initialMaxStreamsUniParameterID (toUint64 p.maxUniStreamNum)
      (by decide)
      (toUint64_le_maxVarInt8 hp.maxUniStreamNum_nonneg hp.maxUniStreamNum_le) rfl)
    |>.append (reads_numeric idleTimeoutParameterID (toUint64 (p.idleTimeout.tdiv Millisecond))
      (by decide) (toUint64_le_maxVarInt8 hidle.1 hidle_le) rfl)
    |>.append (reads_numeric maxPacketSizeParameterID MaxReceivePacketSize
      (by decide) (by decide) rfl)
    |>.append (reads_numeric fecSymbolSizeParameterID p.fecSymbolSize.toNat (by decide)
      (by have := p.fecSymbolSize.toNat_lt; simp only [maxVarInt8]; omega)
      (setNumericTransportParameter_fecSymbolSize_of_le hp.fecSymbolSize_le))
    |>.append (reads_numeric fecSchemeIDParameterID p.fecSchemeID.toNat
      (by decide) (by have := p.fecSchemeID.toNat_lt; simp only [maxVarInt8]; omega) rfl)
    |>.append (reads_maxAckDelay_ite (p.maxAckDelay ≠ DefaultMaxAckDelay)
      (toUint64 (p.maxAckDelay.tdiv Millisecond)) (toUint64_le_maxVarInt8 hmad.1 hmad_le) hmad_wire)
    |>.append (reads_ackDelayExponent_ite (p.ackDelayExponent.toNat ≠ AckDelayExponent)
      p.ackDelayExponent.toNat hp.ackDelayExponent_le)
    |>.append (reads_disableMigration_ite p.disableMigration)
    |>.append (reads_statelessResetToken_opt p.statelessResetToken
      (fun h => by rcases hsent with rfl | ⟨htok, -⟩ <;> simp_all))
    |>.append (reads_originalConnectionID_ite p.originalConnectionID
      (fun h => by rcases hsent with rfl | ⟨-, hocid⟩ <;> simp_all)
      (by have := hp.originalConnectionID_length_le; omega))
  refine (hreads.unmarshal ?_).trans ?_
  · -- the IDs are all different
    dsimp only
    refine List.Nodup.sublist ?_ (show List.Nodup [initialMaxStreamDataBidiLocalParameterID,
      initialMaxStreamDataBidiRemoteParameterID, initialMaxStreamDataUniParameterID,
      initialMaxDataParameterID, initialMaxStreamsBidiParameterID, initialMaxStreamsUniParameterID,
      idleTimeoutParameterID, maxPacketSizeParameterID, fecSymbolSizeParameterID,
      fecSchemeIDParameterID, maxAckDelayParameterID, ackDelayExponentParameterID,
      disableMigrationParameterID, statelessResetTokenParameterID,
      originalConnectionIDParameterID] by decide)
    simp only [List.nil_append, List.append_assoc, List.singleton_append]
    exact .cons_cons _ <| .cons_cons _ <| .cons_cons _ <| .cons_cons _ <| .cons_cons _ <| .cons_cons _ <| .cons_cons _ <|
      .cons_cons _ <| .cons_cons _ <| .cons_cons _ <| (ite_nil_sublist _ _).append <|
      (ite_nil_sublist _ _).append <| (ite_nil_sublist _ _).append <|
      (ite_nil_sublist _ _).append <| ite_nil_sublist _ _
  · -- what comes back, field by field: the wire keeps every value but the two
    -- durations, which it keeps in whole milliseconds
    have hidle_wire := durationMillis_toUint64 hidle.1
      (by have := hp.idleTimeout_lt; simp only [Millisecond] at *; omega)
    have hmad_wire' := durationMillis_toUint64 hmad.1
      (by have := hp.maxAckDelay_lt; simp only [MaxMaxAckDelay, Millisecond] at *; omega)
    simp only [TransportParameters.roundTripped, TransportParameters.zero, Bool.false_or,
      decide_eq_true_eq, hidle_wire, Except.ok.injEq, TransportParameters.mk.injEq, true_and]
    refine ⟨?_, ?_, toInt64_toUint64 hp.maxUniStreamNum_nonneg hp.maxUniStreamNum_le,
      toInt64_toUint64 hp.maxBidiStreamNum_nonneg hp.maxBidiStreamNum_le, Option.or_none, ?_,
      UInt16.ofNat_toNat, UInt8.ofNat_toNat⟩
    · -- `max_ack_delay` is sent unless it is the default, which is whole milliseconds
      by_cases hc : p.maxAckDelay = DefaultMaxAckDelay
      · simp only [hc, ne_eq, not_true_eq_false, if_false]
        decide
      · simp only [ne_eq, hc, not_false_eq_true, if_true, hmad_wire']
    · by_cases hc : p.ackDelayExponent.toNat = AckDelayExponent
      · simp only [hc, ne_eq, not_true_eq_false, if_false]
        exact UInt8.toNat_inj.mp (by simp [hc, AckDelayExponent])
      · simp only [ne_eq, hc, not_false_eq_true, if_true, UInt8.ofNat_toNat]
    · -- an empty connection ID is not sent, and the zero value has none
      split
      · rfl
      · simp_all

/-! ## A `max_ack_delay` that `Marshal` cannot write -/

theorem marshalVarintParam_of_gt {v : Nat} (hv : maxVarInt8 < v) (paramID : Nat) :
    marshalVarintParam paramID v = .error (.panic "doesn't fit into 62 bits") := by
  simp [marshalVarintParam, varIntLen_of_gt hv]

/-- `marshalVarintParam` fails only by the panic of `VarIntLen`. -/
theorem marshalVarintParam_error {paramID v : Nat} {e : GoError}
    (h : marshalVarintParam paramID v = .error e) : e = .panic "doesn't fit into 62 bits" := by
  by_cases hv : v ≤ maxVarInt8
  · rw [marshalVarintParam_of_le hv] at h
    cases h
  · rw [marshalVarintParam_of_gt (by omega)] at h
    exact (Except.error.inj h).symm

/-- A negative `max_ack_delay` of a millisecond or more is not the default, and
`uint64` of its milliseconds is above `2^62`: `Marshal` panics. -/
theorem marshal_maxAckDelay_neg {p : TransportParameters} (h₁ : -2 ^ 63 ≤ p.maxAckDelay)
    (h₂ : p.maxAckDelay ≤ -Millisecond) :
    p.marshal = .error (.panic "doesn't fit into 62 bits") := by
  have hne : p.maxAckDelay ≠ DefaultMaxAckDelay := by
    simp only [DefaultMaxAckDelay, Millisecond] at *
    omega
  have hwire : maxVarInt8 < toUint64 (p.maxAckDelay.tdiv Millisecond) := by
    -- whole milliseconds, rounded towards zero: at most `-1`, and `uint64` wraps them
    have hq : p.maxAckDelay.tdiv Millisecond = -((-p.maxAckDelay) / Millisecond) := by
      rw [← Int.tdiv_eq_ediv_of_nonneg (by simp only [Millisecond] at h₂; omega), Int.neg_tdiv,
        Int.neg_neg]
    rw [hq]
    simp only [toUint64, maxVarInt8, Millisecond] at *
    omega
  simp -zeta only [TransportParameters.marshal]
  -- the first ten parameters either go out or fail with the same panic
  iterate 10 refine bind_eq_error_of (fun _ => marshalVarintParam_error) fun _ => ?_
  simp only [if_pos hne, marshalVarintParam_of_gt hwire, error_bind]

/-! ## The round trip, the duplicates, and the delay that does not come back -/

/-- `Marshal` and `Unmarshal` of the transport parameters.  What `Marshal` writes
of parameters in range with a `max_ack_delay` above `-1ms`, `Unmarshal` reads back,
up to the units the wire keeps, from a server and, without the two parameters
only a server sends, from a client; `Unmarshal` rejects every input that carries
an ID twice; and `Marshal` panics on a `max_ack_delay` of `-1ms` or below. -/
theorem transportParameters_roundTrip :
    (∀ (p : TransportParameters) (sentBy : Perspective), p.InRange → -Millisecond < p.maxAckDelay →
      (sentBy = .server ∨ p.statelessResetToken = none ∧ p.originalConnectionID = []) →
      ∃ data, p.marshal = .ok data ∧ TransportParameters.unmarshal data sentBy = .ok p.roundTripped) ∧
    (∀ (data : Bytes) (sentBy : Perspective), ¬ (parameterIDsOf data).Nodup →
      ∃ e, TransportParameters.unmarshal data sentBy = .error e) ∧
    (∀ p : TransportParameters, -2 ^ 63 ≤ p.maxAckDelay → p.maxAckDelay ≤ -Millisecond →
      p.marshal = .error (.panic "doesn't fit into 62 bits")) := by
  refine ⟨fun p sentBy hp hdelay hsent => unmarshal_marshal hp hdelay hsent, fun data sentBy hdup => ?_,
    fun p h₁ h₂ => marshal_maxAckDelay_neg h₁ h₂⟩
  cases hres : TransportParameters.unmarshal data sentBy with
  | error e => exact ⟨e, rfl⟩
  | ok p => exact absurd (unmarshal_nodup hres) hdup

/-- A `max_ack_delay` of `2^58 - 1` milliseconds wraps to `-1ms` in `int64`
nanoseconds, which is below `MaxMaxAckDelay`: `Unmarshal` accepts it, and
`Marshal` panics on what it returned. -/
theorem unmarshal_maxAckDelay_wraps :
    TransportParameters.unmarshal [0, 12, 0, 11, 0, 8, 0xc3, 0xff, 0xff, 0xff, 0xff, 0xff, 0xff, 0xff]
        .server = .ok { TransportParameters.zero with maxAckDelay := -Millisecond, ackDelayExponent := 3 } ∧
      TransportParameters.marshal
          { TransportParameters.zero with maxAckDelay := -Millisecond, ackDelayExponent := 3 } =
        .error (.panic "doesn't fit into 62 bits") :=
  ⟨by decide, transportParameters_roundTrip.2.2 _ (by decide) (by decide)⟩

end QuicFec
