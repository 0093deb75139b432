import QuicFec.FrameSorter
import QuicFec.FrameSplit
import QuicFec.Lib.Framing

/-! # The crypto streams

`cryptoStreamImpl` (crypto_stream.go) carries the TLS handshake messages of one
encryption level in CRYPTO frames.  The sending side buffers what TLS writes and
cuts it into frames at consecutive offsets (`PopCryptoFrame`).  The receiving side
puts the frames back in order with a frame sorter, appends what it can read to a
message buffer, and hands out whole handshake messages: a type byte, a 24-bit
length and that many bytes (`GetCryptoData`).

A run of either side is a list of calls (`CryptoSenderCall`, `CryptoReceiverCall`).  The
receiving side keeps `Receives S`: the frame sorter holds pieces of the stream `S`
the peer writes, and the messages handed out followed by the message buffer are
`S` up to the read position.  The sending side keeps `Sends T`: the frames popped
carry the bytes written, `T`, at their offsets.

Main results:

* `runCryptoReceiver_receives`: for every run of the receiving side whose CRYPTO frames
  are slices of `S`, in any order, duplicated or overlapping, the messages handed
  out are whole messages that, one after the other, start `S`;
* `runCryptoSender_sends`: every frame the sending side pops carries the bytes written
  at its offset;
* `cryptoStream_delivers_messages`: the messages the receiving side hands out are
  the first messages the peer wrote, in order and each once, whatever pieces of
  the peer's frames arrive in whatever order.
-/

namespace QuicFec
open GoBytes

/-- `cryptoStreamImpl`. -/
structure CryptoStream where
  queue : FrameSorter
  msgBuf : Bytes
  highestOffset : Nat
  finished : Bool
  writeOffset : Nat
  writeBuf : Bytes

/-- `newCryptoStream`. -/
def newCryptoStream : CryptoStream where
  queue := newFrameSorter
  msgBuf := []
  highestOffset := 0
  finished := false
  writeOffset := 0
  writeBuf := []

namespace FrameSorter

/-- A `Pop` that returns data deletes a queued chunk. -/
theorem pop_len_lt {s s' : FrameSorter} {o : Nat} {d : Bytes} (h : s.pop = ((o, some d), s')) :
    s'.queue.len < s.queue.len := by
  unfold pop at h
  split at h
  · cases h
  · rename_i data hget
    cases h
    have hlen := GoMap.len_delete_of_mem (GoMap.mem_of_get? hget)
    show (s.queue.delete s.readPos).len < s.queue.len
    omega

/-- The loop of `HandleCryptoFrame` that pops the queue until `Pop` returns `nil`:
the sorter after it and the bytes popped, in order. -/
def popAll (s : FrameSorter) : FrameSorter × Bytes :=
  match h : s.pop with
  | ((_, some data), s') =>
    have _ : s'.queue.len < s.queue.len := pop_len_lt h
    ((popAll s').1, data ++ (popAll s').2)
  | ((_, none), s') => (s', [])
termination_by s.queue.len

/-- A `Pop` keeps the receiver's invariant, with what it returned appended. -/
theorem pop_delivers {S : Bytes} {s s' : FrameSorter} {o : Nat} {d : Option Bytes} {popped : Bytes}
    (hi : Delivers S (s, popped)) (h : s.pop = ((o, d), s')) : Delivers S (s', popped ++ d.getD []) :=
  apply_delivers (c := .pop) trivial hi (by simp [SorterCall.apply, h])

/-- **Popping until nothing is left keeps the receiver's invariant**, with the bytes
popped appended. -/
theorem popAll_delivers {S : Bytes} (s : FrameSorter) {popped : Bytes} (hi : Delivers S (s, popped)) :
    Delivers S (s.popAll.1, popped ++ s.popAll.2) := by
  fun_induction popAll s generalizing popped with
  | case1 s o data s' h _ ih =>
    have := ih (pop_delivers hi h)
    simpa only [Option.getD_some, List.append_assoc] using this
  | case2 s o s' h =>
    simpa using pop_delivers hi h

end FrameSorter

namespace CryptoStream

/-! ## The receiving side -/

/-- `HandleCryptoFrame`.  After the stream is finished, a frame that brings nothing
beyond the highest offset received is a retransmission and is ignored. -/
def handleCryptoFrame (s : CryptoStream) (f : CryptoFrame) : Except GoError CryptoStream :=
  let highestOffset := f.offset + f.data.length
  if highestOffset > MaxCryptoStreamOffset then
    .error (.error
      s!"received invalid offset {highestOffset} on crypto stream, maximum allowed {MaxCryptoStreamOffset}")
  else if s.finished then
    if highestOffset > s.highestOffset then
      .error (.error "received crypto data after change of encryption level")
    else .ok s
  else do
    let s := { s with highestOffset := max s.highestOffset highestOffset }
    let queue ← s.queue.Push f.data f.offset
    let (queue, data) := queue.popAll
    return { s with queue, msgBuf := s.msgBuf ++ data }

/-- The length of the handshake message at the front of `b`, as its first four
bytes give it: a type byte, then a 24-bit length of what follows. -/
def messageLength (b : Bytes) : Nat :=
  4 + (b.getD 1 0).toNat <<< 16 + (b.getD 2 0).toNat <<< 8 + (b.getD 3 0).toNat

/-- `GetCryptoData`: the next whole message of the buffer, `none` for Go's `nil`. -/
def getCryptoData (s : CryptoStream) : Option Bytes × CryptoStream :=
  if s.msgBuf.length < 4 then (none, s) else
  let msgLen := messageLength s.msgBuf
  if s.msgBuf.length < msgLen then (none, s)
  else (some (s.msgBuf.take msgLen), { s with msgBuf := s.msgBuf.drop msgLen })

/-- `Finish`: the encryption level changed. -/
def finish (s : CryptoStream) : Except GoError CryptoStream :=
  if s.queue.hasMoreData then .error (.error "encryption level changed, but crypto stream has more data to read")
  else .ok { s with finished := true }

/-! ## The sending side -/

/-- `Write`: the bytes are buffered, all of them. -/
def write (s : CryptoStream) (p : Bytes) : Nat × CryptoStream :=
  (p.length, { s with writeBuf := s.writeBuf ++ p })

/-- `HasData`. -/
def hasData (s : CryptoStream) : Bool := s.writeBuf.length > 0

/-- `PopCryptoFrame`: a frame at the write offset with as much of the buffer as
`MaxDataLen(maxLen)` allows. -/
def popCryptoFrame (s : CryptoStream) (maxLen : Nat) : Except GoError (CryptoFrame × CryptoStream) := do
  let f : CryptoFrame := { offset := s.writeOffset, data := [] }
  let n := min (← f.maxDataLen maxLen) s.writeBuf.length
  return ({ f with data := s.writeBuf.take n },
    { s with writeBuf := s.writeBuf.drop n, writeOffset := s.writeOffset + n })

end CryptoStream

/-! ## Runs of the two sides -/

/-- A call the receiving side of a crypto stream gets. -/
inductive CryptoReceiverCall where
  | handleCryptoFrame (f : CryptoFrame)
  | getCryptoData
  | finish

/-- One call, on the stream and the messages handed out so far. -/
def CryptoReceiverCall.apply :
    CryptoReceiverCall → CryptoStream × List Bytes → Except GoError (CryptoStream × List Bytes)
  | .handleCryptoFrame f, (s, msgs) => do return (← s.handleCryptoFrame f, msgs)
  | .getCryptoData, (s, msgs) => .ok (s.getCryptoData.2, msgs ++ s.getCryptoData.1.toList)
  | .finish, (s, msgs) => do return (← s.finish, msgs)

/-- The calls one after the other, on a new stream: the stream at the end and the
messages handed out, in order. -/
def runCryptoReceiver (calls : List CryptoReceiverCall) : Except GoError (CryptoStream × List Bytes) :=
  calls.foldlM (fun acc c => c.apply acc) (newCryptoStream, [])

/-- A call the sending side of a crypto stream gets. -/
inductive CryptoSenderCall where
  | write (p : Bytes)
  | popCryptoFrame (maxLen : Nat)

/-- One call, on the stream and the frames popped so far. -/
def CryptoSenderCall.apply :
    CryptoSenderCall → CryptoStream × List CryptoFrame → Except GoError (CryptoStream × List CryptoFrame)
  | .write p, (s, frames) => .ok ((s.write p).2, frames)
  | .popCryptoFrame maxLen, (s, frames) => do
    let (f, s) ← s.popCryptoFrame maxLen
    return (s, frames ++ [f])

/-- The calls one after the other, on a new stream: the stream at the end and the
frames popped, in order. -/
def runCryptoSender (calls : List CryptoSenderCall) : Except GoError (CryptoStream × List CryptoFrame) :=
  calls.foldlM (fun acc c => c.apply acc) (newCryptoStream, [])

/-- The bytes a call writes. -/
def CryptoSenderCall.written : CryptoSenderCall → Bytes
  | .write p => p
  | .popCryptoFrame _ => []

/-- The messages a call writes. -/
def CryptoSenderCall.message : CryptoSenderCall → Option Bytes
  | .write p => some p
  | .popCryptoFrame _ => none

/-! ## What the receiving side hands out -/

namespace CryptoStream

/-- A handshake message: at least four bytes, as long as its first four say. -/
def HandshakeMessage : Bytes → Prop := Framing.LengthPrefixed 4 messageLength

theorem handshakeMessage_delimits : Framing.SelfDelimiting HandshakeMessage :=
  Framing.lengthPrefixed_delimits (by decide) messageLength

/-- The length read from a buffer's first bytes is that of any longer front part. -/
theorem messageLength_take {b : Bytes} {k : Nat} (hk : 4 ≤ k) : messageLength (b.take k) = messageLength b := by
  have hget : ∀ i, i < 4 → (b.take k).getD i 0 = b.getD i 0 := fun i hi => by
    simp only [List.getD_eq_getElem?_getD, List.getElem?_take, if_pos (show i < k by omega)]
  simp only [messageLength, hget 1 (by decide), hget 2 (by decide), hget 3 (by decide)]

/-- What `HandleCryptoFrame` can do: a frame within `MaxCryptoStreamOffset` is
ignored once the stream is finished if it brings nothing new, and is otherwise
pushed into the sorter, which is then popped into the message buffer. -/
theorem handleCryptoFrame_cases {s s' : CryptoStream} {f : CryptoFrame} (h : s.handleCryptoFrame f = .ok s') :
    f.offset + f.data.length ≤ MaxCryptoStreamOffset ∧
      ((s.finished = true ∧ f.offset + f.data.length ≤ s.highestOffset ∧ s' = s) ∨
        (s.finished = false ∧ ∃ q, s.queue.Push f.data f.offset = .ok q ∧
          s' = { s with
            highestOffset := max s.highestOffset (f.offset + f.data.length),
            queue := q.popAll.1, msgBuf := s.msgBuf ++ q.popAll.2 })) := by
  unfold handleCryptoFrame at h
  by_cases hmax : f.offset + f.data.length > MaxCryptoStreamOffset
  · rw [if_pos hmax] at h
    cases h
  rw [if_neg hmax] at h
  refine ⟨Nat.le_of_not_gt hmax, ?_⟩
  cases hfin : s.finished
  case true =>
    simp only [hfin, if_true] at h
    split_ifs at h with hhigh
    cases h
    exact .inl ⟨rfl, Nat.le_of_not_gt hhigh, rfl⟩
  case false =>
    simp only [hfin, Bool.false_eq_true, if_false] at h
    obtain ⟨q, hq, h⟩ := bind_eq_ok.1 h
    cases h
    exact .inr ⟨rfl, q, hq, rfl⟩

/-- `GetCryptoData` hands out a whole message from the front of the buffer and
keeps the rest. -/
theorem getCryptoData_some {s s' : CryptoStream} {m : Bytes} (h : s.getCryptoData = (some m, s')) :
    HandshakeMessage m ∧ s.msgBuf = m ++ s'.msgBuf ∧ s'.queue = s.queue := by
  unfold getCryptoData at h
  by_cases h4 : s.msgBuf.length < 4
  · rw [if_pos h4] at h
    cases h
  by_cases hlen : s.msgBuf.length < messageLength s.msgBuf
  · rw [if_neg h4, if_pos hlen] at h
    cases h
  rw [if_neg h4, if_neg hlen] at h
  cases h
  have hle : 4 ≤ messageLength s.msgBuf := by unfold messageLength; omega
  refine ⟨⟨by rw [List.length_take]; omega, ?_⟩, (List.take_append_drop _ _).symm, rfl⟩
  rw [List.take_take, min_eq_left hle, messageLength_take (Nat.le_refl 4), List.length_take,
    min_eq_left (by omega)]

theorem getCryptoData_none {s s' : CryptoStream} (h : s.getCryptoData = (none, s')) : s' = s := by
  unfold getCryptoData at h
  by_cases h4 : s.msgBuf.length < 4
  · rw [if_pos h4] at h
    cases h
    rfl
  by_cases hlen : s.msgBuf.length < messageLength s.msgBuf
  · rw [if_neg h4, if_pos hlen] at h
    cases h
    rfl
  rw [if_neg h4, if_neg hlen] at h
  cases h

/-! ### A finished stream stays finished -/

theorem getCryptoData_finished (s : CryptoStream) : s.getCryptoData.2.finished = s.finished := by
  unfold getCryptoData
  dsimp only
  split_ifs <;> rfl

theorem finish_finished {s s' : CryptoStream} (h : s.finish = .ok s') : s'.finished = true := by
  unfold finish at h
  split_ifs at h
  cases h
  rfl

theorem handleCryptoFrame_finished {s s' : CryptoStream} {f : CryptoFrame}
    (h : s.handleCryptoFrame f = .ok s') (hf : s.finished = true) : s'.finished = true := by
  rcases (handleCryptoFrame_cases h).2 with ⟨-, -, rfl⟩ | ⟨hnf, -⟩
  · exact hf
  · rw [hf] at hnf
    cases hnf

/-- What the receiving side holds in mid-run, for the stream `S` the peer writes:
the frame sorter holds pieces of `S`, the messages handed out are whole messages,
and they followed by the message buffer are `S` up to the read position. -/
structure Receives (S : Bytes) (acc : CryptoStream × List Bytes) : Prop where
  chunks : ChunksOf S acc.1.queue
  read : acc.2.flatten ++ acc.1.msgBuf = S.take acc.1.queue.readPos
  messages : ∀ m ∈ acc.2, HandshakeMessage m

theorem receives_new (S : Bytes) : Receives S (newCryptoStream, []) :=
  ⟨(newFrameSorter_delivers S).1, rfl, fun _ h => absurd h List.not_mem_nil⟩

variable {S : Bytes} {s s' : CryptoStream} {msgs : List Bytes}

/-- A CRYPTO frame that is a slice of the stream keeps the invariant. -/
theorem Receives.handleCryptoFrame (hi : Receives S (s, msgs)) {f : CryptoFrame}
    (hf : f.data <+: S.drop f.offset) (h : s.handleCryptoFrame f = .ok s') : Receives S (s', msgs) := by
  obtain ⟨-, ⟨-, -, rfl⟩ | ⟨-, q, hq, rfl⟩⟩ := handleCryptoFrame_cases h
  · exact hi
  · -- the frame goes into the sorter, and what can be read is popped into the buffer
    have hpush : Delivers S (q, msgs.flatten ++ s.msgBuf) :=
      ⟨push_chunksOf hi.chunks hf hq, by rw [(FrameSorter.Push_entries hq).1]; exact hi.read⟩
    have hpop := FrameSorter.popAll_delivers q hpush
    exact ⟨hpop.1, by simpa only [List.append_assoc] using hpop.2, hi.messages⟩

theorem Receives.getCryptoData (hi : Receives S (s, msgs)) :
    Receives S (s.getCryptoData.2, msgs ++ s.getCryptoData.1.toList) := by
  rcases hg : s.getCryptoData with ⟨_ | m, s'⟩
  · rw [getCryptoData_none hg]
    simpa using hi
  · obtain ⟨hm, hbuf, hq⟩ := getCryptoData_some hg
    refine ⟨hq ▸ hi.chunks, ?_, ?_⟩
    · -- the message moves from the buffer to the messages handed out
      simp only [Option.toList_some, List.flatten_append, List.flatten_cons, List.flatten_nil,
        List.append_nil, List.append_assoc, hq, ← hbuf]
      exact hi.read
    · intro m' hm'
      rcases List.mem_append.1 hm' with hm' | hm'
      · exact hi.messages m' hm'
      · rw [Option.toList_some, List.mem_singleton] at hm'
        exact hm' ▸ hm

theorem Receives.finish (hi : Receives S (s, msgs)) (h : s.finish = .ok s') : Receives S (s', msgs) := by
  unfold CryptoStream.finish at h
  split_ifs at h
  cases h
  exact ⟨hi.chunks, hi.read, hi.messages⟩

/-- The messages handed out, one after the other, start the stream. -/
theorem Receives.flatten_prefix (hi : Receives S (s, msgs)) : msgs.flatten <+: S :=
  (List.prefix_append _ _).trans (hi.read ▸ List.take_prefix _ _)

end CryptoStream

/-- A call that handles a CRYPTO frame handles a slice of the stream `S`. -/
def CryptoReceiverCall.SliceOf (S : Bytes) : CryptoReceiverCall → Prop
  | .handleCryptoFrame f => f.data <+: S.drop f.offset
  | .getCryptoData | .finish => True

theorem CryptoReceiverCall.apply_receives {S : Bytes} {c : CryptoReceiverCall}
    {acc acc' : CryptoStream × List Bytes} (hc : c.SliceOf S) (hi : CryptoStream.Receives S acc)
    (h : c.apply acc = .ok acc') : CryptoStream.Receives S acc' := by
  obtain ⟨s, msgs⟩ := acc
  cases c with
  | handleCryptoFrame f =>
    obtain ⟨s', hs', h⟩ := bind_eq_ok.1 h
    cases h
    exact hi.handleCryptoFrame hc hs'
  | getCryptoData =>
    cases h
    exact hi.getCryptoData
  | finish =>
    obtain ⟨s', hs', h⟩ := bind_eq_ok.1 h
    cases h
    exact hi.finish hs'

/-- **What the receiving side hands out.**  For every run of `HandleCryptoFrame`
calls with slices of the stream `S`, in any order, duplicated or overlapping,
`GetCryptoData` and `Finish` calls that succeed, the messages handed out are
whole handshake messages that, one after the other, start `S`. -/
theorem CryptoReceiverCall.run_receives {S : Bytes} {calls : List CryptoReceiverCall}
    (hc : ∀ c ∈ calls, c.SliceOf S) {acc : CryptoStream × List Bytes} (h : runCryptoReceiver calls = .ok acc) :
    CryptoStream.Receives S acc := by
  refine foldlM_induction (CryptoStream.Receives S) ?_ (CryptoStream.receives_new S) h
  intro acc c acc' hc' hi hstep
  exact apply_receives (hc c hc') hi hstep

theorem runCryptoReceiver_receives {S : Bytes} {calls : List CryptoReceiverCall}
    (hc : ∀ c ∈ calls, c.SliceOf S) {s : CryptoStream} {msgs : List Bytes}
    (h : runCryptoReceiver calls = .ok (s, msgs)) :
    (∀ m ∈ msgs, CryptoStream.HandshakeMessage m) ∧ msgs.flatten <+: S :=
  have hi := CryptoReceiverCall.run_receives hc h
  ⟨hi.messages, hi.flatten_prefix⟩

/-! ## What the sending side pops -/

namespace CryptoStream

/-- What `PopCryptoFrame` does: it takes `n` bytes off the front of the buffer,
at most all of them, into a frame at the write offset. -/
theorem popCryptoFrame_eq_ok {s s' : CryptoStream} {maxLen : Nat} {f : CryptoFrame}
    (h : s.popCryptoFrame maxLen = .ok (f, s')) :
    ∃ n ≤ s.writeBuf.length, f = ⟨s.writeOffset, s.writeBuf.take n⟩ ∧
      s' = { s with writeBuf := s.writeBuf.drop n, writeOffset := s.writeOffset + n } := by
  obtain ⟨m, -, h⟩ := bind_eq_ok.1 h
  cases h
  exact ⟨_, Nat.min_le_right _ _, rfl, rfl⟩

/-- What the sending side holds in mid-run, `T` being the bytes written so far:
the data of the frames popped, then the buffer, are `T`, the write offset is where
the buffer starts in `T`, and every frame carries `T` at its offset. -/
structure Sends (T : Bytes) (acc : CryptoStream × List CryptoFrame) : Prop where
  sent : (acc.2.map (·.data)).flatten ++ acc.1.writeBuf = T
  offset : acc.1.writeOffset = (acc.2.map (·.data)).flatten.length
  frames : ∀ f ∈ acc.2, f.data <+: T.drop f.offset

theorem sends_new : Sends [] (newCryptoStream, []) :=
  ⟨rfl, rfl, fun _ h => absurd h List.not_mem_nil⟩

/-- A slice of a stream is a slice of any longer stream. -/
theorem prefix_drop_append {a b c : Bytes} {n : Nat} (h : a <+: b.drop n) : a <+: (b ++ c).drop n := by
  rw [List.drop_append]
  exact h.trans (List.prefix_append _ _)

variable {T : Bytes} {s s' : CryptoStream} {frames : List CryptoFrame}

/-- A write appends to what was written. -/
theorem Sends.write (hi : Sends T (s, frames)) (p : Bytes) : Sends (T ++ p) ((s.write p).2, frames) where
  sent := by
    simp only [CryptoStream.write]
    rw [← List.append_assoc, hi.sent]
  offset := hi.offset
  frames := fun f hf => prefix_drop_append (hi.frames f hf)

/-- A popped frame carries the front of the buffer, which is `T` at the write
offset. -/
theorem Sends.popCryptoFrame (hi : Sends T (s, frames)) {maxLen : Nat} {f : CryptoFrame}
    (h : s.popCryptoFrame maxLen = .ok (f, s')) : Sends T (s', frames ++ [f]) := by
  obtain ⟨n, hn, rfl, rfl⟩ := popCryptoFrame_eq_ok h
  have hbuf : T.drop s.writeOffset = s.writeBuf := by
    rw [← hi.sent, hi.offset, List.drop_left]
  refine ⟨?_, ?_, ?_⟩
  · -- the bytes popped move from the buffer to the frames
    simp only [List.map_append, List.map_singleton, List.flatten_append, List.flatten_singleton,
      List.append_assoc, List.take_append_drop]
    exact hi.sent
  · simp only [List.map_append, List.map_singleton, List.flatten_append, List.flatten_singleton,
      List.length_append, List.length_take, min_eq_left hn]
    exact congrArg (· + n) hi.offset
  · intro g hg
    rcases List.mem_append.1 hg with hg | hg
    · exact hi.frames g hg
    · rw [List.mem_singleton] at hg
      subst hg
      rw [hbuf]
      exact List.take_prefix _ _

end CryptoStream

theorem CryptoSenderCall.apply_sends {c : CryptoSenderCall} {T : Bytes}
    {acc acc' : CryptoStream × List CryptoFrame} (hi : CryptoStream.Sends T acc)
    (h : c.apply acc = .ok acc') : CryptoStream.Sends (T ++ c.written) acc' := by
  obtain ⟨s, frames⟩ := acc
  cases c with
  | write p =>
    cases h
    exact hi.write p
  | popCryptoFrame maxLen =>
    obtain ⟨⟨f, s'⟩, hp, h⟩ := bind_eq_ok.1 h
    cases h
    simpa [CryptoSenderCall.written] using hi.popCryptoFrame hp

theorem CryptoSenderCall.foldlM_sends {T : Bytes} :
    ∀ {calls : List CryptoSenderCall} {acc acc' : CryptoStream × List CryptoFrame},
      CryptoStream.Sends T acc → calls.foldlM (fun acc c => c.apply acc) acc = .ok acc' →
      CryptoStream.Sends (T ++ (calls.map CryptoSenderCall.written).flatten) acc'
  | [], _, _, hi, h => by
    cases h
    simpa using hi
  | c :: calls, _, _, hi, h => by
    rw [List.foldlM_cons] at h
    obtain ⟨acc₁, h₁, h⟩ := bind_eq_ok.1 h
    simpa [List.append_assoc] using foldlM_sends (apply_sends hi h₁) h

/-- **What the sending side pops.**  For every run of `Write` and `PopCryptoFrame`
calls that succeed, every frame popped carries, at its offset, the bytes written. -/
theorem runCryptoSender_sends {calls : List CryptoSenderCall} {s : CryptoStream}
    {frames : List CryptoFrame} (h : runCryptoSender calls = .ok (s, frames)) :
    ∀ f ∈ frames, f.data <+: (calls.map CryptoSenderCall.written).flatten.drop f.offset := by
  simpa using (CryptoSenderCall.foldlM_sends CryptoStream.sends_new h).frames

/-- The bytes written are the messages written, one after the other. -/
theorem CryptoSenderCall.flatten_written (calls : List CryptoSenderCall) :
    (calls.map written).flatten = (calls.filterMap message).flatten := by
  induction calls with
  | nil => rfl
  | cons c calls ih =>
    cases c <;> simp [written, message, List.filterMap_cons, ih]

/-- `f` is a piece of the frame `g`: its data is `g`'s from some position on, at
that position's offset.  A frame that is sent again, whole or cut into pieces, is
received as pieces of the frame first popped. -/
def CryptoFrame.PieceOf (f g : CryptoFrame) : Prop :=
  g.offset ≤ f.offset ∧ f.data <+: g.data.drop (f.offset - g.offset)

theorem CryptoFrame.PieceOf.slice {g f : CryptoFrame} {T : Bytes} (hp : f.PieceOf g)
    (hg : g.data <+: T.drop g.offset) : f.data <+: T.drop f.offset := by
  obtain ⟨hle, hd⟩ := hp
  have := hd.trans (hg.drop (f.offset - g.offset))
  rwa [List.drop_drop, Nat.add_sub_cancel' hle] at this

/-- A piece of a frame a sending side popped is a slice of what it wrote. -/
theorem CryptoFrame.PieceOf.slice_written {sends : List CryptoSenderCall} {sender : CryptoStream}
    {frames : List CryptoFrame} (hs : runCryptoSender sends = .ok (sender, frames)) {f : CryptoFrame}
    (hf : ∃ g ∈ frames, f.PieceOf g) : f.data <+: (sends.map CryptoSenderCall.written).flatten.drop f.offset := by
  obtain ⟨g, hg, hfg⟩ := hf
  exact hfg.slice (runCryptoSender_sends hs g hg)

/-- Whole messages handed out by a receiving side that keeps `Receives` for the
bytes a sending side wrote are the first messages it wrote: the messages are
self-delimiting. -/
theorem CryptoStream.Receives.prefix_messages {sends : List CryptoSenderCall} {s : CryptoStream}
    {msgs : List Bytes} (hwritten : ∀ p, .write p ∈ sends → CryptoStream.HandshakeMessage p)
    (hi : CryptoStream.Receives (sends.map CryptoSenderCall.written).flatten (s, msgs)) :
    msgs <+: sends.filterMap CryptoSenderCall.message := by
  have hprefix := hi.flatten_prefix
  rw [CryptoSenderCall.flatten_written] at hprefix
  refine CryptoStream.handshakeMessage_delimits.prefix_of_flatten_prefix hi.messages ?_ hprefix
  intro p hp
  obtain ⟨c, hc, hcp⟩ := List.mem_filterMap.1 hp
  cases c with
  | write q =>
    cases hcp
    exact hwritten p hc
  | popCryptoFrame _ => cases hcp

/-- **The crypto streams deliver the handshake messages in order.**  Let one side
write handshake messages and pop CRYPTO frames, and the other side handle CRYPTO
frames, each a piece of a frame popped, in any order, duplicated or overlapping,
and call `GetCryptoData` and `Finish` in between, with every call succeeding.
The messages `GetCryptoData` hands out are the first messages written, in order
and each once. -/
theorem cryptoStream_delivers_messages {sends : List CryptoSenderCall} {recvs : List CryptoReceiverCall}
    {sender receiver : CryptoStream} {frames : List CryptoFrame} {msgs : List Bytes}
    (hwritten : ∀ p, .write p ∈ sends → CryptoStream.HandshakeMessage p)
    (hs : runCryptoSender sends = .ok (sender, frames))
    (hpieces : ∀ f, .handleCryptoFrame f ∈ recvs → ∃ g ∈ frames, f.PieceOf g)
    (hr : runCryptoReceiver recvs = .ok (receiver, msgs)) :
    msgs <+: sends.filterMap CryptoSenderCall.message := by
  have hslices : ∀ c ∈ recvs, c.SliceOf (sends.map CryptoSenderCall.written).flatten := by
    intro c hc
    cases c with
    | handleCryptoFrame f => exact CryptoFrame.PieceOf.slice_written hs (hpieces f hc)
    | getCryptoData | finish => trivial
  exact (CryptoReceiverCall.run_receives hslices hr).prefix_messages hwritten

/-- A message of type 1 with one byte of body is written and popped as one frame,
which arrives twice; `GetCryptoData` hands it out once. -/
theorem cryptoStream_delivers_one_message :
    ∃ sender receiver frames,
      runCryptoSender [.write [1, 0, 0, 1, 7], .popCryptoFrame 100] = .ok (sender, frames) ∧
      runCryptoReceiver [.handleCryptoFrame ⟨0, [1, 0, 0, 1, 7]⟩, .getCryptoData,
        .handleCryptoFrame ⟨0, [1, 0, 0, 1, 7]⟩, .getCryptoData] = .ok (receiver, [[1, 0, 0, 1, 7]]) ∧
      [[1, 0, 0, 1, 7]] <+: [CryptoSenderCall.write [1, 0, 0, 1, 7], .popCryptoFrame 100].filterMap
        CryptoSenderCall.message := by
  obtain ⟨sender, hs⟩ : ∃ s, runCryptoSender [.write [1, 0, 0, 1, 7], .popCryptoFrame 100] =
      .ok (s, [⟨0, [1, 0, 0, 1, 7]⟩]) := ⟨_, rfl⟩
  -- the receiving side is run by the kernel, through the loop that pops the sorter
  obtain ⟨⟨receiver, msgs⟩, hr, hmsgs⟩ := exists_ok_of_toOption_map (x := runCryptoReceiver
      [.handleCryptoFrame ⟨0, [1, 0, 0, 1, 7]⟩, .getCryptoData, .handleCryptoFrame ⟨0, [1, 0, 0, 1, 7]⟩,
        .getCryptoData]) (f := Prod.snd) (b := [[1, 0, 0, 1, 7]]) (by decide +kernel)
  cases hmsgs
  refine ⟨sender, receiver, _, hs, hr, cryptoStream_delivers_messages ?_ hs ?_ hr⟩
  · intro p hp
    simp only [List.mem_cons, CryptoSenderCall.write.injEq, reduceCtorEq, or_false, List.not_mem_nil] at hp
    subst hp
    exact ⟨by decide, rfl⟩
  · intro f hf
    simp only [List.mem_cons, CryptoReceiverCall.handleCryptoFrame.injEq, reduceCtorEq, false_or,
      or_false, List.not_mem_nil] at hf
    rcases hf with rfl | rfl <;> exact ⟨_, List.mem_singleton_self _, le_rfl, List.prefix_refl _⟩

end QuicFec
