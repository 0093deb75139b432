import QuicFec.Retransmission
import QuicFec.RepairQueue
import QuicFec.FecReceiver

/-! # The payload of a 1-RTT packet

`composeNextPacket` fills the payload of a 1-RTT packet from five producers that
share the budget `maxFrameSize`: the ACK frame, a REPAIR frame of the FEC sender, a
RECOVERED frame of the FEC receiver, the framer's control frames and its STREAM
frames.  Each producer after the ACK frame is handed what is left of the budget, a
`uint64` difference, except the REPAIR frame, which is handed the whole budget.

`payload.length` adds the `Length` of every frame, the last STREAM frame with the
length field the framer then removes from it.  The budget is not kept:
`getRecoveredFrame` does not count the varint of its count of packet numbers, and
a RECOVERED frame that fills the budget runs over it by that varint.
-/

namespace QuicFec
open GoBytes

/-! ## The framer -/

/-- The send streams as the framer reaches them, over their state `τ`:
`GetOrOpenSendStream` gives a stream (neither `nil` nor an error), and
`popStreamFrame` of at most `maxBytes` bytes gives a frame (`none` for Go's `nil`),
whether the stream has more data, and the streams after the pop. -/
structure SendStreams (τ : Type) where
  hasStream : τ → Nat → Bool
  popStreamFrame : τ → Nat → Nat → Option StreamFrame × Bool × τ

/-- `framerI`, with the state of its streams.  The set `activeStreams` is a list
without repetitions. -/
structure Framer (τ : Type) where
  streams : τ
  activeStreams : List Nat
  streamQueue : List Nat
  controlFrames : List Frame

/-- The last frame of a list that does not end a prefix of it is that of the rest. -/
theorem withoutLastDataLen_append {fs gs : List Frame} (h : gs ≠ []) :
    withoutLastDataLen (fs ++ gs) = fs ++ withoutLastDataLen gs := by
  obtain ⟨init, last, rfl⟩ := (List.eq_nil_or_concat gs).resolve_left h
  cases last <;> simp [withoutLastDataLen]

/-! ## Counting frames -/

/-- The sum of the `Length`s of frames, each as it stands. -/
def Frame.lengthAll : List Frame → Except GoError Nat
  | [] => .ok 0
  | f :: fs => do return (← f.length) + (← lengthAll fs)

/-- The bytes of a payload as `writeAndSealPacketWithPadding` writes them, padding
apart: the ACK frame, then the frames. -/
def Payload.write (payload : Payload) : Except GoError Bytes := do
  let ack ← match payload.ack with
    | some ack => ack.write
    | none => pure []
  return ack ++ (← Frame.writeAll payload.frames)

namespace Frame

theorem lengthAll_append {fs gs : List Frame} {n m : Nat} (hf : lengthAll fs = .ok n)
    (hg : lengthAll gs = .ok m) : lengthAll (fs ++ gs) = .ok (n + m) := by
  induction fs generalizing n with
  | nil =>
    cases hf
    simpa using hg
  | cons f fs ih =>
    obtain ⟨l, hl, hf⟩ := bind_eq_ok.1 hf
    obtain ⟨k, hk, hf⟩ := bind_eq_ok.1 hf
    cases hf
    simp [lengthAll, hl, ih hk, Nat.add_assoc]

theorem lengthAll_append_eq_ok {fs gs : List Frame} {k : Nat} (h : lengthAll (fs ++ gs) = .ok k) :
    ∃ n m, lengthAll fs = .ok n ∧ lengthAll gs = .ok m ∧ k = n + m := by
  induction fs generalizing k with
  | nil => exact ⟨0, k, rfl, h, by simp⟩
  | cons f fs ih =>
    obtain ⟨l, hl, h⟩ := bind_eq_ok.1 h
    obtain ⟨k', hk', h⟩ := bind_eq_ok.1 h
    cases h
    obtain ⟨n, m, hn, hm, rfl⟩ := ih hk'
    exact ⟨l + n, m, by simp [lengthAll, hl, hn], hm, by omega⟩

theorem lengthAll_singleton {f : Frame} {l : Nat} (h : f.length = .ok l) : lengthAll [f] = .ok l := by
  simp [lengthAll, h]

theorem writeAll_append_eq_ok {fs gs : List Frame} {w : Bytes} (h : writeAll (fs ++ gs) = .ok w) :
    ∃ a b, writeAll fs = .ok a ∧ writeAll gs = .ok b ∧ w = a ++ b := by
  induction fs generalizing w with
  | nil => exact ⟨[], w, rfl, h, rfl⟩
  | cons f fs ih =>
    obtain ⟨wf, hwf, h⟩ := bind_eq_ok.1 h
    obtain ⟨ws, hws, h⟩ := bind_eq_ok.1 h
    cases h
    obtain ⟨a, b, ha, hb, rfl⟩ := ih hws
    exact ⟨wf ++ a, b, by simp [writeAll, hwf, ha], hb, by simp⟩

/-- Frames are written in as many bytes as their `Length`s add up to. -/
theorem writeAll_length {fs : List Frame} {n : Nat} {w : Bytes} (hn : lengthAll fs = .ok n)
    (hw : writeAll fs = .ok w) : w.length = n := by
  induction fs generalizing n w with
  | nil =>
    cases hn
    cases hw
    rfl
  | cons f fs ih =>
    obtain ⟨l, hl, hn⟩ := bind_eq_ok.1 hn
    obtain ⟨k, hk, hn⟩ := bind_eq_ok.1 hn
    cases hn
    obtain ⟨wf, hwf, hw⟩ := bind_eq_ok.1 hw
    obtain ⟨ws, hws, hw⟩ := bind_eq_ok.1 hw
    cases hw
    have hwl : wf.length = l := Except.ok.inj ((length_of_write hwf).symm.trans hl)
    simp [hwl, ih hk hws]

end Frame

/-- A STREAM frame without its length field is no longer than `Length` counts it with
the field it had. -/
theorem StreamFrame.length_withoutDataLen_le {f : StreamFrame} {l : Nat} {w : Bytes} (hl : f.length = .ok l)
    (hw : ({ f with dataLenPresent := false } : StreamFrame).write = .ok w) : w.length ≤ l := by
  have hl' := StreamFrame.length_of_write hw
  obtain ⟨sid, fin, dlp, off, data⟩ := f
  unfold StreamFrame.length at hl hl'
  -- the frames differ in the length field alone, counted with it or not
  obtain ⟨s, hs, hl⟩ := bind_eq_ok.1 hl
  simp only [hs, ok_bind] at hl'
  by_cases ho : off ≠ 0 <;> cases dlp <;>
    simp [ho, bind_eq_ok, varIntLen_eq_ok] at hl hl' <;> omega

/-- The frames of a packet, the last STREAM frame without its length field, are no
longer than their `Length`s add up to. -/
theorem Frame.writeAll_withoutLastDataLen_le {fs : List Frame} {n : Nat} {w : Bytes}
    (hn : Frame.lengthAll fs = .ok n) (hw : Frame.writeAll (withoutLastDataLen fs) = .ok w) : w.length ≤ n := by
  unfold withoutLastDataLen at hw
  split at hw
  case h_1 sf hlast =>
    obtain ⟨ys, rfl⟩ := List.getLast?_eq_some_iff.1 hlast
    rw [List.dropLast_concat] at hw
    obtain ⟨a, b, ha, hb, rfl⟩ := Frame.writeAll_append_eq_ok hw
    obtain ⟨n1, n2, hn1, hn2, rfl⟩ := Frame.lengthAll_append_eq_ok hn
    obtain ⟨l, hl, hn2⟩ := bind_eq_ok.1 hn2
    obtain ⟨b', hb', hb⟩ := bind_eq_ok.1 hb
    simp only [Frame.writeAll, pure_eq_ok, ok_bind, Except.ok.injEq] at hb
    simp only [Frame.lengthAll, pure_eq_ok, ok_bind, Except.ok.injEq] at hn2
    subst hb hn2
    have h1 := Frame.writeAll_length hn1 ha
    have h2 := StreamFrame.length_withoutDataLen_le hl hb'
    simp only [List.length_append, List.append_nil]
    omega
  case h_2 => exact (Frame.writeAll_length hn hw).le

/-- A payload whose frames are `fs`, or `fs` with the last STREAM frame's length field
removed, is written in at most the `Length`s of its ACK frame and of `fs`. -/
theorem Payload.write_le {p : Payload} {fs : List Frame} {a n : Nat} {w : Bytes}
    (ha : ∀ af, p.ack = some af → af.length = .ok a) (ha0 : p.ack = none → a = 0)
    (hn : Frame.lengthAll fs = .ok n) (hfs : p.frames = fs ∨ p.frames = withoutLastDataLen fs)
    (hw : p.write = .ok w) : w.length ≤ a + n := by
  unfold Payload.write at hw
  obtain ⟨wa, wf, hwf, rfl, hack⟩ : ∃ wa wf, Frame.writeAll p.frames = .ok wf ∧ w = wa ++ wf ∧ wa.length = a := by
    cases hp : p.ack with
    | none =>
      simp only [hp, pure_eq_ok, ok_bind] at hw
      obtain ⟨wf, hwf, hw⟩ := bind_eq_ok.1 hw
      cases hw
      exact ⟨[], wf, hwf, rfl, (ha0 hp).symm⟩
    | some af =>
      simp only [hp] at hw
      obtain ⟨wa, hwa, hw⟩ := bind_eq_ok.1 hw
      obtain ⟨wf, hwf, hw⟩ := bind_eq_ok.1 hw
      cases hw
      exact ⟨wa, wf, hwf, rfl, Except.ok.inj ((AckFrame.length_of_write hwa).symm.trans (ha af hp))⟩
  have hframes : wf.length ≤ n := by
    rcases hfs with hfs | hfs
    · rw [hfs] at hwf
      exact (Frame.writeAll_length hn hwf).le
    · rw [hfs] at hwf
      exact Frame.writeAll_withoutLastDataLen_le hn hwf
  simp only [List.length_append]
  omega

namespace Framer

variable {τ : Type} (ss : SendStreams τ)

/-- The loop of `AppendControlFrames`, over the queue of control frames from its
end: a frame that does not fit ends it.  Returns the frames left, last first, the
length added and the frames. -/
def appendControlFramesLoop (maxLen : Nat) :
    List Frame → Nat → List Frame → Except GoError (List Frame × Nat × List Frame)
  | [], length, frames => .ok ([], length, frames)
  | frame :: stack, length, frames => do
    let frameLen ← frame.length
    if length + frameLen > maxLen then return (frame :: stack, length, frames)
    appendControlFramesLoop maxLen stack (length + frameLen) (frames ++ [frame])

/-- `AppendControlFrames`: the control frames that fit, taken from the end of the
queue, and their length. -/
def AppendControlFrames (f : Framer τ) (frames : List Frame) (maxLen : Nat) :
    Except GoError (Framer τ × List Frame × Nat) := do
  let (stack, length, frames) ← appendControlFramesLoop maxLen f.controlFrames.reverse 0 frames
  return ({ f with controlFrames := stack.reverse }, frames, length)

/-- The loop of `AppendStreamFrames`, for as many rounds as streams were active when
it started: while a frame of `MinStreamFrameSize` fits, the stream at the head of
the queue pops a frame for the budget left and the bytes of the length field the
last frame loses, and goes back to the end of the queue if it has more data.
Returns the framer, the length added, the frames and whether a frame was added. -/
def appendStreamFramesLoop (maxLen : Nat) :
    Nat → Framer τ → Nat → List Frame → Bool → Except GoError (Framer τ × Nat × List Frame × Bool)
  | 0, f, length, frames, frameAdded => .ok (f, length, frames, frameAdded)
  | n + 1, f, length, frames, frameAdded =>
    if MinStreamFrameSize + length > maxLen then .ok (f, length, frames, frameAdded) else
    match f.streamQueue with
    | [] => .error (.panic "index out of range")
    | id :: streamQueue =>
      -- a stream that is gone is no longer active
      if !ss.hasStream f.streams id then
        appendStreamFramesLoop maxLen n
          { f with streamQueue, activeStreams := f.activeStreams.erase id } length frames frameAdded
      else do
        -- no wrap: a minimal STREAM frame still fits
        let remainingLen := maxLen - length
        let remainingLen := remainingLen + (← varIntLen remainingLen)
        let (frame, hasMoreData, streams) := ss.popStreamFrame f.streams id remainingLen
        let f : Framer τ := if hasMoreData then { f with streams, streamQueue := streamQueue ++ [id] }
          else { f with streams, streamQueue, activeStreams := f.activeStreams.erase id }
        match frame with
        | none => appendStreamFramesLoop maxLen n f length frames frameAdded
        | some frame =>
          let frameLen ← frame.length
          appendStreamFramesLoop maxLen n f (length + frameLen) (frames ++ [.stream frame]) true

/-- `AppendStreamFrames`: STREAM frames from the active streams in turn, the last one
without its length field, and their length with it. -/
def AppendStreamFrames (f : Framer τ) (frames : List Frame) (maxLen : Nat) :
    Except GoError (Framer τ × List Frame × Nat) := do
  let (f, length, frames, frameAdded) ←
    appendStreamFramesLoop ss maxLen f.streamQueue.length f 0 frames false
  return (f, if frameAdded then withoutLastDataLen frames else frames, length)

/-! ## What the framer appends -/

theorem appendControlFramesLoop_spec {maxLen : Nat} :
    ∀ {stack : List Frame} {length : Nat} {frames : List Frame} {stack' : List Frame} {length' : Nat}
      {frames' : List Frame},
      appendControlFramesLoop maxLen stack length frames = .ok (stack', length', frames') →
      ∃ added n, frames' = frames ++ added ∧ Frame.lengthAll added = .ok n ∧ length' = length + n
  | [], _, _, _, _, _, h => by
    cases h
    exact ⟨[], 0, by simp, rfl, rfl⟩
  | frame :: stack, length, frames, _, _, _, h => by
    obtain ⟨frameLen, hlen, h⟩ := bind_eq_ok.1 h
    split at h
    · cases h
      exact ⟨[], 0, by simp, rfl, rfl⟩
    · obtain ⟨added, n, rfl, hn, rfl⟩ := appendControlFramesLoop_spec h
      exact ⟨frame :: added, frameLen + n, by simp, by simp [Frame.lengthAll, hlen, hn], by omega⟩

/-- `AppendControlFrames` appends frames of the length it returns. -/
theorem AppendControlFrames_spec {f f' : Framer τ} {frames frames' : List Frame} {maxLen length : Nat}
    (h : f.AppendControlFrames frames maxLen = .ok (f', frames', length)) :
    ∃ added, frames' = frames ++ added ∧ Frame.lengthAll added = .ok length := by
  obtain ⟨⟨stack, length, frames''⟩, hloop, h⟩ := bind_eq_ok.1 h
  cases h
  obtain ⟨added, n, rfl, hn, rfl⟩ := appendControlFramesLoop_spec hloop
  exact ⟨added, rfl, by simpa using hn⟩

theorem appendStreamFramesLoop_spec {maxLen : Nat} :
    ∀ {n : Nat} {f : Framer τ} {length : Nat} {frames : List Frame} {frameAdded : Bool} {f' : Framer τ}
      {length' : Nat} {frames' : List Frame} {frameAdded' : Bool},
      appendStreamFramesLoop ss maxLen n f length frames frameAdded = .ok (f', length', frames', frameAdded') →
      ∃ added k, frames' = frames ++ added ∧ Frame.lengthAll added = .ok k ∧ length' = length + k ∧
        (frameAdded' = true → frameAdded = true ∨ added ≠ [])
  | 0, _, _, _, _, _, _, _, _, h => by
    cases h
    exact ⟨[], 0, by simp, rfl, rfl, Or.inl⟩
  | n + 1, f, length, frames, frameAdded, _, _, _, _, h => by
    rw [appendStreamFramesLoop] at h
    split at h
    next =>
      cases h
      exact ⟨[], 0, by simp, rfl, rfl, Or.inl⟩
    split at h
    next => cases h
    next id streamQueue _ =>
    split at h
    next => exact appendStreamFramesLoop_spec h
    obtain ⟨extra, -, h⟩ := bind_eq_ok.1 (by dsimp only at h; exact h)
    rcases hpop : ss.popStreamFrame f.streams id (maxLen - length + extra) with
      ⟨frame, hasMoreData, streams⟩
    simp only [hpop] at h
    cases frame with
    | none => exact appendStreamFramesLoop_spec h
    | some frame =>
      obtain ⟨frameLen, hlen, h⟩ := bind_eq_ok.1 h
      obtain ⟨added, k, rfl, hk, rfl, -⟩ := appendStreamFramesLoop_spec h
      exact ⟨.stream frame :: added, frameLen + k, by simp, by simp [Frame.lengthAll, Frame.length, hlen, hk],
        by omega, fun _ => Or.inr (List.cons_ne_nil _ _)⟩

/-- `AppendStreamFrames` appends frames of the length it returns, the last of them
perhaps without its length field. -/
theorem AppendStreamFrames_spec {f f' : Framer τ} {frames frames' : List Frame} {maxLen length : Nat}
    (h : f.AppendStreamFrames ss frames maxLen = .ok (f', frames', length)) :
    ∃ added, Frame.lengthAll added = .ok length ∧
      (frames' = frames ++ added ∨ added ≠ [] ∧ frames' = frames ++ withoutLastDataLen added) := by
  obtain ⟨⟨f'', length'', frames'', frameAdded⟩, hloop, h⟩ := bind_eq_ok.1 h
  cases h
  obtain ⟨added, k, rfl, hk, rfl, hadded⟩ := appendStreamFramesLoop_spec ss hloop
  refine ⟨added, by simpa using hk, ?_⟩
  cases frameAdded
  case false => exact Or.inl (by simp)
  case true =>
    have hne : added ≠ [] := (hadded rfl).resolve_left (by decide)
    exact Or.inr ⟨hne, by simp only [if_true, withoutLastDataLen_append hne]⟩

end Framer

/-! ## Composing the payload -/

/-- What `composeNextPacket` changes of a packer: its FEC sender and the state of its
FEC receiver, if it has them, and its framer. -/
structure Composer (τ : Type) where
  fecFrameworkSender : Option BlockFrameworkSender
  fecFrameworkReceiver : Option ReceiverState
  framer : Framer τ

/-- A receiver with at least 64 packets to announce, of packet numbers of two-byte
varints that do not all fit into `maxSize`, gives a RECOVERED frame longer than
`maxSize`. -/
theorem ReceiverState.getRecoveredFrame_overruns {st : ReceiverState}
    (hpns : ∀ pn ∈ st.recoveredPacketsToAnnounce, 64 ≤ pn ∧ pn ≤ maxVarInt2)
    (h64 : 64 ≤ st.recoveredPacketsToAnnounce.length)
    (hcount : st.recoveredPacketsToAnnounce.length ≤ maxVarInt2) {maxSize : Nat} (hpos : 1 ≤ maxSize)
    (hfull : maxSize ≤ 2 * st.recoveredPacketsToAnnounce.length + 1) :
    ∃ rf st', st.getRecoveredFrame maxSize = .ok (some rf, st') ∧ maxSize < rf.length := by
  obtain ⟨rf, n, hget, hn, hlt⟩ := fecFramesParserI.getRecoveredFrame_overruns hpns h64 hcount hpos hfull
  refine ⟨rf, { st with recoveredPacketsToAnnounce := st.recoveredPacketsToAnnounce.drop n }, ?_, hlt⟩
  simp [ReceiverState.getRecoveredFrame, hget, sliceFrom_eq_ok.2 ⟨hn, rfl⟩]

namespace Composer

variable {τ : Type} (ss : SendStreams τ)

/-- The ACK frame's part of `composeNextPacket`: a payload of the frame alone. -/
def ackPayload : Option AckFrame → Except GoError Payload
  | some ack => do
    let length ← ack.length
    pure { ack := some ack, length }
  | none => pure {}

/-- The FEC sender's part of `composeNextPacket`: a REPAIR frame for the whole
budget, whatever the payload holds already. -/
def appendRepairFrame (maxFrameSize : Nat) (payload : Payload) :
    Option BlockFrameworkSender → Except GoError (Option BlockFrameworkSender × Payload)
  | none => pure (none, payload)
  | some sender =>
    let (sender, rf) := sender.GetRepairFrame maxFrameSize
    do
    match ← rf with
    | some rf =>
      pure (some sender,
        { payload with frames := payload.frames ++ [.repair rf], length := payload.length + rf.length })
    | none => pure (some sender, payload)

/-- The FEC receiver's part of `composeNextPacket`: a RECOVERED frame for the budget
left. -/
def appendRecoveredFrame (maxFrameSize : Nat) (payload : Payload) :
    Option ReceiverState → Except GoError (Option ReceiverState × Payload)
  | none => pure (none, payload)
  | some st => do
    let (recoveredFrame, st) ← st.getRecoveredFrame (subU64 maxFrameSize payload.length)
    match recoveredFrame with
    | some rf =>
      pure (some st,
        { payload with frames := payload.frames ++ [.recovered rf], length := payload.length + rf.length })
    | none => pure (some st, payload)

/-- `composeNextPacket`, with `ack` the frame `GetAckFrame` gives at 1-RTT: the
payload and the packer's parts after it. -/
def composeNextPacket (c : Composer τ) (ack : Option AckFrame) (maxFrameSize : Nat) :
    Except GoError (Payload × Composer τ) := do
  let payload ← ackPayload ack
  let (fecFrameworkSender, payload) ← appendRepairFrame maxFrameSize payload c.fecFrameworkSender
  let (fecFrameworkReceiver, payload) ← appendRecoveredFrame maxFrameSize payload c.fecFrameworkReceiver
  let (framer, frames, lengthAdded) ←
    c.framer.AppendControlFrames payload.frames (subU64 maxFrameSize payload.length)
  let payload := { payload with length := payload.length + lengthAdded }
  let (framer, frames, lengthAdded) ←
    framer.AppendStreamFrames ss frames (subU64 maxFrameSize payload.length)
  let payload :=
    if frames.length > 0 then { payload with frames, length := payload.length + lengthAdded } else payload
  return (payload, { fecFrameworkSender, fecFrameworkReceiver, framer })

/-! ## What a payload counts -/

/-- The ACK frame's payload holds no frame, and counts the frame's length. -/
theorem ackPayload_spec {ack : Option AckFrame} {p : Payload} (h : ackPayload ack = .ok p) :
    p.frames = [] ∧ p.ack = ack ∧ ∃ a, (∀ af, ack = some af → af.length = .ok a) ∧ (ack = none → a = 0) ∧
      p.length = a := by
  cases ack with
  | none =>
    cases h
    exact ⟨rfl, rfl, 0, by simp, fun _ => rfl, rfl⟩
  | some af =>
    obtain ⟨l, hl, h⟩ := bind_eq_ok.1 h
    cases h
    exact ⟨rfl, rfl, l, by simp [hl], by simp, rfl⟩

/-- The FEC sender appends at most a REPAIR frame, counted by its length. -/
theorem appendRepairFrame_spec {maxFrameSize : Nat} {payload p : Payload}
    {sender sender' : Option BlockFrameworkSender}
    (h : appendRepairFrame maxFrameSize payload sender = .ok (sender', p)) :
    ∃ X n, p.frames = payload.frames ++ X ∧ Frame.lengthAll X = .ok n ∧ p.length = payload.length + n ∧
      p.ack = payload.ack := by
  cases sender with
  | none =>
    cases h
    exact ⟨[], 0, by simp, rfl, rfl, rfl⟩
  | some sender =>
    unfold appendRepairFrame at h
    rcases hg : sender.GetRepairFrame maxFrameSize with ⟨sender'', rf⟩
    simp only [hg] at h
    obtain ⟨rfo, -, h⟩ := bind_eq_ok.1 h
    cases rfo with
    | none =>
      cases h
      exact ⟨[], 0, by simp, rfl, rfl, rfl⟩
    | some rf =>
      cases h
      exact ⟨[.repair rf], rf.length, rfl, Frame.lengthAll_singleton rfl, rfl, rfl⟩

/-- The FEC receiver appends at most a RECOVERED frame, counted by its length. -/
theorem appendRecoveredFrame_spec {maxFrameSize : Nat} {payload p : Payload}
    {receiver receiver' : Option ReceiverState}
    (h : appendRecoveredFrame maxFrameSize payload receiver = .ok (receiver', p)) :
    ∃ X n, p.frames = payload.frames ++ X ∧ Frame.lengthAll X = .ok n ∧ p.length = payload.length + n ∧
      p.ack = payload.ack := by
  cases receiver with
  | none =>
    cases h
    exact ⟨[], 0, by simp, rfl, rfl, rfl⟩
  | some st =>
    obtain ⟨⟨rfo, st'⟩, -, h⟩ := bind_eq_ok.1 h
    cases rfo with
    | none =>
      cases h
      exact ⟨[], 0, by simp, rfl, rfl, rfl⟩
    | some rf =>
      cases h
      exact ⟨[.recovered rf], rf.length, rfl, Frame.lengthAll_singleton rfl, rfl, rfl⟩

/-- **`payload.length` is at least the bytes of the payload.**  Every frame is counted
by its `Length`, the REPAIR and RECOVERED frames included, and the last STREAM frame
with the length field it then loses. -/
theorem composeNextPacket_write_le {c c' : Composer τ} {ack : Option AckFrame} {maxFrameSize : Nat}
    {payload : Payload} {w : Bytes} (h : c.composeNextPacket ss ack maxFrameSize = .ok (payload, c'))
    (hw : payload.write = .ok w) : w.length ≤ payload.length := by
  unfold composeNextPacket at h
  obtain ⟨p0, hp0, h1⟩ := bind_eq_ok.1 h
  obtain ⟨hf0, ha0, a, hal, han, hl0⟩ := ackPayload_spec hp0
  obtain ⟨⟨sender, p1⟩, hp1, h2⟩ := bind_eq_ok.1 h1
  obtain ⟨X1, n1, hf1, hn1, hl1, ha1⟩ := appendRepairFrame_spec hp1
  obtain ⟨⟨receiver, p2⟩, hp2, h3⟩ := bind_eq_ok.1 h2
  obtain ⟨X2, n2, hf2, hn2, hl2, ha2⟩ := appendRecoveredFrame_spec hp2
  obtain ⟨⟨framer, frames, la⟩, hctl, h4⟩ := bind_eq_ok.1 h3
  obtain ⟨⟨framer', frames', la'⟩, hstr, h5⟩ := bind_eq_ok.1 h4
  obtain ⟨C, rfl, hC⟩ := Framer.AppendControlFrames_spec hctl
  obtain ⟨S, hS, hstr'⟩ := Framer.AppendStreamFrames_spec ss hstr
  simp only [pure_eq_ok, Except.ok.injEq, Prod.mk.injEq] at h5
  obtain ⟨rfl, -⟩ := h5
  have hfs : Frame.lengthAll (X1 ++ X2 ++ C ++ S) = .ok (n1 + n2 + la + la') :=
    Frame.lengthAll_append (Frame.lengthAll_append (Frame.lengthAll_append hn1 hn2) hC) hS
  rw [hf2, hf1, hf0, List.nil_append] at hstr'
  by_cases hpos : frames'.length > 0
  case pos =>
    -- the frames are the counted ones, the last perhaps without its length field
    simp only [if_pos hpos] at hw ⊢
    refine (Payload.write_le (by rw [ha2, ha1, ha0]; exact hal) (by rw [ha2, ha1, ha0]; exact han) hfs ?_
      hw).trans (by rw [hl2, hl1, hl0]; omega)
    rcases hstr' with hst | ⟨hne, hst⟩
    · exact Or.inl hst
    · exact Or.inr (by rw [hst, withoutLastDataLen_append hne])
  case neg =>
    -- nothing was appended: the payload is the ACK frame alone
    simp only [if_neg hpos] at hw ⊢
    obtain ⟨rfl, rfl⟩ : X1 = [] ∧ X2 = [] := by
      rcases hstr' with hst | ⟨-, hst⟩ <;>
      · rw [hst] at hpos
        simp only [List.length_append, gt_iff_lt] at hpos
        exact ⟨List.eq_nil_of_length_eq_zero (by omega), List.eq_nil_of_length_eq_zero (by omega)⟩
    have hnil : Frame.lengthAll [] = .ok 0 := rfl
    refine (Payload.write_le (by rw [ha2, ha1, ha0]; exact hal) (by rw [ha2, ha1, ha0]; exact han) hnil
      (Or.inl (by rw [hf2, hf1, hf0]; rfl)) hw).trans ?_
    rw [hl2, hl1, hl0]
    omega

/-- Without an ACK frame or an FEC sender, a receiver with at least 64 packets to
announce, of packet numbers of two-byte varints that do not all fit into the budget,
makes the payload longer than the budget, whatever the framer and its streams
append after the RECOVERED frame. -/
theorem composeNextPacket_recovered_overruns {c c' : Composer τ} {st : ReceiverState}
    {maxFrameSize : Nat} {payload : Payload} {w : Bytes} (hsender : c.fecFrameworkSender = none)
    (hreceiver : c.fecFrameworkReceiver = some st)
    (hpns : ∀ pn ∈ st.recoveredPacketsToAnnounce, 64 ≤ pn ∧ pn ≤ maxVarInt2)
    (h64 : 64 ≤ st.recoveredPacketsToAnnounce.length)
    (hcount : st.recoveredPacketsToAnnounce.length ≤ maxVarInt2) (hpos : 1 ≤ maxFrameSize)
    (hfull : maxFrameSize ≤ 2 * st.recoveredPacketsToAnnounce.length + 1)
    (h : c.composeNextPacket ss none maxFrameSize = .ok (payload, c'))
    (hw : payload.write = .ok w) : maxFrameSize < w.length := by
  obtain ⟨rf, st', hget, hlt⟩ := st.getRecoveredFrame_overruns hpns h64 hcount hpos hfull
  have h0 : subU64 maxFrameSize 0 = maxFrameSize :=
    subU64_of_le (Nat.zero_le _) (by unfold maxVarInt2 at hcount; omega)
  unfold composeNextPacket at h
  simp only [ackPayload, appendRepairFrame, appendRecoveredFrame, hsender, hreceiver, pure_eq_ok, ok_bind, h0,
    hget, List.nil_append] at h
  obtain ⟨⟨framer, frames, lengthAdded⟩, hctl, h1⟩ := bind_eq_ok.1 h
  obtain ⟨⟨framer', frames', lengthAdded'⟩, hstr, h2⟩ := bind_eq_ok.1 h1
  obtain ⟨added, rfl, -⟩ := Framer.AppendControlFrames_spec hctl
  obtain ⟨added', -, hstr'⟩ := Framer.AppendStreamFrames_spec ss hstr
  obtain ⟨rest, hrest⟩ : ∃ rest, frames' = .recovered rf :: rest := by
    rcases hstr' with rfl | ⟨-, rfl⟩
    · exact ⟨added ++ added', by simp⟩
    · exact ⟨added ++ withoutLastDataLen added', by simp⟩
  obtain ⟨hframes, hack⟩ : payload.frames = .recovered rf :: rest ∧ payload.ack = none := by
    simp only [Except.ok.injEq, Prod.mk.injEq] at h2
    rw [← h2.1, hrest]
    simp
  unfold Payload.write at hw
  simp only [hack, hframes, pure_eq_ok, ok_bind, List.nil_append] at hw
  obtain ⟨wf, hwf, hw⟩ := bind_eq_ok.1 hw
  cases hw
  obtain ⟨wr, hwr, hwf⟩ := bind_eq_ok.1 hwf
  obtain ⟨ws, -, hwf⟩ := bind_eq_ok.1 hwf
  cases hwr
  cases hwf
  simp only [RecoveredFrame.length] at hlt
  simp only [List.length_append, RecoveredFrame.write, List.length_singleton]
  omega

/-- `payload.length` of what `composeNextPacket` returns is at least the bytes of the
payload, but the payload need not fit into `maxFrameSize`: a RECOVERED frame that
fills its budget runs over it by the varint of its count. -/
theorem composeNextPacket_size_budget :
    (∀ {τ : Type} (ss : SendStreams τ) (c c' : Composer τ) (ack : Option AckFrame) (maxFrameSize : Nat)
      (payload : Payload) (w : Bytes), c.composeNextPacket ss ack maxFrameSize = .ok (payload, c') →
      payload.write = .ok w → w.length ≤ payload.length) ∧
    (∀ {τ : Type} (ss : SendStreams τ) (c c' : Composer τ) (st : ReceiverState) (maxFrameSize : Nat)
      (payload : Payload) (w : Bytes), c.fecFrameworkSender = none → c.fecFrameworkReceiver = some st →
      (∀ pn ∈ st.recoveredPacketsToAnnounce, 64 ≤ pn ∧ pn ≤ maxVarInt2) →
      64 ≤ st.recoveredPacketsToAnnounce.length → st.recoveredPacketsToAnnounce.length ≤ maxVarInt2 →
      1 ≤ maxFrameSize → maxFrameSize ≤ 2 * st.recoveredPacketsToAnnounce.length + 1 →
      c.composeNextPacket ss none maxFrameSize = .ok (payload, c') → payload.write = .ok w →
      maxFrameSize < w.length) :=
  ⟨fun ss _ _ _ _ _ _ h hw => composeNextPacket_write_le ss h hw,
    fun ss _ _ _ _ _ _ hsender hreceiver hpns h64 hcount hpos hfull h hw =>
      composeNextPacket_recovered_overruns ss hsender hreceiver hpns h64 hcount hpos hfull h hw⟩

/-- With no ACK frame, no FEC sender and a framer with neither control frames nor
streams, the payload is the RECOVERED frame of the FEC receiver, if it gives one. -/
theorem composeNextPacket_recovered_only {streams : τ} {st st' : ReceiverState} {rf : RecoveredFrame}
    {maxFrameSize : Nat} (hmax : maxFrameSize < 2 ^ 64)
    (hget : st.getRecoveredFrame maxFrameSize = .ok (some rf, st')) :
    (⟨none, some st, ⟨streams, [], [], []⟩⟩ : Composer τ).composeNextPacket ss none maxFrameSize =
      .ok ({ frames := [.recovered rf], length := rf.length }, ⟨none, some st', ⟨streams, [], [], []⟩⟩) := by
  have h0 : subU64 maxFrameSize 0 = maxFrameSize := subU64_of_le (Nat.zero_le _) hmax
  unfold composeNextPacket
  simp only [ackPayload, appendRepairFrame, pure_eq_ok, ok_bind]
  simp only [appendRecoveredFrame]
  simp only [h0, hget, ok_bind, pure_eq_ok]
  simp only [Framer.AppendControlFrames, List.reverse_nil, Framer.appendControlFramesLoop,
    Framer.AppendStreamFrames, List.length_nil, Framer.appendStreamFramesLoop, ok_bind, pure_eq_ok]
  simp only [Bool.false_eq_true, if_false, List.nil_append, List.length_singleton, Nat.zero_add,
    Nat.add_zero, gt_iff_lt, Nat.zero_lt_one, if_true]

/-- With no ACK frame, no FEC sender, an empty framer and a FEC receiver with the 610
packet numbers 64 to 673 to announce, the payload composed for a budget of 1220 bytes
is a RECOVERED frame of 1221 bytes. -/
theorem composeNextPacket_recovered_610 :
    ∃ payload c' w,
      (⟨none, some { newReceiverState with
          recoveredPacketsToAnnounce := (List.range 610).map fun i : Nat => (i : Int) + 64 },
          ⟨(), [], [], []⟩⟩ : Composer Unit).composeNextPacket
        ⟨fun _ _ => false, fun _ _ _ => (none, false, ())⟩ none 1220 = .ok (payload, c') ∧
      payload.write = .ok w ∧ 1220 < w.length := by
  -- keep the 610 packet numbers and the receiver's buffers folded, so that no step
  -- evaluates them
  generalize hL : ((List.range 610).map fun i : Nat => (i : Int) + 64) = pns
  generalize hst : ({ newReceiverState with recoveredPacketsToAnnounce := pns } : ReceiverState) = st
  have hrec : st.recoveredPacketsToAnnounce = pns := by rw [← hst]
  have hpns : ∀ pn ∈ st.recoveredPacketsToAnnounce, 64 ≤ pn ∧ pn ≤ maxVarInt2 := by
    intro pn hpn
    rw [hrec, ← hL] at hpn
    obtain ⟨i, hi, rfl⟩ := List.mem_map.1 hpn
    rw [List.mem_range] at hi
    unfold maxVarInt2
    omega
  have hlen : st.recoveredPacketsToAnnounce.length = 610 := by
    rw [hrec, ← hL, List.length_map, List.length_range]
  obtain ⟨rf, st', hget, -⟩ := @ReceiverState.getRecoveredFrame_overruns st hpns (by rw [hlen]; decide)
    (by rw [hlen]; decide) 1220 (by decide) (by rw [hlen]; decide)
  have hcompose := @composeNextPacket_recovered_only Unit ⟨fun _ _ => false, fun _ _ _ => (none, false, ())⟩
    () st st' rf 1220 (by omega) hget
  have hw : ({ frames := [.recovered rf], length := rf.length } : Payload).write = .ok rf.write := by
    simp only [Payload.write, Frame.writeAll, Frame.write, pure_eq_ok, ok_bind, List.nil_append,
      List.append_nil]
  exact ⟨_, _, _, hcompose, hw, composeNextPacket_size_budget.2 _ _ _ _ 1220 _ _ rfl rfl hpns
    (by rw [hlen]; decide) (by rw [hlen]; decide) (by decide) (by rw [hlen]; decide) hcompose hw⟩

end Composer

end QuicFec
