import Mathlib
import QuicFec.CryptoStream
import QuicFec.SentPacketHandler
import QuicFec.ComposePacket

/-! # The crypto stream manager and the post-handshake crypto stream

`cryptoStreamManager` (crypto_stream_manager.go) routes each CRYPTO frame to the
crypto stream of the frame's encryption level, and then hands every whole
handshake message that stream holds to the TLS side (`cryptoDataHandler`), until
there is none left or the TLS side says the level is done, when the stream is
finished.  The TLS side is a state with its `HandleMessage`: any function of the
state, the message and the level.

`postHandshakeCryptoStream` (crypto_stream.go) is the 1-RTT crypto stream.  What
TLS writes on it is cut at once into CRYPTO frames of at most
`MaxPostHandshakeCryptoFrameSize` bytes, queued on the framer as control frames.
The framer sends its control frames last queued first, so the peer gets them in
another order, and its crypto stream puts them back in order.  The receiving side
of the stream is that of `CryptoStream`, and `Write` touches only the sending
side, so the two are modelled apart.

Main results:

* `cryptoStreamManager_delivers_messages`: at every encryption level, the messages
  the manager hands the TLS side are the first messages the peer wrote at that
  level, in order and each once, whenever the CRYPTO frames of that level are
  pieces of frames the peer popped there; frames of the other levels do not
  matter; and a level the TLS side says is done has its stream finished;
* `queueFrames_queued`: the write loop of the post-handshake stream queues the
  frames that as many `PopCryptoFrame`s pop as it takes to empty the buffer;
* `postHandshake_delivers_messages`: the writes on the post-handshake stream
  queue the frames a run of the sending side pops, and the messages written
  reach the peer's TLS side in order, whatever order the framer sends the frames
  in.
-/

namespace QuicFec
open GoBytes

/-- `utils.VarIntLen` is at most eight bytes. -/
theorem varIntLen_le_eight {i l : Nat} (h : varIntLen i = .ok l) : l ≤ 8 := by
  unfold varIntLen at h
  split_ifs at h <;> cases h <;> decide

/-- `MaxDataLen` leaves room for data in a frame of twelve bytes or more: the
header takes at most ten. -/
theorem CryptoFrame.maxDataLen_pos {f : CryptoFrame} {maxSize n : Nat} (hmax : 12 ≤ maxSize)
    (h : f.maxDataLen maxSize = .ok n) : 0 < n := by
  unfold CryptoFrame.maxDataLen at h
  obtain ⟨k, hk, h⟩ := bind_eq_ok.1 h
  have hk8 := varIntLen_le_eight hk
  simp only [show ¬ 1 + k + 1 > maxSize by omega, if_false] at h
  obtain ⟨j, -, h⟩ := bind_eq_ok.1 h
  split_ifs at h <;> cases h <;> omega

namespace CryptoStream

/-- A message handed out is taken off the message buffer. -/
theorem getCryptoData_length_lt {s s' : CryptoStream} {m : Bytes} (h : s.getCryptoData = (some m, s')) :
    s'.msgBuf.length < s.msgBuf.length := by
  obtain ⟨hm, hbuf, -⟩ := getCryptoData_some h
  have h4 := hm.1
  rw [hbuf, List.length_append]
  omega

/-- A frame popped for twelve bytes or more from a stream with data takes at
least one byte of it. -/
theorem popCryptoFrame_length_lt {s s' : CryptoStream} {maxLen : Nat} {f : CryptoFrame} (hmax : 12 ≤ maxLen)
    (hd : s.hasData = true) (h : s.popCryptoFrame maxLen = .ok (f, s')) :
    s'.writeBuf.length < s.writeBuf.length := by
  obtain ⟨n, hn, h⟩ := bind_eq_ok.1 h
  cases h
  have hpos := CryptoFrame.maxDataLen_pos hmax hn
  have hlen : 0 < s.writeBuf.length := by simpa [hasData] using hd
  simp only [List.length_drop]
  omega

end CryptoStream

/-! ## The manager -/

/-- `cryptoStreamManager`, with the state of its `cryptoHandler`. -/
structure CryptoStreamManager (σ : Type) where
  cryptoHandler : σ
  initialStream : CryptoStream
  handshakeStream : CryptoStream
  oneRTTStream : CryptoStream

/-- `newCryptoStreamManager`, on new streams, as the session makes it. -/
def newCryptoStreamManager {σ : Type} (cryptoHandler : σ) : CryptoStreamManager σ where
  cryptoHandler := cryptoHandler
  initialStream := newCryptoStream
  handshakeStream := newCryptoStream
  oneRTTStream := newCryptoStream

namespace CryptoStreamManager

variable {σ : Type}

/-- The stream of a level, as the switch of `HandleCryptoFrame` picks it; `none`
for the level that has none. -/
def stream (m : CryptoStreamManager σ) : EncryptionLevel → Option CryptoStream
  | .initial => some m.initialStream
  | .handshake => some m.handshakeStream
  | .oneRTT => some m.oneRTTStream
  | .unspecified => none

/-- The manager with the stream of a level replaced: the streams are pointers in
Go, and what `HandleCryptoFrame` does to the stream it picked stays. -/
def setStream (m : CryptoStreamManager σ) : EncryptionLevel → CryptoStream → CryptoStreamManager σ
  | .initial, str => { m with initialStream := str }
  | .handshake, str => { m with handshakeStream := str }
  | .oneRTT, str => { m with oneRTTStream := str }
  | .unspecified, _ => m

variable (handleMessage : σ → Bytes → EncryptionLevel → Bool × σ)

/-- The loop of `HandleCryptoFrame`: each whole message of the stream goes to the
TLS side, until the stream has none, or the TLS side says the level is done and
the stream is finished.  Whether the level changed, the TLS side's state and the
stream after.  It ends since every message is taken off the message buffer. -/
def handleMessages (h : σ) (str : CryptoStream) (encLevel : EncryptionLevel) :
    Except GoError (Bool × σ × CryptoStream) :=
  match hg : str.getCryptoData with
  | (none, str') => .ok (false, h, str')
  | (some data, str') =>
    have _ : str'.msgBuf.length < str.msgBuf.length := CryptoStream.getCryptoData_length_lt hg
    match handleMessage h data encLevel with
    | (true, h') => do return (true, h', ← str'.finish)
    | (false, h') => handleMessages h' str' encLevel
termination_by str.msgBuf.length

/-- `HandleCryptoFrame`: whether the encryption level changed. -/
def handleCryptoFrame (m : CryptoStreamManager σ) (frame : CryptoFrame) (encLevel : EncryptionLevel) :
    Except GoError (Bool × CryptoStreamManager σ) :=
  match m.stream encLevel with
  | none => .error (.error ("received CRYPTO frame with unexpected encryption level: " ++ encLevel.toString))
  | some str => do
    let str ← str.handleCryptoFrame frame
    let (changed, h, str) ← handleMessages handleMessage m.cryptoHandler str encLevel
    return (changed, { m.setStream encLevel str with cryptoHandler := h })

/-- CRYPTO frames, each with the level of the packet it came in, handled one
after the other: the manager at the end. -/
def run (m : CryptoStreamManager σ) (frames : List (CryptoFrame × EncryptionLevel)) :
    Except GoError (CryptoStreamManager σ) :=
  frames.foldlM (fun m c => do return (← m.handleCryptoFrame handleMessage c.1 c.2).2) m

/-- The TLS side `handleMessage`, with a log of the messages it is handed, their
levels, and whether it said the level was done. -/
def recording (h : σ × List (EncryptionLevel × Bytes × Bool)) (data : Bytes) (encLevel : EncryptionLevel) :
    Bool × σ × List (EncryptionLevel × Bytes × Bool) :=
  ((handleMessage h.1 data encLevel).1, (handleMessage h.1 data encLevel).2,
    h.2 ++ [(encLevel, data, (handleMessage h.1 data encLevel).1)])

end CryptoStreamManager

/-- The messages of a log handed out at a level. -/
def handedAt (encLevel : EncryptionLevel) (log : List (EncryptionLevel × Bytes × Bool)) : List Bytes :=
  log.filterMap fun e => if e.1 = encLevel then some e.2.1 else none

@[simp] theorem handedAt_nil (l : EncryptionLevel) : handedAt l [] = [] := rfl

theorem handedAt_append (l : EncryptionLevel) (log new : List (EncryptionLevel × Bytes × Bool)) :
    handedAt l (log ++ new) = handedAt l log ++ handedAt l new :=
  List.filterMap_append

@[simp] theorem handedAt_append_self (l : EncryptionLevel) (log : List (EncryptionLevel × Bytes × Bool))
    (data : Bytes) (b : Bool) : handedAt l (log ++ [(l, data, b)]) = handedAt l log ++ [data] := by
  rw [handedAt_append]
  simp [handedAt]

/-- Entries of other levels hand out nothing at a level. -/
theorem handedAt_append_of_ne {l : EncryptionLevel} (log new : List (EncryptionLevel × Bytes × Bool))
    (h : ∀ e ∈ new, e.1 ≠ l) : handedAt l (log ++ new) = handedAt l log := by
  have hnew : handedAt l new = [] := List.filterMap_eq_nil_iff.2 fun e he => by simp [h e he]
  rw [handedAt_append, hnew, List.append_nil]

namespace CryptoStreamManager

variable {σ : Type}

/-! ### The streams of the levels -/

theorem stream_setStream_self {m : CryptoStreamManager σ} {l : EncryptionLevel} {str₀ : CryptoStream}
    (hl : m.stream l = some str₀) (str : CryptoStream) : (m.setStream l str).stream l = some str := by
  cases l <;> first | rfl | cases hl

theorem stream_setStream_of_ne (m : CryptoStreamManager σ) {l l' : EncryptionLevel} (h : l' ≠ l)
    (str : CryptoStream) : (m.setStream l str).stream l' = m.stream l' := by
  cases l <;> cases l' <;> first | rfl | exact absurd rfl h

@[simp] theorem stream_with_cryptoHandler (m : CryptoStreamManager σ) (h : σ) (l : EncryptionLevel) :
    ({ m with cryptoHandler := h } : CryptoStreamManager σ).stream l = m.stream l := by
  cases l <;> rfl

theorem eq_unspecified_of_stream_eq_none {m : CryptoStreamManager σ} {l : EncryptionLevel}
    (h : m.stream l = none) : l = .unspecified := by
  cases l <;> first | rfl | cases h

/-! ### The loop that hands out the messages -/

variable (handleMessage : σ → Bytes → EncryptionLevel → Bool × σ)

theorem recording_log {h h' : σ × List (EncryptionLevel × Bytes × Bool)} {data : Bytes}
    {l : EncryptionLevel} {b : Bool} (hr : recording handleMessage h data l = (b, h')) :
    h'.2 = h.2 ++ [(l, data, b)] := by
  simp only [recording, Prod.mk.injEq] at hr
  obtain ⟨rfl, rfl⟩ := hr
  rfl

/-- The loop logs messages of its own level only, and leaves the stream finished
when it was, or when the TLS side said the level is done. -/
theorem handleMessages_log {l : EncryptionLevel} {h h' : σ × List (EncryptionLevel × Bytes × Bool)}
    {str str' : CryptoStream} {b : Bool}
    (hm : handleMessages (recording handleMessage) h str l = .ok (b, h', str')) :
    ∃ new, h'.2 = h.2 ++ new ∧ (∀ e ∈ new, e.1 = l) ∧
      (str.finished = true ∨ (∃ data, (l, data, true) ∈ new) → str'.finished = true) := by
  fun_induction handleMessages (recording handleMessage) h str l with
  | case1 h str str' hg =>
    cases hm
    refine ⟨[], by simp, by simp, ?_⟩
    rintro (hf | ⟨_, hmem⟩)
    · rwa [CryptoStream.getCryptoData_none hg]
    · cases hmem
  | case2 h str data str' hg _ h'' hrec =>
    -- the TLS side says the level is done after this message
    obtain ⟨str'', hfin, hm⟩ := bind_eq_ok.1 hm
    cases hm
    exact ⟨[(l, data, true)], recording_log handleMessage hrec, by simp,
      fun _ => CryptoStream.finish_finished hfin⟩
  | case3 h str data str' hg _ h'' hrec ih =>
    obtain ⟨new, hlog, hlev, hfin⟩ := ih hm
    have hstr : str'.finished = str.finished := by
      simpa only [hg] using CryptoStream.getCryptoData_finished str
    refine ⟨(l, data, false) :: new, by rw [hlog, recording_log handleMessage hrec]; simp, ?_, ?_⟩
    · intro e he
      rcases List.mem_cons.1 he with rfl | he
      · rfl
      · exact hlev e he
    · rintro (hf | ⟨d, hmem⟩)
      · exact hfin (.inl (hstr ▸ hf))
      · exact hfin (.inr ⟨d, by simpa using hmem⟩)

/-- The loop keeps the receiving side's invariant of the stream, with the messages
handed to the TLS side at its level as those handed out. -/
theorem handleMessages_receives {S : Bytes} {l : EncryptionLevel}
    {h h' : σ × List (EncryptionLevel × Bytes × Bool)} {str str' : CryptoStream} {b : Bool}
    (hi : CryptoStream.Receives S (str, handedAt l h.2))
    (hm : handleMessages (recording handleMessage) h str l = .ok (b, h', str')) :
    CryptoStream.Receives S (str', handedAt l h'.2) := by
  fun_induction handleMessages (recording handleMessage) h str l with
  | case1 h str str' hg =>
    cases hm
    rwa [CryptoStream.getCryptoData_none hg]
  | case2 h str data str' hg _ h'' hrec =>
    obtain ⟨str'', hfin, hm⟩ := bind_eq_ok.1 hm
    cases hm
    have hget := hi.getCryptoData
    rw [hg] at hget
    rw [recording_log handleMessage hrec, handedAt_append_self]
    exact hget.finish hfin
  | case3 h str data str' hg _ h'' hrec ih =>
    have hget := hi.getCryptoData
    rw [hg] at hget
    refine ih ?_ hm
    rw [recording_log handleMessage hrec, handedAt_append_self]
    exact hget

/-! ### What the manager keeps -/

/-- What the manager holds in mid-run at the level `l`, `S` being what the peer
writes there: the level's stream keeps `Receives` with the messages handed to the
TLS side at that level, a level with no stream has had none handed out, and a
level the TLS side has said is done has its stream finished. -/
structure ReceivesAt (S : Bytes) (l : EncryptionLevel)
    (m : CryptoStreamManager (σ × List (EncryptionLevel × Bytes × Bool))) : Prop where
  stream : ∀ str, m.stream l = some str → CryptoStream.Receives S (str, handedAt l m.cryptoHandler.2)
  none_handed : m.stream l = none → handedAt l m.cryptoHandler.2 = []
  finished : ∀ data, (l, data, true) ∈ m.cryptoHandler.2 →
    ∃ str, m.stream l = some str ∧ str.finished = true

theorem receivesAt_new (S : Bytes) (l : EncryptionLevel) (h₀ : σ) :
    ReceivesAt S l (newCryptoStreamManager (h₀, [])) where
  stream := fun str hl => by
    cases l <;> cases hl <;> exact CryptoStream.receives_new S
  none_handed := fun _ => rfl
  finished := fun _ hd => by cases hd

/-- **One CRYPTO frame keeps the invariant of a level**: a frame of another level
does not touch the level's stream nor the messages handed out at it, and a frame
of the level that is a slice of the stream is handled by the level's stream. -/
theorem ReceivesAt.handleCryptoFrame {S : Bytes} {l l' : EncryptionLevel}
    {m m' : CryptoStreamManager (σ × List (EncryptionLevel × Bytes × Bool))} {frame : CryptoFrame}
    {b : Bool} (hi : ReceivesAt S l m) (hf : l' = l → frame.data <+: S.drop frame.offset)
    (h : m.handleCryptoFrame (recording handleMessage) frame l' = .ok (b, m')) : ReceivesAt S l m' := by
  unfold CryptoStreamManager.handleCryptoFrame at h
  split at h
  · cases h
  rename_i str₀ hstr
  obtain ⟨str₁, h₁, h⟩ := bind_eq_ok.1 h
  obtain ⟨⟨changed, h', str₂⟩, h₂, h⟩ := bind_eq_ok.1 h
  cases h
  obtain ⟨new, hlog, hlev, hfin⟩ := handleMessages_log handleMessage h₂
  by_cases hl : l' = l
  · -- the frame goes to the level's stream, which then hands out its messages
    subst hl
    have hr₂ := handleMessages_receives handleMessage ((hi.stream str₀ hstr).handleCryptoFrame (hf rfl) h₁) h₂
    have hs : ({ m.setStream l' str₂ with cryptoHandler := h' }).stream l' = some str₂ := by
      rw [stream_with_cryptoHandler, stream_setStream_self hstr]
    refine ⟨fun str hs' => ?_, fun hs' => ?_, fun data hd => ⟨str₂, hs, ?_⟩⟩
    · rw [hs] at hs'
      cases hs'
      exact hr₂
    · rw [hs] at hs'
      cases hs'
    · change (l', data, true) ∈ h'.2 at hd
      rw [hlog, List.mem_append] at hd
      rcases hd with hd | hd
      · obtain ⟨str, hstr', hdone⟩ := hi.finished data hd
        rw [hstr] at hstr'
        cases hstr'
        exact hfin (.inl (CryptoStream.handleCryptoFrame_finished h₁ hdone))
      · exact hfin (.inr ⟨data, hd⟩)
  · -- another level's stream: the level's stream and messages stay
    have hother : ({ m.setStream l' str₂ with cryptoHandler := h' }).stream l = m.stream l := by
      rw [stream_with_cryptoHandler, stream_setStream_of_ne _ (Ne.symm hl)]
    have hhand : handedAt l h'.2 = handedAt l m.cryptoHandler.2 := by
      rw [hlog]
      exact handedAt_append_of_ne _ _ fun e he heq => hl ((hlev e he).symm.trans heq)
    refine ⟨fun str hs => ?_, fun hs => ?_, fun data hd => ?_⟩
    · rw [hother] at hs
      simpa only [hhand] using hi.stream str hs
    · rw [hother] at hs
      simpa only [hhand] using hi.none_handed hs
    · change (l, data, true) ∈ h'.2 at hd
      rw [hother]
      rw [hlog, List.mem_append] at hd
      rcases hd with hd | hd
      · exact hi.finished data hd
      · exact absurd (hlev _ hd).symm hl

/-- **A run keeps the invariant of a level** whose frames are slices of what the
peer wrote there. -/
theorem run_receivesAt {S : Bytes} {l : EncryptionLevel} {calls : List (CryptoFrame × EncryptionLevel)}
    (hc : ∀ f, (f, l) ∈ calls → f.data <+: S.drop f.offset)
    {m m' : CryptoStreamManager (σ × List (EncryptionLevel × Bytes × Bool))} (hi : ReceivesAt S l m)
    (h : m.run (recording handleMessage) calls = .ok m') : ReceivesAt S l m' := by
  refine foldlM_induction (ReceivesAt S l) ?_ hi h
  intro m₁ c m₂ hc' hi₁ hstep
  obtain ⟨⟨b, m₃⟩, h₃, hstep⟩ := bind_eq_ok.1 hstep
  cases hstep
  exact hi₁.handleCryptoFrame handleMessage (fun hl => hc c.1 (hl ▸ hc')) h₃

/-- At a level, the messages handed to the TLS side are the first messages the
peer wrote there. -/
theorem ReceivesAt.prefix_messages {sends : List CryptoSenderCall} {l : EncryptionLevel}
    {m : CryptoStreamManager (σ × List (EncryptionLevel × Bytes × Bool))}
    (hwritten : ∀ p, .write p ∈ sends → CryptoStream.HandshakeMessage p)
    (hi : ReceivesAt (sends.map CryptoSenderCall.written).flatten l m) :
    handedAt l m.cryptoHandler.2 <+: sends.filterMap CryptoSenderCall.message := by
  cases hs : m.stream l with
  | none =>
    rw [hi.none_handed hs]
    exact List.nil_prefix
  | some str => exact (hi.stream str hs).prefix_messages hwritten

end CryptoStreamManager

/-- **The manager delivers the handshake messages of each level in order.**  Let
the peer write handshake messages at a level and pop CRYPTO frames, and let the
manager handle CRYPTO frames, those of that level each a piece of a frame popped,
in any order, duplicated or overlapping, and those of the other levels anything,
with every call succeeding.  The messages handed to the TLS side at that level
are the first messages the peer wrote there, in order and each once; and once the
TLS side has said the level is done, the level's stream is finished. -/
theorem cryptoStreamManager_delivers_messages {σ : Type} (handleMessage : σ → Bytes → EncryptionLevel → Bool × σ)
    (h₀ : σ) {l : EncryptionLevel} {sends : List CryptoSenderCall} {sender : CryptoStream}
    {frames : List CryptoFrame} {calls : List (CryptoFrame × EncryptionLevel)}
    {m : CryptoStreamManager (σ × List (EncryptionLevel × Bytes × Bool))}
    (hwritten : ∀ p, .write p ∈ sends → CryptoStream.HandshakeMessage p)
    (hs : runCryptoSender sends = .ok (sender, frames))
    (hpieces : ∀ f, (f, l) ∈ calls → ∃ g ∈ frames, f.PieceOf g)
    (hr : (newCryptoStreamManager (h₀, [])).run (CryptoStreamManager.recording handleMessage) calls = .ok m) :
    handedAt l m.cryptoHandler.2 <+: sends.filterMap CryptoSenderCall.message ∧
      ∀ data, (l, data, true) ∈ m.cryptoHandler.2 →
        ∃ str, m.stream l = some str ∧ str.finished = true := by
  have hi := CryptoStreamManager.run_receivesAt handleMessage
    (fun f hf => CryptoFrame.PieceOf.slice_written hs (hpieces f hf)) (CryptoStreamManager.receivesAt_new _ l h₀) hr
  exact ⟨hi.prefix_messages hwritten, hi.finished⟩

/-- A message at the Initial level, after which the TLS side says the level is
done, so the stream is finished; the frame comes again and is ignored. -/
theorem cryptoStreamManager_delivers_initial :
    ∃ sender frames m,
      runCryptoSender [.write [1, 0, 0, 1, 7], .popCryptoFrame 100] = .ok (sender, frames) ∧
      (newCryptoStreamManager ((), [])).run
          (CryptoStreamManager.recording fun (h : Unit) (_ : Bytes) (_ : EncryptionLevel) => (true, h))
          [(⟨0, [1, 0, 0, 1, 7]⟩, .initial), (⟨0, [1, 0, 0, 1, 7]⟩, .initial)] = .ok m ∧
      m.cryptoHandler.2 = [(.initial, [1, 0, 0, 1, 7], true)] ∧
      (handedAt .initial m.cryptoHandler.2 <+:
          [CryptoSenderCall.write [1, 0, 0, 1, 7], .popCryptoFrame 100].filterMap CryptoSenderCall.message ∧
        ∀ data, (.initial, data, true) ∈ m.cryptoHandler.2 →
          ∃ str, m.stream .initial = some str ∧ str.finished = true) := by
  obtain ⟨sender, hs⟩ : ∃ s, runCryptoSender [.write [1, 0, 0, 1, 7], .popCryptoFrame 100] =
      .ok (s, [⟨0, [1, 0, 0, 1, 7]⟩]) := ⟨_, rfl⟩
  -- the manager is run by the kernel, through the loops that pop the sorter and the messages
  obtain ⟨m, hr, hlog⟩ := exists_ok_of_toOption_map (x := (newCryptoStreamManager ((), [])).run
      (CryptoStreamManager.recording fun (h : Unit) (_ : Bytes) (_ : EncryptionLevel) => (true, h))
      [(⟨0, [1, 0, 0, 1, 7]⟩, .initial), (⟨0, [1, 0, 0, 1, 7]⟩, .initial)])
    (f := fun m => m.cryptoHandler.2) (b := [(.initial, [1, 0, 0, 1, 7], true)]) (by decide +kernel)
  refine ⟨sender, _, m, hs, hr, hlog, cryptoStreamManager_delivers_messages _ () ?_ hs ?_ hr⟩
  · intro p hp
    simp only [List.mem_cons, CryptoSenderCall.write.injEq, reduceCtorEq, or_false, List.not_mem_nil] at hp
    subst hp
    exact ⟨by decide, rfl⟩
  · intro f hf
    simp only [List.mem_cons, Prod.mk.injEq, and_true, List.not_mem_nil, or_false, or_self] at hf
    subst hf
    exact ⟨_, List.mem_singleton_self _, le_rfl, List.prefix_refl _⟩

/-! ## The post-handshake crypto stream -/

/-- `framerI.QueueControlFrame`. -/
def Framer.queueControlFrame {τ : Type} (f : Framer τ) (frame : Frame) : Framer τ :=
  { f with controlFrames := f.controlFrames ++ [frame] }

/-- `postHandshakeCryptoStream`, with the framer it queues its frames on. -/
structure PostHandshakeCryptoStream (τ : Type) where
  cryptoStream : CryptoStream
  framer : Framer τ

/-- `newPostHandshakeCryptoStream`. -/
def newPostHandshakeCryptoStream {τ : Type} (framer : Framer τ) : PostHandshakeCryptoStream τ :=
  ⟨newCryptoStream, framer⟩

namespace PostHandshakeCryptoStream

variable {τ : Type}

/-- The loop of `Write`: while the stream has data, a frame of at most
`MaxPostHandshakeCryptoFrameSize` bytes is popped and queued on the framer.  It
ends since each frame takes at least one byte. -/
def queueFrames (s : PostHandshakeCryptoStream τ) : Except GoError (PostHandshakeCryptoStream τ) :=
  if hd : s.cryptoStream.hasData then
    match h : s.cryptoStream.popCryptoFrame MaxPostHandshakeCryptoFrameSize with
    | .ok (f, str) =>
      have _ : str.writeBuf.length < s.cryptoStream.writeBuf.length :=
        CryptoStream.popCryptoFrame_length_lt (by decide) hd h
      queueFrames ⟨str, s.framer.queueControlFrame (.crypto f)⟩
    | .error e => .error e
  else .ok s
termination_by s.cryptoStream.writeBuf.length

/-- `Write`: the bytes written, all of them, and the stream after. -/
def write (s : PostHandshakeCryptoStream τ) (p : Bytes) : Except GoError (Nat × PostHandshakeCryptoStream τ) := do
  let (n, str) := s.cryptoStream.write p
  return (n, ← queueFrames { s with cryptoStream := str })

/-- Messages written one after the other. -/
def runWrites (s : PostHandshakeCryptoStream τ) (ps : List Bytes) : Except GoError (PostHandshakeCryptoStream τ) :=
  ps.foldlM (fun s p => do return (← s.write p).2) s

/-- The post-handshake stream `s` is the sending side `acc.1` that popped the
frames `acc.2`, all queued on the framer `F`, in order. -/
def Queued (F : Framer τ) (s : PostHandshakeCryptoStream τ) (acc : CryptoStream × List CryptoFrame) : Prop :=
  s.cryptoStream = acc.1 ∧ s.framer = { F with controlFrames := F.controlFrames ++ acc.2.map .crypto }

theorem queued_new (F : Framer τ) : Queued F (newPostHandshakeCryptoStream F) (newCryptoStream, []) :=
  ⟨rfl, by simp [newPostHandshakeCryptoStream]⟩

/-- **The write loop pops the buffer empty**, as many `PopCryptoFrame`s for
`MaxPostHandshakeCryptoFrameSize` bytes as it takes, and queues the frames in the
order popped. -/
theorem queueFrames_queued {F : Framer τ} {s s' : PostHandshakeCryptoStream τ}
    {acc : CryptoStream × List CryptoFrame} (hq : Queued F s acc) (h : s.queueFrames = .ok s') :
    ∃ k acc', (List.replicate k (CryptoSenderCall.popCryptoFrame MaxPostHandshakeCryptoFrameSize)).foldlM
        (fun acc c => c.apply acc) acc = .ok acc' ∧ Queued F s' acc' ∧ s'.cryptoStream.writeBuf = [] := by
  fun_induction queueFrames s generalizing acc with
  | case1 s hd f str hpop _ ih =>
    obtain ⟨hs, hF⟩ := hq
    have hq' : Queued F ⟨str, s.framer.queueControlFrame (.crypto f)⟩ (str, acc.2 ++ [f]) :=
      ⟨rfl, by simp [hF, Framer.queueControlFrame]⟩
    obtain ⟨k, acc', hrun, hq'', hempty⟩ := ih hq' h
    refine ⟨k + 1, acc', ?_, hq'', hempty⟩
    obtain ⟨str₀, frames⟩ := acc
    subst hs
    simp only [List.replicate_succ, List.foldlM_cons, CryptoSenderCall.apply, hpop, ok_bind, pure_eq_ok]
    exact hrun
  | case2 s hd e hpop => cases h
  | case3 s hd =>
    cases h
    refine ⟨0, acc, rfl, hq, ?_⟩
    simpa [CryptoStream.hasData] using hd

/-- A `Write` is a `Write` of the sending side followed by the pops of the loop,
which empty the buffer. -/
theorem write_queued {F : Framer τ} {s s' : PostHandshakeCryptoStream τ} {acc : CryptoStream × List CryptoFrame}
    {p : Bytes} {n : Nat} (hq : Queued F s acc) (h : s.write p = .ok (n, s')) :
    ∃ k acc', (.write p :: List.replicate k (.popCryptoFrame MaxPostHandshakeCryptoFrameSize)).foldlM
        (fun acc c => CryptoSenderCall.apply c acc) acc = .ok acc' ∧ Queued F s' acc' ∧
      s'.cryptoStream.writeBuf = [] := by
  obtain ⟨s₁, h₁, h⟩ := bind_eq_ok.1 h
  cases h
  have hq₁ : Queued F { s with cryptoStream := (s.cryptoStream.write p).2 } ((acc.1.write p).2, acc.2) :=
    ⟨by rw [hq.1], hq.2⟩
  obtain ⟨k, acc', hrun, hq', hempty⟩ := queueFrames_queued hq₁ h₁
  exact ⟨k, acc', by simpa only [List.foldlM_cons, CryptoSenderCall.apply, ok_bind] using hrun, hq', hempty⟩

theorem filterMap_message_pops (k maxLen : Nat) :
    (List.replicate k (CryptoSenderCall.popCryptoFrame maxLen)).filterMap CryptoSenderCall.message = [] := by
  induction k with
  | zero => rfl
  | succ k ih => simp only [List.replicate_succ, List.filterMap_cons, CryptoSenderCall.message, ih]

/-- **A run of writes on the post-handshake stream queues what the sending side
pops**, for a run of the sending side that writes the same messages, and leaves
nothing unqueued. -/
theorem runWrites_queued {F : Framer τ} :
    ∀ {ps : List Bytes} {s s' : PostHandshakeCryptoStream τ} {acc : CryptoStream × List CryptoFrame},
      Queued F s acc → s.cryptoStream.writeBuf = [] → s.runWrites ps = .ok s' →
      ∃ (sends : List CryptoSenderCall) (acc' : CryptoStream × List CryptoFrame),
        sends.filterMap CryptoSenderCall.message = ps ∧
        sends.foldlM (fun acc c => c.apply acc) acc = .ok acc' ∧ Queued F s' acc' ∧
        s'.cryptoStream.writeBuf = []
  | [], _, _, acc, hq, hempty, h => by
    cases h
    exact ⟨[], acc, rfl, rfl, hq, hempty⟩
  | p :: ps, s, s', acc, hq, _, h => by
    rw [runWrites, List.foldlM_cons] at h
    obtain ⟨s₁, h₁, h⟩ := bind_eq_ok.1 h
    obtain ⟨⟨n, s₂⟩, h₂, h₁⟩ := bind_eq_ok.1 h₁
    cases h₁
    obtain ⟨k, acc₁, hrun₁, hq₁, hempty₁⟩ := write_queued hq h₂
    obtain ⟨sends, acc', hmsg, hrun, hq', hempty'⟩ := runWrites_queued hq₁ hempty₁ h
    refine ⟨(.write p :: List.replicate k (.popCryptoFrame MaxPostHandshakeCryptoFrameSize)) ++ sends, acc', ?_, ?_,
      hq', hempty'⟩
    · simp only [List.filterMap_append, List.filterMap_cons, CryptoSenderCall.message, filterMap_message_pops,
        List.singleton_append, hmsg]
    · rw [List.foldlM_append, hrun₁, ok_bind]
      exact hrun

end PostHandshakeCryptoStream

/-- **Post-handshake messages reach the peer's TLS side in order.**  Let one side
write handshake messages on its post-handshake stream.  The writes queue on its
framer, after what it held, exactly the CRYPTO frames that a run of the sending
side writing the same messages pops, and leave no byte unqueued.  Let the peer's
manager handle 1-RTT CRYPTO frames that are pieces of frames so queued, in any
order (the framer sends its control frames last queued first), duplicated or
overlapping, with frames of the other levels anything and every call succeeding.
The 1-RTT messages handed to the peer's TLS side are the first messages written,
in order and each once. -/
theorem postHandshake_delivers_messages {σ τ : Type} (handleMessage : σ → Bytes → EncryptionLevel → Bool × σ)
    (h₀ : σ) {F : Framer τ} {ps : List Bytes} {s : PostHandshakeCryptoStream τ}
    {calls : List (CryptoFrame × EncryptionLevel)}
    {m : CryptoStreamManager (σ × List (EncryptionLevel × Bytes × Bool))}
    (hps : ∀ p ∈ ps, CryptoStream.HandshakeMessage p)
    (hw : (newPostHandshakeCryptoStream F).runWrites ps = .ok s)
    (hpieces : ∀ f, (f, .oneRTT) ∈ calls →
      ∃ g, Frame.crypto g ∈ s.framer.controlFrames.drop F.controlFrames.length ∧ f.PieceOf g)
    (hr : (newCryptoStreamManager (h₀, [])).run (CryptoStreamManager.recording handleMessage) calls = .ok m) :
    (∃ sends sender frames, sends.filterMap CryptoSenderCall.message = ps ∧
        runCryptoSender sends = .ok (sender, frames) ∧ sender.writeBuf = [] ∧
        s.cryptoStream = sender ∧
        s.framer = { F with controlFrames := F.controlFrames ++ frames.map .crypto }) ∧
      handedAt .oneRTT m.cryptoHandler.2 <+: ps := by
  obtain ⟨sends, ⟨sender, frames⟩, hmsg, hrun, ⟨hs, hF⟩, hempty⟩ :=
    PostHandshakeCryptoStream.runWrites_queued (PostHandshakeCryptoStream.queued_new F) rfl hw
  replace hs : s.cryptoStream = sender := hs
  have hqueued : s.framer.controlFrames.drop F.controlFrames.length = frames.map .crypto := by
    rw [hF]
    exact List.drop_left
  have hpieces' : ∀ f, (f, .oneRTT) ∈ calls → ∃ g ∈ frames, f.PieceOf g := by
    intro f hf
    obtain ⟨g, hg, hfg⟩ := hpieces f hf
    rw [hqueued, List.mem_map] at hg
    obtain ⟨g', hg', hgg⟩ := hg
    rw [Frame.crypto.injEq] at hgg
    subst hgg
    exact ⟨_, hg', hfg⟩
  have hwritten : ∀ p, .write p ∈ sends → CryptoStream.HandshakeMessage p := fun p hp =>
    hps p (hmsg ▸ List.mem_filterMap.2 ⟨_, hp, rfl⟩)
  have hi := CryptoStreamManager.run_receivesAt handleMessage
    (fun f hf => CryptoFrame.PieceOf.slice_written hrun (hpieces' f hf))
    (CryptoStreamManager.receivesAt_new _ .oneRTT h₀) hr
  exact ⟨⟨sends, sender, frames, hmsg, hrun, hs ▸ hempty, hs, hF⟩, hmsg ▸ hi.prefix_messages hwritten⟩

/-- Two messages written after the handshake are queued as two frames, which the
peer gets last queued first; its TLS side is handed both, in the order written. -/
theorem postHandshake_delivers_two_messages :
    ∃ s m, (newPostHandshakeCryptoStream (⟨(), [], [], []⟩ : Framer Unit)).runWrites
        [[1, 0, 0, 1, 7], [2, 0, 0, 0]] = .ok s ∧
      s.framer.controlFrames = [.crypto ⟨0, [1, 0, 0, 1, 7]⟩, .crypto ⟨5, [2, 0, 0, 0]⟩] ∧
      (newCryptoStreamManager ((), [])).run
          (CryptoStreamManager.recording fun (h : Unit) (_ : Bytes) (_ : EncryptionLevel) => (false, h))
          [(⟨5, [2, 0, 0, 0]⟩, .oneRTT), (⟨0, [1, 0, 0, 1, 7]⟩, .oneRTT)] = .ok m ∧
      handedAt .oneRTT m.cryptoHandler.2 = [[1, 0, 0, 1, 7], [2, 0, 0, 0]] ∧
      ((∃ sends sender frames,
          sends.filterMap CryptoSenderCall.message = [[1, 0, 0, 1, 7], [2, 0, 0, 0]] ∧
          runCryptoSender sends = .ok (sender, frames) ∧ sender.writeBuf = [] ∧
          s.cryptoStream = sender ∧ s.framer = ⟨(), [], [], frames.map .crypto⟩) ∧
        handedAt .oneRTT m.cryptoHandler.2 <+: [[1, 0, 0, 1, 7], [2, 0, 0, 0]]) := by
  obtain ⟨s, hw, hframes⟩ := exists_ok_of_toOption_map (x := (newPostHandshakeCryptoStream
      (⟨(), [], [], []⟩ : Framer Unit)).runWrites [[1, 0, 0, 1, 7], [2, 0, 0, 0]])
    (f := fun s => s.framer.controlFrames) (b := [.crypto ⟨0, [1, 0, 0, 1, 7]⟩, .crypto ⟨5, [2, 0, 0, 0]⟩])
    (by decide +kernel)
  obtain ⟨m, hr, hlog⟩ := exists_ok_of_toOption_map (x := (newCryptoStreamManager ((), [])).run
      (CryptoStreamManager.recording fun (h : Unit) (_ : Bytes) (_ : EncryptionLevel) => (false, h))
      [(⟨5, [2, 0, 0, 0]⟩, .oneRTT), (⟨0, [1, 0, 0, 1, 7]⟩, .oneRTT)])
    (f := fun m => handedAt .oneRTT m.cryptoHandler.2) (b := [[1, 0, 0, 1, 7], [2, 0, 0, 0]])
    (by decide +kernel)
  refine ⟨s, m, hw, hframes, hr, hlog, postHandshake_delivers_messages _ () ?_ hw ?_ hr⟩
  · intro p hp
    simp only [List.mem_cons, List.not_mem_nil, or_false] at hp
    rcases hp with rfl | rfl <;> exact ⟨by decide, rfl⟩
  · intro f hf
    simp only [List.mem_cons, Prod.mk.injEq, and_true, List.not_mem_nil, or_false] at hf
    rw [hframes, List.length_nil, List.drop_zero]
    rcases hf with rfl | rfl
    · exact ⟨_, List.mem_cons_of_mem _ (List.mem_singleton_self _), le_rfl, List.prefix_refl _⟩
    · exact ⟨_, List.mem_cons_self, le_rfl, List.prefix_refl _⟩

end QuicFec
