import QuicFec.Utils
import QuicFec.Lib.GoMap

/-! # Reading the body of an HTTP/3 message

`http3/body.go` and `http3/frames.go`.  A body reads the DATA frames of a request
or response stream.  `Read` looks for the next DATA frame once the current one is
read, skipping HEADERS frames, and then reads from the stream at most what is left
of the frame.  `parseNextFrame` reads a frame's type and length, both varints; it
skips a frame of a type it does not know, payload and all, but returns a DATA or
HEADERS frame right after its length, with the payload still in the stream.  So
`Read` skips the header of a HEADERS frame and goes on to read its payload as
frames.

The stream is a `bytes.Buffer` holding what the sender wrote, as in the tests: its
`Read` returns as many bytes as it holds, up to the size of the buffer, and
`io.EOF` once it is empty.  Both loops, over unknown frames in `parseNextFrame` and
over HEADERS frames in `Read`, go on from a shorter stream, which is what their
recursion is on.

Main results:

* `Body.readAll_at` and `Body.readAll_eof`: on a stream whose HEADERS frames have no
  payload, every run of `Read` calls returns a prefix of the DATA payloads, reports
  no error but `io.EOF`, that only after all of them, and reaches it.
* `parseLoop_headers`: a HEADERS frame's payload is read as frames.
* `readAll_headers_payload`: a HEADERS payload that reads as the header of a DATA
  frame.
-/

namespace QuicFec
open GoBytes

namespace Http3

/-! ## Parsing frames -/

/-- The frames `parseNextFrame` returns: `*dataFrame`, `*headersFrame` and
`*settingsFrame`, a `map[uint64]uint64`. -/
inductive Frame where
  | dataFrame (Length : Nat)
  | headersFrame (Length : Nat)
  | settingsFrame (settings : GoMap Nat Nat)

/-- The loop of `parseSettingsFrame` over the bytes of the frame. -/
def readSettings (settings : GoMap Nat Nat) (b : Bytes) : Except GoError (GoMap Nat Nat) :=
  if b.length = 0 then .ok settings
  else match hid : readVarInt b with
    | .error err => .error err
    | .ok (id, b1) =>
      match hval : readVarInt b1 with
      | .error err => .error err
      | .ok (val, b2) =>
        have _ : b2.length < b.length :=
          Nat.lt_trans (readVarInt_length_lt hval) (readVarInt_length_lt hid)
        if (settings.get? id).isSome then .error (.error ("duplicate setting: " ++ toString id))
        else readSettings (settings.insert id val) b2
termination_by b.length

/-- `parseSettingsFrame`. -/
def parseSettingsFrame (r : Bytes) (l : Nat) : Except GoError (Frame × Bytes) :=
  if l > 8 * (1 <<< 10) then .error (.error ("unexpected size for SETTINGS frame: " ++ toString l))
  else match readFull l r with
    | .error .unexpectedEOF => .error .eof
    | .error err => .error err
    | .ok (buf, r) => do
      let settings ← readSettings GoMap.empty buf
      return (.settingsFrame settings, r)

theorem parseSettingsFrame_length_le {r r' : Bytes} {l : Nat} {f : Frame}
    (h : parseSettingsFrame r l = .ok (f, r')) : r'.length ≤ r.length := by
  unfold parseSettingsFrame at h
  split at h
  · cases h
  split at h
  · cases h
  · cases h
  case _ buf rest hread =>
    obtain ⟨s, -, h⟩ := bind_eq_ok.1 h
    cases h
    unfold readFull at hread
    split at hread
    · cases hread
      simp
    · split at hread <;> cases hread

/-- `parseNextFrame`: the type and the length, then the frame; a frame of another
type is skipped. -/
def parseNextFrame (b : Bytes) : Except GoError (Frame × Bytes) :=
  match ht : readVarInt b with
  | .error err => .error err
  | .ok (t, b1) =>
    match hl : readVarInt b1 with
    | .error err => .error err
    | .ok (l, b2) =>
      if t = 0x0 then .ok (.dataFrame l, b2)
      else if t = 0x1 then .ok (.headersFrame l, b2)
      else if t = 0x4 then parseSettingsFrame b2 l
      -- skip over unknown frames
      else match hd : discardN l b2 with
        | .error err => .error err
        | .ok b3 =>
          have _ : b3.length < b.length := by
            have := discardN_length hd
            have := readVarInt_length_lt hl
            have := readVarInt_length_lt ht
            omega
          parseNextFrame b3
termination_by b.length


/-- A frame is parsed off the front of the stream. -/
theorem parseNextFrame_length_lt {b b' : Bytes} {f : Frame} (h : parseNextFrame b = .ok (f, b')) :
    b'.length < b.length := by
  unfold parseNextFrame at h
  split at h
  · cases h
  case _ t b1 ht =>
    split at h
    · cases h
    case _ l b2 hl =>
      have h1 := readVarInt_length_lt ht
      have h2 := readVarInt_length_lt hl
      split at h
      · cases h; omega
      split at h
      · cases h; omega
      split at h
      · have := parseSettingsFrame_length_le h; omega
      split at h
      · cases h
      case _ b3 hd =>
        have hlt : b3.length < b.length := by
          have := discardN_length hd
          omega
        have := parseNextFrame_length_lt h
        omega
termination_by b.length
decreasing_by exact hlt


/-! ## The body -/

/-- The loop of `body.Read` that looks for the next DATA frame: it skips HEADERS
frames, and takes any other frame for an error. -/
def parseLoop (str : Bytes) : Except GoError (Nat × Bytes) :=
  match h : parseNextFrame str with
  | .error err => .error err
  | .ok (.headersFrame _, str') =>
    have _ := parseNextFrame_length_lt h
    -- skip HEADERS frames
    parseLoop str'
  | .ok (.dataFrame Length, str') => .ok (Length, str')
  | .ok (.settingsFrame _, _) => .error (.error "unexpected frame")
termination_by str.length

/-- `body`: the stream, as the bytes it still holds, and the bytes of the current
DATA frame not yet read. -/
structure Body where
  str : Bytes
  bytesRemainingInFrame : Nat := 0

/-- `newRequestBody` and `newResponseBody`. -/
def newBody (str : Bytes) : Body := { str }

namespace Body

/-- `Read` into a buffer of `n` bytes: the bytes read, or the error.  A new DATA
frame is looked for once the current one is read. -/
def Read (r : Body) (n : Nat) : Body × Except GoError Bytes :=
  match (if r.bytesRemainingInFrame = 0 then parseLoop r.str
      else .ok (r.bytesRemainingInFrame, r.str)) with
  | .error err => (r, .error err)
  | .ok (bytesRemainingInFrame, str) =>
    let m := if bytesRemainingInFrame < n then bytesRemainingInFrame else n
    match bufferRead m str with
    | .error err => ({ str, bytesRemainingInFrame }, .error err)
    | .ok (bs, str) => ({ str, bytesRemainingInFrame := bytesRemainingInFrame - bs.length }, .ok bs)

/-- `Read` called with the buffer sizes `ns` in turn, up to the first error: the
bytes the calls returned, and the error. -/
def readAll : Body → List Nat → Bytes × Option GoError
  | _, [] => ([], none)
  | r, n :: ns =>
    match r.Read n with
    | (_, .error err) => ([], some err)
    | (r, .ok bs) => ((bs ++ (readAll r ns).1), (readAll r ns).2)

end Body


/-! ## Writing frames -/

/-- The frame header the `Write` methods of `dataFrame` and `headersFrame` write:
the type and the length, as varints. -/
def writeFrameHeader (type Length : Nat) : Except GoError Bytes := do
  return (← writeVarInt type) ++ (← writeVarInt Length)

/-- `dataFrame.Write`. -/
def dataFrame.Write (Length : Nat) : Except GoError Bytes := writeFrameHeader 0x0 Length

/-- `headersFrame.Write`. -/
def headersFrame.Write (Length : Nat) : Except GoError Bytes := writeFrameHeader 0x1 Length

theorem writeFrameHeader_eq {type Length : Nat} (ht : type ≤ maxVarInt8) (hl : Length ≤ maxVarInt8) :
    writeFrameHeader type Length = .ok (varIntBytes type ++ varIntBytes Length) := by
  simp [writeFrameHeader, ht, hl]

/-- A frame as a sender writes it on the stream, with its payload: DATA, HEADERS,
or a frame of another type. -/
inductive SentFrame where
  | data (payload : Bytes)
  | headers (payload : Bytes)
  | other (type : Nat) (payload : Bytes)

namespace SentFrame

def type : SentFrame → Nat
  | data _ => 0x0
  | headers _ => 0x1
  | other t _ => t

def payload : SentFrame → Bytes
  | data p => p
  | headers p => p
  | other _ p => p

/-- The frame on the stream: the header its `Write` writes, then the payload. -/
def bytes (f : SentFrame) : Bytes := varIntBytes f.type ++ varIntBytes f.payload.length ++ f.payload

/-- What the frame adds to the body: the payload of a DATA frame. -/
def body : SentFrame → Bytes
  | data p => p
  | _ => []

/-- A frame a sender can write, of a type the receiver does not reject: the
varints fit, and a frame of another type is neither DATA, HEADERS nor SETTINGS. -/
def Valid : SentFrame → Prop
  | data p => p.length ≤ maxVarInt8
  | headers p => p.length ≤ maxVarInt8
  | other t p => t ≤ maxVarInt8 ∧ t ≠ 0x0 ∧ t ≠ 0x1 ∧ t ≠ 0x4 ∧ p.length ≤ maxVarInt8

instance (f : SentFrame) : Decidable f.Valid := by
  cases f <;> unfold Valid <;> infer_instance

/-- A DATA frame on the stream is what `dataFrame.Write` writes, then the payload. -/
theorem bytes_data {p : Bytes} (hp : p.length ≤ maxVarInt8) :
    ∃ w, dataFrame.Write p.length = .ok w ∧ (data p).bytes = w ++ p :=
  ⟨_, writeFrameHeader_eq (by decide) hp, rfl⟩

/-- A HEADERS frame on the stream is what `headersFrame.Write` writes, then the
payload. -/
theorem bytes_headers {p : Bytes} (hp : p.length ≤ maxVarInt8) :
    ∃ w, headersFrame.Write p.length = .ok w ∧ (headers p).bytes = w ++ p :=
  ⟨_, writeFrameHeader_eq (by decide) hp, rfl⟩

end SentFrame

/-- The stream a sender writes. -/
def streamOf (fs : List SentFrame) : Bytes := fs.flatMap SentFrame.bytes

/-- The body a sender sends: the DATA frames' payloads, in order. -/
def bodyOf (fs : List SentFrame) : Bytes := fs.flatMap SentFrame.body

@[simp] theorem streamOf_cons (f : SentFrame) (fs : List SentFrame) :
    streamOf (f :: fs) = f.bytes ++ streamOf fs := List.flatMap_cons

@[simp] theorem bodyOf_cons (f : SentFrame) (fs : List SentFrame) :
    bodyOf (f :: fs) = f.body ++ bodyOf fs := List.flatMap_cons

@[simp] theorem bodyOf_append (fs fs' : List SentFrame) : bodyOf (fs ++ fs') = bodyOf fs ++ bodyOf fs' :=
  List.flatMap_append


/-! ## Reading the frames back -/

/-- `parseNextFrame` once the type and the length are read. -/
theorem parseNextFrame_eq {b b1 b2 : Bytes} {t l : Nat} (ht : readVarInt b = .ok (t, b1))
    (hl : readVarInt b1 = .ok (l, b2)) :
    parseNextFrame b =
      if t = 0x0 then .ok (.dataFrame l, b2)
      else if t = 0x1 then .ok (.headersFrame l, b2)
      else if t = 0x4 then parseSettingsFrame b2 l
      else discardN l b2 >>= parseNextFrame := by
  rw [parseNextFrame]
  split
  · next heq => rw [ht] at heq; cases heq
  next t' b1' heq =>
    rw [ht] at heq
    cases heq
    split
    · next heq => rw [hl] at heq; cases heq
    next l' b2' heq =>
      rw [hl] at heq
      cases heq
      split_ifs
      · rfl
      · rfl
      · rfl
      · -- the skip: the match on `discardN` is a bind
        split <;> next heq => (conv_rhs => rw [heq]); rfl

/-- `parseNextFrame` fails where the length does not read. -/
theorem parseNextFrame_of_length_error {b b1 : Bytes} {t : Nat} {err : GoError}
    (ht : readVarInt b = .ok (t, b1)) (hl : readVarInt b1 = .error err) :
    parseNextFrame b = .error err := by
  rw [parseNextFrame]
  split
  · next heq => rw [ht] at heq; cases heq
  next t' b1' heq =>
    rw [ht] at heq
    cases heq
    split
    · next heq => rw [hl] at heq; cases heq; rfl
    · next heq => rw [hl] at heq; cases heq

/-- `parseLoop` once the next frame is read. -/
theorem parseLoop_eq {str str' : Bytes} {f : Frame} (h : parseNextFrame str = .ok (f, str')) :
    parseLoop str = match f with
      | .headersFrame _ => parseLoop str'
      | .dataFrame Length => .ok (Length, str')
      | .settingsFrame _ => .error (.error "unexpected frame") := by
  rw [parseLoop]
  split
  · next heq => rw [h] at heq; cases heq
  all_goals next heq => rw [h] at heq; cases heq; rfl

theorem parseLoop_of_error {str : Bytes} {err : GoError} (h : parseNextFrame str = .error err) :
    parseLoop str = .error err := by
  rw [parseLoop]
  split
  · next heq => rw [h] at heq; cases heq; rfl
  all_goals next heq => rw [h] at heq; cases heq


/-- `parseLoop` moves on in the stream. -/
theorem parseLoop_length_lt {str str' : Bytes} {Length : Nat} (h : parseLoop str = .ok (Length, str')) :
    str'.length < str.length := by
  rcases hn : parseNextFrame str with err | ⟨f, str1⟩
  · rw [parseLoop_of_error hn] at h
    cases h
  · have hlt := parseNextFrame_length_lt hn
    rw [parseLoop_eq hn] at h
    cases f with
    | headersFrame _ =>
      have := parseLoop_length_lt h
      omega
    | dataFrame _ =>
      cases h
      exact hlt
    | settingsFrame _ => cases h
termination_by str.length
decreasing_by exact hlt

theorem parseNextFrame_nil : parseNextFrame [] = .error .eof := by
  rw [parseNextFrame]
  split
  · next heq => cases heq; rfl
  · next heq => cases heq

/-- `parseNextFrame` over a frame a sender wrote, whose varints fit. -/
theorem parseNextFrame_bytes (f : SentFrame) (s : Bytes) (ht : f.type ≤ maxVarInt8)
    (hl : f.payload.length ≤ maxVarInt8) :
    parseNextFrame (f.bytes ++ s) =
      if f.type = 0x0 then .ok (.dataFrame f.payload.length, f.payload ++ s)
      else if f.type = 0x1 then .ok (.headersFrame f.payload.length, f.payload ++ s)
      else if f.type = 0x4 then parseSettingsFrame (f.payload ++ s) f.payload.length
      else discardN f.payload.length (f.payload ++ s) >>= parseNextFrame := by
  have htype : readVarInt (f.bytes ++ s) =
      .ok (f.type, varIntBytes f.payload.length ++ (f.payload ++ s)) := by
    simp only [SentFrame.bytes, List.append_assoc]
    exact readVarInt_varIntBytes ht _
  exact parseNextFrame_eq htype (readVarInt_varIntBytes hl _)

theorem parseNextFrame_data {p : Bytes} (s : Bytes) (hp : p.length ≤ maxVarInt8) :
    parseNextFrame ((SentFrame.data p).bytes ++ s) = .ok (.dataFrame p.length, p ++ s) := by
  rw [parseNextFrame_bytes (.data p) s (show 0 ≤ maxVarInt8 by decide) hp]
  rfl

theorem parseNextFrame_headers {p : Bytes} (s : Bytes) (hp : p.length ≤ maxVarInt8) :
    parseNextFrame ((SentFrame.headers p).bytes ++ s) = .ok (.headersFrame p.length, p ++ s) := by
  rw [parseNextFrame_bytes (.headers p) s (show 1 ≤ maxVarInt8 by decide) hp]
  rfl

/-- A frame of another type is skipped, payload and all. -/
theorem parseNextFrame_other {t : Nat} {p : Bytes} (s : Bytes) (hv : (SentFrame.other t p).Valid) :
    parseNextFrame ((SentFrame.other t p).bytes ++ s) = parseNextFrame s := by
  obtain ⟨ht, h0, h1, h4, hp⟩ := hv
  have hskip : discardN p.length (p ++ s) = .ok s := by simp [discardN]
  rw [parseNextFrame_bytes (.other t p) s ht hp]
  simp only [SentFrame.type, SentFrame.payload, h0, h1, h4, if_false, hskip, ok_bind]

/-- `parseLoop` only looks at the frame `parseNextFrame` reads. -/
theorem parseLoop_congr {a b : Bytes} (h : parseNextFrame a = parseNextFrame b) :
    parseLoop a = parseLoop b := by
  rcases hb : parseNextFrame b with err | ⟨f, str'⟩
  · rw [parseLoop_of_error (h.trans hb), parseLoop_of_error hb]
  · -- the two sides differ only in the proof the match carries
    rw [parseLoop_eq (h.trans hb), parseLoop_eq hb]
    cases f <;> rfl

theorem parseLoop_nil : parseLoop [] = .error .eof := parseLoop_of_error parseNextFrame_nil

theorem parseLoop_data {p : Bytes} (s : Bytes) (hp : p.length ≤ maxVarInt8) :
    parseLoop ((SentFrame.data p).bytes ++ s) = .ok (p.length, p ++ s) := by
  rw [parseLoop_eq (parseNextFrame_data s hp)]

/-- **A HEADERS frame's payload is read as frames**: `Read` skips the frame's
header only. -/
theorem parseLoop_headers {p : Bytes} (s : Bytes) (hp : p.length ≤ maxVarInt8) :
    parseLoop ((SentFrame.headers p).bytes ++ s) = parseLoop (p ++ s) := by
  rw [parseLoop_eq (parseNextFrame_headers s hp)]

theorem parseLoop_other {t : Nat} {p : Bytes} (s : Bytes) (hv : (SentFrame.other t p).Valid) :
    parseLoop ((SentFrame.other t p).bytes ++ s) = parseLoop s :=
  parseLoop_congr (parseNextFrame_other s hv)


/-! ## Reading the body -/

/-- The frames of a stream `Read` reads right: frames a sender can write, whose
HEADERS frames have no payload. -/
structure Readable (fs : List SentFrame) : Prop where
  valid : ∀ f ∈ fs, f.Valid
  headers_empty : ∀ p, .headers p ∈ fs → p = []

theorem Readable.of_suffix {fs fs' : List SentFrame} (h : Readable fs) (hs : fs' <:+ fs) :
    Readable fs' :=
  ⟨fun f hf => h.valid f (hs.subset hf), fun p hp => h.headers_empty p (hs.subset hp)⟩

theorem Readable.tail {f : SentFrame} {fs : List SentFrame} (h : Readable (f :: fs)) : Readable fs :=
  h.of_suffix (List.suffix_cons f fs)

/-- On such a stream `parseLoop` finds the first DATA frame, past frames that add
nothing to the body, or runs into the end of the stream when there is none. -/
theorem parseLoop_streamOf {fs : List SentFrame} (h : Readable fs) :
    (∃ pre p post, fs = pre ++ .data p :: post ∧ bodyOf pre = [] ∧
        parseLoop (streamOf fs) = .ok (p.length, p ++ streamOf post)) ∨
      (bodyOf fs = [] ∧ parseLoop (streamOf fs) = .error .eof) := by
  induction fs with
  | nil => exact .inr ⟨rfl, parseLoop_nil⟩
  | cons f fs ih =>
    have hf := h.valid f List.mem_cons_self
    have hskip : parseLoop (streamOf (f :: fs)) = parseLoop (streamOf fs) → f.body = [] →
        (∃ pre p post, f :: fs = pre ++ .data p :: post ∧ bodyOf pre = [] ∧
          parseLoop (streamOf (f :: fs)) = .ok (p.length, p ++ streamOf post)) ∨
          (bodyOf (f :: fs) = [] ∧ parseLoop (streamOf (f :: fs)) = .error .eof) := by
      intro hloop hbody
      rw [hloop, bodyOf_cons, hbody, List.nil_append]
      rcases ih h.tail with ⟨pre, p, post, rfl, hpre, hfound⟩ | ⟨hnone, heof⟩
      · exact .inl ⟨f :: pre, p, post, rfl, by rw [bodyOf_cons, hbody, hpre]; rfl, hfound⟩
      · exact .inr ⟨hnone, heof⟩
    cases f with
    | data p => exact .inl ⟨[], p, fs, rfl, rfl, parseLoop_data _ hf⟩
    | headers p =>
      have hp := h.headers_empty p List.mem_cons_self
      subst hp
      exact hskip (parseLoop_headers _ hf) rfl
    | other t p => exact hskip (parseLoop_other _ hf) rfl


/-- Reading at most what is left of the current frame. -/
theorem bufferRead_append {m : Nat} {p s : Bytes} (hm : m ≤ p.length) :
    bufferRead m (p ++ s) = .ok (p.take m, p.drop m ++ s) := by
  unfold bufferRead
  split
  case isTrue hnil =>
    obtain ⟨rfl, rfl⟩ := List.append_eq_nil_iff.1 hnil
    simp only [List.length_nil, Nat.le_zero] at hm
    simp [hm]
  case isFalse =>
    rw [List.take_append_of_le_length hm, List.drop_append_of_le_length hm]

theorem bufferRead_eq_ok {m : Nat} {s bs s' : Bytes} (h : bufferRead m s = .ok (bs, s')) :
    bs = s.take m ∧ s' = s.drop m ∧ (s = [] → m = 0) := by
  unfold bufferRead at h
  split at h
  case isTrue hnil =>
    subst hnil
    split at h
    case isTrue hm => cases h; exact ⟨by simp, by simp, fun _ => hm⟩
    case isFalse => cases h
  case isFalse hne =>
    cases h
    exact ⟨rfl, rfl, fun hnil => absurd hnil hne⟩

namespace Body

/-- The body is in the middle of a stream a sender wrote: `pending` bytes of the
current DATA frame are left, then the frames `fs`. -/
structure At (r : Body) (pending : Bytes) (fs : List SentFrame) : Prop where
  str_eq : r.str = pending ++ streamOf fs
  remaining_eq : r.bytesRemainingInFrame = pending.length

theorem at_newBody (fs : List SentFrame) : (newBody (streamOf fs)).At [] fs := ⟨rfl, rfl⟩

/-- `Read` of a buffer of `m` bytes at most what is left of the current frame, from
a stream a sender wrote. -/
theorem Read_of_remaining {r : Body} {n m : Nat} {p s : Bytes}
    (hloop : (if r.bytesRemainingInFrame = 0 then parseLoop r.str
      else .ok (r.bytesRemainingInFrame, r.str)) = .ok (p.length, p ++ s))
    (hm : m = if p.length < n then p.length else n) :
    r.Read n = (⟨p.drop m ++ s, p.length - (p.take m).length⟩, .ok (p.take m)) := by
  have hle : m ≤ p.length := by split at hm <;> omega
  unfold Read
  rw [hloop]
  dsimp only
  rw [← hm, bufferRead_append hle]

/-- **One `Read`**: from the middle of a readable stream, `Read` returns the next
bytes of the body and stays in the middle of the stream, or reports `io.EOF`
once the body is read. -/
theorem Read_at {r : Body} {pending : Bytes} {fs : List SentFrame} (hat : r.At pending fs)
    (h : Readable fs) (n : Nat) :
    (∃ r' bs pending' fs', r.Read n = (r', .ok bs) ∧ r'.At pending' fs' ∧ fs' <:+ fs ∧
        pending ++ bodyOf fs = bs ++ (pending' ++ bodyOf fs')) ∨
      (∃ r', r.Read n = (r', .error .eof)) ∧ pending ++ bodyOf fs = [] := by
  by_cases hrem : r.bytesRemainingInFrame = 0
  case neg =>
    -- inside a DATA frame: read on in it
    have hloop : (if r.bytesRemainingInFrame = 0 then parseLoop r.str
        else .ok (r.bytesRemainingInFrame, r.str)) = .ok (pending.length, pending ++ streamOf fs) := by
      rw [if_neg hrem, hat.str_eq, hat.remaining_eq]
    refine .inl ⟨_, _, _, fs, Read_of_remaining hloop rfl, ⟨rfl, ?_⟩, List.suffix_refl fs, ?_⟩
    · simp only [List.length_drop, List.length_take]
      omega
    · rw [← List.append_assoc, List.take_append_drop]
  case pos =>
    -- between frames: `parseLoop` finds the next DATA frame
    have hpending : pending = [] := List.eq_nil_of_length_eq_zero (hat.remaining_eq ▸ hrem)
    subst hpending
    rcases parseLoop_streamOf h with ⟨pre, p, post, rfl, hpre, hfound⟩ | ⟨hnone, heof⟩
    · have hloop : (if r.bytesRemainingInFrame = 0 then parseLoop r.str
          else .ok (r.bytesRemainingInFrame, r.str)) = .ok (p.length, p ++ streamOf post) := by
        rw [if_pos hrem, hat.str_eq, List.nil_append, hfound]
      refine .inl ⟨_, _, _, post, Read_of_remaining hloop rfl, ⟨rfl, ?_⟩,
        (List.suffix_cons (SentFrame.data p) post).trans (List.suffix_append pre _), ?_⟩
      · simp only [List.length_drop, List.length_take]
        omega
      · rw [List.nil_append, bodyOf_append, hpre, bodyOf_cons, List.nil_append,
          ← List.append_assoc (p.take _), List.take_append_drop]
        rfl
    · refine .inr ⟨⟨r, ?_⟩, by rw [List.nil_append, hnone]⟩
      simp only [Read, if_pos hrem, hat.str_eq, List.nil_append, heof]

theorem Read_of_parseLoop_error {r : Body} {n : Nat} {err : GoError} (hrem : r.bytesRemainingInFrame = 0)
    (hloop : parseLoop r.str = .error err) : r.Read n = (r, .error err) := by
  simp only [Read, hrem, if_true, hloop]

/-- **Every run of `Read` calls** from the middle of a readable stream returns a
prefix of the rest of the body, and reports no error but `io.EOF`, and that only
after all of it. -/
theorem readAll_at {r : Body} {pending : Bytes} {fs : List SentFrame} (hat : r.At pending fs)
    (h : Readable fs) (ns : List Nat) :
    (r.readAll ns).1 <+: pending ++ bodyOf fs ∧
      ∀ err, (r.readAll ns).2 = some err → err = .eof ∧ (r.readAll ns).1 = pending ++ bodyOf fs := by
  induction ns generalizing r pending fs with
  | nil =>
    refine ⟨?_, fun _ hnone => by cases hnone⟩
    exact List.nil_prefix
  | cons n ns ih =>
    rcases Read_at hat h n with ⟨r', bs, pending', fs', hread, hat', hsuffix, hbody⟩ | ⟨⟨r', heof⟩, hnone⟩
    · obtain ⟨hstart, hend⟩ := ih hat' (h.of_suffix hsuffix)
      simp only [readAll, hread]
      rw [hbody]
      have hhead := List.prefix_append_right_inj bs |>.2 hstart
      refine ⟨hhead, fun err herr => ?_⟩
      obtain ⟨rfl, hall⟩ := hend err herr
      exact ⟨rfl, by rw [hall]⟩
    · simp only [readAll, heof, hnone]
      refine ⟨?_, fun err herr => ⟨(Option.some.inj herr).symm, trivial⟩⟩
      exact List.prefix_refl []

/-- `Read` into a buffer that is not empty moves on in the stream. -/
theorem Read_length_lt {r r' : Body} {n : Nat} {bs : Bytes} (hn : 0 < n) (h : r.Read n = (r', .ok bs)) :
    r'.str.length < r.str.length := by
  unfold Read at h
  split at h
  · cases h
  next Length str hloop =>
    dsimp only at h
    generalize hm : (if Length < n then Length else n) = m at h
    split at h
    · cases h
    next bs' str' hread =>
      cases h
      obtain ⟨-, rfl, hnil⟩ := bufferRead_eq_ok hread
      rw [List.length_drop]
      split at hloop
      case isTrue hrem =>
        -- a frame was parsed off the stream
        have := parseLoop_length_lt hloop
        omega
      case isFalse hrem =>
        -- inside a frame, at least one byte is read
        cases hloop
        have hpos : 0 < m := by split at hm <;> omega
        have hne : r.str ≠ [] := fun hempty => by
          have := hnil hempty
          omega
        have := List.length_pos_of_ne_nil hne
        omega

/-- Enough `Read` calls into buffers that are not empty reach `io.EOF`. -/
theorem readAll_eof {r : Body} {pending : Bytes} {fs : List SentFrame} (hat : r.At pending fs)
    (h : Readable fs) (ns : List Nat) (hpos : ∀ n ∈ ns, 0 < n) (hlen : r.str.length < ns.length) :
    (r.readAll ns).2 = some .eof := by
  induction ns generalizing r pending fs with
  | nil => simp at hlen
  | cons n ns ih =>
    rcases Read_at hat h n with ⟨r', bs, pending', fs', hread, hat', hsuffix, -⟩ | ⟨⟨r', heof⟩, -⟩
    · have hshorter := Read_length_lt (hpos n List.mem_cons_self) hread
      simp only [readAll, hread]
      exact ih hat' (h.of_suffix hsuffix) (fun m hm => hpos m (List.mem_cons_of_mem n hm))
        (by simp only [List.length_cons] at hlen; omega)
    · simp only [readAll, heof]

end Body

/-- A HEADERS frame whose payload `[0x00, 0x01]` reads as the header of a DATA frame
of one byte, then a DATA frame of the byte `0x78`: `Read` returns the first byte of
that DATA frame's header as the body, and then runs out of bytes. -/
theorem readAll_headers_payload :
    (newBody (streamOf [.headers [0x00, 0x01], .data [0x78]])).readAll [1, 1] = ([0x00], some .eof) := by
  -- the payload of the HEADERS frame and what follows it read as a DATA frame of one byte
  have hpayload : [0x00, 0x01] ++ (SentFrame.data [0x78]).bytes = (SentFrame.data [0x00]).bytes ++ [0x01, 0x78] := by
    decide
  have hfirst : parseLoop (streamOf [.headers [0x00, 0x01], .data [0x78]]) = .ok ([0x00].length, [0x00] ++ [0x01, 0x78]) := by
    rw [streamOf_cons, streamOf_cons, streamOf, List.flatMap_nil, List.append_nil,
      parseLoop_headers _ (by decide), hpayload, parseLoop_data _ (by decide)]
    rfl
  have hread1 : (newBody (streamOf [.headers [0x00, 0x01], .data [0x78]])).Read 1 =
      (⟨[0x01, 0x78], 0⟩, .ok [0x00]) :=
    @Body.Read_of_remaining (newBody (streamOf [.headers [0x00, 0x01], .data [0x78]])) 1 1 [0x00]
      [0x01, 0x78] hfirst rfl
  have hread2 : Body.Read ⟨[0x01, 0x78], 0⟩ 1 = (⟨[0x01, 0x78], 0⟩, .error .eof) :=
    Body.Read_of_parseLoop_error rfl (parseLoop_of_error (parseNextFrame_of_length_error rfl rfl))
  simp only [Body.readAll, hread1, hread2, List.append_nil]

/-- `Read` skips the header of a HEADERS frame and not its payload, which it reads
as frames; on a stream whose HEADERS frames have no payload, every run of `Read`
calls returns a prefix of the DATA frames' payloads, reports no error but
`io.EOF`, that only after all of them, and reaches it within one call into a
buffer that is not empty per byte of the stream; and a HEADERS frame with a
payload puts other bytes into the body. -/
theorem body_reads_data_payloads :
    (∀ p s : Bytes, p.length ≤ maxVarInt8 →
      parseLoop ((SentFrame.headers p).bytes ++ s) = parseLoop (p ++ s)) ∧
    (∀ (fs : List SentFrame) (ns : List Nat), Readable fs →
      ((newBody (streamOf fs)).readAll ns).1 <+: bodyOf fs ∧
      (∀ err, ((newBody (streamOf fs)).readAll ns).2 = some err →
        err = .eof ∧ ((newBody (streamOf fs)).readAll ns).1 = bodyOf fs) ∧
      ((∀ n ∈ ns, 0 < n) → (streamOf fs).length < ns.length →
        ((newBody (streamOf fs)).readAll ns).2 = some .eof)) ∧
    (newBody (streamOf [.headers [0x00, 0x01], .data [0x78]])).readAll [1, 1] = ([0x00], some .eof) :=
  ⟨fun _ s hp => parseLoop_headers s hp,
    fun fs ns h => ⟨(Body.readAll_at (Body.at_newBody fs) h ns).1, (Body.readAll_at (Body.at_newBody fs) h ns).2,
      fun hpos hlen => Body.readAll_eof (Body.at_newBody fs) h ns hpos hlen⟩,
    readAll_headers_payload⟩

/-- Two DATA frames around a frame of an unknown type, read a byte at a time: the
reads reach `io.EOF`. -/
theorem body_reads_data_payloads_two_frames :
    Readable [.data [0x66], .other 0x21 [0x05], .data [0x6f]] ∧
      ((newBody (streamOf [.data [0x66], .other 0x21 [0x05], .data [0x6f]])).readAll
        (List.replicate 10 1)).2 = some .eof :=
  have h : Readable [.data [0x66], .other 0x21 [0x05], .data [0x6f]] :=
    ⟨by
      intro f hf
      simp only [List.mem_cons, List.not_mem_nil, or_false] at hf
      rcases hf with rfl | rfl | rfl <;> decide,
    by simp⟩
  ⟨h, (body_reads_data_payloads.2.1 _ _ h).2.2 (by decide) (by decide)⟩

end Http3
end QuicFec
