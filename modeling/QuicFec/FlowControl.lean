import Mathlib
import QuicFec.Lib.Binary64
import QuicFec.Protocol

/-! # Receive-side flow control

`internal/flowcontrol`: each stream has a `streamFlowController` and the
connection a `connectionFlowController`, both built on `baseFlowController`.  A
controller counts the bytes the peer has sent (`highestReceived`, the highest
offset) and those the application has read (`bytesRead`), and it advertises a
`receiveWindow`, the offset the peer may send up to.  Once the application has
read enough, `GetWindowUpdate` moves the window to `bytesRead` plus the window
size, and auto-tuning doubles the size, up to `maxReceiveWindowSize`, when the
window was used up within a few round trips.  A stream forwards each increase
of its highest offset, and each byte read, to the connection.

Only the receive side is modelled.  The clock and the smoothed RTT are inputs
(`now`, `rtt`, in nanoseconds); the floating-point expressions of the code are
computed with `Binary64`.  The callbacks that queue a window update only ask the
session to send a frame, and the logger prints: neither is modelled.

**Whole runs.**  `Reachable` is every sequence of calls the session can make on a
connection and its streams, none returning an error, with `AddBytesRead` never
reading past what was received and `Abandon` as a stream's last call.  When
every controller starts with its window at most its maximum window size,
`reachable_flowControl` proves that the connection's highest offset is the sum of
the streams', no highest offset passes its window, windows never shrink, each
window update raises its window, and a final offset stays put and is enforced.
The session starts every stream at `InitialMaxStreamData` (`newFlowController`),
whatever maximum is configured.  With a maximum configured below those 512 KiB,
auto-tuning sets the window size down to it, and a window update can lower the
window below data already received (`reachable_flowControl_initialMaxStreamData`).
-/

namespace QuicFec
open GoBytes Binary64

/-- `protocol.WindowUpdateThreshold`. -/
def WindowUpdateThreshold : ℚ := 1 / 4

/-- `protocol.ConnectionFlowControlMultiplier`. -/
def ConnectionFlowControlMultiplier : ℚ := 3 / 2

/-- `protocol.InitialMaxStreamData`: the window every stream's controller starts with. -/
def InitialMaxStreamData : Nat := 1024 * 512

/-- `protocol.InitialMaxData`, `ConnectionFlowControlMultiplier * InitialMaxStreamData`:
the window the connection's controller starts with. -/
def InitialMaxData : Nat := 3 * InitialMaxStreamData / 2

/-- `protocol.DefaultMaxReceiveStreamFlowControlWindow`. -/
def DefaultMaxReceiveStreamFlowControlWindow : Nat := 6 * 2 ^ 20

/-- `protocol.DefaultMaxReceiveConnectionFlowControlWindow`. -/
def DefaultMaxReceiveConnectionFlowControlWindow : Nat := 15 * 2 ^ 20

/-- The maximum window `populateClientConfig` and `populateServerConfig` put into
the session's config: the one configured, or the default when it is `0`. -/
def populateMaxReceiveWindow (configured default : Nat) : Nat :=
  if configured = 0 then default else configured

/-- Go's `uint64(f)` of a nonnegative `float64`, as the amd64 compiler emits it:
toward zero below `2^64`; above, the out-of-range conversion of `f - 2^63` with
the top bit set, which is `2^63`. -/
def uint64OfFloat (f : ℚ) : Nat := if f < 2 ^ 64 then truncNat f else 2 ^ 63

/-- Go's `int64(f)` (`time.Duration(f)`), as the amd64 compiler emits it: toward
zero in range, and `-2^63` (the hardware's out-of-range value) outside. -/
def int64OfFloat (f : ℚ) : Int := if -2 ^ 63 ≤ f ∧ f < 2 ^ 63 then truncInt f else -2 ^ 63

/-- `qerr.Error(qerr.FinalSizeError, msg)`, as its `Error()` prints it. -/
def finalSizeError (msg : String) : GoError := .error ("FINAL_SIZE_ERROR: " ++ msg)

/-- `qerr.Error(qerr.FlowControlError, msg)`, as its `Error()` prints it. -/
def flowControlError (msg : String) : GoError := .error ("FLOW_CONTROL_ERROR: " ++ msg)

/-- `%#x` of a byte count. -/
def formatHexAlt (x : Nat) : String := "0x" ++ String.ofList (Nat.toDigits 16 x)

/-- The receive side of `baseFlowController`. -/
structure BaseFlowController where
  bytesRead : Nat
  highestReceived : Nat
  receiveWindow : Nat
  receiveWindowSize : Nat
  maxReceiveWindowSize : Nat
  /-- When the auto-tuning epoch started, on the monotonic clock. -/
  epochStartTime : Int
  epochStartOffset : Nat
  deriving DecidableEq, Repr

namespace BaseFlowController

/-- A controller with a window of `receiveWindow` bytes and nothing received. -/
def new (receiveWindow maxReceiveWindow : Nat) : BaseFlowController where
  bytesRead := 0
  highestReceived := 0
  receiveWindow := receiveWindow
  receiveWindowSize := receiveWindow
  maxReceiveWindowSize := maxReceiveWindow
  epochStartTime := 0
  epochStartOffset := 0

/-- `startNewAutoTuningEpoch`. -/
def startNewAutoTuningEpoch (c : BaseFlowController) (now : Int) : BaseFlowController :=
  { c with epochStartTime := now, epochStartOffset := c.bytesRead }

/-- `AddBytesRead`: the first byte read starts an auto-tuning epoch, as if a window
update had been sent. -/
def addBytesRead (c : BaseFlowController) (now : Int) (n : Nat) : BaseFlowController :=
  let c := if c.bytesRead = 0 then c.startNewAutoTuningEpoch now else c
  { c with bytesRead := c.bytesRead + n }

/-- The window is updated once less than this much of it is left:
`ByteCount(float64(receiveWindowSize) * float64(1 - WindowUpdateThreshold))`. -/
def windowUpdateThreshold (receiveWindowSize : Nat) : Nat :=
  uint64OfFloat (toFloat64 (toFloat64 receiveWindowSize * (1 - WindowUpdateThreshold)))

/-- `hasWindowUpdate`. -/
def hasWindowUpdate (c : BaseFlowController) : Bool :=
  let bytesRemaining := subU64 c.receiveWindow c.bytesRead
  bytesRemaining ≤ windowUpdateThreshold c.receiveWindowSize

/-- `maybeAdjustWindowSize`: double the window size when more than half of it was
read within four round trips' worth of the part read.  With a window size of zero
the code divides by zero; the size then stays zero whichever way it goes. -/
def maybeAdjustWindowSize (c : BaseFlowController) (now rtt : Int) : BaseFlowController :=
  let bytesReadInEpoch := subU64 c.bytesRead c.epochStartOffset
  if bytesReadInEpoch ≤ c.receiveWindowSize / 2 then c
  else if rtt = 0 then c
  else
    let fraction := toFloat64 (toFloat64 bytesReadInEpoch / toFloat64 c.receiveWindowSize)
    let c :=
      if now - c.epochStartTime < int64OfFloat (toFloat64 (toFloat64 (4 * fraction) * toFloat64 rtt))
      then { c with receiveWindowSize := min (2 * c.receiveWindowSize) c.maxReceiveWindowSize }
      else c
    c.startNewAutoTuningEpoch now

/-- `getWindowUpdate`: the new window, or `0` when none is due. -/
def getWindowUpdate (c : BaseFlowController) (now rtt : Int) : BaseFlowController × Nat :=
  if !c.hasWindowUpdate then (c, 0)
  else
    let c := c.maybeAdjustWindowSize now rtt
    let c := { c with receiveWindow := c.bytesRead + c.receiveWindowSize }
    (c, c.receiveWindow)

/-- `checkFlowControlViolation`. -/
def checkFlowControlViolation (c : BaseFlowController) : Bool :=
  c.highestReceived > c.receiveWindow

end BaseFlowController

/-- `connectionFlowController`. -/
structure ConnectionFlowController extends BaseFlowController
  deriving DecidableEq, Repr

namespace ConnectionFlowController

/-- `NewConnectionFlowController`. -/
def new (receiveWindow maxReceiveWindow : Nat) : ConnectionFlowController :=
  ⟨BaseFlowController.new receiveWindow maxReceiveWindow⟩

/-- `IncrementHighestReceived`. -/
def incrementHighestReceived (c : ConnectionFlowController) (increment : Nat) :
    ConnectionFlowController × Except GoError Unit :=
  let c := { c with highestReceived := c.highestReceived + increment }
  if c.checkFlowControlViolation then
    (c, .error (flowControlError ("Received " ++ toString c.highestReceived ++
      " bytes for the connection, allowed " ++ toString c.receiveWindow ++ " bytes")))
  else (c, .ok ())

/-- `AddBytesRead`. -/
def addBytesRead (c : ConnectionFlowController) (now : Int) (n : Nat) : ConnectionFlowController :=
  ⟨c.toBaseFlowController.addBytesRead now n⟩

/-- `GetWindowUpdate`. -/
def getWindowUpdate (c : ConnectionFlowController) (now rtt : Int) :
    ConnectionFlowController × Nat :=
  let (b, offset) := c.toBaseFlowController.getWindowUpdate now rtt
  (⟨b⟩, offset)

/-- `EnsureMinimumWindowSize`. -/
def ensureMinimumWindowSize (c : ConnectionFlowController) (now : Int) (inc : Nat) :
    ConnectionFlowController :=
  if inc > c.receiveWindowSize then
    ⟨{ c.toBaseFlowController with
      receiveWindowSize := min inc c.maxReceiveWindowSize }.startNewAutoTuningEpoch now⟩
  else c

end ConnectionFlowController

/-- The receive side of `streamFlowController`; its connection is passed beside it. -/
structure StreamFlowController extends BaseFlowController where
  streamID : Int
  receivedFinalOffset : Bool
  deriving DecidableEq, Repr

namespace StreamFlowController

/-- `NewStreamFlowController`. -/
def new (streamID : Int) (receiveWindow maxReceiveWindow : Nat) : StreamFlowController :=
  { BaseFlowController.new receiveWindow maxReceiveWindow with
    streamID := streamID
    receivedFinalOffset := false }

/-- The end of `UpdateHighestReceived`, for an offset above the highest one: it
is checked against the stream's window, then the connection counts the increase. -/
def raiseHighestReceived (c : StreamFlowController) (conn : ConnectionFlowController)
    (offset : Nat) : StreamFlowController × ConnectionFlowController × Except GoError Unit :=
  let increment := offset - c.highestReceived
  let c := { c with highestReceived := offset }
  if c.checkFlowControlViolation then
    (c, conn, .error (flowControlError ("Received " ++ formatHexAlt offset ++
      " bytes on stream " ++ toString c.streamID ++ ", allowed " ++
      formatHexAlt c.receiveWindow ++ " bytes")))
  else
    let (conn, err) := conn.incrementHighestReceived increment
    (c, conn, err)

/-- `UpdateHighestReceived`.  The controllers come back with the error too: the
final flag and the new offset are stored before the checks that fail. -/
def updateHighestReceived (c : StreamFlowController) (conn : ConnectionFlowController)
    (offset : Nat) (final : Bool) :
    StreamFlowController × ConnectionFlowController × Except GoError Unit :=
  -- the final offset is known: a new one must agree, and nothing may pass it
  if c.receivedFinalOffset && final && offset != c.highestReceived then
    (c, conn, .error (finalSizeError ("Received inconsistent final offset for stream " ++
      toString c.streamID ++ " (old: " ++ formatHexAlt c.highestReceived ++ ", new: " ++
      formatHexAlt offset ++ " bytes)")))
  else if c.receivedFinalOffset && offset > c.highestReceived then
    (c, conn, .error (finalSizeError ("Received offset " ++ formatHexAlt offset ++
      " for stream " ++ toString c.streamID ++ ". Final offset was already received at " ++
      formatHexAlt c.highestReceived)))
  else
    let c := if final then { c with receivedFinalOffset := true } else c
    if offset = c.highestReceived then (c, conn, .ok ())
    -- reordered: a higher offset came first
    else if offset ≤ c.highestReceived then
      if final then
        (c, conn, .error (finalSizeError ("Received final offset " ++ formatHexAlt offset ++
          " for stream " ++ toString c.streamID ++ ", but already received offset " ++
          formatHexAlt c.highestReceived ++ " before")))
      else (c, conn, .ok ())
    else c.raiseHighestReceived conn offset

/-- `AddBytesRead`: the stream's count, then the connection's. -/
def addBytesRead (c : StreamFlowController) (conn : ConnectionFlowController) (now : Int)
    (n : Nat) : StreamFlowController × ConnectionFlowController :=
  ({ c with toBaseFlowController := c.toBaseFlowController.addBytesRead now n },
    conn.addBytesRead now n)

/-- `Abandon`: the bytes received and never read count as read for the connection. -/
def abandon (c : StreamFlowController) (conn : ConnectionFlowController) (now : Int) :
    ConnectionFlowController :=
  let unread := subU64 c.highestReceived c.bytesRead
  if unread > 0 then conn.addBytesRead now unread else conn

/-- `GetWindowUpdate`: none once the final offset is known; a window size grown by
auto-tuning makes the connection's at least `1.5` times as large. -/
def getWindowUpdate (c : StreamFlowController) (conn : ConnectionFlowController) (now rtt : Int) :
    StreamFlowController × ConnectionFlowController × Nat :=
  if c.receivedFinalOffset then (c, conn, 0)
  else
    let oldWindowSize := c.receiveWindowSize
    let (b, offset) := c.toBaseFlowController.getWindowUpdate now rtt
    let c := { c with toBaseFlowController := b }
    if c.receiveWindowSize > oldWindowSize then
      (c, conn.ensureMinimumWindowSize now
        (uint64OfFloat (toFloat64 (toFloat64 c.receiveWindowSize * ConnectionFlowControlMultiplier))),
        offset)
    else (c, conn, offset)

end StreamFlowController

/-- The receive side of `session.newFlowController`: a stream's controller starts
with the window `InitialMaxStreamData`, whatever the configured maximum. -/
def newFlowController (maxReceiveStreamFlowControlWindow : Nat) (id : Int) : StreamFlowController :=
  StreamFlowController.new id InitialMaxStreamData maxReceiveStreamFlowControlWindow

/-! ## One controller -/

namespace BaseFlowController

/-- A conversion of a value below a byte count gives less than it. -/
theorem uint64OfFloat_lt {f : ℚ} {x : Nat} (h0 : 0 ≤ f) (h : f < x) : uint64OfFloat f < x := by
  unfold uint64OfFloat
  split
  · exact_mod_cast lt_of_le_of_lt (truncNat_le h0) h
  · -- out of range, the conversion gives 2^63, below x all the more
    rename_i hrange
    have : (2 : ℚ) ^ 64 < x := lt_of_le_of_lt (by simpa using not_lt.1 hrange) h
    have hx64 : 2 ^ 64 < x := by exact_mod_cast this
    omega

/-- The threshold is below the window size: rounding to binary64 twice moves
`3/4` of it by less than the missing quarter. -/
theorem windowUpdateThreshold_lt {x : Nat} (hx : 0 < x) : windowUpdateThreshold x < x := by
  have hx' : (0 : ℚ) < x := by exact_mod_cast hx
  -- float64(x) ≤ x (1 + 2^-53), and so is its product with 3/4 after rounding
  have hy := roundBits_le 53 hx'.le
  have hy0 := roundBits_nonneg 53 hx'.le
  have hprod : 0 ≤ roundBits 53 x * (1 - 1 / 4) := mul_nonneg hy0 (by norm_num)
  have hz := roundBits_le 53 hprod
  have hlt : roundBits 53 (roundBits 53 x * (1 - 1 / 4)) < x := by
    norm_num at hy hz
    linarith
  exact uint64OfFloat_lt (roundBits_nonneg 53 hprod) hlt

theorem windowUpdateThreshold_zero : windowUpdateThreshold 0 = 0 := by
  simp [windowUpdateThreshold, toFloat64, roundBits, uint64OfFloat, truncNat]

theorem windowUpdateThreshold_le (x : Nat) : windowUpdateThreshold x ≤ x := by
  rcases Nat.eq_zero_or_pos x with rfl | hx
  · rw [windowUpdateThreshold_zero]
  · exact (windowUpdateThreshold_lt hx).le

variable {c : BaseFlowController}

/-- What a controller keeps over every run: it has read only what it received,
received only up to its window, and its window size is within its maximum and
positive behind a positive window. -/
structure Inv (c : BaseFlowController) : Prop where
  read_le : c.bytesRead ≤ c.highestReceived
  received_le : c.highestReceived ≤ c.receiveWindow
  size_le : c.receiveWindowSize ≤ c.maxReceiveWindowSize
  epoch_le : c.epochStartOffset ≤ c.bytesRead
  size_pos : 0 < c.receiveWindow → 0 < c.receiveWindowSize

theorem inv_new {receiveWindow maxReceiveWindow : Nat} (h : receiveWindow ≤ maxReceiveWindow) :
    (new receiveWindow maxReceiveWindow).Inv where
  read_le := Nat.le_refl 0
  received_le := Nat.zero_le _
  size_le := h
  epoch_le := Nat.le_refl 0
  size_pos := id

section AddBytesRead

variable (c) (now : Int) (n : Nat)

@[simp] theorem addBytesRead_bytesRead : (c.addBytesRead now n).bytesRead = c.bytesRead + n := by
  unfold addBytesRead
  split <;> rfl

@[simp] theorem addBytesRead_highestReceived :
    (c.addBytesRead now n).highestReceived = c.highestReceived := by
  unfold addBytesRead
  split <;> rfl

@[simp] theorem addBytesRead_receiveWindow :
    (c.addBytesRead now n).receiveWindow = c.receiveWindow := by
  unfold addBytesRead
  split <;> rfl

@[simp] theorem addBytesRead_receiveWindowSize :
    (c.addBytesRead now n).receiveWindowSize = c.receiveWindowSize := by
  unfold addBytesRead
  split <;> rfl

@[simp] theorem addBytesRead_maxReceiveWindowSize :
    (c.addBytesRead now n).maxReceiveWindowSize = c.maxReceiveWindowSize := by
  unfold addBytesRead
  split <;> rfl

theorem addBytesRead_epochStartOffset_le (hi : c.epochStartOffset ≤ c.bytesRead) :
    (c.addBytesRead now n).epochStartOffset ≤ (c.addBytesRead now n).bytesRead := by
  unfold addBytesRead
  split
  · show c.bytesRead ≤ c.bytesRead + n
    omega
  · show c.epochStartOffset ≤ c.bytesRead + n
    omega

end AddBytesRead

/-- Reading bytes that were received keeps the invariant. -/
theorem Inv.addBytesRead (hi : c.Inv) {n : Nat} (hn : c.bytesRead + n ≤ c.highestReceived)
    (now : Int) : (c.addBytesRead now n).Inv where
  read_le := by simpa using hn
  received_le := by simpa using hi.received_le
  size_le := by simpa using hi.size_le
  epoch_le := addBytesRead_epochStartOffset_le c now n hi.epoch_le
  size_pos := by simpa using hi.size_pos

/-- Auto-tuning changes only the window size, to its double within the maximum,
and the epoch. -/
theorem maybeAdjustWindowSize_spec (c : BaseFlowController) (now rtt : Int) :
    (c.maybeAdjustWindowSize now rtt).bytesRead = c.bytesRead ∧
      (c.maybeAdjustWindowSize now rtt).highestReceived = c.highestReceived ∧
      (c.maybeAdjustWindowSize now rtt).receiveWindow = c.receiveWindow ∧
      (c.maybeAdjustWindowSize now rtt).maxReceiveWindowSize = c.maxReceiveWindowSize ∧
      ((c.maybeAdjustWindowSize now rtt).receiveWindowSize = c.receiveWindowSize ∨
        (c.maybeAdjustWindowSize now rtt).receiveWindowSize =
          min (2 * c.receiveWindowSize) c.maxReceiveWindowSize) ∧
      ((c.maybeAdjustWindowSize now rtt).epochStartOffset = c.epochStartOffset ∨
        (c.maybeAdjustWindowSize now rtt).epochStartOffset = c.bytesRead) := by
  unfold maybeAdjustWindowSize
  dsimp only
  split_ifs <;> simp [startNewAutoTuningEpoch]

theorem Inv.maybeAdjustWindowSize (hi : c.Inv) (now rtt : Int) :
    (c.maybeAdjustWindowSize now rtt).Inv ∧
      c.receiveWindowSize ≤ (c.maybeAdjustWindowSize now rtt).receiveWindowSize := by
  obtain ⟨hb, hh, hw, hmax, hsize, hepoch⟩ := maybeAdjustWindowSize_spec c now rtt
  have hgrow : c.receiveWindowSize ≤ (c.maybeAdjustWindowSize now rtt).receiveWindowSize := by
    have := hi.size_le
    rcases hsize with h | h
    · exact h.ge
    · rw [h]
      omega
  refine ⟨⟨?_, ?_, ?_, ?_, ?_⟩, hgrow⟩
  · rw [hb, hh]
    exact hi.read_le
  · rw [hh, hw]
    exact hi.received_le
  · have := hi.size_le
    rcases hsize with h | h
    · rw [h, hmax]
      exact this
    · rw [h, hmax]
      omega
  · have := hi.epoch_le
    rcases hepoch with h | h
    · rw [h, hb]
      exact this
    · rw [h, hb]
  · intro hpos
    rw [hw] at hpos
    exact Nat.lt_of_lt_of_le (hi.size_pos hpos) hgrow

/-- A window update is due when at most the threshold of the window is left. -/
theorem Inv.window_le_of_hasWindowUpdate (hi : c.Inv) (hW : c.receiveWindow < 2 ^ 64)
    (hupd : c.hasWindowUpdate = true) :
    c.receiveWindow ≤ c.bytesRead + windowUpdateThreshold c.receiveWindowSize := by
  have hle : c.bytesRead ≤ c.receiveWindow := le_trans hi.read_le hi.received_le
  simp only [hasWindowUpdate, subU64_of_le hle hW, decide_eq_true_eq] at hupd
  omega

/-- **A window update** keeps the invariant, never lowers the window or its size, and
a window it returns is above the one before. -/
theorem Inv.getWindowUpdate (hi : c.Inv) (hW : c.receiveWindow < 2 ^ 64) (now rtt : Int) :
    (c.getWindowUpdate now rtt).1.Inv ∧
      (c.getWindowUpdate now rtt).1.bytesRead = c.bytesRead ∧
      (c.getWindowUpdate now rtt).1.highestReceived = c.highestReceived ∧
      c.receiveWindow ≤ (c.getWindowUpdate now rtt).1.receiveWindow ∧
      c.receiveWindowSize ≤ (c.getWindowUpdate now rtt).1.receiveWindowSize ∧
      ((c.getWindowUpdate now rtt).2 ≠ 0 → c.receiveWindow < (c.getWindowUpdate now rtt).2) := by
  unfold BaseFlowController.getWindowUpdate
  by_cases hupd : c.hasWindowUpdate = true
  · simp only [hupd, Bool.not_true, Bool.false_eq_true, if_false]
    obtain ⟨hi', hgrow⟩ := hi.maybeAdjustWindowSize now rtt
    obtain ⟨hb, hh, -, -, -, -⟩ := maybeAdjustWindowSize_spec c now rtt
    have hwin := hi.window_le_of_hasWindowUpdate hW hupd
    have hT := windowUpdateThreshold_le c.receiveWindowSize
    have hzero : c.receiveWindowSize = 0 → c.receiveWindow = 0 := by
      intro h0
      have := hi.size_pos
      omega
    have hnew : c.receiveWindow ≤ c.bytesRead + (c.maybeAdjustWindowSize now rtt).receiveWindowSize := by
      omega
    refine ⟨⟨?_, ?_, hi'.size_le, hi'.epoch_le, ?_⟩, hb, hh, ?_, hgrow, ?_⟩
    · exact hi'.read_le
    · show (c.maybeAdjustWindowSize now rtt).highestReceived ≤
        (c.maybeAdjustWindowSize now rtt).bytesRead + (c.maybeAdjustWindowSize now rtt).receiveWindowSize
      have := hi.received_le
      omega
    · show 0 < (c.maybeAdjustWindowSize now rtt).bytesRead +
        (c.maybeAdjustWindowSize now rtt).receiveWindowSize →
          0 < (c.maybeAdjustWindowSize now rtt).receiveWindowSize
      intro hpos
      rcases Nat.eq_zero_or_pos c.receiveWindowSize with h0 | h0
      · have := hzero h0
        have := hi.read_le
        have := hi.received_le
        omega
      · omega
    · show c.receiveWindow ≤ (c.maybeAdjustWindowSize now rtt).bytesRead +
        (c.maybeAdjustWindowSize now rtt).receiveWindowSize
      omega
    · show _ + _ ≠ 0 → c.receiveWindow < (c.maybeAdjustWindowSize now rtt).bytesRead +
        (c.maybeAdjustWindowSize now rtt).receiveWindowSize
      intro hne
      rcases Nat.eq_zero_or_pos c.receiveWindowSize with h0 | h0
      · have := hzero h0
        omega
      · -- the threshold is below the window size, so the window moves up
        have := windowUpdateThreshold_lt h0
        omega
  · have hnot : (!c.hasWindowUpdate) = true := by simpa using hupd
    rw [if_pos hnot]
    exact ⟨hi, rfl, rfl, Nat.le_refl _, Nat.le_refl _, fun h => absurd rfl h⟩

end BaseFlowController

namespace ConnectionFlowController

variable {c c' : ConnectionFlowController}

/-- `EnsureMinimumWindowSize` keeps the invariant and touches only the window size
and the epoch. -/
theorem inv_ensureMinimumWindowSize (hi : c.Inv) (now : Int) (inc : Nat) :
    (c.ensureMinimumWindowSize now inc).Inv ∧
      (c.ensureMinimumWindowSize now inc).bytesRead = c.bytesRead ∧
      (c.ensureMinimumWindowSize now inc).highestReceived = c.highestReceived ∧
      (c.ensureMinimumWindowSize now inc).receiveWindow = c.receiveWindow := by
  unfold ensureMinimumWindowSize
  split
  · rename_i hinc
    have hsize := hi.size_le
    -- the new size is at least the old one, which is within the maximum
    refine ⟨⟨hi.read_le, hi.received_le, ?_, ?_, ?_⟩, rfl, rfl, rfl⟩
    · exact Nat.min_le_right _ _
    · exact Nat.le_refl _
    · intro hpos
      have := hi.size_pos hpos
      show 0 < min inc c.maxReceiveWindowSize
      omega
  · exact ⟨hi, rfl, rfl, rfl⟩

/-- `IncrementHighestReceived` succeeds exactly within the window. -/
theorem incrementHighestReceived_eq_ok {inc : Nat}
    (h : c.incrementHighestReceived inc = (c', .ok ())) :
    c.highestReceived + inc ≤ c.receiveWindow ∧
      c' = ⟨{ c.toBaseFlowController with highestReceived := c.highestReceived + inc }⟩ := by
  unfold incrementHighestReceived at h
  dsimp only at h
  split at h
  · simp at h
  · rename_i hok
    simp only [BaseFlowController.checkFlowControlViolation, decide_eq_true_eq, not_lt] at hok
    exact ⟨hok, (Prod.mk.inj h).1.symm⟩

@[simp] theorem addBytesRead_toBaseFlowController (now : Int) (n : Nat) :
    (c.addBytesRead now n).toBaseFlowController = c.toBaseFlowController.addBytesRead now n := rfl

@[simp] theorem getWindowUpdate_toBaseFlowController (now rtt : Int) :
    (c.getWindowUpdate now rtt).1.toBaseFlowController =
      (c.toBaseFlowController.getWindowUpdate now rtt).1 := rfl

@[simp] theorem getWindowUpdate_snd (now rtt : Int) :
    (c.getWindowUpdate now rtt).2 = (c.toBaseFlowController.getWindowUpdate now rtt).2 := rfl

end ConnectionFlowController

namespace StreamFlowController

variable {c c' : StreamFlowController} {conn conn' : ConnectionFlowController}

/-- A raise that succeeds is within both windows. -/
theorem raiseHighestReceived_eq_ok {offset : Nat}
    (h : c.raiseHighestReceived conn offset = (c', conn', .ok ())) :
    offset ≤ c.receiveWindow ∧
      conn.highestReceived + (offset - c.highestReceived) ≤ conn.receiveWindow ∧
      conn' = ⟨{ conn.toBaseFlowController with
        highestReceived := conn.highestReceived + (offset - c.highestReceived) }⟩ ∧
      c' = { c with highestReceived := offset } := by
  unfold raiseHighestReceived at h
  dsimp only at h
  split at h
  · simp at h
  · rename_i hok
    simp only [BaseFlowController.checkFlowControlViolation, decide_eq_true_eq, not_lt] at hok
    simp only [Prod.mk.injEq] at h
    obtain ⟨hc, hconn, hres⟩ := h
    have hinc : conn.incrementHighestReceived (offset - c.highestReceived) = (conn', .ok ()) :=
      Prod.ext hconn hres
    obtain ⟨hwin, rfl⟩ := ConnectionFlowController.incrementHighestReceived_eq_ok hinc
    exact ⟨hok, hwin, rfl, hc.symm⟩

/-- What a call of `UpdateHighestReceived` that succeeds does: it records a final
offset, and either keeps the highest offset, or raises it within the stream's
window, when no final offset was known, and forwards the increase to the
connection, within its window. -/
theorem updateHighestReceived_eq_ok {offset : Nat} {final : Bool}
    (h : c.updateHighestReceived conn offset final = (c', conn', .ok ())) :
    (offset ≤ c.highestReceived ∧ conn' = conn ∧
        c' = { c with receivedFinalOffset := c.receivedFinalOffset || final }) ∨
      (c.highestReceived < offset ∧ c.receivedFinalOffset = false ∧ offset ≤ c.receiveWindow ∧
        conn.highestReceived + (offset - c.highestReceived) ≤ conn.receiveWindow ∧
        conn' = ⟨{ conn.toBaseFlowController with
          highestReceived := conn.highestReceived + (offset - c.highestReceived) }⟩ ∧
        c' = { c with highestReceived := offset, receivedFinalOffset := final }) := by
  unfold updateHighestReceived at h
  -- the two checks against a known final offset fail only with an error
  split at h
  · simp at h
  split at h
  · simp at h
  rename_i hinconsistent hpast
  have hraise : c.highestReceived < offset → c.receivedFinalOffset = false := by
    intro hgt
    cases hrfo : c.receivedFinalOffset
    · rfl
    · simp [hrfo, hgt] at hpast
  dsimp only at h
  cases final
  · simp only [Bool.false_eq_true, if_false] at h
    split at h
    · simp only [Prod.mk.injEq] at h
      obtain ⟨rfl, rfl, -⟩ := h
      exact .inl ⟨by omega, rfl, by simp⟩
    split at h
    · simp only [Prod.mk.injEq] at h
      obtain ⟨rfl, rfl, -⟩ := h
      exact .inl ⟨by omega, rfl, by simp⟩
    · rename_i hne hgt
      have hrfo := hraise (by omega)
      obtain ⟨hwin, hconn, rfl, rfl⟩ := raiseHighestReceived_eq_ok h
      exact .inr ⟨by omega, hrfo, hwin, hconn, rfl, by simp [hrfo]⟩
  · simp only [if_true] at h
    split at h
    · simp only [Prod.mk.injEq] at h
      obtain ⟨rfl, rfl, -⟩ := h
      exact .inl ⟨by simp_all, rfl, by simp⟩
    split at h
    · simp at h
    · rename_i hne hgt
      have hrfo := hraise (by simp at hgt; omega)
      obtain ⟨hwin, hconn, rfl, rfl⟩ := raiseHighestReceived_eq_ok h
      exact .inr ⟨by simp at hgt; omega, hrfo, hwin, hconn, rfl, rfl⟩

/-- Once the final offset is known, an offset past it, or a final offset other than
it, is a `FINAL_SIZE_ERROR`. -/
theorem updateHighestReceived_of_receivedFinalOffset (hf : c.receivedFinalOffset = true)
    {offset : Nat} {final : Bool}
    (h : c.highestReceived < offset ∨ (final = true ∧ offset ≠ c.highestReceived)) :
    ∃ msg, (c.updateHighestReceived conn offset final).2.2 = .error (finalSizeError msg) := by
  unfold updateHighestReceived
  by_cases hinconsistent : (c.receivedFinalOffset && final && offset != c.highestReceived) = true
  · rw [if_pos hinconsistent]
    exact ⟨_, rfl⟩
  · -- not a different final offset, so an offset past the final one
    have hpast : (c.receivedFinalOffset && decide (offset > c.highestReceived)) = true := by
      rcases h with hgt | ⟨hfin, hne⟩
      · simp [hf, hgt]
      · simp [hf, hfin, hne] at hinconsistent
    rw [if_neg hinconsistent, if_pos hpast]
    exact ⟨_, rfl⟩

/-- `GetWindowUpdate` of a stream keeps both invariants, changes only the windows and
the auto-tuning state, never lowers the stream's window, and a window it returns is
above the one before. -/
theorem inv_getWindowUpdate (hi : c.Inv) (hW : c.receiveWindow < 2 ^ 64) (hconn : conn.Inv)
    (now rtt : Int) :
    (c.getWindowUpdate conn now rtt).1.Inv ∧
      (c.getWindowUpdate conn now rtt).1.bytesRead = c.bytesRead ∧
      (c.getWindowUpdate conn now rtt).1.highestReceived = c.highestReceived ∧
      (c.getWindowUpdate conn now rtt).1.receivedFinalOffset = c.receivedFinalOffset ∧
      c.receiveWindow ≤ (c.getWindowUpdate conn now rtt).1.receiveWindow ∧
      (c.getWindowUpdate conn now rtt).2.1.Inv ∧
      (c.getWindowUpdate conn now rtt).2.1.bytesRead = conn.bytesRead ∧
      (c.getWindowUpdate conn now rtt).2.1.highestReceived = conn.highestReceived ∧
      (c.getWindowUpdate conn now rtt).2.1.receiveWindow = conn.receiveWindow ∧
      ((c.getWindowUpdate conn now rtt).2.2 ≠ 0 →
        c.receiveWindow < (c.getWindowUpdate conn now rtt).2.2) := by
  unfold StreamFlowController.getWindowUpdate
  split
  · -- the final offset is known: nothing changes
    exact ⟨hi, rfl, rfl, rfl, Nat.le_refl _, hconn, rfl, rfl, rfl, fun h => absurd rfl h⟩
  · obtain ⟨hb', hbr, hhr, hwin, -, hret⟩ := hi.getWindowUpdate hW now rtt
    dsimp only
    obtain ⟨hconn', hcb, hch, hcw⟩ := ConnectionFlowController.inv_ensureMinimumWindowSize hconn now
      (uint64OfFloat (toFloat64 (toFloat64
        ((c.toBaseFlowController.getWindowUpdate now rtt).1.receiveWindowSize) *
          ConnectionFlowControlMultiplier)))
    split
    · exact ⟨hb', hbr, hhr, rfl, hwin, hconn', hcb, hch, hcw, hret⟩
    · exact ⟨hb', hbr, hhr, rfl, hwin, hconn, rfl, rfl, rfl, hret⟩

/-- A stream with no window update due returns none, at every time and RTT. -/
theorem getWindowUpdate_of_hasWindowUpdate_false (h : c.hasWindowUpdate = false) (now rtt : Int) :
    (c.getWindowUpdate conn now rtt).2.2 = 0 := by
  unfold getWindowUpdate BaseFlowController.getWindowUpdate
  simp only [h, Bool.not_false, if_true]
  split_ifs <;> rfl

/-- `Abandon` counts the bytes received and not read as read by the connection. -/
theorem abandon_eq (hi : c.Inv) (hW : c.receiveWindow < 2 ^ 64) (now : Int) :
    c.abandon conn now = if 0 < c.highestReceived - c.bytesRead then
      conn.addBytesRead now (c.highestReceived - c.bytesRead) else conn := by
  have hlt : c.highestReceived < 2 ^ 64 := lt_of_le_of_lt hi.received_le hW
  unfold abandon
  rw [subU64_of_le hi.read_le hlt]

end StreamFlowController

/-! ## A connection and its streams -/

/-- Changing one entry of a list changes its sum by the difference. -/
theorem sum_map_set {α : Type} (g : α → Nat) {l : List α} {i : Nat} {a : α}
    (h : l[i]? = some a) (b : α) : ((l.set i b).map g).sum + g a = (l.map g).sum + g b := by
  induction l generalizing i with
  | nil => simp at h
  | cons x l ih =>
      cases i with
      | zero =>
          simp only [List.getElem?_cons_zero, Option.some.injEq] at h
          subst h
          simp only [List.set_cons_zero, List.map_cons, List.sum_cons]
          omega
      | succ i =>
          simp only [List.getElem?_cons_succ] at h
          simp only [List.set_cons_succ, List.map_cons, List.sum_cons]
          have := ih h
          omega

/-- The flow controllers of a connection: the connection's, and its streams' in the
order they were opened, each with whether the session has abandoned the stream. -/
structure FlowControllers where
  connection : ConnectionFlowController
  streams : List (StreamFlowController × Bool)

namespace FlowControllers

/-- The bytes of a stream the connection counts as read: those read, and all those
received once the stream is abandoned. -/
def credited (p : StreamFlowController × Bool) : Nat :=
  if p.2 then p.1.highestReceived else p.1.bytesRead

/-- A call of the session that returns no error, on a stream not abandoned or on the
connection.  `AddBytesRead` reads only bytes received, and `Abandon` is a stream's
last call. -/
inductive Step : FlowControllers → FlowControllers → Prop
  | newStream {conn : ConnectionFlowController} {ss : List (StreamFlowController × Bool)}
      (streamID : Int) {receiveWindow maxReceiveWindow : Nat}
      (h : receiveWindow ≤ maxReceiveWindow) :
      Step ⟨conn, ss⟩
        ⟨conn, ss ++ [(StreamFlowController.new streamID receiveWindow maxReceiveWindow, false)]⟩
  | updateHighestReceived {conn conn' : ConnectionFlowController}
      {ss : List (StreamFlowController × Bool)} {i : Nat} {s s' : StreamFlowController}
      {offset : Nat} {final : Bool} (hs : ss[i]? = some (s, false))
      (h : s.updateHighestReceived conn offset final = (s', conn', .ok ())) :
      Step ⟨conn, ss⟩ ⟨conn', ss.set i (s', false)⟩
  | addBytesRead {conn : ConnectionFlowController} {ss : List (StreamFlowController × Bool)}
      {i : Nat} {s : StreamFlowController} (now : Int) {n : Nat} (hs : ss[i]? = some (s, false))
      (hn : s.bytesRead + n ≤ s.highestReceived) :
      Step ⟨conn, ss⟩ ⟨(s.addBytesRead conn now n).2, ss.set i ((s.addBytesRead conn now n).1, false)⟩
  | abandon {conn : ConnectionFlowController} {ss : List (StreamFlowController × Bool)}
      {i : Nat} {s : StreamFlowController} (now : Int) (hs : ss[i]? = some (s, false)) :
      Step ⟨conn, ss⟩ ⟨s.abandon conn now, ss.set i (s, true)⟩
  | getWindowUpdate {conn : ConnectionFlowController} {ss : List (StreamFlowController × Bool)}
      {i : Nat} {s : StreamFlowController} (now rtt : Int) (hs : ss[i]? = some (s, false)) :
      Step ⟨conn, ss⟩ ⟨(s.getWindowUpdate conn now rtt).2.1,
        ss.set i ((s.getWindowUpdate conn now rtt).1, false)⟩
  | connectionGetWindowUpdate {conn : ConnectionFlowController}
      {ss : List (StreamFlowController × Bool)} (now rtt : Int) :
      Step ⟨conn, ss⟩ ⟨(conn.getWindowUpdate now rtt).1, ss⟩

/-- Every window is a `uint64`: below `2^64`, where the model's byte counts, which
do not wrap, are Go's. -/
def WindowsBelow (f : FlowControllers) : Prop :=
  f.connection.receiveWindow < 2 ^ 64 ∧ ∀ p ∈ f.streams, p.1.receiveWindow < 2 ^ 64

/-- The controllers a session reaches from a new connection, each controller
created with a window at most its maximum window size, by calls that return no
error and keep every window below `2^64`. -/
inductive Reachable : FlowControllers → Prop
  | init {receiveWindow maxReceiveWindow : Nat} (h : receiveWindow ≤ maxReceiveWindow)
      (hw : receiveWindow < 2 ^ 64) :
      Reachable ⟨ConnectionFlowController.new receiveWindow maxReceiveWindow, []⟩
  | step {f f' : FlowControllers} (hr : Reachable f) (hs : Step f f') (hw : f'.WindowsBelow) :
      Reachable f'

/-- What every reachable set of controllers satisfies: each controller's invariant,
and the connection counts exactly what its streams received and had it count as
read. -/
structure Inv (f : FlowControllers) : Prop where
  connection : f.connection.Inv
  streams : ∀ p ∈ f.streams, p.1.Inv
  received : f.connection.highestReceived = (f.streams.map fun p => p.1.highestReceived).sum
  read : f.connection.bytesRead = (f.streams.map credited).sum

/-- How a stream may change in a call: its window does not shrink, and once its final
offset is known, it stays known and the highest offset stays. -/
def Advances (p p' : StreamFlowController × Bool) : Prop :=
  p.1.receiveWindow ≤ p'.1.receiveWindow ∧
    (p.1.receivedFinalOffset = true →
      p'.1.receivedFinalOffset = true ∧ p'.1.highestReceived = p.1.highestReceived)

/-- Every stream advances, position by position. -/
def StreamsAdvance (ss ss' : List (StreamFlowController × Bool)) : Prop :=
  ∀ (i : Nat) p, ss[i]? = some p → ∃ p', ss'[i]? = some p' ∧ Advances p p'

theorem advances_refl (p : StreamFlowController × Bool) : Advances p p :=
  ⟨Nat.le_refl _, fun h => ⟨h, rfl⟩⟩

theorem streamsAdvance_set {ss : List (StreamFlowController × Bool)} {i : Nat}
    {p p' : StreamFlowController × Bool} (hs : ss[i]? = some p) (h : Advances p p') :
    StreamsAdvance ss (ss.set i p') := by
  intro j q hq
  by_cases hij : i = j
  · subst hij
    rw [hs] at hq
    cases hq
    have hlt : i < ss.length := (List.getElem?_eq_some_iff.1 hs).1
    exact ⟨p', by simp [hlt], h⟩
  · exact ⟨q, by rw [List.getElem?_set, if_neg hij, hq], advances_refl q⟩

theorem streamsAdvance_append (ss extra : List (StreamFlowController × Bool)) :
    StreamsAdvance ss (ss ++ extra) := by
  intro j q hq
  exact ⟨q, by rw [List.getElem?_append_left (List.getElem?_eq_some_iff.1 hq).1, hq],
    advances_refl q⟩

theorem credited_le {p : StreamFlowController × Bool} (hi : p.1.Inv) :
    credited p ≤ p.1.highestReceived := by
  unfold credited
  split
  · exact Nat.le_refl _
  · exact hi.read_le

/-- The connection, counting its streams' bytes, has read at most what it received. -/
theorem read_le_of_sums {ss : List (StreamFlowController × Bool)} {read received : Nat}
    (hs : ∀ p ∈ ss, p.1.Inv) (hread : read = (ss.map credited).sum)
    (hreceived : received = (ss.map fun p => p.1.highestReceived).sum) : read ≤ received := by
  rw [hread, hreceived]
  exact List.sum_le_sum fun p hp => credited_le (hs p hp)

/-- Replacing a stream and the connection keeps the invariant when the connection's
counts move as the stream's do, and the connection keeps its own invariant once it
has read at most what it received. -/
theorem Inv.set {f : FlowControllers} (hi : f.Inv) {i : Nat} {p p' : StreamFlowController × Bool}
    (hs : f.streams[i]? = some p) {conn' : ConnectionFlowController} (hp' : p'.1.Inv)
    (hconn' : conn'.bytesRead ≤ conn'.highestReceived → conn'.Inv)
    (hrecv : conn'.highestReceived + p.1.highestReceived =
      f.connection.highestReceived + p'.1.highestReceived)
    (hread : conn'.bytesRead + credited p = f.connection.bytesRead + credited p') :
    Inv ⟨conn', f.streams.set i p'⟩ := by
  have hstreams : ∀ q ∈ f.streams.set i p', q.1.Inv := by
    intro q hq
    rcases List.mem_or_eq_of_mem_set hq with hq | rfl
    · exact hi.streams q hq
    · exact hp'
  have hsumr := sum_map_set (fun q => q.1.highestReceived) hs p'
  have hsumc := sum_map_set credited hs p'
  have hreceived :
      conn'.highestReceived = ((f.streams.set i p').map fun q => q.1.highestReceived).sum := by
    have := hi.received
    omega
  have hreadsum : conn'.bytesRead = ((f.streams.set i p').map credited).sum := by
    have := hi.read
    omega
  exact ⟨hconn' (read_le_of_sums hstreams hreadsum hreceived), hstreams, hreceived, hreadsum⟩

section Step

variable {f : FlowControllers}

theorem Inv.newStream (hi : f.Inv) (streamID : Int) {receiveWindow maxReceiveWindow : Nat}
    (h : receiveWindow ≤ maxReceiveWindow) :
    Inv ⟨f.connection,
      f.streams ++ [(StreamFlowController.new streamID receiveWindow maxReceiveWindow, false)]⟩ := by
  refine ⟨hi.connection, ?_, ?_, ?_⟩
  · intro q hq
    rcases List.mem_append.1 hq with hq | hq
    · exact hi.streams q hq
    · rw [List.mem_singleton.1 hq]
      exact BaseFlowController.inv_new h
  · -- a new stream has received nothing, and read nothing
    simp only [List.map_append, List.sum_append, List.map_singleton, List.sum_singleton]
    exact hi.received
  · simp only [List.map_append, List.sum_append, List.map_singleton, List.sum_singleton]
    exact hi.read

theorem Inv.updateHighestReceived (hi : f.Inv) {i : Nat} {s s' : StreamFlowController}
    (hs : f.streams[i]? = some (s, false)) {conn' : ConnectionFlowController} {offset : Nat}
    {final : Bool} (h : s.updateHighestReceived f.connection offset final = (s', conn', .ok ())) :
    Inv ⟨conn', f.streams.set i (s', false)⟩ ∧ Advances (s, false) (s', false) ∧
      conn'.receiveWindow = f.connection.receiveWindow := by
  have hsi : s.Inv := hi.streams _ (List.mem_of_getElem? hs)
  rcases StreamFlowController.updateHighestReceived_eq_ok h with
    ⟨-, rfl, rfl⟩ | ⟨hgt, hrfo, hwin, hcwin, rfl, rfl⟩
  · -- nothing new: only the final flag may be set
    exact ⟨hi.set hs hsi (fun _ => hi.connection) rfl rfl,
      ⟨Nat.le_refl _, fun (h : s.receivedFinalOffset = true) => ⟨by simp [h], rfl⟩⟩, rfl⟩
  · -- a higher offset, counted by the connection too
    have hci := hi.connection
    refine ⟨hi.set hs ⟨by have := hsi.read_le; show s.bytesRead ≤ offset; omega, hwin,
      hsi.size_le, hsi.epoch_le, hsi.size_pos⟩ (fun hle => ⟨hle, hcwin, hci.size_le, hci.epoch_le,
      hci.size_pos⟩) ?_ rfl, ⟨Nat.le_refl _, by simp [hrfo]⟩, rfl⟩
    show f.connection.highestReceived + (offset - s.highestReceived) + s.highestReceived =
      f.connection.highestReceived + offset
    omega

theorem Inv.addBytesRead (hi : f.Inv) {i : Nat} {s : StreamFlowController}
    (hs : f.streams[i]? = some (s, false)) (now : Int) {n : Nat}
    (hn : s.bytesRead + n ≤ s.highestReceived) :
    Inv ⟨(s.addBytesRead f.connection now n).2,
      f.streams.set i ((s.addBytesRead f.connection now n).1, false)⟩ := by
  have hsi : s.Inv := hi.streams _ (List.mem_of_getElem? hs)
  refine hi.set hs (hsi.addBytesRead hn now) (fun hle => hi.connection.addBytesRead ?_ now) ?_ ?_
  · simpa [StreamFlowController.addBytesRead] using hle
  · simp [StreamFlowController.addBytesRead]
  · simp only [StreamFlowController.addBytesRead, credited, if_false, Bool.false_eq_true,
      ConnectionFlowController.addBytesRead_toBaseFlowController,
      BaseFlowController.addBytesRead_bytesRead]
    omega

theorem Inv.abandon (hi : f.Inv) (hw : f.WindowsBelow) {i : Nat} {s : StreamFlowController}
    (hs : f.streams[i]? = some (s, false)) (now : Int) :
    Inv ⟨s.abandon f.connection now, f.streams.set i (s, true)⟩ := by
  have hsi : s.Inv := hi.streams _ (List.mem_of_getElem? hs)
  have hsw : s.receiveWindow < 2 ^ 64 := hw.2 _ (List.mem_of_getElem? hs)
  have hread := hsi.read_le
  rw [StreamFlowController.abandon_eq hsi hsw]
  -- the unread bytes count as read from now on, for the stream as for the connection
  split
  · refine hi.set hs hsi (fun hle => hi.connection.addBytesRead ?_ now) ?_ ?_
    · simpa using hle
    · simp
    · simp only [credited, ConnectionFlowController.addBytesRead_toBaseFlowController,
        BaseFlowController.addBytesRead_bytesRead, if_true, if_false, Bool.false_eq_true]
      omega
  · refine hi.set hs hsi (fun _ => hi.connection) rfl ?_
    simp only [credited, if_true, if_false, Bool.false_eq_true]
    omega

theorem Inv.getWindowUpdate (hi : f.Inv) (hw : f.WindowsBelow) {i : Nat}
    {s : StreamFlowController} (hs : f.streams[i]? = some (s, false)) (now rtt : Int) :
    Inv ⟨(s.getWindowUpdate f.connection now rtt).2.1,
      f.streams.set i ((s.getWindowUpdate f.connection now rtt).1, false)⟩ ∧
      Advances (s, false) ((s.getWindowUpdate f.connection now rtt).1, false) := by
  have hsi : s.Inv := hi.streams _ (List.mem_of_getElem? hs)
  have hsw : s.receiveWindow < 2 ^ 64 := hw.2 _ (List.mem_of_getElem? hs)
  obtain ⟨hs', hbr, hhr, hrfo, hwin, hc', hcbr, hchr, -, -⟩ :=
    StreamFlowController.inv_getWindowUpdate hsi hsw hi.connection now rtt
  refine ⟨hi.set hs hs' (fun _ => hc') ?_ ?_, hwin, fun h => ⟨by rw [hrfo]; exact h, hhr⟩⟩
  · show _ + s.highestReceived = _ + (s.getWindowUpdate f.connection now rtt).1.highestReceived
    rw [hchr, hhr]
  · simp only [credited, if_false, Bool.false_eq_true, hcbr, hbr]

theorem Inv.connectionGetWindowUpdate (hi : f.Inv) (hw : f.WindowsBelow) (now rtt : Int) :
    Inv ⟨(f.connection.getWindowUpdate now rtt).1, f.streams⟩ ∧
      f.connection.receiveWindow ≤ (f.connection.getWindowUpdate now rtt).1.receiveWindow := by
  obtain ⟨hc', hbr, hhr, hwin, -, -⟩ := hi.connection.getWindowUpdate hw.1 now rtt
  refine ⟨⟨hc', hi.streams, ?_, ?_⟩, hwin⟩
  · rw [← hi.received]
    exact hhr
  · rw [← hi.read]
    exact hbr

/-- **One call** keeps the invariant, lowers no window, and keeps every final
offset and the highest offset behind it. -/
theorem Inv.step (hi : f.Inv) (hw : f.WindowsBelow) {f' : FlowControllers} (hs : Step f f') :
    f'.Inv ∧ f.connection.receiveWindow ≤ f'.connection.receiveWindow ∧
      StreamsAdvance f.streams f'.streams := by
  obtain ⟨conn, ss⟩ := f
  cases hs with
  | newStream streamID h =>
      exact ⟨hi.newStream streamID h, Nat.le_refl _, streamsAdvance_append _ _⟩
  | updateHighestReceived hs h =>
      obtain ⟨hi', hadv, hcw⟩ := hi.updateHighestReceived hs h
      exact ⟨hi', hcw.ge, streamsAdvance_set hs hadv⟩
  | addBytesRead now hs hn =>
      refine ⟨hi.addBytesRead hs now hn, ?_, streamsAdvance_set hs ⟨?_, ?_⟩⟩
      · simp [StreamFlowController.addBytesRead]
      · simp [StreamFlowController.addBytesRead]
      · intro h
        simpa [StreamFlowController.addBytesRead] using h
  | abandon now hs =>
      refine ⟨hi.abandon hw hs now, ?_, streamsAdvance_set hs ⟨Nat.le_refl _, fun h => ⟨h, rfl⟩⟩⟩
      rw [StreamFlowController.abandon_eq (hi.streams _ (List.mem_of_getElem? hs))
        (hw.2 _ (List.mem_of_getElem? hs))]
      split
      · simp
      · exact Nat.le_refl _
  | getWindowUpdate now rtt hs =>
      obtain ⟨hi', hadv⟩ := hi.getWindowUpdate hw hs now rtt
      have hcw := (StreamFlowController.inv_getWindowUpdate (hi.streams _ (List.mem_of_getElem? hs))
        (hw.2 _ (List.mem_of_getElem? hs)) hi.connection now rtt).2.2.2.2.2.2.2.2.1
      exact ⟨hi', by rw [hcw], streamsAdvance_set hs hadv⟩
  | connectionGetWindowUpdate now rtt =>
      obtain ⟨hi', hwin⟩ := hi.connectionGetWindowUpdate hw now rtt
      exact ⟨hi', hwin, fun j q hq => ⟨q, hq, advances_refl q⟩⟩

end Step

/-- **Every run keeps the invariant.** -/
theorem Reachable.inv {f : FlowControllers} (hr : f.Reachable) : f.Inv ∧ f.WindowsBelow := by
  induction hr with
  | init h hw => exact ⟨⟨BaseFlowController.inv_new h, by simp, rfl, rfl⟩, hw, by simp⟩
  | step _ hs hw ih => exact ⟨(ih.1.step ih.2 hs).1, hw⟩

/-- **Receive-side flow control is consistent.**  Over every run in which each
controller starts with a window at most its maximum window size: the connection's
highest offset is the sum of its streams'; no highest offset passes its window; no
call lowers a window, and once a stream knows its final offset, no call changes it
or the highest offset; a nonzero window returned by `GetWindowUpdate` is above the
window before; and a stream that knows its final offset answers an offset past it,
or another final offset, with a `FINAL_SIZE_ERROR`. -/
theorem reachable_flowControl {f : FlowControllers} (hr : f.Reachable) :
    f.connection.highestReceived = (f.streams.map fun p => p.1.highestReceived).sum ∧
      f.connection.highestReceived ≤ f.connection.receiveWindow ∧
      (∀ p ∈ f.streams, p.1.highestReceived ≤ p.1.receiveWindow) ∧
      (∀ f', Step f f' → f.connection.receiveWindow ≤ f'.connection.receiveWindow ∧
        ∀ (i : Nat) p, f.streams[i]? = some p → ∃ p', f'.streams[i]? = some p' ∧
          p.1.receiveWindow ≤ p'.1.receiveWindow ∧
          (p.1.receivedFinalOffset = true →
            p'.1.receivedFinalOffset = true ∧ p'.1.highestReceived = p.1.highestReceived)) ∧
      (∀ now rtt, (f.connection.getWindowUpdate now rtt).2 ≠ 0 →
        f.connection.receiveWindow < (f.connection.getWindowUpdate now rtt).2) ∧
      (∀ p ∈ f.streams, ∀ now rtt, (p.1.getWindowUpdate f.connection now rtt).2.2 ≠ 0 →
        p.1.receiveWindow < (p.1.getWindowUpdate f.connection now rtt).2.2) ∧
      (∀ p ∈ f.streams, p.1.receivedFinalOffset = true → ∀ offset final,
        (p.1.highestReceived < offset ∨ (final = true ∧ offset ≠ p.1.highestReceived)) →
          ∃ msg, (p.1.updateHighestReceived f.connection offset final).2.2 =
            .error (finalSizeError msg)) := by
  obtain ⟨hi, hw⟩ := hr.inv
  refine ⟨hi.received, hi.connection.received_le, fun p hp => (hi.streams p hp).received_le,
    ?_, ?_, ?_, ?_⟩
  · intro f' hs
    obtain ⟨-, hcw, hadv⟩ := hi.step hw hs
    exact ⟨hcw, hadv⟩
  · intro now rtt
    obtain ⟨-, -, -, -, -, hret⟩ := hi.connection.getWindowUpdate hw.1 now rtt
    simpa using hret
  · intro p hp now rtt
    obtain ⟨-, -, -, -, -, -, -, -, -, hret⟩ :=
      StreamFlowController.inv_getWindowUpdate (hi.streams p hp) (hw.2 p hp) hi.connection now rtt
    exact hret
  · intro p _ hf offset final h
    exact StreamFlowController.updateHighestReceived_of_receivedFinalOffset hf h

/-- **Every stream starts at `InitialMaxStreamData`.**  The peer fills the 512 KiB
window of a new stream of the session, and the application reads 400 KiB and asks
for a window update within the round trip, so auto-tuning doubles the window size,
capped at the configured maximum.  With the default maximum the controllers are
reachable and the window stays above what was received.  With a configured
maximum of 100 KiB the window update lowers the window to 500 KiB, below the
512 KiB received; once the application has read them all, the `uint64`
difference of `hasWindowUpdate` wraps, and no window update comes again. -/
theorem reachable_flowControl_initialMaxStreamData :
    (∃ f : FlowControllers, f.Reachable ∧
      (f.streams.map fun p => (p.1.highestReceived, p.1.bytesRead, p.1.receiveWindow)) =
        [(InitialMaxStreamData, 409600, 1458176)] ∧
      ∀ p ∈ f.streams, p.1.highestReceived ≤ p.1.receiveWindow) ∧
    (let c₀ := ConnectionFlowController.new InitialMaxData
      (populateMaxReceiveWindow 0 DefaultMaxReceiveConnectionFlowControlWindow)
    let r₁ := (newFlowController (populateMaxReceiveWindow 102400
      DefaultMaxReceiveStreamFlowControlWindow) 0).updateHighestReceived c₀ InitialMaxStreamData false
    let r₂ := r₁.1.addBytesRead r₁.2.1 0 409600
    let r₃ := r₂.1.getWindowUpdate r₂.2 0 1000000
    let r₄ := r₃.1.addBytesRead r₃.2.1 0 114688
    r₁.2.2 = .ok () ∧ r₃.2.2 = 512000 ∧ r₃.1.receiveWindow < r₃.1.highestReceived ∧
      r₄.1.bytesRead = InitialMaxStreamData ∧
      ∀ now rtt, (r₄.1.getWindowUpdate r₄.2 now rtt).2.2 = 0) := by
  refine ⟨?_, ?_⟩
  · let c₀ := ConnectionFlowController.new InitialMaxData
      (populateMaxReceiveWindow 0 DefaultMaxReceiveConnectionFlowControlWindow)
    let s₀ := newFlowController (populateMaxReceiveWindow 0 DefaultMaxReceiveStreamFlowControlWindow) 0
    let r₁ := s₀.updateHighestReceived c₀ InitialMaxStreamData false
    let r₂ := r₁.1.addBytesRead r₁.2.1 0 409600
    have h₀ : Reachable ⟨c₀, []⟩ := .init (by decide) (by decide)
    have h₁ : Reachable ⟨c₀, [(s₀, false)]⟩ :=
      .step h₀ (.newStream 0 (by decide)) ⟨by decide, by decide⟩
    have hok : r₁.2.2 = .ok () := by decide +kernel
    have hr₁ : r₁ = (r₁.1, r₁.2.1, .ok ()) := by
      rw [← hok]
    have h₂ : Reachable ⟨r₁.2.1, [(r₁.1, false)]⟩ :=
      .step h₁ (.updateHighestReceived (i := 0) rfl hr₁) ⟨by decide +kernel, by decide +kernel⟩
    have h₃ : Reachable ⟨r₂.2, [(r₂.1, false)]⟩ :=
      .step h₂ (.addBytesRead (i := 0) 0 rfl (by decide +kernel)) ⟨by decide +kernel, by decide +kernel⟩
    have h₄ : Reachable ⟨(r₂.1.getWindowUpdate r₂.2 0 1000000).2.1,
        [((r₂.1.getWindowUpdate r₂.2 0 1000000).1, false)]⟩ :=
      .step h₃ (.getWindowUpdate (i := 0) 0 1000000 rfl) ⟨by decide +kernel, by decide +kernel⟩
    exact ⟨_, h₄, by decide +kernel, (reachable_flowControl h₄).2.2.1⟩
  · dsimp only
    refine ⟨by decide +kernel, by decide +kernel, by decide +kernel, by decide +kernel, fun now rtt => ?_⟩
    exact StreamFlowController.getWindowUpdate_of_hasWindowUpdate_false (by decide +kernel) now rtt

end FlowControllers

end QuicFec
