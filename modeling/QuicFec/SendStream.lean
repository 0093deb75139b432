import Mathlib
import QuicFec.FrameSplit

/-! # The send stream

`sendStream` (send_stream.go) is the sending half of a QUIC stream.  `Write` hands
it the application's bytes and waits until they are all taken; the framer takes
them with `popStreamFrame`, in STREAM frames of at most the size it asks for and
within the flow control windows of the stream and of the connection.  `Close` has
a frame with the FIN bit follow the data; `CancelWrite`, or a STOP_SENDING frame
of the peer, ends the stream with a RESET_STREAM frame instead.

The `streamSender` the stream notifies is the log of the calls made to it.  Of the
flow controllers, the model has the send half of `baseFlowController`
(`SendFlowController`): its methods for sending touch no other field, and those
for receiving (`FlowControl`) none of these.  The connection's controller is
shared by the streams, so the functions that use it take it and give it back.

`Write` blocks.  A run interleaves the calls of the goroutine in `Write` (the first
pass of its loop, and the next one each time it wakes) with those of the framer,
the session and the application.  The goroutine may wake at any point of a run:
`signalWrite` and the deadline timer wake it at some of these points, and a pass
that finds nothing changed waits again, so the runs of the model include those of
the code.  The context, the mutex, the timer and the version are left out.

Main results:

* `runSendStream_delivers`: over every run, the frames popped carry the bytes the
  `Write`s reported written, in order, each frame starting where the one before
  ended; and a `Write` that returns without an error wrote all of its bytes;
* `runSendStream_within_windows`: the data sent never goes beyond the largest
  limit the peer granted for the stream, nor, with what was sent on the
  connection before, beyond that of the connection; the STREAM_DATA_BLOCKED frames
  name ever higher limits, each one reached by the data;
* `runSendStream_ends_once`: the FIN bit is on at most one frame, the last; at most
  one RESET_STREAM is queued, never with a FIN, and it carries the final size, all
  the bytes sent in the run; the sender hears once that the stream completed.
-/

namespace QuicFec
open GoBytes

/-! ## Send-side flow control -/

/-- The fields of `baseFlowController` for sending data. -/
structure SendFlowController where
  bytesSent : Nat
  sendWindow : Nat
  lastBlockedAt : Nat
  deriving DecidableEq, Repr

namespace SendFlowController

/-- The send half of a new controller: a stream's starts at the peer's initial
window, a connection's at 0, before the peer's transport parameters. -/
def new (initialSendWindow : Nat) : SendFlowController := ⟨0, initialSendWindow, 0⟩

/-- `sendWindowSize`: 0 when more was sent than the window allows. -/
def sendWindowSize (c : SendFlowController) : Nat :=
  if c.bytesSent > c.sendWindow then 0 else c.sendWindow - c.bytesSent

/-- `AddBytesSent`. -/
def addBytesSent (c : SendFlowController) (n : Nat) : SendFlowController :=
  { c with bytesSent := c.bytesSent + n }

/-- `UpdateSendWindow`: the window only grows. -/
def updateSendWindow (c : SendFlowController) (offset : Nat) : SendFlowController :=
  if offset > c.sendWindow then { c with sendWindow := offset } else c

/-- `IsNewlyBlocked`: whether the window is used up at an offset it was not
blocked at before, and that offset. -/
def isNewlyBlocked (c : SendFlowController) : (Bool × Nat) × SendFlowController :=
  if c.sendWindowSize ≠ 0 || c.sendWindow = c.lastBlockedAt then ((false, 0), c)
  else ((true, c.sendWindow), { c with lastBlockedAt := c.sendWindow })

/-- `streamFlowController.SendWindowSize`: the least of the stream's and its
connection's. -/
def streamSendWindowSize (c connection : SendFlowController) : Nat :=
  min c.sendWindowSize connection.sendWindowSize

end SendFlowController

/-! ## The stream -/

/-- The calls a stream makes on its `streamSender`. -/
inductive StreamSenderCall where
  | queueControlFrame (f : Frame)
  | onHasStreamData (id : Nat)
  | onStreamCompleted (id : Nat)
  deriving DecidableEq, Repr

/-- `sendStream`.  `dataForWriting` is `none` for Go's `nil`, and the deadline
`none` for the zero `time.Time`. -/
structure SendStream where
  streamID : Nat
  sender : List StreamSenderCall
  writeOffset : Nat
  cancelWriteErr : Option GoError
  closeForShutdownErr : Option GoError
  closedForShutdown : Bool
  finishedWriting : Bool
  canceledWrite : Bool
  finSent : Bool
  dataForWriting : Option Bytes
  deadline : Option Int
  flowController : SendFlowController
  deriving DecidableEq, Repr

/-- `newSendStream`, with a new flow controller of the peer's initial window. -/
def newSendStream (streamID initialSendWindow : Nat) : SendStream where
  streamID := streamID
  sender := []
  writeOffset := 0
  cancelWriteErr := none
  closeForShutdownErr := none
  closedForShutdown := false
  finishedWriting := false
  canceledWrite := false
  finSent := false
  dataForWriting := none
  deadline := none
  flowController := SendFlowController.new initialSendWindow

/-- `errDeadline`. -/
def errDeadline : GoError := .error "deadline exceeded"

/-- `errorCodeStopping`. -/
def errorCodeStopping : Nat := 0

/-- A `Write` waiting in its loop: its argument, and whether it told the sender
that the stream has data. -/
structure PendingWrite where
  p : Bytes
  notifiedSender : Bool
  deriving DecidableEq, Repr

/-- How a pass of `Write` ends: it returns the bytes written and its error (`none`
for `nil`), or it waits. -/
inductive WriteResult where
  | returned (n : Nat) (err : Option GoError)
  | waiting (w : PendingWrite)
  deriving DecidableEq, Repr

namespace SendStream

/-- The test of `Write` on the deadline: `!time.Now().Before(deadline)`. -/
def deadlinePassed (s : SendStream) (now : Int) : Bool := s.deadline.any (now ≥ ·)

/-- One pass of the loop of `Write` at time `now`, and its end if the loop breaks.
The bytes written are those of `p` that are no longer in `dataForWriting`. -/
def writeLoop (s : SendStream) (w : PendingWrite) (now : Int) : WriteResult × SendStream :=
  let bytesWritten := w.p.length - (s.dataForWriting.getD []).length
  if s.deadlinePassed now then (.returned bytesWritten (some errDeadline), { s with dataForWriting := none })
  else if s.dataForWriting.isNone || s.canceledWrite || s.closedForShutdown then
    (.returned bytesWritten (s.closeForShutdownErr.or s.cancelWriteErr), s)
  else if w.notifiedSender then (.waiting w, s)
  else (.waiting { w with notifiedSender := true }, { s with sender := s.sender ++ [.onHasStreamData s.streamID] })

/-- `Write`, up to the end of the first pass of its loop. -/
def write (s : SendStream) (p : Bytes) (now : Int) : WriteResult × SendStream :=
  if s.finishedWriting then (.returned 0 (some (.error ("write on closed stream " ++ toString s.streamID))), s)
  else if s.canceledWrite then (.returned 0 s.cancelWriteErr, s)
  else match s.closeForShutdownErr with
    | some err => (.returned 0 (some err), s)
    | none =>
      if s.deadlinePassed now then (.returned 0 (some errDeadline), s)
      else if p.length = 0 then (.returned 0 none, s)
      else { s with dataForWriting := some p }.writeLoop ⟨p, false⟩ now

/-- `getDataForWriting`: at most `maxBytes` bytes of the data, and within the flow
control windows, and whether the FIN is to be sent with them. -/
def getDataForWriting (s : SendStream) (connection : SendFlowController) (maxBytes : Nat) :
    (Bytes × Bool) × SendStream × SendFlowController :=
  match s.dataForWriting with
  | none => (([], s.finishedWriting && !s.finSent), s, connection)
  | some data =>
    let maxBytes := min maxBytes (s.flowController.streamSendWindowSize connection)
    if maxBytes = 0 then (([], false), s, connection)
    else
      -- `nil` once all the data is taken, when the waiting `Write` is signalled
      let (ret, rest) := if data.length > maxBytes then (data.take maxBytes, some (data.drop maxBytes))
        else (data, none)
      let s := { s with
        dataForWriting := rest, writeOffset := s.writeOffset + ret.length,
        flowController := s.flowController.addBytesSent ret.length }
      ((ret, s.finishedWriting && rest.isNone && !s.finSent), s, connection.addBytesSent ret.length)

/-- Whether the stream sends nothing more: canceled or closed for shutdown. -/
def stopped (s : SendStream) : Bool := s.canceledWrite || s.closeForShutdownErr.isSome

/-- `popStreamFrameImpl`: whether the stream completed, the frame, and whether the
stream has more data to send. -/
def popStreamFrameImpl (s : SendStream) (connection : SendFlowController) (maxBytes : Nat) :
    Except GoError ((Bool × Option StreamFrame × Bool) × SendStream × SendFlowController) := do
  if s.stopped then return ((false, none, false), s, connection)
  let frame : StreamFrame :=
    { streamID := s.streamID, finBit := false, dataLenPresent := true, offset := s.writeOffset, data := [] }
  let maxDataLen ← frame.maxDataLen maxBytes
  -- a STREAM frame must have at least one byte of data
  if maxDataLen = 0 then return ((false, none, s.dataForWriting.isSome), s, connection)
  let ((data, finBit), s, connection) := s.getDataForWriting connection maxDataLen
  if data.length = 0 && !finBit then
    if s.dataForWriting.isNone then return ((false, none, false), s, connection)
    -- blocked by flow control, of the stream or of the connection
    let ((isBlocked, offset), fc) := s.flowController.isNewlyBlocked
    let s := { s with flowController := fc }
    if isBlocked then
      return ((false, none, false),
        { s with sender := s.sender ++ [.queueControlFrame (.streamDataBlocked ⟨s.streamID, offset⟩)] },
        connection)
    return ((false, none, true), s, connection)
  let s := if finBit then { s with finSent := true } else s
  return ((finBit, some { frame with data := data, finBit := finBit }, s.dataForWriting.isSome), s, connection)

/-- The call `onStreamCompleted` that follows a step that completed the stream. -/
def notifyCompleted (s : SendStream) (completed : Bool) : SendStream :=
  if completed then { s with sender := s.sender ++ [.onStreamCompleted s.streamID] } else s

/-- `popStreamFrame`: the frame (`none` for `nil`) and whether the stream has more
data to send. -/
def popStreamFrame (s : SendStream) (connection : SendFlowController) (maxBytes : Nat) :
    Except GoError ((Option StreamFrame × Bool) × SendStream × SendFlowController) := do
  let ((completed, frame, hasMoreData), s, connection) ← s.popStreamFrameImpl connection maxBytes
  return ((frame, hasMoreData), s.notifyCompleted completed, connection)

/-- `hasData`. -/
def hasData (s : SendStream) : Bool := (s.dataForWriting.getD []).length > 0

/-- `Close`. -/
def close (s : SendStream) : Except GoError SendStream :=
  if s.canceledWrite then .error (.error ("Close called for canceled stream " ++ toString s.streamID))
  -- the FIN is to be sent
  else .ok { s with finishedWriting := true, sender := s.sender ++ [.onHasStreamData s.streamID] }

/-- `cancelWriteImpl`: whether the stream completed. -/
def cancelWriteImpl (s : SendStream) (errorCode : Nat) (writeErr : GoError) : Bool × SendStream :=
  if s.canceledWrite || s.finishedWriting then (false, s)
  else (true, { s with
    canceledWrite := true, cancelWriteErr := some writeErr,
    sender := s.sender ++ [.queueControlFrame (.resetStream ⟨s.streamID, errorCode, s.writeOffset⟩)] })

/-- `cancelWriteImpl`, and the `onStreamCompleted` its callers make when it
completes the stream: the body of `CancelWrite` and of `handleStopSendingFrame`. -/
def cancelWriteWith (s : SendStream) (errorCode : Nat) (writeErr : GoError) : SendStream :=
  let (completed, s') := s.cancelWriteImpl errorCode writeErr
  s'.notifyCompleted completed

/-- `CancelWrite`. -/
def cancelWrite (s : SendStream) (errorCode : Nat) : SendStream :=
  s.cancelWriteWith errorCode
    (.error ("Write on stream " ++ toString s.streamID ++ " canceled with error code " ++ toString errorCode))

/-- `handleStopSendingFrame`: the stream is canceled with `errorCodeStopping`, and
`Write` returns a `streamCanceledError` with the peer's error code. -/
def handleStopSendingFrame (s : SendStream) (frame : StopSendingFrame) : SendStream :=
  s.cancelWriteWith errorCodeStopping
    (.error ("Stream " ++ toString s.streamID ++ " was reset with error code " ++ toString frame.errorCode))

/-- `handleMaxStreamDataFrame`. -/
def handleMaxStreamDataFrame (s : SendStream) (frame : MaxStreamDataFrame) : SendStream :=
  let hasStreamData := s.dataForWriting.isSome
  let s := { s with flowController := s.flowController.updateSendWindow frame.byteOffset }
  if hasStreamData then { s with sender := s.sender ++ [.onHasStreamData s.streamID] } else s

/-- `closeForShutdown`, with the error of the connection, which the session always
gives. -/
def closeForShutdown (s : SendStream) (err : GoError) : SendStream :=
  { s with closedForShutdown := true, closeForShutdownErr := some err }

/-- `SetWriteDeadline`. -/
def setWriteDeadline (s : SendStream) (t : Option Int) : SendStream := { s with deadline := t }

end SendStream

/-! ## Runs -/

/-- The sending side of a stream: the stream, the send half of its connection's
flow controller, and the `Write` waiting on it, if any. -/
structure SendSide where
  stream : SendStream
  connection : SendFlowController
  writer : Option PendingWrite
  deriving DecidableEq, Repr

/-- The calls on a send stream: of the application, of the goroutine waiting in
`Write` when it wakes, of the framer, and of the session (frames received, the
shutdown, and `MAX_DATA` on the connection). -/
inductive SendStreamCall where
  | write (p : Bytes) (now : Int)
  | wake (now : Int)
  | popStreamFrame (maxBytes : Nat)
  | close
  | cancelWrite (errorCode : Nat)
  | setWriteDeadline (t : Option Int)
  | handleStopSendingFrame (frame : StopSendingFrame)
  | handleMaxStreamDataFrame (frame : MaxStreamDataFrame)
  | closeForShutdown (err : GoError)
  | updateConnectionSendWindow (offset : Nat)
  deriving DecidableEq, Repr

/-- A `Write` that returned: its argument, the bytes it reported written, and its
error. -/
structure WriteCall where
  p : Bytes
  n : Nat
  err : Option GoError
  deriving DecidableEq, Repr

/-- What the calls of a run gave back: the frames popped and the `Write`s that
returned, in order. -/
structure SendStreamTrace where
  frames : List StreamFrame
  writes : List WriteCall
  deriving DecidableEq, Repr

/-- The side after a pass of `Write` on `p`: a `Write` that returns is logged. -/
def SendSide.afterWrite (st : SendSide) (tr : SendStreamTrace) (p : Bytes) :
    WriteResult × SendStream → SendSide × SendStreamTrace
  | (.returned n err, s) => ({ st with stream := s, writer := none }, { tr with writes := tr.writes ++ [⟨p, n, err⟩] })
  | (.waiting w, s) => ({ st with stream := s, writer := some w }, tr)

@[simp] theorem SendSide.afterWrite_returned (st : SendSide) (tr : SendStreamTrace) (p : Bytes) (n : Nat)
    (err : Option GoError) (s : SendStream) :
    st.afterWrite tr p (.returned n err, s) =
      ({ st with stream := s, writer := none }, { tr with writes := tr.writes ++ [⟨p, n, err⟩] }) := rfl

@[simp] theorem SendSide.afterWrite_waiting (st : SendSide) (tr : SendStreamTrace) (p : Bytes) (w : PendingWrite)
    (s : SendStream) : st.afterWrite tr p (.waiting w, s) = ({ st with stream := s, writer := some w }, tr) := rfl

/-- One call.  The goroutine waiting in `Write` cannot call `Write` again, and only
it wakes: those calls change nothing.  A `Close` that fails returns its error to
the application and leaves the stream as it was. -/
def SendStreamCall.apply : SendStreamCall → SendSide × SendStreamTrace → Except GoError (SendSide × SendStreamTrace)
  | .write p now, (st, tr) =>
    match st.writer with
    | some _ => .ok (st, tr)
    | none => .ok (st.afterWrite tr p (st.stream.write p now))
  | .wake now, (st, tr) =>
    match st.writer with
    | none => .ok (st, tr)
    | some w => .ok (st.afterWrite tr w.p (st.stream.writeLoop w now))
  | .popStreamFrame maxBytes, (st, tr) => do
    let ((frame, _), s, connection) ← st.stream.popStreamFrame st.connection maxBytes
    return ({ st with stream := s, connection := connection }, { tr with frames := tr.frames ++ frame.toList })
  | .close, (st, tr) =>
    match st.stream.close with
    | .ok s => .ok ({ st with stream := s }, tr)
    | .error _ => .ok (st, tr)
  | .cancelWrite errorCode, (st, tr) => .ok ({ st with stream := st.stream.cancelWrite errorCode }, tr)
  | .setWriteDeadline t, (st, tr) => .ok ({ st with stream := st.stream.setWriteDeadline t }, tr)
  | .handleStopSendingFrame frame, (st, tr) =>
    .ok ({ st with stream := st.stream.handleStopSendingFrame frame }, tr)
  | .handleMaxStreamDataFrame frame, (st, tr) =>
    .ok ({ st with stream := st.stream.handleMaxStreamDataFrame frame }, tr)
  | .closeForShutdown err, (st, tr) => .ok ({ st with stream := st.stream.closeForShutdown err }, tr)
  | .updateConnectionSendWindow offset, (st, tr) =>
    .ok ({ st with connection := st.connection.updateSendWindow offset }, tr)

/-- The calls one after the other on a new stream, with the connection's send
half as it is when the stream opens. -/
def runSendStream (streamID initialSendWindow : Nat) (connection : SendFlowController)
    (calls : List SendStreamCall) : Except GoError (SendSide × SendStreamTrace) :=
  calls.foldlM (fun acc c => c.apply acc) (⟨newSendStream streamID initialSendWindow, connection, none⟩, ⟨[], []⟩)

/-! ## What each call does -/

namespace SendFlowController
variable {c : SendFlowController}

@[simp] theorem addBytesSent_bytesSent (n : Nat) : (c.addBytesSent n).bytesSent = c.bytesSent + n := rfl
@[simp] theorem addBytesSent_sendWindow (n : Nat) : (c.addBytesSent n).sendWindow = c.sendWindow := rfl
@[simp] theorem addBytesSent_lastBlockedAt (n : Nat) : (c.addBytesSent n).lastBlockedAt = c.lastBlockedAt := rfl
@[simp] theorem addBytesSent_zero : c.addBytesSent 0 = c := rfl

@[simp] theorem updateSendWindow_bytesSent (o : Nat) : (c.updateSendWindow o).bytesSent = c.bytesSent := by
  unfold updateSendWindow; split_ifs <;> rfl
@[simp] theorem updateSendWindow_lastBlockedAt (o : Nat) :
    (c.updateSendWindow o).lastBlockedAt = c.lastBlockedAt := by
  unfold updateSendWindow; split_ifs <;> rfl
@[simp] theorem updateSendWindow_sendWindow (o : Nat) : (c.updateSendWindow o).sendWindow = max c.sendWindow o := by
  unfold updateSendWindow
  split_ifs with h
  · show o = max c.sendWindow o
    omega
  · show c.sendWindow = max c.sendWindow o
    omega

theorem sendWindowSize_of_le (h : c.bytesSent ≤ c.sendWindow) : c.sendWindowSize = c.sendWindow - c.bytesSent := by
  simp [sendWindowSize, Nat.not_lt.2 h]

theorem bytesSent_add_le (h : c.bytesSent ≤ c.sendWindow) {n : Nat} (hn : n ≤ c.sendWindowSize) :
    c.bytesSent + n ≤ c.sendWindow := by
  rw [sendWindowSize_of_le h] at hn
  omega

/-- What `IsNewlyBlocked` finds and changes. -/
theorem isNewlyBlocked_spec {b : Bool} {o : Nat} {c' : SendFlowController} (h : c.isNewlyBlocked = ((b, o), c')) :
    c'.bytesSent = c.bytesSent ∧ c'.sendWindow = c.sendWindow ∧
      (b = false ∧ c'.lastBlockedAt = c.lastBlockedAt ∨
        b = true ∧ o = c.sendWindow ∧ c.sendWindowSize = 0 ∧ c.sendWindow ≠ c.lastBlockedAt ∧
          c'.lastBlockedAt = c.sendWindow) := by
  unfold isNewlyBlocked at h
  split_ifs at h with hb
  · cases h
    exact ⟨rfl, rfl, .inl ⟨rfl, rfl⟩⟩
  · cases h
    simp only [Bool.or_eq_true, decide_eq_true_eq, not_or, ne_eq, Decidable.not_not] at hb
    exact ⟨rfl, rfl, .inr ⟨rfl, rfl, hb.1, hb.2, rfl⟩⟩

end SendFlowController

namespace SendStream
variable {s s' : SendStream} {connection connection' : SendFlowController}

/-- What `getDataForWriting` takes: `ret` off the front of the data, within the
windows, counted by the write offset and both controllers; the FIN goes with it
when the data is used up after `Close`. -/
theorem getDataForWriting_spec {maxBytes : Nat} {ret : Bytes} {fin : Bool}
    (h : s.getDataForWriting connection maxBytes = ((ret, fin), s', connection')) :
    ∃ rest, s' = { s with
      dataForWriting := rest, writeOffset := s.writeOffset + ret.length,
      flowController := s.flowController.addBytesSent ret.length } ∧
    connection' = connection.addBytesSent ret.length ∧
    s.dataForWriting.getD [] = ret ++ rest.getD [] ∧
    (s.dataForWriting = none → rest = none) ∧
    ret.length ≤ min maxBytes (s.flowController.streamSendWindowSize connection) ∧
    fin = (s.finishedWriting && rest.isNone && !s.finSent) := by
  unfold getDataForWriting at h
  split at h
  next hd =>
    cases h
    refine ⟨s.dataForWriting, rfl, rfl, by simp, id, by simp, by simp [hd]⟩
  next data hd =>
    dsimp only at h
    split_ifs at h with h0 hlen
    · cases h
      exact ⟨s.dataForWriting, rfl, rfl, by simp, id, by simp, by simp [hd]⟩
    · cases h
      exact ⟨_, rfl, rfl, by simp [hd], by simp [hd], by simp, rfl⟩
    · cases h
      exact ⟨_, rfl, rfl, by simp [hd], by simp [hd], by simp; omega, rfl⟩

/-- What a `popStreamFrame` does: it takes `ret` off the front of the data, within
the windows, and gives it in a frame at the write offset, the FIN with it once the
data is used up after `Close`.  The sender hears of the stream's completion with
the FIN, and of a newly used up window with a STREAM_DATA_BLOCKED frame. -/
structure Pops (s : SendStream) (connection : SendFlowController) (frame : Option StreamFrame)
    (s' : SendStream) (connection' : SendFlowController) (ret : Bytes) : Prop where
  data : s.dataForWriting.getD [] = ret ++ s'.dataForWriting.getD []
  data_none : s.dataForWriting = none → s'.dataForWriting = none
  within : ret.length ≤ s.flowController.streamSendWindowSize connection
  stream_eq : s' = { s with
    dataForWriting := s'.dataForWriting, writeOffset := s.writeOffset + ret.length,
    flowController := { s.flowController with
      bytesSent := s.flowController.bytesSent + ret.length,
      lastBlockedAt := s'.flowController.lastBlockedAt },
    finSent := s.finSent || frame.any (·.finBit), sender := s'.sender }
  connection_eq : connection' = connection.addBytesSent ret.length
  frame_none : frame = none → ret = []
  frame_some : ∀ f, frame = some f → f = ⟨s.streamID, f.finBit, true, s.writeOffset, ret⟩
  frame_nonempty : ∀ f, frame = some f → ret ≠ [] ∨ f.finBit = true
  fin : frame.any (·.finBit) → s.finishedWriting ∧ s.finSent = false ∧ s'.dataForWriting = none
  stopped : s.stopped → frame = none ∧ s' = s ∧ connection' = connection
  sender : frame.any (·.finBit) ∧ s'.sender = s.sender ++ [.onStreamCompleted s.streamID] ∧
        s'.flowController.lastBlockedAt = s.flowController.lastBlockedAt ∨
      frame.any (·.finBit) = false ∧ s'.sender = s.sender ∧
        s'.flowController.lastBlockedAt = s.flowController.lastBlockedAt ∨
      frame = none ∧ s.flowController.sendWindowSize = 0 ∧
        s.flowController.sendWindow ≠ s.flowController.lastBlockedAt ∧
        s'.flowController.lastBlockedAt = s.flowController.sendWindow ∧
        s'.sender = s.sender ++
          [.queueControlFrame (.streamDataBlocked ⟨s.streamID, s.flowController.sendWindow⟩)]

@[simp] theorem notifyCompleted_false : s.notifyCompleted false = s := rfl

@[simp] theorem notifyCompleted_true :
    s.notifyCompleted true = { s with sender := s.sender ++ [.onStreamCompleted s.streamID] } := rfl

/-- A pop that takes nothing and changes nothing. -/
theorem pops_self : Pops s connection none s connection [] where
  data := rfl
  data_none := id
  within := Nat.zero_le _
  stream_eq := by simp
  connection_eq := rfl
  frame_none _ := rfl
  frame_some _ h := by cases h
  frame_nonempty _ h := by cases h
  fin h := by cases h
  stopped _ := ⟨rfl, rfl, rfl⟩
  sender := .inr (.inl ⟨rfl, rfl, rfl⟩)

/-- A pop that gives no frame: the data is not taken (it may go from empty to
`nil`), and the sender hears of a newly used up window, if any. -/
theorem pops_none {rest : Option Bytes} {fc : SendFlowController} {sender : List StreamSenderCall}
    (hdata : s.dataForWriting.getD [] = rest.getD []) (hnone : s.dataForWriting = none → rest = none)
    (hst : s.stopped = false) (hbs : fc.bytesSent = s.flowController.bytesSent)
    (hsw : fc.sendWindow = s.flowController.sendWindow)
    (hsender : sender = s.sender ∧ fc.lastBlockedAt = s.flowController.lastBlockedAt ∨
      s.flowController.sendWindowSize = 0 ∧ s.flowController.sendWindow ≠ s.flowController.lastBlockedAt ∧
        fc.lastBlockedAt = s.flowController.sendWindow ∧
        sender = s.sender ++ [.queueControlFrame (.streamDataBlocked ⟨s.streamID, s.flowController.sendWindow⟩)]) :
    Pops s connection none { s with dataForWriting := rest, flowController := fc, sender := sender } connection [] where
  data := hdata
  data_none := hnone
  within := Nat.zero_le _
  stream_eq := by
    obtain ⟨_, _, _⟩ := fc
    simp_all
  connection_eq := rfl
  frame_none _ := rfl
  frame_some _ h := by cases h
  frame_nonempty _ h := by cases h
  fin h := by cases h
  stopped h := by simp [hst] at h
  sender := by
    rcases hsender with ⟨rfl, hl⟩ | ⟨h0, hne, hl, rfl⟩
    · exact .inr (.inl ⟨rfl, rfl, hl⟩)
    · exact .inr (.inr ⟨rfl, h0, hne, hl, rfl⟩)

theorem popStreamFrame_pops {maxBytes : Nat} {frame : Option StreamFrame} {more : Bool}
    (h : s.popStreamFrame connection maxBytes = .ok ((frame, more), s', connection')) :
    ∃ ret, Pops s connection frame s' connection' ret := by
  obtain ⟨⟨⟨completed, frame₀, more₀⟩, s₁, c₁⟩, himpl, h⟩ := bind_eq_ok.1 h
  cases h
  unfold popStreamFrameImpl at himpl
  by_cases hst : s.stopped
  · rw [if_pos hst] at himpl
    cases himpl
    exact ⟨[], pops_self⟩
  rw [if_neg hst] at himpl
  obtain ⟨maxDataLen, -, himpl⟩ := bind_eq_ok.1 himpl
  by_cases h0 : maxDataLen = 0
  · rw [if_pos h0] at himpl
    cases himpl
    exact ⟨[], pops_self⟩
  rw [if_neg h0] at himpl
  rcases hg : s.getDataForWriting connection maxDataLen with ⟨⟨ret, fin⟩, s₂, c₂⟩
  obtain ⟨rest, rfl, rfl, hdata, hnone, hwithin, hfin⟩ := getDataForWriting_spec hg
  rw [hg] at himpl
  dsimp only at himpl
  by_cases he : (decide (ret.length = 0) && !fin) = true
  · -- no data, and no FIN: the stream has nothing to send, or is blocked
    rw [if_pos he] at himpl
    simp only [Bool.and_eq_true, decide_eq_true_eq, List.length_eq_zero_iff, Bool.not_eq_true'] at he
    obtain ⟨rfl, rfl⟩ := he
    simp only [List.length_nil, Nat.add_zero, SendFlowController.addBytesSent_zero] at himpl hdata
    have hst' : s.stopped = false := by simpa using hst
    by_cases hn : rest.isNone = true
    · rw [if_pos hn] at himpl
      cases himpl
      exact ⟨[], pops_none hdata hnone hst' rfl rfl (.inl ⟨rfl, rfl⟩)⟩
    rw [if_neg hn] at himpl
    rcases hb : s.flowController.isNewlyBlocked with ⟨⟨b, o⟩, fc⟩
    obtain ⟨hbs, hsw, hbl⟩ := SendFlowController.isNewlyBlocked_spec hb
    simp only [hb] at himpl
    cases b
    · cases himpl
      obtain ⟨-, hl⟩ | ⟨h, -⟩ := hbl
      · exact ⟨[], pops_none hdata hnone hst' hbs hsw (.inl ⟨rfl, hl⟩)⟩
      · cases h
    · cases himpl
      obtain ⟨h, -⟩ | ⟨-, rfl, h0, hne, hl⟩ := hbl
      · cases h
      · exact ⟨[], pops_none hdata hnone hst' hbs hsw (.inr ⟨h0, hne, hl, rfl⟩)⟩
  · -- a frame with the data, and the FIN if it is due
    rw [if_neg he] at himpl
    cases himpl
    have hst' : s.stopped = false := by simpa using hst
    cases completed
    · exact ⟨ret, {
        data := hdata
        data_none := hnone
        within := le_trans hwithin (Nat.min_le_right _ _)
        stream_eq := by simp [SendFlowController.addBytesSent]
        connection_eq := rfl
        frame_none := fun h => by cases h
        frame_some := fun _ h => by cases h; rfl
        frame_nonempty := fun _ h => by cases h; simpa using he
        fin := fun h => by cases h
        stopped := fun h => by simp [hst'] at h
        sender := .inr (.inl ⟨rfl, rfl, rfl⟩) }⟩
    · simp only [Bool.true_eq, Bool.and_eq_true, Option.isNone_iff_eq_none, Bool.not_eq_true'] at hfin
      obtain ⟨⟨hfw, rfl⟩, hfs⟩ := hfin
      exact ⟨ret, {
        data := hdata
        data_none := hnone
        within := le_trans hwithin (Nat.min_le_right _ _)
        stream_eq := by simp [SendFlowController.addBytesSent]
        connection_eq := rfl
        frame_none := fun h => by cases h
        frame_some := fun _ h => by cases h; rfl
        frame_nonempty := fun _ h => by cases h; exact .inr rfl
        fin := fun _ => ⟨hfw, hfs, rfl⟩
        stopped := fun h => by simp [hst'] at h
        sender := .inl ⟨rfl, rfl, rfl⟩ }⟩

theorem cancelWriteWith_eq (errorCode : Nat) (writeErr : GoError) :
    s.cancelWriteWith errorCode writeErr =
      if s.canceledWrite || s.finishedWriting then s
      else { s with
        canceledWrite := true, cancelWriteErr := some writeErr,
        sender := s.sender ++ [.queueControlFrame (.resetStream ⟨s.streamID, errorCode, s.writeOffset⟩),
          .onStreamCompleted s.streamID] } := by
  unfold cancelWriteWith cancelWriteImpl
  split_ifs <;> simp

theorem close_eq_ok (h : s.close = .ok s') :
    s.canceledWrite = false ∧
      s' = { s with finishedWriting := true, sender := s.sender ++ [.onHasStreamData s.streamID] } := by
  unfold close at h
  split_ifs at h with hc
  cases h
  exact ⟨by simpa using hc, rfl⟩

theorem handleMaxStreamDataFrame_eq (frame : MaxStreamDataFrame) :
    s.handleMaxStreamDataFrame frame = { s with
      flowController := s.flowController.updateSendWindow frame.byteOffset,
      sender := if s.dataForWriting.isSome then s.sender ++ [.onHasStreamData s.streamID] else s.sender } := by
  unfold handleMaxStreamDataFrame
  dsimp only
  split <;> rfl

/-- The three ends of a pass of `Write`'s loop: the deadline passed and the data
left is dropped; the data is taken or the stream stopped, and the error is that
of the shutdown, or else that of the cancellation; or it waits, having told the
sender. -/
theorem writeLoop_cases {w : PendingWrite} {now : Int} {r : WriteResult} (h : s.writeLoop w now = (r, s')) :
    r = .returned (w.p.length - (s.dataForWriting.getD []).length) (some errDeadline) ∧
        s' = { s with dataForWriting := none } ∨
      r = .returned (w.p.length - (s.dataForWriting.getD []).length) (s.closeForShutdownErr.or s.cancelWriteErr) ∧
        s' = s ∧ (s.dataForWriting = none ∨ s.canceledWrite = true ∨ s.closedForShutdown = true) ∨
      ∃ w', r = .waiting w' ∧ w'.p = w.p ∧ s.dataForWriting ≠ none ∧
        (s' = s ∨ s' = { s with sender := s.sender ++ [.onHasStreamData s.streamID] }) := by
  unfold writeLoop at h
  split_ifs at h with hd hb hn
  · cases h
    exact .inl ⟨rfl, rfl⟩
  · cases h
    simp only [Bool.or_eq_true, Option.isNone_iff_eq_none] at hb
    exact .inr (.inl ⟨rfl, rfl, by tauto⟩)
  · cases h
    simp only [Bool.or_eq_true, Option.isNone_iff_eq_none, not_or] at hb
    exact .inr (.inr ⟨w, rfl, rfl, hb.1.1, .inl rfl⟩)
  · cases h
    simp only [Bool.or_eq_true, Option.isNone_iff_eq_none, not_or] at hb
    exact .inr (.inr ⟨_, rfl, rfl, hb.1.1, .inr rfl⟩)

/-- `Write` returns at once with nothing written, or hands its argument to the
stream and makes the first pass of its loop. -/
theorem write_cases {p : Bytes} {now : Int} {r : WriteResult} (h : s.write p now = (r, s')) :
    (∃ e, r = .returned 0 e ∧ s' = s ∧ (e = none → p = [] ∨ s.canceledWrite = true ∧ s.cancelWriteErr = none)) ∨
      s.finishedWriting = false ∧ s.canceledWrite = false ∧ s.closeForShutdownErr = none ∧ p ≠ [] ∧
        { s with dataForWriting := some p }.writeLoop ⟨p, false⟩ now = (r, s') := by
  unfold write at h
  by_cases hf : s.finishedWriting = true
  · rw [if_pos hf] at h
    cases h
    exact .inl ⟨_, rfl, rfl, fun h => by cases h⟩
  rw [if_neg hf] at h
  by_cases hc : s.canceledWrite = true
  · rw [if_pos hc] at h
    cases h
    exact .inl ⟨_, rfl, rfl, fun h => .inr ⟨hc, h⟩⟩
  rw [if_neg hc] at h
  cases he : s.closeForShutdownErr with
  | some err =>
    rw [he] at h
    cases h
    exact .inl ⟨_, rfl, rfl, fun h => by cases h⟩
  | none =>
    rw [he] at h
    dsimp only at h
    split_ifs at h with hd hp
    · cases h
      exact .inl ⟨_, rfl, rfl, fun h => by cases h⟩
    · cases h
      exact .inl ⟨_, rfl, rfl, fun _ => .inl (List.eq_nil_of_length_eq_zero hp)⟩
    · exact .inr ⟨by simpa using hf, by simpa using hc, rfl, fun h' => hp (by simp [h']), h⟩

/-- A pass of `Write`'s loop drops the data or leaves it, and tells the sender at
most that the stream has data. -/
theorem writeLoop_keeps {w : PendingWrite} {now : Int} {r : WriteResult} (h : s.writeLoop w now = (r, s')) :
    ∃ d sender, s' = { s with dataForWriting := d, sender := sender } ∧
      (d = none ∨ d = s.dataForWriting) ∧
      (sender = s.sender ∨ sender = s.sender ++ [.onHasStreamData s.streamID]) := by
  rcases writeLoop_cases h with ⟨-, rfl⟩ | ⟨-, rfl, -⟩ | ⟨-, -, -, -, rfl | rfl⟩
  · exact ⟨_, _, rfl, .inl rfl, .inl rfl⟩
  · exact ⟨_, _, rfl, .inr rfl, .inl rfl⟩
  · exact ⟨_, _, rfl, .inr rfl, .inl rfl⟩
  · exact ⟨_, _, rfl, .inr rfl, .inr rfl⟩

/-- `Write` touches only the data, and that only before `Close`. -/
theorem write_keeps {p : Bytes} {now : Int} {r : WriteResult} (h : s.write p now = (r, s')) :
    ∃ d sender, s' = { s with dataForWriting := d, sender := sender } ∧
      (d = s.dataForWriting ∨ s.finishedWriting = false) ∧
      (sender = s.sender ∨ sender = s.sender ++ [.onHasStreamData s.streamID]) := by
  rcases write_cases h with ⟨-, -, rfl, -⟩ | ⟨hf, -, -, -, hl⟩
  · exact ⟨_, _, rfl, .inl rfl, .inl rfl⟩
  · obtain ⟨d, sender, rfl, -, hs⟩ := writeLoop_keeps hl
    exact ⟨d, sender, rfl, .inr hf, hs⟩

end SendStream
/-! ## The data sent -/

namespace SendStreamTrace

/-- The bytes of the frames, in the order popped. -/
def sent (tr : SendStreamTrace) : Bytes := (tr.frames.map (·.data)).flatten

/-- The bytes each `Write` that returned reported written, in order. -/
def written (tr : SendStreamTrace) : Bytes := (tr.writes.map fun w => w.p.take w.n).flatten

@[simp] theorem sent_with_writes (tr : SendStreamTrace) (writes : List WriteCall) :
    ({ tr with writes } : SendStreamTrace).sent = tr.sent := rfl

@[simp] theorem written_with_frames (tr : SendStreamTrace) (frames : List StreamFrame) :
    ({ tr with frames } : SendStreamTrace).written = tr.written := rfl

end SendStreamTrace

/-- What the waiting `Write` has handed over so far: the first
`len(p) - len(dataForWriting)` bytes of its argument. -/
def SendSide.pendingWritten (st : SendSide) : Bytes :=
  match st.writer with
  | none => []
  | some w => w.p.take (w.p.length - (st.stream.dataForWriting.getD []).length)

/-- Each frame starts where the data of the frames before it ends. -/
def Contiguous (frames : List StreamFrame) : Prop :=
  ∀ i f, frames[i]? = some f → f.offset = ((frames.take i).map (·.data)).flatten.length

theorem Contiguous.append {frames : List StreamFrame} (hc : Contiguous frames) {f : StreamFrame}
    (hf : f.offset = (frames.map (·.data)).flatten.length) : Contiguous (frames ++ [f]) := by
  intro i g hg
  rcases Nat.lt_or_ge i frames.length with hi | hi
  · rw [List.getElem?_append_left hi] at hg
    rw [List.take_append_of_le_length hi.le]
    exact hc i g hg
  · rw [List.getElem?_append_right hi, List.getElem?_singleton] at hg
    split_ifs at hg with h0
    cases hg
    rw [show i = frames.length by omega, List.take_left]
    exact hf

namespace SendSide

variable {st : SendSide} {tr : SendStreamTrace}

theorem pendingWritten_of_writer {w : PendingWrite} (hw : st.writer = some w) {pre : Bytes}
    (h : w.p = pre ++ st.stream.dataForWriting.getD []) : st.pendingWritten = pre := by
  simp [pendingWritten, hw, h]

theorem pendingWritten_none (hw : st.writer = none) : st.pendingWritten = [] := by
  simp [pendingWritten, hw]

end SendSide

/-- The invariant of the data: the frames popped carry the bytes the `Write`s that
returned wrote, and then those the waiting one has handed over, in order from
offset 0; what is left of the data is the end of the waiting `Write`'s argument,
and with no `Write` waiting nothing is left, unless the stream sends nothing more.
A `Write` reports at most its bytes, and all of them when it returns no error. -/
structure SendsWrites (st : SendSide) (tr : SendStreamTrace) : Prop where
  sent_eq : tr.sent = tr.written ++ st.pendingWritten
  pending : ∀ w, st.writer = some w → st.stream.dataForWriting.getD [] <:+ w.p
  idle : st.writer = none → st.stream.dataForWriting = none ∨ st.stream.stopped = true
  writeOffset_eq : st.stream.writeOffset = tr.sent.length
  contiguous : Contiguous tr.frames
  streamID_eq : ∀ f ∈ tr.frames, f.streamID = st.stream.streamID
  writes : ∀ w ∈ tr.writes, w.n ≤ w.p.length ∧ (w.err = none → w.n = w.p.length)
  canceled_err : st.stream.canceledWrite = true → st.stream.cancelWriteErr ≠ none
  shutdown_err : st.stream.closedForShutdown = true → st.stream.closeForShutdownErr ≠ none

namespace SendsWrites

variable {st : SendSide} {tr : SendStreamTrace}

theorem init (streamID initialSendWindow : Nat) (connection : SendFlowController) :
    SendsWrites ⟨newSendStream streamID initialSendWindow, connection, none⟩ ⟨[], []⟩ where
  sent_eq := rfl
  pending _ h := by cases h
  idle _ := .inl rfl
  writeOffset_eq := rfl
  contiguous _ _ h := by simp at h
  streamID_eq _ h := by cases h
  writes _ h := by cases h
  canceled_err h := by cases h
  shutdown_err h := by cases h

/-- A call that changes neither the data nor the write offset, and stops no less. -/
theorem of_stream (hi : SendsWrites st tr) {s' : SendStream} {connection : SendFlowController}
    (hd : s'.dataForWriting = st.stream.dataForWriting) (ho : s'.writeOffset = st.stream.writeOffset)
    (hid : s'.streamID = st.stream.streamID) (hs : st.stream.stopped = true → s'.stopped = true)
    (hc : s'.canceledWrite = true → s'.cancelWriteErr ≠ none)
    (hsh : s'.closedForShutdown = true → s'.closeForShutdownErr ≠ none) :
    SendsWrites { st with stream := s', connection := connection } tr where
  sent_eq := by simpa [SendSide.pendingWritten, hd] using hi.sent_eq
  pending w h := by simpa [hd] using hi.pending w h
  idle h := by
    rw [hd]
    exact (hi.idle h).imp id hs
  writeOffset_eq := ho.trans hi.writeOffset_eq
  contiguous := hi.contiguous
  streamID_eq f h := (hi.streamID_eq f h).trans hid.symm
  writes := hi.writes
  canceled_err := hc
  shutdown_err := hsh

/-- Popping a frame: its data is the next bytes of the waiting `Write`, at the
offset the data sent reached. -/
theorem popStreamFrame (hi : SendsWrites st tr) {maxBytes : Nat} {frame : Option StreamFrame} {more : Bool}
    {s' : SendStream} {connection' : SendFlowController}
    (h : st.stream.popStreamFrame st.connection maxBytes = .ok ((frame, more), s', connection')) :
    SendsWrites { st with stream := s', connection := connection' } { tr with frames := tr.frames ++ frame.toList } := by
  obtain ⟨ret, hp⟩ := SendStream.popStreamFrame_pops h
  have hsent : ({ tr with frames := tr.frames ++ frame.toList } : SendStreamTrace).sent = tr.sent ++ ret := by
    cases frame with
    | none => simp [SendStreamTrace.sent, hp.frame_none rfl]
    | some f =>
      rw [hp.frame_some f rfl]
      simp [SendStreamTrace.sent]
  have hidle : st.writer = none → ret = [] := by
    intro hw
    rcases hi.idle hw with hd | hs
    · have := hp.data
      rw [hd] at this
      exact (List.append_eq_nil_iff.1 this.symm).1
    · exact hp.frame_none (hp.stopped hs).1
  have hpend : ({ st with stream := s', connection := connection' } : SendSide).pendingWritten =
      st.pendingWritten ++ ret := by
    cases hw : st.writer with
    | none => simp [SendSide.pendingWritten, hw, hidle hw]
    | some w =>
      obtain ⟨pre, hpre⟩ := hi.pending w hw
      rw [SendSide.pendingWritten_of_writer hw hpre.symm]
      exact SendSide.pendingWritten_of_writer rfl (by rw [← hpre, hp.data, List.append_assoc])
  have hfields := congrArg (fun s => (s.streamID, s.canceledWrite, s.cancelWriteErr, s.closedForShutdown,
    s.closeForShutdownErr)) hp.stream_eq
  simp only [Prod.mk.injEq] at hfields
  obtain ⟨hid, hcw, hce, hcs, hse⟩ := hfields
  refine {
    sent_eq := ?_
    pending := fun w hw => ?_
    idle := fun hw => ?_
    writeOffset_eq := ?_
    contiguous := ?_
    streamID_eq := ?_
    writes := hi.writes
    canceled_err := by simpa [hcw, hce] using hi.canceled_err
    shutdown_err := by simpa [hcs, hse] using hi.shutdown_err }
  · rw [hsent, hi.sent_eq, hpend, List.append_assoc]
    rfl
  · obtain ⟨pre, hpre⟩ := hi.pending w hw
    exact ⟨pre ++ ret, by rw [← hpre, hp.data, List.append_assoc]⟩
  · rcases hi.idle hw with hd | hs
    · exact .inl (hp.data_none hd)
    · rw [(hp.stopped hs).2.1]
      exact .inr hs
  · rw [hp.stream_eq, hsent, hi.writeOffset_eq]
    simp
  · cases frame with
    | none => simpa using hi.contiguous
    | some f =>
      refine hi.contiguous.append ?_
      rw [hp.frame_some f rfl]
      exact hi.writeOffset_eq
  · intro f hf
    rw [List.mem_append] at hf
    rcases hf with hf | hf
    · exact (hi.streamID_eq f hf).trans hid.symm
    · cases frame with
      | none => cases hf
      | some g =>
        simp only [Option.toList_some, List.mem_singleton] at hf
        subst hf
        rw [hp.frame_some f rfl]
        exact hid.symm

/-- Canceling: the stream stops, with the error `Write` returns. -/
theorem cancelWriteWith (hi : SendsWrites st tr) {errorCode : Nat} {writeErr : GoError} :
    SendsWrites { st with stream := st.stream.cancelWriteWith errorCode writeErr } tr := by
  rw [SendStream.cancelWriteWith_eq]
  split_ifs with hc
  · exact hi
  · exact hi.of_stream rfl rfl rfl (fun _ => by simp [SendStream.stopped]) (fun _ => by simp) hi.shutdown_err

/-- A pass of the loop of the waiting `Write`; one that returns reports the bytes
it handed over. -/
theorem writeLoop (hi : SendsWrites st tr) {w : PendingWrite} (hw : st.writer = some w) {now : Int}
    {r : WriteResult} {s' : SendStream} (hl : st.stream.writeLoop w now = (r, s')) :
    SendsWrites (st.afterWrite tr w.p (r, s')).1 (st.afterWrite tr w.p (r, s')).2 := by
  obtain ⟨pre, hpre⟩ := hi.pending w hw
  have hn : w.p.take (w.p.length - (st.stream.dataForWriting.getD []).length) = pre := by
    simpa [SendSide.pendingWritten, hw] using SendSide.pendingWritten_of_writer hw hpre.symm
  have hsent : tr.sent = tr.written ++ pre := by
    rw [hi.sent_eq, SendSide.pendingWritten_of_writer hw hpre.symm]
  have hle : w.p.length - (st.stream.dataForWriting.getD []).length ≤ w.p.length := Nat.sub_le _ _
  rcases SendStream.writeLoop_cases hl with ⟨rfl, rfl⟩ | ⟨rfl, rfl, hb⟩ | ⟨w', rfl, hp, -, hs⟩
  · -- the deadline passed: the data left is dropped
    exact {
      sent_eq := by simp [SendSide.afterWrite, SendStreamTrace.written, SendSide.pendingWritten, hn, hsent]
      pending := fun _ h => by cases h
      idle := fun _ => .inl rfl
      writeOffset_eq := hi.writeOffset_eq
      contiguous := hi.contiguous
      streamID_eq := hi.streamID_eq
      writes := by
        simp only [SendSide.afterWrite, List.mem_append, List.mem_singleton]
        rintro v (hv | rfl)
        · exact hi.writes v hv
        · exact ⟨hle, fun h => by cases h⟩
      canceled_err := hi.canceled_err
      shutdown_err := hi.shutdown_err }
  · -- the data was taken, or the stream stopped
    have hst : st.stream.closedForShutdown = true → st.stream.closeForShutdownErr.isSome := fun h =>
      Option.isSome_iff_ne_none.2 (hi.shutdown_err h)
    exact {
      sent_eq := by simp [SendSide.afterWrite, SendStreamTrace.written, SendSide.pendingWritten, hn, hsent]
      pending := fun _ h => by cases h
      idle := fun _ => by
        rcases hb with hd | hc | hc
        · exact .inl hd
        · exact .inr (by simp [SendStream.stopped, hc])
        · exact .inr (by simp [SendStream.stopped, hst hc])
      writeOffset_eq := hi.writeOffset_eq
      contiguous := hi.contiguous
      streamID_eq := hi.streamID_eq
      writes := by
        simp only [SendSide.afterWrite, List.mem_append, List.mem_singleton]
        rintro v (hv | rfl)
        · exact hi.writes v hv
        · refine ⟨hle, fun he => ?_⟩
          -- no error: neither stopped, so all the data was taken
          simp only [Option.or_eq_none_iff] at he
          have hd : st.stream.dataForWriting = none := by
            rcases hb with hd | hc | hc
            · exact hd
            · exact absurd he.2 (hi.canceled_err hc)
            · exact absurd he.1 (hi.shutdown_err hc)
          simp [hd]
      canceled_err := hi.canceled_err
      shutdown_err := hi.shutdown_err }
  · -- it waits again, with the same argument
    have hd : s'.dataForWriting = st.stream.dataForWriting := by rcases hs with rfl | rfl <;> rfl
    exact {
      sent_eq := by simpa [SendSide.pendingWritten, hw, hp, hd] using hi.sent_eq
      pending := fun v h => by
        cases h
        simpa [hp, hd] using hi.pending w hw
      idle := fun h => by cases h
      writeOffset_eq := by rcases hs with rfl | rfl <;> exact hi.writeOffset_eq
      contiguous := hi.contiguous
      streamID_eq := by rcases hs with rfl | rfl <;> exact hi.streamID_eq
      writes := hi.writes
      canceled_err := by rcases hs with rfl | rfl <;> exact hi.canceled_err
      shutdown_err := by rcases hs with rfl | rfl <;> exact hi.shutdown_err }

/-- `Write` with none waiting: it returns at once, or hands its argument to the
stream and passes through its loop. -/
theorem write (hi : SendsWrites st tr) (hw : st.writer = none) {p : Bytes} {now : Int} {r : WriteResult}
    {s' : SendStream} (hl : st.stream.write p now = (r, s')) :
    SendsWrites (st.afterWrite tr p (r, s')).1 (st.afterWrite tr p (r, s')).2 := by
  rcases SendStream.write_cases hl with ⟨e, rfl, rfl, he⟩ | ⟨-, hc, hsh, -, hloop⟩
  · exact {
      sent_eq := by simpa [SendSide.afterWrite, SendStreamTrace.written, SendSide.pendingWritten, hw] using hi.sent_eq
      pending := fun _ h => by cases h
      idle := fun _ => hi.idle hw
      writeOffset_eq := hi.writeOffset_eq
      contiguous := hi.contiguous
      streamID_eq := hi.streamID_eq
      writes := by
        simp only [SendSide.afterWrite, List.mem_append, List.mem_singleton]
        rintro v (hv | rfl)
        · exact hi.writes v hv
        · refine ⟨Nat.zero_le _, fun h => ?_⟩
          rcases he h with rfl | ⟨hc, hce⟩
          · rfl
          · exact absurd hce (hi.canceled_err hc)
      canceled_err := hi.canceled_err
      shutdown_err := hi.shutdown_err }
  · -- with none waiting and the stream not stopped, there was no data
    have hd : st.stream.dataForWriting = none :=
      (hi.idle hw).resolve_right (by simp [SendStream.stopped, hc, hsh])
    have hi' : SendsWrites { st with stream := { st.stream with dataForWriting := some p }, writer := some ⟨p, false⟩ }
        tr := {
      sent_eq := by simpa [SendSide.pendingWritten, hw] using hi.sent_eq
      pending := fun _ h => by
        cases h
        exact List.suffix_refl p
      idle := fun h => by cases h
      writeOffset_eq := hi.writeOffset_eq
      contiguous := hi.contiguous
      streamID_eq := hi.streamID_eq
      writes := hi.writes
      canceled_err := hi.canceled_err
      shutdown_err := hi.shutdown_err }
    exact hi'.writeLoop rfl hloop

/-- Every call keeps the invariant. -/
theorem apply (hi : SendsWrites st tr) {c : SendStreamCall} {acc' : SendSide × SendStreamTrace}
    (h : c.apply (st, tr) = .ok acc') : SendsWrites acc'.1 acc'.2 := by
  cases c with
  | write p now =>
    cases hw : st.writer with
    | some w =>
      simp only [SendStreamCall.apply, hw] at h
      cases h
      exact hi
    | none =>
      simp only [SendStreamCall.apply, hw] at h
      cases h
      exact hi.write hw rfl
  | wake now =>
    cases hw : st.writer with
    | none =>
      simp only [SendStreamCall.apply, hw] at h
      cases h
      exact hi
    | some w =>
      simp only [SendStreamCall.apply, hw] at h
      cases h
      exact hi.writeLoop hw rfl
  | popStreamFrame maxBytes =>
    obtain ⟨⟨⟨frame, more⟩, s', connection'⟩, hp, h⟩ := bind_eq_ok.1 h
    cases h
    exact hi.popStreamFrame hp
  | close =>
    simp only [SendStreamCall.apply] at h
    split at h
    · next s' hs =>
      cases h
      obtain ⟨-, rfl⟩ := SendStream.close_eq_ok hs
      exact hi.of_stream rfl rfl rfl id hi.canceled_err hi.shutdown_err
    · cases h
      exact hi
  | cancelWrite errorCode =>
    cases h
    exact hi.cancelWriteWith
  | setWriteDeadline t =>
    cases h
    exact hi.of_stream rfl rfl rfl id hi.canceled_err hi.shutdown_err
  | handleStopSendingFrame frame =>
    cases h
    exact hi.cancelWriteWith
  | handleMaxStreamDataFrame frame =>
    cases h
    rw [SendStream.handleMaxStreamDataFrame_eq]
    exact hi.of_stream rfl rfl rfl id hi.canceled_err hi.shutdown_err
  | closeForShutdown err =>
    cases h
    exact hi.of_stream rfl rfl rfl (fun _ => by simp [SendStream.closeForShutdown, SendStream.stopped])
      hi.canceled_err (fun _ => by simp [SendStream.closeForShutdown])
  | updateConnectionSendWindow offset =>
    cases h
    exact hi.of_stream rfl rfl rfl id hi.canceled_err hi.shutdown_err

end SendsWrites

/-! ## The flow control windows -/

/-- The limits of the STREAM_DATA_BLOCKED frames queued, in order. -/
def blockedLimits (sender : List StreamSenderCall) : List Nat :=
  sender.filterMap fun
    | .queueControlFrame (.streamDataBlocked f) => some f.dataLimit
    | _ => none

@[simp] theorem blockedLimits_append_onHasStreamData (sender : List StreamSenderCall) (id : Nat) :
    blockedLimits (sender ++ [.onHasStreamData id]) = blockedLimits sender := by
  simp [blockedLimits]

@[simp] theorem blockedLimits_append_onStreamCompleted (sender : List StreamSenderCall) (id : Nat) :
    blockedLimits (sender ++ [.onStreamCompleted id]) = blockedLimits sender := by
  simp [blockedLimits]

@[simp] theorem blockedLimits_append_resetStream (sender : List StreamSenderCall) (f : ResetStreamFrame) :
    blockedLimits (sender ++ [.queueControlFrame (.resetStream f)]) = blockedLimits sender := by
  simp [blockedLimits]

@[simp] theorem blockedLimits_append_streamDataBlocked (sender : List StreamSenderCall) (f : StreamDataBlockedFrame) :
    blockedLimits (sender ++ [.queueControlFrame (.streamDataBlocked f)]) = blockedLimits sender ++ [f.dataLimit] := by
  simp [blockedLimits]

/-- The invariant of flow control: the stream's controller counts the data sent,
the connection's that and what was sent before the stream opened, and neither
count is beyond its window; the limits of the STREAM_DATA_BLOCKED frames rise,
each reached by the data, and the last is the one the controller remembers. -/
structure WithinWindows (bytesSentBefore : Nat) (st : SendSide) : Prop where
  bytesSent_eq : st.stream.flowController.bytesSent = st.stream.writeOffset
  stream_le : st.stream.flowController.bytesSent ≤ st.stream.flowController.sendWindow
  connection_eq : st.connection.bytesSent = bytesSentBefore + st.stream.writeOffset
  connection_le : st.connection.bytesSent ≤ st.connection.sendWindow
  lastBlockedAt_le : st.stream.flowController.lastBlockedAt ≤ st.stream.flowController.sendWindow
  blocked_le : ∀ l ∈ blockedLimits st.stream.sender,
    l ≤ st.stream.flowController.lastBlockedAt ∧ l ≤ st.stream.writeOffset
  blocked_sorted : (blockedLimits st.stream.sender).Pairwise (· < ·)

namespace WithinWindows

variable {b : Nat} {st : SendSide}

theorem init (streamID initialSendWindow : Nat) {connection : SendFlowController}
    (hc : connection.bytesSent ≤ connection.sendWindow) :
    WithinWindows connection.bytesSent ⟨newSendStream streamID initialSendWindow, connection, none⟩ where
  bytesSent_eq := rfl
  stream_le := Nat.zero_le _
  connection_eq := rfl
  connection_le := hc
  lastBlockedAt_le := Nat.zero_le _
  blocked_le _ h := by cases h
  blocked_sorted := List.Pairwise.nil

/-- A call that leaves the write offset, the flow controller and the limits sent. -/
theorem of_stream (hi : WithinWindows b st) {s' : SendStream} {writer : Option PendingWrite}
    (ho : s'.writeOffset = st.stream.writeOffset) (hf : s'.flowController = st.stream.flowController)
    (hb : blockedLimits s'.sender = blockedLimits st.stream.sender) :
    WithinWindows b { st with stream := s', writer := writer } where
  bytesSent_eq := by rw [hf, ho]; exact hi.bytesSent_eq
  stream_le := by rw [hf]; exact hi.stream_le
  connection_eq := by rw [ho]; exact hi.connection_eq
  connection_le := hi.connection_le
  lastBlockedAt_le := by rw [hf]; exact hi.lastBlockedAt_le
  blocked_le := by rw [hb, hf, ho]; exact hi.blocked_le
  blocked_sorted := by rw [hb]; exact hi.blocked_sorted

/-- Popping a frame: the data taken fits both windows; a STREAM_DATA_BLOCKED frame
comes when the stream's window is used up, at a limit above the last one. -/
theorem popStreamFrame (hi : WithinWindows b st) {maxBytes : Nat} {frame : Option StreamFrame} {more : Bool}
    {s' : SendStream} {connection' : SendFlowController}
    (h : st.stream.popStreamFrame st.connection maxBytes = .ok ((frame, more), s', connection')) :
    WithinWindows b { st with stream := s', connection := connection' } := by
  obtain ⟨ret, hp⟩ := SendStream.popStreamFrame_pops h
  have hwin := hp.within
  simp only [SendFlowController.streamSendWindowSize, le_min_iff] at hwin
  have hs := congrArg (fun s => (s.writeOffset, s.flowController.bytesSent, s.flowController.sendWindow)) hp.stream_eq
  simp only [Prod.mk.injEq] at hs
  obtain ⟨ho, hbs, hsw⟩ := hs
  have hfc := congrArg (fun s => s.flowController.lastBlockedAt) hp.stream_eq
  rw [hp.connection_eq]
  refine {
    bytesSent_eq := by simp only [hbs, ho, hi.bytesSent_eq]
    stream_le := by rw [hbs, hsw]; exact SendFlowController.bytesSent_add_le hi.stream_le hwin.1
    connection_eq := by simp only [SendFlowController.addBytesSent_bytesSent, ho, hi.connection_eq]; omega
    connection_le := by
      simpa using SendFlowController.bytesSent_add_le hi.connection_le hwin.2
    lastBlockedAt_le := ?_
    blocked_le := ?_
    blocked_sorted := ?_ }
  all_goals rcases hp.sender with ⟨-, hsnd, hl⟩ | ⟨-, hsnd, hl⟩ | ⟨rfl, h0, hne, hl, hsnd⟩
  · rw [hl, hsw]; exact hi.lastBlockedAt_le
  · rw [hl, hsw]; exact hi.lastBlockedAt_le
  · rw [hl, hsw]
  · intro l hlm
    rw [hsnd, blockedLimits_append_onStreamCompleted] at hlm
    rw [hl, ho]
    exact ⟨(hi.blocked_le l hlm).1, by have := (hi.blocked_le l hlm).2; omega⟩
  · intro l hlm
    rw [hsnd] at hlm
    rw [hl, ho]
    exact ⟨(hi.blocked_le l hlm).1, by have := (hi.blocked_le l hlm).2; omega⟩
  · -- the window is used up: its limit is the offset the data reached
    have hret : ret = [] := hp.frame_none rfl
    have hreach : st.stream.flowController.sendWindow = st.stream.writeOffset := by
      rw [SendFlowController.sendWindowSize_of_le hi.stream_le] at h0
      have := hi.stream_le
      rw [← hi.bytesSent_eq]
      omega
    intro l hlm
    rw [hsnd, blockedLimits_append_streamDataBlocked, List.mem_append, List.mem_singleton] at hlm
    rw [hl, ho, hret]
    rcases hlm with hlm | rfl
    · have := hi.blocked_le l hlm
      have := hi.lastBlockedAt_le
      simp only [List.length_nil, Nat.add_zero]
      omega
    · simp [hreach]
  · rw [hsnd, blockedLimits_append_onStreamCompleted]; exact hi.blocked_sorted
  · rw [hsnd]; exact hi.blocked_sorted
  · rw [hsnd, blockedLimits_append_streamDataBlocked, List.pairwise_append]
    refine ⟨hi.blocked_sorted, List.pairwise_singleton _ _, fun l hlm l' hl' => ?_⟩
    rw [List.mem_singleton] at hl'
    subst hl'
    have := (hi.blocked_le l hlm).1
    have := hi.lastBlockedAt_le
    dsimp only
    omega

/-- What `Write` changes leaves the invariant. -/
theorem of_keeps (hi : WithinWindows b st) {s' : SendStream} {writer : Option PendingWrite}
    (hk : ∃ d sender, s' = { st.stream with dataForWriting := d, sender := sender } ∧
      (sender = st.stream.sender ∨ sender = st.stream.sender ++ [.onHasStreamData st.stream.streamID])) :
    WithinWindows b { st with stream := s', writer := writer } := by
  obtain ⟨d, sender, rfl, hs⟩ := hk
  exact hi.of_stream rfl rfl (by rcases hs with rfl | rfl <;> simp)

/-- Every call keeps the invariant. -/
theorem apply (hi : WithinWindows b st) {tr : SendStreamTrace} {c : SendStreamCall}
    {acc' : SendSide × SendStreamTrace} (h : c.apply (st, tr) = .ok acc') : WithinWindows b acc'.1 := by
  cases c with
  | write p now =>
    cases hw : st.writer with
    | some w =>
      simp only [SendStreamCall.apply, hw] at h
      cases h
      exact hi
    | none =>
      simp only [SendStreamCall.apply, hw] at h
      cases h
      rcases hl : st.stream.write p now with ⟨r, s'⟩
      obtain ⟨d, sender, hs, -, hsnd⟩ := SendStream.write_keeps hl
      cases r <;> exact hi.of_keeps ⟨d, sender, hs, hsnd⟩
  | wake now =>
    cases hw : st.writer with
    | none =>
      simp only [SendStreamCall.apply, hw] at h
      cases h
      exact hi
    | some w =>
      simp only [SendStreamCall.apply, hw] at h
      cases h
      rcases hl : st.stream.writeLoop w now with ⟨r, s'⟩
      obtain ⟨d, sender, hs, -, hsnd⟩ := SendStream.writeLoop_keeps hl
      cases r <;> exact hi.of_keeps ⟨d, sender, hs, hsnd⟩
  | popStreamFrame maxBytes =>
    obtain ⟨⟨⟨frame, more⟩, s', connection'⟩, hp, h⟩ := bind_eq_ok.1 h
    cases h
    exact hi.popStreamFrame hp
  | close =>
    simp only [SendStreamCall.apply] at h
    split at h
    · next s' hs =>
      cases h
      obtain ⟨-, rfl⟩ := SendStream.close_eq_ok hs
      exact hi.of_stream rfl rfl (by simp)
    · cases h
      exact hi
  | cancelWrite errorCode =>
    cases h
    rw [SendStream.cancelWrite, SendStream.cancelWriteWith_eq]
    split_ifs
    · exact hi
    · exact hi.of_stream rfl rfl (by simp [blockedLimits])
  | setWriteDeadline t =>
    cases h
    exact hi.of_stream rfl rfl rfl
  | handleStopSendingFrame frame =>
    cases h
    rw [SendStream.handleStopSendingFrame, SendStream.cancelWriteWith_eq]
    split_ifs
    · exact hi
    · exact hi.of_stream rfl rfl (by simp [blockedLimits])
  | handleMaxStreamDataFrame frame =>
    cases h
    rw [SendStream.handleMaxStreamDataFrame_eq]
    have hsw := SendFlowController.updateSendWindow_sendWindow (c := st.stream.flowController) frame.byteOffset
    have := hi.stream_le
    have := hi.lastBlockedAt_le
    exact {
      bytesSent_eq := by simpa using hi.bytesSent_eq
      stream_le := by simp only [SendFlowController.updateSendWindow_bytesSent, hsw]; omega
      connection_eq := hi.connection_eq
      connection_le := hi.connection_le
      lastBlockedAt_le := by simp only [SendFlowController.updateSendWindow_lastBlockedAt, hsw]; omega
      blocked_le := by split <;> simpa using hi.blocked_le
      blocked_sorted := by split <;> simpa using hi.blocked_sorted }
  | closeForShutdown err =>
    cases h
    exact hi.of_stream rfl rfl rfl
  | updateConnectionSendWindow offset =>
    cases h
    have := hi.connection_le
    exact {
      bytesSent_eq := hi.bytesSent_eq
      stream_le := hi.stream_le
      connection_eq := by simpa using hi.connection_eq
      connection_le := by simp only [SendFlowController.updateSendWindow_bytesSent,
        SendFlowController.updateSendWindow_sendWindow]; omega
      lastBlockedAt_le := hi.lastBlockedAt_le
      blocked_le := hi.blocked_le
      blocked_sorted := hi.blocked_sorted }

end WithinWindows

/-! ## How the stream ends -/

/-- The RESET_STREAM frames queued, in order. -/
def resets (sender : List StreamSenderCall) : List ResetStreamFrame :=
  sender.filterMap fun
    | .queueControlFrame (.resetStream f) => some f
    | _ => none

@[simp] theorem resets_append_onHasStreamData (sender : List StreamSenderCall) (id : Nat) :
    resets (sender ++ [.onHasStreamData id]) = resets sender := by
  simp [resets]

@[simp] theorem resets_append_onStreamCompleted (sender : List StreamSenderCall) (id : Nat) :
    resets (sender ++ [.onStreamCompleted id]) = resets sender := by
  simp [resets]

@[simp] theorem resets_append_streamDataBlocked (sender : List StreamSenderCall) (f : StreamDataBlockedFrame) :
    resets (sender ++ [.queueControlFrame (.streamDataBlocked f)]) = resets sender := by
  simp [resets]

/-- The invariant of the end: no frame has the FIN bit until it is sent, and then
only the last; the FIN comes after `Close` and the end of the data; a canceled
stream queued one RESET_STREAM, at the write offset, and sent no FIN; and the
sender heard of the completion once, when the FIN was sent or the stream canceled. -/
structure EndsOnce (st : SendSide) (tr : SendStreamTrace) : Prop where
  no_fin : st.stream.finSent = false → ∀ f ∈ tr.frames, f.finBit = false
  fin_last : st.stream.finSent = true →
    ∃ init f, tr.frames = init ++ [f] ∧ f.finBit = true ∧ ∀ g ∈ init, g.finBit = false
  fin_done : st.stream.finSent = true → st.stream.finishedWriting = true ∧ st.stream.dataForWriting = none
  not_both : st.stream.finSent = false ∨ st.stream.canceledWrite = false
  resets_length : (resets st.stream.sender).length = if st.stream.canceledWrite then 1 else 0
  resets_at : ∀ r ∈ resets st.stream.sender, r.streamID = st.stream.streamID ∧ r.byteOffset = st.stream.writeOffset
  completed : st.stream.sender.count (.onStreamCompleted st.stream.streamID) =
    if st.stream.finSent || st.stream.canceledWrite then 1 else 0

namespace EndsOnce

variable {st : SendSide} {tr : SendStreamTrace}

theorem init (streamID initialSendWindow : Nat) (connection : SendFlowController) :
    EndsOnce ⟨newSendStream streamID initialSendWindow, connection, none⟩ ⟨[], []⟩ where
  no_fin _ _ h := by cases h
  fin_last h := by cases h
  fin_done h := by cases h
  not_both := .inl rfl
  resets_length := rfl
  resets_at _ h := by cases h
  completed := rfl

theorem resets_eq_nil (hi : EndsOnce st tr) (hc : st.stream.canceledWrite = false) : resets st.stream.sender = [] := by
  simpa [hc] using hi.resets_length

/-- A call that changes nothing of the end of the stream. -/
theorem of_stream (hi : EndsOnce st tr) {s' : SendStream} {connection : SendFlowController}
    {writer : Option PendingWrite} {writes : List WriteCall} (hfin : s'.finSent = st.stream.finSent)
    (hfw : st.stream.finSent = true → s'.finishedWriting = true ∧ s'.dataForWriting = none)
    (hc : s'.canceledWrite = st.stream.canceledWrite) (hid : s'.streamID = st.stream.streamID)
    (ho : s'.writeOffset = st.stream.writeOffset) (hr : resets s'.sender = resets st.stream.sender)
    (hcount : s'.sender.count (.onStreamCompleted st.stream.streamID) =
      st.stream.sender.count (.onStreamCompleted st.stream.streamID)) :
    EndsOnce { st with stream := s', connection := connection, writer := writer } { tr with writes := writes } where
  no_fin h := hi.no_fin (hfin ▸ h)
  fin_last h := hi.fin_last (hfin ▸ h)
  fin_done h := hfw (hfin ▸ h)
  not_both := by rw [hfin, hc]; exact hi.not_both
  resets_length := by rw [hr, hc]; exact hi.resets_length
  resets_at := by rw [hr, hid, ho]; exact hi.resets_at
  completed := by rw [hid, hcount, hfin, hc]; exact hi.completed

/-- What `Write` changes leaves the invariant. -/
theorem of_keeps (hi : EndsOnce st tr) {s' : SendStream} {writer : Option PendingWrite}
    {writes : List WriteCall}
    (hk : ∃ d sender, s' = { st.stream with dataForWriting := d, sender := sender } ∧
      (st.stream.finSent = true → d = none) ∧
      (sender = st.stream.sender ∨ sender = st.stream.sender ++ [.onHasStreamData st.stream.streamID])) :
    EndsOnce { st with stream := s', writer := writer } { tr with writes := writes } := by
  obtain ⟨d, sender, rfl, hd, hs⟩ := hk
  exact hi.of_stream rfl (fun h => ⟨(hi.fin_done h).1, hd h⟩) rfl rfl rfl
    (by rcases hs with rfl | rfl <;> simp) (by rcases hs with rfl | rfl <;> simp)

/-- Canceling, before `Close`: one RESET_STREAM at the write offset, and the
completion. -/
theorem cancelWriteWith (hi : EndsOnce st tr) {errorCode : Nat} {writeErr : GoError} :
    EndsOnce { st with stream := st.stream.cancelWriteWith errorCode writeErr } tr := by
  rw [SendStream.cancelWriteWith_eq]
  split_ifs with hc
  · exact hi
  simp only [Bool.or_eq_true, not_or, Bool.not_eq_true] at hc
  have hfs : st.stream.finSent = false := by
    cases hf : st.stream.finSent
    · rfl
    · simp [(hi.fin_done hf).1] at hc
  have hr := hi.resets_eq_nil hc.1
  simp only [resets] at hr
  have hres : resets (st.stream.sender ++ [.queueControlFrame (.resetStream
      ⟨st.stream.streamID, errorCode, st.stream.writeOffset⟩), .onStreamCompleted st.stream.streamID]) =
      [⟨st.stream.streamID, errorCode, st.stream.writeOffset⟩] := by
    simp [resets, hr]
  have hcount := hi.completed
  rw [hfs, hc.1] at hcount
  exact {
    no_fin := hi.no_fin
    fin_last := fun h => by simp [hfs] at h
    fin_done := fun h => by simp [hfs] at h
    not_both := .inl hfs
    resets_length := by rw [hres]; rfl
    resets_at := by
      rw [hres]
      rintro r (_ | ⟨_, ⟨⟩⟩)
      exact ⟨rfl, rfl⟩
    completed := by simp [hfs, hcount] }

/-- Popping a frame: the FIN goes on one frame, the last, and the sender hears of
the completion with it; a canceled stream pops nothing. -/
theorem popStreamFrame (hi : EndsOnce st tr) {maxBytes : Nat} {frame : Option StreamFrame} {more : Bool}
    {s' : SendStream} {connection' : SendFlowController}
    (h : st.stream.popStreamFrame st.connection maxBytes = .ok ((frame, more), s', connection')) :
    EndsOnce { st with stream := s', connection := connection' } { tr with frames := tr.frames ++ frame.toList } := by
  obtain ⟨ret, hp⟩ := SendStream.popStreamFrame_pops h
  by_cases hst : st.stream.stopped = true
  · obtain ⟨rfl, rfl, rfl⟩ := hp.stopped hst
    simpa using hi
  have hc : st.stream.canceledWrite = false := by
    simp only [SendStream.stopped, Bool.or_eq_true, not_or, Bool.not_eq_true] at hst
    exact hst.1
  have hr := hi.resets_eq_nil hc
  have hid : s'.streamID = st.stream.streamID := by rw [hp.stream_eq]
  have hfw : s'.finishedWriting = st.stream.finishedWriting := by rw [hp.stream_eq]
  have hcw : s'.canceledWrite = st.stream.canceledWrite := by rw [hp.stream_eq]
  have hfs : s'.finSent = (st.stream.finSent || frame.any (·.finBit)) := by rw [hp.stream_eq]
  have hnone : st.stream.finSent = true → frame = none := by
    intro hf
    cases frame with
    | none => rfl
    | some f =>
      have hret : ret = [] := by
        have := hp.data
        rw [(hi.fin_done hf).2] at this
        exact (List.append_eq_nil_iff.1 this.symm).1
      rcases hp.frame_nonempty f rfl with h | h
      · exact absurd hret h
      · have := (hp.fin (by simp [h])).2.1
        simp [hf] at this
  rcases hp.sender with ⟨hfin, hsnd, -⟩ | ⟨hfin, hsnd, -⟩ | ⟨rfl, -, -, -, hsnd⟩
  · -- the frame with the FIN
    obtain ⟨f, rfl, hf⟩ : ∃ f, frame = some f ∧ f.finBit = true := by
      cases frame with
      | none => cases hfin
      | some f => exact ⟨f, rfl, by simpa using hfin⟩
    obtain ⟨hfw₀, hfs₀, hd⟩ := hp.fin hfin
    have hcount := hi.completed
    rw [hfs₀, hc] at hcount
    exact {
      no_fin := fun h => by simp [hfs, hf] at h
      fin_last := fun _ => ⟨tr.frames, f, rfl, hf, hi.no_fin hfs₀⟩
      fin_done := fun _ => ⟨hfw.trans hfw₀, hd⟩
      not_both := .inr (hcw.trans hc)
      resets_length := by simp [hsnd, hcw, hc, hr]
      resets_at := by simp [hsnd, hr]
      completed := by simp [hsnd, hid, hfs, hf, hcount] }
  · -- a frame without the FIN, or none
    have hfs' : s'.finSent = st.stream.finSent := by simp [hfs, hfin]
    exact {
      no_fin := fun h r hr' => by
        rw [List.mem_append] at hr'
        rcases hr' with hr' | hr'
        · exact hi.no_fin (hfs' ▸ h) r hr'
        · cases frame with
          | none => cases hr'
          | some f =>
            simp only [Option.toList_some, List.mem_singleton] at hr'
            subst hr'
            simpa using hfin
      fin_last := fun h => by
        rw [hnone (hfs' ▸ h)]
        simpa using hi.fin_last (hfs' ▸ h)
      fin_done := fun h => ⟨hfw.trans (hi.fin_done (hfs' ▸ h)).1, hp.data_none (hi.fin_done (hfs' ▸ h)).2⟩
      not_both := by rw [hfs', hcw]; exact hi.not_both
      resets_length := by rw [hsnd, hcw]; exact hi.resets_length
      resets_at := by simp [hsnd, hr]
      completed := by rw [hsnd, hid, hfs', hcw]; exact hi.completed }
  · -- no frame: the window is used up
    have hfs' : s'.finSent = st.stream.finSent := by simp [hfs]
    exact {
      no_fin := fun h => by simpa using hi.no_fin (hfs' ▸ h)
      fin_last := fun h => by simpa using hi.fin_last (hfs' ▸ h)
      fin_done := fun h => ⟨hfw.trans (hi.fin_done (hfs' ▸ h)).1, hp.data_none (hi.fin_done (hfs' ▸ h)).2⟩
      not_both := by rw [hfs', hcw]; exact hi.not_both
      resets_length := by rw [hsnd, resets_append_streamDataBlocked, hcw]; exact hi.resets_length
      resets_at := by simp [hsnd, hr]
      completed := by simp [hsnd, hid, hfs', hcw, hi.completed] }

/-- Every call keeps the invariant. -/
theorem apply (hi : EndsOnce st tr) {c : SendStreamCall} {acc' : SendSide × SendStreamTrace}
    (h : c.apply (st, tr) = .ok acc') : EndsOnce acc'.1 acc'.2 := by
  cases c with
  | write p now =>
    cases hw : st.writer with
    | some w =>
      simp only [SendStreamCall.apply, hw] at h
      cases h
      exact hi
    | none =>
      simp only [SendStreamCall.apply, hw] at h
      cases h
      rcases hl : st.stream.write p now with ⟨r, s'⟩
      obtain ⟨d, sender, hs, hd, hsnd⟩ := SendStream.write_keeps hl
      -- after `Close`, `Write` leaves the data
      have hd' : st.stream.finSent = true → d = none := fun hf => by
        rcases hd with rfl | hd
        · exact (hi.fin_done hf).2
        · simp [(hi.fin_done hf).1] at hd
      cases r <;> exact hi.of_keeps ⟨d, sender, hs, hd', hsnd⟩
  | wake now =>
    cases hw : st.writer with
    | none =>
      simp only [SendStreamCall.apply, hw] at h
      cases h
      exact hi
    | some w =>
      simp only [SendStreamCall.apply, hw] at h
      cases h
      rcases hl : st.stream.writeLoop w now with ⟨r, s'⟩
      obtain ⟨d, sender, hs, hd, hsnd⟩ := SendStream.writeLoop_keeps hl
      have hd' : st.stream.finSent = true → d = none := fun hf => by
        rcases hd with rfl | rfl
        · rfl
        · exact (hi.fin_done hf).2
      cases r <;> exact hi.of_keeps ⟨d, sender, hs, hd', hsnd⟩
  | popStreamFrame maxBytes =>
    obtain ⟨⟨⟨frame, more⟩, s', connection'⟩, hp, h⟩ := bind_eq_ok.1 h
    cases h
    exact hi.popStreamFrame hp
  | close =>
    simp only [SendStreamCall.apply] at h
    split at h
    · next s' hs =>
      cases h
      obtain ⟨-, rfl⟩ := SendStream.close_eq_ok hs
      exact hi.of_stream rfl (fun h => ⟨rfl, (hi.fin_done h).2⟩) rfl rfl rfl (by simp) (by simp)
    · cases h
      exact hi
  | cancelWrite errorCode =>
    cases h
    exact hi.cancelWriteWith
  | setWriteDeadline t =>
    cases h
    exact hi.of_stream rfl hi.fin_done rfl rfl rfl rfl rfl
  | handleStopSendingFrame frame =>
    cases h
    exact hi.cancelWriteWith
  | handleMaxStreamDataFrame frame =>
    cases h
    rw [SendStream.handleMaxStreamDataFrame_eq]
    exact hi.of_stream rfl hi.fin_done rfl rfl rfl (by split <;> simp) (by split <;> simp)
  | closeForShutdown err =>
    cases h
    exact hi.of_stream rfl hi.fin_done rfl rfl rfl rfl rfl
  | updateConnectionSendWindow offset =>
    cases h
    exact hi.of_stream rfl hi.fin_done rfl rfl rfl rfl rfl

end EndsOnce

/-! ## Runs -/

/-- The limit a call grants the stream: the offset of a MAX_STREAM_DATA frame. -/
def SendStreamCall.streamLimit : SendStreamCall → Option Nat
  | .handleMaxStreamDataFrame frame => some frame.byteOffset
  | _ => none

/-- The limit a call grants the connection: that of a MAX_DATA frame. -/
def SendStreamCall.connectionLimit : SendStreamCall → Option Nat
  | .updateConnectionSendWindow offset => some offset
  | _ => none

/-- No call changes the stream's ID, and only MAX_STREAM_DATA and MAX_DATA move
the windows, each to the larger of the two offsets. -/
theorem SendStreamCall.apply_windows {c : SendStreamCall} {st : SendSide} {tr : SendStreamTrace}
    {acc' : SendSide × SendStreamTrace} (h : c.apply (st, tr) = .ok acc') :
    acc'.1.stream.streamID = st.stream.streamID ∧
      acc'.1.stream.flowController.sendWindow = c.streamLimit.toList.foldl max st.stream.flowController.sendWindow ∧
      acc'.1.connection.sendWindow = c.connectionLimit.toList.foldl max st.connection.sendWindow := by
  cases c with
  | write p now =>
    cases hw : st.writer with
    | some w =>
      simp only [apply, hw] at h
      cases h
      exact ⟨rfl, rfl, rfl⟩
    | none =>
      simp only [apply, hw] at h
      cases h
      rcases hl : st.stream.write p now with ⟨r, s'⟩
      obtain ⟨d, sender, rfl, -⟩ := SendStream.write_keeps hl
      cases r <;> exact ⟨rfl, rfl, rfl⟩
  | wake now =>
    cases hw : st.writer with
    | none =>
      simp only [apply, hw] at h
      cases h
      exact ⟨rfl, rfl, rfl⟩
    | some w =>
      simp only [apply, hw] at h
      cases h
      rcases hl : st.stream.writeLoop w now with ⟨r, s'⟩
      obtain ⟨d, sender, rfl, -⟩ := SendStream.writeLoop_keeps hl
      cases r <;> exact ⟨rfl, rfl, rfl⟩
  | popStreamFrame maxBytes =>
    obtain ⟨⟨⟨frame, more⟩, s', connection'⟩, hp, h⟩ := bind_eq_ok.1 h
    cases h
    obtain ⟨ret, hp⟩ := SendStream.popStreamFrame_pops hp
    refine ⟨by rw [hp.stream_eq], by rw [hp.stream_eq]; rfl, by rw [hp.connection_eq]; rfl⟩
  | close =>
    simp only [apply] at h
    split at h
    · next s' hs =>
      cases h
      obtain ⟨-, rfl⟩ := SendStream.close_eq_ok hs
      exact ⟨rfl, rfl, rfl⟩
    · cases h
      exact ⟨rfl, rfl, rfl⟩
  | cancelWrite errorCode =>
    cases h
    simp only [SendStream.cancelWrite, SendStream.cancelWriteWith_eq]
    split_ifs <;> exact ⟨rfl, rfl, rfl⟩
  | setWriteDeadline t =>
    cases h
    exact ⟨rfl, rfl, rfl⟩
  | handleStopSendingFrame frame =>
    cases h
    simp only [SendStream.handleStopSendingFrame, SendStream.cancelWriteWith_eq]
    split_ifs <;> exact ⟨rfl, rfl, rfl⟩
  | handleMaxStreamDataFrame frame =>
    cases h
    rw [SendStream.handleMaxStreamDataFrame_eq]
    exact ⟨rfl, by simp [streamLimit], rfl⟩
  | closeForShutdown err =>
    cases h
    exact ⟨rfl, rfl, rfl⟩
  | updateConnectionSendWindow offset =>
    cases h
    exact ⟨rfl, rfl, by simp [connectionLimit]⟩

section
variable {streamID initialSendWindow : Nat} {connection : SendFlowController} {calls : List SendStreamCall}
  {st : SendSide} {tr : SendStreamTrace}

theorem SendsWrites.run (hr : runSendStream streamID initialSendWindow connection calls = .ok (st, tr)) :
    SendsWrites st tr :=
  foldlM_induction (fun acc : SendSide × SendStreamTrace => SendsWrites acc.1 acc.2)
    (fun _ _ _ _ hi h => hi.apply h) (SendsWrites.init streamID initialSendWindow connection) hr

theorem WithinWindows.run (hc : connection.bytesSent ≤ connection.sendWindow)
    (hr : runSendStream streamID initialSendWindow connection calls = .ok (st, tr)) :
    WithinWindows connection.bytesSent st :=
  foldlM_induction (fun acc : SendSide × SendStreamTrace => WithinWindows connection.bytesSent acc.1)
    (fun _ _ _ _ hi h => hi.apply h) (WithinWindows.init streamID initialSendWindow hc) hr

theorem EndsOnce.run (hr : runSendStream streamID initialSendWindow connection calls = .ok (st, tr)) :
    EndsOnce st tr :=
  foldlM_induction (fun acc : SendSide × SendStreamTrace => EndsOnce acc.1 acc.2)
    (fun _ _ _ _ hi h => hi.apply h) (EndsOnce.init streamID initialSendWindow connection) hr

theorem runSendStream_streamID (hr : runSendStream streamID initialSendWindow connection calls = .ok (st, tr)) :
    st.stream.streamID = streamID :=
  foldlM_induction (fun acc => acc.1.stream.streamID = streamID)
    (fun _ _ _ _ hi h => (SendStreamCall.apply_windows h).1.trans hi) rfl hr

/-- The windows are the largest limits the calls so far granted. -/
def SendSide.Granted (initialSendWindow : Nat) (connection : SendFlowController) (calls : List SendStreamCall)
    (st : SendSide) : Prop :=
  st.stream.flowController.sendWindow = (calls.filterMap SendStreamCall.streamLimit).foldl max initialSendWindow ∧
    st.connection.sendWindow = (calls.filterMap SendStreamCall.connectionLimit).foldl max connection.sendWindow

theorem SendSide.granted_init (streamID initialSendWindow : Nat) (connection : SendFlowController) :
    SendSide.Granted initialSendWindow connection [] ⟨newSendStream streamID initialSendWindow, connection, none⟩ :=
  ⟨rfl, rfl⟩

theorem SendSide.Granted.apply {pre : List SendStreamCall} (hi : SendSide.Granted initialSendWindow connection pre st)
    {c : SendStreamCall} {acc' : SendSide × SendStreamTrace} (h : c.apply (st, tr) = .ok acc') :
    SendSide.Granted initialSendWindow connection (pre ++ [c]) acc'.1 := by
  obtain ⟨-, hsw, hcw⟩ := SendStreamCall.apply_windows h
  unfold SendSide.Granted
  rw [hsw, hcw, hi.1, hi.2, List.filterMap_append, List.filterMap_append, List.foldl_append, List.foldl_append]
  constructor <;> cases c <;> rfl

theorem runSendStream_granted (hr : runSendStream streamID initialSendWindow connection calls = .ok (st, tr)) :
    SendSide.Granted initialSendWindow connection calls st := by
  have := foldlM_induction_prefix
    (fun pre (acc : SendSide × SendStreamTrace) => SendSide.Granted initialSendWindow connection pre acc.1)
    (fun _ _ _ _ hi h => hi.apply h) (SendSide.granted_init streamID initialSendWindow connection) hr
  simpa using this

/-- The data of a stream: over every run, the frames popped carry, in order, the
bytes each `Write` that returned reported written, then those the waiting one has
handed over; each frame starts where the one before ended and names the stream;
and a `Write` reports at most its bytes, and all of them when it returns no
error. -/
theorem runSendStream_delivers (hr : runSendStream streamID initialSendWindow connection calls = .ok (st, tr)) :
    tr.sent = tr.written ++ st.pendingWritten ∧ Contiguous tr.frames ∧ (∀ f ∈ tr.frames, f.streamID = streamID) ∧
      ∀ w ∈ tr.writes, w.n ≤ w.p.length ∧ (w.err = none → w.n = w.p.length) := by
  have hi := SendsWrites.run hr
  have hid := runSendStream_streamID hr
  exact ⟨hi.sent_eq, hi.contiguous, fun f hf => (hi.streamID_eq f hf).trans hid, hi.writes⟩

/-- Two `Write`s, the first cut into two frames. -/
theorem runSendStream_delivers_two_writes :
    ∃ st tr, runSendStream 4 100 ⟨0, 100, 0⟩ [.write [1, 2, 3, 4, 5] 0, .popStreamFrame 5, .popStreamFrame 10,
        .wake 0, .write [6, 7] 0, .popStreamFrame 10, .wake 0] = .ok (st, tr) ∧
      tr = ⟨[⟨4, false, true, 0, [1, 2]⟩, ⟨4, false, true, 2, [3, 4, 5]⟩, ⟨4, false, true, 5, [6, 7]⟩],
        [⟨[1, 2, 3, 4, 5], 5, none⟩, ⟨[6, 7], 2, none⟩]⟩ ∧
      tr.sent = tr.written ++ st.pendingWritten ∧ Contiguous tr.frames ∧ (∀ f ∈ tr.frames, f.streamID = 4) ∧
      ∀ w ∈ tr.writes, w.n ≤ w.p.length ∧ (w.err = none → w.n = w.p.length) := by
  obtain ⟨⟨st, tr⟩, hr, htr⟩ := exists_ok_of_toOption_map (x := runSendStream 4 100 ⟨0, 100, 0⟩
      [.write [1, 2, 3, 4, 5] 0, .popStreamFrame 5, .popStreamFrame 10, .wake 0, .write [6, 7] 0,
        .popStreamFrame 10, .wake 0])
    (f := fun acc => acc.2)
    (b := ⟨[⟨4, false, true, 0, [1, 2]⟩, ⟨4, false, true, 2, [3, 4, 5]⟩, ⟨4, false, true, 5, [6, 7]⟩],
      [⟨[1, 2, 3, 4, 5], 5, none⟩, ⟨[6, 7], 2, none⟩]⟩) (by decide +kernel)
  exact ⟨st, tr, hr, htr, runSendStream_delivers hr⟩

/-- Flow control: over every run that starts with the connection within its
window, the data sent stays within the largest limit the peer granted the stream
and, with what the connection sent before, within the largest granted the
connection; the STREAM_DATA_BLOCKED frames name ever higher limits, each one
reached by the data. -/
theorem runSendStream_within_windows (hc : connection.bytesSent ≤ connection.sendWindow)
    (hr : runSendStream streamID initialSendWindow connection calls = .ok (st, tr)) :
    tr.sent.length ≤ (calls.filterMap SendStreamCall.streamLimit).foldl max initialSendWindow ∧
      connection.bytesSent + tr.sent.length ≤
        (calls.filterMap SendStreamCall.connectionLimit).foldl max connection.sendWindow ∧
      (blockedLimits st.stream.sender).Pairwise (· < ·) ∧
      ∀ l ∈ blockedLimits st.stream.sender, l ≤ tr.sent.length := by
  have hd := SendsWrites.run hr
  have hw := WithinWindows.run hc hr
  obtain ⟨hsw, hcw⟩ := runSendStream_granted hr
  rw [← hsw, ← hcw, ← hd.writeOffset_eq]
  refine ⟨?_, ?_, hw.blocked_sorted, fun l hl => (hw.blocked_le l hl).2⟩
  · rw [← hw.bytesSent_eq]
    exact hw.stream_le
  · rw [← hw.connection_eq]
    exact hw.connection_le

/-- A window of three bytes: the stream is blocked at 3 until the peer raises the
limit to 10. -/
theorem runSendStream_within_windows_blocked :
    ∃ st tr, runSendStream 4 3 ⟨0, 100, 0⟩ [.write [1, 2, 3, 4, 5] 0, .popStreamFrame 20, .popStreamFrame 20,
        .handleMaxStreamDataFrame ⟨4, 10⟩, .popStreamFrame 20, .wake 0] = .ok (st, tr) ∧
      blockedLimits st.stream.sender = [3] ∧ tr.sent = [1, 2, 3, 4, 5] ∧
      (0 : Nat) ≤ 100 ∧
      tr.sent.length ≤ ([SendStreamCall.write [1, 2, 3, 4, 5] 0, .popStreamFrame 20, .popStreamFrame 20,
        .handleMaxStreamDataFrame ⟨4, 10⟩, .popStreamFrame 20, .wake 0].filterMap SendStreamCall.streamLimit).foldl
          max 3 ∧
      0 + tr.sent.length ≤ ([SendStreamCall.write [1, 2, 3, 4, 5] 0, .popStreamFrame 20, .popStreamFrame 20,
        .handleMaxStreamDataFrame ⟨4, 10⟩, .popStreamFrame 20, .wake 0].filterMap
          SendStreamCall.connectionLimit).foldl max 100 ∧
      (blockedLimits st.stream.sender).Pairwise (· < ·) ∧
      ∀ l ∈ blockedLimits st.stream.sender, l ≤ tr.sent.length := by
  obtain ⟨⟨st, tr⟩, hr, hb⟩ := exists_ok_of_toOption_map (x := runSendStream 4 3 ⟨0, 100, 0⟩
      [.write [1, 2, 3, 4, 5] 0, .popStreamFrame 20, .popStreamFrame 20, .handleMaxStreamDataFrame ⟨4, 10⟩,
        .popStreamFrame 20, .wake 0])
    (f := fun acc => (blockedLimits acc.1.stream.sender, acc.2.sent)) (b := ([3], [1, 2, 3, 4, 5]))
    (by decide +kernel)
  simp only [Prod.mk.injEq] at hb
  exact ⟨st, tr, hr, hb.1, hb.2, by decide, runSendStream_within_windows (by decide) hr⟩

/-- The end of a stream: over every run, the FIN bit is on at most one frame, the
last; at most one RESET_STREAM is queued, and it carries the final size, all the
bytes sent in the run; a stream sends the FIN or a RESET_STREAM, never both; and
the sender hears once that the stream completed, when it did either. -/
theorem runSendStream_ends_once (hr : runSendStream streamID initialSendWindow connection calls = .ok (st, tr)) :
    (∀ f ∈ tr.frames, f.finBit = true → ∃ init, tr.frames = init ++ [f] ∧ ∀ g ∈ init, g.finBit = false) ∧
      (resets st.stream.sender).length ≤ 1 ∧
      (∀ r ∈ resets st.stream.sender, r.streamID = streamID ∧ r.byteOffset = tr.sent.length) ∧
      (resets st.stream.sender = [] ∨ ∀ f ∈ tr.frames, f.finBit = false) ∧
      st.stream.sender.count (.onStreamCompleted streamID) =
        if resets st.stream.sender ≠ [] ∨ ∃ f ∈ tr.frames, f.finBit = true then 1 else 0 := by
  have he := EndsOnce.run hr
  have hd := SendsWrites.run hr
  have hid := runSendStream_streamID hr
  have hfin : st.stream.finSent = true ↔ ∃ f ∈ tr.frames, f.finBit = true := by
    constructor
    · intro h
      obtain ⟨init, f, hfr, hf, -⟩ := he.fin_last h
      exact ⟨f, by simp [hfr], hf⟩
    · rintro ⟨f, hf, hfb⟩
      cases hs : st.stream.finSent
      · simp [he.no_fin hs f hf] at hfb
      · rfl
  have hres : st.stream.canceledWrite = true ↔ resets st.stream.sender ≠ [] := by
    have := he.resets_length
    rw [ne_eq, ← List.length_eq_zero_iff, this]
    split <;> simp_all
  refine ⟨?_, ?_, ?_, ?_, ?_⟩
  · intro f hf hfb
    obtain ⟨init, f', hfr, -, hinit⟩ := he.fin_last (hfin.2 ⟨f, hf, hfb⟩)
    rw [hfr, List.mem_append, List.mem_singleton] at hf
    rcases hf with hf | rfl
    · simp [hinit f hf] at hfb
    · exact ⟨init, hfr, hinit⟩
  · rw [he.resets_length]
    split <;> omega
  · intro r hr'
    obtain ⟨h1, h2⟩ := he.resets_at r hr'
    exact ⟨h1.trans hid, h2.trans hd.writeOffset_eq⟩
  · rcases he.not_both with h | h
    · exact .inr (he.no_fin h)
    · exact .inl (he.resets_eq_nil h)
  · rw [← hid, he.completed]
    simp only [← hres, ← hfin, Bool.or_eq_true, or_comm]

/-- A STOP_SENDING after two of three bytes are sent: one RESET_STREAM, of final
size 2, and nothing sent after it. -/
theorem runSendStream_ends_once_reset :
    ∃ st tr, runSendStream 4 100 ⟨0, 100, 0⟩ [.write [1, 2, 3] 0, .popStreamFrame 5,
        .handleStopSendingFrame ⟨4, 9⟩, .popStreamFrame 20, .close, .wake 0] = .ok (st, tr) ∧
      resets st.stream.sender = [⟨4, errorCodeStopping, 2⟩] ∧ tr.frames = [⟨4, false, true, 0, [1, 2]⟩] ∧
      (∀ f ∈ tr.frames, f.finBit = true → ∃ init, tr.frames = init ++ [f] ∧ ∀ g ∈ init, g.finBit = false) ∧
      (resets st.stream.sender).length ≤ 1 ∧
      (∀ r ∈ resets st.stream.sender, r.streamID = 4 ∧ r.byteOffset = tr.sent.length) ∧
      (resets st.stream.sender = [] ∨ ∀ f ∈ tr.frames, f.finBit = false) ∧
      st.stream.sender.count (.onStreamCompleted 4) =
        if resets st.stream.sender ≠ [] ∨ ∃ f ∈ tr.frames, f.finBit = true then 1 else 0 := by
  obtain ⟨⟨st, tr⟩, hr, hb⟩ := exists_ok_of_toOption_map (x := runSendStream 4 100 ⟨0, 100, 0⟩
      [.write [1, 2, 3] 0, .popStreamFrame 5, .handleStopSendingFrame ⟨4, 9⟩, .popStreamFrame 20, .close,
        .wake 0])
    (f := fun acc => (resets acc.1.stream.sender, acc.2.frames))
    (b := ([⟨4, errorCodeStopping, 2⟩], [⟨4, false, true, 0, [1, 2]⟩])) (by decide +kernel)
  simp only [Prod.mk.injEq] at hb
  exact ⟨st, tr, hr, hb.1, hb.2, runSendStream_ends_once hr⟩

end

end QuicFec
