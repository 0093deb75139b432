import Mathlib
import QuicFec.Lib.GoMap
import QuicFec.Protocol

/-! # Stream reassembly: the frame sorter

`frameSorter` (frame_sorter.go) puts the data of STREAM and CRYPTO frames, which
arrive in any order, overlapping and duplicated, back into stream order.  It keeps
the chunks received beyond the read position in a map from offset to data
(`queue`), and the ranges of the stream not received yet as a linked list of gaps
(`gaps`).  `push` cuts a frame against both, and `Pop` hands out the chunk that
starts at the read position.

The gap list is a `utils.ByteIntervalList`, a doubly linked list, and `push` holds
pointers to its elements: the loop that looks for the last gap a frame reaches
removes elements from the list and may leave its pointer on one of them, which
`push` then writes to.  The model keeps this: an element is named by the index of
its value in `values`, which holds the values of every element the list ever had,
removed ones included, and the list itself is the elements in order (`elems`).

Main results:

* `push_entries`: a chunk that `push` queues is a piece of the frame it was given,
  at that piece's offset, and every other chunk was queued before;
* `runCalls_popped`: for every sequence of `Push` calls with slices of one stream
  and `Pop` calls, the bytes `Pop` returned, in order, are the stream up to the read
  position;
* `frameSorter_stale_chunk`: a chunk that starts inside data received before is
  not deleted when a frame covering it arrives, and stays queued after the whole
  stream has been read.
-/

namespace QuicFec
open GoBytes

/-- `utils.ByteInterval`: the stream offsets from `Start` up to, not including,
`End`. -/
structure ByteInterval where
  start : Nat
  «end» : Nat
  deriving DecidableEq, Repr

/-- `utils.ByteIntervalList`.  Element `e` has the value `values[e]`, which stays
readable and writable after `e` is removed; `elems` are the elements in the
list, in order. -/
structure ByteIntervalList where
  elems : List Nat
  values : List ByteInterval
  deriving DecidableEq, Repr

namespace ByteIntervalList

/-- `e.Value`. -/
def value (l : ByteIntervalList) (e : Nat) : ByteInterval := l.values.getD e ⟨0, 0⟩

/-- The elements after `e`: `e.Next()`, `e.Next().Next()`, and so on. -/
def after (l : ByteIntervalList) (e : Nat) : List Nat := (l.elems.dropWhile (· ≠ e)).drop 1

/-- `l.PushFront(v)`. -/
def pushFront (l : ByteIntervalList) (v : ByteInterval) : ByteIntervalList :=
  ⟨l.values.length :: l.elems, l.values ++ [v]⟩

/-- `l.InsertAfter(v, mark)`. -/
def insertAfter (l : ByteIntervalList) (v : ByteInterval) (mark : Nat) : ByteIntervalList :=
  ⟨l.elems.insertIdx (l.elems.idxOf mark + 1) l.values.length, l.values ++ [v]⟩

/-- `l.Remove(e)`: `e` leaves the list and keeps its value. -/
def remove (l : ByteIntervalList) (e : Nat) : ByteIntervalList := { l with elems := l.elems.erase e }

/-- `e.Value.Start = x`, whether `e` is in the list or was removed. -/
def setStart (l : ByteIntervalList) (e x : Nat) : ByteIntervalList :=
  { l with values := l.values.modify e fun v => { v with start := x } }

/-- `e.Value.End = x`, whether `e` is in the list or was removed. -/
def setEnd (l : ByteIntervalList) (e x : Nat) : ByteIntervalList :=
  { l with values := l.values.modify e fun v => { v with «end» := x } }

/-- `l.Len()`. -/
def len (l : ByteIntervalList) : Nat := l.elems.length

end ByteIntervalList

/-- `frameSorter`. -/
structure FrameSorter where
  queue : GoMap Nat Bytes
  readPos : Nat
  gaps : ByteIntervalList

/-- `errDuplicateStreamData`, which `Push` turns into success. -/
def errDuplicateStreamData : GoError := .error "Duplicate Stream Data"

/-- `newFrameSorter`: nothing received, one gap over the whole stream. -/
def newFrameSorter : FrameSorter where
  queue := GoMap.empty
  readPos := 0
  gaps := (ByteIntervalList.mk [] []).pushFront ⟨0, MaxByteCount⟩

namespace FrameSorter

/-- The first step of `push`: a frame at the offset of a queued chunk keeps only
what goes beyond that chunk, and is a duplicate if nothing does. -/
def cutQueued (s : FrameSorter) (data : Bytes) (offset : Nat) : Except GoError (Bytes × Nat) :=
  match s.queue.get? offset with
  | some oldData =>
    if data.length ≤ oldData.length then .error errDuplicateStreamData
    else .ok (data.drop oldData.length, offset + oldData.length)
  | none => .ok (data, offset)

/-- The loop of `push` that skips the gaps before the frame `[start, end')`: the
first gap the frame reaches into, or a duplicate if it lies before a gap. -/
def findGap (l : ByteIntervalList) (start end' : Nat) : List Nat → Except GoError Nat
  | [] => .error (.error "StreamFrameSorter BUG: no gap found")
  | gap :: gaps =>
    if end' ≤ (l.value gap).start then .error errDuplicateStreamData
    else if end' > (l.value gap).start ∧ start ≤ (l.value gap).«end» then .ok gap
    else findGap l start end' gaps

/-- The part of a frame from `offset` before the start of its gap was received
already: cut it off. -/
def cutFront (data : Bytes) (offset start gapStart : Nat) : Except GoError (Bytes × Nat × Nat) :=
  if start < gapStart then do
    let add := gapStart - start
    let data ← sliceFrom data add
    pure (data, offset + add, start + add)
  else pure (data, offset, start)

/-- The loop of `push` that finds the last gap the frame `[_, end')` reaches
into, from `gap`.  `rest` holds the elements after `endGap`, so `endGap.Next()` is
its head.  Every gap passed over is removed, except `gap`, and so is the gap the
loop breaks at, which `endGap` still points to; the chunk queued at the end of
every gap passed over is deleted. -/
def endGapLoop (s : FrameSorter) (gap end' endGap : Nat) (rest : List Nat) :
    Except GoError (FrameSorter × Nat) :=
  if end' ≥ (s.gaps.value endGap).«end» then
    match rest with
    | [] => .error (.error "StreamFrameSorter BUG: no end gap found")
    | nextEndGap :: rest =>
      let s := { s with gaps := if endGap ≠ gap then s.gaps.remove endGap else s.gaps }
      if end' ≤ (s.gaps.value nextEndGap).start then .ok (s, endGap)
      else
        -- delete queued frames completely covered by the current frame
        let s := { s with queue := s.queue.delete (s.gaps.value endGap).«end» }
        s.endGapLoop gap end' nextEndGap rest
  else .ok (s, endGap)

/-- The part of a frame beyond the end of `endGap` was received already: cut it
off.  The length kept is a `uint64` difference, and the slice panics if it
wraps. -/
def cutEnd (data : Bytes) (end' endGapEnd : Nat) : Except GoError (Bytes × Nat) :=
  if end' > endGapEnd then do
    let cutLen := end' - endGapEnd
    let data ← sliceTo data (subU64 data.length cutLen)
    pure (data, end' - cutLen)
  else pure (data, end')

/-- The gap list once the frame `[start, end')` is in: the gaps from `gap` to
`endGap` shrink, vanish or split. -/
def updateGaps (l : ByteIntervalList) (gap endGap start end' : Nat) : ByteIntervalList :=
  if start = (l.value gap).start then
    -- the frame completely fills this gap
    let l := if end' ≥ (l.value gap).«end» then l.remove gap else l
    -- the frame covers the beginning of the gap
    if end' < (l.value endGap).«end» then l.setStart endGap end' else l
  else if end' = (l.value endGap).«end» then
    -- the frame covers the end of the gap
    l.setEnd gap start
  else if gap = endGap then
    -- the frame lies within the current gap, splitting it into two
    (l.insertAfter ⟨end', (l.value gap).«end»⟩ gap).setEnd gap start
  else (l.setEnd gap start).setStart endGap end'

/-- `frameSorter.push`.  Copying a cut frame into a fresh slice changes no value,
so the model has no `wasCut`. -/
def push (s : FrameSorter) (data : Bytes) (offset : Nat) : Except GoError FrameSorter :=
  if data.length = 0 then .ok s else do
  let (data, offset) ← s.cutQueued data offset
  let gap ← findGap s.gaps offset (offset + data.length) s.gaps.elems
  let end' := offset + data.length
  let (data, offset, start) ← cutFront data offset offset (s.gaps.value gap).start
  let (s, endGap) ← s.endGapLoop gap end' gap (s.gaps.after gap)
  let (data, end') ← cutEnd data end' (s.gaps.value endGap).«end»
  let gaps := updateGaps s.gaps gap endGap start end'
  if gaps.len > MaxStreamFrameSorterGaps then throw (.error "Too many gaps in received data")
  else pure { s with gaps := gaps, queue := s.queue.insert offset data }

/-- `frameSorter.Push`: `push`, with a duplicate frame accepted.  (`push` returns
the duplicate error before it changes anything.) -/
def Push (s : FrameSorter) (data : Bytes) (offset : Nat) : Except GoError FrameSorter :=
  match s.push data offset with
  | .error e => if e = errDuplicateStreamData then .ok s else .error e
  | .ok s' => .ok s'

/-- `frameSorter.Pop`: the offset and data of the chunk at the read position, or
`none` for Go's `nil` when there is none. -/
def pop (s : FrameSorter) : (Nat × Option Bytes) × FrameSorter :=
  match s.queue.get? s.readPos with
  | none => ((s.readPos, none), s)
  | some data =>
    ((s.readPos, some data),
      { s with queue := s.queue.delete s.readPos, readPos := s.readPos + data.length })

/-- `frameSorter.HasMoreData`. -/
def hasMoreData (s : FrameSorter) : Bool := s.queue.len > 0

end FrameSorter

/-! ## What push queues -/

namespace FrameSorter

variable {s s' : FrameSorter} {data d : Bytes} {offset o : Nat}

theorem cutQueued_ok (h : s.cutQueued data offset = .ok (d, o)) :
    ∃ k, o = offset + k ∧ d = data.drop k := by
  unfold cutQueued at h
  split at h
  · rename_i oldData _
    split at h
    · cases h
    · cases h
      exact ⟨oldData.length, rfl, rfl⟩
  · cases h
    exact ⟨0, rfl, rfl⟩

theorem cutFront_ok {start gapStart st : Nat}
    (h : cutFront data offset start gapStart = .ok (d, o, st)) :
    ∃ k, o = offset + k ∧ d = data.drop k := by
  unfold cutFront at h
  split at h
  · obtain ⟨d', hd', h⟩ := bind_eq_ok.1 h
    cases h
    exact ⟨_, rfl, (sliceFrom_eq_ok.1 hd').2.symm⟩
  · cases h
    exact ⟨0, rfl, rfl⟩

theorem cutEnd_prefix {end' endGapEnd e : Nat} (h : cutEnd data end' endGapEnd = .ok (d, e)) :
    d <+: data := by
  unfold cutEnd at h
  split at h
  · obtain ⟨d', hd', h⟩ := bind_eq_ok.1 h
    cases h
    exact sliceTo_prefix hd'
  · cases h
    exact List.prefix_refl data

/-- The loop over the end gaps keeps the read position and only deletes chunks. -/
theorem endGapLoop_ok {gap end' endGap endGap' : Nat} {rest : List Nat}
    (h : s.endGapLoop gap end' endGap rest = .ok (s', endGap')) :
    s'.readPos = s.readPos ∧ ∀ x ∈ s'.queue.entries, x ∈ s.queue.entries := by
  induction rest generalizing s endGap with
  | nil =>
    unfold endGapLoop at h
    split at h
    · cases h
    · cases h
      exact ⟨rfl, fun _ hx => hx⟩
  | cons next rest ih =>
    unfold endGapLoop at h
    dsimp only at h
    -- each branch ends the loop, deleting nothing, or deletes the chunk at the
    -- end of `endGap` and goes on
    split_ifs at h <;> first
      | cases h
        exact ⟨rfl, fun _ hx => hx⟩
      | obtain ⟨hpos, hq⟩ := ih h
        exact ⟨hpos, fun x hx => (GoMap.mem_delete.1 (hq x hx)).1⟩

/-- **What `push` queues.**  The read position stays, and every queued chunk was
queued before or is a piece of the frame pushed, at that piece's offset. -/
theorem push_entries (h : s.push data offset = .ok s') :
    s'.readPos = s.readPos ∧ ∀ x ∈ s'.queue.entries,
      x ∈ s.queue.entries ∨ ∃ k, x.1 = offset + k ∧ x.2 <+: data.drop k := by
  unfold push at h
  split at h
  · cases h
    exact ⟨rfl, fun x hx => .inl hx⟩
  · obtain ⟨⟨d1, o1⟩, h1, h⟩ := bind_eq_ok.1 h
    obtain ⟨gap, -, h⟩ := bind_eq_ok.1 h
    obtain ⟨⟨d2, o2, st2⟩, h2, h⟩ := bind_eq_ok.1 h
    obtain ⟨⟨s1, eg⟩, h3, h⟩ := bind_eq_ok.1 h
    obtain ⟨⟨d3, e3⟩, h4, h⟩ := bind_eq_ok.1 h
    dsimp only at h
    split at h
    · cases h
    · cases h
      obtain ⟨k1, rfl, rfl⟩ := cutQueued_ok h1
      obtain ⟨k2, rfl, rfl⟩ := cutFront_ok h2
      obtain ⟨hpos, hq⟩ := endGapLoop_ok h3
      refine ⟨hpos, fun x hx => ?_⟩
      rcases GoMap.mem_insert.1 hx with rfl | ⟨hx, -⟩
      · -- the frame, cut at both ends
        refine .inr ⟨k1 + k2, by simp [Nat.add_assoc], ?_⟩
        simpa [List.drop_drop] using cutEnd_prefix h4
      · exact .inl (hq x hx)

theorem Push_entries (h : s.Push data offset = .ok s') :
    s'.readPos = s.readPos ∧ ∀ x ∈ s'.queue.entries,
      x ∈ s.queue.entries ∨ ∃ k, x.1 = offset + k ∧ x.2 <+: data.drop k := by
  unfold Push at h
  split at h
  · split at h
    · cases h
      exact ⟨rfl, fun x hx => .inl hx⟩
    · cases h
  · cases h
    exact push_entries ‹_›

end FrameSorter

/-! ## Runs of a receiver -/

/-- A call a receiver makes on its frame sorter. -/
inductive SorterCall where
  /-- `Push(data, offset)` -/
  | push (data : Bytes) (offset : Nat)
  /-- `Pop()` -/
  | pop

/-- One call, on the sorter and the bytes popped so far: a failed `Push` ends the
run with its error, and a `Pop` appends what it returns. -/
def SorterCall.apply : SorterCall → FrameSorter × Bytes → Except GoError (FrameSorter × Bytes)
  | .push data offset, (s, popped) => do
    let s ← s.Push data offset
    pure (s, popped)
  | .pop, (s, popped) => .ok (s.pop.2, popped ++ s.pop.1.2.getD [])

/-- The calls one after the other, on a new frame sorter: the sorter at the end
and the bytes popped, in order. -/
def runCalls (calls : List SorterCall) : Except GoError (FrameSorter × Bytes) :=
  calls.foldlM (fun acc c => c.apply acc) (newFrameSorter, [])

/-- Every queued chunk is the bytes of the stream `S` at its offset. -/
def ChunksOf (S : Bytes) (s : FrameSorter) : Prop := ∀ x ∈ s.queue.entries, x.2 <+: S.drop x.1

/-- A call that pushes pushes a slice of the stream `S`, at its offset. -/
def SorterCall.SliceOf (S : Bytes) : SorterCall → Prop
  | .push data offset => data <+: S.drop offset
  | .pop => True

/-- What a receiver holds in the middle of a run: the queued chunks are the
stream's, and what it popped is the stream up to the read position. -/
def Delivers (S : Bytes) (acc : FrameSorter × Bytes) : Prop :=
  ChunksOf S acc.1 ∧ acc.2 = S.take acc.1.readPos

theorem take_append_of_prefix {S d : Bytes} {r : Nat} (h : d <+: S.drop r) :
    S.take r ++ d = S.take (r + d.length) := by
  have hd : (S.drop r).take d.length = d := (List.prefix_iff_eq_take.mp h).symm
  rw [List.take_add, hd]

theorem newFrameSorter_delivers (S : Bytes) : Delivers S (newFrameSorter, []) :=
  ⟨fun _ hx => absurd hx List.not_mem_nil, rfl⟩

theorem push_chunksOf {S : Bytes} {s s' : FrameSorter} {data : Bytes} {offset : Nat}
    (hs : ChunksOf S s) (hd : data <+: S.drop offset) (h : s.Push data offset = .ok s') :
    ChunksOf S s' := by
  intro x hx
  rcases (FrameSorter.Push_entries h).2 x hx with hx | ⟨k, hk, hp⟩
  · exact hs x hx
  · -- a piece of the frame from its `k`th byte on is the stream's from `offset + k`
    have hdk : data.drop k <+: S.drop (offset + k) := by
      simpa [List.drop_drop, Nat.add_comm] using hd.drop k
    rw [hk]
    exact hp.trans hdk

/-- **One call keeps the invariant.** -/
theorem apply_delivers {S : Bytes} {c : SorterCall} {acc acc' : FrameSorter × Bytes}
    (hc : c.SliceOf S) (hi : Delivers S acc) (h : c.apply acc = .ok acc') : Delivers S acc' := by
  obtain ⟨s, popped⟩ := acc
  obtain ⟨hs, hp⟩ := hi
  dsimp only at hs hp
  cases c with
  | push data offset =>
    obtain ⟨s', hs', h⟩ := bind_eq_ok.1 h
    cases h
    exact ⟨push_chunksOf hs hc hs', by rw [(FrameSorter.Push_entries hs').1]; exact hp⟩
  | pop =>
    simp only [SorterCall.apply, Except.ok.injEq] at h
    subst h
    unfold FrameSorter.pop
    split
    · exact ⟨hs, by simpa using hp⟩
    · -- the chunk at the read position is the stream's next bytes
      rename_i d hget
      have hd : d <+: S.drop s.readPos := hs _ (GoMap.mem_of_get? hget)
      refine ⟨fun x hx => hs x (GoMap.mem_delete.1 hx).1, ?_⟩
      simp [hp, take_append_of_prefix hd]

theorem foldlM_delivers {S : Bytes} {calls : List SorterCall} (hc : ∀ c ∈ calls, c.SliceOf S)
    {acc acc' : FrameSorter × Bytes} (hi : Delivers S acc)
    (h : calls.foldlM (fun acc c => c.apply acc) acc = .ok acc') : Delivers S acc' := by
  induction calls generalizing acc with
  | nil =>
    cases h
    exact hi
  | cons c calls ih =>
    rw [List.foldlM_cons] at h
    obtain ⟨acc₁, h₁, h⟩ := bind_eq_ok.1 h
    have hc₁ : c.SliceOf S := hc c List.mem_cons_self
    exact ih (fun c' hc' => hc c' (List.mem_cons_of_mem c hc')) (apply_delivers hc₁ hi h₁) h

/-- **What a receiver reads is the stream.**  For every run of `Push` calls that
succeed, each with a slice of the stream `S` at its offset, and `Pop` calls, the
bytes `Pop` returned, in order, are `S` up to the read position. -/
theorem runCalls_popped {S : Bytes} {calls : List SorterCall} (hc : ∀ c ∈ calls, c.SliceOf S)
    {s : FrameSorter} {popped : Bytes} (h : runCalls calls = .ok (s, popped)) :
    popped = S.take s.readPos :=
  (foldlM_delivers hc (newFrameSorter_delivers S) h).2

/-- Two adjacent chunks arrive, then a frame that covers both: the second chunk
starts inside the new frame, not at the end of a gap, so it is not deleted.
Once the whole stream `[0, 7)` has been read, it is still queued. -/
theorem frameSorter_stale_chunk :
    ∃ s, runCalls [.push [2, 3] 2, .push [4, 5] 4, .push [1, 2, 3, 4, 5, 6] 1, .push [0] 0,
        .pop, .pop, .pop] = .ok (s, [0, 1, 2, 3, 4, 5, 6]) ∧
      s.readPos = 7 ∧ s.hasMoreData = true ∧ s.queue.entries = [(4, [4, 5])] :=
  ⟨_, rfl, rfl, rfl, rfl⟩

end QuicFec
