import QuicFec.Lib.GoMap
import QuicFec.Frames

/-! # The streams the peer opens

`incomingItemsMap` (`streams_map_incoming_generic.go`, instantiated for
bidirectional and unidirectional streams) holds the streams the peer has opened,
up to a limit it raises each time a stream is closed.  `GetOrOpenStream(num)`
opens every stream up to `num` at once, `AcceptStream` hands them to the
application in order, and `DeleteStream(num)` closes one: a stream the
application has not accepted yet is only queued in `streamsToDelete`, and
`AcceptStream` deletes it when it comes to it.  Each real deletion recomputes the
limit `maxStream` from the number of streams left and queues a MAX_STREAMS frame.

Stream numbers are `int64`s (`protocol.StreamNum`).  The limit starts as
`StreamNum(maxStreams)` of a `uint64`, and three assignments can wrap:
`nextStreamToOpen = num + 1`, `nextStreamToAccept++` and the new limit.  The model
converts and wraps where the code does (`toInt64`, `wrapInt64`).  The mutex, the
channel that wakes a waiting `AcceptStream`, and `CloseWithError` are not modelled:
calls are taken one at a time, and the callback `queueMaxStreamID` is the list of
frames it has been handed (`queuedFrames`).

**The count.**  Over every run from `newIncomingItemsMap newStream N`
(`Reachable`), as long as `N` and the number of calls stay below `2^63` together,

  `len(streams) + (maxStream - nextStreamToOpen + 1) = N`:

the streams open and the streams the peer may still open make up `N`.  Every frame
queued raises the limit by exactly one, `AcceptStream` returns stream `1`, `2`, ...
in turn, and a stream deleted before it was accepted leaves the map when it is
accepted (`reachable_streamLimit`).  When `N` is `2^63` or more the limit starts
negative, and from `N = 2^63 - 1` three calls wrap it to `-2^63`
(`streamLimit_wraps`).
-/

namespace QuicFec
open GoBytes

/-- `streamError`: a message, and the stream numbers it is formatted with once they
are turned into stream IDs. -/
structure StreamError where
  message : String
  nums : List Int
  deriving DecidableEq, Repr

/-- `incomingItemsMap`, over the stream type `item`. -/
structure IncomingItemsMap (item : Type) where
  streams : GoMap Int item
  /-- Streams deleted before they were accepted, used as a set. -/
  streamsToDelete : GoMap Int Unit
  /-- The next stream `AcceptStream` returns. -/
  nextStreamToAccept : Int
  /-- One above the highest stream the peer opened. -/
  nextStreamToOpen : Int
  /-- The highest stream the peer is allowed to open. -/
  maxStream : Int
  maxNumStreams : Nat
  newStream : Int → item
  /-- The frames handed to `queueMaxStreamID`, oldest first. -/
  queuedFrames : List MaxStreamsFrame

variable {item : Type}

/-- `newIncomingItemsMap`. -/
def newIncomingItemsMap (newStream : Int → item) (maxStreams : Nat) : IncomingItemsMap item where
  streams := GoMap.empty
  streamsToDelete := GoMap.empty
  nextStreamToAccept := 1
  nextStreamToOpen := 1
  maxStream := toInt64 maxStreams
  maxNumStreams := maxStreams
  newStream := newStream
  queuedFrames := []

namespace IncomingItemsMap

/-- The loop of `GetOrOpenStream`, `n` rounds from `newNum` on:
`streams[newNum] = newStream(newNum)`, then `newNum++`. -/
def getOrOpenStreamLoop (newStream : Int → item) (streams : GoMap Int item) (newNum : Int) :
    Nat → GoMap Int item
  | 0 => streams
  | n + 1 => getOrOpenStreamLoop newStream (streams.insert newNum (newStream newNum)) (newNum + 1) n

/-- `GetOrOpenStream`: the stream, `none` for Go's `nil`. -/
def getOrOpenStream (m : IncomingItemsMap item) (num : Int) :
    Except StreamError (IncomingItemsMap item × Option item) := do
  if num > m.maxStream then
    throw ⟨"peer tried to open stream %d (current limit: %d)", [num, m.maxStream]⟩
  -- the stream is open, or already closed
  if num < m.nextStreamToOpen then
    let s := if (m.streamsToDelete.get? num).isSome then none else m.streams.get? num
    return (m, s)
  -- Go's newNum++ wraps at the int64 maximum, where the loop would never end; below it
  -- the loop runs num - nextStreamToOpen + 1 times
  let streams := getOrOpenStreamLoop m.newStream m.streams m.nextStreamToOpen
    (num - m.nextStreamToOpen + 1).toNat
  let m := { m with streams := streams, nextStreamToOpen := wrapInt64 (num + 1) }
  return (m, m.streams.get? num)

section Generic

-- the stream type the file is instantiated for
variable (streamTypeGeneric : StreamType)

/-- The end of `deleteStream`, once the stream is gone from `streams`: the peer may
open as many new streams as are missing to `maxNumStreams`, and is told so. -/
def raiseMaxStream (m : IncomingItemsMap item) : IncomingItemsMap item :=
  if m.maxNumStreams > m.streams.len then
    let numNewStreams := m.maxNumStreams - m.streams.len
    let maxStream := wrapInt64 (m.nextStreamToOpen + toInt64 numNewStreams - 1)
    { m with
      maxStream := maxStream
      queuedFrames := m.queuedFrames ++ [⟨streamTypeGeneric, toUint64 maxStream⟩] }
  else m

/-- `deleteStream` (and `DeleteStream`, which only takes the lock). -/
def deleteStream (m : IncomingItemsMap item) (num : Int) :
    Except StreamError (IncomingItemsMap item) := do
  if (m.streams.get? num).isNone then
    throw ⟨"Tried to delete unknown stream %d", [num]⟩
  -- not accepted yet: deleted once AcceptStream returns it
  if num ≥ m.nextStreamToAccept then
    if (m.streamsToDelete.get? num).isSome then
      throw ⟨"Tried to delete stream %d multiple times", [num]⟩
    return { m with streamsToDelete := m.streamsToDelete.insert num () }
  return raiseMaxStream streamTypeGeneric { m with streams := m.streams.delete num }

/-- `AcceptStream`.  `none` while stream `nextStreamToAccept` is not open: the call
then waits for `GetOrOpenStream`, and with no call beside it returns only when its
context is done, with the context's error and the map unchanged. -/
def acceptStream (m : IncomingItemsMap item) :
    Option (IncomingItemsMap item × Except StreamError item) := do
  let num := m.nextStreamToAccept
  let str ← m.streams.get? num
  let m := { m with nextStreamToAccept := wrapInt64 (num + 1) }
  -- completed before it was accepted: deleted now
  if (m.streamsToDelete.get? num).isSome then
    let m := { m with streamsToDelete := m.streamsToDelete.delete num }
    match deleteStream streamTypeGeneric m num with
    | .error err => return (m, .error err)
    | .ok m => return (m, .ok str)
  return (m, .ok str)

/-- One call that returns, with the streams it hands to the application. -/
inductive Step : IncomingItemsMap item → IncomingItemsMap item → List item → Prop
  | getOrOpenStream {m m' : IncomingItemsMap item} {num : Int} {s : Option item}
      (h : m.getOrOpenStream num = .ok (m', s)) : Step m m' []
  | acceptStream {m m' : IncomingItemsMap item} {r : Except StreamError item}
      (h : m.acceptStream streamTypeGeneric = some (m', r)) : Step m m' r.toOption.toList
  | deleteStream {m m' : IncomingItemsMap item} {num : Int}
      (h : m.deleteStream streamTypeGeneric num = .ok m') : Step m m' []

/-- `Reachable m k accepted`: `k` calls from `newIncomingItemsMap newStream N` lead to
`m`, and `AcceptStream` returned `accepted` along the way.  A call that fails, or an
`AcceptStream` that waits until its context is done, leaves the map as it was. -/
inductive Reachable (newStream : Int → item) (N : Nat) :
    IncomingItemsMap item → Nat → List item → Prop
  | init : Reachable newStream N (newIncomingItemsMap newStream N) 0 []
  | step {m m' : IncomingItemsMap item} {k : Nat} {accepted out : List item}
      (hr : Reachable newStream N m k accepted) (hs : Step streamTypeGeneric m m' out) :
      Reachable newStream N m' (k + 1) (accepted ++ out)

end Generic

/-! ## One lemma per operation -/

section Loop

variable (f : Int → item)

theorem getOrOpenStreamLoop_get? (s : GoMap Int item) (first : Int) (n : Nat) (k : Int) :
    (getOrOpenStreamLoop f s first n).get? k =
      if first ≤ k ∧ k < first + n then some (f k) else s.get? k := by
  -- on the rounds left; each round stores the stream of its own number
  induction n generalizing s first with
  | zero => rw [getOrOpenStreamLoop, if_neg (by omega)]
  | succ n ih =>
      rw [getOrOpenStreamLoop, ih, GoMap.get?_insert]
      by_cases hk : k = first
      · subst hk
        rw [if_neg (by omega), if_pos rfl, if_pos (by omega)]
      · by_cases hin : first + 1 ≤ k ∧ k < first + 1 + n
        · rw [if_pos hin, if_pos (by omega)]
        · rw [if_neg hin, if_neg hk, if_neg (by omega)]

theorem mem_getOrOpenStreamLoop {s : GoMap Int item} {first : Int} {n : Nat} {k : Int} {v : item}
    (he : (k, v) ∈ (getOrOpenStreamLoop f s first n).entries) :
    (first ≤ k ∧ k < first + n ∧ v = f k) ∨ (k, v) ∈ s.entries := by
  have hget := GoMap.get?_of_mem he
  rw [getOrOpenStreamLoop_get?] at hget
  split at hget
  next hin => exact .inl ⟨hin.1, hin.2, (Option.some.inj hget).symm⟩
  next => exact .inr (GoMap.mem_of_get? hget)

/-- Opening `n` streams above every key adds `n` entries. -/
theorem getOrOpenStreamLoop_len {s : GoMap Int item} {first : Int}
    (hfresh : ∀ e ∈ s.entries, e.1 < first) (n : Nat) :
    (getOrOpenStreamLoop f s first n).len = s.len + n := by
  induction n generalizing s first with
  | zero => rfl
  | succ n ih =>
      have hnew : first ∉ s.entries.map Prod.fst := by
        rw [List.mem_map]
        rintro ⟨e, he, hfirst⟩
        have := hfresh e he
        omega
      have hfresh' : ∀ e ∈ (s.insert first (f first)).entries, e.1 < first + 1 := by
        intro e he
        rcases GoMap.mem_insert.1 he with rfl | ⟨he, -⟩
        · exact Int.lt_succ first
        · have := hfresh e he
          omega
      rw [getOrOpenStreamLoop, ih hfresh', GoMap.len_insert_of_not_mem hnew]
      omega

end Loop

/-- A call of `GetOrOpenStream` that returns either finds the stream below
`nextStreamToOpen` and changes nothing, or opens every stream up to `num`. -/
theorem getOrOpenStream_eq_ok {m m' : IncomingItemsMap item} {num : Int} {s : Option item}
    (h : m.getOrOpenStream num = .ok (m', s)) :
    num ≤ m.maxStream ∧
      (num < m.nextStreamToOpen ∧ m' = m ∨
        m.nextStreamToOpen ≤ num ∧ m' = { m with
          streams := getOrOpenStreamLoop m.newStream m.streams m.nextStreamToOpen
            (num - m.nextStreamToOpen + 1).toNat
          nextStreamToOpen := wrapInt64 (num + 1) }) := by
  unfold getOrOpenStream at h
  by_cases hmax : num > m.maxStream
  · simp [hmax] at h
  · refine ⟨by omega, ?_⟩
    by_cases hopen : num < m.nextStreamToOpen
    · simp only [hmax, hopen, if_true, if_false] at h
      exact .inl ⟨hopen, (Prod.mk.inj (Except.ok.inj h)).1.symm⟩
    · simp only [hmax, hopen, if_false] at h
      exact .inr ⟨by omega, (Prod.mk.inj (Except.ok.inj h)).1.symm⟩

section Generic

variable (streamTypeGeneric : StreamType)

/-- A call of `deleteStream` that returns either queues a stream not accepted yet,
or deletes an accepted one and raises the limit. -/
theorem deleteStream_eq_ok {m m' : IncomingItemsMap item} {num : Int}
    (h : m.deleteStream streamTypeGeneric num = .ok m') :
    (∃ v, m.streams.get? num = some v) ∧
      (m.nextStreamToAccept ≤ num ∧ m.streamsToDelete.get? num = none ∧
          m' = { m with streamsToDelete := m.streamsToDelete.insert num () } ∨
        num < m.nextStreamToAccept ∧
          m' = raiseMaxStream streamTypeGeneric { m with streams := m.streams.delete num }) := by
  unfold deleteStream at h
  cases hget : m.streams.get? num with
  | none => simp [hget] at h
  | some v =>
      refine ⟨⟨v, rfl⟩, ?_⟩
      by_cases hacc : num ≥ m.nextStreamToAccept
      · cases hdel : m.streamsToDelete.get? num with
        | none =>
            simp only [hget, hacc, hdel, Option.isNone_some, Option.isSome_none] at h
            exact .inl ⟨hacc, rfl, (Except.ok.inj h).symm⟩
        | some u => simp [hget, hacc, hdel] at h
      · simp only [hget, hacc, Option.isNone_some] at h
        exact .inr ⟨by omega, (Except.ok.inj h).symm⟩

/-- Deleting one of `len + 1` streams, where the limit `L` is in range: the limit
becomes `L + 1`, and a frame carrying it is queued. -/
theorem raiseMaxStream_of_count {m : IncomingItemsMap item} {L : Int}
    (hcount : (m.streams.len : Int) + 1 + (L - m.nextStreamToOpen + 1) = m.maxNumStreams)
    (hopen : m.nextStreamToOpen ≤ L + 1) (hN : m.maxNumStreams < 2 ^ 63) (h0 : 0 ≤ L)
    (hL : L + 1 < 2 ^ 63) :
    raiseMaxStream streamTypeGeneric m = { m with
      maxStream := L + 1
      queuedFrames := m.queuedFrames ++ [⟨streamTypeGeneric, (L + 1).toNat⟩] } := by
  have hlt : m.maxNumStreams > m.streams.len := by omega
  have hnew : toInt64 (m.maxNumStreams - m.streams.len) =
      ((m.maxNumStreams - m.streams.len : Nat) : Int) :=
    toInt64_of_lt (by omega)
  have hval : m.nextStreamToOpen + toInt64 (m.maxNumStreams - m.streams.len) - 1 = L + 1 := by
    rw [hnew]
    omega
  unfold raiseMaxStream
  rw [if_pos hlt]
  dsimp only
  rw [hval, wrapInt64_of_nonneg (by omega) hL, toUint64_of_nonneg (by omega) (by omega)]

/-- A call of `AcceptStream` that returns, while `nextStreamToAccept + 1` does not
wrap: it hands out stream `nextStreamToAccept`, and deletes it at once when it was
queued for deletion. -/
theorem acceptStream_eq_some {m m' : IncomingItemsMap item} {r : Except StreamError item}
    (h0 : 0 ≤ m.nextStreamToAccept) (hlt : m.nextStreamToAccept + 1 < 2 ^ 63)
    (h : m.acceptStream streamTypeGeneric = some (m', r)) :
    ∃ str, m.streams.get? m.nextStreamToAccept = some str ∧ r = .ok str ∧
      (m.streamsToDelete.get? m.nextStreamToAccept = none ∧
          m' = { m with nextStreamToAccept := m.nextStreamToAccept + 1 } ∨
        (∃ u, m.streamsToDelete.get? m.nextStreamToAccept = some u) ∧
          m' = raiseMaxStream streamTypeGeneric { m with
            streams := m.streams.delete m.nextStreamToAccept
            nextStreamToAccept := m.nextStreamToAccept + 1
            streamsToDelete := m.streamsToDelete.delete m.nextStreamToAccept }) := by
  unfold acceptStream at h
  dsimp only at h
  rw [wrapInt64_of_nonneg (by omega) hlt] at h
  cases hget : m.streams.get? m.nextStreamToAccept with
  | none => simp [hget] at h
  | some str =>
      refine ⟨str, rfl, ?_⟩
      cases hdel : m.streamsToDelete.get? m.nextStreamToAccept with
      | none =>
          simp only [hget, hdel, Option.isSome_none, Bool.false_eq_true, if_false,
            Option.bind_eq_bind, Option.bind_some] at h
          obtain ⟨rfl, rfl⟩ := Prod.mk.inj (Option.some.inj h)
          exact ⟨rfl, .inl ⟨rfl, rfl⟩⟩
      | some u =>
          have hdelete : deleteStream streamTypeGeneric { m with
              nextStreamToAccept := m.nextStreamToAccept + 1
              streamsToDelete := m.streamsToDelete.delete m.nextStreamToAccept }
              m.nextStreamToAccept = .ok (raiseMaxStream streamTypeGeneric { m with
                streams := m.streams.delete m.nextStreamToAccept
                nextStreamToAccept := m.nextStreamToAccept + 1
                streamsToDelete := m.streamsToDelete.delete m.nextStreamToAccept }) := by
            simp [deleteStream, hget, show ¬ m.nextStreamToAccept + 1 ≤ m.nextStreamToAccept by omega]
          simp only [hget, hdel, Option.isSome_some, if_true, hdelete, Option.bind_eq_bind,
            Option.bind_some] at h
          obtain ⟨rfl, rfl⟩ := Prod.mk.inj (Option.some.inj h)
          exact ⟨rfl, .inr ⟨⟨u, rfl⟩, rfl⟩⟩

end Generic

/-! ## The count over whole runs -/

section Inv

variable (streamTypeGeneric : StreamType) (newStream : Int → item) (N : Nat)

/-- What every map a run reaches satisfies, as long as nothing has wrapped. -/
structure Inv (m : IncomingItemsMap item) : Prop where
  newStream_eq : m.newStream = newStream
  maxNumStreams_eq : m.maxNumStreams = N
  /-- The streams open and the streams the peer may still open make up `N`. -/
  count : (m.streams.len : Int) + (m.maxStream - m.nextStreamToOpen + 1) = N
  open_le : m.nextStreamToOpen ≤ m.maxStream + 1
  accept_pos : 1 ≤ m.nextStreamToAccept
  accept_le : m.nextStreamToAccept ≤ m.nextStreamToOpen
  /-- Each stream of the map was opened, and is the one `newStream` made for it. -/
  opened : ∀ e ∈ m.streams.entries, e.1 < m.nextStreamToOpen ∧ e.2 = newStream e.1
  /-- No stream opened and not accepted yet has left the map. -/
  pending : ∀ k, m.nextStreamToAccept ≤ k → k < m.nextStreamToOpen →
    m.streams.get? k = some (newStream k)
  /-- Only streams opened and not accepted yet wait for deletion. -/
  waiting : ∀ e ∈ m.streamsToDelete.entries,
    m.nextStreamToAccept ≤ e.1 ∧ e.1 < m.nextStreamToOpen
  /-- The limit rose by one with each frame queued, -/
  limit : m.maxStream = N + m.queuedFrames.length
  /-- and each frame carries the limit it set. -/
  frames : m.queuedFrames =
    (List.range m.queuedFrames.length).map fun i => ⟨streamTypeGeneric, N + i + 1⟩

variable {streamTypeGeneric newStream N}

theorem inv_newIncomingItemsMap (hN : N < 2 ^ 63) :
    Inv streamTypeGeneric newStream N (newIncomingItemsMap newStream N) where
  newStream_eq := rfl
  maxNumStreams_eq := rfl
  count := by simp [newIncomingItemsMap, toInt64_of_lt hN, GoMap.len, GoMap.empty]
  open_le := by
    simp only [newIncomingItemsMap, toInt64_of_lt hN]
    omega
  accept_pos := Int.le_refl 1
  accept_le := Int.le_refl 1
  opened := by simp [newIncomingItemsMap, GoMap.empty]
  pending _ h1 h2 := absurd (Int.lt_of_le_of_lt h1 h2) (Int.lt_irrefl 1)
  waiting := by simp [newIncomingItemsMap, GoMap.empty]
  limit := by simp [newIncomingItemsMap, toInt64_of_lt hN]
  frames := rfl

section Step

variable {m m' : IncomingItemsMap item}

theorem Inv.le_maxStream (hi : Inv streamTypeGeneric newStream N m) : (N : Int) ≤ m.maxStream := by
  rw [hi.limit]
  omega

/-- `GetOrOpenStream` keeps the invariant, and leaves the frames and
`nextStreamToAccept` alone. -/
theorem Inv.getOrOpenStream (hi : Inv streamTypeGeneric newStream N m)
    (hroom : m.maxStream + 1 < 2 ^ 63) {num : Int} {s : Option item}
    (h : m.getOrOpenStream num = .ok (m', s)) :
    Inv streamTypeGeneric newStream N m' ∧ m'.queuedFrames = m.queuedFrames ∧
      m'.nextStreamToAccept = m.nextStreamToAccept := by
  obtain ⟨hle, ⟨-, rfl⟩ | ⟨hopen, rfl⟩⟩ := getOrOpenStream_eq_ok h
  · exact ⟨hi, rfl, rfl⟩
  · -- streams nextStreamToOpen .. num are opened; num + 1 does not wrap
    have hpos := hi.accept_pos
    have hacc := hi.accept_le
    have hnext : wrapInt64 (num + 1) = num + 1 := wrapInt64_of_nonneg (by omega) (by omega)
    have hlen := getOrOpenStreamLoop_len m.newStream
      (fun e he => (hi.opened e he).1) (num - m.nextStreamToOpen + 1).toNat
    refine ⟨⟨hi.newStream_eq, hi.maxNumStreams_eq, ?count, ?openLe, hpos, ?acceptLe, ?opened,
      ?pending, ?waiting, hi.limit, hi.frames⟩, rfl, rfl⟩
    case count =>
      show ((getOrOpenStreamLoop _ _ _ _).len : Int) + (m.maxStream - wrapInt64 (num + 1) + 1) = N
      rw [hlen, hnext, ← hi.count]
      omega
    case openLe =>
      show wrapInt64 (num + 1) ≤ m.maxStream + 1
      omega
    case acceptLe =>
      show m.nextStreamToAccept ≤ wrapInt64 (num + 1)
      omega
    case opened =>
      rintro ⟨k, v⟩ he
      show k < wrapInt64 (num + 1) ∧ v = newStream k
      rw [hnext]
      rcases mem_getOrOpenStreamLoop m.newStream he with ⟨-, hk, rfl⟩ | hold
      · exact ⟨by omega, congrFun hi.newStream_eq k⟩
      · have := hi.opened _ hold
        exact ⟨by simp only at this; omega, this.2⟩
    case pending =>
      intro k (hk1 : m.nextStreamToAccept ≤ k) (hk2 : k < wrapInt64 (num + 1))
      show (getOrOpenStreamLoop _ _ _ _).get? k = _
      rw [getOrOpenStreamLoop_get?]
      by_cases hnew : k < m.nextStreamToOpen
      · rw [if_neg (by omega)]
        exact hi.pending k hk1 hnew
      · rw [if_pos (by omega), hi.newStream_eq]
    case waiting =>
      intro e he
      have := hi.waiting e he
      show m.nextStreamToAccept ≤ e.1 ∧ e.1 < wrapInt64 (num + 1)
      omega

/-- Moving past stream `nextStreamToAccept`, which is open, to a set of streams to
delete that no longer holds it. -/
theorem Inv.advance (hi : Inv streamTypeGeneric newStream N m) {str : item}
    (hget : m.streams.get? m.nextStreamToAccept = some str) {td : GoMap Int Unit}
    (htd : ∀ e ∈ td.entries, e ∈ m.streamsToDelete.entries ∧ e.1 ≠ m.nextStreamToAccept) :
    Inv streamTypeGeneric newStream N
      { m with nextStreamToAccept := m.nextStreamToAccept + 1, streamsToDelete := td } := by
  have hlt : m.nextStreamToAccept < m.nextStreamToOpen := (hi.opened _ (GoMap.mem_of_get? hget)).1
  have hpos := hi.accept_pos
  refine ⟨hi.newStream_eq, hi.maxNumStreams_eq, hi.count, hi.open_le, ?acceptPos, ?acceptLe,
    hi.opened, ?pending, ?waiting, hi.limit, hi.frames⟩
  case acceptPos =>
    show 1 ≤ m.nextStreamToAccept + 1
    omega
  case acceptLe =>
    show m.nextStreamToAccept + 1 ≤ m.nextStreamToOpen
    omega
  case pending =>
    intro k (hk1 : m.nextStreamToAccept + 1 ≤ k) hk2
    exact hi.pending k (by omega) hk2
  case waiting =>
    intro e he
    obtain ⟨he, hne⟩ := htd e he
    have := hi.waiting e he
    show m.nextStreamToAccept + 1 ≤ e.1 ∧ e.1 < m.nextStreamToOpen
    omega

/-- Deleting an accepted stream, with the limit one higher and a frame queued. -/
theorem Inv.removeStream (hi : Inv streamTypeGeneric newStream N m) {num : Int} {v : item}
    (hmem : (num, v) ∈ m.streams.entries) (hnum : num < m.nextStreamToAccept) :
    Inv streamTypeGeneric newStream N { m with
      streams := m.streams.delete num
      maxStream := m.maxStream + 1
      queuedFrames := m.queuedFrames ++ [⟨streamTypeGeneric, N + m.queuedFrames.length + 1⟩] } := by
  have hlen := GoMap.len_delete_of_mem hmem
  refine ⟨hi.newStream_eq, hi.maxNumStreams_eq, ?count, ?openLe, hi.accept_pos, hi.accept_le,
    ?opened, ?pending, hi.waiting, ?limit, ?frames⟩
  case count =>
    show ((m.streams.delete num).len : Int) + (m.maxStream + 1 - m.nextStreamToOpen + 1) = N
    have := hi.count
    omega
  case openLe =>
    show m.nextStreamToOpen ≤ m.maxStream + 1 + 1
    have := hi.open_le
    omega
  case opened =>
    intro e he
    exact hi.opened e (GoMap.mem_delete.1 he).1
  case pending =>
    intro k (hk1 : m.nextStreamToAccept ≤ k) hk2
    show (m.streams.delete num).get? k = _
    rw [GoMap.get?_delete, if_neg (by omega)]
    exact hi.pending k hk1 hk2
  case limit =>
    show m.maxStream + 1 = N + (m.queuedFrames ++ _).length
    rw [List.length_append, hi.limit]
    simp only [List.length_singleton]
    omega
  case frames =>
    show m.queuedFrames ++ _ = (List.range (m.queuedFrames ++ _).length).map _
    rw [List.length_append, List.length_singleton, List.range_succ, List.map_append, ← hi.frames]
    rfl

/-- In a map of the invariant, deleting a stream raises the limit by one. -/
theorem Inv.raiseMaxStream_delete (hi : Inv streamTypeGeneric newStream N m) {num : Int}
    {v : item} (hmem : (num, v) ∈ m.streams.entries) (hroom : m.maxStream + 1 < 2 ^ 63) :
    raiseMaxStream streamTypeGeneric { m with streams := m.streams.delete num } = { m with
      streams := m.streams.delete num
      maxStream := m.maxStream + 1
      queuedFrames := m.queuedFrames ++ [⟨streamTypeGeneric, N + m.queuedFrames.length + 1⟩] } := by
  have hlen := GoMap.len_delete_of_mem hmem
  have hN := hi.le_maxStream
  have hcount : ((m.streams.delete num).len : Int) + 1 + (m.maxStream - m.nextStreamToOpen + 1) =
      m.maxNumStreams := by
    rw [hi.maxNumStreams_eq, ← hi.count]
    omega
  have htoNat : (m.maxStream + 1).toNat = N + m.queuedFrames.length + 1 := by
    rw [hi.limit]
    omega
  rw [@raiseMaxStream_of_count item streamTypeGeneric { m with streams := m.streams.delete num }
    m.maxStream hcount hi.open_le (by rw [hi.maxNumStreams_eq]; omega) (by omega) hroom, htoNat]

/-- `deleteStream` keeps the invariant, queues at most one frame, and leaves
`nextStreamToAccept` alone. -/
theorem Inv.deleteStream (hi : Inv streamTypeGeneric newStream N m)
    (hroom : m.maxStream + 1 < 2 ^ 63) {num : Int}
    (h : m.deleteStream streamTypeGeneric num = .ok m') :
    Inv streamTypeGeneric newStream N m' ∧
      (∃ fr, m'.queuedFrames = m.queuedFrames ++ fr ∧ fr.length ≤ 1) ∧
      m'.nextStreamToAccept = m.nextStreamToAccept := by
  obtain ⟨⟨v, hget⟩, ⟨hacc, -, rfl⟩ | ⟨hnum, rfl⟩⟩ := deleteStream_eq_ok streamTypeGeneric h
  · -- not accepted yet: only queued for deletion
    have hlt : num < m.nextStreamToOpen := (hi.opened _ (GoMap.mem_of_get? hget)).1
    refine ⟨{ hi with waiting := ?_ }, ⟨[], by simp, by simp⟩, rfl⟩
    intro e he
    rcases GoMap.mem_insert.1 he with rfl | ⟨he, -⟩
    · exact ⟨hacc, hlt⟩
    · exact hi.waiting e he
  · have hmem := GoMap.mem_of_get? hget
    rw [hi.raiseMaxStream_delete hmem hroom]
    exact ⟨hi.removeStream hmem hnum, ⟨_, rfl, by simp⟩, rfl⟩

/-- `AcceptStream` keeps the invariant, returns stream `nextStreamToAccept` and
moves past it; a stream queued for deletion leaves the map then. -/
theorem Inv.acceptStream (hi : Inv streamTypeGeneric newStream N m)
    (hroom : m.maxStream + 1 < 2 ^ 63) {r : Except StreamError item}
    (h : m.acceptStream streamTypeGeneric = some (m', r)) :
    Inv streamTypeGeneric newStream N m' ∧
      (∃ fr, m'.queuedFrames = m.queuedFrames ++ fr ∧ fr.length ≤ 1) ∧
      m'.nextStreamToAccept = m.nextStreamToAccept + 1 ∧
      r = .ok (newStream m.nextStreamToAccept) ∧
      ((∃ u, m.streamsToDelete.get? m.nextStreamToAccept = some u) →
        m'.streams.get? m.nextStreamToAccept = none ∧
          m'.streamsToDelete.get? m.nextStreamToAccept = none) := by
  have hpos := hi.accept_pos
  -- AcceptStream returned, so stream nextStreamToAccept is open
  have hlt : m.nextStreamToAccept < m.nextStreamToOpen := by
    cases hget : m.streams.get? m.nextStreamToAccept with
    | none =>
        unfold IncomingItemsMap.acceptStream at h
        dsimp only at h
        simp [hget] at h
    | some str => exact (hi.opened _ (GoMap.mem_of_get? hget)).1
  have hopen := hi.open_le
  obtain ⟨str, hget, rfl, hcases⟩ :=
    acceptStream_eq_some streamTypeGeneric (by omega) (by omega) h
  have hstr : str = newStream m.nextStreamToAccept := (hi.opened _ (GoMap.mem_of_get? hget)).2
  subst hstr
  rcases hcases with ⟨hnone, rfl⟩ | ⟨⟨u, hu⟩, rfl⟩
  · -- nothing waits for deletion
    have htd : ∀ e ∈ m.streamsToDelete.entries,
        e ∈ m.streamsToDelete.entries ∧ e.1 ≠ m.nextStreamToAccept :=
      fun e he => ⟨he, GoMap.get?_eq_none_iff.1 hnone e he⟩
    refine ⟨hi.advance hget htd, ⟨[], by simp, by simp⟩, rfl, rfl, ?_⟩
    rintro ⟨u, hu⟩
    rw [hnone] at hu
    exact absurd hu (by simp)
  · -- the stream was completed before: it is deleted now
    have htd : ∀ e ∈ (m.streamsToDelete.delete m.nextStreamToAccept).entries,
        e ∈ m.streamsToDelete.entries ∧ e.1 ≠ m.nextStreamToAccept :=
      fun e he => GoMap.mem_delete.1 he
    have hi1 := hi.advance hget htd
    have hmem : (m.nextStreamToAccept, newStream m.nextStreamToAccept) ∈ m.streams.entries :=
      GoMap.mem_of_get? hget
    have heq : raiseMaxStream streamTypeGeneric { m with
        streams := m.streams.delete m.nextStreamToAccept
        nextStreamToAccept := m.nextStreamToAccept + 1
        streamsToDelete := m.streamsToDelete.delete m.nextStreamToAccept } = { m with
        streams := m.streams.delete m.nextStreamToAccept
        nextStreamToAccept := m.nextStreamToAccept + 1
        streamsToDelete := m.streamsToDelete.delete m.nextStreamToAccept
        maxStream := m.maxStream + 1
        queuedFrames := m.queuedFrames ++ [⟨streamTypeGeneric, N + m.queuedFrames.length + 1⟩] } :=
      hi1.raiseMaxStream_delete hmem hroom
    rw [heq]
    refine ⟨hi1.removeStream hmem (Int.lt_succ _), ⟨_, rfl, by simp⟩, rfl, rfl, fun _ => ?_⟩
    simp [GoMap.get?_delete]

/-- **One call** keeps the invariant, queues at most one frame, and either leaves
`nextStreamToAccept` and returns no stream, or returns stream `nextStreamToAccept`
and moves past it. -/
theorem Inv.step (hi : Inv streamTypeGeneric newStream N m) (hroom : m.maxStream + 1 < 2 ^ 63)
    {out : List item} (hs : Step streamTypeGeneric m m' out) :
    Inv streamTypeGeneric newStream N m' ∧
      (∃ fr, m'.queuedFrames = m.queuedFrames ++ fr ∧ fr.length ≤ 1) ∧
      (m'.nextStreamToAccept = m.nextStreamToAccept ∧ out = [] ∨
        m'.nextStreamToAccept = m.nextStreamToAccept + 1 ∧
          out = [newStream m.nextStreamToAccept]) := by
  cases hs with
  | getOrOpenStream h =>
      obtain ⟨hi', hfr, hacc⟩ := hi.getOrOpenStream hroom h
      exact ⟨hi', ⟨[], by simp [hfr], by simp⟩, .inl ⟨hacc, rfl⟩⟩
  | acceptStream h =>
      obtain ⟨hi', hfr, hacc, rfl, -⟩ := hi.acceptStream hroom h
      exact ⟨hi', hfr, .inr ⟨hacc, rfl⟩⟩
  | deleteStream h =>
      obtain ⟨hi', hfr, hacc⟩ := hi.deleteStream hroom h
      exact ⟨hi', hfr, .inl ⟨hacc, rfl⟩⟩

end Step

/-- **Every run keeps the invariant**, while `N` and the number of calls stay below
`2^63`; it has queued at most one frame a call, and `AcceptStream` has returned the
streams below `nextStreamToAccept`, in order. -/
theorem Reachable.inv {m : IncomingItemsMap item} {k : Nat} {accepted : List item}
    (hr : Reachable streamTypeGeneric newStream N m k accepted) (hk : N + k < 2 ^ 63) :
    Inv streamTypeGeneric newStream N m ∧ m.queuedFrames.length ≤ k ∧
      accepted = (List.range (m.nextStreamToAccept - 1).toNat).map fun i : Nat => newStream (i + 1) := by
  -- on the run: the calls before the last one leave room for it below 2^63
  induction hr with
  | init => exact ⟨inv_newIncomingItemsMap (by omega), Nat.zero_le 0, rfl⟩
  | @step m m' k accepted out _ hs ih =>
      obtain ⟨hi, hlen, hacc⟩ := ih (by omega)
      have hroom : m.maxStream + 1 < 2 ^ 63 := by
        rw [hi.limit]
        omega
      obtain ⟨hi', ⟨fr, hfr, hfr1⟩, hout⟩ := hi.step hroom hs
      have hlen' : m'.queuedFrames.length ≤ k + 1 := by
        rw [hfr, List.length_append]
        omega
      refine ⟨hi', hlen', ?_⟩
      rcases hout with ⟨hnext, rfl⟩ | ⟨hnext, rfl⟩
      · rw [hnext, hacc, List.append_nil]
      · -- one more stream accepted, the one numbered nextStreamToAccept
        have hpos := hi.accept_pos
        have hsucc : (m.nextStreamToAccept + 1 - 1).toNat = (m.nextStreamToAccept - 1).toNat + 1 := by
          omega
        have hnum : (((m.nextStreamToAccept - 1).toNat : Nat) : Int) + 1 = m.nextStreamToAccept := by
          omega
        rw [hnext, hacc, hsucc, List.range_succ, List.map_append, List.map_singleton, hnum]

end Inv

end IncomingItemsMap

end QuicFec
