import Reprox.Foundations.Reader

/-!
# The stream adapters of the passthrough route

`ReadCapturingStream` records what the TLS acceptor reads off the socket;
`PrefixedStream` replays that record before it reads on. A poll of the inner
socket follows an outcome chosen by the schedule, so a list of buffers and
outcomes is one complete history of an adapter.
-/

namespace Reprox.Routing

open Foundations

/-- `Poll<io::Result<()>>`; the error carries nothing the adapters look at. -/
inductive Poll where
  | pending
  | ready
  | error
  deriving DecidableEq, Repr

/-- tokio's `ReadBuf`: a filled part inside a buffer of fixed capacity. -/
structure ReadBuf where
  filled : List UInt8
  capacity : ℕ
  fits : filled.length ≤ capacity
  deriving DecidableEq

namespace ReadBuf

def remaining (buf : ReadBuf) : ℕ := buf.capacity - buf.filled.length

/-- `put_slice` panics on a slice longer than the room left, so it takes the proof. -/
def putSlice (buf : ReadBuf) (bs : List UInt8) (h : bs.length ≤ buf.remaining) : ReadBuf where
  filled := buf.filled ++ bs
  capacity := buf.capacity
  fits := by
    have := buf.fits
    unfold remaining at h
    rw [List.length_append]
    omega

end ReadBuf

/-- What the schedule lets one poll of the inner socket do. -/
inductive Outcome where
  | pending
  | error
  | chunk (n : ℕ)
  | eof
  deriving DecidableEq, Repr

structure Socket where
  unread : List UInt8
  deriving DecidableEq, Repr

/-- A chunk fits the buffer and is empty only if the buffer is full; the end of
the stream is reported once every byte has been read. Other outcomes cannot
happen and have no result. -/
def Socket.pollRead (s : Socket) (o : Outcome) (buf : ReadBuf) : Option (Poll × Socket × ReadBuf) :=
  match o with
  | .pending => some (.pending, s, buf)
  | .error => some (.error, s, buf)
  | .chunk n =>
    if h : n ≤ buf.remaining ∧ n ≤ s.unread.length ∧ (0 < n ∨ buf.remaining = 0) then
      some (.ready, ⟨s.unread.drop n⟩,
        buf.putSlice (s.unread.take n) ((List.length_take_le _ _).trans h.1))
    else none
  | .eof => if s.unread = [] then some (.ready, s, buf) else none

/-- What one poll did, seen from the caller: its result, the room the buffer
had, and the bytes that were added to it. -/
structure Read where
  status : Poll
  room : ℕ
  bytes : List UInt8
  deriving DecidableEq, Repr

def Read.of (poll : Poll) (before after : ReadBuf) : Read :=
  ⟨poll, before.remaining, after.filled.drop before.filled.length⟩

/-- A successful read of nothing into a buffer with room: the caller takes it
for the end of the stream. -/
def Read.ReportsEof (r : Read) : Prop := r.status = .ready ∧ 0 < r.room ∧ r.bytes = []

instance (r : Read) : Decidable r.ReportsEof :=
  inferInstanceAs (Decidable (_ ∧ _ ∧ _))

theorem Socket.pollRead_cases {s s' : Socket} {o : Outcome} {buf buf' : ReadBuf} {p : Poll}
    (h : s.pollRead o buf = some (p, s', buf')) :
    ∃ bs, buf'.filled = buf.filled ++ bs ∧ bs ++ s'.unread = s.unread ∧ (p ≠ .ready → bs = []) ∧
      (p = .ready → 0 < buf.remaining → bs = [] → o = .eof ∧ s'.unread = []) := by
  cases o with
  | pending =>
    cases h
    exact ⟨[], by simp⟩
  | error =>
    cases h
    exact ⟨[], by simp⟩
  | chunk n =>
    simp only [Socket.pollRead] at h
    split_ifs at h with hn
    cases h
    refine ⟨s.unread.take n, rfl, List.take_append_drop n _, by simp, ?_⟩
    intro _ hroom hnil
    have hlen := congrArg List.length hnil
    rw [List.length_take, List.length_nil] at hlen
    omega
  | eof =>
    simp only [Socket.pollRead] at h
    split_ifs at h with hs
    cases h
    exact ⟨[], by simp [hs]⟩

structure ReadCapturingStream where
  stream : Socket
  bytes : List UInt8
  deriving DecidableEq, Repr

namespace ReadCapturingStream

def new (stream : Socket) : ReadCapturingStream := ⟨stream, []⟩

/-- `BytesMut::split` empties the record and returns it. -/
def takeCaptured (this : ReadCapturingStream) : List UInt8 × ReadCapturingStream :=
  (this.bytes, { this with bytes := [] })

def intoInner (this : ReadCapturingStream) : Socket := this.stream

def pollRead (this : ReadCapturingStream) (o : Outcome) (buf : ReadBuf) :
    Option (Poll × ReadCapturingStream × ReadBuf) :=
  let before := buf.filled.length
  (this.stream.pollRead o buf).map fun (poll, stream, buf) =>
    let bytes := if poll = .ready then this.bytes ++ buf.filled.drop before else this.bytes
    (poll, ⟨stream, bytes⟩, buf)

theorem pollRead_cases {s s' : ReadCapturingStream} {o : Outcome} {buf buf' : ReadBuf} {p : Poll}
    (h : s.pollRead o buf = some (p, s', buf')) :
    ∃ bs, buf'.filled = buf.filled ++ bs ∧ bs ++ s'.stream.unread = s.stream.unread ∧
      s'.bytes = s.bytes ++ bs := by
  simp only [pollRead, Option.map_eq_some_iff, Prod.exists, Prod.mk.injEq] at h
  obtain ⟨poll, stream, buf'', hpoll, rfl, rfl, rfl⟩ := h
  obtain ⟨bs, hfill, hrest, hnone, -⟩ := Socket.pollRead_cases hpoll
  refine ⟨bs, hfill, hrest, ?_⟩
  by_cases hready : poll = .ready
  · simp [hready, hfill]
  · simp [hready, hnone hready]

def reader : Reader ReadCapturingStream (ReadBuf × Outcome) Read UInt8 where
  poll s i := (s.pollRead i.2 i.1).map fun out => (Read.of out.1 i.1 out.2.2, out.2.1)
  handed := Read.bytes
  rest s := s.stream.unread
  lossless := by
    rintro s ⟨buf, o⟩ r t h
    simp only [Option.map_eq_some_iff, Prod.exists, Prod.mk.injEq] at h
    obtain ⟨p, s', buf', hpoll, rfl, rfl⟩ := h
    obtain ⟨bs, hfill, hrest, -⟩ := pollRead_cases hpoll
    simpa [Read.of, hfill] using hrest

theorem reader_poll_bytes {s t : ReadCapturingStream} {i : ReadBuf × Outcome} {r : Read}
    (h : reader.poll s i = some (r, t)) : t.bytes = s.bytes ++ r.bytes := by
  simp only [reader, Option.map_eq_some_iff, Prod.exists, Prod.mk.injEq] at h
  obtain ⟨p, s', buf', hpoll, rfl, rfl⟩ := h
  obtain ⟨bs, hfill, -, hbytes⟩ := pollRead_cases hpoll
  simpa [Read.of, hfill] using hbytes

theorem bytes_append_unread {client : List UInt8} {peeks : List (ReadBuf × Outcome)}
    {rs : List Read} {io : ReadCapturingStream}
    (h : reader.drain (new ⟨client⟩) peeks = some (rs, io)) :
    io.bytes ++ io.stream.unread = client := by
  have hrecord : io.bytes = [] ++ rs.flatMap reader.handed :=
    Reader.drain_record (fun _ _ _ _ => reader_poll_bytes) h
  rw [hrecord]
  exact Reader.drain_append_rest h

end ReadCapturingStream

/-- Replays `prefixBytes` before it reads from the socket; `position` is the cursor. -/
structure PrefixedStream where
  prefixBytes : List UInt8
  position : ℕ
  inner : Socket
  deriving DecidableEq, Repr

namespace PrefixedStream

def new (prefixBytes : List UInt8) (inner : Socket) : PrefixedStream :=
  ⟨prefixBytes, 0, inner⟩

/-- While the prefix lasts the inner socket is not polled, so its outcome is not used. -/
def pollRead (this : PrefixedStream) (o : Outcome) (buf : ReadBuf) :
    Option (Poll × PrefixedStream × ReadBuf) :=
  let pos := this.position
  let data := this.prefixBytes
  if pos < data.length then
    let remaining := data.drop pos
    let n := min remaining.length buf.remaining
    some (.ready, { this with position := pos + n },
      buf.putSlice (remaining.take n) ((List.length_take_le n _).trans (min_le_right _ _)))
  else
    (this.inner.pollRead o buf).map fun (poll, inner, buf) => (poll, { this with inner }, buf)

def rest (s : PrefixedStream) : List UInt8 := s.prefixBytes.drop s.position ++ s.inner.unread

theorem pollRead_cases {s s' : PrefixedStream} {o : Outcome} {buf buf' : ReadBuf} {p : Poll}
    (h : s.pollRead o buf = some (p, s', buf')) :
    ∃ bs, buf'.filled = buf.filled ++ bs ∧ bs ++ s'.rest = s.rest ∧
      (p = .ready → 0 < buf.remaining → bs = [] →
        s.prefixBytes.length ≤ s.position ∧ o = .eof ∧ s'.rest = []) := by
  simp only [pollRead] at h
  split_ifs at h with hpos
  · cases h
    refine ⟨_, rfl, ?_, ?_⟩
    · simp only [rest, ← List.drop_drop]
      rw [← List.append_assoc, List.take_append_drop]
    · intro _ hroom hnil
      have hlen := congrArg List.length hnil
      rw [List.length_take, List.length_drop, List.length_nil] at hlen
      omega
  · simp only [Option.map_eq_some_iff, Prod.exists, Prod.mk.injEq] at h
    obtain ⟨poll, inner, buf'', hpoll, rfl, rfl, rfl⟩ := h
    obtain ⟨bs, hfill, hrest, -, heof⟩ := Socket.pollRead_cases hpoll
    have hspent : s.prefixBytes.drop s.position = [] := List.drop_eq_nil_of_le (not_lt.mp hpos)
    refine ⟨bs, hfill, by simpa [rest, hspent] using hrest, ?_⟩
    intro hready hroom hnil
    obtain ⟨ho, hunread⟩ := heof hready hroom hnil
    exact ⟨not_lt.mp hpos, ho, by simp [rest, hspent, hunread]⟩

def reader : Reader PrefixedStream (ReadBuf × Outcome) Read UInt8 where
  poll s i := (s.pollRead i.2 i.1).map fun out => (Read.of out.1 i.1 out.2.2, out.2.1)
  handed := Read.bytes
  rest := rest
  lossless := by
    rintro s ⟨buf, o⟩ r t h
    simp only [Option.map_eq_some_iff, Prod.exists, Prod.mk.injEq] at h
    obtain ⟨p, s', buf', hpoll, rfl, rfl⟩ := h
    obtain ⟨bs, hfill, hrest, -⟩ := pollRead_cases hpoll
    simpa [Read.of, hfill] using hrest

/-- The end of the stream is reported only by the socket, and only once the
prefix is spent. -/
theorem reader_poll_eof {s t : PrefixedStream} {buf : ReadBuf} {o : Outcome} {r : Read}
    (h : reader.poll s (buf, o) = some (r, t)) (heof : r.ReportsEof) :
    s.prefixBytes.length ≤ s.position ∧ o = .eof ∧ t.rest = [] := by
  simp only [reader, Option.map_eq_some_iff, Prod.exists, Prod.mk.injEq] at h
  obtain ⟨p, s', buf', hpoll, rfl, rfl⟩ := h
  obtain ⟨bs, hfill, -, hlast⟩ := pollRead_cases hpoll
  obtain ⟨hready, hroom, hbytes⟩ := heof
  exact hlast hready hroom (by simpa [Read.of, hfill] using hbytes)

end PrefixedStream

/-- The hand-over in `Router::route`: the record and the socket under it. -/
def handOver (io : ReadCapturingStream) : PrefixedStream :=
  let (capturedBytes, io) := io.takeCaptured
  PrefixedStream.new capturedBytes io.intoInner

/-- The two adapters compose to the identity on the client's stream: whatever
the acceptor read and however the relay reads on, the relay is handed the
stream from its first byte, in order, and all of it once the end is reported. -/
theorem passthrough_lossless (client : List UInt8) (peeks reads : List (ReadBuf × Outcome))
    {peeked relayed : List Read} {io : ReadCapturingStream} {stream : PrefixedStream}
    (hpeeks : ReadCapturingStream.reader.drain (.new ⟨client⟩) peeks = some (peeked, io))
    (hreads : PrefixedStream.reader.drain (handOver io) reads = some (relayed, stream)) :
    relayed.flatMap Read.bytes <+: client ∧
      ((∃ r ∈ relayed, r.ReportsEof) → relayed.flatMap Read.bytes = client) ∧
      (∀ buf o r next, PrefixedStream.reader.poll stream (buf, o) = some (r, next) →
        r.ReportsEof → stream.prefixBytes.length ≤ stream.position ∧ o = .eof) := by
  have hwhole : PrefixedStream.reader.rest (handOver io) = client :=
    ReadCapturingStream.bytes_append_unread hpeeks
  refine ⟨?_, ?_, ?_⟩
  · have h := Reader.drain_prefix hreads
    rwa [hwhole] at h
  · rintro ⟨r, hr, heof⟩
    have h := Reader.drain_eq_rest_of_last hreads hr
      fun _ _ _ hpoll => (PrefixedStream.reader_poll_eof hpoll heof).2.2
    rwa [hwhole] at h
  · intro buf o r next hpoll heof
    obtain ⟨hspent, ho, -⟩ := PrefixedStream.reader_poll_eof hpoll heof
    exact ⟨hspent, ho⟩

theorem passthrough_lossless_three_bytes :
    ∃ reads relayed stream,
      PrefixedStream.reader.drain (handOver ⟨⟨[3]⟩, [1, 2]⟩) reads = some (relayed, stream) ∧
        relayed.flatMap Read.bytes = [1, 2, 3] := by
  let reads : List (ReadBuf × Outcome) :=
    [(⟨[], 1, by decide⟩, .pending), (⟨[9], 4, by decide⟩, .eof), (⟨[], 4, by decide⟩, .chunk 1),
      (⟨[], 4, by decide⟩, .eof)]
  let relayed : List Read :=
    [⟨.ready, 1, [1]⟩, ⟨.ready, 3, [2]⟩, ⟨.ready, 4, [3]⟩, ⟨.ready, 4, []⟩]
  have hpeeks : ReadCapturingStream.reader.drain (.new ⟨[1, 2, 3]⟩)
      [(⟨[9], 3, by decide⟩, .chunk 2)] = some ([⟨.ready, 2, [1, 2]⟩], ⟨⟨[3]⟩, [1, 2]⟩) := rfl
  have hreads : PrefixedStream.reader.drain (handOver ⟨⟨[3]⟩, [1, 2]⟩) reads =
      some (relayed, ⟨[1, 2], 2, ⟨[]⟩⟩) := rfl
  have heof : ∃ r ∈ relayed, r.ReportsEof := ⟨⟨.ready, 4, []⟩, by decide, by decide⟩
  exact ⟨reads, relayed, _, hreads, (passthrough_lossless [1, 2, 3] _ reads hpeeks hreads).2.1 heof⟩

end Reprox.Routing
