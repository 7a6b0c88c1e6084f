import HandMotionCapture.StreamMgr

/-!
# Framing: what the loop reads

On a host of byte order `e`, for a stream of records written in byte order `e`, each with a
timestamp that fits 64 bits and whose bytes are not `EOSTREAM` and a payload that fits
`ENCODED_FRAME_BUF_SIZE`, closed by the sentinel, and a decoder that accepts every packet and
answers `recv_frame` with a frame or `EAGAIN` (`Decoder.Streams`): after one pass per record and
one for the sentinel the loop has enqueued exactly the records' timestamps, in order, has given
`decode_packet` exactly their payloads, has called `flush_decoder` once, and it reads nothing
more, however many passes follow (`loop_reads_host_order_records`). Conversely, on every input
and with every decoder, the bytes the loop has taken, as long as it has not broken inside a
record, are such records followed by the sentinel (`loop_accepts_host_order_records`): the
format the loop decodes is exactly the host-order one.

`stream_mgr` loads each field in the host's byte order and converts none, so the spec's
big-endian wire format is decoded only on a big-endian host: on a little-endian host the
timestamp `1` is enqueued as `2 ^ 56` (`big_endian_timestamp_misread`).
-/

namespace HandMotionCapture.StreamMgr

variable {σ : Type} {dec : Decoder σ} {host : Endian} {encodedFrameBufSize : ℕ}

/-- A decoder that accepts every packet and answers `recv_frame` with a frame or `EAGAIN`. -/
structure Decoder.Streams (dec : Decoder σ) : Prop where
  decode_ok : ∀ d p, (dec.decodePacket d p).1 = 0
  recv_continues : ∀ d, (dec.recvFrame d).1 = .eagain ∨ ∃ o, (dec.recvFrame d).1 = .frame o

/-- A decoder with no frame to give: it accepts every packet, answers `EAGAIN`, and its flush
fails. -/
def stuckDecoder : Decoder Unit := ⟨fun _ _ => (0, ()), fun _ => (.eagain, ()), fun _ => (-1, ())⟩

theorem stuckDecoder_streams : stuckDecoder.Streams := ⟨fun _ _ => rfl, fun _ => .inl rfl⟩

theorem Decoder.Streams.receive_eq (hdec : dec.Streams) (w : Worker σ) :
    receive dec w = .next (receive dec w).state := by
  unfold receive
  rcases hdec.recv_continues w.viddec with h | ⟨o, h⟩ <;> split <;> simp_all [Pass.state]

/-- A pass over a whole record enqueues its timestamp and decodes its payload. -/
theorem body_packet (hdec : dec.Streams) {w : Worker σ} {t : ℕ} {p rest : List UInt8}
    (hin : w.incomingStream = true)
    (hr : readPacket host encodedFrameBufSize w.input = .packet t p rest) :
    ∃ w', body dec host encodedFrameBufSize w = .next w' ∧
      w'.reads = (rest, true, w.enqueued ++ [t], w.decoded ++ [p], w.flushes) := by
  simp only [body, hin, hr, if_true, hdec.decode_ok, ne_eq, not_true_eq_false, if_false]
  rw [hdec.receive_eq]
  refine ⟨_, rfl, ?_⟩
  rw [receive_reads]
  simp [Worker.reads, Worker.afterPacket, Worker.enqueue, hin]

/-- The sentinel's pass clears `incoming_stream` and flushes the decoder. -/
theorem body_eos {w : Worker σ} {rest : List UInt8} (hin : w.incomingStream = true)
    (hr : readPacket host encodedFrameBufSize w.input = .eos rest) :
    ∃ w', body dec host encodedFrameBufSize w = .next w' ∧
      w'.reads = (rest, false, w.enqueued, w.decoded, w.flushes + 1) := by
  simp only [body, hin, hr, if_true]
  exact ⟨_, rfl, rfl⟩

section Records

variable (hdec : dec.Streams) (hbuf : encodedFrameBufSize < 2 ^ 32)
  {recs : List (ℕ × List UInt8)}
  (hrecs : ∀ r ∈ recs, r.1 < 2 ^ 64 ∧ r.2.length ≤ encodedFrameBufSize ∧ host.store 8 r.1 ≠ eostream)
include hdec hbuf hrecs

/-- One pass per record reads the records. -/
theorem loop_records {w : Worker σ} (hin : w.incomingStream = true) (rest : List UInt8)
    (hw : w.input = (recs.map fun r => encodeRecord host r.1 r.2).flatten ++ rest) :
    ∃ w', loop dec host encodedFrameBufSize recs.length w = .next w' ∧
      w'.reads = (rest, true, w.enqueued ++ recs.map Prod.fst, w.decoded ++ recs.map Prod.snd,
        w.flushes) := by
  induction recs generalizing w with
  | nil => exact ⟨w, rfl, by simp [Worker.reads, hw, hin]⟩
  | cons r rs ih =>
    obtain ⟨ht, hp, heos⟩ := hrecs r (.head _)
    have hr : readPacket host encodedFrameBufSize w.input =
        .packet r.1 r.2 ((rs.map fun r => encodeRecord host r.1 r.2).flatten ++ rest) := by
      rw [hw, List.map_cons, List.flatten_cons, List.append_assoc]
      exact readPacket_encodeRecord hbuf ht hp heos _
    obtain ⟨w₁, h₁, hr₁⟩ := body_packet hdec hin hr
    simp only [Worker.reads, Prod.mk.injEq] at hr₁
    obtain ⟨w₂, h₂, hr₂⟩ := ih (fun r hr => hrecs r (.tail _ hr)) hr₁.2.1 hr₁.1
    refine ⟨w₂, (loop_succ_of_next h₁ _).trans h₂, ?_⟩
    simpa [hr₁] using hr₂

/-- **The loop reads what was written in the host's byte order.** On a host of byte order `e`,
for records written in byte order `e` and closed by the sentinel, with any bytes after it:
after one pass per record, one for the sentinel and any number `m` more, the loop has read
exactly up to the sentinel, cleared `incoming_stream`, enqueued exactly the records' timestamps
and decoded exactly their payloads, in order, and called `flush_decoder` once. -/
theorem loop_reads_host_order_records (tail : List UInt8) (d₀ : σ) (m : ℕ) :
    (loop dec host encodedFrameBufSize (recs.length + 1 + m)
        (Worker.start (encodeStream host recs ++ tail) d₀)).state.reads =
      (tail, false, recs.map Prod.fst, recs.map Prod.snd, 1) := by
  obtain ⟨w₁, h₁, hr₁⟩ := loop_records hdec hbuf hrecs
    (w := Worker.start (encodeStream host recs ++ tail) d₀) rfl (eostream ++ tail)
    (by simp [Worker.start, encodeStream])
  simp only [Worker.reads, Worker.start, List.nil_append, Prod.mk.injEq] at hr₁
  have he : readPacket host encodedFrameBufSize w₁.input = .eos tail := by
    rw [hr₁.1, readPacket_eostream]
  obtain ⟨w₂, h₂, hr₂⟩ : ∃ w', body dec host encodedFrameBufSize w₁ = .next w' ∧ _ :=
    body_eos hr₁.2.1 he
  have h₁₂ : loop dec host encodedFrameBufSize (recs.length + 1)
      (Worker.start (encodeStream host recs ++ tail) d₀) = .next w₂ := by
    rw [loop_add_of_next h₁, loop_succ_of_next h₂, loop_zero]
  simp only [Worker.reads, Prod.mk.injEq] at hr₂
  rw [loop_add_of_next h₁₂, loop_reads_of_not_incoming m hr₂.2.1]
  simp [Worker.reads, hr₂, hr₁]

end Records

/-- Two records, the first with a two-byte payload. -/
def twoRecords : List (ℕ × List UInt8) := [(1, [5, 6]), (2, [7])]

theorem loop_reads_host_order_records_two :
    stuckDecoder.Streams ∧ (16 : ℕ) < 2 ^ 32 ∧
      (∀ r ∈ twoRecords, r.1 < 2 ^ 64 ∧ r.2.length ≤ 16 ∧ Endian.little.store 8 r.1 ≠ eostream) ∧
      (loop stuckDecoder .little 16 (twoRecords.length + 1 + 3)
          (Worker.start (encodeStream .little twoRecords ++ [9]) ())).state.reads =
        ([9], false, twoRecords.map Prod.fst, twoRecords.map Prod.snd, 1) := by
  have hbuf : (16 : ℕ) < 2 ^ 32 := by decide
  have hrecs : ∀ r ∈ twoRecords, r.1 < 2 ^ 64 ∧ r.2.length ≤ 16 ∧
      Endian.little.store 8 r.1 ≠ eostream := by decide
  exact ⟨stuckDecoder_streams, hbuf, hrecs,
    loop_reads_host_order_records stuckDecoder_streams hbuf hrecs [9] () 3⟩

/-- A record with timestamp `1` and an empty payload, written big-endian as the spec's wire
format says and read on a little-endian host: the loop enqueues `2 ^ 56`. -/
theorem big_endian_timestamp_misread :
    (loop stuckDecoder .little 16 2
        (Worker.start (encodeStream .big [(1, [])]) ())).state.enqueued = [72057594037927936] :=
  rfl

/-! ### What the loop accepts -/

/-- The bytes a state has taken from the stream when it has not broken inside a record: the
records it enqueued and decoded, written in the host's byte order, then the sentinel once
`incoming_stream` is cleared. -/
def Worker.consumed (host : Endian) (w : Worker σ) : List UInt8 :=
  (List.zipWith (encodeRecord host) w.enqueued w.decoded).flatten ++
    (if w.incomingStream then [] else eostream)

/-- What a state has accepted from the stream `input`: the bytes it took are records written in
the host's byte order, one timestamp per payload, each payload fitting the buffer and each
timestamp of 64 bits and not the sentinel, then the sentinel once the stream ended. -/
structure Accepted (host : Endian) (encodedFrameBufSize : ℕ) (input : List UInt8)
    (w : Worker σ) : Prop where
  input_eq : input = w.consumed host ++ w.input
  length_eq : w.enqueued.length = w.decoded.length
  decoded_le : ∀ p ∈ w.decoded, p.length ≤ encodedFrameBufSize
  enqueued_ok : ∀ t ∈ w.enqueued, t < 2 ^ 64 ∧ host.store 8 t ≠ eostream

/-- `Accepted` reads only the stream side of a state. -/
theorem Accepted.of_reads {input : List UInt8} {w w' : Worker σ}
    (ha : Accepted host encodedFrameBufSize input w) (h : w'.reads = w.reads) :
    Accepted host encodedFrameBufSize input w' := by
  cases w; cases w'
  simp only [Worker.reads, Prod.mk.injEq] at h
  obtain ⟨rfl, rfl, rfl, rfl, -⟩ := h
  exact ⟨ha.1, ha.2, ha.3, ha.4⟩

/-- `Accepted` for the end of a pass, unless it broke inside a record. -/
def PassAccepted (host : Endian) (encodedFrameBufSize : ℕ) (input : List UInt8) :
    Pass (Worker σ) → Prop
  | .exit .stream _ => True
  | .next w | .exit _ w => Accepted host encodedFrameBufSize input w

theorem passAccepted_of_reads {input : List UInt8} {w : Worker σ} {r : Pass (Worker σ)}
    (ha : Accepted host encodedFrameBufSize input w) (h : r.state.reads = w.reads) :
    PassAccepted host encodedFrameBufSize input r := by
  rcases r with w' | ⟨_ | _ | _ | _, w'⟩ <;> first | trivial | exact ha.of_reads h

/-- A pass over a whole record accepts it. -/
theorem Accepted.afterPacket {input : List UInt8} {w : Worker σ} {t : ℕ} {p rest : List UInt8}
    (ha : Accepted host encodedFrameBufSize input w) (hin : w.incomingStream = true)
    (hr : readPacket host encodedFrameBufSize w.input = .packet t p rest) :
    Accepted host encodedFrameBufSize input (w.afterPacket dec t p rest) := by
  obtain ⟨hw, ht, hp, heos⟩ := readPacket_packet_eq hr
  refine ⟨?_, by simp [Worker.afterPacket, Worker.enqueue, ha.length_eq], ?_, ?_⟩
  · rw [ha.input_eq, hw]
    simp [Worker.consumed, Worker.afterPacket, Worker.enqueue, hin,
      List.zipWith_append _ _ _ _ _ ha.length_eq]
  · intro q hq
    simp only [Worker.afterPacket, List.mem_append, List.mem_singleton] at hq
    rcases hq with hq | rfl
    exacts [ha.decoded_le q hq, hp]
  · intro u hu
    simp only [Worker.afterPacket, Worker.enqueue, List.mem_append, List.mem_singleton] at hu
    rcases hu with hu | rfl
    exacts [ha.enqueued_ok u hu, ⟨ht, heos⟩]

/-- Every pass keeps `Accepted`, unless it breaks inside a record. -/
theorem body_passAccepted {input : List UInt8} {w : Worker σ}
    (ha : Accepted host encodedFrameBufSize input w) :
    PassAccepted host encodedFrameBufSize input (body dec host encodedFrameBufSize w) := by
  unfold body
  split
  · rename_i hin
    split
    · trivial
    · trivial
    · rename_i rest hr
      refine ⟨?_, ha.length_eq, ha.decoded_le, ha.enqueued_ok⟩
      rw [ha.input_eq, readPacket_eos_eq hr]
      simp [Worker.consumed, hin]
    · rename_i t p rest hr
      have ha' : Accepted host encodedFrameBufSize input (w.afterPacket dec t p rest) :=
        ha.afterPacket hin hr
      split
      · exact ha'
      · exact passAccepted_of_reads ha' (receive_reads _)
  · exact passAccepted_of_reads ha (receive_reads _)

theorem loop_passAccepted {input : List UInt8} (k : ℕ) {w : Worker σ}
    (ha : Accepted host encodedFrameBufSize input w) :
    PassAccepted host encodedFrameBufSize input (loop dec host encodedFrameBufSize k w) := by
  induction k generalizing w with
  | zero => exact ha
  | succ k ih =>
    have hb : PassAccepted host encodedFrameBufSize input (body dec host encodedFrameBufSize w) :=
      body_passAccepted ha
    cases h : body dec host encodedFrameBufSize w with
    | next w' =>
      rw [h] at hb
      rw [loop_succ_of_next h]
      exact ih hb
    | exit why w' =>
      rw [loop_succ_of_exit h]
      rwa [h] at hb

/-- **The loop accepts only host-order records.** On every input, with every decoder, after any
number of passes that did not break inside a record, the bytes the loop took from the stream are
the records it enqueued and decoded, written in the host's byte order, each payload fitting the
buffer and each timestamp of 64 bits and not the sentinel, followed by the sentinel once
`incoming_stream` is cleared. -/
theorem loop_accepts_host_order_records (input : List UInt8) (d₀ : σ) (k : ℕ) {w : Worker σ}
    (h : loop dec host encodedFrameBufSize k (Worker.start input d₀) = .next w ∨
      ∃ why, why ≠ .stream ∧
        loop dec host encodedFrameBufSize k (Worker.start input d₀) = .exit why w) :
    Accepted host encodedFrameBufSize input w := by
  have h₀ : Accepted host encodedFrameBufSize input (Worker.start input d₀) :=
    ⟨by simp [Worker.consumed, Worker.start], rfl, by simp [Worker.start], by simp [Worker.start]⟩
  have hl : PassAccepted host encodedFrameBufSize input
      (loop dec host encodedFrameBufSize k (Worker.start input d₀)) := loop_passAccepted k h₀
  rcases h with h | ⟨why, hwhy, h⟩
  · rw [h] at hl; exact hl
  · rw [h] at hl
    cases why <;> first | exact absurd rfl hwhy | exact hl

/-- The state after the passes over `twoRecords`, before the sentinel's. -/
def twoRecordsRead : Worker Unit := ⟨eostream, true, [1, 2], (), [1, 2], [[5, 6], [7]], 0, []⟩

theorem loop_accepts_host_order_records_two :
    (loop stuckDecoder .little 16 2 (Worker.start (encodeStream .little twoRecords) ()) =
        .next twoRecordsRead ∨
      ∃ why, why ≠ .stream ∧
        loop stuckDecoder .little 16 2 (Worker.start (encodeStream .little twoRecords) ()) =
          .exit why twoRecordsRead) ∧
      Accepted .little 16 (encodeStream .little twoRecords) twoRecordsRead := by
  have h : loop stuckDecoder .little 16 2 (Worker.start (encodeStream .little twoRecords) ()) =
      .next twoRecordsRead := rfl
  exact ⟨.inl h, loop_accepts_host_order_records _ () 2 (.inl h)⟩

end HandMotionCapture.StreamMgr
