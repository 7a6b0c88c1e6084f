import HandMotionCapture.WireFormat

/-!
# The receive loop of the stream server

`stream_mgr` of `stream_server/src/stream_mgr.c`, from `while (true)` on: each pass, while
`incoming_stream` is set, reads one record (`readPacket`), enqueues its timestamp on
`timestamp_queue` and gives its payload to `decode_packet`, or, on `EOSTREAM`, clears
`incoming_stream`, calls `flush_decoder` and `continue`s; then it calls `recv_frame` once,
`continue`s on `EAGAIN`, breaks on `ENODATA` or another error, and on a frame dequeues one
timestamp. `new_frame` is never cleared, so its test always passes; the `ret` of
`flush_decoder` is overwritten before it is read.

The decoder (`viddec.h`), the queue (`queue.h`) and `recv_from_stream` (`network.h`) are not
among the sources. The decoder is a machine over a state of its own (`Decoder`), so that any
behaviour of it is a choice of that machine; the queue's `enqueue` and `dequeue`
(`Worker.enqueue`, `Worker.dequeue`) and `recv_from_stream` (`recvFromStream`) are modelled from
the spec.

A state also records, for the proofs, every timestamp enqueued, every payload given to
`decode_packet`, the calls to `flush_decoder`, and for every frame `recv_frame` returned the
packet it was decoded from and the timestamp dequeued for it; no pass reads them.
-/

namespace HandMotionCapture.StreamMgr

/-! ### The decoder and the worker -/

/-- What `recv_frame` answers. -/
inductive Received
  /-- `0`: a frame, decoded from the packet `origin` (numbered from `0` in the order the
  packets were given to `decode_packet`); the index names the frame for the proofs, the code
  does not read it. -/
  | frame (origin : ℕ)
  | eagain
  | enodata
  /-- Another non-zero code. -/
  | failed
deriving DecidableEq, Repr

/-- The decoder of `viddec.h` as a machine over its state `σ`: `decode_packet`,
`recv_frame` and `flush_decoder`, each with what it returns. -/
structure Decoder (σ : Type) where
  decodePacket : σ → List UInt8 → ℤ × σ
  recvFrame : σ → Received × σ
  flushDecoder : σ → ℤ × σ

/-- The variables of `stream_mgr`'s loop, and what the proofs record. -/
structure Worker (σ : Type) where
  /-- The bytes of the client's stream that `recv_from_stream` has not returned yet. -/
  input : List UInt8
  incomingStream : Bool
  /-- `timestamp_queue`, head first. -/
  timestampQueue : List ℕ
  viddec : σ
  /-- Every timestamp enqueued, in order. -/
  enqueued : List ℕ
  /-- Every payload given to `decode_packet`, in order. -/
  decoded : List (List UInt8)
  /-- The number of calls to `flush_decoder`. -/
  flushes : ℕ
  /-- For each frame `recv_frame` returned, in order: the packet it was decoded from and the
  timestamp dequeued for it (`none` when the queue was empty). -/
  paired : List (ℕ × Option ℕ)

/-- What a state says of the stream side: the bytes left, `incoming_stream`, the timestamps
enqueued, the payloads decoded and the number of flushes. -/
def Worker.reads {σ : Type} (w : Worker σ) :
    List UInt8 × Bool × List ℕ × List (List UInt8) × ℕ :=
  (w.input, w.incomingStream, w.enqueued, w.decoded, w.flushes)

/-- The loop's state when it starts on the accepted client's stream `input`. -/
def Worker.start {σ : Type} (input : List UInt8) (viddec : σ) : Worker σ :=
  ⟨input, true, [], viddec, [], [], 0, []⟩

/-- Modelled from the spec: `enqueue(&timestamp_queue, &timestamp)` of `queue.h`, which is not
among the sources. The timestamp queue is a FIFO of `u64` timestamps, one per received packet,
so the timestamp goes to the back; the queue grows from its initial capacity, and its allocation
failure (the `break` on a non-zero `ret`) is not modelled. -/
def Worker.enqueue {σ : Type} (w : Worker σ) (t : ℕ) : Worker σ :=
  { w with timestampQueue := w.timestampQueue ++ [t], enqueued := w.enqueued ++ [t] }

/-- Modelled from the spec: `dequeue(&timestamp_queue, &ts)` of `queue.h`, which is not among
the sources. The timestamp queue is "dequeued one per frame the decoder emits": the head is
taken, and an empty queue leaves `ts` at its `0`. The frame, decoded from the packet `o`, is
recorded with what was taken (`none` for the empty queue). -/
def Worker.dequeue {σ : Type} (w : Worker σ) (o : ℕ) : Worker σ :=
  { w with timestampQueue := w.timestampQueue.tail,
           paired := w.paired ++ [(o, w.timestampQueue.head?)] }

/-- The state after `enqueue` of the timestamp `t` and `decode_packet` of the payload `p`, with
`rest` left of the stream. -/
def Worker.afterPacket {σ : Type} (dec : Decoder σ) (w : Worker σ) (t : ℕ) (p rest : List UInt8) :
    Worker σ :=
  { w.enqueue t with input := rest, viddec := (dec.decodePacket w.viddec p).2,
                     decoded := w.decoded ++ [p] }

/-- Why the loop breaks. -/
inductive Break
  /-- A short read or an oversized frame. -/
  | stream
  /-- `decode_packet` failed. -/
  | decode
  /-- `recv_frame` returned `ENODATA` ("Recvd EOF from decoder"). -/
  | eof
  /-- `recv_frame` failed otherwise. -/
  | recv
deriving DecidableEq, Repr

/-- How a pass of the loop ends: `continue` (or the end of the body), or `break`. -/
inductive Pass (α : Type)
  | next (w : α)
  | exit (why : Break) (w : α)

/-- The loop's state at the end of a pass. -/
def Pass.state {α : Type} : Pass α → α
  | .next w | .exit _ w => w

/-! ### One pass and the loop -/

section Loop

variable {σ : Type} (dec : Decoder σ) (host : Endian) (encodedFrameBufSize : ℕ)

/-- `recv_frame`, and for a frame the `dequeue` of a timestamp. -/
def receive (w : Worker σ) : Pass (Worker σ) :=
  match dec.recvFrame w.viddec with
  | (.frame o, d) => .next ({ w with viddec := d }.dequeue o)
  | (.eagain, d) => .next { w with viddec := d }
  | (.enodata, d) => .exit .eof { w with viddec := d }
  | (.failed, d) => .exit .recv { w with viddec := d }

/-- One pass of `while (true)`. -/
def body (w : Worker σ) : Pass (Worker σ) :=
  if w.incomingStream then
    match readPacket host encodedFrameBufSize w.input with
    | .broken none rest => .exit .stream { w with input := rest }
    | .broken (some t) rest => .exit .stream { w.enqueue t with input := rest }
    | .eos rest =>
      .next { w with input := rest, incomingStream := false,
                     viddec := (dec.flushDecoder w.viddec).2, flushes := w.flushes + 1 }
    | .packet t p rest =>
      if (dec.decodePacket w.viddec p).1 ≠ 0 then .exit .decode (w.afterPacket dec t p rest)
      else receive dec (w.afterPacket dec t p rest)
  else receive dec w

/-- `k` passes of the loop from `w`, or fewer if it breaks. -/
def loop : ℕ → Worker σ → Pass (Worker σ)
  | 0, w => .next w
  | k + 1, w =>
    match body dec host encodedFrameBufSize w with
    | .next w' => loop k w'
    | .exit why w' => .exit why w'

/-! ### What a pass does -/

variable {dec host encodedFrameBufSize}

@[simp] theorem loop_zero (w : Worker σ) : loop dec host encodedFrameBufSize 0 w = .next w := rfl

theorem loop_succ_of_next {w w' : Worker σ} (h : body dec host encodedFrameBufSize w = .next w')
    (k : ℕ) :
    loop dec host encodedFrameBufSize (k + 1) w = loop dec host encodedFrameBufSize k w' := by
  simp [loop, h]

theorem loop_succ_of_exit {w w' : Worker σ} {why : Break}
    (h : body dec host encodedFrameBufSize w = .exit why w') (k : ℕ) :
    loop dec host encodedFrameBufSize (k + 1) w = .exit why w' := by
  simp [loop, h]

/-- Passes compose. -/
theorem loop_add_of_next {j : ℕ} {w w' : Worker σ}
    (h : loop dec host encodedFrameBufSize j w = .next w') (k : ℕ) :
    loop dec host encodedFrameBufSize (j + k) w = loop dec host encodedFrameBufSize k w' := by
  induction j generalizing w with
  | zero => cases h; simp
  | succ j ih =>
    rw [Nat.add_right_comm]
    cases hb : body dec host encodedFrameBufSize w with
    | next w₁ => rw [loop_succ_of_next hb] at h ⊢; exact ih h
    | exit why w₁ => rw [loop_succ_of_exit hb] at h; cases h

/-- After the stream ended, a pass only calls `recv_frame`. -/
theorem body_of_not_incoming {w : Worker σ} (h : w.incomingStream = false) :
    body dec host encodedFrameBufSize w = receive dec w := by
  simp [body, h]

/-- `recv_frame` leaves the stream side as it was. -/
@[simp] theorem receive_reads (w : Worker σ) : (receive dec w).state.reads = w.reads := by
  unfold receive
  split <;> rfl

/-- After the stream ended, the loop reads nothing more. -/
theorem loop_reads_of_not_incoming (k : ℕ) {w : Worker σ} (h : w.incomingStream = false) :
    (loop dec host encodedFrameBufSize k w).state.reads = w.reads := by
  induction k generalizing w with
  | zero => rfl
  | succ k ih =>
    have hr : (receive dec w).state.reads = w.reads := receive_reads w
    cases hw : receive dec w with
    | next w' =>
      rw [hw] at hr
      have hin : w'.incomingStream = false := (congrArg (·.2.1) hr).trans h
      rw [loop_succ_of_next ((body_of_not_incoming h).trans hw), ih hin]
      exact hr
    | exit why w' =>
      rw [loop_succ_of_exit ((body_of_not_incoming h).trans hw)]
      rw [hw] at hr
      exact hr

end Loop

end HandMotionCapture.StreamMgr
