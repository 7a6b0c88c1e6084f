import HandMotionCapture.StreamMgr.Framing
import HandMotionCapture.StreamMgr.Pairing

/-!
# Termination of the receive loop

The loop ends when the stream ends, but after `EOSTREAM` it only leaves on `ENODATA` (or another
error) from `recv_frame`, and `stream_mgr` discards the return value of `flush_decoder`. For a
decoder that, after a flush that took effect, gives finitely many frames and then no `EAGAIN`,
and that answers `EAGAIN` while no flush took effect and no frame is held (`Decoder.Drains`):

* when every flush succeeds, the loop exits on every finite input (`loop_exits_of_flush_ok`),
  by the measure of the bytes left while the stream comes in and of the frames held after;
* when the flush fails, the input `EOSTREAM` makes the loop call `recv_frame` and `continue`
  forever (`failed_flush_spins`).
-/

namespace HandMotionCapture.StreamMgr

variable {σ : Type} {dec : Decoder σ} {host : Endian} {encodedFrameBufSize : ℕ}

/-- The decoder of the termination argument: `pending d` counts the frames `d` holds and
`flushed d` says whether a flush took effect. A flush that returned `0` took effect; after it
`recv_frame` never answers `EAGAIN` and each frame lowers the count; before it, with no frame
held, `recv_frame` answers `EAGAIN`. -/
structure Decoder.Drains (dec : Decoder σ) (pending : σ → ℕ) (flushed : σ → Bool) : Prop where
  flush : ∀ d, (dec.flushDecoder d).1 = 0 → flushed (dec.flushDecoder d).2 = true
  drained : ∀ d, flushed d = true → (dec.recvFrame d).1 ≠ .eagain ∧
    ∀ o, (dec.recvFrame d).1 = .frame o →
      flushed (dec.recvFrame d).2 = true ∧ pending (dec.recvFrame d).2 < pending d
  /-- Before a flush took effect, with no frame held, `recv_frame` answers `EAGAIN`, as a
  decoder still waiting for input does. The exit of `loop_exits_of_flush_ok` needs only the two
  fields above; this one completes the contract, so that the decoder that spins in
  `failed_flush_spins` is one that keeps all of it. -/
  waiting : ∀ d, flushed d = false → pending d = 0 → (dec.recvFrame d).1 = .eagain

/-- A loop that exits after `k` passes from `w'` exits after `k + 1` from a state that passes to
`w'`. -/
theorem exits_of_body_next {w w' : Worker σ} (h : body dec host encodedFrameBufSize w = .next w')
    (hx : ∃ k why w'', loop dec host encodedFrameBufSize k w' = .exit why w'') :
    ∃ k why w'', loop dec host encodedFrameBufSize k w = .exit why w'' := by
  obtain ⟨k, why, w'', hk⟩ := hx
  exact ⟨k + 1, why, w'', (loop_succ_of_next h k).trans hk⟩

section Drains

variable {pending : σ → ℕ} {flushed : σ → Bool} (hd : dec.Drains pending flushed)
include hd

/-- After a flush took effect, `recv_frame` breaks the loop or gives a frame. -/
theorem receive_of_flushed {w : Worker σ} (hf : flushed w.viddec = true) :
    (∃ why w', receive dec w = .exit why w') ∨
      ∃ w', receive dec w = .next w' ∧ w'.incomingStream = w.incomingStream ∧
        flushed w'.viddec = true ∧ pending w'.viddec < pending w.viddec := by
  obtain ⟨hne, hframe⟩ := hd.drained w.viddec hf
  unfold receive
  split
  · rename_i o d hr
    obtain ⟨hf', hlt⟩ := hframe o (by rw [hr])
    rw [hr] at hf' hlt
    exact .inr ⟨_, rfl, rfl, hf', hlt⟩
  · rename_i d hr
    exact absurd (by rw [hr]) hne
  all_goals exact .inl ⟨_, _, rfl⟩

/-- After the stream ended and a flush took effect, the loop exits. -/
theorem loop_exits_of_flushed {w : Worker σ} (hin : w.incomingStream = false)
    (hf : flushed w.viddec = true) :
    ∃ k why w', loop dec host encodedFrameBufSize k w = .exit why w' := by
  obtain ⟨n, hn⟩ : ∃ n, pending w.viddec = n := ⟨_, rfl⟩
  induction n using Nat.strong_induction_on generalizing w with
  | _ n ih =>
    rcases receive_of_flushed hd hf with ⟨why, w', h⟩ | ⟨w', h, hin', hf', hlt⟩
    · exact ⟨1, why, w', loop_succ_of_exit ((body_of_not_incoming hin).trans h) 0⟩
    · exact exits_of_body_next ((body_of_not_incoming hin).trans h)
        (ih _ (hn ▸ hlt) (hin'.trans hin) hf' rfl)

/-- While the stream comes in and every flush succeeds, a pass breaks, ends the stream with the
decoder flushed, or consumes bytes. -/
theorem body_progress (hflush : ∀ d, (dec.flushDecoder d).1 = 0) {w : Worker σ}
    (hin : w.incomingStream = true) :
    (∃ why w', body dec host encodedFrameBufSize w = .exit why w') ∨
      ∃ w', body dec host encodedFrameBufSize w = .next w' ∧
        ((w'.incomingStream = false ∧ flushed w'.viddec = true) ∨
          (w'.incomingStream = true ∧ w'.input.length < w.input.length)) := by
  unfold body
  rw [if_pos hin]
  split
  · exact .inl ⟨_, _, rfl⟩
  · exact .inl ⟨_, _, rfl⟩
  · exact .inr ⟨_, rfl, .inl ⟨rfl, hd.flush _ (hflush _)⟩⟩
  · rename_i t p rest hr
    have hlen := readPacket_packet_length hr
    split
    · exact .inl ⟨_, _, rfl⟩
    · have hr : (receive dec (w.afterPacket dec t p rest)).state.reads =
          (w.afterPacket dec t p rest).reads := receive_reads _
      cases h : receive dec (w.afterPacket dec t p rest) with
      | exit why w' => exact .inl ⟨why, w', rfl⟩
      | next w' =>
        rw [h] at hr
        simp only [Pass.state, Worker.reads, Worker.afterPacket, Worker.enqueue,
          Prod.mk.injEq] at hr
        exact .inr ⟨w', rfl, .inr ⟨hr.2.1.trans hin, by rw [hr.1]; omega⟩⟩

/-- **The loop exits when every flush succeeds.** For a decoder that drains after a flush, and
whose every flush succeeds, the loop exits after finitely many passes on every finite input. -/
theorem loop_exits_of_flush_ok (hflush : ∀ d, (dec.flushDecoder d).1 = 0) (input : List UInt8)
    (d₀ : σ) :
    ∃ k why w, loop dec host encodedFrameBufSize k (Worker.start input d₀) = .exit why w := by
  suffices h : ∀ n (w : Worker σ), w.input.length = n → w.incomingStream = true →
      ∃ k why w', loop dec host encodedFrameBufSize k w = .exit why w' from h _ _ rfl rfl
  intro n
  induction n using Nat.strong_induction_on with
  | _ n ih =>
    intro w hn hin
    rcases body_progress hd hflush hin with ⟨why, w', h⟩ | ⟨w', h, ⟨hin', hf⟩ | ⟨hin', hlt⟩⟩
    · exact ⟨1, why, w', loop_succ_of_exit h 0⟩
    · exact exits_of_body_next h (loop_exits_of_flushed hd hin' hf)
    · exact exits_of_body_next h (ih _ (hn ▸ hlt) w' rfl hin')

end Drains

/-! ### A decoder that drains -/

theorem find?_range'_true (a n : ℕ) :
    (List.range' a n).find? (fun _ => true) = if n = 0 then none else some a := by
  cases n <;> simp [List.range'_succ]

/-- `fifoDecoder` keeping every frame drains after its flush, holding the frames of the packets
not yet emitted. -/
theorem fifoDecoder_drains :
    (fifoDecoder fun _ => true).Drains (fun d => d.fed - d.emitted) Fifo.flushed := by
  refine ⟨fun _ _ => rfl, fun d hf => ?_, fun d hf h0 => ?_⟩
  · simp only [fifoDecoder, find?_range'_true]
    split_ifs with h
    · simp [hf]
    · refine ⟨by simp, fun o ho => ?_⟩
      simp only [Option.some.injEq, Received.frame.injEq] at ho
      simp only [hf, true_and]
      omega
  · simp [fifoDecoder, find?_range'_true, h0, hf]

theorem loop_exits_of_flush_ok_fifo :
    (fifoDecoder fun _ => true).Drains (fun d => d.fed - d.emitted) Fifo.flushed ∧
      (∀ d, ((fifoDecoder fun _ => true).flushDecoder d).1 = 0) ∧
      ∃ k why w, loop (fifoDecoder fun _ => true) .little 16 k
        (Worker.start (encodeStream .little [(1, [5]), (2, [6])]) Fifo.init) = .exit why w :=
  ⟨fifoDecoder_drains, fun _ => rfl, loop_exits_of_flush_ok fifoDecoder_drains (fun _ => rfl) _ _⟩

/-! ### A failed flush -/

/-- A state whose pass changes nothing stays for ever. -/
theorem loop_of_body_eq_next {w : Worker σ} (h : body dec host encodedFrameBufSize w = .next w)
    (k : ℕ) : loop dec host encodedFrameBufSize k w = .next w := by
  induction k with
  | zero => rfl
  | succ k ih => rw [loop_succ_of_next h, ih]

/-- The stream is just `EOSTREAM` and the decoder holds no frame, answers `EAGAIN` while no
flush took effect, and fails its flush: after the sentinel's pass the loop is in the same state
after every pass, calling `recv_frame` and `continue`-ing for ever. -/
theorem failed_flush_spins (host : Endian) (encodedFrameBufSize : ℕ) :
    stuckDecoder.Drains (fun _ => 0) (fun _ => false) ∧
      ∀ k, loop stuckDecoder host encodedFrameBufSize (k + 1) (Worker.start eostream ()) =
        .next ⟨[], false, [], (), [], [], 1, []⟩ := by
  refine ⟨⟨fun _ h => absurd h (by simp [stuckDecoder]), fun _ h => absurd h Bool.false_ne_true,
    fun _ _ _ => rfl⟩, fun k => ?_⟩
  have he : readPacket host encodedFrameBufSize eostream = .eos [] := by
    simpa using readPacket_eostream host encodedFrameBufSize []
  have h₁ : body stuckDecoder host encodedFrameBufSize (Worker.start eostream ()) =
      .next ⟨[], false, [], (), [], [], 1, []⟩ := by
    simp only [body, Worker.start, if_true, he]
  rw [loop_succ_of_next h₁]
  have h₂ : body stuckDecoder host encodedFrameBufSize ⟨[], false, [], (), [], [], 1, []⟩ =
      .next ⟨[], false, [], (), [], [], 1, []⟩ := rfl
  exact loop_of_body_eq_next h₂ k

end HandMotionCapture.StreamMgr
