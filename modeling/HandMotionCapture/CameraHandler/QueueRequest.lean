import HandMotionCapture.CameraHandler
import Mathlib.Data.List.Range

/-!
# Correctness of `queueRequest`

The cursor `next_req_idx_` is an `int`; `queue_request` increments it and reduces it modulo
`requests_.size()`, a `size_t`. On a handler as the constructor leaves it (`Constructed`): the
cursor at `0`, a ring of at most `INT_MAX` requests, one per buffer the allocator made (as many
as the configuration's buffer count after `validate()`, which need not be `dma_frame_buffers_`),
and a `dma_frame_buffers_` for which `dma_frame_buffers_ - 2` is an `int`. There every value the
cursor takes is a non-negative `int` below the ring size and none of the conversions changes a
value (`queueRequest_eq`). A call then either throws, with the handler unchanged, or submits
`requests_[next_req_idx_]` and advances the cursor modulo the ring size.

Over any sequence of calls the submitting ones, those whose reported value is at most
`dma_frame_buffers_ - 2` and whose request the camera accepts (`submits`), submit the ring in
order, `0, 1, …, n - 1, 0, …`, whatever failures come between them, and each of them appends
its index (`queueRequests_eq`, `queueRequests_round_robin`).
-/

namespace HandMotionCapture

/-- A `camera_handler_t` as a successful constructor leaves it: `next_req_idx_` is `0`, and
`requests_` holds one request per buffer of the allocator, a positive number of at most
`INT_MAX`; `dma_frame_buffers_` is the configured buffer count, an `int` whose
`dma_frame_buffers_ - 2` is an `int` too. -/
structure CameraHandler.Constructed (h : CameraHandler) : Prop where
  nextReqIdx_eq : h.nextReqIdx = 0
  requests_pos : 0 < h.requests.length
  requests_le : (h.requests.length : ℤ) ≤ intMax
  dmaFrameBuffers_ge : -2 ^ 31 + 2 ≤ h.dmaFrameBuffers
  dmaFrameBuffers_le : h.dmaFrameBuffers ≤ intMax

/-- `queue_request` called once per trigger, each call with the value `sem_getvalue` reports
and whether the camera accepts the request: the indices of the requests submitted, in order,
and the handler after the calls. -/
def queueRequests (h : CameraHandler) : List (ℕ × Bool) → List ℕ × CameraHandler
  | [] => ([], h)
  | (enqueuedBufs, accepted) :: calls =>
    match queueRequest h enqueuedBufs accepted with
    | .error _ => queueRequests h calls
    | .ok (idx, h') => (idx :: (queueRequests h' calls).1, (queueRequests h' calls).2)

/-- Calls one after another: the second sequence starts from the handler the first left. -/
theorem queueRequests_append (h : CameraHandler) (calls calls' : List (ℕ × Bool)) :
    queueRequests h (calls ++ calls') =
      ((queueRequests h calls).1 ++ (queueRequests (queueRequests h calls).2 calls').1,
        (queueRequests (queueRequests h calls).2 calls').2) := by
  induction calls generalizing h with
  | nil => rfl
  | cons c calls ih =>
    obtain ⟨enqueuedBufs, accepted⟩ := c
    simp only [List.cons_append, queueRequests]
    split <;> simp [ih]

/-- Whether a call of `queue_request` on a handler with this `dma_frame_buffers_` submits: the
value `sem_getvalue` reports is at most `dma_frame_buffers_ - 2` and the camera accepts the
request. -/
def submits (h : CameraHandler) (call : ℕ × Bool) : Bool :=
  decide ((call.1 : ℤ) ≤ h.dmaFrameBuffers - 2) && call.2

section Cursor

variable {h : CameraHandler} {i : ℕ}

/-- **The `int` arithmetic of `queue_request` is exact.** With the cursor at `i` below a ring of
at most `INT_MAX` requests and `dma_frame_buffers_ - 2` an `int`, `queue_request` compares the
reported value with `dma_frame_buffers_ - 2`, submits index `i`, and moves the cursor to
`(i + 1) % n`. -/
theorem queueRequest_eq (hi : i < h.requests.length) (hn : (h.requests.length : ℤ) ≤ intMax)
    (hnext : h.nextReqIdx = i) (hdma₁ : -2 ^ 31 + 2 ≤ h.dmaFrameBuffers)
    (hdma₂ : h.dmaFrameBuffers ≤ intMax) (enqueuedBufs : ℕ) (accepted : Bool) :
    queueRequest h enqueuedBufs accepted =
      if (enqueuedBufs : ℤ) > h.dmaFrameBuffers - 2 then .error "Buffer is not ready for requeuing"
      else if !accepted then .error "Failed to queue request"
      else .ok (i, { h with nextReqIdx := ((i + 1) % h.requests.length : ℕ) }) := by
  have hmod : (i + 1) % h.requests.length < h.requests.length := Nat.mod_lt _ (by omega)
  have hdma : toCInt (h.dmaFrameBuffers - 2) = h.dmaFrameBuffers - 2 :=
    toCInt_of_le (by omega) (by unfold intMax at *; omega)
  have hinc : toCInt (h.nextReqIdx + 1) = ((i + 1 : ℕ) : ℤ) := by
    rw [toCInt_of_le (by omega) (by omega)]
    omega
  have hidx : toSizeT h.nextReqIdx = i := by rw [toSizeT_of_nonneg] <;> omega
  have hidx' : toSizeT ((i + 1 : ℕ) : ℤ) = i + 1 := by rw [toSizeT_of_nonneg] <;> omega
  have hnew : toCInt (((i + 1) % h.requests.length : ℕ) : ℤ) =
      (((i + 1) % h.requests.length : ℕ) : ℤ) := toCInt_of_le (by omega) (by omega)
  simp only [queueRequest, hdma, hinc, hidx, hidx', hnew]

end Cursor

/-- **Run lemma.** From a handler whose cursor is at `j % n`, a sequence of calls submits
`j % n, (j + 1) % n, …`, one index per submitting call, and leaves the cursor after the last of
them; the ring and the buffer count never change. -/
theorem queueRequests_eq {h : CameraHandler} (hc : h.Constructed) :
    ∀ (calls : List (ℕ × Bool)) (g : CameraHandler) (j : ℕ),
    g.requests = h.requests → g.dmaFrameBuffers = h.dmaFrameBuffers →
    g.nextReqIdx = ((j % h.requests.length : ℕ) : ℤ) →
    (queueRequests g calls).1 =
        (List.range' j (calls.countP (submits h))).map (· % h.requests.length) ∧
      (queueRequests g calls).2 = { g with nextReqIdx :=
        (((j + calls.countP (submits h)) % h.requests.length : ℕ) : ℤ) }
  | [], g, j, _, _, hnext => by simp [queueRequests, ← hnext]
  | (e, a) :: calls, g, j, hreq, hdma, hnext => by
    have hlt : j % h.requests.length < h.requests.length := Nat.mod_lt _ hc.requests_pos
    have hstep := queueRequest_eq (h := g) (i := j % h.requests.length) (by rw [hreq]; exact hlt)
      (by rw [hreq]; exact hc.requests_le) hnext (hdma ▸ hc.dmaFrameBuffers_ge)
      (hdma ▸ hc.dmaFrameBuffers_le) e a
    simp only [queueRequests, hstep, List.countP_cons]
    by_cases h₁ : (e : ℤ) > g.dmaFrameBuffers - 2
    · have hs : submits h (e, a) = false := by simp [submits]; omega
      simpa [h₁, hs] using queueRequests_eq hc calls g j hreq hdma hnext
    · cases a
      · have hs : submits h (e, false) = false := by simp [submits]
        simpa [h₁, hs] using queueRequests_eq hc calls g j hreq hdma hnext
      · have hs : submits h (e, true) = true := by simp [submits]; omega
        obtain ⟨h₃, h₄⟩ := queueRequests_eq hc calls { g with nextReqIdx :=
          (((j % h.requests.length + 1) % g.requests.length : ℕ) : ℤ) } (j + 1) hreq hdma
          (by simp [hreq, Nat.add_mod])
        simp only [h₁, hs, if_false, if_true, Bool.not_true, Bool.false_eq_true]
        refine ⟨by rw [List.range'_succ, List.map_cons, h₃], ?_⟩
        rw [h₄, Nat.add_assoc, Nat.add_comm 1]

/-- **Round robin.** What `queue_request` guarantees after the calls `calls` on a handler `h`
with `n` requests, and for one more call: with `k` the number of calls that submit, the
requests submitted are `requests_[0 % n], …, requests_[(k - 1) % n]`, however many failed calls
came between; after the calls the cursor is `k % n`, a valid index; the next call throws
`BufferNotReady` exactly when the reported value exceeds `dma_frame_buffers_ - 2`, throws
`QueueFailed` when the camera refuses, both leaving the handler unchanged, and otherwise submits
the request at the cursor and advances it modulo `n`; and appending that call to the sequence
appends its index to what was submitted exactly when it submits. -/
structure RoundRobin (h : CameraHandler) (calls : List (ℕ × Bool)) (enqueuedBufs : ℕ)
    (accepted : Bool) : Prop where
  submitted_eq : (queueRequests h calls).1 =
    (List.range (calls.countP (submits h))).map (· % h.requests.length)
  handler_eq : (queueRequests h calls).2 =
    { h with nextReqIdx := ((calls.countP (submits h) % h.requests.length : ℕ) : ℤ) }
  cursor_lt : calls.countP (submits h) % h.requests.length < h.requests.length
  next_call :
    queueRequest (queueRequests h calls).2 enqueuedBufs accepted =
        .error "Buffer is not ready for requeuing" ∧
      (enqueuedBufs : ℤ) > h.dmaFrameBuffers - 2 ∨
    queueRequest (queueRequests h calls).2 enqueuedBufs accepted =
        .error "Failed to queue request" ∧
      (enqueuedBufs : ℤ) ≤ h.dmaFrameBuffers - 2 ∧ accepted = false ∨
    queueRequest (queueRequests h calls).2 enqueuedBufs accepted =
        .ok (calls.countP (submits h) % h.requests.length,
          { (queueRequests h calls).2 with nextReqIdx :=
            (((calls.countP (submits h) + 1) % h.requests.length : ℕ) : ℤ) }) ∧
      (enqueuedBufs : ℤ) ≤ h.dmaFrameBuffers - 2 ∧ accepted = true
  append_call : queueRequests h (calls ++ [(enqueuedBufs, accepted)]) =
    if submits h (enqueuedBufs, accepted) then
      ((queueRequests h calls).1 ++ [calls.countP (submits h) % h.requests.length],
        { h with nextReqIdx := (((calls.countP (submits h) + 1) % h.requests.length : ℕ) : ℤ) })
    else queueRequests h calls

/-- Every sequence of calls on a constructed handler is a round robin over its requests. -/
theorem queueRequests_round_robin {h : CameraHandler} (hc : h.Constructed)
    (calls : List (ℕ × Bool)) (enqueuedBufs : ℕ) (accepted : Bool) :
    RoundRobin h calls enqueuedBufs accepted := by
  obtain ⟨hsub, hfin⟩ := queueRequests_eq hc calls h 0 rfl rfl (by simp [hc.nextReqIdx_eq])
  simp only [Nat.zero_add] at hfin
  set k := calls.countP (submits h)
  have hlt : k % h.requests.length < h.requests.length := Nat.mod_lt _ hc.requests_pos
  have hnext := queueRequest_eq (h := { h with nextReqIdx := ((k % h.requests.length : ℕ) : ℤ) })
    hlt hc.requests_le rfl hc.dmaFrameBuffers_ge hc.dmaFrameBuffers_le enqueuedBufs accepted
  refine ⟨by rw [List.range_eq_range']; exact hsub, hfin, hlt, ?_, ?_⟩
  · rw [hfin, hnext]
    by_cases h₁ : (enqueuedBufs : ℤ) > h.dmaFrameBuffers - 2
    · exact .inl ⟨if_pos h₁, h₁⟩
    · cases accepted
      · exact .inr (.inl ⟨by simp [h₁], by omega, rfl⟩)
      · exact .inr (.inr ⟨by simp [h₁, Nat.add_mod_mod], by omega, rfl⟩)
  · rw [queueRequests_append, hfin]
    simp only [queueRequests, hnext]
    by_cases h₁ : (enqueuedBufs : ℤ) > h.dmaFrameBuffers - 2
    · have hs : submits h (enqueuedBufs, accepted) = false := by simp [submits]; omega
      simp [h₁, hs, Prod.ext_iff, hsub, hfin]
    · cases accepted
      · have hs : submits h (enqueuedBufs, false) = false := by simp [submits]
        simp [h₁, hs, Prod.ext_iff, hsub, hfin]
      · have hs : submits h (enqueuedBufs, true) = true := by simp [submits]; omega
        simp [h₁, hs, Nat.add_mod_mod]

/-- A ring of three requests with `dma_frame_buffers_ = 2`: the constructor leaves one when
libcamera adjusted a configuration of two buffers to three. -/
def threeRequestHandler : CameraHandler :=
  let buffer : FrameBuffer := ⟨⟨0, 0, 0⟩, ⟨0, 0, 0⟩, ⟨0, 0, 0⟩⟩
  ⟨[⟨0, buffer⟩, ⟨1, buffer⟩, ⟨2, buffer⟩], [], 0, 2⟩

theorem queueRequests_round_robin_three :
    threeRequestHandler.Constructed ∧
      RoundRobin threeRequestHandler [(0, true), (1, true), (0, false), (0, true), (0, true),
        (0, true)] 0 true :=
  have hc : threeRequestHandler.Constructed := ⟨rfl, by decide, by decide, by decide, by decide⟩
  ⟨hc, queueRequests_round_robin hc _ _ _⟩

end HandMotionCapture
