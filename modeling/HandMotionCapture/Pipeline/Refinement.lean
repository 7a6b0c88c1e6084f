import HandMotionCapture.Pipeline
import HandMotionCapture.CameraHandler.Constructor

/-!
# The node's steps run the handler's functions

The node (`Pipeline.step`) names a buffer by its index and keeps the cursor as a natural number.
`camera_handler_t` computes in C's integer types and reaches buffers through `requests_` and
`mmap_buffers_` (`queueRequest`, `requestComplete`). A handler the constructor built over `N`
buffers serves a node with `N` buffers (`construct_serves`): request `i` carries cookie `i`.
Then, in every reachable state of the node:

* the SIGUSR1 branch of `capture_signal_handler`, run to its end, is `queue_request` on the
  handler with the node's cursor and the counter's value: it throws, and the exception ends the
  node (`Handler.threw`), or the camera receives the index `queue_request` returns and the node's
  cursor becomes the one `queue_request` stores (`sigusr1Handler_runs_queueRequest`);
* a completion run to its end is `request_complete` on `requests_[r]` for the request `r` the
  camera completes: the node's frame queue, read through `mmap_buffers_`, and its counter become
  what `request_complete` leaves (`completion_runs_requestComplete`).

The invariant needed is that every index the node holds is in the ring (`reachable_inRing`).
-/

namespace HandMotionCapture.Pipeline

/-- The tables of a `camera_handler_t` serving a node with `N` buffers: `N` requests, the one at
`requests_[i]` with cookie `i`, one mapping per request, and `dma_frame_buffers_ = N` as an
`int`. -/
structure Serves (N : ℕ) (h : CameraHandler) : Prop where
  requests_length : h.requests.length = N
  mmapBuffers_length : h.mmapBuffers.length = N
  cookie_eq : ∀ i (hi : i < h.requests.length), h.requests[i].cookie = i
  dmaFrameBuffers_eq : h.dmaFrameBuffers = N
  le_intMax : (N : ℤ) ≤ intMax

/-- The tables of a returning `init_dma_buffers` over `N` buffers serve a node with `N`
buffers, whatever the cursor. -/
theorem initDmaBuffers_serves {env : DmaEnv} {frameBytes : ℤ} {t : DmaTables} {N : ℕ}
    (ht : initDmaBuffers env frameBytes = .ok t)
    (halloc : ∀ buffers, env.buffers = some buffers → buffers.length = N)
    (hle : (N : ℤ) ≤ intMax) (nextReqIdx : ℤ) :
    Serves N ⟨t.requests, t.mmapBuffers, nextReqIdx, N⟩ := by
  obtain ⟨buffers, hb, hreq, hmap⟩ := initDmaBuffers_eq_ok ht
  have hlen := halloc buffers hb
  exact ⟨by simp [hreq, hlen], hmap.length_eq.symm.trans hlen, fun i hi => by simp [hreq], rfl,
    hle⟩

/-- **The constructor builds the ring the node runs on.** When `camera_handler_t`'s constructor
returns on a positive `DMA_BUFFERS` of at most `INT_MAX`, with an allocator that made that many
buffers, the handler is as `queue_request`'s round robin starts from (`Constructed`: cursor
`0`) and serves a node with `DMA_BUFFERS` buffers: `DMA_BUFFERS` requests, one mapping per
request, and `requests_[i]` with cookie `i`. -/
theorem construct_serves {env : CameraEnv} {frameWidth frameHeight dmaBuffers : ℤ}
    {handler : CameraHandler} (h : construct env frameWidth frameHeight dmaBuffers = .ok handler)
    (hpos : 0 < dmaBuffers) (hle : dmaBuffers ≤ intMax)
    (halloc : ∀ buffers, env.dma.buffers = some buffers → (buffers.length : ℤ) = dmaBuffers) :
    handler.Constructed ∧ Serves dmaBuffers.toNat handler := by
  obtain ⟨t, ht, rfl⟩ := construct_eq_ok h
  have hs := initDmaBuffers_serves ht (N := dmaBuffers.toNat)
    (fun buffers hb => by have := halloc buffers hb; omega) (by omega) 0
  rw [Int.toNat_of_nonneg (by omega)] at hs
  have hlen := hs.requests_length
  exact ⟨⟨rfl, by omega, by omega, show _ ≤ dmaBuffers by omega, hle⟩, hs⟩

theorem construct_serves_twoBuffers :
    construct (cooperativeEnv .valid [3, 4]) 2 2 2 =
        .ok ⟨[⟨0, twoByTwoBuffer 3⟩, ⟨1, twoByTwoBuffer 4⟩], [12288, 16384], 0, 2⟩ ∧
      0 < (2 : ℤ) ∧ (2 : ℤ) ≤ intMax ∧
      (∀ buffers, (cooperativeEnv .valid [3, 4]).dma.buffers = some buffers →
        (buffers.length : ℤ) = 2) ∧
      (CameraHandler.Constructed
          ⟨[⟨0, twoByTwoBuffer 3⟩, ⟨1, twoByTwoBuffer 4⟩], [12288, 16384], 0, 2⟩ ∧
        Serves (2 : ℤ).toNat
          ⟨[⟨0, twoByTwoBuffer 3⟩, ⟨1, twoByTwoBuffer 4⟩], [12288, 16384], 0, 2⟩) :=
  have h : construct (cooperativeEnv .valid [3, 4]) 2 2 2 =
      .ok ⟨[⟨0, twoByTwoBuffer 3⟩, ⟨1, twoByTwoBuffer 4⟩], [12288, 16384], 0, 2⟩ := rfl
  have halloc : ∀ buffers, (cooperativeEnv .valid [3, 4]).dma.buffers = some buffers →
      (buffers.length : ℤ) = 2 := fun _ hb => by cases hb; rfl
  ⟨h, by decide, by decide, halloc, construct_serves h (by decide) (by decide) halloc⟩

/-! ### Indices stay in the ring -/

/-- The indices the node holds are in the ring: the cursor and the camera's requests. -/
structure InRing (N : ℕ) (s : Node) : Prop where
  nextReqIdx_lt : s.nextReqIdx < N
  camera_lt : ∀ r ∈ s.camera, r < N

/-- **Step lemma.** A submission appends the cursor and moves it modulo `N`; a completion drops
the camera's oldest request; no other step touches either. -/
theorem inRing_step {N : ℕ} {s s' : Node} {a : Action} (hN : 0 < N) (hi : InRing N s)
    (h : step N s a = some s') : InRing N s' := by
  obtain ⟨hnext, hcam⟩ := hi
  cases a
  case queueRequest =>
    obtain ⟨-, ⟨-, rfl⟩ | ⟨-, rfl⟩⟩ := step_queueRequest h
    · refine ⟨Nat.mod_lt _ hN, fun r hr => ?_⟩
      rcases List.mem_append.mp hr with hr | hr
      · exact hcam r hr
      · rw [List.mem_singleton.mp hr]; exact hnext
    · exact ⟨hnext, hcam⟩
  case complete =>
    obtain ⟨r, rest, -, hc, rfl⟩ := step_complete h
    exact ⟨hnext, fun r' hr' => hcam r' (hc ▸ List.mem_cons_of_mem r hr')⟩
  all_goals
    obtain ⟨hc, hn, -, -⟩ := step_frame h (fun _ h => by cases h) (fun h => by cases h)
    exact ⟨hn ▸ hnext, hc ▸ hcam⟩

theorem reachable_inRing {N : ℕ} {s : Node} (hN : 0 < N) (h : Reachable N s) : InRing N s := by
  induction h with
  | init => exact ⟨hN, fun r hr => by cases hr⟩
  | step a _ hs ih => exact inRing_step hN ih hs

/-! ### `queue_request` -/

/-- The SIGUSR1 branch of `capture_signal_handler` run to its end with no step between: the
test, then the submission when the test passed. -/
def sigusr1Handler (N : ℕ) (s : Node) (accepted : Bool) : Option Node :=
  (step N s .sigusr1).bind fun s₁ =>
    if s₁.handler = .submitting then step N s₁ (.queueRequest accepted) else some s₁

/-- **The node's trigger is `queue_request`.** In every reachable state where no SIGUSR1 handler
is running and `running` is set, the handler run to its end does what `queue_request` computes on
the handler with the node's cursor, given the counter's value and the camera's answer: a throw
ends the node (`step_threw`); otherwise the camera receives the index `queue_request` returns,
the node's cursor becomes the one it stores, and one more request is submitted. -/
theorem sigusr1Handler_runs_queueRequest {N : ℕ} {h : CameraHandler} {s : Node}
    (hs : Serves N h) (hN : 0 < N) (hreach : Reachable N s) (hidle : s.handler = .idle)
    (hrun : s.running = true) (accepted : Bool) :
    sigusr1Handler N s accepted =
      some (match queueRequest { h with nextReqIdx := s.nextReqIdx } s.queueCounter accepted with
        | .ok (idx, h') => { s with camera := s.camera ++ [idx], nextReqIdx := h'.nextReqIdx.toNat,
                                    submitted := s.submitted + 1 }
        | .error _ => { s with handler := .threw }) := by
  have hlt := (reachable_inRing hN hreach).nextReqIdx_lt
  have hle := hs.le_intMax
  rw [queueRequest_eq (i := s.nextReqIdx) (by simpa [hs.requests_length] using hlt)
    (by simpa [hs.requests_length] using hle) rfl (by simp [hs.dmaFrameBuffers_eq]; omega)
    (by simpa [hs.dmaFrameBuffers_eq] using hle)]
  obtain ⟨nextReqIdx, camera, completion, frameQueue, queueCounter, semDestroyed, running, main,
    handler, enqueued, encoded, submitted⟩ := s
  subst hidle hrun
  by_cases hcheck : (queueCounter : ℤ) > (N : ℤ) - 2
  · simp [sigusr1Handler, step, hcheck, hs.dmaFrameBuffers_eq]
  · cases accepted
    · simp [sigusr1Handler, step, hcheck, hs.dmaFrameBuffers_eq]
    · simp [sigusr1Handler, step, hcheck, hs.dmaFrameBuffers_eq, hs.requests_length]
      norm_cast

/-- Two requests with cookies `0` and `1`, mapped at `4096` and `8192`, as the constructor
leaves them for `DMA_BUFFERS = 2`. -/
def twoRequestHandler : CameraHandler :=
  let buffer : FrameBuffer := ⟨⟨0, 0, 0⟩, ⟨0, 0, 0⟩, ⟨0, 0, 0⟩⟩
  ⟨[⟨0, buffer⟩, ⟨1, buffer⟩], [4096, 8192], 0, 2⟩

theorem serves_twoRequestHandler : Serves 2 twoRequestHandler where
  requests_length := rfl
  mmapBuffers_length := rfl
  cookie_eq
    | 0, _ => rfl
    | 1, _ => rfl
  dmaFrameBuffers_eq := rfl
  le_intMax := by decide

/-- With two buffers: a trigger while buffer `0` is queued and its post not yet made submits
request `1`; once the post is made, the counter reads `1 > 2 - 2` and `queue_request` throws. -/
theorem sigusr1Handler_runs_queueRequest_queued :
    Serves 2 twoRequestHandler ∧ 0 < 2 ∧
      Reachable 2 ⟨1, [], .enqueued 0, [0], 0, false, true, .top, .idle, [0], [], 1⟩ ∧
      sigusr1Handler 2 ⟨1, [], .enqueued 0, [0], 0, false, true, .top, .idle, [0], [], 1⟩ true =
        some ⟨0, [1], .enqueued 0, [0], 0, false, true, .top, .idle, [0], [], 2⟩ ∧
      Reachable 2 ⟨1, [], .idle, [0], 1, false, true, .top, .idle, [0], [], 1⟩ ∧
      sigusr1Handler 2 ⟨1, [], .idle, [0], 1, false, true, .top, .idle, [0], [], 1⟩ true =
        some ⟨1, [], .idle, [0], 1, false, true, .top, .threw, [0], [], 1⟩ :=
  have h₁ : Reachable 2 ⟨1, [], .enqueued 0, [0], 0, false, true, .top, .idle, [0], [], 1⟩ :=
    reachable_of_run [.sigusr1, .queueRequest true, .complete] .init rfl
  have h₂ : Reachable 2 ⟨1, [], .idle, [0], 1, false, true, .top, .idle, [0], [], 1⟩ :=
    reachable_of_run [.post, .reuse] h₁ rfl
  ⟨serves_twoRequestHandler, by decide, h₁,
    sigusr1Handler_runs_queueRequest serves_twoRequestHandler (by decide) h₁ rfl rfl true, h₂,
    sigusr1Handler_runs_queueRequest serves_twoRequestHandler (by decide) h₂ rfl rfl true⟩

/-! ### `request_complete` -/

/-- The objects `request_complete` writes, as the node holds them: the frame queue, of capacity
`N`, read through `mmap_buffers_`, and the counter. -/
def sharedOf (N : ℕ) (h : CameraHandler) (s : Node) : Shared :=
  ⟨N, s.frameQueue.map fun i => h.mmapBuffers.getD i 0, s.queueCounter⟩

/-- Enqueueing an index and reading the queue through a table is enqueueing the entry. -/
theorem enqueue_map (f : ℕ → ℕ) (capacity : ℕ) (q : List ℕ) (x : ℕ) :
    enqueue capacity (q.map f) (f x) = (enqueue capacity q x).map f := by
  simp only [enqueue_eq, List.length_map, List.map_append]
  split_ifs <;> simp

/-- **The node's completion is `request_complete`.** In every reachable state where the camera
completes its oldest request `r` and no completion is running, `requests_[r]` is a request, and
the completion run to its end leaves the frame queue, read through `mmap_buffers_`, and the
counter as `request_complete` on `requests_[r]` leaves them. -/
theorem completion_runs_requestComplete {N : ℕ} {h : CameraHandler} {s : Node} {r : ℕ}
    {rest : List ℕ} (hs : Serves N h) (hN : 0 < N) (hreach : Reachable N s)
    (hidle : s.completion = .idle) (hcam : s.camera = r :: rest) :
    ∃ req, h.requests[r]? = some req ∧
      (run N s [.complete, .post, .reuse]).map (sharedOf N h) =
        requestComplete h req .complete (sharedOf N h s) := by
  have hr : r < N := (reachable_inRing hN hreach).camera_lt r (by simp [hcam])
  have hrq : r < h.requests.length := hs.requests_length ▸ hr
  have hrm : r < h.mmapBuffers.length := hs.mmapBuffers_length ▸ hr
  refine ⟨h.requests[r], List.getElem?_eq_getElem hrq, ?_⟩
  simp [run, step, hidle, hcam, requestComplete, sharedOf, hs.cookie_eq r hrq,
    List.getElem?_eq_getElem hrm, ← enqueue_map]


theorem completion_runs_requestComplete_first :
    Serves 2 twoRequestHandler ∧ 0 < 2 ∧
      Reachable 2 ⟨1, [0], .idle, [], 0, false, true, .top, .idle, [], [], 1⟩ ∧
      ∃ req, twoRequestHandler.requests[0]? = some req ∧
        (run 2 ⟨1, [0], .idle, [], 0, false, true, .top, .idle, [], [], 1⟩
            [.complete, .post, .reuse]).map (sharedOf 2 twoRequestHandler) =
          requestComplete twoRequestHandler req .complete ⟨2, [], 0⟩ :=
  have hr : Reachable 2 ⟨1, [0], .idle, [], 0, false, true, .top, .idle, [], [], 1⟩ :=
    reachable_of_run [.sigusr1, .queueRequest true] .init rfl
  ⟨serves_twoRequestHandler, by decide, hr,
    completion_runs_requestComplete serves_twoRequestHandler (by decide) hr rfl rfl⟩

end HandMotionCapture.Pipeline
