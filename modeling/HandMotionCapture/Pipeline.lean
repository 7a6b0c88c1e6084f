import HandMotionCapture.CameraHandler

/-!
# The capture pipeline of the camera node

The threads of `dataset_gen/pi/src/main.cpp` around one `camera_handler_t`, as a state machine
whose steps interleave in any order:

* the SIGUSR1 branch of `capture_signal_handler`, which runs `queue_request`: the `running`
  test and the `sem_getvalue` check (`sigusr1`), then `camera_->queueRequest` with the cursor
  advance (`queueRequest`);
* the camera, which completes its outstanding requests in the order they were queued, each
  completion running `request_complete` on libcamera's thread one step at a time: the lookup
  and `frame_queue.enqueue` (`complete`), `sem_post` (`post`), `request->reuse` (`reuse`);
* the main loop: `while (running)` with `arm_timer` (`loopTop`); `sem_wait`, which returns `0`
  after decrementing (`semWait`) or `-1` with `EINTR` when a handler runs on the main thread
  while it sleeps (`semWaitIntr`: the 0.3 s watchdog's SIGUSR2 always can); `frame_queue.dequeue`
  with its `continue` on null (`dequeue`); `encode_frame` returning (`encodeDone`);
* the SIGINT/SIGTERM branch of `capture_signal_handler` (`shutdown`): `running = 0`, closing the
  socket and `sem_destroy(&queue_counter)`.

A buffer is named by its index in `mmap_buffers_`: `request_complete` on `requests_[i]` enqueues
`mmap_buffers_[i]` (`initDmaBuffers_cookie_mapping`). The ring has `N = dma_frame_buffers_`
requests and the frame queue `N` slots; the cursor is the natural number that
`queueRequest_eq` shows the `int` to be. A thrown `BufferNotReady` or `QueueFailed` leaves
`capture_signal_handler`, which has no `try`, and ends the node: unwound into `main` it is caught
and `main` returns `1`; on libcamera's thread it reaches `std::terminate`. Neither the handler
nor the main loop steps again, while the camera may still complete what it holds until the
process exits (`step_threw`). Semaphore operations after `sem_destroy` act on the counter as
glibc's do; whether they happen at all is the subject of `shutdown_destroys_counter_in_use`.

A state also records, for the proofs, the buffers the frame queue accepted and the buffers
handed to `encode_frame`, in order, and how many requests were submitted; no step reads them.
-/

namespace HandMotionCapture.Pipeline

/-! ### States and actions -/

/-- Where `request_complete` is on libcamera's completion thread. -/
inductive Completion
  /-- No completion is running. -/
  | idle
  /-- `frame_queue.enqueue` of request `r`'s buffer is done, `sem_post` is not. -/
  | enqueued (r : ℕ)
  /-- `sem_post` is done, `request->reuse` of request `r` is not. -/
  | posted (r : ℕ)
deriving DecidableEq, Repr

/-- Where the main loop is. -/
inductive MainPc
  /-- At `while (running)`. -/
  | top
  /-- In `sem_wait(&queue_counter)`, after `arm_timer()`. -/
  | wait
  /-- `sem_wait` returned, after decrementing the counter or, for `false`, with `EINTR`;
  `frame_queue.dequeue()` is next. -/
  | dequeue (decremented : Bool)
  /-- In `encoder.encode_frame` on buffer `b`. -/
  | encode (b : ℕ)
  /-- Out of the loop. -/
  | exited
deriving DecidableEq, Repr

/-- Where the SIGUSR1 handler is. -/
inductive Handler
  | idle
  /-- The `sem_getvalue` check passed; `camera_->queueRequest` is next. -/
  | submitting
  /-- `queue_request` threw, and the `std::runtime_error` ended the node. -/
  | threw
deriving DecidableEq, Repr

/-- The shared state of the node and the place of each thread. -/
structure Node where
  /-- `next_req_idx_`. -/
  nextReqIdx : ℕ
  /-- The requests queued to the camera and not yet completed, oldest first. -/
  camera : List ℕ
  completion : Completion
  /-- The buffers in `frame_queue`, head first. -/
  frameQueue : List ℕ
  /-- The value of `queue_counter`. -/
  queueCounter : ℕ
  /-- Whether `sem_destroy(&queue_counter)` has run. -/
  semDestroyed : Bool
  running : Bool
  main : MainPc
  handler : Handler
  /-- Every buffer `frame_queue.enqueue` accepted, in order. -/
  enqueued : List ℕ
  /-- Every buffer the main loop passed to `encode_frame`, in order. -/
  encoded : List ℕ
  /-- How many requests `queue_request` submitted. -/
  submitted : ℕ
deriving DecidableEq, Repr

/-- The steps of the node's threads and handlers. -/
inductive Action
  | sigusr1
  | queueRequest (accepted : Bool)
  | complete
  | post
  | reuse
  | loopTop
  | semWait
  | semWaitIntr
  | dequeue
  | encodeDone
  | shutdown
deriving DecidableEq, Repr

/-- The node when the main loop starts: `running = 1`, the counter at `0`, nothing queued. -/
def Node.init : Node := ⟨0, [], .idle, [], 0, false, true, .top, .idle, [], [], 0⟩

/-! ### Steps -/

/-- One step of the node with `N` buffers, or `none` when the action cannot happen in `s`. -/
def step (N : ℕ) (s : Node) : Action → Option Node
  | .sigusr1 =>
    if s.handler ≠ .idle then none
    else if !s.running then some s
    else if (s.queueCounter : ℤ) > (N : ℤ) - 2 then some { s with handler := .threw }
    else some { s with handler := .submitting }
  | .queueRequest accepted =>
    if s.handler ≠ .submitting then none
    else if accepted then
      some { s with handler := .idle, camera := s.camera ++ [s.nextReqIdx],
                    nextReqIdx := (s.nextReqIdx + 1) % N, submitted := s.submitted + 1 }
    else some { s with handler := .threw }
  | .complete =>
    match s.completion, s.camera with
    | .idle, r :: rest =>
      some { s with camera := rest, completion := .enqueued r,
                    frameQueue := enqueue N s.frameQueue r,
                    enqueued := s.enqueued ++ (if s.frameQueue.length < N then [r] else []) }
    | _, _ => none
  | .post =>
    match s.completion with
    | .enqueued r => some { s with completion := .posted r, queueCounter := s.queueCounter + 1 }
    | _ => none
  | .reuse =>
    match s.completion with
    | .posted _ => some { s with completion := .idle }
    | _ => none
  | .loopTop =>
    if s.main ≠ .top ∨ s.handler = .threw then none
    else some { s with main := if s.running then .wait else .exited }
  | .semWait =>
    if s.main = .wait ∧ 0 < s.queueCounter ∧ s.handler ≠ .threw then
      some { s with main := .dequeue true, queueCounter := s.queueCounter - 1 }
    else none
  | .semWaitIntr =>
    if s.main = .wait ∧ s.queueCounter = 0 ∧ s.handler ≠ .threw then
      some { s with main := .dequeue false }
    else none
  | .dequeue =>
    if s.handler = .threw then none
    else match s.main, dequeue s.frameQueue with
      | .dequeue _, some (b, rest) =>
        some { s with main := .encode b, frameQueue := rest, encoded := s.encoded ++ [b] }
      | .dequeue _, none => some { s with main := .top }
      | _, _ => none
  | .encodeDone =>
    if s.handler = .threw then none
    else match s.main with
      | .encode _ => some { s with main := .top }
      | _ => none
  | .shutdown =>
    if s.handler = .threw then none else some { s with running := false, semDestroyed := true }

/-- The states a node with `N` buffers reaches from `Node.init`. -/
inductive Reachable (N : ℕ) : Node → Prop
  | init : Reachable N Node.init
  | step {s s' : Node} (a : Action) : Reachable N s → step N s a = some s' → Reachable N s'

/-- The state after a sequence of actions, if each can happen in turn. -/
def run (N : ℕ) (s : Node) : List Action → Option Node
  | [] => some s
  | a :: as => (step N s a).bind fun s' => run N s' as

theorem reachable_of_run {N : ℕ} :
    ∀ (as : List Action) {s s' : Node}, Reachable N s → run N s as = some s' → Reachable N s'
  | [], _, _, hs, h => by cases h; exact hs
  | a :: as, s, s', hs, h => by
    simp only [run, Option.bind_eq_some] at h
    obtain ⟨t, ht, hrun⟩ := h
    exact reachable_of_run as (.step a hs ht) hrun

/-! ### What each step does

One lemma per action says what a step of it can do: its guard and the state it leaves. The
invariants are proved from these. -/

section Steps

variable {N : ℕ} {s s' : Node}

theorem step_sigusr1 (h : step N s .sigusr1 = some s') :
    s.handler = .idle ∧
      (s.running = false ∧ s' = s ∨
        s.running = true ∧ (s.queueCounter : ℤ) > (N : ℤ) - 2 ∧ s' = { s with handler := .threw } ∨
        s.running = true ∧ ¬(s.queueCounter : ℤ) > (N : ℤ) - 2 ∧
          s' = { s with handler := .submitting }) := by
  simp only [step, ne_eq, Bool.not_eq_true'] at h
  split_ifs at h with h₁ h₂ h₃ <;> cases h
  · exact ⟨h₁, .inl ⟨h₂, rfl⟩⟩
  · exact ⟨h₁, .inr (.inl ⟨by simpa using h₂, h₃, rfl⟩)⟩
  · exact ⟨h₁, .inr (.inr ⟨by simpa using h₂, h₃, rfl⟩)⟩

theorem step_queueRequest {accepted : Bool} (h : step N s (.queueRequest accepted) = some s') :
    s.handler = .submitting ∧
      (accepted = true ∧
          s' = { s with handler := .idle, camera := s.camera ++ [s.nextReqIdx],
                        nextReqIdx := (s.nextReqIdx + 1) % N, submitted := s.submitted + 1 } ∨
        accepted = false ∧ s' = { s with handler := .threw }) := by
  simp only [step, ne_eq] at h
  split_ifs at h with h₁ h₂ <;> cases h
  · exact ⟨h₁, .inl ⟨h₂, rfl⟩⟩
  · exact ⟨h₁, .inr ⟨by simpa using h₂, rfl⟩⟩

theorem step_complete (h : step N s .complete = some s') :
    ∃ r rest, s.completion = .idle ∧ s.camera = r :: rest ∧
      s' = { s with camera := rest, completion := .enqueued r,
                    frameQueue := enqueue N s.frameQueue r,
                    enqueued := s.enqueued ++ (if s.frameQueue.length < N then [r] else []) } := by
  simp only [step] at h
  split at h
  · cases h; exact ⟨_, _, ‹_›, ‹_›, rfl⟩
  · cases h

theorem step_post (h : step N s .post = some s') :
    ∃ r, s.completion = .enqueued r ∧
      s' = { s with completion := .posted r, queueCounter := s.queueCounter + 1 } := by
  simp only [step] at h
  split at h
  · cases h; exact ⟨_, ‹_›, rfl⟩
  · cases h

theorem step_reuse (h : step N s .reuse = some s') :
    ∃ r, s.completion = .posted r ∧ s' = { s with completion := .idle } := by
  simp only [step] at h
  split at h
  · cases h; exact ⟨_, ‹_›, rfl⟩
  · cases h

theorem step_loopTop (h : step N s .loopTop = some s') :
    s.main = .top ∧ s' = { s with main := if s.running then .wait else .exited } := by
  simp only [step, ne_eq] at h
  split at h
  · cases h
  · cases h
    exact ⟨not_not.mp (not_or.mp ‹_›).1, rfl⟩

theorem step_semWait (h : step N s .semWait = some s') :
    s.main = .wait ∧ 0 < s.queueCounter ∧
      s' = { s with main := .dequeue true, queueCounter := s.queueCounter - 1 } := by
  simp only [step] at h
  split_ifs at h with h₁
  cases h
  exact ⟨h₁.1, h₁.2.1, rfl⟩

theorem step_semWaitIntr (h : step N s .semWaitIntr = some s') :
    s.main = .wait ∧ s.queueCounter = 0 ∧ s' = { s with main := .dequeue false } := by
  simp only [step] at h
  split_ifs at h with h₁
  cases h
  exact ⟨h₁.1, h₁.2.1, rfl⟩

theorem step_dequeue (h : step N s .dequeue = some s') :
    ∃ d, s.main = .dequeue d ∧
      ((∃ b rest, s.frameQueue = b :: rest ∧
          s' = { s with main := .encode b, frameQueue := rest, encoded := s.encoded ++ [b] }) ∨
        s.frameQueue = [] ∧ s' = { s with main := .top }) := by
  simp only [step] at h
  split_ifs at h
  split at h
  · cases h; exact ⟨_, ‹_›, .inl ⟨_, _, dequeue_eq_some.mp ‹_›, rfl⟩⟩
  · cases h; exact ⟨_, ‹_›, .inr ⟨dequeue_eq_none.mp ‹_›, rfl⟩⟩
  · cases h

theorem step_encodeDone (h : step N s .encodeDone = some s') :
    ∃ b, s.main = .encode b ∧ s' = { s with main := .top } := by
  simp only [step] at h
  split_ifs at h
  split at h
  · cases h; exact ⟨_, ‹_›, rfl⟩
  · cases h

theorem step_shutdown (h : step N s .shutdown = some s') :
    s' = { s with running := false, semDestroyed := true } := by
  simp only [step] at h
  split_ifs at h
  exact (Option.some.inj h).symm

/-- **The node has ended.** Once `queue_request` threw, neither a handler nor the main loop takes
another step; only the camera's completions of what it holds remain. -/
theorem step_threw {a : Action} (hs : s.handler = .threw) (h : step N s a = some s') :
    a = .complete ∨ a = .post ∨ a = .reuse := by
  cases a <;> simp [step, hs] at h ⊢

/-- **Frame lemma.** Only a submission and a completion change what the camera holds, the
cursor, the number of submissions and what the frame queue accepted. -/
theorem step_frame {a : Action} (h : step N s a = some s')
    (hq : ∀ accepted, a ≠ .queueRequest accepted) (hc : a ≠ .complete) :
    s'.camera = s.camera ∧ s'.nextReqIdx = s.nextReqIdx ∧ s'.submitted = s.submitted ∧
      s'.enqueued = s.enqueued := by
  cases a with
  | sigusr1 =>
    obtain ⟨-, ⟨-, rfl⟩ | ⟨-, -, rfl⟩ | ⟨-, -, rfl⟩⟩ := step_sigusr1 h <;>
      exact ⟨rfl, rfl, rfl, rfl⟩
  | queueRequest accepted => exact absurd rfl (hq accepted)
  | complete => exact absurd rfl hc
  | post => obtain ⟨r, -, rfl⟩ := step_post h; exact ⟨rfl, rfl, rfl, rfl⟩
  | reuse => obtain ⟨r, -, rfl⟩ := step_reuse h; exact ⟨rfl, rfl, rfl, rfl⟩
  | loopTop => obtain ⟨-, rfl⟩ := step_loopTop h; exact ⟨rfl, rfl, rfl, rfl⟩
  | semWait => obtain ⟨-, -, rfl⟩ := step_semWait h; exact ⟨rfl, rfl, rfl, rfl⟩
  | semWaitIntr => obtain ⟨-, -, rfl⟩ := step_semWaitIntr h; exact ⟨rfl, rfl, rfl, rfl⟩
  | dequeue =>
    obtain ⟨d, -, ⟨b, rest, -, rfl⟩ | ⟨-, rfl⟩⟩ := step_dequeue h <;> exact ⟨rfl, rfl, rfl, rfl⟩
  | encodeDone => obtain ⟨b, -, rfl⟩ := step_encodeDone h; exact ⟨rfl, rfl, rfl, rfl⟩
  | shutdown => rw [step_shutdown h]; exact ⟨rfl, rfl, rfl, rfl⟩

end Steps

/-! ### Counting quantities -/

/-- `1` while `request_complete` is between its enqueue and its `sem_post`. -/
def Completion.pending : Completion → ℕ
  | .enqueued _ => 1
  | _ => 0

/-- `1` while the main loop is between a `sem_wait` that decremented and its dequeue. -/
def MainPc.taken : MainPc → ℕ
  | .dequeue true => 1
  | _ => 0

/-- The enqueue of the frame queue appends exactly when there is room. -/
theorem enqueue_eq (capacity : ℕ) (q : List ℕ) (x : ℕ) :
    enqueue capacity q x = q ++ (if q.length < capacity then [x] else []) := by
  unfold enqueue
  split_ifs <;> simp

end HandMotionCapture.Pipeline
