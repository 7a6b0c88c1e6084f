import HandMotionCapture.Pipeline.Ownership

/-!
# Every capture reaches the encoder

`queue_request` submits the ring in order, the camera completes its requests in the order they
were queued, and the frame queue and the main loop are FIFO (`CounterInv.fifo`). On the runs
whose triggers keep the cadence (`PacedReachable`) nothing is lost between these stages:
`request_complete` ignores the result of `frame_queue.enqueue`, but it never finds the queue
full, since the buffers in use never exceed the ring (`OwnershipInv.frameQueue_length_lt`). So
the buffers handed to `encode_frame`, then those queued, then those the camera holds are the
submitted ones in submission order (`paced_captures_delivered_in_order`): no capture is
dropped, duplicated or reordered between `queue_request` and `encode_frame`.

The cadence is needed for this, whatever the ring size: without it the check lets a request go
out whose completion finds the frame queue full, and the capture is lost
(`unpaced_capture_lost`).
-/

namespace HandMotionCapture.Pipeline

/-- The buffers of the first `n` submissions, in order: the `k`-th goes to request `k % N`. -/
def submissions (N n : ℕ) : List ℕ := (List.range n).map (· % N)

@[simp] theorem length_submissions (N n : ℕ) : (submissions N n).length = n := by simp [submissions]

theorem submissions_succ (N n : ℕ) : submissions N (n + 1) = submissions N n ++ [n % N] := by
  simp [submissions, List.range_succ]

/-! ### Paced runs -/

/-- **Step lemma.** On a paced run, what the frame queue accepted followed by what the camera
holds stays the submissions in order: a submission appends the cursor's buffer, and a completion
moves the camera's oldest buffer to the queue, which has room for it. -/
theorem captured_step {N : ℕ} {s s' : Node} {a : Action} (hi : OwnershipInv N s)
    (hd : s.enqueued ++ s.camera = submissions N s.submitted) (h : step N s a = some s') :
    s'.enqueued ++ s'.camera = submissions N s'.submitted := by
  cases a
  case queueRequest =>
    obtain ⟨-, ⟨-, rfl⟩ | ⟨-, rfl⟩⟩ := step_queueRequest h
    · simp [submissions_succ, ← hd, hi.next_eq]
    · exact hd
  case complete =>
    obtain ⟨r, rest, -, hcam, rfl⟩ := step_complete h
    have hfq := hi.frameQueue_length_lt (by simp [hcam])
    simpa [hfq, hcam] using hd
  all_goals
    obtain ⟨hcam, -, hsub, henq⟩ := step_frame h (fun _ h => by cases h) (fun h => by cases h)
    rwa [hcam, hsub, henq]

theorem pacedReachable_captured {N : ℕ} {s : Node} (h : PacedReachable N s) :
    s.enqueued ++ s.camera = submissions N s.submitted := by
  induction h with
  | init => rfl
  | step a hr _ hs ih => exact captured_step (pacedReachable_ownershipInv hr) ih hs

/-- **Every capture reaches the encoder, once and in order.** In every state of a run whose
triggers keep the cadence, the buffers handed to `encode_frame`, followed by those in the frame
queue and those the camera holds, are the buffers of the submitted requests in submission
order, `0, 1, …, N - 1, 0, …`. -/
theorem paced_captures_delivered_in_order {N : ℕ} {s : Node} (h : PacedReachable N s) :
    s.encoded ++ s.frameQueue ++ s.camera = submissions N s.submitted := by
  rw [(reachable_counterInv h.reachable).fifo, pacedReachable_captured h]

theorem paced_captures_delivered_in_order_oneCapture :
    PacedReachable 3 ⟨1, [], .enqueued 0, [0], 0, false, true, .top, .idle, [0], [], 1⟩ ∧
      [] ++ [0] ++ [] = submissions 3 1 :=
  have h : PacedReachable 3 ⟨1, [], .enqueued 0, [0], 0, false, true, .top, .idle, [0], [], 1⟩ :=
    .step .complete (.step (.queueRequest true) (.step .sigusr1 .init ⟨rfl, rfl⟩ rfl) trivial rfl)
      trivial rfl
  ⟨h, paced_captures_delivered_in_order h⟩

/-! ### Without the cadence -/

/-- The node after `i` captures, each one in the frame queue before the next trigger, with the
main loop not yet past its first `while (running)`. -/
def filling (N i : ℕ) : Node :=
  ⟨i % N, [], .idle, submissions N i, i, false, true, .top, .idle, submissions N i, [], i⟩

/-- A trigger, its submission and its completion, with the counter still below `N - 1`. -/
theorem run_filling_cycle {N i : ℕ} (hi : i + 2 ≤ N) :
    run N (filling N i) [.sigusr1, .queueRequest true, .complete, .post, .reuse] =
      some (filling N (i + 1)) := by
  have hcheck : ¬ ((i : ℤ) > (N : ℤ) - 2) := by omega
  simp only [run, step, filling, ne_eq, not_true_eq_false, ↓reduceIte, Bool.not_true,
    Bool.false_eq_true, gt_iff_lt, hcheck, ite_not, enqueue_eq, Option.bind_some, Option.some_bind,
    Nat.mod_add_mod, List.nil_append, length_submissions, submissions_succ, Option.some.injEq,
    Node.mk.injEq, List.append_cancel_left_eq, ite_eq_left_iff, not_lt, List.ne_cons_self, imp_false,
    not_le, and_self, and_true, true_and]
  omega

/-- From `N - 1` queued captures: the main loop takes one post in `sem_wait`, a trigger sees the
counter at `N - 2` and its completion fills the queue; before that completion posts, a second
trigger sees the counter still at `N - 2` and submits request `0`, whose completion finds the
queue full. -/
theorem run_filling_overflow {N : ℕ} (hN : 2 ≤ N) :
    ∃ s, run N (filling N (N - 1)) [.loopTop, .semWait, .sigusr1, .queueRequest true, .complete,
        .sigusr1, .queueRequest true, .post, .reuse, .complete] = some s ∧
      (s.encoded ++ s.frameQueue ++ s.camera).length < s.submitted := by
  have h0 : 0 < N - 1 := by omega
  have h1 : ¬ ((N : ℤ) - 2 < ((N - 1 - 1 : ℕ) : ℤ)) := by omega
  have h2 : N - 1 < N := by omega
  have h3 : ¬ (N - 1 + 1 < N) := by omega
  simp only [run, step, filling, Nat.self_sub_mod, ne_eq, not_true_eq_false, ↓reduceIte,
    Bool.not_eq_eq_eq_not, Bool.not_true, gt_iff_lt, ite_not, enqueue_eq, Option.bind_some,
    Option.some_bind, h0, and_self, Bool.true_eq_false, h1, List.nil_append, length_submissions, h2,
    Nat.mod_add_mod, List.length_append, List.length_singleton, h3, List.append_nil,
    Option.some.injEq, List.append_assoc, exists_eq_left', List.length_nil, add_zero, zero_add,
    Nat.lt_add_one, reduceCtorEq, false_or, not_false_eq_true, and_true]

theorem reachable_filling {N : ℕ} : ∀ i, i + 1 ≤ N → Reachable N (filling N i)
  | 0, _ => by
    have h : filling N 0 = Node.init := by simp [filling, Node.init, submissions]
    exact h ▸ .init
  | i + 1, hi => reachable_of_run _ (reachable_filling i (by omega)) (run_filling_cycle hi)

/-- **Without the cadence, a capture is lost, for every ring of two or more buffers.** Some run
reaches a state where more requests were submitted than there are buffers encoded, queued or
held by the camera: `request_complete` enqueued into a full frame queue and ignored the
failure. -/
theorem unpaced_capture_lost {N : ℕ} (hN : 2 ≤ N) :
    ∃ s, Reachable N s ∧ (s.encoded ++ s.frameQueue ++ s.camera).length < s.submitted := by
  obtain ⟨s, hrun, hlost⟩ := run_filling_overflow hN
  exact ⟨s, reachable_of_run _ (reachable_filling (N - 1) (by omega)) hrun, hlost⟩

theorem unpaced_capture_lost_two :
    2 ≤ 2 ∧ ∃ s, Reachable 2 s ∧ (s.encoded ++ s.frameQueue ++ s.camera).length < s.submitted :=
  ⟨le_rfl, unpaced_capture_lost le_rfl⟩

end HandMotionCapture.Pipeline
