import HandMotionCapture.Pipeline

/-!
# The frame queue and its counter

Over every interleaving of the node's threads (`Reachable`):

* the frame queue is FIFO: the buffers the main loop handed to `encode_frame`, followed by the
  queue's contents, are exactly the buffers the queue accepted, in order;
* every queued buffer has a post of `queue_counter` that is made or about to be made and not yet
  consumed: `queue.size ≤ queue_counter + pending + taken`, where `pending` is `1` while
  `request_complete` sits between its enqueue and its `sem_post` and `taken` is `1` while the
  main loop sits between a decrementing `sem_wait` and its dequeue (`CounterInv`).

So a main loop in `sem_wait` with no post pending always finds a post for each queued frame
(`reachable_fifo_no_stranded_frame`). The counter can lag the queue by two, though, when both
threads are between their two steps, and an `EINTR` return of `sem_wait` followed by a
successful dequeue leaves it ahead of the queue (`counter_lag_two_and_lead_reachable`):
`queue_request`'s comment that the counter "may fall behind by, but no more than, 1" does not
hold.

Shutdown does not wait for the counter's users: SIGTERM's `sem_destroy` can run while the main
loop sleeps in `sem_wait` and a request is still in the camera, whose completion then posts to
the destroyed counter (`shutdown_destroys_counter_in_use`).
-/

namespace HandMotionCapture.Pipeline

/-- The invariant of the frame queue and its counter. -/
structure CounterInv (s : Node) : Prop where
  /-- What the main loop took, then what is queued, is what the queue accepted. -/
  fifo : s.encoded ++ s.frameQueue = s.enqueued
  /-- Each queued buffer has a post, made or about to be made, that no `sem_wait` consumed. -/
  lag : s.frameQueue.length ≤ s.queueCounter + s.completion.pending + s.main.taken

theorem counterInv_init : CounterInv Node.init := ⟨rfl, Nat.zero_le _⟩

/-- Every step keeps `CounterInv`. -/
theorem counterInv_step {N : ℕ} {s s' : Node} {a : Action} (hi : CounterInv s)
    (h : step N s a = some s') : CounterInv s' := by
  obtain ⟨hfifo, hlag⟩ := hi
  cases a with
  | sigusr1 =>
    obtain ⟨-, ⟨-, rfl⟩ | ⟨-, -, rfl⟩ | ⟨-, -, rfl⟩⟩ := step_sigusr1 h <;> exact ⟨hfifo, hlag⟩
  | queueRequest _ =>
    obtain ⟨-, ⟨-, rfl⟩ | ⟨-, rfl⟩⟩ := step_queueRequest h <;> exact ⟨hfifo, hlag⟩
  | complete =>
    obtain ⟨r, rest, hc, -, rfl⟩ := step_complete h
    refine ⟨by rw [enqueue_eq, ← List.append_assoc, hfifo], ?_⟩
    simp only [enqueue_eq, hc, Completion.pending] at hlag ⊢
    split_ifs <;> simp <;> omega
  | post =>
    obtain ⟨r, hc, rfl⟩ := step_post h
    simp only [hc, Completion.pending] at hlag
    exact ⟨hfifo, by simp only [Completion.pending]; omega⟩
  | reuse =>
    obtain ⟨r, hc, rfl⟩ := step_reuse h
    simp only [hc, Completion.pending] at hlag
    exact ⟨hfifo, by simp only [Completion.pending]; omega⟩
  | loopTop =>
    obtain ⟨hm, rfl⟩ := step_loopTop h
    simp only [hm, MainPc.taken] at hlag
    exact ⟨hfifo, by split <;> simpa [MainPc.taken] using hlag⟩
  | semWait =>
    obtain ⟨hm, hpos, rfl⟩ := step_semWait h
    simp only [hm, MainPc.taken] at hlag
    exact ⟨hfifo, by simp only [MainPc.taken]; omega⟩
  | semWaitIntr =>
    obtain ⟨hm, -, rfl⟩ := step_semWaitIntr h
    simp only [hm, MainPc.taken] at hlag
    exact ⟨hfifo, by simpa [MainPc.taken] using hlag⟩
  | dequeue =>
    obtain ⟨d, hm, ⟨b, rest, hq, rfl⟩ | ⟨hq, rfl⟩⟩ := step_dequeue h
    · refine ⟨by rw [← hfifo, hq]; simp, ?_⟩
      simp only [hm, hq, List.length_cons] at hlag
      cases d <;> simp only [MainPc.taken] at hlag ⊢ <;> omega
    · exact ⟨hfifo, by simp [hq]⟩
  | encodeDone =>
    obtain ⟨b, hm, rfl⟩ := step_encodeDone h
    simp only [hm, MainPc.taken] at hlag
    exact ⟨hfifo, by simpa [MainPc.taken] using hlag⟩
  | shutdown =>
    rw [step_shutdown h]
    exact ⟨hfifo, hlag⟩

theorem reachable_counterInv {N : ℕ} {s : Node} (h : Reachable N s) : CounterInv s := by
  induction h with
  | init => exact counterInv_init
  | step _ _ hs ih => exact counterInv_step ih hs

/-- **FIFO and no stranded frame.** In every reachable state the buffers passed to
`encode_frame`, followed by the frame queue's contents, are exactly the buffers the queue
accepted, in order; and whenever the main loop is in `sem_wait` while no `request_complete` is
between its enqueue and its `sem_post`, the counter is at least the number of queued buffers. -/
theorem reachable_fifo_no_stranded_frame {N : ℕ} {s : Node} (h : Reachable N s) :
    s.encoded ++ s.frameQueue = s.enqueued ∧
      (s.main = .wait → (∀ r, s.completion ≠ .enqueued r) →
        s.frameQueue.length ≤ s.queueCounter) := by
  obtain ⟨hfifo, hlag⟩ := reachable_counterInv h
  refine ⟨hfifo, fun hm hc => ?_⟩
  have hp : s.completion.pending = 0 := by
    cases hs : s.completion with
    | enqueued r => exact absurd hs (hc r)
    | _ => rfl
  simpa [hm, hp, MainPc.taken] using hlag

/-- After one capture: buffer `0` queued with its post made, and the main loop in `sem_wait`. -/
def oneQueued : Node := ⟨1, [], .idle, [0], 1, false, true, .wait, .idle, [0], [], 1⟩

theorem reachable_fifo_no_stranded_frame_oneQueued :
    Reachable 3 oneQueued ∧
      (oneQueued.encoded ++ oneQueued.frameQueue = oneQueued.enqueued ∧
        (oneQueued.main = .wait → (∀ r, oneQueued.completion ≠ .enqueued r) →
          oneQueued.frameQueue.length ≤ oneQueued.queueCounter)) :=
  have h : Reachable 3 oneQueued :=
    reachable_of_run [.sigusr1, .queueRequest true, .complete, .post, .reuse, .loopTop] .init rfl
  ⟨h, reachable_fifo_no_stranded_frame h⟩

/-- Three triggers with the camera completing each request: the first two completions run to
the end, the main loop then takes one post, and the third completion stops after its enqueue. -/
def lagTrace : List Action :=
  [.sigusr1, .queueRequest true, .complete, .post, .reuse,
   .sigusr1, .queueRequest true, .complete, .post, .reuse,
   .loopTop, .semWait,
   .sigusr1, .queueRequest true, .complete]

/-- The state `lagTrace` ends in with three buffers: all three queued, the counter at `1`. -/
def lagState : Node :=
  ⟨0, [], .enqueued 2, [0, 1, 2], 1, false, true, .dequeue true, .idle, [0, 1, 2], [], 3⟩

/-- **The counter lags the queue by at most two.** In every reachable state
`queue.size ≤ queue_counter + 2`, and the lag exceeds one only while `request_complete` is
between its enqueue and its `sem_post` and the main loop is between a decrementing `sem_wait`
and its dequeue. -/
theorem reachable_counter_lag_le {N : ℕ} {s : Node} (h : Reachable N s) :
    s.frameQueue.length ≤ s.queueCounter + s.completion.pending + s.main.taken ∧
      s.completion.pending + s.main.taken ≤ 2 := by
  refine ⟨(reachable_counterInv h).lag, ?_⟩
  have h₁ : s.completion.pending ≤ 1 := by cases s.completion <;> simp [Completion.pending]
  have h₂ : s.main.taken ≤ 1 := by
    rcases s.main with _ | _ | (_ | _) | _ | _ <;> simp [MainPc.taken]
  omega

theorem reachable_counter_lag_le_lagState :
    Reachable 3 lagState ∧
      (lagState.frameQueue.length ≤
          lagState.queueCounter + lagState.completion.pending + lagState.main.taken ∧
        lagState.completion.pending + lagState.main.taken ≤ 2) :=
  have h : Reachable 3 lagState := reachable_of_run lagTrace .init rfl
  ⟨h, reachable_counter_lag_le h⟩

/-! ### The counter leaves the band `[queue.size - 1, queue.size]` -/

/-- The main loop sleeps in `sem_wait`, a trigger's request completes up to its enqueue, a
handler interrupts `sem_wait`, the main loop dequeues the buffer, and then the post comes. -/
def leadTrace : List Action :=
  [.loopTop, .sigusr1, .queueRequest true, .complete, .semWaitIntr, .dequeue, .post]

/-- With three buffers, the node reaches a state where `queue_counter` is `1` with three
buffers queued (lag two), and one where it is `1` with the queue empty (lead one). -/
theorem counter_lag_two_and_lead_reachable :
    Reachable 3 ⟨0, [], .enqueued 2, [0, 1, 2], 1, false, true, .dequeue true, .idle,
        [0, 1, 2], [], 3⟩ ∧
      Reachable 3 ⟨1, [], .posted 0, [], 1, false, true, .encode 0, .idle, [0], [0], 1⟩ :=
  ⟨reachable_of_run lagTrace .init rfl, reachable_of_run leadTrace .init rfl⟩

/-! ### Destroying the counter -/

/-- Whether the action, taken in `s`, operates on `queue_counter`: `sem_getvalue` in a SIGUSR1
handler that found `running` set, `sem_post`, `sem_wait` (returning either way) and
`sem_destroy`. -/
def touchesCounter (s : Node) : Action → Bool
  | .sigusr1 => s.running
  | .post | .semWait | .semWaitIntr | .shutdown => true
  | _ => false

/-- The main loop sleeps in `sem_wait`. -/
def Node.blockedInWait (s : Node) : Bool := s.main = .wait && s.queueCounter = 0

/-- **Shutdown destroys the counter under its users.** With three buffers the node reaches a
state where the main loop sleeps in `sem_wait` while the camera holds a request; SIGTERM there
runs `sem_destroy`, and the camera then completes the request, so that `request_complete`'s
`sem_post` is the next step on the destroyed counter. -/
theorem shutdown_destroys_counter_in_use :
    Reachable 3 ⟨1, [0], .idle, [], 0, false, true, .wait, .idle, [], [], 1⟩ ∧
      Node.blockedInWait ⟨1, [0], .idle, [], 0, false, true, .wait, .idle, [], [], 1⟩ = true ∧
      step 3 ⟨1, [0], .idle, [], 0, false, true, .wait, .idle, [], [], 1⟩ .shutdown =
        some ⟨1, [0], .idle, [], 0, true, false, .wait, .idle, [], [], 1⟩ ∧
      Reachable 3 ⟨1, [], .enqueued 0, [0], 0, true, false, .wait, .idle, [0], [], 1⟩ ∧
      touchesCounter ⟨1, [], .enqueued 0, [0], 0, true, false, .wait, .idle, [0], [], 1⟩ .post ∧
      step 3 ⟨1, [], .enqueued 0, [0], 0, true, false, .wait, .idle, [0], [], 1⟩ .post =
        some ⟨1, [], .posted 0, [0], 1, true, false, .wait, .idle, [0], [], 1⟩ :=
  ⟨reachable_of_run [.loopTop, .sigusr1, .queueRequest true] .init rfl, rfl, rfl,
    reachable_of_run [.loopTop, .sigusr1, .queueRequest true, .shutdown, .complete] .init rfl,
    rfl, rfl⟩

end HandMotionCapture.Pipeline
