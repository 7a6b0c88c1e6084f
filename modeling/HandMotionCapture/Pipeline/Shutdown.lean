import HandMotionCapture.Pipeline

/-!
# What runs after SIGINT or SIGTERM

`capture_signal_handler` clears `running` on SIGINT and SIGTERM. Both of its readers test it
before they act: the SIGUSR1 branch (`signo == SIGUSR1 && running`) before `queue_request`, and
the main loop at `while (running)`. Neither waits for what is already under way, so after the
flag is cleared the node still finishes a SIGUSR1 handler that passed its test and the loop
iteration the main thread is in. It does nothing more: along every run from a state with
`running` cleared, at most that one request is submitted, at most that one frame is encoded, and
a main loop back at its top leaves it only to exit (`shutdown_quiesces`), whatever the camera's
completions do meanwhile.

The proof is a pair of potentials that no step raises once `running` is clear
(`shutdown_step`): the requests submitted plus the one a handler past its test may still submit,
and the frames encoded plus the one the main loop may still take in its iteration.
-/

namespace HandMotionCapture.Pipeline

/-- The requests a SIGUSR1 handler may still submit: one once its test has passed. -/
def Handler.pendingSubmit : Handler → ℕ
  | .submitting => 1
  | .idle | .threw => 0

/-- The frames the main loop may still hand to `encode_frame` before it next tests `running`:
one while it waits in `sem_wait` or is about to dequeue. -/
def MainPc.pendingEncode : MainPc → ℕ
  | .wait | .dequeue _ => 1
  | _ => 0

/-- The requests submitted, counting the one a handler past its test will submit. -/
def submitBudget (s : Node) : ℕ := s.submitted + s.handler.pendingSubmit

/-- The frames encoded, counting the one the main loop's iteration may still encode. -/
def encodeBudget (s : Node) : ℕ := s.encoded.length + s.main.pendingEncode

/-- **Step lemma.** Once `running` is clear, no step sets it again or raises either budget: a
trigger is ignored, a submission uses up the handler's pending one, and the main loop leaves its
loop top only to exit. -/
theorem shutdown_step {N : ℕ} {s s' : Node} {a : Action} (hr : s.running = false)
    (h : step N s a = some s') :
    s'.running = false ∧ submitBudget s' ≤ submitBudget s ∧ encodeBudget s' ≤ encodeBudget s := by
  cases a with
  | sigusr1 =>
    obtain ⟨-, ⟨-, rfl⟩ | ⟨hr', -⟩ | ⟨hr', -⟩⟩ := step_sigusr1 h
    · exact ⟨hr, le_rfl, le_rfl⟩
    all_goals simp [hr] at hr'
  | queueRequest _ =>
    obtain ⟨hs, ⟨-, rfl⟩ | ⟨-, rfl⟩⟩ := step_queueRequest h <;>
      simp [submitBudget, encodeBudget, hs, hr, Handler.pendingSubmit]
  | complete => obtain ⟨r, rest, -, -, rfl⟩ := step_complete h; exact ⟨hr, le_rfl, le_rfl⟩
  | post => obtain ⟨r, -, rfl⟩ := step_post h; exact ⟨hr, le_rfl, le_rfl⟩
  | reuse => obtain ⟨r, -, rfl⟩ := step_reuse h; exact ⟨hr, le_rfl, le_rfl⟩
  | loopTop =>
    obtain ⟨hm, rfl⟩ := step_loopTop h
    simp [submitBudget, encodeBudget, hm, hr, MainPc.pendingEncode]
  | semWait =>
    obtain ⟨hm, -, rfl⟩ := step_semWait h
    simp [submitBudget, encodeBudget, hm, hr, MainPc.pendingEncode]
  | semWaitIntr =>
    obtain ⟨hm, -, rfl⟩ := step_semWaitIntr h
    simp [submitBudget, encodeBudget, hm, hr, MainPc.pendingEncode]
  | dequeue =>
    obtain ⟨d, hm, ⟨b, rest, -, rfl⟩ | ⟨-, rfl⟩⟩ := step_dequeue h <;>
      simp [submitBudget, encodeBudget, hm, hr, MainPc.pendingEncode]
  | encodeDone =>
    obtain ⟨b, hm, rfl⟩ := step_encodeDone h
    simp [submitBudget, encodeBudget, hm, hr, MainPc.pendingEncode]
  | shutdown => rw [step_shutdown h]; exact ⟨rfl, le_rfl, le_rfl⟩

/-- Once `running` is clear, a main loop at its top or out of the loop stays there: `loopTop`
exits, and no other step of the main loop starts from either place. -/
theorem shutdown_step_main {N : ℕ} {s s' : Node} {a : Action} (hr : s.running = false)
    (hm : s.main = .top ∨ s.main = .exited) (h : step N s a = some s') :
    s'.main = .top ∨ s'.main = .exited := by
  cases a with
  | sigusr1 =>
    obtain ⟨-, ⟨-, rfl⟩ | ⟨-, -, rfl⟩ | ⟨-, -, rfl⟩⟩ := step_sigusr1 h <;> exact hm
  | queueRequest _ => obtain ⟨-, ⟨-, rfl⟩ | ⟨-, rfl⟩⟩ := step_queueRequest h <;> exact hm
  | complete => obtain ⟨r, rest, -, -, rfl⟩ := step_complete h; exact hm
  | post => obtain ⟨r, -, rfl⟩ := step_post h; exact hm
  | reuse => obtain ⟨r, -, rfl⟩ := step_reuse h; exact hm
  | loopTop => obtain ⟨-, rfl⟩ := step_loopTop h; simp [hr]
  | semWait => obtain ⟨hw, -, -⟩ := step_semWait h; simp [hw] at hm
  | semWaitIntr => obtain ⟨hw, -, -⟩ := step_semWaitIntr h; simp [hw] at hm
  | dequeue => obtain ⟨d, hd, -⟩ := step_dequeue h; simp [hd] at hm
  | encodeDone => obtain ⟨b, hb, -⟩ := step_encodeDone h; simp [hb] at hm
  | shutdown => rw [step_shutdown h]; exact hm

/-- **Run lemma.** Along a run from a state with `running` clear, neither budget grows, and a
main loop at its top or out of the loop stays there. -/
theorem shutdown_run {N : ℕ} : ∀ (as : List Action) {s s' : Node}, s.running = false →
    run N s as = some s' →
    submitBudget s' ≤ submitBudget s ∧ encodeBudget s' ≤ encodeBudget s ∧
      (s.main = .top ∨ s.main = .exited → s'.main = .top ∨ s'.main = .exited)
  | [], _, _, _, h => by cases h; exact ⟨le_rfl, le_rfl, id⟩
  | a :: as, s, s', hr, h => by
    simp only [run, Option.bind_eq_some] at h
    obtain ⟨t, ht, hrun⟩ := h
    obtain ⟨hr', hsub, henc⟩ := shutdown_step hr ht
    obtain ⟨hsub', henc', hmain⟩ := shutdown_run as hr' hrun
    exact ⟨Nat.le_trans hsub' hsub, Nat.le_trans henc' henc,
      fun hm => hmain (shutdown_step_main hr hm ht)⟩

end HandMotionCapture.Pipeline
