import HandMotionCapture.Pipeline.Counter
import Mathlib.Data.List.Range
import Mathlib.Data.List.Nodup

/-!
# Ownership of the DMA buffers

A buffer is in use while the camera holds its request, while it sits in the frame queue, or while
the main loop encodes it. `inUse` lists these buffers in the order they will be released: the one
being encoded, the frame queue, the camera's requests. Requests are submitted round robin and
every stage is FIFO, so the buffers in use are always the last `k` submitted, consecutive modulo
`N` (`OwnershipInv.window`); a buffer has at most one role exactly when `k ≤ N`.

`queue_request` checks `queue_counter ≤ N - 2` only, "to ensure at least one is available even
if the counter is behind by 1". That bounds what is queued and encoded, not what the camera
still holds, and the counter lags the queue by two while `request_complete` sits between its
enqueue and its `sem_post` (`counter_lag_two_and_lead_reachable`). So the check lets a request go
out while its buffer heads the frame queue (`buffer_roles_overlap_reachable`). On the runs whose
triggers come once the previous capture is delivered (`PacedReachable`), no buffer has two roles
and every submission goes to a free buffer whose request has been re-armed
(`paced_buffer_roles_exclusive`).

Here the camera's ownership of a buffer ends when `request_complete` enqueues it: from then to
`request->reuse` the request only waits to be re-armed.
-/

namespace HandMotionCapture.Pipeline

/-! ### Roles -/

/-- The buffer the main loop is encoding, as a list of at most one. -/
def MainPc.encoding : MainPc → List ℕ
  | .encode b => [b]
  | _ => []

/-- The request `request_complete` is working on. -/
def Completion.request : Completion → Option ℕ
  | .enqueued r | .posted r => some r
  | .idle => none

/-- The buffers in use, oldest first: being encoded, then queued, then held by the camera. -/
def inUse (s : Node) : List ℕ := s.main.encoding ++ s.frameQueue ++ s.camera

theorem MainPc.encoding_length_add_taken (m : MainPc) : m.encoding.length + m.taken ≤ 1 := by
  rcases m with _ | _ | (_ | _) | _ | _ <;> simp [MainPc.encoding, MainPc.taken]

/-- A trigger the design's cadence allows: it comes when the camera holds no request and no
`request_complete` is between its enqueue and its `sem_post`. Other steps come at any time. -/
def Paced (s : Node) : Action → Prop
  | .sigusr1 => s.camera = [] ∧ s.completion.pending = 0
  | _ => True

/-- The states reached by runs whose triggers keep the cadence. -/
inductive PacedReachable (N : ℕ) : Node → Prop
  | init : PacedReachable N Node.init
  | step {s s' : Node} (a : Action) :
      PacedReachable N s → Paced s a → step N s a = some s' → PacedReachable N s'

/-- A run with no trigger keeps the cadence. -/
theorem PacedReachable.of_run {N : ℕ} : ∀ (as : List Action) {s s' : Node},
    PacedReachable N s → Action.sigusr1 ∉ as → run N s as = some s' → PacedReachable N s'
  | [], _, _, hs, _, h => by cases h; exact hs
  | a :: as, s, s', hs, ha, h => by
    simp only [run, Option.bind_eq_some] at h
    obtain ⟨t, ht, hrun⟩ := h
    rw [List.mem_cons, not_or] at ha
    have hp : Paced s a := by cases a <;> first | exact absurd rfl ha.1 | trivial
    exact PacedReachable.of_run as (.step a hs hp ht) ha.2 hrun

theorem PacedReachable.reachable {N : ℕ} {s : Node} (h : PacedReachable N s) :
    Reachable N s := by
  induction h with
  | init => exact .init
  | step a _ _ hs ih => exact .step a ih hs

/-! ### Windows of consecutive residues -/

/-- `n ≤ N` consecutive numbers are distinct modulo `N`. -/
theorem nodup_map_mod_range' {N a n : ℕ} (h : n ≤ N) :
    ((List.range' a n).map (· % N)).Nodup := by
  refine List.Nodup.map_on (fun x hx y hy hxy => ?_) (List.nodup_range' a n)
  rw [List.mem_range'_1] at hx hy
  rcases Nat.le_total x y with hle | hle
  · have h₁ := Nat.sub_mod_eq_zero_of_mod_eq hxy.symm
    rw [Nat.mod_eq_of_lt (by omega)] at h₁
    omega
  · have h₁ := Nat.sub_mod_eq_zero_of_mod_eq hxy
    rw [Nat.mod_eq_of_lt (by omega)] at h₁
    omega

theorem map_mod_range'_succ (N a n : ℕ) :
    (List.range' a (n + 1)).map (· % N) = (List.range' a n).map (· % N) ++ [(a + n) % N] := by
  simp [List.range'_1_concat]

theorem map_mod_range'_cons (N a n : ℕ) :
    (List.range' a (n + 1)).map (· % N) = a % N :: (List.range' (a + 1) n).map (· % N) := by
  simp [List.range'_succ]

/-- A window of the last `k` submissions grows by the next submission. -/
theorem window_append {N sub : ℕ} {l : List ℕ}
    (hw : l = (List.range' (sub - l.length) l.length).map (· % N)) (hle : l.length ≤ sub) :
    l ++ [sub % N] =
      (List.range' (sub + 1 - (l ++ [sub % N]).length) (l ++ [sub % N]).length).map (· % N) := by
  simp only [List.length_append, List.length_singleton, map_mod_range'_succ]
  rw [show sub + 1 - (l.length + 1) = sub - l.length by omega,
    show sub - l.length + l.length = sub by omega, ← hw]

/-- A window of the last `k` submissions shrinks by its oldest element. -/
theorem window_tail {N sub b : ℕ} {l : List ℕ}
    (hw : b :: l = (List.range' (sub - (b :: l).length) (b :: l).length).map (· % N))
    (hle : (b :: l).length ≤ sub) :
    l = (List.range' (sub - l.length) l.length).map (· % N) := by
  simp only [List.length_cons, map_mod_range'_cons, List.cons.injEq] at hw hle
  rw [show sub - l.length = sub - (l.length + 1) + 1 by omega]
  exact hw.2

/-! ### The invariant -/

/-- The invariant of the paced runs. -/
structure OwnershipInv (N : ℕ) (s : Node) : Prop where
  /-- The buffers in use are the last ones submitted, consecutive modulo `N`. -/
  window : inUse s =
    (List.range' (s.submitted - (inUse s).length) (inUse s).length).map (· % N)
  length_le_submitted : (inUse s).length ≤ s.submitted
  next_eq : s.nextReqIdx = s.submitted % N
  length_le : (inUse s).length ≤ N
  camera_length : s.camera.length ≤ 1
  /-- A handler past its check found the camera idle and room for one more buffer. -/
  submitting : s.handler = .submitting →
    s.camera = [] ∧ (inUse s).length < N ∧ s.completion.pending = 0 ∧ 2 ≤ N
  /-- The request `request_complete` holds came just before the camera's. -/
  held : ∀ r, s.completion.request = some r →
    r = (s.submitted - 1 - s.camera.length) % N ∧ s.camera.length + 1 ≤ s.submitted

theorem ownershipInv_init (N : ℕ) : OwnershipInv N Node.init :=
  ⟨rfl, le_rfl, (by simp [Node.init]), Nat.zero_le _, (by simp [Node.init]),
    (fun h => by cases h), (fun r h => by cases h)⟩

/-- **Frame lemma.** A step that moves no buffer between the window and the outside, submits
nothing and starts no check keeps the invariant. -/
theorem OwnershipInv.of_eq {N : ℕ} {s s' : Node} (hi : OwnershipInv N s)
    (hu : inUse s' = inUse s) (hsub : s'.submitted = s.submitted)
    (hnext : s'.nextReqIdx = s.nextReqIdx) (hcam : s'.camera = s.camera)
    (hh : s'.handler = .submitting → s.handler = .submitting ∧ s'.completion.pending = 0)
    (hreq : ∀ r, s'.completion.request = some r → s.completion.request = some r) :
    OwnershipInv N s' where
  window := by rw [hu, hsub]; exact hi.window
  length_le_submitted := by rw [hu, hsub]; exact hi.length_le_submitted
  next_eq := by rw [hnext, hsub]; exact hi.next_eq
  length_le := hu ▸ hi.length_le
  camera_length := hcam ▸ hi.camera_length
  submitting h := by
    obtain ⟨h₁, h₂⟩ := hh h
    obtain ⟨h₃, h₄, -, h₅⟩ := hi.submitting h₁
    exact ⟨hcam ▸ h₃, hu ▸ h₄, h₂, h₅⟩
  held r h := by rw [hcam, hsub]; exact hi.held r (hreq r h)

/-- A trigger that keeps the cadence and passes the check leaves room for one more buffer: the
counter bounds what is queued, and the main loop holds at most one more. -/
theorem inUse_length_lt_of_check {N : ℕ} {s : Node} (hc : CounterInv s)
    (hp : s.camera = [] ∧ s.completion.pending = 0)
    (hcheck : ¬ (s.queueCounter : ℤ) > (N : ℤ) - 2) : (inUse s).length < N ∧ 2 ≤ N := by
  have hlag := hc.lag
  have hm := s.main.encoding_length_add_taken
  simp only [inUse, List.length_append, hp.1, hp.2, List.length_nil] at hlag ⊢
  omega

/-- The last buffer in use is the last one submitted. -/
theorem OwnershipInv.eq_of_inUse_eq_append {N : ℕ} {s : Node} (hi : OwnershipInv N s)
    {l : List ℕ} {r : ℕ} (h : inUse s = l ++ [r]) : r = (s.submitted - 1) % N := by
  have hw := hi.window
  have hsub := hi.length_le_submitted
  obtain ⟨k, hk⟩ : ∃ k, (inUse s).length = k + 1 := ⟨l.length, by simp [h]⟩
  rw [hk, map_mod_range'_succ, h] at hw
  have := (List.append_inj' hw rfl).2
  simp only [List.cons.injEq, and_true] at this
  rw [this]
  congr 1
  omega

/-- `camera_->queueRequest` accepting the request at the cursor adds the next buffer to the
window. -/
theorem OwnershipInv.submit {N : ℕ} {s : Node} (hi : OwnershipInv N s)
    (hs : s.handler = .submitting) :
    OwnershipInv N { s with handler := .idle, camera := s.camera ++ [s.nextReqIdx],
                            nextReqIdx := (s.nextReqIdx + 1) % N,
                            submitted := s.submitted + 1 } := by
  obtain ⟨hcam, hlt, -, hN⟩ := hi.submitting hs
  have hsub := hi.length_le_submitted
  have hu : inUse { s with handler := .idle, camera := s.camera ++ [s.nextReqIdx],
                           nextReqIdx := (s.nextReqIdx + 1) % N,
                           submitted := s.submitted + 1 } =
      inUse s ++ [s.submitted % N] := by simp [inUse, hi.next_eq]
  refine ⟨?_, ?_, ?_, ?_, ?_, (fun h => by cases h), fun r hr => ?_⟩ <;> dsimp only
  · rw [hu]
    exact window_append hi.window hsub
  · rw [hu, List.length_append, List.length_singleton]
    omega
  · rw [hi.next_eq, Nat.mod_add_mod]
  · rw [hu, List.length_append, List.length_singleton]
    omega
  · simp [hcam]
  · obtain ⟨hr₁, hr₂⟩ := hi.held r hr
    simp only [hcam, List.nil_append, List.length_singleton, List.length_nil] at hr₁ hr₂ ⊢
    exact ⟨by rw [hr₁]; congr 1, by omega⟩

/-- While the camera holds a request, the frame queue has room for its buffer. -/
theorem OwnershipInv.frameQueue_length_lt {N : ℕ} {s : Node} (hi : OwnershipInv N s)
    (hcam : s.camera ≠ []) : s.frameQueue.length < N := by
  have hlen := hi.length_le
  have hpos := List.length_pos.mpr hcam
  simp only [inUse, List.length_append] at hlen
  omega

/-- `request_complete` on the camera's one request moves its buffer into the frame queue, where
it stays in the window. -/
theorem OwnershipInv.complete {N : ℕ} {s : Node} {r : ℕ} {rest : List ℕ}
    (hi : OwnershipInv N s) (hcam : s.camera = r :: rest) :
    OwnershipInv N { s with camera := rest, completion := .enqueued r,
                            frameQueue := enqueue N s.frameQueue r,
                            enqueued := s.enqueued ++
                              (if s.frameQueue.length < N then [r] else []) } := by
  have hrest : rest = [] := by
    have := hi.camera_length
    rw [hcam] at this
    exact List.eq_nil_of_length_eq_zero (by simpa using this)
  subst hrest
  have hfq := hi.frameQueue_length_lt (by simp [hcam])
  have hu : inUse s = s.main.encoding ++ s.frameQueue ++ [r] := by simp [inUse, hcam]
  have hr := hi.eq_of_inUse_eq_append hu
  have hpos := hi.length_le_submitted
  simp only [hu, List.length_append, List.length_singleton] at hpos
  refine ⟨?_, ?_, ?_, ?_, ?_, fun h => ?_, fun r' h' => ?_⟩
  · simpa [inUse, enqueue_eq, hfq, hcam] using hi.window
  · simpa [inUse, enqueue_eq, hfq, hcam] using hi.length_le_submitted
  · exact hi.next_eq
  · simpa [inUse, enqueue_eq, hfq, hcam] using hi.length_le
  · simp
  · have := (hi.submitting h).1
    rw [hcam] at this
    cases this
  · simp only [Completion.request, Option.some.injEq] at h'
    subst h'
    exact ⟨by simpa using hr, by simp; omega⟩

/-- `encode_frame` returning releases the main loop's buffer, the oldest of the window. -/
theorem OwnershipInv.encodeDone {N : ℕ} {s : Node} {b : ℕ} (hi : OwnershipInv N s)
    (hm : s.main = .encode b) : OwnershipInv N { s with main := .top } := by
  have hu : inUse s = b :: inUse { s with main := .top } := by
    simp [inUse, hm, MainPc.encoding]
  have hw := hi.window
  have hsub := hi.length_le_submitted
  have hlen := hi.length_le
  rw [hu] at hw hsub hlen
  simp only [List.length_cons] at hsub hlen
  refine ⟨?_, ?_, hi.next_eq, ?_, hi.camera_length, fun h => ?_, hi.held⟩
  · exact window_tail hw (by simpa using hsub)
  · dsimp only; omega
  · omega
  · obtain ⟨h₁, h₂, h₃, h₄⟩ := hi.submitting h
    rw [hu, List.length_cons] at h₂
    exact ⟨h₁, by omega, h₃, h₄⟩

/-- **Step lemma.** Every step of a paced run keeps `OwnershipInv`. -/
theorem ownershipInv_step {N : ℕ} {s s' : Node} {a : Action} (hi : OwnershipInv N s)
    (hc : CounterInv s) (hp : Paced s a) (h : step N s a = some s') : OwnershipInv N s' := by
  have hkeep : s.handler = .submitting → s.handler = .submitting ∧ s.completion.pending = 0 :=
    fun h => ⟨h, (hi.submitting h).2.2.1⟩
  cases a with
  | sigusr1 =>
    obtain ⟨-, ⟨-, rfl⟩ | ⟨-, -, rfl⟩ | ⟨-, hcheck, rfl⟩⟩ := step_sigusr1 h
    · exact hi
    · exact hi.of_eq rfl rfl rfl rfl (fun h => by cases h) (fun _ h => h)
    · obtain ⟨hlt, hN⟩ := inUse_length_lt_of_check hc hp hcheck
      exact ⟨hi.window, hi.length_le_submitted, hi.next_eq, hi.length_le, hi.camera_length,
        fun _ => ⟨hp.1, hlt, hp.2, hN⟩, hi.held⟩
  | queueRequest _ =>
    obtain ⟨hs, ⟨-, rfl⟩ | ⟨-, rfl⟩⟩ := step_queueRequest h
    · exact hi.submit hs
    · exact hi.of_eq rfl rfl rfl rfl (fun h => by cases h) (fun _ h => h)
  | complete =>
    obtain ⟨r, rest, -, hcam, rfl⟩ := step_complete h
    exact hi.complete hcam
  | post =>
    obtain ⟨r, hcomp, rfl⟩ := step_post h
    exact hi.of_eq rfl rfl rfl rfl (fun h => ⟨h, rfl⟩)
      (fun r' h' => by simpa [Completion.request, hcomp] using h')
  | reuse =>
    obtain ⟨r, -, rfl⟩ := step_reuse h
    exact hi.of_eq rfl rfl rfl rfl (fun h => ⟨h, rfl⟩)
      (fun r' h' => by simp [Completion.request] at h')
  | loopTop =>
    obtain ⟨hm, rfl⟩ := step_loopTop h
    exact hi.of_eq (by split <;> simp [inUse, hm, MainPc.encoding]) rfl rfl rfl hkeep
      (fun _ h => h)
  | semWait =>
    obtain ⟨hm, -, rfl⟩ := step_semWait h
    exact hi.of_eq (by simp [inUse, hm, MainPc.encoding]) rfl rfl rfl hkeep (fun _ h => h)
  | semWaitIntr =>
    obtain ⟨hm, -, rfl⟩ := step_semWaitIntr h
    exact hi.of_eq (by simp [inUse, hm, MainPc.encoding]) rfl rfl rfl hkeep (fun _ h => h)
  | dequeue =>
    obtain ⟨d, hm, ⟨b, rest, hq, rfl⟩ | ⟨hq, rfl⟩⟩ := step_dequeue h <;>
      exact hi.of_eq (by simp [inUse, hm, hq, MainPc.encoding]) rfl rfl rfl hkeep (fun _ h => h)
  | encodeDone =>
    obtain ⟨b, hm, rfl⟩ := step_encodeDone h
    exact hi.encodeDone hm
  | shutdown =>
    rw [step_shutdown h]
    exact hi.of_eq rfl rfl rfl rfl hkeep (fun _ h => h)

theorem pacedReachable_ownershipInv {N : ℕ} {s : Node} (h : PacedReachable N s) :
    OwnershipInv N s := by
  induction h with
  | init => exact ownershipInv_init N
  | step a hr hp hs ih => exact ownershipInv_step ih (reachable_counterInv hr.reachable) hp hs

/-- Two consecutive submissions go to different requests of a ring of two or more. -/
theorem mod_ne_sub_one_mod {N k : ℕ} (hN : 2 ≤ N) (hk : 1 ≤ k) : k % N ≠ (k - 1) % N := by
  intro h
  have h₁ := Nat.sub_mod_eq_zero_of_mod_eq h
  rw [show k - (k - 1) = 1 by omega, Nat.mod_eq_of_lt (by omega)] at h₁
  omega

/-! ### Exclusive roles on the paced runs -/

/-- **No buffer has two roles.** In every state of a run whose triggers keep the cadence, the
buffers being encoded, queued and held by the camera are pairwise distinct, so each buffer has
at most one of these roles and sits in the frame queue at most once; and a SIGUSR1 handler
past its check is about to submit a request whose buffer has no role and which
`request_complete` no longer holds, being re-armed by `reuse`. -/
theorem paced_buffer_roles_exclusive {N : ℕ} {s : Node} (h : PacedReachable N s) :
    (inUse s).Nodup ∧
      (s.handler = .submitting →
        s.nextReqIdx ∉ inUse s ∧ s.completion.request ≠ some s.nextReqIdx) := by
  have hi := pacedReachable_ownershipInv h
  refine ⟨by rw [hi.window]; exact nodup_map_mod_range' hi.length_le, fun hsub => ?_⟩
  obtain ⟨hcam, hlt, -, hN⟩ := hi.submitting hsub
  rw [hi.next_eq]
  refine ⟨fun hmem => ?_, fun hreq => ?_⟩
  · have hnd := nodup_map_mod_range' (N := N)
      (a := s.submitted + 1 - (inUse s ++ [s.submitted % N]).length)
      (n := (inUse s ++ [s.submitted % N]).length) (by simp; omega)
    rw [← window_append hi.window hi.length_le_submitted] at hnd
    exact (List.nodup_append.mp hnd).2.2 hmem (List.mem_singleton_self _)
  · obtain ⟨hr, hpos⟩ := hi.held _ hreq
    simp only [hcam, List.length_nil, Nat.sub_zero, Nat.zero_add] at hr hpos
    exact mod_ne_sub_one_mod hN hpos hr

/-- Two captures queued, the main loop past a `sem_wait`, and a third trigger past its check:
`lagTrace` up to its third trigger. -/
def thirdTrigger : Node :=
  ⟨2, [], .idle, [0, 1], 1, false, true, .dequeue true, .submitting, [0, 1], [], 2⟩

theorem paced_buffer_roles_exclusive_thirdTrigger :
    PacedReachable 3 thirdTrigger ∧
      ((inUse thirdTrigger).Nodup ∧
        (thirdTrigger.handler = .submitting →
          thirdTrigger.nextReqIdx ∉ inUse thirdTrigger ∧
            thirdTrigger.completion.request ≠ some thirdTrigger.nextReqIdx)) :=
  have h : PacedReachable 3 thirdTrigger :=
    .step .sigusr1 (.of_run [.queueRequest true, .complete, .post, .reuse, .loopTop, .semWait]
      (.step .sigusr1 (.of_run [.queueRequest true, .complete, .post, .reuse]
        (.step .sigusr1 .init ⟨rfl, rfl⟩ rfl) (by decide) rfl) ⟨rfl, rfl⟩ rfl) (by decide) rfl)
      ⟨rfl, rfl⟩ rfl
  ⟨h, paced_buffer_roles_exclusive h⟩

/-! ### Without the cadence -/

/-- **The check lets a queued buffer go back to the camera.** With three buffers: after one
capture, `request_complete` has enqueued buffer `0` and not yet re-armed its request; and after
the counter fell two behind the queue (`lagTrace`), a fourth trigger passes the check
`queue_counter = 1 ≤ N - 2` with the cursor at `0` while buffer `0` heads the frame queue and the
main loop is about to dequeue it, and submits request `0` to the camera: no buffer is
available, against the comment of `queue_request`. -/
theorem buffer_roles_overlap_reachable :
    Reachable 3 ⟨1, [], .enqueued 0, [0], 0, false, true, .top, .idle, [0], [], 1⟩ ∧
      Reachable 3 ⟨0, [], .enqueued 2, [0, 1, 2], 1, false, true, .dequeue true, .submitting,
        [0, 1, 2], [], 3⟩ ∧
      step 3 ⟨0, [], .enqueued 2, [0, 1, 2], 1, false, true, .dequeue true, .submitting,
          [0, 1, 2], [], 3⟩ (.queueRequest true) =
        some ⟨1, [0], .enqueued 2, [0, 1, 2], 1, false, true, .dequeue true, .idle,
          [0, 1, 2], [], 4⟩ :=
  ⟨reachable_of_run [.sigusr1, .queueRequest true, .complete] .init rfl,
    reachable_of_run (lagTrace ++ [Action.sigusr1]) .init rfl, rfl⟩

end HandMotionCapture.Pipeline
