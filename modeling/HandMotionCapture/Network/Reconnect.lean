import HandMotionCapture.Network

/-!
# When `stream_pkt` completes, and when it cannot

`stream_pkt` reconnects only when it finds `sockfd < 0`. Two consequences for its liveness:

* when the kernel lets every system call succeed and no SIGUSR2 closes the socket, a call
  returns `0` having written its whole packet, after at most `2 · (size - written) + 3` system
  calls: every `write` takes at least one byte, a closed socket costs one `socket` and one
  `connect`, and a `connect` that `EINTR` interrupted completes under the first `write`
  (`stream_pkt_returns_zero`);
* a reconnect whose `connect` fails otherwise (`ECONNREFUSED` while the server is down) returns
  from `init_network` with `sockfd` on the new descriptor, which is not connected and which
  nothing closes. Every later call then skips the reconnect: a call with an empty packet
  returns `0`, and the first call with a non-empty packet writes on that descriptor, which
  raises SIGPIPE and ends the node. Until then the server receives nothing
  (`refused_reconnect_ends_node`). Only the watchdog or shutdown, closing the socket first,
  avoids this; the watchdog is re-armed on every pass of the main loop, so it fires only when
  the main loop waits more than 0.3 s for a frame.
-/

namespace HandMotionCapture.Network

/-- `n` system calls that succeed, the `i`-th with count `ks i`, which only `write` reads. -/
def successes (ks : ℕ → ℕ) : ℕ → List Action
  | 0 => []
  | n + 1 => .event (.answer (.done (ks 0))) :: successes (fun i => ks (i + 1)) n

/-! ### Progress -/

section Progress

variable {s : Streamer} {t : ℕ}

/-- At the loop test with the packet written, the call returns `0`. -/
theorem step_top_written (hpc : s.pc = .top t) (hle : s.pkt.length ≤ t) (a : Answer) :
    step s (.event (.answer a)) = some (s.ret t 0) := by
  simp only [step, hpc, hle, ↓reduceIte]

/-- At the loop test with the whole packet written, the next system call returns `0`. -/
theorem run_top_written (hpc : s.pc = .top t) (hle : t ≤ s.pkt.length)
    (hdone : s.pkt.length ≤ t) (ks : ℕ → ℕ) :
    run s (successes ks 1) = some (s.ret t 0) ∧ (s.ret t 0).pc = .idle ∧
      (s.ret t 0).log = s.log ++ [(s.pkt, s.pkt.length, 0)] := by
  refine ⟨by simp only [run, successes, step_top_written hpc hdone, Option.bind_some], rfl, ?_⟩
  rw [Streamer.ret, show t = s.pkt.length by omega]

/-- A run of successful system calls whose first step is known. -/
theorem run_successes_succ {s₁ : Streamer} {ks : ℕ → ℕ} {n : ℕ}
    (h : step s (.event (.answer (.done (ks 0)))) = some s₁) :
    run s (successes ks (n + 1)) = run s₁ (successes (fun i => ks (i + 1)) n) := by
  simp only [run, successes, h, Option.some_bind]

/-- A successful `write` on a socket that is connected, or connecting after an interrupted
`connect`, takes between `1` and the remaining bytes and leaves the socket connected. -/
theorem step_write_done (hpc : s.pc = .write t)
    (hsock : s.sock = .connected ∨ s.sock = .connecting) (k : ℕ) :
    ∃ w, step s (.event (.answer (.done k))) =
      some { s with sock := .connected, wire := w,
                    pc := .top (t + max 1 (min k (s.pkt.length - t))) } := by
  rcases hsock with hsock | hsock <;> exact ⟨_, by simp only [step, hpc, hsock]; rfl⟩

/-- **Run lemma** on a connected socket: from the loop test at `t`, the call returns `0` within
`2 · (size - t) + 1` successful system calls, by strong induction on the bytes left. -/
theorem connected_returns_zero : ∀ (m : ℕ) (ks : ℕ → ℕ) (s : Streamer) (t : ℕ),
    s.pkt.length - t = m → s.pc = .top t → t ≤ s.pkt.length → s.sock = .connected →
    ∃ n ≤ 2 * m + 1, ∃ s', run s (successes ks n) = some s' ∧ s'.pc = .idle ∧
      s'.log = s.log ++ [(s.pkt, s.pkt.length, 0)] := by
  intro m
  induction m using Nat.strong_induction_on with
  | _ m ih =>
    intro ks s t hm hpc hle hsock
    by_cases hdone : s.pkt.length ≤ t
    · exact ⟨1, by omega, _, run_top_written hpc hle hdone ks⟩
    · have hwrite : step s (.event (.answer (.done (ks 0)))) = some { s with pc := .write t } := by
        simp only [step, hpc, hdone, ↓reduceIte, hsock, reduceCtorEq]
      set k := max 1 (min (ks 1) (s.pkt.length - t)) with hk
      have hk₁ : 1 ≤ k := le_max_left _ _
      have hk₂ : k ≤ s.pkt.length - t := max_le (by omega) (min_le_right _ _)
      obtain ⟨w, hw⟩ := step_write_done (s := { s with pc := .write t }) rfl (.inl hsock) (ks 1)
      obtain ⟨n, hn, s', hrun, hidle, hlog⟩ := ih (s.pkt.length - (t + k)) (by omega)
        (fun i => ks (i + 2)) { s with sock := .connected, wire := w, pc := .top (t + k) } (t + k)
        rfl rfl (by simp; omega) rfl
      refine ⟨n + 2, by omega, s', ?_, hidle, hlog⟩
      rw [run_successes_succ hwrite, run_successes_succ hw]
      exact hrun

/-- From a `write` at `t < size` on a socket that is connected or connecting, the call returns
`0` within `2 · (size - t)` successful system calls. -/
theorem write_returns_zero (hpc : s.pc = .write t) (hlt : t < s.pkt.length)
    (hsock : s.sock = .connected ∨ s.sock = .connecting) (ks : ℕ → ℕ) :
    ∃ n ≤ 2 * (s.pkt.length - t), ∃ s', run s (successes ks n) = some s' ∧ s'.pc = .idle ∧
      s'.log = s.log ++ [(s.pkt, s.pkt.length, 0)] := by
  set k := max 1 (min (ks 0) (s.pkt.length - t)) with hk
  have hk₁ : 1 ≤ k := le_max_left _ _
  have hk₂ : k ≤ s.pkt.length - t := max_le (by omega) (min_le_right _ _)
  obtain ⟨w, hw⟩ := step_write_done hpc hsock (ks 0)
  obtain ⟨n, hn, s', hrun, hidle, hlog⟩ := connected_returns_zero (s.pkt.length - (t + k))
    (fun i => ks (i + 1)) { s with sock := .connected, wire := w, pc := .top (t + k) } (t + k)
    rfl rfl (by simp; omega) rfl
  refine ⟨n + 1, by omega, s', ?_, hidle, hlog⟩
  rw [run_successes_succ hw]
  exact hrun

/-- **A call completes when the kernel lets it.** A `stream_pkt` call at its loop test, on a
socket that is connected, closed, or connecting after an interrupted `connect`, whose system
calls all succeed with no SIGUSR2 meanwhile, returns `0` having written its whole packet within
`2 · (size - written) + 3` system calls. -/
theorem stream_pkt_returns_zero (hpc : s.pc = .top t) (hle : t ≤ s.pkt.length)
    (hsock : s.sock ≠ .unconnected) (ks : ℕ → ℕ) :
    ∃ n ≤ 2 * (s.pkt.length - t) + 3, ∃ s', run s (successes ks n) = some s' ∧
      s'.pc = .idle ∧ s'.log = s.log ++ [(s.pkt, s.pkt.length, 0)] := by
  by_cases hdone : s.pkt.length ≤ t
  · exact ⟨1, by omega, _, run_top_written hpc hle hdone ks⟩
  by_cases hclosed : s.sock = .closed
  · -- `socket` and `connect` open a new connection, which the rest of the call writes to.
    have hsocket : step s (.event (.answer (.done (ks 0)))) =
        some { s with sock := .unconnected, pc := .connect t } := by
      simp only [step, hpc, hdone, ↓reduceIte, hclosed]
    have hconnect : step { s with sock := .unconnected, pc := .connect t }
        (.event (.answer (.done (ks 1)))) =
        some { s with sock := .connected, wire := s.wire ++ [[]], pc := .write t } := by
      simp only [step, ↓reduceIte]
    obtain ⟨n, hn, s', hrun, hidle, hlog⟩ := write_returns_zero
      (s := { s with sock := .connected, wire := s.wire ++ [[]], pc := .write t }) rfl
      (by simpa using hdone) (.inl rfl) (fun i => ks (i + 2))
    refine ⟨n + 2, by simp only at hn; omega, s', ?_, hidle, hlog⟩
    rw [run_successes_succ hsocket, run_successes_succ hconnect]
    exact hrun
  · -- The socket is connected, or connecting: the call goes straight to its `write`.
    have hwrite : step s (.event (.answer (.done (ks 0)))) = some { s with pc := .write t } := by
      simp only [step, hpc, hdone, hclosed, ↓reduceIte]
    have hs : s.sock = .connected ∨ s.sock = .connecting := by
      cases h : s.sock <;> simp_all
    obtain ⟨n, hn, s', hrun, hidle, hlog⟩ := write_returns_zero (s := { s with pc := .write t })
      rfl (by simpa using hdone) hs (fun i => ks (i + 1))
    refine ⟨n + 1, by simp only at hn; omega, s', ?_, hidle, hlog⟩
    rw [run_successes_succ hwrite]
    exact hrun

theorem stream_pkt_returns_zero_closed :
    ∃ n ≤ 2 * 2 + 3, ∃ s', run ⟨.closed, [[]], [7, 8], .top 0, []⟩ (successes (fun _ => 1) n) =
      some s' ∧ s'.pc = .idle ∧ s'.log = [([7, 8], 2, 0)] :=
  stream_pkt_returns_zero (s := ⟨.closed, [[]], [7, 8], .top 0, []⟩) rfl (by decide) (by decide) _

end Progress

/-! ### A refused reconnect -/

/-- The socket after a reconnect whose `connect` failed with an error other than `EINTR`:
`sockfd` is a descriptor that is not connected. The encoder is between calls; in a call that has
written nothing, at its loop test or, with a non-empty packet, at its `write`; or SIGPIPE ended
the node at that `write`. -/
structure Refused (s : Streamer) : Prop where
  sock_eq : s.sock = .unconnected
  pc_eq : s.pc = .idle ∨ s.pc = .top 0 ∨ (s.pc = .write 0 ∧ s.pkt ≠ []) ∨ s.pc = .killed 0

/-- **Step lemma.** Short of the watchdog, a step on the refused socket starts a call, returns
`0` from a call with an empty packet, moves a call with a non-empty packet to its `write`, or has
that `write` raise SIGPIPE; the socket and the connections stay. -/
theorem refused_step {s s' : Streamer} {a : Action} (hs : Refused s)
    (ha : a ≠ .event .watchdog) (h : step s a = some s') :
    Refused s' ∧ s'.wire = s.wire ∧ (s'.log = s.log ∨ s'.log = s.log ++ [([], 0, 0)]) := by
  obtain ⟨hsock, hpc⟩ := hs
  rcases a with pkt | (_ | a)
  · simp only [step] at h
    split_ifs at h
    cases h
    exact ⟨⟨hsock, .inr (.inl rfl)⟩, rfl, .inl rfl⟩
  · exact absurd rfl ha
  · rcases hpc with hpc | hpc | ⟨hpc, hne⟩ | hpc
    · simp only [step, hpc, reduceCtorEq] at h
    · by_cases hemp : s.pkt = []
      · simp only [step, hpc, hemp, List.length_nil, le_refl, if_true, Option.some.injEq] at h
        subst h
        exact ⟨⟨hsock, .inl rfl⟩, rfl, .inr (by rw [Streamer.ret, hemp])⟩
      · have hlen : ¬ s.pkt.length ≤ 0 := by simpa using hemp
        simp only [step, hpc, hlen, hsock, if_false, reduceCtorEq, Option.some.injEq] at h
        subst h
        exact ⟨⟨rfl, .inr (.inr (.inl ⟨rfl, hemp⟩))⟩, rfl, .inl rfl⟩
    · simp only [step, hpc, hsock, Option.some.injEq] at h
      subst h
      exact ⟨⟨rfl, .inr (.inr (.inr rfl))⟩, rfl, .inl rfl⟩
    · simp only [step, hpc, reduceCtorEq] at h

/-- **Run lemma.** Along a run with no watchdog, the socket stays refused, the connections
receive nothing, and only calls with an empty packet return. -/
theorem refused_run : ∀ (as : List Action) {s s' : Streamer}, Refused s →
    Action.event .watchdog ∉ as → run s as = some s' →
    Refused s' ∧ s'.wire = s.wire ∧ ∃ k, s'.log = s.log ++ List.replicate k ([], 0, 0)
  | [], _, _, hs, _, h => by cases h; exact ⟨hs, rfl, 0, by simp⟩
  | a :: as, s, s', hs, hw, h => by
    simp only [run, Option.bind_eq_some] at h
    obtain ⟨s₁, h₁, hrun⟩ := h
    rw [List.mem_cons, not_or] at hw
    obtain ⟨hs₁, hwire₁, hlog₁⟩ := refused_step hs (Ne.symm hw.1) h₁
    obtain ⟨hs', hwire, k, hlog⟩ := refused_run as hs₁ hw.2 hrun
    refine ⟨hs', hwire.trans hwire₁, ?_⟩
    rcases hlog₁ with hlog₁ | hlog₁
    · exact ⟨k, by rw [hlog, hlog₁]⟩
    · exact ⟨k + 1, by simp [hlog, hlog₁, List.replicate_succ]⟩

/-- **A refused reconnect ends the node.** From a state where a reconnect's `connect` failed with
an error other than `EINTR` and the call returned, along every run in which neither the watchdog
nor shutdown closes the socket, `sockfd` stays the descriptor that is not connected, the server
receives no byte, and only calls with an empty packet return (`0`, having written nothing); a
call with a non-empty packet has written nothing, and once at its `write` its only step raises
SIGPIPE, which ends the node. -/
theorem refused_reconnect_ends_node {s s' : Streamer} {as : List Action}
    (hs : s.sock = .unconnected) (hpc : s.pc = .idle) (hw : Action.event .watchdog ∉ as)
    (h : run s as = some s') :
    Refused s' ∧ s'.wire = s.wire ∧ (∃ k, s'.log = s.log ++ List.replicate k ([], 0, 0)) ∧
      (s'.pc = .write 0 →
        ∀ r, step s' (.event (.answer r)) = some { s' with pc := .killed 0 }) := by
  obtain ⟨hs', hwire, hlog⟩ := refused_run as ⟨hs, .inl hpc⟩ hw h
  exact ⟨hs', hwire, hlog, fun hw r => by simp only [step, hw, hs'.sock_eq]⟩

/-- After a call whose `write` found the socket closed by the watchdog, and a call whose
reconnect was refused (`ECONNREFUSED`). -/
def refusedState : Streamer := ⟨.unconnected, [[]], [8], .idle, [([7], 0, -1), ([8], 0, -111)]⟩

theorem reachable_refusedState : Reachable refusedState :=
  reachable_of_run [.call [7], .event (.answer (.done 0)), .event .watchdog,
    .event (.answer (.done 1)), .call [8], .event (.answer (.done 0)),
    .event (.answer (.failed 111))] .init rfl

/-- The next packet reaches its `write` having written nothing, and the `write` kills the node. -/
theorem refused_reconnect_ends_node_refused :
    Reachable refusedState ∧
      run refusedState [.call [9], .event (.answer (.done 0))] =
        some ⟨.unconnected, [[]], [9], .write 0, refusedState.log⟩ ∧
      (Refused ⟨.unconnected, [[]], [9], .write 0, refusedState.log⟩ ∧
        [[]] = refusedState.wire ∧
        (∃ k, refusedState.log = refusedState.log ++ List.replicate k ([], 0, 0)) ∧
        (Pc.write 0 = .write 0 → ∀ r,
          step ⟨.unconnected, [[]], [9], .write 0, refusedState.log⟩ (.event (.answer r)) =
            some ⟨.unconnected, [[]], [9], .killed 0, refusedState.log⟩)) :=
  have h : run refusedState [.call [9], .event (.answer (.done 0))] =
      some ⟨.unconnected, [[]], [9], .write 0, refusedState.log⟩ := rfl
  ⟨reachable_refusedState, h, refused_reconnect_ends_node rfl rfl (by decide) h⟩

end HandMotionCapture.Network
