import Mathlib.Data.PNat.Basic
import Mathlib.Data.List.Basic

/-!
# The streamer of the camera node

`stream_pkt` of `dataset_gen/pi/src/main.cpp` writes one encoded packet to the server, with the
loop

```
while (total_bytes_written < size) {
  if (conn.sockfd < 0) { ret = init_network(...); if (ret < 0) return ret; }
  result = write(conn.sockfd, data + total_bytes_written, size - total_bytes_written);
  if (result < 0) { if (errno == EINTR) continue; return -1; }
  total_bytes_written += result;
}
return 0;
```

while the socket-reset timer's SIGUSR2 (`socket_disconnect_handler`) or the shutdown handler may
close `sockfd` and set it to `-1` between any two of its steps. `conn_info_t` is declared in
`connection.h`, which is not among the sources; following the spec ("if `sockfd < 0` (closed by
watchdog or shutdown) ... re-establish the connection before writing"), `conn.sockfd` is the
global `sockfd` that the handlers and `init_network` write.

The kernel's answers are events: what `socket`, `connect` and `write` return, and when the
watchdog fires. Each connection the streamer opens is an entry of `wire`, the bytes the server
received on it; `init_network` in `main` opened the first one. A `connect` interrupted by a
signal (SIGUSR1 comes sixty times a second) fails with `EINTR` while the kernel goes on
connecting: a later `write` waits for the outcome and either opens the connection or reports the
failure. A `write` on a descriptor that is not connected fails with `EPIPE` and raises SIGPIPE,
as one on a connection the server reset does; main.cpp never ignores SIGPIPE, so the node ends
(`Pc.killed`) and takes no further step (`step_killed`).

Over every schedule the bytes of all connections, in the order they were opened, are the
packets in call order, each cut where its call stopped, and a call returns `0` exactly when its
packet was written whole (`reachable_wireInv`). A packet is not kept on one connection, though:
when the socket is closed in the middle of a packet, `stream_pkt` reconnects and writes the
rest of the packet to the new connection (`packet_split_across_connections`).
-/

namespace HandMotionCapture.Network

/-! ### Events and states -/

/-- `EINTR`. -/
def eintr : ℕ+ := 4

/-- `EBADF`, what `connect(-1, ...)` fails with. -/
def ebadf : ℕ+ := 9

/-- `EPIPE`, what `write` fails with, raising SIGPIPE, on a socket that is not connected. -/
def epipe : ℕ+ := 32

/-- What a `socket`, `connect` or `write` call returns. -/
inductive Answer
  /-- Success; for `write`, the count `k`, taken into `[1, remaining]`. -/
  | done (k : ℕ)
  /-- `-1` with this `errno`. -/
  | failed (errno : ℕ+)
deriving DecidableEq, Repr

/-- What happens next in the streamer's environment. -/
inductive Event
  /-- SIGUSR2 (or SIGINT/SIGTERM): `close(sockfd); sockfd = -1`. -/
  | watchdog
  /-- The next step of `stream_pkt` runs, and a system call it makes answers this. -/
  | answer (a : Answer)
deriving DecidableEq, Repr

/-- The global `sockfd`. -/
inductive Sock
  /-- `-1`. -/
  | closed
  /-- A descriptor that is not connected: before its `connect`, or after it failed. -/
  | unconnected
  /-- A descriptor whose `connect` failed with `EINTR`, while the kernel goes on connecting. -/
  | connecting
  | connected
deriving DecidableEq, Repr

/-- Where the encoder's thread is. -/
inductive Pc
  /-- Not in `stream_pkt`. -/
  | idle
  /-- At `while (total_bytes_written < size)`. -/
  | top (total : ℕ)
  /-- In `init_network`: `socket` returned a descriptor, `connect` is next. -/
  | connect (total : ℕ)
  /-- `write` from `data + total` is next. -/
  | write (total : ℕ)
  /-- SIGPIPE, raised by the `write` from `data + total`, ended the node. -/
  | killed (total : ℕ)
deriving DecidableEq, Repr

/-- The bytes of the current packet written so far. -/
def Pc.total : Pc → ℕ
  | .idle => 0
  | .top t | .connect t | .write t | .killed t => t

@[simp] theorem Pc.total_idle : Pc.idle.total = 0 := rfl
@[simp] theorem Pc.total_top (t : ℕ) : (Pc.top t).total = t := rfl
@[simp] theorem Pc.total_connect (t : ℕ) : (Pc.connect t).total = t := rfl
@[simp] theorem Pc.total_write (t : ℕ) : (Pc.write t).total = t := rfl
@[simp] theorem Pc.total_killed (t : ℕ) : (Pc.killed t).total = t := rfl

/-- The streamer: the socket, what each connection received, the packet of the current (or
last) `stream_pkt` call and where it is; and, for the proofs, each returned call's packet, how
many of its bytes were written and its return value. -/
structure Streamer where
  sock : Sock
  wire : List (List UInt8)
  pkt : List UInt8
  pc : Pc
  log : List (List UInt8 × ℕ × ℤ)
deriving DecidableEq, Repr

/-- After `main`'s `init_network` connected, before the first packet. -/
def Streamer.init : Streamer := ⟨.connected, [[]], [], .idle, []⟩

/-- The steps: the encoder calls `stream_pkt` on a packet, or an event happens. -/
inductive Action
  | call (pkt : List UInt8)
  | event (e : Event)
deriving DecidableEq, Repr

/-! ### Steps -/

/-- Append bytes to the last connection. -/
def appendLast : List (List UInt8) → List UInt8 → List (List UInt8)
  | [], bs => [bs]
  | [c], bs => [c ++ bs]
  | c :: cs, bs => c :: appendLast cs bs

/-- `stream_pkt` returns `ret` after writing `total` bytes of its packet. -/
def Streamer.ret (s : Streamer) (total : ℕ) (ret : ℤ) : Streamer :=
  { s with pc := .idle, log := s.log ++ [(s.pkt, total, ret)] }

/-- One step of the streamer, or `none` when it cannot happen. -/
def step (s : Streamer) : Action → Option Streamer
  | .call pkt => if s.pc = .idle then some { s with pkt := pkt, pc := .top 0 } else none
  | .event .watchdog =>
    match s.pc with
    | .killed _ => none
    | _ => some { s with sock := .closed }
  | .event (.answer a) =>
    match s.pc with
    | .idle => none
    | .killed _ => none
    | .top total =>
      if s.pkt.length ≤ total then some (s.ret total 0)
      else if s.sock = .closed then
        match a with
        | .done _ => some { s with sock := .unconnected, pc := .connect total }
        | .failed e => some (s.ret total (-(e : ℤ)))
      else some { s with pc := .write total }
    | .connect total =>
      if s.sock = .unconnected then
        match a with
        | .done _ => some { s with sock := .connected, wire := s.wire ++ [[]], pc := .write total }
        | .failed e =>
          if e = eintr then some (Streamer.ret { s with sock := .connecting } total (-(e : ℤ)))
          else some (s.ret total (-(e : ℤ)))
      else some (s.ret total (-(ebadf : ℤ)))
    | .write total =>
      match s.sock, a with
      | .connected, .done k =>
        let k' := max 1 (min k (s.pkt.length - total))
        some { s with wire := appendLast s.wire ((s.pkt.drop total).take k'),
                      pc := .top (total + k') }
      | .connected, .failed e =>
        if e = eintr then some { s with pc := .top total }
        else if e = epipe then some { s with pc := .killed total }
        else some (s.ret total (-1))
      | .connecting, .done k =>
        let k' := max 1 (min k (s.pkt.length - total))
        some { s with sock := .connected, wire := s.wire ++ [(s.pkt.drop total).take k'],
                      pc := .top (total + k') }
      | .connecting, .failed e =>
        if e = eintr then some { s with pc := .top total }
        else some (Streamer.ret { s with sock := .unconnected } total (-1))
      | .unconnected, _ => some { s with pc := .killed total }
      | .closed, _ => some (s.ret total (-1))

/-- **A killed node takes no step.** -/
theorem step_killed {s : Streamer} {t : ℕ} (hpc : s.pc = .killed t) (a : Action) :
    step s a = none := by
  rcases a with pkt | (_ | a) <;> simp [step, hpc]

/-- The states the streamer reaches from `Streamer.init`. -/
inductive Reachable : Streamer → Prop
  | init : Reachable Streamer.init
  | step {s s' : Streamer} (a : Action) : Reachable s → step s a = some s' → Reachable s'

/-- The state after a sequence of actions, if each can happen in turn. -/
def run (s : Streamer) : List Action → Option Streamer
  | [] => some s
  | a :: as => (step s a).bind fun s' => run s' as

theorem reachable_of_run :
    ∀ (as : List Action) {s s' : Streamer}, Reachable s → run s as = some s' → Reachable s'
  | [], _, _, hs, h => by cases h; exact hs
  | a :: as, s, s', hs, h => by
    simp only [run, Option.bind_eq_some] at h
    obtain ⟨t, ht, hrun⟩ := h
    exact reachable_of_run as (.step a hs ht) hrun

/-! ### What reached the server -/

@[simp] theorem flatten_appendLast (w : List (List UInt8)) (bs : List UInt8) :
    (appendLast w bs).flatten = w.flatten ++ bs := by
  induction w, bs using appendLast.induct <;> simp [appendLast, *]

/-- The bytes of its packet that a returned call wrote. -/
def written (c : List UInt8 × ℕ × ℤ) : List UInt8 := c.1.take c.2.1

/-- The invariant of the streamer. -/
structure WireInv (s : Streamer) : Prop where
  /-- The connections' bytes, joined in the order the connections were opened, are the bytes
  each returned call wrote, in call order, then those the running call wrote so far. -/
  wire_flatten : s.wire.flatten = (s.log.map written).flatten ++ s.pkt.take s.pc.total
  /-- A returned call wrote part of its packet, and it returned `0` exactly when it wrote all
  of it. -/
  log_ret : ∀ c ∈ s.log, c.2.1 ≤ c.1.length ∧ (c.2.2 = 0 ↔ c.2.1 = c.1.length)
  total_le : s.pc.total ≤ s.pkt.length
  /-- Past the loop test, the packet is not yet written whole. -/
  total_lt : ∀ t, (s.pc = .connect t ∨ s.pc = .write t) → t < s.pkt.length

theorem wireInv_init : WireInv Streamer.init :=
  ⟨rfl, by simp [Streamer.init], by simp [Streamer.init], by simp [Streamer.init]⟩

/-- Returning `r` after `total` bytes keeps the invariant when `r` is `0` exactly for a whole
packet. -/
theorem WireInv.ret {s : Streamer} {total : ℕ} {r : ℤ} (hi : WireInv s)
    (ht : s.pc.total = total) (hle : total ≤ s.pkt.length) (hr : r = 0 ↔ total = s.pkt.length) :
    WireInv (s.ret total r) := by
  refine ⟨?_, ?_, by simp [Streamer.ret], by simp [Streamer.ret]⟩
  · simp [Streamer.ret, hi.wire_flatten, ht, written]
  · simp only [Streamer.ret, List.mem_append, List.mem_singleton]
    rintro c (hc | rfl)
    · exact hi.log_ret c hc
    · exact ⟨hle, hr⟩

/-- A failed call keeps the invariant. -/
theorem WireInv.ret_of_lt {s : Streamer} {total : ℕ} {r : ℤ} (hi : WireInv s)
    (ht : s.pc.total = total) (hlt : total < s.pkt.length) (hr : r ≠ 0) :
    WireInv (s.ret total r) :=
  hi.ret ht hlt.le (by omega)

/-- A step that moves to another place of the same call, with the socket and the connections
as they were or one empty connection more, keeps the invariant. -/
theorem WireInv.goto {s : Streamer} {pc : Pc} (sock : Sock) (w : List (List UInt8))
    (hi : WireInv s) (hw : w.flatten = s.wire.flatten) (ht : pc.total = s.pc.total)
    (hlt : ∀ t, (pc = .connect t ∨ pc = .write t) → t < s.pkt.length) :
    WireInv { s with sock := sock, wire := w, pc := pc } :=
  ⟨by rw [hw, hi.wire_flatten, ht], hi.log_ret, ht ▸ hi.total_le, hlt⟩

/-- A `write` that put `k` more bytes of the packet on the wire keeps the invariant. -/
theorem WireInv.wrote {s : Streamer} {total k : ℕ} (sock : Sock) (w : List (List UInt8))
    (hi : WireInv s) (ht : s.pc.total = total) (hk : total + k ≤ s.pkt.length)
    (hw : w.flatten = s.wire.flatten ++ (s.pkt.drop total).take k) :
    WireInv { s with sock := sock, wire := w, pc := .top (total + k) } := by
  refine ⟨?_, hi.log_ret, hk, fun _ h => by rcases h with h | h <;> cases h⟩
  rw [hw, hi.wire_flatten, ht, List.append_assoc, ← List.take_add]
  rfl

/-- Every step keeps `WireInv`. -/
theorem wireInv_step {s s' : Streamer} {a : Action} (hi : WireInv s)
    (h : step s a = some s') : WireInv s' := by
  cases a with
  | call pkt =>
    simp only [step] at h
    split_ifs at h with hpc
    cases h
    refine ⟨?_, hi.log_ret, Nat.zero_le _, fun _ h => by rcases h with h | h <;> cases h⟩
    simpa [hpc] using hi.wire_flatten
  | event e =>
    cases e with
    | watchdog =>
      simp only [step] at h
      split at h <;> cases h
      exact hi.goto .closed s.wire rfl rfl hi.total_lt
    | answer a =>
      simp only [step] at h
      split at h
      · cases h
      · cases h
      · rename_i total hpc
        have ht : s.pc.total = total := by simp [hpc]
        have hle : total ≤ s.pkt.length := ht ▸ hi.total_le
        split_ifs at h with hlen hsock
        · cases h
          exact hi.ret ht hle (by simp; omega)
        · cases a <;> cases h
          · exact hi.goto .unconnected s.wire rfl (by simp [ht]) (by simp; omega)
          · exact hi.ret_of_lt ht (by omega) (by have := PNat.pos ‹ℕ+›; omega)
        · cases h
          exact hi.goto s.sock s.wire rfl (by simp [ht]) (by simp; omega)
      · rename_i total hpc
        have ht : s.pc.total = total := by simp [hpc]
        have hlt : total < s.pkt.length := hi.total_lt total (.inl hpc)
        split_ifs at h
        · cases a <;> simp only at h
          · cases h
            exact hi.goto .connected (s.wire ++ [[]]) (by simp) (by simp [ht])
              (by simpa using hlt)
          · split_ifs at h <;> cases h
            · exact (hi.goto .connecting s.wire rfl rfl hi.total_lt).ret_of_lt ht hlt
                (by have := PNat.pos ‹ℕ+›; omega)
            · exact hi.ret_of_lt ht hlt (by have := PNat.pos ‹ℕ+›; omega)
        · cases h
          exact hi.ret_of_lt ht hlt (by decide)
      · rename_i total hpc
        have ht : s.pc.total = total := by simp [hpc]
        have hlt : total < s.pkt.length := hi.total_lt total (.inr hpc)
        have hretry : WireInv { s with pc := .top total } :=
          hi.goto s.sock s.wire rfl (by simp [ht]) (by simp)
        have hkill : WireInv { s with pc := .killed total } :=
          hi.goto s.sock s.wire rfl (by simp [ht]) (by simp)
        split at h
        · cases h
          exact hi.wrote s.sock _ ht (by omega) (flatten_appendLast _ _)
        · split_ifs at h <;> cases h
          · exact hretry
          · exact hkill
          · exact hi.ret_of_lt ht hlt (by decide)
        · cases h
          exact hi.wrote .connected _ ht (by omega) (by simp)
        · split_ifs at h <;> cases h
          · exact hretry
          · exact (hi.goto .unconnected s.wire rfl rfl hi.total_lt).ret_of_lt ht hlt (by decide)
        · cases h
          exact hkill
        · cases h
          exact hi.ret_of_lt ht hlt (by decide)

theorem reachable_wireInv {s : Streamer} (h : Reachable s) : WireInv s := by
  induction h with
  | init => exact wireInv_init
  | step _ _ hs ih => exact wireInv_step ih hs

/-- The encoder hands over a two-byte packet; `write` takes one byte; the watchdog closes the
socket; `stream_pkt` reconnects and writes the other byte to the new connection, then returns
`0`. -/
def splitTrace : List Action :=
  [.call [7, 8], .event (.answer (.done 0)), .event (.answer (.done 1)), .event .watchdog,
   .event (.answer (.done 0)), .event (.answer (.done 0)), .event (.answer (.done 1)),
   .event (.answer (.done 0))]

/-- The state `splitTrace` ends in. -/
def splitState : Streamer := ⟨.connected, [[7], [8]], [7, 8], .idle, [([7, 8], 2, 0)]⟩

theorem reachable_splitState : Reachable splitState := reachable_of_run splitTrace .init rfl

end HandMotionCapture.Network
