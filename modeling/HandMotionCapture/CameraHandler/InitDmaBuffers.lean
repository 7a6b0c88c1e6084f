import HandMotionCapture.CameraHandler
import Mathlib.Data.List.Forall2
import Mathlib.Data.List.Enum

/-!
# Correctness of `initDmaBuffers`

When `init_dma_buffers` returns, `requests_` and `mmap_buffers_` are parallel to the
allocator's buffers `B₀, …, Bₙ₋₁`: `requests_[i]` has cookie `i` and carries `Bᵢ`, and
`mmap_buffers_[i]` is the address `mmap` returned for `Bᵢ`'s Y plane
(`initDmaBuffers_eq_ok`). The loop keeps this as its invariant: after a prefix of the buffers
the cookie counter, the two pushes and the list of mappings all advance together
(`foldlM_initDmaBuffer_eq_ok`).

So the lookup `mmap_buffers_[request->cookie()]` of `request_complete` is in bounds for every
request the handler owns and yields that request's own buffer (`initDmaBuffers_cookie_mapping`).
-/

namespace HandMotionCapture

variable {env : DmaEnv} {frameBytes : ℤ}

/-- A pass of the loop that returns pushed the request with the current cookie and the
mapping of the buffer's Y plane. -/
theorem initDmaBuffer_eq_ok {t t' : DmaTables} {buffer : FrameBuffer}
    (h : initDmaBuffer env frameBytes t buffer = .ok t') :
    ∃ data, env.mmap buffer.y (toSizeT frameBytes) = .ok data ∧
      t' = ⟨t.reqCookie + 1, t.requests ++ [⟨t.reqCookie, buffer⟩], t.mmapBuffers ++ [data]⟩ := by
  unfold initDmaBuffer at h
  split_ifs at h
  split at h
  · cases h
  · exact ⟨_, ‹_›, (Except.ok.inj h).symm⟩

/-- **Loop invariant.** Running the loop over `buffers` from tables `t` appends one request per
buffer, with consecutive cookies from `t.reqCookie`, and one mapping per buffer. -/
theorem foldlM_initDmaBuffer_eq_ok :
    ∀ (buffers : List FrameBuffer) (t t' : DmaTables),
    buffers.foldlM (initDmaBuffer env frameBytes) t = .ok t' →
    t'.requests = t.requests ++ (buffers.enumFrom t.reqCookie).map (fun p => ⟨p.1, p.2⟩) ∧
    ∃ data, t'.mmapBuffers = t.mmapBuffers ++ data ∧
      List.Forall₂ (fun b d => env.mmap b.y (toSizeT frameBytes) = .ok d) buffers data
  | [], t, t', h => by
    cases h
    exact ⟨by simp, [], by simp, .nil⟩
  | b :: bs, t, t', h => by
    rw [List.foldlM_cons] at h
    cases h₁ : initDmaBuffer env frameBytes t b with
    | error e => rw [h₁] at h; cases h
    | ok t₁ =>
      rw [h₁] at h
      obtain ⟨d, hd, rfl⟩ := initDmaBuffer_eq_ok h₁
      obtain ⟨hreq, ds, hbuf, hall⟩ := foldlM_initDmaBuffer_eq_ok bs _ t' h
      exact ⟨by simp [hreq, List.enumFrom_cons], d :: ds, by simp [hbuf], .cons hd hall⟩

/-- What a returning `init_dma_buffers` leaves: `requests_` is the allocator's buffers
numbered from `0`, and `mmap_buffers_` their mappings, in the same order. -/
theorem initDmaBuffers_eq_ok {t : DmaTables} (h : initDmaBuffers env frameBytes = .ok t) :
    ∃ buffers, env.buffers = some buffers ∧
      t.requests = buffers.enum.map (fun p => ⟨p.1, p.2⟩) ∧
      List.Forall₂ (fun b d => env.mmap b.y (toSizeT frameBytes) = .ok d) buffers t.mmapBuffers := by
  unfold initDmaBuffers at h
  split at h
  · cases h
  · rename_i buffers hb
    obtain ⟨hreq, ds, hbuf, hall⟩ := foldlM_initDmaBuffer_eq_ok buffers _ t h
    exact ⟨buffers, hb, by simpa [DmaTables.empty] using hreq,
      by simpa [DmaTables.empty, hbuf] using hall⟩

/-- A buffer passes the plane check exactly when its planes have the expected lengths. -/
theorem planeSizesDiffer_eq_false {buffer : FrameBuffer} :
    planeSizesDiffer frameBytes buffer = false ↔
      (buffer.y.length, buffer.u.length, buffer.v.length) = expectedPlaneBytes frameBytes := by
  simp [planeSizesDiffer, Prod.ext_iff, and_assoc]

/-- A pass of the loop that returns accepted the buffer's planes. -/
theorem initDmaBuffer_planes {t t' : DmaTables} {buffer : FrameBuffer}
    (h : initDmaBuffer env frameBytes t buffer = .ok t') :
    planeSizesDiffer frameBytes buffer = false := by
  unfold initDmaBuffer at h
  split_ifs at h with h₁ h₂ h₃
  simpa using h₃

/-- A loop that returns accepted the planes of every buffer. -/
theorem foldlM_initDmaBuffer_planes :
    ∀ (buffers : List FrameBuffer) (t t' : DmaTables),
    buffers.foldlM (initDmaBuffer env frameBytes) t = .ok t' →
    ∀ b ∈ buffers, planeSizesDiffer frameBytes b = false
  | [], _, _, _ => by simp
  | b :: bs, t, t', h => by
    rw [List.foldlM_cons] at h
    cases h₁ : initDmaBuffer env frameBytes t b with
    | error e => rw [h₁] at h; cases h
    | ok t₁ =>
      rw [h₁] at h
      intro c hc
      rcases List.mem_cons.mp hc with rfl | hc
      · exact initDmaBuffer_planes h₁
      · exact foldlM_initDmaBuffer_planes bs t₁ t' h c hc

/-- A returning `init_dma_buffers` accepted the planes of every buffer of the allocator. -/
theorem initDmaBuffers_planes {t : DmaTables} (h : initDmaBuffers env frameBytes = .ok t) :
    ∃ buffers, env.buffers = some buffers ∧
      ∀ b ∈ buffers, planeSizesDiffer frameBytes b = false := by
  unfold initDmaBuffers at h
  split at h
  · cases h
  · exact ⟨_, ‹_›, foldlM_initDmaBuffer_planes _ _ t h⟩

/-- The `i`-th mapping of a list the loop built is the mapping of the `i`-th buffer. -/
theorem mmap_getElem?_of_forall₂ {buffers : List FrameBuffer} {ds : List ℕ}
    (h : List.Forall₂ (fun b d => env.mmap b.y (toSizeT frameBytes) = .ok d) buffers ds)
    {i : ℕ} (hi : i < buffers.length) :
    ∃ data, ds[i]? = some data ∧ env.mmap buffers[i].y (toSizeT frameBytes) = .ok data := by
  have hlen := h.length_eq
  exact ⟨ds.get ⟨i, hlen ▸ hi⟩, List.getElem?_eq_getElem _, h.get hi (hlen ▸ hi)⟩

/-- **Cookies index the mappings.** What a returning `init_dma_buffers` leaves for the rest of
the handler, over the allocator's buffers: `requests_[i]` has cookie `i` and carries the `i`-th
buffer, `mmap_buffers_[i]` is that buffer's mapping, and `request_complete` on any of the
handler's requests, unless it was cancelled, reads `mmap_buffers_[cookie]` in bounds and
enqueues the mapping of the buffer the request carries. -/
structure CookieMapping (env : DmaEnv) (frameBytes : ℤ) (buffers : List FrameBuffer)
    (t : DmaTables) : Prop where
  requests_length : t.requests.length = buffers.length
  mmapBuffers_length : t.mmapBuffers.length = buffers.length
  requests_getElem? : ∀ i (hi : i < buffers.length), t.requests[i]? = some ⟨i, buffers[i]⟩
  mmapBuffers_getElem? : ∀ i (hi : i < buffers.length), ∃ data, t.mmapBuffers[i]? = some data ∧
    env.mmap buffers[i].y (toSizeT frameBytes) = .ok data
  requestComplete_eq : ∀ r ∈ t.requests, ∀ status, status ≠ .cancelled →
    ∀ handler : CameraHandler, handler.mmapBuffers = t.mmapBuffers → ∀ q,
      ∃ data, env.mmap r.buffer.y (toSizeT frameBytes) = .ok data ∧
        requestComplete handler r status q =
          some { q with frameQueue := enqueue q.capacity q.frameQueue data,
                        queueCounter := q.queueCounter + 1 }

/-- A returning `init_dma_buffers` establishes `CookieMapping` over the allocator's buffers. -/
theorem initDmaBuffers_cookie_mapping {t : DmaTables}
    (h : initDmaBuffers env frameBytes = .ok t) :
    ∃ buffers, env.buffers = some buffers ∧ CookieMapping env frameBytes buffers t := by
  obtain ⟨buffers, hb, hreq, hmap⟩ := initDmaBuffers_eq_ok h
  refine ⟨buffers, hb, ⟨by simp [hreq], hmap.length_eq.symm, fun i hi => ?_,
    fun i hi => mmap_getElem?_of_forall₂ hmap hi, ?_⟩⟩
  · simp [hreq, List.getElem?_enum, List.getElem?_eq_getElem hi]
  · intro r hr status hstatus handler hhandler q
    rw [hreq, List.mem_map] at hr
    obtain ⟨⟨i, b⟩, hmem, rfl⟩ := hr
    obtain ⟨hi, hbi⟩ := List.mem_enum hmem
    obtain ⟨data, hget, hdata⟩ := mmap_getElem?_of_forall₂ hmap hi
    refine ⟨data, hbi ▸ hdata, ?_⟩
    simp [requestComplete, hstatus, hhandler, hget]

/-- A YUV420 buffer for a 3 × 3 frame on the dmabuf `fd`, with the planes the check expects of
`frame_bytes_ = 13`: 8, 2 and 2 bytes. -/
def threeByThreeBuffer (fd : ℤ) : FrameBuffer := ⟨⟨fd, 0, 8⟩, ⟨fd, 8, 2⟩, ⟨fd, 10, 2⟩⟩

/-- Three such buffers, on the dmabufs `3`, `4` and `5`, each mapped at `4096 · fd`. -/
def threeByThreeEnv : DmaEnv where
  buffers := some [threeByThreeBuffer 3, threeByThreeBuffer 4, threeByThreeBuffer 5]
  createRequest _ := true
  addBuffer _ _ := true
  mmap p _ := .ok (4096 * p.fd.toNat)

theorem initDmaBuffers_cookie_mapping_threeByThree :
    initDmaBuffers threeByThreeEnv 13 =
        .ok ⟨3, [⟨0, threeByThreeBuffer 3⟩, ⟨1, threeByThreeBuffer 4⟩, ⟨2, threeByThreeBuffer 5⟩],
          [12288, 16384, 20480]⟩ ∧
      ∃ buffers, threeByThreeEnv.buffers = some buffers ∧
        CookieMapping threeByThreeEnv 13 buffers
          ⟨3, [⟨0, threeByThreeBuffer 3⟩, ⟨1, threeByThreeBuffer 4⟩, ⟨2, threeByThreeBuffer 5⟩],
            [12288, 16384, 20480]⟩ :=
  ⟨rfl, initDmaBuffers_cookie_mapping rfl⟩

end HandMotionCapture
