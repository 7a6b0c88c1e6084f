import HandMotionCapture.CameraHandler.InitDmaBuffers

/-!
# Frame geometry: `init_frame_config` and the plane check

`init_frame_config` computes the YUV420 planes of a `W × H` frame, `y = W * H` and
`u = v = y / 4` in `unsigned int`, and stores their sum in the `int` `frame_bytes_`.
`init_dma_buffers` recovers the planes from it, `y' = frame_bytes_ * 2/3` in `int` converted to
`unsigned int` and `u' = v' = y' / 4`, rejects every buffer whose planes differ, and maps
`frame_bytes_` bytes of each; the destructor unmaps as many.

While `0 ≤ W * H ≤ 715827883`, no operation of either leaves its C type, and `frame_bytes_` is
`y + 2 * (y / 4)`; `715827883` is the largest `y` with `2 * (y + 2 * (y / 4)) ≤ INT_MAX`, so the
range ends exactly where `frame_bytes_ * 2` stops fitting in an `int`. Then `frame_bytes_ * 2` is
`3 * y - y % 4`, whose third is `y` for a multiple of 4 and `y - 1` otherwise: the check expects
`u` and `v`, and the Y plane of `init_frame_config` only when `4 ∣ y`, so that the expected
planes add up to `frame_bytes_` exactly then (`plane_check_of_frame_config`). Each buffer the
loop accepts is mapped, and unmapped, with the total of its planes, or one byte more
(`initDmaBuffers_unmap_lengths`). For a `32768 × 32768` frame `frame_bytes_ * 2` overflows, and
the check expects a Y plane of `3937053355` bytes.

The type of `config.frame_width` and `config.frame_height` is declared in `config.h`, which is not
among the sources; `init_camera_config` casts both to `unsigned int`, so they are taken to be
`int`, and their product an `int` multiplication.
-/

namespace HandMotionCapture

/-! ### The arithmetic, checked -/

/-- `init_frame_config` with every operation checked: `frame_bytes_`, or `none` when an
operation leaves its C type. -/
def initFrameConfigChecked (frameWidth frameHeight : ℤ) : Option ℤ := do
  let product ← checkedCInt (frameWidth * frameHeight)
  let yPlaneBytes ← checkedCUInt product
  let uPlaneBytes := yPlaneBytes / 4
  let vPlaneBytes := uPlaneBytes
  let frameBytes ← checkedCUInt (yPlaneBytes + uPlaneBytes + vPlaneBytes : ℕ)
  checkedCInt frameBytes

/-- The plane sizes of `init_dma_buffers` with every operation checked. -/
def expectedPlaneBytesChecked (frameBytes : ℤ) : Option (ℕ × ℕ × ℕ) := do
  let doubled ← checkedCInt (frameBytes * 2)
  let yPlaneBytes ← checkedCUInt (doubled.tdiv 3)
  let uPlaneBytes := yPlaneBytes / 4
  let vPlaneBytes := uPlaneBytes
  pure (yPlaneBytes, uPlaneBytes, vPlaneBytes)

/-- The bytes of a buffer whose planes have these lengths, laid out one after the other. -/
def planesTotal (planes : ℕ × ℕ × ℕ) : ℕ := planes.1 + planes.2.1 + planes.2.2

/-- A checked `init_frame_config` that succeeds computes what the code computes. -/
theorem initFrameConfig_of_checked {frameWidth frameHeight frameBytes : ℤ}
    (h : initFrameConfigChecked frameWidth frameHeight = some frameBytes) :
    initFrameConfig frameWidth frameHeight = frameBytes := by
  simp only [initFrameConfigChecked, Option.bind_eq_bind, Option.bind_eq_some] at h
  obtain ⟨p, hp, y, hy, s, hs, hfb⟩ := h
  obtain ⟨-, rfl⟩ := checkedCInt_eq_some.mp hp
  obtain ⟨⟨-, hlt⟩, rfl⟩ := checkedCUInt_eq_some.mp hs
  rw [initFrameConfig, toCUInt_of_checkedCUInt hy, Nat.mod_eq_of_lt (by omega),
    ← toCInt_of_checkedCInt hfb, Int.toNat_natCast]

/-- A checked plane computation that succeeds computes what the code computes. -/
theorem expectedPlaneBytes_of_checked {frameBytes : ℤ} {planes : ℕ × ℕ × ℕ}
    (h : expectedPlaneBytesChecked frameBytes = some planes) :
    expectedPlaneBytes frameBytes = planes := by
  simp only [expectedPlaneBytesChecked, Option.bind_eq_bind, Option.bind_eq_some] at h
  obtain ⟨d, hd, y, hy, h⟩ := h
  rw [expectedPlaneBytes, toCInt_of_checkedCInt hd, toCUInt_of_checkedCUInt hy]
  exact Option.some.inj h

/-! ### In range -/

/-- The third of `frame_bytes_ * 2` for a Y plane of `n`: `n` for a multiple of 4 and `n - 1`
otherwise; its quarter is `n / 4` either way. -/
theorem double_frameBytes_div_three (n : ℕ) :
    (n + 2 * (n / 4)) * 2 / 3 = (if 4 ∣ n then n else n - 1) ∧
      (n + 2 * (n / 4)) * 2 / 3 / 4 = n / 4 := by
  have hdouble : (n + 2 * (n / 4)) * 2 = 3 * n - n % 4 := by omega
  rw [hdouble]
  split_ifs <;> omega

/-- `715827883` is the largest Y plane `n` for which `frame_bytes_ * 2` is an `int`. -/
theorem double_frameBytes_le_intMax_iff (n : ℕ) :
    ((n + 2 * (n / 4) : ℕ) : ℤ) * 2 ≤ intMax ↔ n ≤ 715827883 := by
  unfold intMax
  omega

/-- The plane check on `frame_bytes_ = n + 2 * (n / 4)`, in range: nothing wraps, and it expects
`n / 4` for U and V and, for Y, `n` for a multiple of 4 and `n - 1` otherwise. -/
theorem expectedPlaneBytesChecked_natCast (n : ℕ) (hmax : n ≤ 715827883) :
    expectedPlaneBytesChecked ((n + 2 * (n / 4) : ℕ) : ℤ) =
      some (if 4 ∣ n then n else n - 1, n / 4, n / 4) := by
  obtain ⟨hthird, hquarter⟩ := double_frameBytes_div_three n
  simp only [expectedPlaneBytesChecked, Option.bind_eq_bind]
  rw [checkedCInt_of_le (by omega) ((double_frameBytes_le_intMax_iff n).mpr hmax), Option.some_bind,
    Int.tdiv_eq_ediv (by omega) (by decide), checkedCUInt_of_lt (by omega) (by omega),
    Option.some_bind]
  have hq : ((((n + 2 * (n / 4) : ℕ) : ℤ) * 2 / 3).toNat) = (n + 2 * (n / 4)) * 2 / 3 := by
    omega
  rw [hq, hquarter, hthird]
  rfl

section InRange

variable {frameWidth frameHeight : ℤ} (h₀ : 0 ≤ frameWidth * frameHeight)
  (hmax : frameWidth * frameHeight ≤ 715827883)
include h₀ hmax

/-- In range, no operation of `init_frame_config` wraps, and `frame_bytes_` is the sum of the
planes. -/
theorem initFrameConfigChecked_eq :
    initFrameConfigChecked frameWidth frameHeight =
      some (frameWidth * frameHeight + 2 * (frameWidth * frameHeight / 4)) := by
  simp only [initFrameConfigChecked, Option.bind_eq_bind]
  rw [checkedCInt_of_le (by omega) (by unfold intMax; omega), Option.some_bind,
    checkedCUInt_of_lt h₀ (by omega), Option.some_bind, checkedCUInt_of_lt (by omega) (by omega),
    Option.some_bind, checkedCInt_of_le (by omega) (by unfold intMax; omega)]
  congr 1
  omega

/-- In range, `frame_bytes_` is `y + 2 * (y / 4)` for the Y plane `y = W * H`. -/
theorem initFrameConfig_eq_natCast :
    initFrameConfig frameWidth frameHeight =
      (((frameWidth * frameHeight).toNat + 2 * ((frameWidth * frameHeight).toNat / 4) : ℕ) :
        ℤ) := by
  rw [initFrameConfig_of_checked (initFrameConfigChecked_eq h₀ hmax)]
  omega

/-- In range, `mmap` and `munmap` get `y + 2 * (y / 4)` bytes for the Y plane `y = W * H`. -/
theorem toSizeT_initFrameConfig :
    toSizeT (initFrameConfig frameWidth frameHeight) =
      (frameWidth * frameHeight).toNat + 2 * ((frameWidth * frameHeight).toNat / 4) := by
  rw [initFrameConfig_eq_natCast h₀ hmax, toSizeT_of_nonneg (by omega)
    (by unfold intMax at *; omega), Int.toNat_natCast]

/-- In range, no operation of the plane check wraps, and it expects the U and V planes of
`init_frame_config`, and its Y plane for a multiple of 4 and a byte less otherwise. -/
theorem expectedPlaneBytesChecked_frameConfig :
    expectedPlaneBytesChecked (initFrameConfig frameWidth frameHeight) =
      some (if 4 ∣ frameWidth * frameHeight then (frameWidth * frameHeight).toNat
          else (frameWidth * frameHeight).toNat - 1,
        (frameWidth * frameHeight).toNat / 4, (frameWidth * frameHeight).toNat / 4) := by
  have h4 : (4 : ℤ) ∣ frameWidth * frameHeight ↔ 4 ∣ (frameWidth * frameHeight).toNat := by
    omega
  rw [initFrameConfig_eq_natCast h₀ hmax, expectedPlaneBytesChecked_natCast _ (by omega)]
  simp only [h4]

end InRange

/-! ### The plane check of `init_frame_config`'s frame -/

/-- What the plane check of `init_dma_buffers` expects of the buffers of a `W × H` frame, on the
`frame_bytes_` that `init_frame_config` stored, `y = W * H` being the Y plane it computed. -/
structure PlaneCheck (frameWidth frameHeight : ℤ) : Prop where
  /-- No operation of `init_frame_config` leaves its C type. -/
  frameConfig_checked : initFrameConfigChecked frameWidth frameHeight =
    some (initFrameConfig frameWidth frameHeight)
  /-- No operation of the check leaves its C type. -/
  check_checked : expectedPlaneBytesChecked (initFrameConfig frameWidth frameHeight) =
    some (expectedPlaneBytes (initFrameConfig frameWidth frameHeight))
  /-- `frame_bytes_` is the sum of the planes `y` and `u = v = y / 4`. -/
  frameBytes_eq : initFrameConfig frameWidth frameHeight =
    frameWidth * frameHeight + 2 * (frameWidth * frameHeight / 4)
  /-- The check expects `u` and `v`, and `y` for a multiple of 4 but `y - 1` otherwise. -/
  planes_eq : expectedPlaneBytes (initFrameConfig frameWidth frameHeight) =
    (if 4 ∣ frameWidth * frameHeight then (frameWidth * frameHeight).toNat
        else (frameWidth * frameHeight).toNat - 1,
      (frameWidth * frameHeight).toNat / 4, (frameWidth * frameHeight).toNat / 4)
  /-- The expected planes add up to `frame_bytes_`, the length `mmap` maps and `munmap`
  releases, exactly for a multiple of 4. -/
  total_eq_iff : planesTotal (expectedPlaneBytes (initFrameConfig frameWidth frameHeight)) =
      toSizeT (initFrameConfig frameWidth frameHeight) ↔ 4 ∣ frameWidth * frameHeight

/-- **The plane check in range.** For every `W × H` frame with `0 ≤ W * H ≤ 715827883`, that is
with `frame_bytes_ * 2` an `int`, nothing wraps in `init_frame_config` or in the plane check,
which expects the planes `init_frame_config` computed, summing to `frame_bytes_`, exactly when
`W * H` is a multiple of 4, and otherwise a Y plane one byte short. -/
theorem plane_check_of_frame_config {frameWidth frameHeight : ℤ}
    (h₀ : 0 ≤ frameWidth * frameHeight) (hmax : frameWidth * frameHeight ≤ 715827883) :
    PlaneCheck frameWidth frameHeight := by
  have hfb := initFrameConfigChecked_eq h₀ hmax
  have hplanes := expectedPlaneBytesChecked_frameConfig h₀ hmax
  have hfb' := initFrameConfig_of_checked hfb
  have hplanes' := expectedPlaneBytes_of_checked hplanes
  refine ⟨hfb'.symm ▸ hfb, hplanes'.symm ▸ hplanes, hfb', hplanes', ?_⟩
  rw [hplanes', toSizeT_initFrameConfig h₀ hmax, planesTotal]
  dsimp only
  split_ifs with h4 <;> omega

/-- A 1080p frame, and the `1 × 715827883` frame at the end of the range, whose `W * H` is not a
multiple of 4. -/
theorem plane_check_of_frame_config_1080p_and_edge :
    (0 ≤ (1920 : ℤ) * 1080 ∧ (1920 : ℤ) * 1080 ≤ 715827883 ∧ PlaneCheck 1920 1080) ∧
      (0 ≤ (1 : ℤ) * 715827883 ∧ (1 : ℤ) * 715827883 ≤ 715827883 ∧ PlaneCheck 1 715827883) :=
  ⟨⟨by decide, by decide, plane_check_of_frame_config (by decide) (by decide)⟩,
    ⟨by decide, by decide, plane_check_of_frame_config (by decide) (by decide)⟩⟩

/-- **The check misses small and huge frames.** For a `1 × 1` frame `frame_bytes_` is `1` but
the check expects planes of `0` bytes; for a `32768 × 32768` frame, a multiple of 4,
`frame_bytes_ * 2` overflows an `int` and the check expects a Y plane of `3937053355` bytes,
not `2 ^ 30`. -/
theorem plane_check_misses_unit_and_huge_frames :
    initFrameConfig 1 1 = 1 ∧ expectedPlaneBytes 1 = (0, 0, 0) ∧
      initFrameConfig 32768 32768 = 1610612736 ∧
      expectedPlaneBytesChecked 1610612736 = none ∧
      expectedPlaneBytes 1610612736 = (3937053355, 984263338, 984263338) := by
  decide

/-! ### What is mapped and unmapped -/

/-- The destructor's `munmap` call `c = (data, length)` for the buffer `b` of a `W × H` frame:
`b` has the planes the check expects, `c` releases the mapping `mmap` made of `b`'s Y plane with
the length `mmap` was given, and that length is the total of `b`'s planes, with one byte more
when `W * H` is not a multiple of 4. -/
structure UnmapsAsMapped (env : DmaEnv) (frameWidth frameHeight : ℤ) (b : FrameBuffer)
    (c : ℕ × ℕ) : Prop where
  planes_eq : (b.y.length, b.u.length, b.v.length) =
    (if 4 ∣ frameWidth * frameHeight then (frameWidth * frameHeight).toNat
        else (frameWidth * frameHeight).toNat - 1,
      (frameWidth * frameHeight).toNat / 4, (frameWidth * frameHeight).toNat / 4)
  length_eq : c.2 = b.y.length + b.u.length + b.v.length +
    (if 4 ∣ frameWidth * frameHeight then 0 else 1)
  mmap_eq : env.mmap b.y c.2 = .ok c.1

/-- **Mapped and unmapped lengths.** For every `W × H` frame in range, when `init_dma_buffers`
returns on the `frame_bytes_` that `init_frame_config` stored, the destructor's `munmap` calls,
in order, release the mappings of the allocator's buffers with the lengths `mmap` mapped them
with: the total of each buffer's planes, which are the ones the check expects, when `W * H` is a
multiple of 4, and one byte more otherwise. -/
theorem initDmaBuffers_unmap_lengths {frameWidth frameHeight : ℤ}
    (h₀ : 0 ≤ frameWidth * frameHeight) (hmax : frameWidth * frameHeight ≤ 715827883)
    {env : DmaEnv} {t : DmaTables}
    (h : initDmaBuffers env (initFrameConfig frameWidth frameHeight) = .ok t) :
    ∃ buffers, env.buffers = some buffers ∧
      List.Forall₂ (UnmapsAsMapped env frameWidth frameHeight) buffers
        (unmapBuffers (initFrameConfig frameWidth frameHeight) t.mmapBuffers) := by
  obtain ⟨buffers, hb, -, hmap⟩ := initDmaBuffers_eq_ok h
  obtain ⟨buffers', hb', hplanes⟩ := initDmaBuffers_planes h
  obtain rfl : buffers = buffers' := Option.some.inj (hb.symm.trans hb')
  have hexp := expectedPlaneBytes_of_checked (expectedPlaneBytesChecked_frameConfig h₀ hmax)
  refine ⟨buffers, hb, ?_⟩
  rw [unmapBuffers, List.forall₂_map_right_iff]
  refine ((List.forall₂_and_left (p := (· ∈ buffers)) _ _).mpr ⟨fun _ h => h, hmap⟩).imp
    fun b d ⟨hmem, hm⟩ => ?_
  have hp := planeSizesDiffer_eq_false.mp (hplanes b hmem)
  rw [hexp] at hp
  refine ⟨hp, ?_, by dsimp only; exact hm⟩
  simp only [Prod.mk.injEq] at hp
  dsimp only
  rw [toSizeT_initFrameConfig h₀ hmax, hp.1, hp.2.1, hp.2.2]
  split_ifs <;> omega

theorem initDmaBuffers_unmap_lengths_threeByThree :
    0 ≤ (3 : ℤ) * 3 ∧ (3 : ℤ) * 3 ≤ 715827883 ∧
      initDmaBuffers threeByThreeEnv (initFrameConfig 3 3) =
        .ok ⟨3, [⟨0, threeByThreeBuffer 3⟩, ⟨1, threeByThreeBuffer 4⟩, ⟨2, threeByThreeBuffer 5⟩],
          [12288, 16384, 20480]⟩ ∧
      ∃ buffers, threeByThreeEnv.buffers = some buffers ∧
        List.Forall₂ (UnmapsAsMapped threeByThreeEnv 3 3) buffers
          (unmapBuffers (initFrameConfig 3 3) [12288, 16384, 20480]) :=
  have h : initDmaBuffers threeByThreeEnv (initFrameConfig 3 3) =
      .ok ⟨3, [⟨0, threeByThreeBuffer 3⟩, ⟨1, threeByThreeBuffer 4⟩, ⟨2, threeByThreeBuffer 5⟩],
        [12288, 16384, 20480]⟩ := rfl
  ⟨by decide, by decide, h, initDmaBuffers_unmap_lengths (by decide) (by decide) h⟩

end HandMotionCapture
