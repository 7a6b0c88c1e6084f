import Mathlib.Algebra.Group.Int

/-!
# C integer types of the camera node

`camera_handler.cpp` keeps its counters and sizes in `int` (`next_req_idx_`, `frame_bytes_`,
`dma_frame_buffers_`), computes plane sizes in `unsigned int` and indexes its vectors with
`size_t`. The model evaluates each such expression on `ℤ` and reduces the result to the C type
with the functions below, for the Raspberry Pi's LP64 target: 32-bit two's-complement `int`,
32-bit `unsigned int`, 64-bit `size_t`.

A signed overflow is undefined in C++; `toCInt` gives the wrap the hardware performs, and the
lemmas here say when no wrap happens, so that a proof about the code also shows that its `int`
arithmetic stays in range. `checkedCInt` and `checkedCUInt` are the same operations checked:
they fail where the C operation would leave its type, and where they succeed they agree with
the wrapping ones (`toCInt_of_checkedCInt`, `toCUInt_of_checkedCUInt`).
-/

namespace HandMotionCapture

/-- `INT_MAX` of a 32-bit `int`. -/
def intMax : ℤ := 2 ^ 31 - 1

/-- The 32-bit `int` that holds the integer `x`: `x` itself when it is in range, its
two's-complement wrap otherwise (a conversion to `int`, or an overflowing `int` operation). -/
def toCInt (x : ℤ) : ℤ := (x + 2 ^ 31) % 2 ^ 32 - 2 ^ 31

/-- Conversion of an integer to `unsigned int`. -/
def toCUInt (x : ℤ) : ℕ := (x % 2 ^ 32).toNat

/-- Conversion of an integer to `size_t`. -/
def toSizeT (x : ℤ) : ℕ := (x % 2 ^ 64).toNat

/-- An `int` operation whose exact result is `x`, checked: `x`, or `none` when `x` is out of
range, where the operation overflows. -/
def checkedCInt (x : ℤ) : Option ℤ :=
  if -2 ^ 31 ≤ x ∧ x ≤ intMax then some x else none

/-- An operation or conversion to `unsigned int` whose exact result is `x`, checked: `x`, or
`none` when it wraps. -/
def checkedCUInt (x : ℤ) : Option ℕ :=
  if 0 ≤ x ∧ x < 2 ^ 32 then some x.toNat else none

/-- An integer in `int` range is stored unchanged. -/
theorem toCInt_of_le {x : ℤ} (h₁ : -2 ^ 31 ≤ x) (h₂ : x ≤ intMax) : toCInt x = x := by
  unfold toCInt intMax at *
  omega

/-- An integer in `unsigned int` range converts unchanged. -/
theorem toCUInt_of_lt {x : ℤ} (h₁ : 0 ≤ x) (h₂ : x < 2 ^ 32) : toCUInt x = x.toNat := by
  rw [toCUInt, Int.emod_eq_of_lt h₁ h₂]

theorem checkedCInt_of_le {x : ℤ} (h₁ : -2 ^ 31 ≤ x) (h₂ : x ≤ intMax) :
    checkedCInt x = some x :=
  if_pos ⟨h₁, h₂⟩

theorem checkedCUInt_of_lt {x : ℤ} (h₁ : 0 ≤ x) (h₂ : x < 2 ^ 32) :
    checkedCUInt x = some x.toNat :=
  if_pos ⟨h₁, h₂⟩

/-- A checked `int` operation succeeds exactly in range, with the exact result. -/
theorem checkedCInt_eq_some {x v : ℤ} :
    checkedCInt x = some v ↔ (-2 ^ 31 ≤ x ∧ x ≤ intMax) ∧ x = v := by
  unfold checkedCInt
  split_ifs with hx
  · exact ⟨fun h => ⟨hx, Option.some.inj h⟩, fun h => congrArg some h.2⟩
  · exact ⟨fun h => (by simp at h), fun h => absurd h.1 hx⟩

/-- A checked `unsigned int` operation succeeds exactly in range, with the exact result. -/
theorem checkedCUInt_eq_some {x : ℤ} {v : ℕ} :
    checkedCUInt x = some v ↔ (0 ≤ x ∧ x < 2 ^ 32) ∧ x.toNat = v := by
  unfold checkedCUInt
  split_ifs with hx
  · exact ⟨fun h => ⟨hx, Option.some.inj h⟩, fun h => congrArg some h.2⟩
  · exact ⟨fun h => (by simp at h), fun h => absurd h.1 hx⟩

/-- A checked `int` operation that succeeds does not wrap. -/
theorem toCInt_of_checkedCInt {x v : ℤ} (h : checkedCInt x = some v) : toCInt x = v := by
  unfold checkedCInt at h
  split_ifs at h with hx
  cases h
  exact toCInt_of_le hx.1 hx.2

/-- A checked `unsigned int` operation that succeeds does not wrap. -/
theorem toCUInt_of_checkedCUInt {x : ℤ} {v : ℕ} (h : checkedCUInt x = some v) :
    toCUInt x = v := by
  unfold checkedCUInt at h
  split_ifs at h with hx
  cases h
  exact toCUInt_of_lt hx.1 hx.2

/-- A non-negative `int` converts to `size_t` unchanged. -/
theorem toSizeT_of_nonneg {x : ℤ} (h₁ : 0 ≤ x) (h₂ : x ≤ intMax) : toSizeT x = x.toNat := by
  unfold toSizeT intMax at *
  omega

end HandMotionCapture
