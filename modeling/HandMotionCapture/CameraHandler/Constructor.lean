import HandMotionCapture.CameraHandler.InitDmaBuffers
import HandMotionCapture.CameraHandler.QueueRequest

/-!
# The constructor

`camera_handler_t::camera_handler_t` runs `init_frame_config`, `init_camera_manager`,
`init_camera_config`, `init_dma_buffers` and `init_camera_controls` in turn, with the cursor at
`0`; each of them throws a `std::runtime_error` when libcamera fails (`construct`). What
libcamera answers is an argument (`CameraEnv`).

`init_camera_config` calls `config_->validate()` twice: once to reject an invalid
configuration, once more to reject an adjusted one. libcamera's `validate()` adjusts a
configuration it can adjust and reports `Adjusted`, after which the configuration is valid and
a second call reports `Valid`. So the second test never fires, and a configuration the camera
adjusted, its buffer count for one, is accepted like a valid one
(`construct_accepts_adjusted_configuration`).

The handler the constructor returns has its cursor at `0` and one request per buffer the
allocator made (`construct_eq_ok`), the state `queue_request`'s round robin starts from
(`CameraHandler.Constructed`), whether or not `validate()` changed the buffer count: after an
adjustment the ring and `dma_frame_buffers_` differ.
-/

namespace HandMotionCapture

/-- What `CameraConfiguration::validate()` returns. -/
inductive Validation
  | valid
  | adjusted
  | invalid
deriving DecidableEq, Repr

/-- What libcamera answers while the constructor runs. -/
structure CameraEnv where
  /-- Whether `cm_->start()` succeeded. -/
  managerStarted : Bool
  /-- Whether `cm_->cameras()` was empty. -/
  noCameras : Bool
  /-- Whether `cm_->get(cameras[0]->id())` returned a camera. -/
  cameraFound : Bool
  /-- Whether `camera_->acquire()` succeeded. -/
  acquired : Bool
  /-- Whether `generateConfiguration` returned a configuration. -/
  configGenerated : Bool
  /-- What the first call of `config_->validate()` returns. -/
  firstValidate : Validation
  /-- What the second call of `config_->validate()` returns. -/
  secondValidate : Validation
  /-- Whether `camera_->configure(config_)` succeeded. -/
  configured : Bool
  /-- What libcamera and the kernel answer in `init_dma_buffers`. -/
  dma : DmaEnv
  /-- Whether `camera_->start(controls_)` succeeded. -/
  started : Bool

/-- `camera_handler_t::init_camera_manager`. -/
def initCameraManager (env : CameraEnv) : Except String Unit :=
  if !env.managerStarted then .error "Failed to start camera manager"
  else if env.noCameras then .error "No cameras available"
  else if !env.cameraFound then .error "Failed to retrieve camera"
  else if !env.acquired then .error "Failed to acquire camera"
  else .ok ()

/-- `camera_handler_t::init_camera_config`, with its two calls of `validate()`. -/
def initCameraConfig (env : CameraEnv) : Except String Unit :=
  if !env.configGenerated then .error "Failed to generate camera configuration"
  else if env.firstValidate = .invalid then
    .error "Invalid camera configuration, unable to adjust"
  else if env.secondValidate = .adjusted then .error "Invalid camera configuration, adjusted"
  else if !env.configured then .error "Failed to configure camera"
  else .ok ()

/-- `camera_handler_t::init_camera_controls`: the controls are set, then the camera started. -/
def initCameraControls (env : CameraEnv) : Except String Unit :=
  if !env.started then .error "Failed to start camera" else .ok ()

/-- `camera_handler_t::camera_handler_t` on a configuration with `frame_width`, `frame_height`
and `dma_buffers`: the members `queue_request` and `request_complete` use, or the text of the
error thrown. -/
def construct (env : CameraEnv) (frameWidth frameHeight dmaBuffers : ℤ) :
    Except String CameraHandler := do
  let frameBytes := initFrameConfig frameWidth frameHeight
  initCameraManager env
  initCameraConfig env
  let t ← initDmaBuffers env.dma frameBytes
  initCameraControls env
  pure ⟨t.requests, t.mmapBuffers, 0, dmaBuffers⟩

/-- What a returning constructor leaves: the tables of a returning `init_dma_buffers`, the
cursor at `0` and `dma_frame_buffers_ = DMA_BUFFERS`. -/
theorem construct_eq_ok {env : CameraEnv} {frameWidth frameHeight dmaBuffers : ℤ}
    {handler : CameraHandler} (h : construct env frameWidth frameHeight dmaBuffers = .ok handler) :
    ∃ t, initDmaBuffers env.dma (initFrameConfig frameWidth frameHeight) = .ok t ∧
      handler = ⟨t.requests, t.mmapBuffers, 0, dmaBuffers⟩ := by
  simp only [construct, bind, Except.bind] at h
  split at h
  · cases h
  · split at h
    · cases h
    · split at h
      · cases h
      · rename_i t ht
        split at h
        · cases h
        · exact ⟨t, ht, (Except.ok.inj h).symm⟩

/-- A YUV420 buffer for a 2 × 2 frame on the dmabuf `fd`: planes of 4, 1 and 1 bytes. -/
def twoByTwoBuffer (fd : ℤ) : FrameBuffer := ⟨⟨fd, 0, 4⟩, ⟨fd, 4, 1⟩, ⟨fd, 5, 1⟩⟩

/-- libcamera answers that all succeed: the first `validate()` reports `firstValidate`, the
allocator makes one 2 × 2 buffer per descriptor of `fds`, and each is mapped at `4096 · fd`. -/
def cooperativeEnv (firstValidate : Validation) (fds : List ℤ) : CameraEnv where
  managerStarted := true
  noCameras := false
  cameraFound := true
  acquired := true
  configGenerated := true
  firstValidate := firstValidate
  secondValidate := .valid
  configured := true
  dma := ⟨some (fds.map twoByTwoBuffer), fun _ => true, fun _ _ => true,
    fun p _ => .ok (4096 * p.fd.toNat)⟩
  started := true

/-- `validate()`'s contract: a configuration the first call did not reject is valid when the
second call looks at it. -/
def CameraEnv.ValidatesOnce (env : CameraEnv) : Prop :=
  env.firstValidate ≠ .invalid → env.secondValidate = .valid

/-- `init_camera_config` reads the first `validate()` only to reject an invalid configuration. -/
theorem initCameraConfig_of_adjusted {env : CameraEnv} (hadj : env.firstValidate = .adjusted) :
    initCameraConfig env = initCameraConfig { env with firstValidate := .valid } := by
  simp [initCameraConfig, hadj]

/-- **An adjusted configuration is accepted.** For every answer of libcamera that keeps
`validate()`'s contract, `init_camera_config` never throws "Invalid camera configuration,
adjusted"; and when the first `validate()` adjusted the configuration, the constructor returns
what it returns for a configuration found valid: whatever `validate()` adjusted, the buffer
count included, goes on to the allocator. -/
theorem construct_accepts_adjusted_configuration {env : CameraEnv} (hv : env.ValidatesOnce)
    (frameWidth frameHeight dmaBuffers : ℤ) :
    initCameraConfig env ≠ .error "Invalid camera configuration, adjusted" ∧
      (env.firstValidate = .adjusted →
        construct env frameWidth frameHeight dmaBuffers =
          construct { env with firstValidate := .valid } frameWidth frameHeight dmaBuffers) := by
  refine ⟨fun h => ?_, fun hadj => ?_⟩
  · by_cases hinv : env.firstValidate = .invalid
    · cases hg : env.configGenerated <;> simp [initCameraConfig, hinv, hg] at h
    · cases hg : env.configGenerated <;> cases hc : env.configured <;>
        simp [initCameraConfig, hinv, hv hinv, hg, hc] at h
  · simp only [construct]
    rw [initCameraConfig_of_adjusted hadj]
    rfl

/-- A configuration for two buffers that libcamera adjusted to three: the handler has a ring of
three requests while `dma_frame_buffers_` stays `2`. -/
example :
    construct (cooperativeEnv .adjusted [3, 4, 5]) 2 2 2 =
        .ok ⟨[⟨0, twoByTwoBuffer 3⟩, ⟨1, twoByTwoBuffer 4⟩, ⟨2, twoByTwoBuffer 5⟩],
          [12288, 16384, 20480], 0, 2⟩ ∧
      CameraHandler.Constructed
        ⟨[⟨0, twoByTwoBuffer 3⟩, ⟨1, twoByTwoBuffer 4⟩, ⟨2, twoByTwoBuffer 5⟩],
          [12288, 16384, 20480], 0, 2⟩ :=
  ⟨rfl, rfl, by decide, by decide, by decide, by decide⟩

end HandMotionCapture
