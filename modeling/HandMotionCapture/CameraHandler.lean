import HandMotionCapture.CTypes

/-!
# The camera handler

`camera_handler_t` of `dataset_gen/pi/src/camera_handler.cpp`, as the state it keeps and the
functions that change it:

* `initFrameConfig`: `frame_bytes_` from the configured resolution (`init_frame_config`);
* `initDmaBuffers`: the loop of `init_dma_buffers`, which makes one request per allocated
  buffer, with the buffer's position as cookie, and maps the buffer's Y plane;
* `unmapBuffers`: the `munmap` calls of the destructor;
* `queueRequest`: the back-pressure check and the submission of `requests_[next_req_idx_]`;
* `requestComplete`: the completion callback, which enqueues `mmap_buffers_[cookie]` and posts
  `queue_counter`.

libcamera and the kernel are the environment: what they answer is an argument (`DmaEnv`, the
value `sem_getvalue` reports, whether `Camera::queueRequest` accepts a request). The
`lock_free_queue_t` of `lock_free_queue.h` is not among the sources; `enqueue` follows the
spec's contract for it.
-/

namespace HandMotionCapture

/-! ### Buffers and requests -/

/-- One plane of a libcamera `FrameBuffer`: its dmabuf descriptor, offset and length. -/
structure Plane where
  fd : ℤ
  offset : ℕ
  length : ℕ
deriving DecidableEq, Repr

/-- A YUV420 `FrameBuffer` of the allocator, by its planes `planes()[0]`, `[1]`, `[2]`. -/
structure FrameBuffer where
  y : Plane
  u : Plane
  v : Plane
deriving DecidableEq, Repr

/-- A libcamera `Request` made by `createRequest(cookie)`, with the buffer that `addBuffer`
attached to it for the stream. -/
structure Request where
  cookie : ℕ
  buffer : FrameBuffer
deriving DecidableEq, Repr

/-- The status `request_complete` reads from a completed request. -/
inductive RequestStatus
  | complete
  | cancelled
deriving DecidableEq, Repr

/-! ### Frame geometry -/

/-- `init_frame_config`: `frame_bytes_` from the configured width and height. The three
YUV420 plane sizes are computed in `unsigned int` (`y = W * H`, `u = v = y / 4`) and their
sum is stored in the `int` member. -/
def initFrameConfig (frameWidth frameHeight : ℤ) : ℤ :=
  let yPlaneBytes := toCUInt (frameWidth * frameHeight)
  let uPlaneBytes := yPlaneBytes / 4
  let vPlaneBytes := uPlaneBytes
  toCInt ((yPlaneBytes + uPlaneBytes + vPlaneBytes) % 2 ^ 32 : ℕ)

/-- The plane lengths `init_dma_buffers` requires of every buffer: `frame_bytes_ * 2/3`
evaluated in `int` and stored in an `unsigned int`, and a quarter of it for U and V. -/
def expectedPlaneBytes (frameBytes : ℤ) : ℕ × ℕ × ℕ :=
  let yPlaneBytes := toCUInt ((toCInt (frameBytes * 2)).tdiv 3)
  let uPlaneBytes := yPlaneBytes / 4
  let vPlaneBytes := uPlaneBytes
  (yPlaneBytes, uPlaneBytes, vPlaneBytes)

/-! ### `init_dma_buffers` -/

/-- What libcamera and the kernel answer during `init_dma_buffers`. -/
structure DmaEnv where
  /-- The buffers `allocator_->allocate(stream_)` made, or `none` when it failed. -/
  buffers : Option (List FrameBuffer)
  /-- Whether `camera_->createRequest(cookie)` returned a request. -/
  createRequest : ℕ → Bool
  /-- Whether `addBuffer(stream_, buffer)` succeeded on the request with this cookie. -/
  addBuffer : ℕ → FrameBuffer → Bool
  /-- `mmap(nullptr, length, PROT_READ | PROT_WRITE, MAP_SHARED, fd, offset)` on a plane's
  descriptor and offset: the address, or the `strerror(errno)` text of the failure. -/
  mmap : Plane → ℕ → Except String ℕ

/-- The vectors `init_dma_buffers` fills, `requests_` and `mmap_buffers_`, with the next
`req_cookie`. The cookie is a `uint64_t` counting the allocator's buffers, which a `std::vector`
holds fewer than `2 ^ 64` of, so it is kept as a natural number. -/
structure DmaTables where
  reqCookie : ℕ
  requests : List Request
  mmapBuffers : List ℕ
deriving Repr

/-- The tables before the loop: cookie `0`, both vectors empty. -/
def DmaTables.empty : DmaTables := ⟨0, [], []⟩

/-- Whether a buffer's planes differ from the lengths `expectedPlaneBytes` gives. -/
def planeSizesDiffer (frameBytes : ℤ) (buffer : FrameBuffer) : Bool :=
  let (yPlaneBytes, uPlaneBytes, vPlaneBytes) := expectedPlaneBytes frameBytes
  buffer.y.length ≠ yPlaneBytes || buffer.u.length ≠ uPlaneBytes ||
    buffer.v.length ≠ vPlaneBytes

/-- One pass of the `for` loop of `init_dma_buffers`, on `buffer`: create the request with the
current cookie, attach the buffer, push the request, check the plane sizes, map the Y plane's
descriptor for `frame_bytes_` bytes and push the address. A failure is the text of the
`std::runtime_error` thrown. -/
def initDmaBuffer (env : DmaEnv) (frameBytes : ℤ) (t : DmaTables) (buffer : FrameBuffer) :
    Except String DmaTables :=
  if !env.createRequest t.reqCookie then .error "Failed to create request"
  else if !env.addBuffer t.reqCookie buffer then .error "Failed to add buffer to request"
  else if planeSizesDiffer frameBytes buffer then
    .error "Plane size does not match expected size"
  else
    match env.mmap buffer.y (toSizeT frameBytes) with
    | .error e => .error ("Failed to mmap plane data: " ++ e)
    | .ok data =>
      .ok ⟨t.reqCookie + 1, t.requests ++ [⟨t.reqCookie, buffer⟩], t.mmapBuffers ++ [data]⟩

/-- `camera_handler_t::init_dma_buffers`: allocate, then run the loop over the allocator's
buffers in order. -/
def initDmaBuffers (env : DmaEnv) (frameBytes : ℤ) : Except String DmaTables :=
  match env.buffers with
  | none => .error "Failed to allocate buffers"
  | some buffers => buffers.foldlM (initDmaBuffer env frameBytes) DmaTables.empty

/-- The `munmap` calls of `~camera_handler_t`, in order: each address in `mmap_buffers_`, for
`frame_bytes_` bytes. -/
def unmapBuffers (frameBytes : ℤ) (mmapBuffers : List ℕ) : List (ℕ × ℕ) :=
  mmapBuffers.map fun data => (data, toSizeT frameBytes)

/-! ### The handler and its two operations -/

/-- The members of `camera_handler_t` that `queue_request` and `request_complete` use. -/
structure CameraHandler where
  requests : List Request
  mmapBuffers : List ℕ
  nextReqIdx : ℤ
  dmaFrameBuffers : ℤ
deriving Repr

/-- `camera_handler_t::queue_request`, given the value `sem_getvalue(&queue_counter)` reports
(never negative on Linux) and whether `camera_->queueRequest` accepts the request: the index
into `requests_` of the request submitted and the handler after it, or the text of the
`std::runtime_error` thrown. -/
def queueRequest (h : CameraHandler) (enqueuedBufs : ℕ) (accepted : Bool) :
    Except String (ℕ × CameraHandler) :=
  if (enqueuedBufs : ℤ) > toCInt (h.dmaFrameBuffers - 2) then
    .error "Buffer is not ready for requeuing"
  else if !accepted then .error "Failed to queue request"
  else
    let incremented := toCInt (h.nextReqIdx + 1)
    .ok (toSizeT h.nextReqIdx,
      { h with nextReqIdx := toCInt (toSizeT incremented % h.requests.length : ℕ) })

/-- Modelled from the spec: `lock_free_queue_t::enqueue` (its header is not among the
sources) on a queue of `capacity` pointers. It appends at the tail and fails, leaving the
queue unchanged, only when the queue is full; `request_complete` ignores its result. -/
def enqueue (capacity : ℕ) (q : List ℕ) (x : ℕ) : List ℕ :=
  if q.length < capacity then q ++ [x] else q

/-- Modelled from the spec: `lock_free_queue_t::dequeue` (its header is not among the
sources), "`dequeue() → ptr | null`": it takes the head of the queue, or gives `null` when the
queue is empty. -/
def dequeue : List ℕ → Option (ℕ × List ℕ)
  | [] => none
  | b :: rest => some (b, rest)

@[simp] theorem dequeue_eq_some {q rest : List ℕ} {b : ℕ} :
    dequeue q = some (b, rest) ↔ q = b :: rest := by
  cases q <;> simp [dequeue, and_comm]

@[simp] theorem dequeue_eq_none {q : List ℕ} : dequeue q = none ↔ q = [] := by
  cases q <;> simp [dequeue]

/-- The two objects `request_complete` writes besides the request: `frame_queue` (with its
capacity) and `queue_counter`. -/
structure Shared where
  capacity : ℕ
  frameQueue : List ℕ
  queueCounter : ℕ
deriving DecidableEq, Repr

/-- `camera_handler_t::request_complete`: a cancelled request changes nothing; otherwise
`mmap_buffers_[request->cookie()]` is enqueued and `queue_counter` posted (`reuse` only re-arms
the request). `none` when the cookie is out of bounds, where `operator[]` is undefined. -/
def requestComplete (h : CameraHandler) (r : Request) (status : RequestStatus) (q : Shared) :
    Option Shared :=
  if status = .cancelled then some q
  else (h.mmapBuffers.get? r.cookie).map fun data =>
    { q with frameQueue := enqueue q.capacity q.frameQueue data,
             queueCounter := q.queueCounter + 1 }

end HandMotionCapture
