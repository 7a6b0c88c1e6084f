import Mathlib.Algebra.Group.Nat.Basic
import Mathlib.Data.List.Basic

/-!
# The wire format of the stream server

`stream_mgr` of `stream_server/src/stream_mgr.c` reads each record of a camera's stream with
`recv_from_stream` straight into a `uint64_t` timestamp and a `uint32_t` frame size, then reads
`frame_size` payload bytes; an 8-byte timestamp slot holding the ASCII bytes `EOSTREAM` ends the
stream. It converts no byte order: a field's value is what its bytes mean in the byte order of
the server's host.

This module has the byte codec (`Endian.store`, `Endian.load`, with the round trip
`load_store`), the records as a sender writes them in a byte order (`encodeRecord`,
`encodeStream`) and the reading half of one pass of the loop (`readPacket`), with the parser's
round trip: `readPacket` on a host of byte order `e` decodes a record that was written in byte
order `e` (`readPacket_encodeRecord`).
-/

namespace HandMotionCapture.StreamMgr

/-! ### Bytes -/

/-- The byte order of a host or of a field on the wire. -/
inductive Endian
  | little
  | big
deriving DecidableEq, Repr

/-- The `w` bytes of `x`, least significant first; bits above `8 * w` are dropped. -/
def toBytesLE : ℕ → ℕ → List UInt8
  | 0, _ => []
  | w + 1, x => UInt8.ofNat (x % 256) :: toBytesLE w (x / 256)

/-- The natural number with the given bytes, least significant first. -/
def ofBytesLE : List UInt8 → ℕ
  | [] => 0
  | b :: bs => b.toNat + 256 * ofBytesLE bs

/-- The `w` bytes that hold `x` in byte order `e`, as a `memcpy` of the variable sends them. -/
def Endian.store : Endian → ℕ → ℕ → List UInt8
  | .little, w, x => toBytesLE w x
  | .big, w, x => (toBytesLE w x).reverse

/-- The value of a variable whose bytes are `bs`, in byte order `e`. -/
def Endian.load : Endian → List UInt8 → ℕ
  | .little, bs => ofBytesLE bs
  | .big, bs => ofBytesLE bs.reverse

@[simp] theorem length_toBytesLE (w x : ℕ) : (toBytesLE w x).length = w := by
  induction w generalizing x with
  | zero => rfl
  | succ w ih => simp [toBytesLE, ih]

theorem ofBytesLE_toBytesLE (w x : ℕ) : ofBytesLE (toBytesLE w x) = x % 256 ^ w := by
  induction w generalizing x with
  | zero => simp [toBytesLE, ofBytesLE, Nat.mod_one]
  | succ w ih =>
    rw [toBytesLE, ofBytesLE, ih, UInt8.toNat_ofNat_of_lt (Nat.mod_lt x (by decide)),
      Nat.pow_succ', Nat.mod_mul]

theorem ofBytesLE_lt (bs : List UInt8) : ofBytesLE bs < 256 ^ bs.length := by
  induction bs with
  | nil => simp [ofBytesLE]
  | cons b bs ih =>
    have hb : b.toNat < 256 := b.toNat_lt_size
    rw [ofBytesLE, List.length_cons, Nat.pow_succ]
    omega

theorem toBytesLE_ofBytesLE (bs : List UInt8) : toBytesLE bs.length (ofBytesLE bs) = bs := by
  induction bs with
  | nil => rfl
  | cons b bs ih =>
    have hb : b.toNat < 256 := b.toNat_lt_size
    rw [List.length_cons, toBytesLE, ofBytesLE, Nat.add_mul_mod_self_left, Nat.mod_eq_of_lt hb,
      Nat.add_mul_div_left _ _ (by decide), Nat.div_eq_of_lt hb, Nat.zero_add, ih]
    exact congrArg (· :: bs) (UInt8.toNat.inj (UInt8.toNat_ofNat_of_lt hb))

@[simp] theorem Endian.length_store (e : Endian) (w x : ℕ) : (e.store w x).length = w := by
  cases e <;> simp [Endian.store]

/-- **Round trip of a field.** Loading the bytes that store `x` in the same byte order gives `x`
back, when `x` fits in the field. -/
theorem Endian.load_store (e : Endian) {w x : ℕ} (h : x < 256 ^ w) : e.load (e.store w x) = x := by
  cases e <;> simp [Endian.load, Endian.store, ofBytesLE_toBytesLE, Nat.mod_eq_of_lt h]

/-- Storing what bytes load gives the bytes back. -/
theorem Endian.store_load (e : Endian) (bs : List UInt8) : e.store bs.length (e.load bs) = bs := by
  cases e
  · exact toBytesLE_ofBytesLE bs
  · simpa [Endian.store, Endian.load] using congrArg List.reverse (toBytesLE_ofBytesLE bs.reverse)

theorem Endian.load_lt (e : Endian) (bs : List UInt8) : e.load bs < 256 ^ bs.length := by
  cases e
  · exact ofBytesLE_lt bs
  · simpa using ofBytesLE_lt bs.reverse

/-! ### Records -/

/-- The ASCII bytes of `"EOSTREAM"`, the end-of-stream sentinel in a timestamp slot. -/
def eostream : List UInt8 := [69, 79, 83, 84, 82, 69, 65, 77]

/-- A record as a sender writes it in byte order `e`: the 8-byte timestamp `t`, the 4-byte
payload size and the payload `p`. -/
def encodeRecord (e : Endian) (t : ℕ) (p : List UInt8) : List UInt8 :=
  e.store 8 t ++ e.store 4 p.length ++ p

/-- A stream of records in byte order `e`, closed by the sentinel. -/
def encodeStream (e : Endian) (recs : List (ℕ × List UInt8)) : List UInt8 :=
  (recs.map fun r => encodeRecord e r.1 r.2).flatten ++ eostream

/-- What the reading half of a pass of `stream_mgr`'s loop finds on the stream, with the bytes
left after it. -/
inductive Header
  /-- The loop breaks: `recv_from_stream` returned fewer bytes than asked for the timestamp
  (`none`), or, after the timestamp `t` was enqueued (`some t`), for the size or the payload; or
  the size exceeds `ENCODED_FRAME_BUF_SIZE`. -/
  | broken (t : Option ℕ) (rest : List UInt8)
  /-- The timestamp slot holds `EOSTREAM`. -/
  | eos (rest : List UInt8)
  /-- A whole record: its timestamp and payload. -/
  | packet (t : ℕ) (payload : List UInt8) (rest : List UInt8)
deriving DecidableEq, Repr

/-- Modelled from the spec: `recv_from_stream(clientfd, buf, n)` of `network.h`, which is not
among the sources, receives exactly `n` bytes of the stream ("receive exactly 8 bytes"), or all
that are left when the stream ends first; it gives them and the rest of the stream. -/
def recvFromStream (input : List UInt8) (n : ℕ) : List UInt8 × List UInt8 :=
  (input.take n, input.drop n)

/-- The reads of one pass of `stream_mgr`'s loop on a host of byte order `host`. -/
def readPacket (host : Endian) (encodedFrameBufSize : ℕ) (input : List UInt8) : Header :=
  let (timestamp, input) := recvFromStream input 8
  if timestamp.length ≠ 8 then .broken none input
  else if timestamp = eostream then .eos input
  else
    let t := host.load timestamp
    let (frameSize, input) := recvFromStream input 4
    if frameSize.length ≠ 4 then .broken (some t) input
    else if host.load frameSize > encodedFrameBufSize then .broken (some t) input
    else
      let (payload, input) := recvFromStream input (host.load frameSize)
      if payload.length ≠ host.load frameSize then .broken (some t) input
      else .packet t payload input

/-- The sentinel ends the stream. -/
theorem readPacket_eostream (host : Endian) (encodedFrameBufSize : ℕ) (rest : List UInt8) :
    readPacket host encodedFrameBufSize (eostream ++ rest) = .eos rest :=
  rfl

/-- **Round trip of a record.** On a host of byte order `e`, the reads of one pass decode a
record written in byte order `e` whose timestamp fits 64 bits and is not the sentinel, and whose
payload fits the buffer. -/
theorem readPacket_encodeRecord {e : Endian} {encodedFrameBufSize t : ℕ} {p : List UInt8}
    (hbuf : encodedFrameBufSize < 2 ^ 32) (ht : t < 2 ^ 64) (hp : p.length ≤ encodedFrameBufSize)
    (heos : e.store 8 t ≠ eostream) (rest : List UInt8) :
    readPacket e encodedFrameBufSize (encodeRecord e t p ++ rest) = .packet t p rest := by
  have hsize : e.load (e.store 4 p.length) = p.length := e.load_store (by omega)
  simp [readPacket, recvFromStream, encodeRecord, List.take_left', List.drop_left', heos,
    e.load_store (show t < 256 ^ 8 by omega), hsize, hp]

/-- What the reads take for the sentinel is the sentinel. -/
theorem readPacket_eos_eq {host : Endian} {encodedFrameBufSize : ℕ} {input rest : List UInt8}
    (h : readPacket host encodedFrameBufSize input = .eos rest) : input = eostream ++ rest := by
  dsimp only [readPacket, recvFromStream] at h
  by_cases h₁ : (input.take 8).length ≠ 8
  · rw [if_pos h₁] at h; cases h
  by_cases h₂ : input.take 8 = eostream
  · rw [if_neg h₁, if_pos h₂] at h
    cases h
    rw [← h₂, List.take_append_drop]
  rw [if_neg h₁, if_neg h₂] at h
  split_ifs at h

/-- **What the reads accept is a record.** When one pass's reads find a whole record, the bytes
they took are that record written in the host's byte order, with a timestamp of 64 bits that is
not the sentinel and a payload that fits the buffer. -/
theorem readPacket_packet_eq {host : Endian} {encodedFrameBufSize t : ℕ}
    {input p rest : List UInt8} (h : readPacket host encodedFrameBufSize input = .packet t p rest) :
    input = encodeRecord host t p ++ rest ∧ t < 2 ^ 64 ∧ p.length ≤ encodedFrameBufSize ∧
      host.store 8 t ≠ eostream := by
  dsimp only [readPacket, recvFromStream] at h
  by_cases h₁ : (input.take 8).length ≠ 8
  · rw [if_pos h₁] at h; cases h
  by_cases h₂ : input.take 8 = eostream
  · rw [if_neg h₁, if_pos h₂] at h; cases h
  rw [if_neg h₁, if_neg h₂] at h
  split_ifs at h with h₃ h₄ h₅
  cases h
  simp only [not_not, not_lt] at h₁ h₃ h₄ h₅
  have hts := host.store_load (input.take 8)
  have hsz := host.store_load ((input.drop 8).take 4)
  rw [h₁] at hts
  rw [h₃] at hsz
  refine ⟨?_, ?_, by rw [h₅]; exact h₄, by rw [hts]; exact h₂⟩
  · rw [encodeRecord, h₅, hts, hsz, List.append_assoc, List.append_assoc, List.take_append_drop,
      List.take_append_drop, List.take_append_drop]
  · have := host.load_lt (input.take 8)
    rw [h₁] at this
    exact this

/-- A whole record takes at least the twelve bytes of its header. -/
theorem readPacket_packet_length {host : Endian} {encodedFrameBufSize t : ℕ}
    {input p rest : List UInt8}
    (h : readPacket host encodedFrameBufSize input = .packet t p rest) :
    rest.length + 12 ≤ input.length := by
  rw [(readPacket_packet_eq h).1]
  simp [encodeRecord]
  omega

end HandMotionCapture.StreamMgr
