import WLManager.Client.LockedTable
import WLManager.Collection.Compaction

/-!
# The frame output with its raw dump

In the `OUTPUT_DEBUG` build `inputBufferLocked` appends every buffer it has locked to a raw file:
`reduceRgbaToRgb` drops the fourth byte of every pixel, in the buffer itself, and the bytes that are
left at its front are written.

Memory is the list of the bytes from `data` on. An `int` product outside the range of `int` has no
defined result, and neither has an access behind the end of the memory.
-/

namespace WLManager

open Transition

/-- The members `inputBufferLocked` uses; `rawFp` is what has been written to the raw file. -/
structure WLFrameOutput where
  mFrameAvailable : Bool
  mWLConsumer : WLConsumer
  rawFp : List UInt8

namespace WLFrameOutput

/-! ## The reduction -/

/-- One pass through the loop of `reduceRgbaToRgb`: `*buf++ = *readPtr++` three times, and a
`readPtr++`. -/
def reducePixel : List Cursors.Move := [.copy, .copy, .copy, .skip]

def reduceLoop (pixelCount : BitVec 32) : List Cursors.Move :=
  (List.replicate pixelCount.toNat reducePixel).flatten

def reduceRgbaToRgb (buf : List UInt8) (pixelCount : BitVec 32) : Option (List UInt8) :=
  (run Cursors.step (Cursors.start buf) (reduceLoop pixelCount)).map Cursors.memory

/-- The reduction as a compaction of the buffer. -/
theorem reduceLoop_eq (pixelCount : BitVec 32) :
    reduceLoop pixelCount = Cursors.compaction 3 1 pixelCount.toNat := rfl

/-- The reduced pixels are at the front of the buffer, and nothing behind them has changed. -/
theorem reduceRgbaToRgb_eq {buf : List UInt8} {pixelCount : BitVec 32}
    (h : 4 * pixelCount.toNat ≤ buf.length) :
    ∃ reduced, reduceRgbaToRgb buf pixelCount = some reduced ∧ reduced.length = buf.length ∧
      reduced.take (3 * pixelCount.toNat) = Cursors.kept buf 3 1 pixelCount.toNat ∧
      ∀ p, 3 * pixelCount.toNat ≤ p → reduced[p]? = buf[p]? := by
  have hfits : (3 + 1) * pixelCount.toNat ≤ buf.length := h
  obtain ⟨c, hrun, hintact, hwrite, -, htake⟩ := Cursors.run_compaction hfits
  rw [hwrite] at htake
  refine ⟨c.memory, ?_, hintact.length_eq, htake, fun p hp ↦ hintact.rest p (hwrite ▸ hp)⟩
  unfold reduceRgbaToRgb
  rw [reduceLoop_eq, hrun]
  rfl

/-- The reduction takes the first three bytes of every pixel, leaves the buffer alone behind them
and reads no byte that it has written. -/
theorem reduceRgbaToRgb_loses_nothing (buf : List UInt8) (pixelCount : BitVec 32)
    (h : 4 * pixelCount.toNat ≤ buf.length) :
    (∃ reduced, reduceRgbaToRgb buf pixelCount = some reduced ∧ reduced.length = buf.length ∧
      (∀ i < pixelCount.toNat, ∀ k < 3, reduced[3 * i + k]? = buf[4 * i + k]?) ∧
      ∀ p, 3 * pixelCount.toNat ≤ p → reduced[p]? = buf[p]?) ∧
    StatesAll Cursors.step (fun c ↦ ∀ p, c.readPtr ≤ p → c.memory[p]? = buf[p]?)
      (Cursors.start buf) (reduceLoop pixelCount) := by
  obtain ⟨reduced, hreduced, hlength, htake, hrest⟩ := reduceRgbaToRgb_eq h
  refine ⟨⟨reduced, hreduced, hlength, fun i hi k hk ↦ ?_, hrest⟩,
    Cursors.statesAll_unread buf _⟩
  have hlt : 3 * i + k < 3 * pixelCount.toNat := by omega
  calc
    reduced[3 * i + k]? = (reduced.take (3 * pixelCount.toNat))[3 * i + k]? :=
      (List.getElem?_take_of_lt hlt).symm
    _ = (Cursors.kept buf 3 1 pixelCount.toNat)[3 * i + k]? := by rw [htake]
    _ = buf[4 * i + k]? := Cursors.getElem?_kept h hi hk

theorem reduceRgbaToRgb_two_pixels :
    4 * (2 : BitVec 32).toNat ≤ [1, 2, 3, 4, 5, 6, 7, 8].length ∧
      ∃ reduced, reduceRgbaToRgb [1, 2, 3, 4, 5, 6, 7, 8] 2 = some reduced ∧
        reduced[3]? = some 5 := by
  refine ⟨by decide, ?_⟩
  obtain ⟨⟨reduced, hreduced, -, hbytes, -⟩, -⟩ :=
    reduceRgbaToRgb_loses_nothing [1, 2, 3, 4, 5, 6, 7, 8] 2 (by decide)
  exact ⟨reduced, hreduced, hbytes 1 (by decide) 0 (by decide)⟩

/-! ## The dump -/

def kOutBytesPerPixel : ℤ := 3

/-- An `int` variable that is given a `uint32_t`. -/
def toInt (n : ℕ) : ℤ := (BitVec.ofNat 32 n).toInt

/-- The product of two `int` values. -/
def mulInt (x y : ℤ) : Option ℤ :=
  if -2 ^ 31 ≤ x * y ∧ x * y < 2 ^ 31 then some (x * y) else none

/-- The bytes `fwrite` reads. -/
def fwrite (data : List UInt8) (length : SizeT) : Option (List UInt8) :=
  if length.toNat ≤ data.length then some (data.take length.toNat) else none

/-- The `OUTPUT_DEBUG` part of `inputBufferLocked`: what it writes. `width * height` is computed
twice, with one result. -/
def outputDebug (imgBuffer : LockedBuffer) (data : List UInt8) : Option (List UInt8) := do
  let width := toInt imgBuffer.width
  let height := toInt imgBuffer.height
  let pixelCount ← mulInt width height
  let data ← reduceRgbaToRgb data (BitVec.ofInt 32 pixelCount)
  let rgbDataLen ← mulInt pixelCount kOutBytesPerPixel
  fwrite data (BitVec.ofInt 64 rgbDataLen)

/-- Without a frame the call waits and returns. With one it locks the next buffer, whose memory is
`data`, dumps it and unlocks it; the status of `unlockBuffer` is ignored. -/
def inputBufferLocked (s : WLFrameOutput) (lock : WLConsumer.LockAnswers)
    (unlock : WLConsumer.UnlockAnswers) (data : List UInt8) : Option WLFrameOutput :=
  if ¬ s.mFrameAvailable then some s
  else do
    let res ← s.mWLConsumer.lockNextBuffer (some .empty) lock
    if res.status ≠ .OK then
      some { s with mFrameAvailable := false, mWLConsumer := res.consumer }
    else
      let imgBuffer := res.nativeBuffer.getD .empty
      let written ← outputDebug imgBuffer data
      let unlocked ← res.consumer.unlockBuffer imgBuffer unlock
      some ⟨false, unlocked.consumer, s.rawFp ++ written⟩

/-- A call now finds a frame and locks its buffer. -/
structure LocksBuffer (s : WLFrameOutput) (lock : WLConsumer.LockAnswers) : Prop where
  available : s.mFrameAvailable = true
  acquired : lock.acquireErr = .OK
  locked : lock.lockErr = .OK
  free : s.mWLConsumer.HasFreeEntry
  named : s.mWLConsumer.EntriesNamed

/-- The call appends what the dump of the locked buffer writes, and returns if the dump does. -/
theorem LocksBuffer.inputBufferLocked {s : WLFrameOutput} {lock : WLConsumer.LockAnswers}
    (h : s.LocksBuffer lock) (unlock : WLConsumer.UnlockAnswers) (data : List UInt8) :
    (s.inputBufferLocked lock unlock data).map WLFrameOutput.rawFp =
      (outputDebug (WLConsumer.filledBuffer lock) data).map (s.rawFp ++ ·) := by
  have hlock := s.mWLConsumer.lockNextBuffer_locked .empty h.acquired h.locked h.free
  have hunlock := WLConsumer.call_unlockBuffer_isSome (h.named.locked lock)
    (WLConsumer.filledBuffer lock) unlock
  unfold WLConsumer.call at hunlock
  rw [Option.isSome_map] at hunlock
  obtain ⟨unlocked, hunlocked⟩ := Option.isSome_iff_exists.mp hunlock
  unfold WLFrameOutput.inputBufferLocked
  rw [if_neg (not_not_intro h.available), hlock]
  simp only [Option.bind_eq_bind, Option.bind_some, ne_eq, not_true_eq_false, if_false,
    Option.getD_some, hunlocked]
  cases outputDebug (WLConsumer.filledBuffer lock) data <;> rfl

end WLFrameOutput

end WLManager
