import Mathlib.Tactic.Ring
import WLManager.Client.WLFrameOutput
import WLManager.Collection.Grid

/-!
# The raw dump and the image

The image of a locked buffer has its rows `stride` pixels apart. The dump reduces the first
`width * height` pixels of the memory and writes these, as if the rows followed each other without a
gap. It computes the number of bytes as an `int`.
-/

namespace WLManager.WLFrameOutput

open Transition

/-- The red, green and blue byte of a pixel. -/
def rgb (data : List UInt8) (index : ℕ) : List UInt8 := Cursors.block data (4 * index) 3

def image (buffer : GraphicBuffer) (data : List UInt8) : List UInt8 :=
  Grid.rowMajor buffer.height buffer.width fun row col ↦ rgb data (row * buffer.stride + col)

/-- The call appends the image of the buffer it locks to the raw file. -/
def DumpsImage (s : WLFrameOutput) (lock : WLConsumer.LockAnswers)
    (unlock : WLConsumer.UnlockAnswers) (data : List UInt8) : Prop :=
  ∃ t, s.inputBufferLocked lock unlock data = some t ∧ t.rawFp = s.rawFp ++ image lock.buffer data

/-- A buffer with 32-bit sizes whose rows do not overlap. -/
structure WellFormed (buffer : GraphicBuffer) : Prop where
  width_lt : buffer.width < 2 ^ 32
  height_lt : buffer.height < 2 ^ 32
  width_le_stride : buffer.width ≤ buffer.stride

def Covers (buffer : GraphicBuffer) (data : List UInt8) : Prop :=
  4 * (buffer.stride * buffer.height) ≤ data.length

/-- The number of bytes in the image is an `int`. -/
def FitsInt (buffer : GraphicBuffer) : Prop := 3 * (buffer.width * buffer.height) < 2 ^ 31

/-- Counted without gaps between the rows, the pixels look the same. -/
def LooksPacked (buffer : GraphicBuffer) (data : List UInt8) : Prop :=
  ∀ row < buffer.height, ∀ col < buffer.width,
    rgb data (row * buffer.width + col) = rgb data (row * buffer.stride + col)

/-- The rows that are looked at follow each other without a gap. -/
def Packed (buffer : GraphicBuffer) : Prop :=
  buffer.stride = buffer.width ∨ buffer.height ≤ 1 ∨ buffer.width = 0

instance (buffer : GraphicBuffer) (data : List UInt8) : Decidable (Covers buffer data) :=
  inferInstanceAs (Decidable (_ ≤ _))

instance (buffer : GraphicBuffer) : Decidable (FitsInt buffer) :=
  inferInstanceAs (Decidable (_ < _))

instance (buffer : GraphicBuffer) : Decidable (Packed buffer) :=
  inferInstanceAs (Decidable (_ ∨ _ ∨ _))

/-! ## The size of the image -/

theorem toInt_cases {n : ℕ} (h : n < 2 ^ 32) :
    (toInt n = n ∧ n < 2 ^ 31) ∨ (toInt n = n - 2 ^ 32 ∧ 2 ^ 31 ≤ n) := by
  unfold toInt
  rw [BitVec.toInt_ofNat', Int.bmod_def]
  omega

theorem mulInt_eq_some_iff {x y z : ℤ} :
    mulInt x y = some z ↔ x * y = z ∧ -2 ^ 31 ≤ z ∧ z < 2 ^ 31 := by
  unfold mulInt
  rw [Option.ite_none_right_eq_some, Option.some.injEq]
  constructor
  · rintro ⟨hbounds, rfl⟩
    exact ⟨rfl, hbounds⟩
  · rintro ⟨rfl, hbounds⟩
    exact ⟨hbounds, rfl⟩

/-- The two sizes as `int`s have the right product if the number of bytes is an `int`. -/
theorem toInt_mul_toInt {width height : ℕ} (hwidth : width < 2 ^ 32) (hheight : height < 2 ^ 32)
    (hfits : 3 * (width * height) < 2 ^ 31) :
    toInt width * toInt height = ((width * height : ℕ) : ℤ) := by
  rcases Nat.eq_zero_or_pos width with rfl | hw
  · rw [Nat.zero_mul]
    exact Int.zero_mul _
  rcases Nat.eq_zero_or_pos height with rfl | hh
  · rw [Nat.mul_zero]
    exact Int.mul_zero _
  have hwidth' : width ≤ width * height := Nat.le_mul_of_pos_right width hh
  have hheight' : height ≤ width * height := Nat.le_mul_of_pos_left height hw
  rcases toInt_cases hwidth with ⟨hw', -⟩ | ⟨-, hw'⟩
  · rcases toInt_cases hheight with ⟨hh', -⟩ | ⟨-, hh'⟩
    · rw [hw', hh', Nat.cast_mul]
    · omega
  · omega

/-- A `size_t` that is given an `int`. -/
theorem toNat_ofInt_cases {n : ℤ} (hlow : -2 ^ 31 ≤ n) (hhigh : n < 2 ^ 31) :
    ((BitVec.ofInt 64 n).toNat : ℤ) = n ∨ ((BitVec.ofInt 64 n).toNat : ℤ) = n + 2 ^ 64 := by
  rw [BitVec.toNat_ofInt]
  omega

theorem toNat_ofInt_natCast {w n : ℕ} (h : n < 2 ^ w) : (BitVec.ofInt w (n : ℤ)).toNat = n := by
  rw [BitVec.ofInt_natCast, BitVec.toNat_ofNat, Nat.mod_eq_of_lt h]

/-- No other sizes give the right number of bytes: a negative size puts the product off by a
multiple of `2 ^ 32` that three bytes a pixel cannot make up for. -/
theorem fits_of_byteCount {width height : ℕ} (hwidth : width < 2 ^ 32) (hheight : height < 2 ^ 32)
    (hlow : -2 ^ 31 ≤ toInt width * toInt height * 3)
    (hhigh : toInt width * toInt height * 3 < 2 ^ 31)
    (hcount : (BitVec.ofInt 64 (toInt width * toInt height * 3)).toNat = 3 * (width * height)) :
    3 * (width * height) < 2 ^ 31 := by
  have hbytes := toNat_ofInt_cases hlow hhigh
  rw [hcount, Nat.cast_mul, Nat.cast_mul] at hbytes
  suffices hpixels : 3 * ((width : ℤ) * height) < 2 ^ 31 by exact_mod_cast hpixels
  generalize hpixels : (width : ℤ) * height = pixels at hbytes ⊢
  rcases toInt_cases hwidth with ⟨hw, hw'⟩ | ⟨hw, hw'⟩
  · rcases toInt_cases hheight with ⟨hh, hh'⟩ | ⟨hh, hh'⟩
    · rw [hw, hh, hpixels] at hbytes hhigh
      omega
    · have hexpand : toInt width * toInt height = pixels - 2 ^ 32 * width := by
        rw [hw, hh, ← hpixels]
        ring
      rw [hexpand] at hbytes hhigh
      omega
  · rcases toInt_cases hheight with ⟨hh, hh'⟩ | ⟨hh, hh'⟩
    · have hexpand : toInt width * toInt height = pixels - 2 ^ 32 * height := by
        rw [hw, hh, ← hpixels]
        ring
      rw [hexpand] at hbytes hhigh
      omega
    · have hexpand : toInt width * toInt height =
          pixels - 2 ^ 32 * (width + height) + 2 ^ 64 := by
        rw [hw, hh, ← hpixels]
        ring
      rw [hexpand] at hbytes hhigh
      omega

/-! ## The image and what is written -/

/-- The image as the dump takes it to be. -/
def packedImage (buffer : GraphicBuffer) (data : List UInt8) : List UInt8 :=
  Grid.rowMajor buffer.height buffer.width fun row col ↦ rgb data (row * buffer.width + col)

theorem kept_eq_packedImage (buffer : GraphicBuffer) (data : List UInt8) :
    Cursors.kept data 3 1 (buffer.height * buffer.width) = packedImage buffer data :=
  Grid.flatMap_range_mul (rgb data) buffer.height buffer.width

section Covered

variable {buffer : GraphicBuffer} {data : List UInt8} (hcovers : Covers buffer data)

include hcovers

/-- Wherever its rows are taken to begin, a pixel of the image has three bytes. -/
theorem length_rgb {pitch : ℕ} (hwidth : buffer.width ≤ pitch) (hpitch : pitch ≤ buffer.stride) :
    ∀ row < buffer.height, ∀ col < buffer.width,
      (rgb data (row * pitch + col)).length = 3 := by
  intro row hrow col hcol
  have hlt : row * pitch + col < buffer.stride * buffer.height := by
    calc
      row * pitch + col < row * pitch + pitch := Nat.add_lt_add_left (hcol.trans_le hwidth) _
      _ = pitch * (row + 1) := by rw [Nat.mul_comm, Nat.mul_succ]
      _ ≤ buffer.stride * buffer.height := Nat.mul_le_mul hpitch hrow
  unfold Covers at hcovers
  apply Cursors.length_block
  omega

theorem length_image (hstride : buffer.width ≤ buffer.stride) :
    (image buffer data).length = 3 * (buffer.width * buffer.height) := by
  unfold image
  rw [Grid.length_rowMajor (length_rgb hcovers hstride le_rfl), Nat.mul_assoc]

/-- What is written is the image exactly when the pixels look as if the rows had no gap. -/
theorem packedImage_eq_image_iff (hstride : buffer.width ≤ buffer.stride) :
    packedImage buffer data = image buffer data ↔ LooksPacked buffer data :=
  Grid.rowMajor_inj (length_rgb hcovers le_rfl hstride) (length_rgb hcovers hstride le_rfl)

end Covered

section Dump

variable {lock : WLConsumer.LockAnswers} {data : List UInt8}

/-- As long as its size is an `int`, the dump writes the first `width * height` pixels. -/
theorem outputDebug_of_fits (hformed : WellFormed lock.buffer) (hcovers : Covers lock.buffer data)
    (hfits : FitsInt lock.buffer) :
    outputDebug (WLConsumer.filledBuffer lock) data = some (packedImage lock.buffer data) := by
  unfold FitsInt at hfits
  have hproduct := toInt_mul_toInt hformed.width_lt hformed.height_lt hfits
  have hfront : lock.buffer.width * lock.buffer.height ≤ lock.buffer.stride * lock.buffer.height :=
    Nat.mul_le_mul_right _ hformed.width_le_stride
  have hkept := kept_eq_packedImage lock.buffer data
  rw [Nat.mul_comm] at hkept
  unfold Covers at hcovers
  generalize lock.buffer.width * lock.buffer.height = pixels at hfits hproduct hfront hkept
  have hpixelCount : mulInt (toInt lock.buffer.width) (toInt lock.buffer.height) =
      some (pixels : ℤ) := mulInt_eq_some_iff.mpr ⟨hproduct, by omega⟩
  have hrgbDataLen : mulInt pixels kOutBytesPerPixel = some ((3 * pixels : ℕ) : ℤ) := by
    refine mulInt_eq_some_iff.mpr ⟨?_, by omega⟩
    rw [Int.mul_comm, Nat.cast_mul]
    rfl
  have hcount : (BitVec.ofInt 32 (pixels : ℤ)).toNat = pixels :=
    toNat_ofInt_natCast (by omega)
  have hlength : (BitVec.ofInt 64 ((3 * pixels : ℕ) : ℤ)).toNat = 3 * pixels :=
    toNat_ofInt_natCast (by omega)
  have hmemory : 4 * (BitVec.ofInt 32 (pixels : ℤ)).toNat ≤ data.length := by
    rw [hcount]
    omega
  obtain ⟨reduced, hreduced, hsame, htake, -⟩ := reduceRgbaToRgb_eq hmemory
  rw [hcount, hkept] at htake
  have hwrite : (BitVec.ofInt 64 ((3 * pixels : ℕ) : ℤ)).toNat ≤ reduced.length := by
    rw [hlength, hsame]
    omega
  unfold outputDebug WLConsumer.filledBuffer
  simp only [Option.bind_eq_bind, hpixelCount, Option.bind_some, hreduced, hrgbDataLen]
  unfold fwrite
  rw [if_pos hwrite, hlength, htake]

/-- A dump of the right length has written an `int` number of bytes. -/
theorem fits_of_outputDebug (hformed : WellFormed lock.buffer) {written : List UInt8}
    (hdump : outputDebug (WLConsumer.filledBuffer lock) data = some written)
    (hlength : written.length = 3 * (lock.buffer.width * lock.buffer.height)) :
    FitsInt lock.buffer := by
  unfold outputDebug WLConsumer.filledBuffer at hdump
  simp only [Option.bind_eq_bind, Option.bind_eq_some_iff, mulInt_eq_some_iff] at hdump
  obtain ⟨pixelCount, ⟨rfl, -⟩, reduced, -, rgbDataLen, ⟨rfl, hlow, hhigh⟩, hwrite⟩ := hdump
  unfold fwrite at hwrite
  obtain ⟨hle, hwritten⟩ := Option.ite_none_right_eq_some.mp hwrite
  cases hwritten
  rw [List.length_take_of_le hle] at hlength
  exact fits_of_byteCount hformed.width_lt hformed.height_lt hlow hhigh hlength

theorem outputDebug_eq_image_iff (hformed : WellFormed lock.buffer)
    (hcovers : Covers lock.buffer data) :
    outputDebug (WLConsumer.filledBuffer lock) data = some (image lock.buffer data) ↔
      FitsInt lock.buffer ∧ LooksPacked lock.buffer data := by
  rw [← packedImage_eq_image_iff hcovers hformed.width_le_stride]
  constructor
  · intro hdump
    have hfits := fits_of_outputDebug hformed hdump
      (length_image hcovers hformed.width_le_stride)
    rw [outputDebug_of_fits hformed hcovers hfits] at hdump
    exact ⟨hfits, Option.some.inj hdump⟩
  · rintro ⟨hfits, hpacked⟩
    rw [outputDebug_of_fits hformed hcovers hfits, hpacked]

/-- The dump of one buffer with given content. -/
theorem LocksBuffer.dumpsImage_iff {s : WLFrameOutput} (hlocks : s.LocksBuffer lock)
    (unlock : WLConsumer.UnlockAnswers) (hformed : WellFormed lock.buffer)
    (hcovers : Covers lock.buffer data) :
    s.DumpsImage lock unlock data ↔ FitsInt lock.buffer ∧ LooksPacked lock.buffer data := by
  rw [← outputDebug_eq_image_iff hformed hcovers]
  have hcall := hlocks.inputBufferLocked unlock data
  unfold DumpsImage
  rw [← Option.map_eq_some_iff, hcall, Option.map_eq_some_iff]
  simp only [List.append_cancel_left_eq, exists_eq_right]

end Dump

/-! ## Gaps between the rows -/

/-- Whatever the memory holds, the pixels look packed exactly when they are. -/
theorem looksPacked_iff_packed {buffer : GraphicBuffer} (hstride : buffer.width ≤ buffer.stride) :
    (∀ data, Covers buffer data → LooksPacked buffer data) ↔ Packed buffer := by
  constructor
  · intro hall
    by_contra hpacked
    unfold Packed at hpacked
    have hheight : 2 ≤ buffer.height := by omega
    have hsize : buffer.stride * 2 ≤ buffer.stride * buffer.height :=
      Nat.mul_le_mul_left buffer.stride hheight
    -- one byte that differs from all others, at the first pixel behind the first row
    have hsecond := hall ((List.replicate (4 * (buffer.stride * buffer.height)) 0).set
      (4 * buffer.width) 1) (by unfold Covers; rw [List.length_set, List.length_replicate])
      1 (by omega) 0 (by omega)
    have hfirst := congrArg (fun bytes : List UInt8 ↦ bytes[0]?) hsecond
    simp only [rgb, Cursors.getElem?_block (Nat.succ_pos 2), Nat.one_mul, Nat.add_zero] at hfirst
    rw [List.getElem?_set_self (by rw [List.length_replicate]; omega),
      List.getElem?_set_ne (by omega), List.getElem?_replicate, if_pos (by omega)] at hfirst
    exact absurd hfirst (by decide)
  · intro hpacked data _ row hrow col hcol
    rcases hpacked with hpitch | hheight | hwidth
    · rw [hpitch]
    · rw [Nat.lt_one_iff.mp (hrow.trans_le hheight), Nat.zero_mul, Nat.zero_mul]
    · exact absurd (hwidth ▸ hcol) (Nat.not_lt_zero col)

/-- A buffer that can be all zeros. -/
theorem covers_replicate (buffer : GraphicBuffer) :
    Covers buffer (List.replicate (4 * (buffer.stride * buffer.height)) 0) := by
  unfold Covers
  rw [List.length_replicate]

/-- The raw file gets the image of the buffer exactly when its size is an `int` and the pixels look
packed; it gets the image of every content exactly when they are packed. -/
theorem dumpsImage_iff_packed (s : WLFrameOutput) (lock : WLConsumer.LockAnswers)
    (unlock : WLConsumer.UnlockAnswers) (hlocks : s.LocksBuffer lock)
    (hformed : WellFormed lock.buffer) :
    (∀ data, Covers lock.buffer data →
      (s.DumpsImage lock unlock data ↔ FitsInt lock.buffer ∧ LooksPacked lock.buffer data)) ∧
    ((∀ data, Covers lock.buffer data → s.DumpsImage lock unlock data) ↔
      FitsInt lock.buffer ∧ Packed lock.buffer) := by
  have hone : ∀ data, Covers lock.buffer data →
      (s.DumpsImage lock unlock data ↔ FitsInt lock.buffer ∧ LooksPacked lock.buffer data) :=
    fun data hcovers ↦ hlocks.dumpsImage_iff unlock hformed hcovers
  refine ⟨hone, ?_⟩
  rw [← looksPacked_iff_packed hformed.width_le_stride]
  constructor
  · intro hall
    have hzeros := covers_replicate lock.buffer
    exact ⟨((hone _ hzeros).mp (hall _ hzeros)).1,
      fun data hcovers ↦ ((hone data hcovers).mp (hall data hcovers)).2⟩
  · rintro ⟨hfits, hlooks⟩ data hcovers
    exact (hone data hcovers).mpr ⟨hfits, hlooks data hcovers⟩

/-- An output with a frame to lock and nothing in its raw file. -/
def waitingFrame : WLFrameOutput where
  mFrameAvailable := true
  mWLConsumer := .construct 1 0
  rawFp := []

/-- A buffer one pixel wide and two high, with this stride. -/
def twoRows (stride : ℕ) : WLConsumer.LockAnswers :=
  { WLConsumer.LockAnswers.onePixel 0 .OK 64 with
    slotBuffer := { GraphicBuffer.onePixel 0 with height := 2, stride := stride } }

theorem locksBuffer_twoRows (stride : ℕ) : waitingFrame.LocksBuffer (twoRows stride) where
  available := rfl
  acquired := rfl
  locked := rfl
  free := ⟨.unused, List.mem_singleton_self _, rfl⟩
  named := WLConsumer.entriesNamed_construct 1 0

/-- Two rows without a gap. -/
theorem dumpsImage_twoRows :
    waitingFrame.DumpsImage (twoRows 1) ⟨.OK, -1⟩ [1, 2, 3, 4, 5, 6, 7, 8] :=
  (dumpsImage_iff_packed waitingFrame (twoRows 1) ⟨.OK, -1⟩ (locksBuffer_twoRows 1)
    ⟨by decide, by decide, by decide⟩).2.mpr ⟨by decide, by decide⟩ _ (by decide)

/-- With a gap of one pixel the second row written is the gap. -/
theorem not_dumpsImage_twoRows :
    waitingFrame.LocksBuffer (twoRows 2) ∧ WellFormed (twoRows 2).buffer ∧
      Covers (twoRows 2).buffer [1, 2, 3, 4, 5, 6, 7, 8, 9, 10, 11, 12, 13, 14, 15, 16] ∧
      ¬ waitingFrame.DumpsImage (twoRows 2) ⟨.OK, -1⟩
        [1, 2, 3, 4, 5, 6, 7, 8, 9, 10, 11, 12, 13, 14, 15, 16] := by
  have hformed : WellFormed (twoRows 2).buffer := ⟨by decide, by decide, by decide⟩
  have hcovers : Covers (twoRows 2).buffer
      [1, 2, 3, 4, 5, 6, 7, 8, 9, 10, 11, 12, 13, 14, 15, 16] := by decide
  refine ⟨locksBuffer_twoRows 2, hformed, hcovers, fun hdumps ↦ ?_⟩
  have hlooks := (((locksBuffer_twoRows 2).dumpsImage_iff _ hformed hcovers).mp hdumps).2
  have hsecond := hlooks 1 (by decide) 0 (by decide)
  exact absurd hsecond (by decide)

end WLManager.WLFrameOutput
