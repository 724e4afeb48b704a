import WLManager.Client.DisplayProjection

/-!
# The largest image

`setDisplayProjection` does not only fit the display into the video: an image of the display's
shape that fits there, at any scale, is in no direction more than a pixel and a small rounding
error larger than the one that is chosen.
-/

namespace WLManager.VirtualDisplayManager

open Numeric

theorem floor_of_toUInt32T {x : ℚ} {n : UInt32T} (hx : 0 ≤ x) (h : toUInt32T x = some n) :
    (n.toNat : ℤ) = ⌊x⌋ := by
  unfold toUInt32T at h
  rw [if_pos hx] at h
  obtain ⟨hrange, hn⟩ := Option.ite_none_right_eq_some.mp h
  cases hn
  rw [BitVec.toNat_ofInt]
  omega

/-- How a size is chosen: the width of the video and what the product leaves of the height, or its
height and what the quotient leaves of the width. -/
theorem outSize_eq_some {ops : FloatOps} {aspect : ℚ}
    {videoWidth videoHeight outWidth outHeight : UInt32T}
    (h : outSize ops aspect videoWidth videoHeight = some (outWidth, outHeight)) :
    (outWidth = videoWidth ∧ outHeight < videoHeight ∧
      toUInt32T (ops.scaleWidth (toFloat videoWidth) aspect) = some outHeight) ∨
    (outHeight = videoHeight ∧
      toUInt32T (ops.scaleHeight (toFloat videoHeight) aspect) = some outWidth) := by
  unfold outSize at h
  obtain ⟨scaled, hscaled, hsize⟩ := Option.bind_eq_some_iff.mp h
  split_ifs at hsize with hlimited
  · cases hsize
    exact .inl ⟨rfl, hlimited, hscaled⟩
  · obtain ⟨width, hwidth, hout⟩ := Option.bind_eq_some_iff.mp hsize
    cases hout
    exact .inr ⟨rfl, hwidth⟩

/-- What rounding may cost beside the truncation. -/
def slack : ℚ := 1 / 64

/-- Truncated results that stay below `2 ^ 16` lose less than a pixel and the slack. -/
theorem lt_floor_add_slack {e x y : ℚ} (h : Near e x y) (hx : 0 ≤ x) (he : 0 ≤ e)
    (he' : e ≤ 3 / 2 ^ 24) (hy : y ≤ maxSize + 1) : x < ⌊y⌋ + 1 + slack := by
  refine h.lt_floor_add hx he (by linarith) hy ?_
  norm_num [maxSize, slack]
  linarith

section OutSize

variable (ops : FloatOps) {info : DisplayInfo}
  (hwidth : 1 ≤ info.viewportW.toNat ∧ info.viewportW.toNat ≤ maxSize)
  (hheight : 1 ≤ info.viewportH.toNat ∧ info.viewportH.toNat ≤ maxSize)

include hwidth hheight

/-- An image of the display's shape that fits is hardly larger than the one that is chosen. -/
theorem outSize_largest {videoWidth videoHeight outWidth outHeight : UInt32T}
    (hvideoWidth : videoWidth.toNat ≤ maxSize) (hvideoHeight : videoHeight.toNat ≤ maxSize)
    (hout : outSize ops (displayAspect ops info) videoWidth videoHeight =
      some (outWidth, outHeight)) (houtWidth : outWidth.toNat ≤ videoWidth.toNat) {scale : ℚ}
    (hfitsWidth : scale * toFloat info.viewportW ≤ toFloat videoWidth)
    (hfitsHeight : scale * toFloat info.viewportH ≤ toFloat videoHeight) :
    scale * toFloat info.viewportW < toFloat outWidth + 1 + slack ∧
      scale * toFloat info.viewportH < toFloat outHeight + 1 + slack := by
  have hslack : 0 < 1 + slack := by norm_num [slack]
  have hW : 0 < toFloat info.viewportW := toFloat_pos hwidth.1
  have hH : 0 < toFloat info.viewportH := toFloat_pos hheight.1
  rcases outSize_eq_some hout with ⟨rfl, hlimited, hcast⟩ | ⟨rfl, hcast⟩
  · -- limited by narrow width
    have hfloor := floor_of_toUInt32T (scaleWidth_nonneg ops hwidth hheight outWidth) hcast
    have hbelow : ops.scaleWidth (toFloat outWidth) (displayAspect ops info) ≤ maxSize + 1 := by
      have hle : toFloat outHeight ≤ maxSize :=
        toFloat_le ((BitVec.lt_def.mp hlimited).le.trans hvideoHeight)
      rw [toFloat_of_cast hfloor] at hle
      linarith [Int.lt_floor_add_one (ops.scaleWidth (toFloat outWidth) (displayAspect ops info))]
    have hexact := lt_floor_add_slack (near_scaleWidth ops outWidth)
      (div_nonneg (mul_nonneg (toFloat_nonneg _) hH.le) hW.le) (by norm_num [unitRoundoff])
      (by norm_num [unitRoundoff]) hbelow
    rw [← toFloat_of_cast hfloor] at hexact
    refine ⟨by linarith, lt_of_le_of_lt ?_ hexact⟩
    rw [le_div_iff₀ hW]
    calc
      scale * toFloat info.viewportH * toFloat info.viewportW =
          scale * toFloat info.viewportW * toFloat info.viewportH := by ring
      _ ≤ toFloat outWidth * toFloat info.viewportH := mul_le_mul_of_nonneg_right hfitsWidth hH.le
  · -- limited by short height
    have hfloor := floor_of_toUInt32T (scaleHeight_nonneg ops hwidth hheight outHeight) hcast
    have hbelow : ops.scaleHeight (toFloat outHeight) (displayAspect ops info) ≤ maxSize + 1 := by
      have hle : toFloat outWidth ≤ maxSize := toFloat_le (houtWidth.trans hvideoWidth)
      rw [toFloat_of_cast hfloor] at hle
      linarith [Int.lt_floor_add_one
        (ops.scaleHeight (toFloat outHeight) (displayAspect ops info))]
    have hexact := lt_floor_add_slack (near_scaleHeight ops hwidth hheight outHeight)
      (div_nonneg (mul_nonneg (toFloat_nonneg _) hW.le) hH.le) (by norm_num [unitRoundoff])
      (by norm_num [unitRoundoff]) hbelow
    rw [← toFloat_of_cast hfloor] at hexact
    refine ⟨lt_of_le_of_lt ?_ hexact, by linarith⟩
    rw [le_div_iff₀ hH]
    calc
      scale * toFloat info.viewportW * toFloat info.viewportH =
          scale * toFloat info.viewportH * toFloat info.viewportW := by ring
      _ ≤ toFloat outHeight * toFloat info.viewportW :=
        mul_le_mul_of_nonneg_right hfitsHeight hW.le

end OutSize

/-- No image of the display's shape that fits in the video is larger than this one by more than a
pixel and the slack. -/
def Projection.Largest (info : DisplayInfo) (p : Projection) : Prop :=
  ∀ scale : ℚ, scale * toFloat info.viewportW ≤ toFloat p.videoWidth →
    scale * toFloat info.viewportH ≤ toFloat p.videoHeight →
    scale * toFloat info.viewportW < toFloat p.outWidth + 1 + slack ∧
      scale * toFloat info.viewportH < toFloat p.outHeight + 1 + slack

/-- For every viewport of 16-bit sizes, rotated or not, and every interpretation of the `float`
operations, the display is shown inside the video of its own size, and as large as this video
allows, up to a pixel and the slack. -/
theorem setDisplayProjection_largest (ops : FloatOps) (gRotate : Bool) (mainDpyInfo : DisplayInfo)
    (hwidth : 1 ≤ mainDpyInfo.viewportW.toNat ∧ mainDpyInfo.viewportW.toNat ≤ maxSize)
    (hheight : 1 ≤ mainDpyInfo.viewportH.toNat ∧ mainDpyInfo.viewportH.toNat ≤ maxSize) :
    ∃ p, setDisplayProjection ops (setVideoSize ⟨gRotate, 0, 0⟩ mainDpyInfo) mainDpyInfo = some p ∧
      p.MadeFor gRotate (2 * (mainDpyInfo.viewportW.toNat / 2))
        (2 * (mainDpyInfo.viewportH.toNat / 2)) mainDpyInfo ∧
      p.Fits ∧ p.Largest mainDpyInfo := by
  obtain ⟨hgVideoWidth, hgVideoHeight⟩ := setVideoSize_sizes gRotate mainDpyInfo
  obtain ⟨videoWidth, videoHeight, outWidth, outHeight, hprojection, hmade, hout,
      ⟨hvideoWidth, hvideoHeight⟩, ⟨hfitsWidth, hfitsHeight⟩, hspans, -⟩ :=
    setDisplayProjection_cases ops (setVideoSize ⟨gRotate, 0, 0⟩ mainDpyInfo) hwidth hheight
      ((floorToEven_le mainDpyInfo.viewportW).trans hwidth.2)
      ((floorToEven_le mainDpyInfo.viewportH).trans hheight.2)
  rw [hgVideoWidth, hgVideoHeight] at hmade
  have hfits := centre_fits (setVideoSize ⟨gRotate, 0, 0⟩ mainDpyInfo) mainDpyInfo hfitsWidth
    hfitsHeight hvideoWidth hvideoHeight hspans
  refine ⟨_, hprojection, hmade, hfits, fun scale hscaleWidth hscaleHeight ↦ ?_⟩
  exact outSize_largest ops hwidth hheight hvideoWidth hvideoHeight hout hfitsWidth hscaleWidth
    hscaleHeight

theorem setDisplayProjection_largest_odd :
    ∃ p, setDisplayProjection .exact (setVideoSize ⟨false, 0, 0⟩ ⟨1081, 1919⟩) ⟨1081, 1919⟩ =
        some p ∧ p.MadeFor false 1080 1918 ⟨1081, 1919⟩ ∧ p.Fits ∧ p.Largest ⟨1081, 1919⟩ :=
  setDisplayProjection_largest .exact false ⟨1081, 1919⟩ (by decide) (by decide)

end WLManager.VirtualDisplayManager
