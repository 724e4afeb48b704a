import WLManager.Client.VirtualDisplayManager

/-!
# The projection rectangle

Which side limits the image is decided on a product that was rounded twice and truncated, while
the other branch divides by the rounded aspect ratio. For sizes of at most 65535 the two errors
together stay below one pixel, so the truncated quotient cannot pass the width, no cast leaves its
range and no subtraction wraps. The image is therefore centred in a video of the display's own
size, rounded down to even numbers and turned where the display is rotated.
-/

namespace WLManager.VirtualDisplayManager

open Numeric

/-- The sizes of viewports and videos considered: 16 bits. -/
def maxSize : ℕ := 65535

/-- The image lies in the video, has the size that was computed for it, reaches across in one
direction and leaves opposite margins that differ by at most a pixel. -/
structure Projection.Fits (p : Projection) : Prop where
  outWidth_le : p.outWidth.toNat ≤ p.videoWidth.toNat
  outHeight_le : p.outHeight.toNat ≤ p.videoHeight.toNat
  left_nonneg : 0 ≤ p.displayRect.left
  top_nonneg : 0 ≤ p.displayRect.top
  right_le : p.displayRect.right ≤ p.videoWidth.toNat
  bottom_le : p.displayRect.bottom ≤ p.videoHeight.toNat
  width : p.displayRect.right - p.displayRect.left = p.outWidth.toNat
  height : p.displayRect.bottom - p.displayRect.top = p.outHeight.toNat
  spans : p.displayRect.left = 0 ∧ p.displayRect.right = p.videoWidth.toNat ∨
    p.displayRect.top = 0 ∧ p.displayRect.bottom = p.videoHeight.toNat
  centred_horizontally :
    |(p.videoWidth.toNat - p.displayRect.right) - p.displayRect.left| ≤ 1
  centred_vertically :
    |(p.videoHeight.toNat - p.displayRect.bottom) - p.displayRect.top| ≤ 1

/-- The projection shows all of the display, turned where it is rotated, centred in a video of
these sizes. -/
structure Projection.MadeFor (gRotate : Bool) (gVideoWidth gVideoHeight : ℕ) (info : DisplayInfo)
    (p : Projection) : Prop where
  videoWidth : p.videoWidth.toNat = if gRotate then gVideoHeight else gVideoWidth
  videoHeight : p.videoHeight.toNat = if gRotate then gVideoWidth else gVideoHeight
  offX : p.offX.toNat = (p.videoWidth.toNat - p.outWidth.toNat) / 2
  offY : p.offY.toNat = (p.videoHeight.toNat - p.outHeight.toNat) / 2
  orientation : p.orientation = if gRotate then .DISPLAY_ORIENTATION_90 else .DISPLAY_ORIENTATION_0
  layerStackRect : p.layerStackRect = ⟨0, 0, info.viewportW.toNat, info.viewportH.toNat⟩
  displayRect : p.displayRect = ⟨p.offX.toNat, p.offY.toNat, p.offX.toNat + p.outWidth.toNat,
    p.offY.toNat + p.outHeight.toNat⟩

/-- One side of the image is within two pixels of what the other one and the aspect ratio of the
display make it. -/
def KeepsAspect (mainDpyInfo : DisplayInfo) (outWidth outHeight : UInt32T) : Prop :=
  |toFloat outHeight - toFloat outWidth * toFloat mainDpyInfo.viewportH /
      toFloat mainDpyInfo.viewportW| ≤ 2 ∨
    |toFloat outWidth - toFloat outHeight * toFloat mainDpyInfo.viewportW /
      toFloat mainDpyInfo.viewportH| ≤ 2

/-- A cast in range truncates. -/
theorem toUInt32T_eq {x : ℚ} (hx : 0 ≤ x) (hlt : x < 2 ^ 32) :
    ∃ n : UInt32T, toUInt32T x = some n ∧ (n.toNat : ℤ) = ⌊x⌋ := by
  have hnonneg : 0 ≤ ⌊x⌋ := Int.floor_nonneg.mpr hx
  have hrange : ⌊x⌋ < 2 ^ 32 := by
    rw [Int.floor_lt]
    exact_mod_cast hlt
  refine ⟨BitVec.ofInt 32 ⌊x⌋, ?_, ?_⟩
  · rw [toUInt32T, if_pos hx, if_pos ⟨hnonneg, hrange⟩]
  · rw [BitVec.toNat_ofInt]
    omega

section Axis

variable {size out : UInt32T} (hout : out.toNat ≤ size.toNat) (hsize : size.toNat ≤ maxSize)

include hout

/-- The subtraction does not wrap. -/
theorem toNat_margin : ((size - out) / 2).toNat = (size.toNat - out.toNat) / 2 := by
  have hsub := BitVec.toNat_sub_of_le (BitVec.le_def.mpr hout)
  have htwo : (2 : UInt32T).toNat = 2 := rfl
  rw [BitVec.toNat_udiv, hsub, htwo]

include hsize

theorem toInt_margin : ((size - out) / 2).toInt = ((size.toNat - out.toNat) / 2 : ℕ) := by
  have hmargin := toNat_margin hout
  unfold maxSize at hsize
  rw [BitVec.toInt_eq_toNat_of_lt (by omega), hmargin]

theorem toInt_margin_add :
    ((size - out) / 2 + out).toInt = ((size.toNat - out.toNat) / 2 + out.toNat : ℕ) := by
  have hmargin := toNat_margin hout
  unfold maxSize at hsize
  have hadd : ((size - out) / 2 + out).toNat = (size.toNat - out.toNat) / 2 + out.toNat := by
    rw [BitVec.toNat_add, hmargin]
    omega
  rw [BitVec.toInt_eq_toNat_of_lt (by omega), hadd]

end Axis

/-! ## Sizes as rational numbers -/

theorem toFloat_nonneg (n : UInt32T) : 0 ≤ toFloat n := by
  unfold toFloat
  positivity

theorem toFloat_pos {n : UInt32T} (h : 1 ≤ n.toNat) : 0 < toFloat n := by
  unfold toFloat
  exact_mod_cast h

theorem toFloat_le {n : UInt32T} (h : n.toNat ≤ maxSize) : toFloat n ≤ maxSize := by
  unfold toFloat
  exact_mod_cast h

theorem toFloat_of_cast {x : ℚ} {n : UInt32T} (h : (n.toNat : ℤ) = ⌊x⌋) : toFloat n = ⌊x⌋ := by
  unfold toFloat
  rw [← h, Int.cast_natCast]

theorem unitRoundoff_nonneg : 0 ≤ unitRoundoff := by
  norm_num [unitRoundoff]

theorem unitRoundoff_lt_one : unitRoundoff < 1 := by
  norm_num [unitRoundoff]

/-- A result below `2 ^ 16` with one error after the other is truncated to something less than two
away from the exact result. -/
theorem abs_floor_sub_le {e x y : ℚ} (h : Near e x y) (he : 0 ≤ e) (he' : e ≤ 1 / 2 ^ 20)
    (hy : 0 ≤ y) (hlt : y < maxSize + 1) : |(⌊y⌋ : ℚ) - x| ≤ 2 := by
  have hsmall : e / (1 - e) * y ≤ 1 := by
    have hfactor : e / (1 - e) ≤ 1 / (maxSize + 1) := by
      rw [div_le_div_iff₀ (by linarith) (by norm_num [maxSize])]
      norm_num [maxSize]
      linarith
    calc
      e / (1 - e) * y ≤ 1 / (maxSize + 1) * (maxSize + 1) := by gcongr
      _ = 1 := by norm_num [maxSize]
  exact (h.abs_floor_sub_lt he (by linarith) hy hsmall).le

section OutSize

variable (ops : FloatOps) {info : DisplayInfo}
  (hwidth : 1 ≤ info.viewportW.toNat ∧ info.viewportW.toNat ≤ maxSize)
  (hheight : 1 ≤ info.viewportH.toNat ∧ info.viewportH.toNat ≤ maxSize)

/-- The rounded aspect ratio of the display. -/
def displayAspect (info : DisplayInfo) : ℚ :=
  ops.aspect (toFloat info.viewportH) (toFloat info.viewportW)

include hwidth hheight

theorem aspect_pos : 0 < toFloat info.viewportH / toFloat info.viewportW :=
  div_pos (toFloat_pos hheight.1) (toFloat_pos hwidth.1)

theorem displayAspect_pos : 0 < displayAspect ops info :=
  (ops.aspect_near _ _).pos (aspect_pos hwidth hheight) unitRoundoff_lt_one

omit hwidth hheight in
/-- The scaled width carries two errors. -/
theorem near_scaleWidth (videoWidth : UInt32T) :
    Near (unitRoundoff + unitRoundoff + unitRoundoff * unitRoundoff)
      (toFloat videoWidth * toFloat info.viewportH / toFloat info.viewportW)
      (ops.scaleWidth (toFloat videoWidth) (displayAspect ops info)) := by
  have haspect := (ops.aspect_near (toFloat info.viewportH) (toFloat info.viewportW)).mul_left
    (toFloat videoWidth)
  rw [mul_div_assoc]
  exact haspect.trans (ops.scaleWidth_near _ _) unitRoundoff_nonneg

/-- So does the height scaled back. -/
theorem near_scaleHeight (videoHeight : UInt32T) :
    Near (unitRoundoff / (1 - unitRoundoff) + unitRoundoff +
        unitRoundoff / (1 - unitRoundoff) * unitRoundoff)
      (toFloat videoHeight * toFloat info.viewportW / toFloat info.viewportH)
      (ops.scaleHeight (toFloat videoHeight) (displayAspect ops info)) := by
  have haspect := (ops.aspect_near (toFloat info.viewportH) (toFloat info.viewportW)).div_left
    unitRoundoff_nonneg unitRoundoff_lt_one (aspect_pos hwidth hheight) (toFloat videoHeight)
  rw [div_div_eq_mul_div] at haspect
  exact haspect.trans (ops.scaleHeight_near _ _) unitRoundoff_nonneg

theorem scaleWidth_nonneg (videoWidth : UInt32T) :
    0 ≤ ops.scaleWidth (toFloat videoWidth) (displayAspect ops info) :=
  (ops.scaleWidth_near _ _).nonneg
    (mul_nonneg (toFloat_nonneg videoWidth) (displayAspect_pos ops hwidth hheight).le)
    unitRoundoff_lt_one.le

theorem scaleHeight_nonneg (videoHeight : UInt32T) :
    0 ≤ ops.scaleHeight (toFloat videoHeight) (displayAspect ops info) :=
  (ops.scaleHeight_near _ _).nonneg
    (div_nonneg (toFloat_nonneg videoHeight) (displayAspect_pos ops hwidth hheight).le)
    unitRoundoff_lt_one.le

/-- The largest product, of two maximal sizes, still fits `uint32_t` with its errors. -/
theorem scaleWidth_lt {videoWidth : UInt32T} (hvideo : videoWidth.toNat ≤ maxSize) :
    ops.scaleWidth (toFloat videoWidth) (displayAspect ops info) < 2 ^ 32 := by
  have hW : 1 ≤ toFloat info.viewportW := by
    unfold toFloat
    exact_mod_cast hwidth.1
  have hexact : toFloat videoWidth * toFloat info.viewportH / toFloat info.viewportW ≤
      maxSize * maxSize := by
    calc
      toFloat videoWidth * toFloat info.viewportH / toFloat info.viewportW ≤
          toFloat videoWidth * toFloat info.viewportH :=
        div_le_self (mul_nonneg (toFloat_nonneg _) (toFloat_nonneg _)) hW
      _ ≤ maxSize * maxSize :=
        mul_le_mul (toFloat_le hvideo) (toFloat_le hheight.2) (toFloat_nonneg _)
          (Nat.cast_nonneg _)
  have hnonneg : 0 ≤ toFloat videoWidth * toFloat info.viewportH / toFloat info.viewportW :=
    div_nonneg (mul_nonneg (toFloat_nonneg _) (toFloat_nonneg _)) (toFloat_nonneg _)
  have hfactor : 0 ≤ 1 + (unitRoundoff + unitRoundoff + unitRoundoff * unitRoundoff) := by
    norm_num [unitRoundoff]
  calc
    ops.scaleWidth (toFloat videoWidth) (displayAspect ops info) ≤
        (1 + (unitRoundoff + unitRoundoff + unitRoundoff * unitRoundoff)) *
          (toFloat videoWidth * toFloat info.viewportH / toFloat info.viewportW) :=
      (near_scaleWidth ops videoWidth).le hnonneg
    _ ≤ (1 + (unitRoundoff + unitRoundoff + unitRoundoff * unitRoundoff)) *
          (maxSize * maxSize) := mul_le_mul_of_nonneg_left hexact hfactor
    _ < 2 ^ 32 := by norm_num [unitRoundoff, maxSize]

/-- Where the height fits the scaled width, the height scaled back is less than one pixel above the
width. -/
theorem scaleHeight_lt {videoWidth videoHeight : UInt32T} (hvideo : videoWidth.toNat ≤ maxSize)
    (hfits : toFloat videoHeight ≤
      ops.scaleWidth (toFloat videoWidth) (displayAspect ops info)) :
    ops.scaleHeight (toFloat videoHeight) (displayAspect ops info) < toFloat videoWidth + 1 := by
  refine quotient_lt_of_le_product (toFloat_nonneg _) (toFloat_nonneg _)
    (displayAspect_pos ops hwidth hheight) unitRoundoff_nonneg (ops.scaleWidth_near _ _)
    (ops.scaleHeight_near _ _) hfits ?_
  have hle := toFloat_le hvideo
  have hnonneg := toFloat_nonneg videoWidth
  norm_num [unitRoundoff, maxSize] at hle ⊢
  linarith

/-- The image is no larger than the video, fills it in one direction and keeps the aspect ratio.
Both casts are in range. -/
theorem outSize_cases {videoWidth videoHeight : UInt32T} (hvideoWidth : videoWidth.toNat ≤ maxSize)
    (hvideoHeight : videoHeight.toNat ≤ maxSize) :
    ∃ outWidth outHeight,
      outSize ops (displayAspect ops info) videoWidth videoHeight = some (outWidth, outHeight) ∧
      outWidth.toNat ≤ videoWidth.toNat ∧ outHeight.toNat ≤ videoHeight.toNat ∧
      (outWidth = videoWidth ∨ outHeight = videoHeight) ∧ KeepsAspect info outWidth outHeight := by
  have hproduct := scaleWidth_nonneg ops hwidth hheight videoWidth
  obtain ⟨scaled, hscaled, hfloor⟩ :=
    toUInt32T_eq hproduct (scaleWidth_lt ops hwidth hheight hvideoWidth)
  by_cases hlimited : scaled < videoHeight
  · -- limited by narrow width
    refine ⟨videoWidth, scaled, ?_, le_rfl, hlimited.le, .inl rfl, .inl ?_⟩
    · simp [outSize, hscaled, hlimited]
    · have hbelow : ops.scaleWidth (toFloat videoWidth) (displayAspect ops info) < maxSize + 1 := by
        have hscaledLe : toFloat scaled ≤ maxSize := toFloat_le (hlimited.le.trans hvideoHeight)
        rw [toFloat_of_cast hfloor] at hscaledLe
        linarith [Int.lt_floor_add_one
          (ops.scaleWidth (toFloat videoWidth) (displayAspect ops info))]
      rw [toFloat_of_cast hfloor]
      exact abs_floor_sub_le (near_scaleWidth ops videoWidth) (by norm_num [unitRoundoff])
        (by norm_num [unitRoundoff]) hproduct hbelow
  · -- limited by short height
    have hfits : toFloat videoHeight ≤
        ops.scaleWidth (toFloat videoWidth) (displayAspect ops info) := by
      have hle : toFloat videoHeight ≤ toFloat scaled := by
        unfold toFloat
        exact_mod_cast BitVec.le_def.mp (BitVec.not_lt.mp hlimited)
      rw [toFloat_of_cast hfloor] at hle
      exact hle.trans (Int.floor_le _)
    have hquotient := scaleHeight_nonneg ops hwidth hheight videoHeight
    have hbelow := scaleHeight_lt ops hwidth hheight hvideoWidth hfits
    have hbelowMax := toFloat_le hvideoWidth
    have hrange : ops.scaleHeight (toFloat videoHeight) (displayAspect ops info) < 2 ^ 32 := by
      norm_num [maxSize] at hbelowMax
      linarith
    obtain ⟨outWidth, hcast, hfloorOut⟩ := toUInt32T_eq hquotient hrange
    refine ⟨outWidth, videoHeight, ?_, ?_, le_rfl, .inr rfl, .inr ?_⟩
    · simp [outSize, hscaled, hlimited, hcast]
    · have hfloorLe :
          ⌊ops.scaleHeight (toFloat videoHeight) (displayAspect ops info)⌋ <
            (videoWidth.toNat : ℤ) + 1 := by
        rw [Int.floor_lt]
        push_cast
        exact hbelow
      omega
    · rw [toFloat_of_cast hfloorOut]
      exact abs_floor_sub_le (near_scaleHeight ops hwidth hheight videoHeight)
        (by norm_num [unitRoundoff]) (by norm_num [unitRoundoff]) hquotient (by linarith)

end OutSize

theorem toNat_floorToEven (num : UInt32T) : (floorToEven num).toNat = 2 * (num.toNat / 2) := by
  have hmask : (~~~(1 : UInt32T)).toNat = 2 * (2 ^ 31 - 1) := by decide
  have hbit : (2 * (2 ^ 31 - 1)) &&& 1 = 0 := by decide
  have hhalf : (num.toNat &&& 2 * (2 ^ 31 - 1)) / 2 = num.toNat / 2 := by
    rw [Nat.and_div_two, Nat.mul_div_cancel_left _ Nat.two_pos, Nat.and_two_pow_sub_one_eq_mod]
    exact Nat.mod_eq_of_lt (by omega)
  have heven : (num.toNat &&& 2 * (2 ^ 31 - 1)) % 2 = 0 := by
    rw [← Nat.and_one_is_mod, Nat.and_assoc, hbit, Nat.and_zero]
  unfold floorToEven
  rw [BitVec.toNat_and, hmask]
  omega

theorem floorToEven_le (num : UInt32T) : (floorToEven num).toNat ≤ num.toNat := by
  rw [toNat_floorToEven]
  exact Nat.mul_div_le num.toNat 2

theorem toInt_of_le_maxSize {n : UInt32T} (h : n.toNat ≤ maxSize) : n.toInt = n.toNat := by
  unfold maxSize at h
  exact BitVec.toInt_eq_toNat_of_lt (by omega)

/-- What `centre` hands to the transaction, for an image no larger than the video. -/
theorem centre_madeFor {statics : Statics} {info : DisplayInfo}
    {videoWidth videoHeight outWidth outHeight : UInt32T}
    (hwidth : outWidth.toNat ≤ videoWidth.toNat) (hheight : outHeight.toNat ≤ videoHeight.toNat)
    (hvideoWidth : videoWidth.toNat ≤ maxSize) (hvideoHeight : videoHeight.toNat ≤ maxSize)
    (hviewportW : info.viewportW.toNat ≤ maxSize) (hviewportH : info.viewportH.toNat ≤ maxSize)
    (hsizes : (videoWidth, videoHeight) =
      if statics.gRotate then (statics.gVideoHeight, statics.gVideoWidth)
      else (statics.gVideoWidth, statics.gVideoHeight)) :
    (centre statics info videoWidth videoHeight outWidth outHeight).MadeFor statics.gRotate
      statics.gVideoWidth.toNat statics.gVideoHeight.toNat info where
  videoWidth := by
    rw [← apply_ite BitVec.toNat]
    exact congrArg BitVec.toNat ((congrArg Prod.fst hsizes).trans (apply_ite Prod.fst _ _ _))
  videoHeight := by
    rw [← apply_ite BitVec.toNat]
    exact congrArg BitVec.toNat ((congrArg Prod.snd hsizes).trans (apply_ite Prod.snd _ _ _))
  offX := toNat_margin hwidth
  offY := toNat_margin hheight
  orientation := rfl
  layerStackRect := by
    dsimp only [centre]
    rw [toInt_of_le_maxSize hviewportW, toInt_of_le_maxSize hviewportH]
  displayRect := by
    dsimp only [centre]
    rw [toInt_margin hwidth hvideoWidth, toInt_margin hheight hvideoHeight,
      toInt_margin_add hwidth hvideoWidth, toInt_margin_add hheight hvideoHeight,
      toNat_margin hwidth, toNat_margin hheight]
    push_cast
    rfl

/-- An image no larger than the video, of full width or height, is centred in it. -/
theorem centre_fits (statics : Statics) (info : DisplayInfo)
    {videoWidth videoHeight outWidth outHeight : UInt32T}
    (hwidth : outWidth.toNat ≤ videoWidth.toNat) (hheight : outHeight.toNat ≤ videoHeight.toNat)
    (hvideoWidth : videoWidth.toNat ≤ maxSize) (hvideoHeight : videoHeight.toNat ≤ maxSize)
    (hspans : outWidth = videoWidth ∨ outHeight = videoHeight) :
    (centre statics info videoWidth videoHeight outWidth outHeight).Fits := by
  have hleft := toInt_margin hwidth hvideoWidth
  have htop := toInt_margin hheight hvideoHeight
  have hright := toInt_margin_add hwidth hvideoWidth
  have hbottom := toInt_margin_add hheight hvideoHeight
  constructor <;> dsimp only [centre]
  · exact hwidth
  · exact hheight
  · omega
  · omega
  · omega
  · omega
  · omega
  · omega
  · rcases hspans with hfull | hfull
    · have heq := congrArg BitVec.toNat hfull
      left
      omega
    · have heq := congrArg BitVec.toNat hfull
      right
      omega
  · rw [abs_le]
    omega
  · rw [abs_le]
    omega

/-- The sizes a projection into a video of 16-bit sizes is made with. -/
theorem setDisplayProjection_cases (ops : FloatOps) (statics : Statics) {info : DisplayInfo}
    (hwidth : 1 ≤ info.viewportW.toNat ∧ info.viewportW.toNat ≤ maxSize)
    (hheight : 1 ≤ info.viewportH.toNat ∧ info.viewportH.toNat ≤ maxSize)
    (hgVideoWidth : statics.gVideoWidth.toNat ≤ maxSize)
    (hgVideoHeight : statics.gVideoHeight.toNat ≤ maxSize) :
    ∃ videoWidth videoHeight outWidth outHeight,
      setDisplayProjection ops statics info =
        some (centre statics info videoWidth videoHeight outWidth outHeight) ∧
      (centre statics info videoWidth videoHeight outWidth outHeight).MadeFor statics.gRotate
        statics.gVideoWidth.toNat statics.gVideoHeight.toNat info ∧
      outSize ops (displayAspect ops info) videoWidth videoHeight = some (outWidth, outHeight) ∧
      (videoWidth.toNat ≤ maxSize ∧ videoHeight.toNat ≤ maxSize) ∧
      (outWidth.toNat ≤ videoWidth.toNat ∧ outHeight.toNat ≤ videoHeight.toNat) ∧
      (outWidth = videoWidth ∨ outHeight = videoHeight) ∧ KeepsAspect info outWidth outHeight := by
  obtain ⟨videoWidth, videoHeight, hsizes, hvideoWidth, hvideoHeight⟩ :
      ∃ videoWidth videoHeight : UInt32T, (videoWidth, videoHeight) =
        (if statics.gRotate then (statics.gVideoHeight, statics.gVideoWidth)
          else (statics.gVideoWidth, statics.gVideoHeight)) ∧
        videoWidth.toNat ≤ maxSize ∧ videoHeight.toNat ≤ maxSize := by
    split_ifs
    · exact ⟨_, _, rfl, hgVideoHeight, hgVideoWidth⟩
    · exact ⟨_, _, rfl, hgVideoWidth, hgVideoHeight⟩
  obtain ⟨outWidth, outHeight, hout, hfitsWidth, hfitsHeight, hspans, haspect⟩ :=
    outSize_cases ops hwidth hheight hvideoWidth hvideoHeight
  refine ⟨videoWidth, videoHeight, outWidth, outHeight, ?_, ?_, hout, ⟨hvideoWidth, hvideoHeight⟩,
    ⟨hfitsWidth, hfitsHeight⟩, hspans, haspect⟩
  · have hswap : (if !statics.gRotate then (statics.gVideoWidth, statics.gVideoHeight)
        else (statics.gVideoHeight, statics.gVideoWidth)) = (videoWidth, videoHeight) := by
      rw [hsizes]
      cases statics.gRotate <;> rfl
    unfold displayAspect at hout
    simp only [setDisplayProjection, hswap, hout, Option.bind_eq_bind, Option.bind_some]
  · exact centre_madeFor hfitsWidth hfitsHeight hvideoWidth hvideoHeight hwidth.2 hheight.2 hsizes

/-- The video of the constructor has the sizes of the display, without their last bit. -/
theorem setVideoSize_sizes (gRotate : Bool) (info : DisplayInfo) :
    (setVideoSize ⟨gRotate, 0, 0⟩ info).gVideoWidth.toNat = 2 * (info.viewportW.toNat / 2) ∧
      (setVideoSize ⟨gRotate, 0, 0⟩ info).gVideoHeight.toNat = 2 * (info.viewportH.toNat / 2) :=
  ⟨toNat_floorToEven info.viewportW, toNat_floorToEven info.viewportH⟩

/-- For every viewport of 16-bit sizes, rotated or not, and every interpretation of the `float`
operations, the casts are in range, the projection is made for the display and its video, and the
rectangle fits the video and keeps the aspect ratio. -/
theorem setDisplayProjection_fits (ops : FloatOps) (gRotate : Bool) (mainDpyInfo : DisplayInfo)
    (hwidth : 1 ≤ mainDpyInfo.viewportW.toNat ∧ mainDpyInfo.viewportW.toNat ≤ maxSize)
    (hheight : 1 ≤ mainDpyInfo.viewportH.toNat ∧ mainDpyInfo.viewportH.toNat ≤ maxSize) :
    ∃ p, setDisplayProjection ops (setVideoSize ⟨gRotate, 0, 0⟩ mainDpyInfo) mainDpyInfo = some p ∧
      p.MadeFor gRotate (2 * (mainDpyInfo.viewportW.toNat / 2))
        (2 * (mainDpyInfo.viewportH.toNat / 2)) mainDpyInfo ∧
      p.Fits ∧ KeepsAspect mainDpyInfo p.outWidth p.outHeight := by
  obtain ⟨hgVideoWidth, hgVideoHeight⟩ := setVideoSize_sizes gRotate mainDpyInfo
  obtain ⟨videoWidth, videoHeight, outWidth, outHeight, hprojection, hmade, -,
      ⟨hvideoWidth, hvideoHeight⟩, ⟨hfitsWidth, hfitsHeight⟩, hspans, haspect⟩ :=
    setDisplayProjection_cases ops (setVideoSize ⟨gRotate, 0, 0⟩ mainDpyInfo) hwidth hheight
      ((floorToEven_le mainDpyInfo.viewportW).trans hwidth.2)
      ((floorToEven_le mainDpyInfo.viewportH).trans hheight.2)
  rw [hgVideoWidth, hgVideoHeight] at hmade
  exact ⟨_, hprojection, hmade, centre_fits _ mainDpyInfo hfitsWidth hfitsHeight hvideoWidth
    hvideoHeight hspans, haspect⟩

/-- Exact arithmetic is one interpretation. -/
def FloatOps.exact : FloatOps where
  aspect := fun x y ↦ x / y
  scaleWidth := fun x y ↦ x * y
  scaleHeight := fun x y ↦ x / y
  aspect_near := fun _ _ ↦ near_self unitRoundoff_nonneg _
  scaleWidth_near := fun _ _ ↦ near_self unitRoundoff_nonneg _
  scaleHeight_near := fun _ _ ↦ near_self unitRoundoff_nonneg _

/-- A rotated display of odd sizes. -/
theorem setDisplayProjection_fits_odd :
    ∃ p, setDisplayProjection .exact (setVideoSize ⟨true, 0, 0⟩ ⟨1081, 1919⟩) ⟨1081, 1919⟩ =
        some p ∧ p.MadeFor true 1080 1918 ⟨1081, 1919⟩ ∧
      p.Fits ∧ KeepsAspect ⟨1081, 1919⟩ p.outWidth p.outHeight :=
  setDisplayProjection_fits .exact true ⟨1081, 1919⟩ (by decide) (by decide)

end WLManager.VirtualDisplayManager
