import Mathlib.Data.Rat.Floor
import WLManager.Client.WLConsumer
import WLManager.Numeric.RelativeError

/-!
# The virtual display

The constructor takes the size of the video from the main display, rounded down to even numbers,
and `setDisplayProjection` fits the display into it, keeping the display's aspect ratio. The three
`float` operations are interpreted as exact rational results up to a relative error of `2⁻²⁴`
each; the conversions of the 32-bit sizes involved are exact.
-/

namespace WLManager

/-- `uint32_t`; subtraction wraps. -/
abbrev UInt32T := BitVec 32

/-- What is read of the main display's `DisplayInfo`. -/
structure DisplayInfo where
  viewportW : UInt32T
  viewportH : UInt32T
  deriving DecidableEq

inductive DisplayOrientation
  | DISPLAY_ORIENTATION_0
  | DISPLAY_ORIENTATION_90
  deriving DecidableEq

namespace VirtualDisplayManager

/-- The static variables of the file. -/
structure Statics where
  gRotate : Bool
  gVideoWidth : UInt32T
  gVideoHeight : UInt32T
  deriving DecidableEq

def floorToEven (num : UInt32T) : UInt32T := num &&& ~~~1

/-- The part of the constructor that sizes the video. -/
def setVideoSize (statics : Statics) (mainDpyInfo : DisplayInfo) : Statics :=
  { statics with
    gVideoWidth :=
      if statics.gVideoWidth = 0 then floorToEven mainDpyInfo.viewportW
      else statics.gVideoWidth
    gVideoHeight :=
      if statics.gVideoHeight = 0 then floorToEven mainDpyInfo.viewportH
      else statics.gVideoHeight }

/-- The relative error of one `float` operation. -/
def unitRoundoff : ℚ := 1 / 2 ^ 24

/-- An interpretation of the three `float` operations of `setDisplayProjection`:
`viewportH / viewportW`, `videoWidth * displayAspect` and `videoHeight / displayAspect`. -/
structure FloatOps where
  aspect : ℚ → ℚ → ℚ
  scaleWidth : ℚ → ℚ → ℚ
  scaleHeight : ℚ → ℚ → ℚ
  aspect_near : ∀ x y, Numeric.Near unitRoundoff (x / y) (aspect x y)
  scaleWidth_near : ∀ x y, Numeric.Near unitRoundoff (x * y) (scaleWidth x y)
  scaleHeight_near : ∀ x y, Numeric.Near unitRoundoff (x / y) (scaleHeight x y)

def toFloat (n : UInt32T) : ℚ := n.toNat

/-- The cast from `float`. It truncates; outside the range of `uint32_t` it has no result. -/
def toUInt32T (x : ℚ) : Option UInt32T :=
  let truncated := if 0 ≤ x then ⌊x⌋ else ⌈x⌉
  if 0 ≤ truncated ∧ truncated < 2 ^ 32 then some (BitVec.ofInt 32 truncated) else none

/-- The local variables of `setDisplayProjection` and the call it makes on the transaction. -/
structure Projection where
  videoWidth : UInt32T
  videoHeight : UInt32T
  outWidth : UInt32T
  outHeight : UInt32T
  offX : UInt32T
  offY : UInt32T
  orientation : DisplayOrientation
  layerStackRect : Rect
  displayRect : Rect
  deriving DecidableEq

/-- The size of the image inside the video. The source writes `videoWidth * displayAspect` in the
condition and again for the height; equal expressions give equal results. -/
def outSize (ops : FloatOps) (displayAspect : ℚ) (videoWidth videoHeight : UInt32T) :
    Option (UInt32T × UInt32T) := do
  let scaled ← toUInt32T (ops.scaleWidth (toFloat videoWidth) displayAspect)
  if scaled < videoHeight then
    -- limited by narrow width; reduce height
    some (videoWidth, scaled)
  else
    -- limited by short height; restrict width
    let outWidth ← toUInt32T (ops.scaleHeight (toFloat videoHeight) displayAspect)
    some (outWidth, videoHeight)

/-- The rest of `setDisplayProjection`, once the sizes are known: the image is centred and handed
to the transaction. -/
def centre (statics : Statics) (mainDpyInfo : DisplayInfo)
    (videoWidth videoHeight outWidth outHeight : UInt32T) : Projection :=
  let offX := (videoWidth - outWidth) / 2
  let offY := (videoHeight - outHeight) / 2
  { videoWidth, videoHeight, outWidth, outHeight, offX, offY
    orientation := if statics.gRotate then .DISPLAY_ORIENTATION_90 else .DISPLAY_ORIENTATION_0
    layerStackRect := ⟨0, 0, mainDpyInfo.viewportW.toInt, mainDpyInfo.viewportH.toInt⟩
    displayRect :=
      ⟨offX.toInt, offY.toInt, (offX + outWidth).toInt, (offY + outHeight).toInt⟩ }

def setDisplayProjection (ops : FloatOps) (statics : Statics) (mainDpyInfo : DisplayInfo) :
    Option Projection := do
  let displayAspect := ops.aspect (toFloat mainDpyInfo.viewportH) (toFloat mainDpyInfo.viewportW)
  let (videoWidth, videoHeight) :=
    if !statics.gRotate then (statics.gVideoWidth, statics.gVideoHeight)
    else (statics.gVideoHeight, statics.gVideoWidth)
  let (outWidth, outHeight) ← outSize ops displayAspect videoWidth videoHeight
  some (centre statics mainDpyInfo videoWidth videoHeight outWidth outHeight)

end VirtualDisplayManager

end WLManager
