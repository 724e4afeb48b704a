import Mathlib.Data.Nat.Notation
import Mathlib.Data.Int.Notation

/-!
# Graphic buffers and their native handles

What the consumer and the window manager read of a graphic buffer: the handle, the size, the
stride and the pixel format. A `buffer_handle_t` is the address of a `native_handle_t`. The address
identifies the allocation only while it lives; the words behind it are kept beside it, so that one
address may show other words later.
-/

namespace WLManager

/-- `native_handle_t`: `numFds` file descriptors followed by `numInts` integers. -/
structure NativeHandle where
  numFds : ℕ
  numInts : ℕ
  data : List ℤ
  data_length : data.length = numFds + numInts
  deriving DecidableEq

/-- A `GraphicBuffer` object; `id` tells two live objects of equal shape apart. -/
structure GraphicBuffer where
  id : ℕ
  handle : ℕ
  native : NativeHandle
  width : ℕ
  height : ℕ
  stride : ℕ
  format : ℤ
  deriving DecidableEq

/-- The arguments of `pushFrame`, with the words behind the handle at the time of the call. -/
structure Frame where
  buffer : ℕ
  native : NativeHandle
  width : ℤ
  height : ℤ
  stride : ℤ
  pixel_format : ℤ
  deriving DecidableEq

/-- The frame `lockBufferItem` pushes for a graphic buffer. -/
def GraphicBuffer.frame (target : GraphicBuffer) : Frame where
  buffer := target.handle
  native := target.native
  width := target.width
  height := target.height
  stride := target.stride
  pixel_format := target.format

/-- A buffer of one pixel whose handle carries one file descriptor, for concrete runs. -/
def GraphicBuffer.onePixel (id : ℕ) : GraphicBuffer where
  id := id
  handle := 4096 + id
  native := ⟨1, 0, [3], rfl⟩
  width := 1
  height := 1
  stride := 1
  format := 1

end WLManager
