import Mathlib.Data.List.Sort
import WLManager.Client.WaylandWindowManager

/-!
# The single window

`initialize` creates the surface with its xdg role, `pushFrame` shows a graphic buffer in it and
`finalize` takes everything down. The first two run on the main thread while the dispatch thread
delivers events, so each is a list of statements that can be taken apart; run without interruption
it is their composition. A statement reads the members when it runs.
-/

namespace WLManager

open History

/-- The file descriptors of a handle, `data[0..numFds)`. -/
def NativeHandle.fds (native : NativeHandle) : List ℤ := native.data.take native.numFds

/-- The integers of a handle, `numInts` words from `data + numFds` on. -/
def NativeHandle.ints (native : NativeHandle) : List ℤ :=
  (native.data.drop native.numFds).take native.numInts

namespace WindowManager

/-- A statement of the main thread. -/
abbrev Statement := WindowManager → WindowManager

/-- Run statements one after the other, without interruption. -/
def execute (wm : WindowManager) (statements : List Statement) : WindowManager :=
  statements.foldl (fun wm statement ↦ statement wm) wm

/-! ## `initialize` -/

def createSurface (created : Bool) : Statement := fun wm ↦
  { wm.issue (.wl_compositor_create_surface wm.compositor) created with
    w_surface := if created then wm.newProxy else .null }

def getXdgSurface : Statement := fun wm ↦
  { wm.send (.xdg_wm_base_get_xdg_surface wm.xdg_wm_base wm.w_surface) with
    xdg_surface := wm.newProxy }

def addXdgSurfaceListener : Statement := fun wm ↦
  wm.send (.add_listener wm.xdg_surface .xdg_surface_listener)

def getToplevel : Statement := fun wm ↦
  { wm.send (.xdg_surface_get_toplevel wm.xdg_surface) with xdg_toplevel := wm.newProxy }

def setTitle : Statement := fun wm ↦
  wm.send (.xdg_toplevel_set_title wm.xdg_toplevel "android-app")

def setAppId : Statement := fun wm ↦
  wm.send (.xdg_toplevel_set_app_id wm.xdg_toplevel "android-app")

def setFullscreen : Statement := fun wm ↦
  wm.send (.xdg_toplevel_set_fullscreen wm.xdg_toplevel .null)

def commit : Statement := fun wm ↦ wm.send (.wl_surface_commit wm.w_surface)

def roundtrip : Statement := fun wm ↦ wm.send (.wl_display_roundtrip wm.dpy)

def forgetFrame : Statement := fun wm ↦
  { wm with
    frame_callback_ptr := .null
    pre_format := some (-1) }

def reportNoSurface : Statement := fun wm ↦ wm.send (.report .wSurfaceIsNull)

/-- The body of `initialize`; `created` says whether there is a surface. -/
def initializeBody (created : Bool) : List Statement :=
  createSurface created ::
    if created then
      [getXdgSurface, addXdgSurfaceListener, getToplevel, setTitle, setAppId, setFullscreen, commit,
        roundtrip, commit, forgetFrame]
    else [reportNoSurface]

/-- Run `initialize` at once; its status is ignored by its only caller. -/
def runInitialize (wm : WindowManager) (created : Bool) : WindowManager × ℤ :=
  (wm.execute (initializeBody created), if created then 0 else -1)

/-! ## `pushFrame` -/

def GRALLOC_USAGE_HW_RENDER : ℤ := 0x200

/-- The exchange that turns a native handle into a `wl_buffer`. -/
def createBuffer (wm : WindowManager) (frame : Frame) : WindowManager × Ptr :=
  let wlegl_handle := wm.newProxy
  let wm := wm.send (.android_wlegl_create_handle wm.a_android_wlegl frame.native.numFds
    frame.native.ints)
  let wm := frame.native.fds.foldl (fun wm fd ↦
    wm.send (.android_wlegl_handle_add_fd wlegl_handle fd)) wm
  let w_buffer := wm.newProxy
  let wm := wm.send (.android_wlegl_create_buffer wm.a_android_wlegl frame.width frame.height
    frame.stride frame.pixel_format GRALLOC_USAGE_HW_RENDER wlegl_handle)
  (wm.send (.android_wlegl_handle_destroy wlegl_handle), w_buffer)

/-- Only a handle whose address is not in `buffer_map` gets a `wl_buffer`. -/
def cacheBuffer (frame : Frame) : Statement := fun wm ↦
  if (wm.buffer_map.lookup frame.buffer).isNone then
    let (wm, w_buffer) := wm.createBuffer frame
    let wm := wm.send (.add_listener w_buffer .w_buffer_listener)
    { wm with buffer_map := wm.buffer_map.insert frame.buffer w_buffer }
  else wm

def requestFrame : Statement := fun wm ↦
  { wm.send (.wl_surface_frame wm.w_surface) with frame_callback_ptr := wm.newProxy }

def addFrameListener : Statement := fun wm ↦
  wm.send (.add_listener wm.frame_callback_ptr .w_frame_listener)

/-- The `wl_buffer` kept for an address; `buffer_map[buffer]` is null where there is none. -/
def bufferFor (wm : WindowManager) (buffer : ℕ) : Ptr := (wm.buffer_map.lookup buffer).getD .null

def attach (frame : Frame) : Statement := fun wm ↦
  wm.send (.wl_surface_attach wm.w_surface (wm.bufferFor frame.buffer) 0 0)

def damage (frame : Frame) : Statement := fun wm ↦
  wm.send (.wl_surface_damage wm.w_surface 0 0 frame.width frame.height)

def flush : Statement := fun wm ↦ wm.send (.wl_display_flush wm.dpy)

/-- The body of `pushFrame`. -/
def pushFrameBody (frame : Frame) : List Statement :=
  [cacheBuffer frame, requestFrame, addFrameListener, attach frame, damage frame, commit, flush]

/-- Run `pushFrame` at once. -/
def pushFrame (wm : WindowManager) (frame : Frame) : WindowManager :=
  wm.execute (pushFrameBody frame)

/-- The entries of the exchange for a frame. -/
def exchange (wm : WindowManager) (frame : Frame) : List (Entry Request) :=
  ⟨.android_wlegl_create_handle wm.a_android_wlegl frame.native.numFds frame.native.ints, true⟩ ::
    (frame.native.fds.map (fun fd ↦ ⟨.android_wlegl_handle_add_fd wm.newProxy fd, true⟩) ++
      [⟨.android_wlegl_create_buffer wm.a_android_wlegl frame.width frame.height frame.stride
          frame.pixel_format GRALLOC_USAGE_HW_RENDER wm.newProxy, true⟩,
        ⟨.android_wlegl_handle_destroy wm.newProxy, true⟩])

/-- A loop that issues one request for each element. -/
theorem foldl_send {α : Type*} (wm : WindowManager) (request : α → Request) (elements : List α) :
    elements.foldl (fun wm a ↦ wm.send (request a)) wm =
      { wm with log := wm.log ++ elements.map fun a ↦ ⟨request a, true⟩ } := by
  induction elements generalizing wm with
  | nil =>
    rw [List.foldl_nil, List.map_nil, List.append_nil]
  | cons a elements ih =>
    rw [List.foldl_cons, ih, List.map_cons]
    simp only [send, issue, List.append_assoc, List.singleton_append]

theorem createBuffer_eq (wm : WindowManager) (frame : Frame) :
    wm.createBuffer frame =
      ({ wm with log := wm.log ++ wm.exchange frame },
        .obj (wm.log.length + (frame.native.fds.length + 1))) := by
  simp only [createBuffer, foldl_send]
  simp only [exchange, send, issue, newProxy, List.append_assoc, List.cons_append, List.nil_append,
    List.length_append, List.length_cons, List.length_map]

theorem cacheBuffer_hit {wm : WindowManager} {frame : Frame} {p : Ptr}
    (h : wm.buffer_map.lookup frame.buffer = some p) : cacheBuffer frame wm = wm := by
  rw [cacheBuffer, h]
  rfl

theorem cacheBuffer_miss {wm : WindowManager} {frame : Frame}
    (h : wm.buffer_map.lookup frame.buffer = none) :
    cacheBuffer frame wm =
      { wm with
        log := wm.log ++ wm.exchange frame ++
          [⟨.add_listener (.obj (wm.log.length + (frame.native.fds.length + 1))) .w_buffer_listener,
            true⟩]
        buffer_map := wm.buffer_map.insert frame.buffer
          (.obj (wm.log.length + (frame.native.fds.length + 1))) } := by
  rw [cacheBuffer, h, createBuffer_eq]
  rfl

/-- The requests with which `pushFrame` makes a new `wl_buffer`. -/
def MakesBuffer : Request → Prop
  | .android_wlegl_create_handle _ _ _ | .android_wlegl_handle_add_fd _ _
  | .android_wlegl_create_buffer _ _ _ _ _ _ _ | .android_wlegl_handle_destroy _
  | .add_listener _ .w_buffer_listener => True
  | _ => False

/-- `cacheBuffer` issues nothing but such requests. -/
theorem cacheBuffer_log (wm : WindowManager) (frame : Frame) :
    ∃ more, (cacheBuffer frame wm).log = wm.log ++ more ∧ ∀ e ∈ more, MakesBuffer e.request := by
  cases hlookup : wm.buffer_map.lookup frame.buffer with
  | some p =>
    refine ⟨[], ?_, List.forall_mem_nil _⟩
    rw [cacheBuffer_hit hlookup, List.append_nil]
  | none =>
    rw [cacheBuffer_miss hlookup]
    refine ⟨_, List.append_assoc _ _ _, fun e he ↦ ?_⟩
    simp only [exchange, List.cons_append, List.append_assoc, List.mem_cons, List.mem_append,
      List.mem_map, List.not_mem_nil, or_false, false_or] at he
    rcases he with rfl | ⟨fd, -, rfl⟩ | rfl | rfl | rfl <;> trivial

/-- What follows the exchange in `pushFrame`. -/
def presentation (wm : WindowManager) (frame : Frame) : List (Entry Request) :=
  [⟨.wl_surface_frame wm.w_surface, true⟩, ⟨.add_listener wm.newProxy .w_frame_listener, true⟩,
    ⟨.wl_surface_attach wm.w_surface (wm.bufferFor frame.buffer) 0 0, true⟩,
    ⟨.wl_surface_damage wm.w_surface 0 0 frame.width frame.height, true⟩,
    ⟨.wl_surface_commit wm.w_surface, true⟩, ⟨.wl_display_flush wm.dpy, true⟩]

theorem pushFrame_eq (wm : WindowManager) (frame : Frame) :
    wm.pushFrame frame =
      { cacheBuffer frame wm with
        log := (cacheBuffer frame wm).log ++ (cacheBuffer frame wm).presentation frame
        frame_callback_ptr := (cacheBuffer frame wm).newProxy } := by
  simp only [pushFrame, execute, pushFrameBody, List.foldl_cons, List.foldl_nil]
  generalize cacheBuffer frame wm = wm
  simp only [requestFrame, addFrameListener, attach, damage, commit, flush, send, issue,
    presentation, bufferFor, newProxy, List.append_assoc, List.cons_append, List.nil_append]

/-- The position at which the exchange for a frame creates the `wl_buffer`. -/
def newBuffer (wm : WindowManager) (frame : Frame) : ℕ :=
  wm.log.length + (frame.native.fds.length + 1)

theorem pushFrame_log_hit {wm : WindowManager} {frame : Frame} {p : Ptr}
    (h : wm.buffer_map.lookup frame.buffer = some p) :
    (wm.pushFrame frame).log = wm.log ++ wm.presentation frame := by
  rw [pushFrame_eq, cacheBuffer_hit h]

theorem pushFrame_log_miss {wm : WindowManager} {frame : Frame}
    (h : wm.buffer_map.lookup frame.buffer = none) :
    (wm.pushFrame frame).log = wm.log ++ (wm.exchange frame ++
      (⟨.add_listener (.obj (wm.newBuffer frame)) .w_buffer_listener, true⟩ ::
        (cacheBuffer frame wm).presentation frame)) := by
  rw [pushFrame_eq]
  change (cacheBuffer frame wm).log ++ _ = _
  rw [congrArg WindowManager.log (cacheBuffer_miss h), List.append_assoc, List.append_assoc,
    List.singleton_append]
  rfl

theorem pushFrame_buffer_map (wm : WindowManager) (frame : Frame) :
    (wm.pushFrame frame).buffer_map = (cacheBuffer frame wm).buffer_map := by
  rw [pushFrame_eq]

/-! ## `finalize` -/

/-- The entries of `buffer_map` as its iterator visits them, by ascending address. -/
def bufferEntries (wm : WindowManager) : List (Sigma fun _ : ℕ ↦ Ptr) :=
  wm.buffer_map.entries.insertionSort fun entry entry' ↦ entry.1 ≤ entry'.1

theorem bufferEntries_perm (wm : WindowManager) :
    wm.bufferEntries.Perm wm.buffer_map.entries :=
  List.perm_insertionSort _ _

def finalize (wm : WindowManager) : WindowManager :=
  let wm := wm.bufferEntries.foldl (fun wm entry ↦ wm.send (.wl_buffer_destroy entry.2)) wm
  let wm := { wm with buffer_map := ∅ }
  let wm := wm.send (.wl_shell_surface_destroy wm.w_shell_surface)
  wm.send (.wl_surface_destroy wm.w_surface)

/-- A window set up without interruption on a compositor that has everything it needs. -/
def window : WindowManager := ((construct .prompt).runInitialize true).1

end WindowManager

end WLManager
