import Mathlib.Data.List.AList
import WLManager.Client.GraphicBuffer
import WLManager.Client.WaylandProtocol

/-!
# The wayland window manager

The members of `WaylandWindowManager` and of `WaylandSingleWindowManager`, its only subclass, with
the history of the connection, the constructor and the destructor, and the event handlers of both
classes. Most pointer members have no initial value.

`libwayland` delivers an event only to the listener installed on its object; where none is, or the
object has been destroyed, the event is dropped.
-/

namespace WLManager

open History

/-- One window manager object; `buffer_map` sends the address of a native handle to the
`wl_buffer` made for it. -/
structure WindowManager where
  log : List (Entry Request)
  dpy : Ptr
  registry : Ptr
  compositor : Ptr
  xdg_wm_base : Ptr
  xdg_surface : Ptr
  xdg_toplevel : Ptr
  shell : Ptr
  seat : Ptr
  touch : Ptr
  output : Ptr
  a_android_wlegl : Ptr
  screen_width : Option ℤ
  screen_height : Option ℤ
  pre_format : Option ℤ
  w_shell_surface : Ptr
  w_surface : Ptr
  frame_callback_ptr : Ptr
  buffer_map : AList fun _ : ℕ ↦ Ptr

/-- The interface name a global is announced with. -/
inductive GlobalInterface
  | wl_compositor
  | wl_shell
  | wl_output
  | wl_seat
  | android_wlegl
  | xdg_wm_base
  | ignored (interface : String)
  deriving DecidableEq

/-- The arguments of a `wl_registry.global` event. -/
structure Global where
  name : ℕ
  interface : GlobalInterface
  version : ℕ
  deriving DecidableEq

/-- An event with the object it is sent to. Those of `wl_touch` are told apart by nothing that
the client reads. -/
inductive Event
  | xdg_wm_base_ping (xdg_wm_base : ℕ) (serial : ℕ)
  | xdg_surface_configure (xdg_surface : ℕ) (serial : ℕ)
  | seat_handle_capabilities (seat : ℕ) (caps : ℕ)
  | seat_name (seat : ℕ) (name : String)
  | output_handle_geometry (output : ℕ) (x y physical_width physical_height : ℤ)
  | output_handle_mode (output : ℕ) (flags : ℕ) (width height refresh : ℤ)
  | output_handle_done (output : ℕ)
  | output_handle_scale (output : ℕ) (factor : ℤ)
  | touch (touch : ℕ)
  | frame_callback (callback : ℕ) (time : ℕ)
  | buffer_release (buffer : ℕ)
  deriving DecidableEq

namespace WindowManager

/-- Before the constructor's body: only `touch` and the map have an initial value. -/
def uninitialised : WindowManager where
  log := []
  dpy := .indeterminate
  registry := .indeterminate
  compositor := .indeterminate
  xdg_wm_base := .indeterminate
  xdg_surface := .indeterminate
  xdg_toplevel := .indeterminate
  shell := .indeterminate
  seat := .indeterminate
  touch := .null
  output := .indeterminate
  a_android_wlegl := .indeterminate
  screen_width := none
  screen_height := none
  pre_format := none
  w_shell_surface := .indeterminate
  w_surface := .indeterminate
  frame_callback_ptr := .indeterminate
  buffer_map := ∅

/-- The object that the next request creates. -/
def newProxy (wm : WindowManager) : Ptr := .obj wm.log.length

/-- Issue a request; `created` answers one that asks for an object. -/
def issue (wm : WindowManager) (request : Request) (created : Bool) : WindowManager :=
  { wm with log := wm.log ++ [⟨request, created⟩] }

/-- Issue a request that cannot fail. -/
def send (wm : WindowManager) (request : Request) : WindowManager := wm.issue request true

/-! ## Event handlers -/

def xdg_wm_base_ping (wm : WindowManager) (xdg_wm_base : Ptr) (serial : ℕ) : WindowManager :=
  wm.send (.xdg_wm_base_pong xdg_wm_base serial)

def xdg_surface_configure (wm : WindowManager) (xdg_surface : Ptr) (serial : ℕ) :
    WindowManager :=
  wm.send (.xdg_surface_ack_configure xdg_surface serial)

def WL_SEAT_CAPABILITY_TOUCH : ℕ := 4

/-- `touch` is fetched with the first capabilities that contain it. -/
def seat_handle_capabilities (wm : WindowManager) (seat : Ptr) (caps : ℕ) : WindowManager :=
  if caps &&& WL_SEAT_CAPABILITY_TOUCH ≠ 0 ∧ wm.touch = .null then
    let wm := { wm.send (.wl_seat_get_touch seat) with touch := wm.newProxy }
    let wm := wm.send (.wl_touch_set_user_data wm.touch)
    wm.send (.add_listener wm.touch .touch_listener)
  else wm

def output_handle_mode (wm : WindowManager) (width height : ℤ) : WindowManager :=
  { wm with
    screen_width := some width
    screen_height := some height }

/-- The done event of a frame callback, whichever frame it was requested for. -/
def frame_callback (wm : WindowManager) (callback : Ptr) : WindowManager :=
  let wm := { wm with frame_callback_ptr := .null }
  wm.send (.wl_callback_destroy callback)

/-- The buffers are cleaned up in `finalize`. -/
def buffer_release (wm : WindowManager) (_buffer : Ptr) : WindowManager := wm

/-- The listener is installed on the object, which still exists. -/
def Listening (wm : WindowManager) (id : ℕ) (listener : Listener) : Prop :=
  ⟨.add_listener (.obj id) listener, true⟩ ∈ wm.log ∧
    ∀ e ∈ wm.log, e.request.destroys ≠ some (listener.interface, .obj id)

instance (wm : WindowManager) (id : ℕ) (listener : Listener) :
    Decidable (wm.Listening id listener) :=
  inferInstanceAs (Decidable (_ ∧ ∀ e ∈ wm.log, _))

/-- Deliver an event to the listener on its object. The handlers that are left out do nothing. -/
def dispatch (wm : WindowManager) : Event → WindowManager
  | .xdg_wm_base_ping id serial =>
    if wm.Listening id .xdg_wm_base_listener then wm.xdg_wm_base_ping (.obj id) serial else wm
  | .xdg_surface_configure id serial =>
    if wm.Listening id .xdg_surface_listener then wm.xdg_surface_configure (.obj id) serial
    else wm
  | .seat_handle_capabilities id caps =>
    if wm.Listening id .w_seat_listener then wm.seat_handle_capabilities (.obj id) caps else wm
  | .output_handle_mode id _ width height _ =>
    if wm.Listening id .output_listener then wm.output_handle_mode width height else wm
  | .frame_callback id _ =>
    if wm.Listening id .w_frame_listener then wm.frame_callback (.obj id) else wm
  | .buffer_release id =>
    if wm.Listening id .w_buffer_listener then wm.buffer_release (.obj id) else wm
  | .seat_name _ _ | .output_handle_geometry _ _ _ _ _ | .output_handle_done _
  | .output_handle_scale _ _ | .touch _ => wm

/-! ## Constructor and destructor -/

def connect (wm : WindowManager) (created : Bool) : WindowManager :=
  { wm.issue (.wl_display_connect "/wayland/wayland-1") created with
    dpy := if created then wm.newProxy else .null }

/-- `while (counter-- >= 0)`, with the number of iterations left. -/
def connectLoop (answers : ℕ → Bool) : ℕ → WindowManager → WindowManager
  | 0, wm => wm
  | remaining + 1, wm =>
    let wm := wm.connect (answers remaining)
    if wm.dpy ≠ .null then wm else connectLoop answers remaining wm

/-- The tries `counter = 1000, …, 0`. -/
def tries : ℕ := 1001

def get_registry (wm : WindowManager) (created : Bool) : WindowManager :=
  { wm.issue (.wl_display_get_registry wm.dpy) created with
    registry := if created then wm.newProxy else .null }

/-- The handler of `wl_registry.global`; an unknown interface is only logged. -/
def registry_add_object (wm : WindowManager) (registry : Ptr) (g : Global) : WindowManager :=
  match g.interface with
  | .wl_compositor =>
    { wm.send (.wl_registry_bind registry g.name .wl_compositor g.version) with
      compositor := wm.newProxy }
  | .wl_shell =>
    { wm.send (.wl_registry_bind registry g.name .wl_shell 1) with shell := wm.newProxy }
  | .wl_output =>
    { wm.send (.wl_registry_bind registry g.name .wl_output 1) with output := wm.newProxy }
  | .wl_seat =>
    { wm.send (.wl_registry_bind registry g.name .wl_seat 1) with seat := wm.newProxy }
  | .android_wlegl =>
    { wm.send (.wl_registry_bind registry g.name .android_wlegl 1) with
      a_android_wlegl := wm.newProxy }
  | .xdg_wm_base =>
    { wm.send (.wl_registry_bind registry g.name .xdg_wm_base 1) with
      xdg_wm_base := wm.newProxy }
  | .ignored _ => wm

/-- What the outside answers during the construction: each try of `wl_display_connect`,
`wl_display_get_registry`, the globals announced in the first roundtrip and the events that arrive
in the dispatch and in the roundtrip after it. -/
structure StartAnswers where
  connect : ℕ → Bool
  registry : Bool
  globals : List Global
  dispatched : List Event
  roundtrip : List Event

/-- A compositor that is reached at the first try, announces every global the window needs and
sends no event before it has to. -/
def StartAnswers.prompt : StartAnswers where
  connect _ := true
  registry := true
  globals := [⟨1, .wl_compositor, 4⟩, ⟨2, .wl_output, 1⟩, ⟨3, .wl_seat, 1⟩, ⟨4, .android_wlegl, 1⟩,
    ⟨5, .xdg_wm_base, 1⟩]
  dispatched := []
  roundtrip := []

/-- The first roundtrip, in which the compositor announces its globals. -/
def announce (wm : WindowManager) (globals : List Global) : WindowManager :=
  globals.foldl (fun wm g ↦ wm.registry_add_object wm.registry g)
    (wm.send (.wl_display_roundtrip wm.dpy))

/-- The rest of the constructor. Both waits deliver events. -/
def installListeners (wm : WindowManager) (dispatched roundtrip : List Event) : WindowManager :=
  let wm := wm.send (.add_listener wm.output .output_listener)
  let wm := wm.send (.add_listener wm.seat .w_seat_listener)
  let wm := dispatched.foldl dispatch (wm.send (.wl_display_dispatch wm.dpy))
  roundtrip.foldl dispatch (wm.send (.wl_display_roundtrip wm.dpy))

/-- The label `exit_error`; `dpy` keeps its value. -/
def exit_error (wm : WindowManager) : WindowManager :=
  let wm := if wm.dpy ≠ .null then wm.send (.wl_display_disconnect wm.dpy) else wm
  wm.send (.report .failedToInitialize)

/-- The constructor, up to the start of the dispatch thread. -/
def construct (answers : StartAnswers) : WindowManager :=
  let wm := connectLoop answers.connect tries uninitialised
  if wm.dpy = .null then (wm.send (.report .failedToConnectServer)).exit_error
  else
    let wm := wm.get_registry answers.registry
    if wm.registry = .null then (wm.send (.report .failedToGetRegistry)).exit_error
    else
      let wm := wm.send (.add_listener wm.registry .registry_listener)
      (wm.announce answers.globals).installListeners answers.dispatched answers.roundtrip

def destruct (wm : WindowManager) : WindowManager := wm.send (.wl_display_disconnect wm.dpy)

end WindowManager

end WLManager
