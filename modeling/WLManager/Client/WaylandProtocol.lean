import Mathlib.Data.Int.Notation
import WLManager.Protocol.History

/-!
# The wayland requests of the client

The calls the client makes into `libwayland` and the generated protocol headers, under their
names there and with the arguments it passes. Installing a listener and the blocking calls on the
display are kept in the same history as the requests proper, since they dereference their pointer
just the same. So are the failure messages, because whether a failure is reported, and what is
still issued afterwards, is part of the order.
-/

namespace WLManager

open History

/-- The kinds of objects the client deals with. -/
inductive Interface
  | wl_display
  | wl_registry
  | wl_compositor
  | wl_shell
  | wl_shell_surface
  | wl_output
  | wl_seat
  | wl_touch
  | wl_surface
  | wl_callback
  | wl_buffer
  | xdg_wm_base
  | xdg_surface
  | xdg_toplevel
  | android_wlegl
  | android_wlegl_handle
  deriving DecidableEq

/-- The listener structures the two window manager classes define. -/
inductive Listener
  | registry_listener
  | output_listener
  | w_seat_listener
  | touch_listener
  | xdg_wm_base_listener
  | xdg_surface_listener
  | w_frame_listener
  | w_buffer_listener
  | shell_surface_listener
  deriving DecidableEq

/-- The interface whose events a listener handles. -/
def Listener.interface : Listener → Interface
  | .registry_listener => .wl_registry
  | .output_listener => .wl_output
  | .w_seat_listener => .wl_seat
  | .touch_listener => .wl_touch
  | .xdg_wm_base_listener => .xdg_wm_base
  | .xdg_surface_listener => .xdg_surface
  | .w_frame_listener => .wl_callback
  | .w_buffer_listener => .wl_buffer
  | .shell_surface_listener => .wl_shell_surface

/-- The messages that report a failed start-up: `"failed to connect server"`,
`"failed to get registry"`, `"failed to initialize WaylandWindowManager"` and
`"w_surface is null"`. -/
inductive Report
  | failedToConnectServer
  | failedToGetRegistry
  | failedToInitialize
  | wSurfaceIsNull
  deriving DecidableEq

inductive Request
  | report (message : Report)
  | wl_display_connect (name : String)
  | wl_display_disconnect (display : Ptr)
  | wl_display_get_registry (display : Ptr)
  | wl_display_roundtrip (display : Ptr)
  | wl_display_dispatch (display : Ptr)
  | wl_display_flush (display : Ptr)
  | add_listener (proxy : Ptr) (listener : Listener)
  | wl_registry_bind (registry : Ptr) (name : ℕ) (interface : Interface) (version : ℕ)
  | wl_seat_get_touch (seat : Ptr)
  | wl_touch_set_user_data (touch : Ptr)
  | wl_compositor_create_surface (compositor : Ptr)
  | xdg_wm_base_get_xdg_surface (xdg_wm_base surface : Ptr)
  | xdg_wm_base_pong (xdg_wm_base : Ptr) (serial : ℕ)
  | xdg_surface_get_toplevel (xdg_surface : Ptr)
  | xdg_surface_ack_configure (xdg_surface : Ptr) (serial : ℕ)
  | xdg_toplevel_set_title (xdg_toplevel : Ptr) (title : String)
  | xdg_toplevel_set_app_id (xdg_toplevel : Ptr) (app_id : String)
  | xdg_toplevel_set_fullscreen (xdg_toplevel output : Ptr)
  | wl_surface_frame (surface : Ptr)
  | wl_surface_attach (surface buffer : Ptr) (x y : ℤ)
  | wl_surface_damage (surface : Ptr) (x y width height : ℤ)
  | wl_surface_commit (surface : Ptr)
  | wl_surface_destroy (surface : Ptr)
  | wl_shell_surface_destroy (shell_surface : Ptr)
  | wl_callback_destroy (callback : Ptr)
  | wl_buffer_destroy (buffer : Ptr)
  | android_wlegl_create_handle (android_wlegl : Ptr) (num_fds : ℕ) (ints : List ℤ)
  | android_wlegl_handle_add_fd (handle : Ptr) (fd : ℤ)
  | android_wlegl_create_buffer (android_wlegl : Ptr) (width height stride format usage : ℤ)
      (native_handle : Ptr)
  | android_wlegl_handle_destroy (handle : Ptr)
  deriving DecidableEq

namespace Request

/-- The objects a request is made on or passes along. The output of `set_fullscreen` may be
null. -/
def uses : Request → List (Interface × Ptr)
  | report _ | wl_display_connect _ => []
  | wl_display_disconnect display | wl_display_get_registry display | wl_display_roundtrip display
  | wl_display_dispatch display | wl_display_flush display => [(.wl_display, display)]
  | add_listener proxy listener => [(listener.interface, proxy)]
  | wl_registry_bind registry _ _ _ => [(.wl_registry, registry)]
  | wl_seat_get_touch seat => [(.wl_seat, seat)]
  | wl_touch_set_user_data touch => [(.wl_touch, touch)]
  | wl_compositor_create_surface compositor => [(.wl_compositor, compositor)]
  | xdg_wm_base_get_xdg_surface base surface => [(.xdg_wm_base, base), (.wl_surface, surface)]
  | xdg_wm_base_pong base _ => [(.xdg_wm_base, base)]
  | xdg_surface_get_toplevel surface | xdg_surface_ack_configure surface _ =>
    [(.xdg_surface, surface)]
  | xdg_toplevel_set_title toplevel _ | xdg_toplevel_set_app_id toplevel _
  | xdg_toplevel_set_fullscreen toplevel _ => [(.xdg_toplevel, toplevel)]
  | wl_surface_attach surface buffer _ _ => [(.wl_surface, surface), (.wl_buffer, buffer)]
  | wl_surface_frame surface | wl_surface_damage surface _ _ _ _ | wl_surface_commit surface
  | wl_surface_destroy surface => [(.wl_surface, surface)]
  | wl_shell_surface_destroy shell_surface => [(.wl_shell_surface, shell_surface)]
  | wl_callback_destroy callback => [(.wl_callback, callback)]
  | wl_buffer_destroy buffer => [(.wl_buffer, buffer)]
  | android_wlegl_create_handle wlegl _ _ => [(.android_wlegl, wlegl)]
  | android_wlegl_create_buffer wlegl _ _ _ _ _ handle =>
    [(.android_wlegl, wlegl), (.android_wlegl_handle, handle)]
  | android_wlegl_handle_add_fd handle _ | android_wlegl_handle_destroy handle =>
    [(.android_wlegl_handle, handle)]

/-- The kind of object a request creates. -/
def constructs : Request → Option Interface
  | wl_display_connect _ => some .wl_display
  | wl_display_get_registry _ => some .wl_registry
  | wl_registry_bind _ _ interface _ => some interface
  | wl_seat_get_touch _ => some .wl_touch
  | wl_compositor_create_surface _ => some .wl_surface
  | xdg_wm_base_get_xdg_surface _ _ => some .xdg_surface
  | xdg_surface_get_toplevel _ => some .xdg_toplevel
  | wl_surface_frame _ => some .wl_callback
  | android_wlegl_create_handle _ _ _ => some .android_wlegl_handle
  | android_wlegl_create_buffer _ _ _ _ _ _ _ => some .wl_buffer
  | _ => none

/-- The object a request destroys. -/
def destroys : Request → Option (Interface × Ptr)
  | wl_surface_destroy surface => some (.wl_surface, surface)
  | wl_shell_surface_destroy shell_surface => some (.wl_shell_surface, shell_surface)
  | wl_callback_destroy callback => some (.wl_callback, callback)
  | wl_buffer_destroy buffer => some (.wl_buffer, buffer)
  | android_wlegl_handle_destroy handle => some (.android_wlegl_handle, handle)
  | _ => none

def closes : Request → Bool
  | wl_display_disconnect _ => true
  | _ => false

def isPong : Request → Bool
  | xdg_wm_base_pong _ _ => true
  | _ => false

def isAckConfigure : Request → Bool
  | xdg_surface_ack_configure _ _ => true
  | _ => false

instance : Signature Request Interface where
  uses := uses
  constructs := constructs
  destroys := destroys
  closes := closes
  destroys_uses r u h := by
    cases r <;> cases h <;> exact List.mem_singleton.mpr rfl
  closes_uses r h := by
    cases r <;> cases h
    exact List.cons_ne_nil _ _

end Request

end WLManager
