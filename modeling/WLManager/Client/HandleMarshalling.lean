import WLManager.Client.BufferCache

/-!
# Native handles on the wire

A native handle does not fit into one request. `pushFrame` sends its integers with the request
that creates the handle object, its file descriptors one by one after it, and then asks for the
`wl_buffer`. The receiver puts the words together again in the order in which a native handle has
them, file descriptors first.
-/

namespace WLManager

open History

/-- The requests a native handle is sent with. -/
def Request.Marshals : Request → Prop
  | .android_wlegl_create_handle _ _ _ | .android_wlegl_handle_add_fd _ _
  | .android_wlegl_create_buffer _ _ _ _ _ _ _ | .android_wlegl_handle_destroy _ => True
  | _ => False

/-- The integers that arrive with the creation of handles. -/
def intsSent (entries : List (Entry Request)) : List ℤ :=
  entries.flatMap fun e ↦
    match e.request with
    | .android_wlegl_create_handle _ _ ints => ints
    | _ => []

/-- The words a receiver has for a handle: the file descriptors added to it in the order of their
arrival, then the integers. -/
def received (handle : Ptr) (entries : List (Entry Request)) : List ℤ :=
  fdsAdded handle entries ++ intsSent entries

theorem NativeHandle.length_fds (handle : NativeHandle) : handle.fds.length = handle.numFds := by
  rw [fds, List.length_take, handle.data_length]
  omega

/-- The two parts of a handle are its data. -/
theorem NativeHandle.fds_append_ints (handle : NativeHandle) :
    handle.fds ++ handle.ints = handle.data := by
  have hrest : (handle.data.drop handle.numFds).length ≤ handle.numInts := by
    rw [List.length_drop, handle.data_length]
    omega
  rw [fds, ints, List.take_of_length_le hrest, List.take_append_drop]

theorem fdsAdded_append (handle : Ptr) (first second : List (Entry Request)) :
    fdsAdded handle (first ++ second) = fdsAdded handle first ++ fdsAdded handle second :=
  List.filterMap_append

theorem intsSent_append (first second : List (Entry Request)) :
    intsSent (first ++ second) = intsSent first ++ intsSent second :=
  List.flatMap_append

/-- Other requests carry no words of a handle. -/
theorem received_of_not_marshals {entries : List (Entry Request)}
    (h : ∀ e ∈ entries, ¬ e.request.Marshals) (handle : Ptr) :
    fdsAdded handle entries = [] ∧ intsSent entries = [] := by
  constructor
  · rw [fdsAdded, List.filterMap_eq_nil_iff]
    intro e he
    have hother := h e he
    split
    · simp_all [Request.Marshals]
    · rfl
  · rw [intsSent, List.flatMap_eq_nil_iff]
    intro e he
    have hother := h e he
    split
    · simp_all [Request.Marshals]
    · rfl

theorem intsSent_map_add_fd (handle : Ptr) (fds : List ℤ) :
    intsSent (fds.map fun fd ↦ ⟨.android_wlegl_handle_add_fd handle fd, true⟩) = [] := by
  rw [intsSent, List.flatMap_eq_nil_iff]
  intro e he
  obtain ⟨fd, -, rfl⟩ := List.mem_map.mp he
  rfl

namespace WindowManager

/-- What has been issued between two moments. -/
def issued (wm wm' : WindowManager) : List (Entry Request) := wm'.log.drop wm.log.length

theorem issued_of_append {wm wm' : WindowManager} {more : List (Entry Request)}
    (h : wm'.log = wm.log ++ more) : wm.issued wm' = more := by
  rw [issued, h, List.drop_left]

/-- The exchange carries the whole handle, to the one handle object it creates. -/
theorem received_exchange (wm : WindowManager) (frame : Frame) :
    received wm.newProxy (wm.exchange frame) = frame.native.data := by
  have hfds : fdsAdded wm.newProxy (wm.exchange frame) = frame.native.fds := by
    rw [exchange, ← List.singleton_append, fdsAdded_append, fdsAdded_append, fdsAdded_map_add_fd]
    exact List.append_nil _
  have hints : intsSent (wm.exchange frame) = frame.native.ints := by
    rw [exchange, ← List.singleton_append, intsSent_append, intsSent_append, intsSent_map_add_fd]
    change frame.native.ints ++ [] ++ [] = _
    rw [List.append_nil, List.append_nil]
  rw [received, hfds, hints, NativeHandle.fds_append_ints]

theorem not_marshals_presentation (wm : WindowManager) (frame : Frame) :
    ∀ e ∈ wm.presentation frame, ¬ e.request.Marshals := by
  simp [presentation, Request.Marshals]

/-- A handle that is not in `buffer_map` is sent exactly once and ahead of everything else: its
integers, its file descriptors to the same handle object, the `wl_buffer` with the dimensions of
the frame and the end of the handle object, from which a receiver gets back the data array. A
handle that is there is not sent at all. -/
theorem pushFrame_marshals (wm : WindowManager) (frame : Frame) :
    (wm.buffer_map.lookup frame.buffer = none →
      ∃ rest, wm.issued (wm.pushFrame frame) =
          ⟨.android_wlegl_create_handle wm.a_android_wlegl frame.native.numFds frame.native.ints,
            true⟩ ::
          (frame.native.fds.map
            (fun fd ↦ ⟨.android_wlegl_handle_add_fd (.obj wm.log.length) fd, true⟩) ++
          [⟨.android_wlegl_create_buffer wm.a_android_wlegl frame.width frame.height frame.stride
              frame.pixel_format GRALLOC_USAGE_HW_RENDER (.obj wm.log.length), true⟩,
            ⟨.android_wlegl_handle_destroy (.obj wm.log.length), true⟩]) ++ rest ∧
        (∀ e ∈ rest, ¬ e.request.Marshals) ∧ frame.native.fds.length = frame.native.numFds ∧
        received (.obj wm.log.length) (wm.issued (wm.pushFrame frame)) = frame.native.data) ∧
    (wm.buffer_map.lookup frame.buffer ≠ none →
      ∀ e ∈ wm.issued (wm.pushFrame frame), ¬ e.request.Marshals) := by
  constructor
  · intro hmiss
    have hrest : ∀ e ∈ (⟨.add_listener (.obj (wm.newBuffer frame)) .w_buffer_listener, true⟩ :
        Entry Request) :: (cacheBuffer frame wm).presentation frame, ¬ e.request.Marshals :=
      List.forall_mem_cons.mpr ⟨id, not_marshals_presentation _ frame⟩
    rw [issued_of_append (pushFrame_log_miss hmiss)]
    refine ⟨_, rfl, hrest, frame.native.length_fds, ?_⟩
    obtain ⟨hfds, hints⟩ := received_of_not_marshals hrest (.obj wm.log.length)
    rw [received, fdsAdded_append, intsSent_append, hfds, hints, List.append_nil, List.append_nil]
    exact received_exchange wm frame
  · intro hhit
    obtain ⟨p, hp⟩ := Option.ne_none_iff_exists'.mp hhit
    rw [issued_of_append (pushFrame_log_hit hp)]
    exact not_marshals_presentation wm frame

/-- Two file descriptors and one integer, sent to the first object after the setup of the window. -/
theorem received_two_fds_one_int :
    let frame : Frame := ⟨4096, ⟨2, 1, [5, 6, 7], rfl⟩, 1, 1, 1, 1⟩
    received (.obj window.log.length) (window.issued (window.pushFrame frame)) = [5, 6, 7] := by
  intro frame
  obtain ⟨_, -, -, -, hdata⟩ := (pushFrame_marshals window frame).1 rfl
  exact hdata

end WindowManager

end WLManager
