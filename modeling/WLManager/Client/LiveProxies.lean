import WLManager.Client.WindowThread

/-!
# Proxies that are bound

Which members of a window manager point to live objects at which point of its code. The handlers
use only the object that their event was sent to, on which a listener has been installed, and
destroy nothing but frame callbacks. So members of every other kind stay live whatever events
arrive, and `initialize` and `pushFrame` may rely on those that were set before. The frame callback
is different: between `wl_surface_frame` and `wl_callback_add_listener` the done event of an earlier
frame would clear the member that the listener is about to be installed through.
-/

namespace WLManager

open History Transition

namespace WindowManager

/-- The buffers kept for the frames shown so far. -/
def buffers (wm : WindowManager) : List (Interface × Ptr) :=
  wm.buffer_map.entries.map fun entry ↦ (.wl_buffer, entry.2)

/-- The members that `initialize` and `pushFrame` find set by the constructor, and the buffers. -/
def bound (wm : WindowManager) : List (Interface × Ptr) :=
  (.wl_display, wm.dpy) :: (.wl_compositor, wm.compositor) :: (.xdg_wm_base, wm.xdg_wm_base) ::
    (.android_wlegl, wm.a_android_wlegl) :: wm.buffers

/-- With the surface. -/
def surfaced (wm : WindowManager) : List (Interface × Ptr) :=
  (.wl_surface, wm.w_surface) :: wm.bound

def xdgSurfaced (wm : WindowManager) : List (Interface × Ptr) :=
  (.xdg_surface, wm.xdg_surface) :: wm.surfaced

def toplevelled (wm : WindowManager) : List (Interface × Ptr) :=
  (.xdg_toplevel, wm.xdg_toplevel) :: wm.surfaced

/-- The history is sound so far, and these members are live. -/
def Holds (members : WindowManager → List (Interface × Ptr)) (wm : WindowManager) : Prop :=
  Holding (members wm) wm.log

/-- No event handled on the side touches these members or destroys their objects. -/
structure Undisturbed (members : WindowManager → List (Interface × Ptr)) : Prop where
  frame : ∀ wm e, members (wm.dispatch e) = members wm
  lasting : ∀ wm, ∀ u ∈ members wm, u.1 ≠ .wl_callback ∧ u.1 ≠ .android_wlegl_handle

theorem dispatch_members {α : Type*} {f : WindowManager → α}
    (hf : ∀ wm log touch width height callback,
      f { wm with
          log := log
          touch := touch
          screen_width := width
          screen_height := height
          frame_callback_ptr := callback } = f wm) (wm : WindowManager) (e : Event) :
    f (wm.dispatch e) = f wm := by
  obtain ⟨log, touch, width, height, callback, hframe⟩ := dispatch_frame wm e
  rw [hframe, hf]

theorem undisturbed_bound : Undisturbed bound where
  frame := dispatch_members fun _ _ _ _ _ _ ↦ rfl
  lasting wm := by
    simp only [bound, buffers, List.forall_mem_cons, List.forall_mem_map]
    simp

theorem undisturbed_surfaced : Undisturbed surfaced where
  frame := dispatch_members fun _ _ _ _ _ _ ↦ rfl
  lasting wm := List.forall_mem_cons.mpr ⟨by simp, undisturbed_bound.lasting wm⟩

theorem undisturbed_xdgSurfaced : Undisturbed xdgSurfaced where
  frame := dispatch_members fun _ _ _ _ _ _ ↦ rfl
  lasting wm := List.forall_mem_cons.mpr ⟨by simp, undisturbed_surfaced.lasting wm⟩

theorem undisturbed_toplevelled : Undisturbed toplevelled where
  frame := dispatch_members fun _ _ _ _ _ _ ↦ rfl
  lasting wm := List.forall_mem_cons.mpr ⟨by simp, undisturbed_surfaced.lasting wm⟩

/-- No frame is reported done while the listener for the next one is about to be installed. -/
def CallbackKept (s : Thread WindowManager) : Event → Prop
  | .frame_callback id _ =>
    s.todo.head? = some addFrameListener → ¬ s.memory.Listening id .w_frame_listener
  | _ => True

/-- Steps that leave the members set which the main thread relies on. -/
def SafeStep (created : Bool) (s : Thread WindowManager) : Activity → Prop
  | .main => True
  | .call _ => s.todo = [] → created = true
  | .event e => CallbackKept s e

/-- What `initialize` leaves behind, with and without a surface. -/
def Settled (created : Bool) (wm : WindowManager) : Prop :=
  match created with
  | true => Holds surfaced wm
  | false => Holds bound wm ∧ wm.w_surface = .null

/-! ## Handlers -/

/-- A listener can only have been installed on an object, and has been on one that still exists. -/
theorem live_of_listening {wm : WindowManager} {env : List (Interface × Ptr)} {id : ℕ}
    {listener : Listener} (h : Holding env wm.log) (hlistening : wm.Listening id listener) :
    Live wm.log listener.interface (.obj id) where
  created := by
    obtain ⟨id', hp, hcreated⟩ := h.sound.created_of_mem hlistening.1 (u := (listener.interface, _))
      (List.mem_singleton_self _)
    exact ⟨id', hp, hcreated⟩
  kept := hlistening.2
  connected := h.connected

theorem holding_seat_handle_capabilities {wm : WindowManager} {env : List (Interface × Ptr)}
    {seat : Ptr} {caps : ℕ} (h : Holding env wm.log) (hseat : Live wm.log Interface.wl_seat seat) :
    Holding env (wm.seat_handle_capabilities seat caps).log := by
  unfold seat_handle_capabilities
  split_ifs
  · have htouch : Holding ((.wl_touch, .obj wm.log.length) :: (.wl_seat, seat) :: env)
        (wm.send (.wl_seat_get_touch seat)).log :=
      (h.cons hseat).create (List.forall_mem_singleton.mpr List.mem_cons_self) rfl rfl rfl rfl
    have huser_data := htouch.use (e := ⟨.wl_touch_set_user_data (.obj wm.log.length), true⟩)
      (List.forall_mem_singleton.mpr List.mem_cons_self) rfl rfl
    have hlistener := huser_data.use
      (e := ⟨.add_listener (.obj wm.log.length) .touch_listener, true⟩)
      (List.forall_mem_singleton.mpr List.mem_cons_self) rfl rfl
    apply hlistener.mono
    exact List.subset_cons_of_subset _ (List.subset_cons_self _ _)
  · exact h

/-- What is live stays live while an event is handled, unless the event is done with it. -/
theorem holding_dispatch_of_ne {wm : WindowManager} {env : List (Interface × Ptr)} {e : Event}
    (h : Holding env wm.log)
    (hkept : ∀ id time, e = .frame_callback id time → wm.Listening id .w_frame_listener →
      (.wl_callback, .obj id) ∉ env) :
    Holding env (wm.dispatch e).log := by
  cases e with
  | xdg_wm_base_ping id serial =>
    rw [dispatch]
    split_ifs with hlistening
    · apply Holding.mono _ (List.subset_cons_self (.xdg_wm_base, .obj id) env)
      apply (h.cons (live_of_listening h hlistening)).use _ rfl rfl
      exact List.forall_mem_singleton.mpr List.mem_cons_self
    · exact h
  | xdg_surface_configure id serial =>
    rw [dispatch]
    split_ifs with hlistening
    · apply Holding.mono _ (List.subset_cons_self (.xdg_surface, .obj id) env)
      apply (h.cons (live_of_listening h hlistening)).use _ rfl rfl
      exact List.forall_mem_singleton.mpr List.mem_cons_self
    · exact h
  | seat_handle_capabilities id caps =>
    rw [dispatch]
    split_ifs with hlistening
    · exact holding_seat_handle_capabilities h (live_of_listening h hlistening)
    · exact h
  | frame_callback id time =>
    rw [dispatch]
    split_ifs with hlistening
    · apply (h.cons (live_of_listening h hlistening)).issue _ rfl (List.subset_cons_self _ _)
      · rintro u hu ⟨rfl⟩
        exact hkept id time rfl hlistening hu
      · exact List.forall_mem_singleton.mpr List.mem_cons_self
    · exact h
  | output_handle_mode | buffer_release =>
    rw [dispatch]
    split_ifs <;> exact h
  | seat_name | output_handle_geometry | output_handle_done | output_handle_scale | touch =>
    exact h

section Undisturbed

variable {members : WindowManager → List (Interface × Ptr)} {wm : WindowManager}

/-- The members that are undisturbed stay live. -/
theorem Undisturbed.holds_dispatch (hmembers : Undisturbed members) (h : Holds members wm)
    (e : Event) : Holds members (wm.dispatch e) := by
  unfold Holds
  rw [hmembers.frame]
  apply holding_dispatch_of_ne h
  intro id _ _ _ hmem
  exact (hmembers.lasting wm _ hmem).1 rfl

theorem Undisturbed.holds_foldl_dispatch (hmembers : Undisturbed members) (h : Holds members wm)
    (events : List Event) : Holds members (events.foldl dispatch wm) := by
  induction events generalizing wm with
  | nil => exact h
  | cons e events ih => exact ih (hmembers.holds_dispatch h e)

/-- A statement that relies on undisturbed members. -/
theorem Undisturbed.next (hmembers : Undisturbed members)
    {cond : Thread WindowManager → Activity → Prop} {post mid : WindowManager → Prop}
    {statement : Statement} {todo : List Statement}
    (hnext : ∀ wm, Holds members wm → mid (statement wm))
    (hrest : Thread.Outline dispatch cond (fun wm ↦ Sound wm.log) post mid todo) :
    Thread.Outline dispatch cond (fun wm ↦ Sound wm.log) post (Holds members)
      (statement :: todo) :=
  .next (fun _ ↦ Holding.sound) (fun _ e h _ ↦ hmembers.holds_dispatch h e) hnext hrest

end Undisturbed

theorem dispatch_frame_callback_ptr {wm : WindowManager} {e : Event}
    (h : ∀ id time, e = .frame_callback id time → ¬ wm.Listening id .w_frame_listener) :
    (wm.dispatch e).frame_callback_ptr = wm.frame_callback_ptr := by
  cases e with
  | frame_callback id time => rw [dispatch, if_neg (h id time rfl)]
  | seat_handle_capabilities id caps =>
    rw [dispatch, seat_handle_capabilities]
    split_ifs <;> rfl
  | xdg_wm_base_ping | xdg_surface_configure | output_handle_mode | buffer_release =>
    rw [dispatch]
    split_ifs <;> rfl
  | seat_name | output_handle_geometry | output_handle_done | output_handle_scale | touch => rfl

theorem settled_dispatch {created : Bool} {wm : WindowManager} (h : Settled created wm)
    (e : Event) : Settled created (wm.dispatch e) := by
  cases created with
  | true => exact undisturbed_surfaced.holds_dispatch h e
  | false =>
    refine ⟨undisturbed_bound.holds_dispatch h.1 e, ?_⟩
    rw [dispatch_members (fun _ _ _ _ _ _ ↦ rfl) wm e (f := w_surface)]
    exact h.2

/-! ## `initialize` -/

/-- The first pointer held may be used. -/
theorem forall_mem_uses {u : Interface × Ptr} {env : List (Interface × Ptr)} :
    ∀ v ∈ [u], v ∈ u :: env :=
  List.forall_mem_singleton.mpr List.mem_cons_self

theorem holds_createSurface {wm : WindowManager} (h : Holds bound wm) :
    Holds surfaced (createSurface true wm) := by
  apply Holding.create h _ rfl rfl rfl rfl
  exact List.forall_mem_singleton.mpr (List.mem_cons_of_mem _ List.mem_cons_self)

theorem settled_createSurface {wm : WindowManager} (h : Holds bound wm) :
    Settled false (createSurface false wm) := by
  refine ⟨Holding.use h ?_ rfl rfl, rfl⟩
  exact List.forall_mem_singleton.mpr (List.mem_cons_of_mem _ List.mem_cons_self)

theorem settled_reportNoSurface {wm : WindowManager} (h : Settled false wm) :
    Settled false (reportNoSurface wm) :=
  ⟨Holding.use h.1 nofun rfl rfl, h.2⟩

theorem holds_getXdgSurface {wm : WindowManager} (h : Holds surfaced wm) :
    Holds xdgSurfaced (getXdgSurface wm) := by
  apply Holding.create h _ rfl rfl rfl rfl
  apply List.forall_mem_cons.mpr ⟨_, forall_mem_uses⟩
  simp [bound]

theorem holds_addXdgSurfaceListener {wm : WindowManager} (h : Holds xdgSurfaced wm) :
    Holds xdgSurfaced (addXdgSurfaceListener wm) :=
  Holding.use h forall_mem_uses rfl rfl

theorem holds_getToplevel {wm : WindowManager} (h : Holds xdgSurfaced wm) :
    Holds toplevelled (getToplevel wm) := by
  apply Holding.mono
  · exact Holding.create h forall_mem_uses rfl rfl rfl rfl
  · exact List.cons_subset_cons _ (List.subset_cons_self _ _)

theorem holds_setTitle {wm : WindowManager} (h : Holds toplevelled wm) :
    Holds toplevelled (setTitle wm) :=
  Holding.use h forall_mem_uses rfl rfl

theorem holds_setAppId {wm : WindowManager} (h : Holds toplevelled wm) :
    Holds toplevelled (setAppId wm) :=
  Holding.use h forall_mem_uses rfl rfl

theorem holds_setFullscreen {wm : WindowManager} (h : Holds toplevelled wm) :
    Holds surfaced (setFullscreen wm) := by
  have huse : Holding wm.toplevelled (setFullscreen wm).log :=
    Holding.use h forall_mem_uses rfl rfl
  exact huse.mono (List.subset_cons_self _ _)

theorem holds_commit {wm : WindowManager} (h : Holds surfaced wm) : Holds surfaced (commit wm) :=
  Holding.use h forall_mem_uses rfl rfl

theorem holds_roundtrip {wm : WindowManager} (h : Holds surfaced wm) :
    Holds surfaced (roundtrip wm) := by
  apply Holding.use h _ rfl rfl
  exact List.forall_mem_singleton.mpr (List.mem_cons_of_mem _ List.mem_cons_self)

theorem holds_forgetFrame {wm : WindowManager} (h : Holds surfaced wm) :
    Holds surfaced (forgetFrame wm) := h

/-- `initialize` uses only what the constructor and itself have set. -/
theorem live_initializeBody (created : Bool) :
    Thread.Outline dispatch (SafeStep created) (fun wm ↦ Sound wm.log) (Settled created)
      (Holds bound) (initializeBody created) := by
  cases created with
  | true =>
    apply undisturbed_bound.next fun _ ↦ holds_createSurface
    apply undisturbed_surfaced.next fun _ ↦ holds_getXdgSurface
    apply undisturbed_xdgSurfaced.next fun _ ↦ holds_addXdgSurfaceListener
    apply undisturbed_xdgSurfaced.next fun _ ↦ holds_getToplevel
    apply undisturbed_toplevelled.next fun _ ↦ holds_setTitle
    apply undisturbed_toplevelled.next fun _ ↦ holds_setAppId
    apply undisturbed_toplevelled.next fun _ ↦ holds_setFullscreen
    apply undisturbed_surfaced.next fun _ ↦ holds_commit
    apply undisturbed_surfaced.next fun _ ↦ holds_roundtrip
    apply undisturbed_surfaced.next fun _ ↦ holds_commit
    apply undisturbed_surfaced.next fun _ ↦ holds_forgetFrame
    exact .done fun _ ↦ id
  | false =>
    apply undisturbed_bound.next fun _ ↦ settled_createSurface
    refine .next (fun _ h ↦ h.1.sound) (fun _ e h _ ↦ settled_dispatch h e)
      (fun _ ↦ settled_reportNoSurface) ?_
    exact .done fun _ ↦ id

/-! ## `pushFrame` -/

/-- The exchange makes a buffer and leaves everything else alone. -/
theorem holding_exchange {wm : WindowManager} {env : List (Interface × Ptr)} (frame : Frame)
    (h : Holding env wm.log) (hwlegl : (.android_wlegl, wm.a_android_wlegl) ∈ env)
    (hlasting : ∀ u ∈ env, u.1 ≠ .wl_callback ∧ u.1 ≠ .android_wlegl_handle) :
    Holding ((.wl_buffer, .obj (wm.log.length + (frame.native.fds.length + 1))) :: env)
      (wm.log ++ wm.exchange frame) := by
  let handle : Interface × Ptr := (.android_wlegl_handle, wm.newProxy)
  let creates : List (Entry Request) :=
    [⟨.android_wlegl_create_handle wm.a_android_wlegl frame.native.numFds frame.native.ints, true⟩]
  let fills : List (Entry Request) :=
    frame.native.fds.map fun fd ↦ ⟨.android_wlegl_handle_add_fd wm.newProxy fd, true⟩
  have hcreated : Holding (handle :: env) (wm.log ++ creates) :=
    h.create (List.forall_mem_singleton.mpr hwlegl) rfl rfl rfl rfl
  have hfilled : Holding (handle :: env) (wm.log ++ creates ++ fills) := by
    apply hcreated.useAll
    rw [List.forall_mem_map]
    exact fun _ _ ↦ ⟨forall_mem_uses, rfl, rfl⟩
  let buffer : Interface × Ptr := (.wl_buffer, .obj (wm.log ++ creates ++ fills).length)
  let finishes : List (Entry Request) :=
    [⟨.android_wlegl_create_buffer wm.a_android_wlegl frame.width frame.height frame.stride
      frame.pixel_format GRALLOC_USAGE_HW_RENDER wm.newProxy, true⟩]
  have hfinished : Holding (buffer :: handle :: env) (wm.log ++ creates ++ fills ++ finishes) := by
    apply hfilled.create _ rfl rfl rfl rfl
    exact List.forall_mem_cons.mpr ⟨List.mem_cons_of_mem _ hwlegl, forall_mem_uses⟩
  have hdestroyed : Holding (buffer :: env) (wm.log ++ creates ++ fills ++ finishes ++
      [⟨.android_wlegl_handle_destroy wm.newProxy, true⟩]) := by
    apply hfinished.issue _ rfl
    · exact List.cons_subset_cons _ (List.subset_cons_self _ _)
    · intro u hu hdestroys
      cases hdestroys
      rcases List.mem_cons.mp hu with hbuffer | hold
      · exact Interface.noConfusion (congrArg Prod.fst hbuffer)
      · exact (hlasting _ hold).2 rfl
    · exact List.forall_mem_singleton.mpr (List.mem_cons_of_mem _ List.mem_cons_self)
  have hlength : (wm.log ++ creates ++ fills).length =
      wm.log.length + (frame.native.fds.length + 1) := by
    simp only [creates, fills, List.length_append, List.length_map, List.length_singleton]
    omega
  have hlog : wm.log ++ creates ++ fills ++ finishes ++
      [⟨.android_wlegl_handle_destroy wm.newProxy, true⟩] = wm.log ++ wm.exchange frame := by
    simp only [exchange, creates, fills, finishes, List.append_assoc, List.cons_append,
      List.nil_append]
  rw [← hlength, ← hlog]
  exact hdestroyed

theorem holds_cacheBuffer {wm : WindowManager} (frame : Frame) (h : Holds surfaced wm) :
    Holds surfaced (cacheBuffer frame wm) ∧
      ((cacheBuffer frame wm).buffer_map.lookup frame.buffer).isSome := by
  cases hlookup : wm.buffer_map.lookup frame.buffer with
  | some p =>
    rw [cacheBuffer_hit hlookup, hlookup]
    exact ⟨h, rfl⟩
  | none =>
    have hlistener : Holding ((.wl_buffer, .obj (wm.log.length + (frame.native.fds.length + 1))) ::
        wm.surfaced) (wm.log ++ wm.exchange frame ++ [⟨.add_listener
          (.obj (wm.log.length + (frame.native.fds.length + 1))) .w_buffer_listener, true⟩]) := by
      apply Holding.use _ forall_mem_uses rfl rfl
      exact holding_exchange frame h (by simp [surfaced, bound]) (undisturbed_surfaced.lasting wm)
    rw [cacheBuffer_miss hlookup, AList.lookup_insert]
    refine ⟨hlistener.mono fun u hu ↦ ?_, rfl⟩
    simp only [surfaced, bound, buffers, List.mem_cons, List.map_cons,
      AList.entries_insert_of_notMem (AList.lookup_eq_none.mp hlookup)] at hu ⊢
    tauto

theorem holding_requestFrame {wm : WindowManager} (h : Holds surfaced wm) :
    Holding ((.wl_callback, (requestFrame wm).frame_callback_ptr) :: (requestFrame wm).surfaced)
      (requestFrame wm).log :=
  Holding.create h forall_mem_uses rfl rfl rfl rfl

/-- A buffer that is in the map may be attached. -/
theorem holds_attach {wm : WindowManager} {frame : Frame} (h : Holds surfaced wm)
    (hbuffer : (wm.buffer_map.lookup frame.buffer).isSome) : Holds surfaced (attach frame wm) := by
  obtain ⟨p, hp⟩ := Option.isSome_iff_exists.mp hbuffer
  apply Holding.use h _ rfl rfl
  apply List.forall_mem_cons.mpr ⟨List.mem_cons_self, List.forall_mem_singleton.mpr _⟩
  have hmem : (.wl_buffer, p) ∈ wm.buffers := List.mem_map_of_mem (List.of_mem_dlookup hp)
  rw [bufferFor, hp]
  simp only [bound, List.mem_cons]
  tauto

theorem holds_damage {wm : WindowManager} (frame : Frame) (h : Holds surfaced wm) :
    Holds surfaced (damage frame wm) :=
  Holding.use h forall_mem_uses rfl rfl

theorem holds_flush {wm : WindowManager} (h : Holds surfaced wm) : Holds surfaced (flush wm) := by
  apply Holding.use h _ rfl rfl
  exact List.forall_mem_singleton.mpr (List.mem_cons_of_mem _ List.mem_cons_self)

/-- The buffer for the frame is in the map. -/
structure HoldsBuffer (frame : Frame) (wm : WindowManager) : Prop where
  holds : Holds surfaced wm
  buffer : (wm.buffer_map.lookup frame.buffer).isSome

/-- And the callback has been created, but has no listener yet. -/
structure HoldsCallback (frame : Frame) (wm : WindowManager) : Prop where
  holding : Holding ((.wl_callback, wm.frame_callback_ptr) :: wm.surfaced) wm.log
  buffer : (wm.buffer_map.lookup frame.buffer).isSome

theorem HoldsBuffer.dispatch {frame : Frame} {wm : WindowManager} (h : HoldsBuffer frame wm)
    (e : Event) : HoldsBuffer frame (wm.dispatch e) := by
  refine ⟨undisturbed_surfaced.holds_dispatch h.holds e, ?_⟩
  rw [dispatch_members (fun _ _ _ _ _ _ ↦ rfl) wm e (f := buffer_map)]
  exact h.buffer

theorem HoldsCallback.dispatch {frame : Frame} {wm : WindowManager} {todo : List Statement}
    (h : HoldsCallback frame wm) {e : Event}
    (hkept : CallbackKept ⟨wm, addFrameListener :: todo⟩ e) :
    HoldsCallback frame (wm.dispatch e) := by
  have hdone : ∀ id time, e = .frame_callback id time →
      ¬ wm.Listening id .w_frame_listener := by
    rintro id time rfl
    exact hkept rfl
  refine ⟨?_, ?_⟩
  · rw [dispatch_frame_callback_ptr hdone, undisturbed_surfaced.frame]
    exact holding_dispatch_of_ne h.holding fun id time he hlistening _ ↦ hdone id time he hlistening
  · rw [dispatch_members (fun _ _ _ _ _ _ ↦ rfl) wm e (f := buffer_map)]
    exact h.buffer

/-- `pushFrame` uses only what `initialize` and itself have set. -/
theorem live_pushFrameBody (frame : Frame) :
    Thread.Outline dispatch (SafeStep true) (fun wm ↦ Sound wm.log) (Settled true)
      (Holds surfaced) (pushFrameBody frame) := by
  have hcache : ∀ wm, Holds surfaced wm → HoldsBuffer frame (cacheBuffer frame wm) := by
    intro wm h
    obtain ⟨hholds, hbuffer⟩ := holds_cacheBuffer frame h
    exact ⟨hholds, hbuffer⟩
  have hrequest : ∀ wm, HoldsBuffer frame wm → HoldsCallback frame (requestFrame wm) :=
    fun wm h ↦ ⟨holding_requestFrame h.holds, h.buffer⟩
  have hlistener : ∀ wm, HoldsCallback frame wm → HoldsBuffer frame (addFrameListener wm) := by
    intro wm h
    have huse : Holding ((.wl_callback, wm.frame_callback_ptr) :: wm.surfaced)
        (addFrameListener wm).log := h.holding.use forall_mem_uses rfl rfl
    exact ⟨huse.mono (List.subset_cons_self _ _), h.buffer⟩
  apply undisturbed_surfaced.next hcache
  refine .next (fun _ h ↦ h.holds.sound) (fun _ e h _ ↦ h.dispatch e) hrequest ?_
  refine .next (fun _ h ↦ h.holding.sound) (fun _ e h hkept ↦ h.dispatch hkept) hlistener ?_
  refine .next (fun _ h ↦ h.holds.sound) (fun _ e h _ ↦ h.dispatch e)
    (fun _ h ↦ holds_attach h.holds h.buffer) ?_
  apply undisturbed_surfaced.next fun _ ↦ holds_damage frame
  apply undisturbed_surfaced.next fun _ ↦ holds_commit
  apply undisturbed_surfaced.next fun _ ↦ holds_flush
  exact .done fun _ ↦ id

end WindowManager

end WLManager
