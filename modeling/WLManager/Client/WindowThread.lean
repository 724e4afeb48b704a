import WLManager.Client.WaylandSingleWindowManager
import WLManager.Transition.Thread

/-!
# The window's two threads

The constructor ends by starting the thread that dispatches events, so from then on an event may be
handled between any two statements of the main thread, which runs `initialize` and then makes one
`pushFrame` call after the other.

No piece of the code ever takes back what it has issued, and each issues requests of its own.
-/

namespace WLManager

open History Transition

namespace WindowManager

/-- A step of the main thread, a call of `pushFrame`, or an event. -/
abbrev Activity := Thread.Action Frame Event

/-- One step of the two threads. -/
def step : Thread WindowManager → Activity → Option (Thread WindowManager) :=
  Thread.step pushFrameBody dispatch

/-- The main thread after the constructor, about to run `initialize`, in which the surface is
created or not. -/
def start (answers : StartAnswers) (created : Bool) : Thread WindowManager :=
  ⟨construct answers, initializeBody created⟩

/-- Undisturbed, the main thread runs `initialize` as a whole. -/
theorem run_initializeBody (answers : StartAnswers) (created : Bool) :
    run step (start answers created) (List.replicate (initializeBody created).length .main) =
      some ⟨((construct answers).runInitialize created).1, []⟩ := by
  exact Thread.run_replicate_main pushFrameBody dispatch (initializeBody created) _

/-- Undisturbed, the main thread runs `pushFrame` as a whole. -/
theorem run_pushFrameBody (wm : WindowManager) (frame : Frame) :
    run step ⟨wm, []⟩ (.call frame :: List.replicate (pushFrameBody frame).length .main) =
      some ⟨wm.pushFrame frame, []⟩ := by
  exact Thread.run_replicate_main pushFrameBody dispatch (pushFrameBody frame) wm

end WindowManager

namespace Request

/-! ## Who issues which request -/

/-- Requests that fetch the touch object. -/
def OfTouch : Request → Prop
  | wl_seat_get_touch _ | wl_touch_set_user_data _ | add_listener _ .touch_listener => True
  | _ => False

/-- Requests of the event handlers. -/
def OfHandler : Request → Prop
  | xdg_wm_base_pong _ _ | xdg_surface_ack_configure _ _ | wl_seat_get_touch _
  | wl_touch_set_user_data _ | add_listener _ .touch_listener | wl_callback_destroy _ => True
  | _ => False

/-- Requests of the constructor on its way to the dispatch thread, apart from those of the handlers
it lets run. -/
def OfConstructor : Request → Prop
  | wl_display_connect _ | wl_display_get_registry _ | wl_display_roundtrip _
  | wl_display_dispatch _ | add_listener _ .registry_listener | add_listener _ .output_listener
  | add_listener _ .w_seat_listener | wl_registry_bind _ _ .wl_compositor _
  | wl_registry_bind _ _ .wl_shell _ | wl_registry_bind _ _ .wl_output _
  | wl_registry_bind _ _ .wl_seat _ | wl_registry_bind _ _ .android_wlegl _
  | wl_registry_bind _ _ .xdg_wm_base _ => True
  | _ => False

/-- Requests of the constructor's way out. -/
def OfExit : Request → Prop
  | wl_display_disconnect _ | report _ => True
  | _ => False

/-- Requests of `initialize`. -/
def OfInitialize : Request → Prop
  | wl_compositor_create_surface _ | xdg_wm_base_get_xdg_surface _ _
  | add_listener _ .xdg_surface_listener | xdg_surface_get_toplevel _ | xdg_toplevel_set_title _ _
  | xdg_toplevel_set_app_id _ _ | xdg_toplevel_set_fullscreen _ _ | wl_surface_commit _
  | wl_display_roundtrip _ | report _ => True
  | _ => False

/-- Requests of `pushFrame`. -/
def OfPushFrame (r : Request) : Prop :=
  WindowManager.MakesBuffer r ∨
    match r with
    | wl_surface_frame _ | add_listener _ .w_frame_listener | wl_surface_attach _ _ _ _
    | wl_surface_damage _ _ _ _ _ | wl_surface_commit _ | wl_display_flush _ => True
    | _ => False

end Request

namespace WindowManager

/-- The history has grown, by requests of this kind only. -/
def Adds (kind : Request → Prop) (wm wm' : WindowManager) : Prop :=
  ∃ more, wm'.log = wm.log ++ more ∧ ∀ e ∈ more, kind e.request

variable {kind kind' : Request → Prop} {wm wm' wm'' : WindowManager}

theorem Adds.of_log_eq (h : wm'.log = wm.log) : Adds kind wm wm' :=
  ⟨[], h.trans (List.append_nil _).symm, List.forall_mem_nil _⟩

theorem Adds.one {e : Entry Request} (hlog : wm'.log = wm.log ++ [e]) (h : kind e.request) :
    Adds kind wm wm' :=
  ⟨[e], hlog, List.forall_mem_singleton.mpr h⟩

theorem Adds.send (h : Adds kind wm wm') (r : Request) (hr : kind r) :
    Adds kind wm (wm'.send r) := by
  obtain ⟨more, hlog, hmore⟩ := h
  refine ⟨more ++ [⟨r, true⟩], ?_, List.forall_mem_append.mpr ⟨hmore, ?_⟩⟩
  · rw [← List.append_assoc, ← hlog]
    rfl
  · exact List.forall_mem_singleton.mpr hr

theorem Adds.trans (h : Adds kind wm wm') (h' : Adds kind wm' wm'') : Adds kind wm wm'' := by
  obtain ⟨more, hlog, hmore⟩ := h
  obtain ⟨more', hlog', hmore'⟩ := h'
  exact ⟨more ++ more', by rw [hlog', hlog, List.append_assoc],
    List.forall_mem_append.mpr ⟨hmore, hmore'⟩⟩

theorem Adds.mono (h : Adds kind wm wm') (himp : ∀ r, kind r → kind' r) : Adds kind' wm wm' := by
  obtain ⟨more, hlog, hmore⟩ := h
  exact ⟨more, hlog, fun e he ↦ himp e.request (hmore e he)⟩

theorem Adds.foldl {α : Type*} {f : WindowManager → α → WindowManager}
    (h : ∀ wm a, Adds kind wm (f wm a)) (elements : List α) (wm : WindowManager) :
    Adds kind wm (elements.foldl f wm) := by
  induction elements generalizing wm with
  | nil => exact .of_log_eq rfl
  | cons a elements ih => exact (h wm a).trans (ih (f wm a))

/-! ## Handlers -/

theorem adds_seat_handle_capabilities (wm : WindowManager) (seat : Ptr) (caps : ℕ) :
    Adds Request.OfTouch wm (wm.seat_handle_capabilities seat caps) := by
  rw [seat_handle_capabilities]
  split_ifs
  · have htouch : Adds Request.OfTouch wm
        { wm.send (.wl_seat_get_touch seat) with touch := wm.newProxy } := .one rfl trivial
    exact (htouch.send (.wl_touch_set_user_data _) trivial).send
      (.add_listener _ .touch_listener) trivial
  · exact .of_log_eq rfl

theorem ofHandler_of_ofTouch (r : Request) (h : r.OfTouch) : r.OfHandler := by
  cases r
  case add_listener proxy listener => cases listener <;> exact h
  all_goals trivial

theorem adds_dispatch (wm : WindowManager) (e : Event) :
    Adds Request.OfHandler wm (wm.dispatch e) := by
  cases e with
  | xdg_wm_base_ping id serial =>
    rw [dispatch]
    split_ifs
    · exact .one rfl trivial
    · exact .of_log_eq rfl
  | xdg_surface_configure id serial =>
    rw [dispatch]
    split_ifs
    · exact .one rfl trivial
    · exact .of_log_eq rfl
  | seat_handle_capabilities id caps =>
    rw [dispatch]
    split_ifs
    · exact (adds_seat_handle_capabilities wm _ caps).mono ofHandler_of_ofTouch
    · exact .of_log_eq rfl
  | frame_callback id time =>
    rw [dispatch]
    split_ifs
    · exact .one rfl trivial
    · exact .of_log_eq rfl
  | output_handle_mode id flags width height refresh =>
    rw [dispatch]
    split_ifs <;> exact .of_log_eq rfl
  | buffer_release id =>
    rw [dispatch]
    split_ifs <;> exact .of_log_eq rfl
  | seat_name | output_handle_geometry | output_handle_done | output_handle_scale | touch =>
    exact .of_log_eq rfl

/-- The handlers write `touch`, the screen size and `frame_callback_ptr`, and no other member. -/
theorem dispatch_frame (wm : WindowManager) (e : Event) :
    ∃ log touch width height callback, wm.dispatch e =
      { wm with
        log := log
        touch := touch
        screen_width := width
        screen_height := height
        frame_callback_ptr := callback } := by
  cases e with
  | seat_handle_capabilities id caps =>
    rw [dispatch, seat_handle_capabilities]
    split_ifs <;> exact ⟨_, _, _, _, _, rfl⟩
  | xdg_wm_base_ping | xdg_surface_configure | frame_callback | output_handle_mode
  | buffer_release =>
    rw [dispatch]
    split_ifs <;> exact ⟨_, _, _, _, _, rfl⟩
  | seat_name | output_handle_geometry | output_handle_done | output_handle_scale | touch =>
    exact ⟨_, _, _, _, _, rfl⟩

/-! ## The main thread -/

theorem adds_initializeBody (created : Bool) :
    ∀ statement ∈ initializeBody created, ∀ wm, Adds Request.OfInitialize wm (statement wm) := by
  intro statement h wm
  cases created
  all_goals
    simp only [initializeBody, if_true, if_false, Bool.false_eq_true, List.mem_cons,
      List.not_mem_nil, or_false] at h
  · rcases h with rfl | rfl <;> exact .one rfl trivial
  · rcases h with rfl | rfl | rfl | rfl | rfl | rfl | rfl | rfl | rfl | rfl | rfl
    case inr.inr.inr.inr.inr.inr.inr.inr.inr.inr => exact .of_log_eq rfl
    all_goals exact .one rfl trivial

theorem adds_runInitialize (wm : WindowManager) (created : Bool) :
    Adds Request.OfInitialize wm (wm.runInitialize created).1 := by
  have hbody : ∀ statements ⊆ initializeBody created, ∀ wm : WindowManager,
      Adds Request.OfInitialize wm (wm.execute statements) := by
    intro statements hsub
    induction statements with
    | nil => exact fun wm ↦ .of_log_eq rfl
    | cons statement statements ih =>
      obtain ⟨hhead, htail⟩ := List.cons_subset.mp hsub
      exact fun wm ↦ (adds_initializeBody created statement hhead wm).trans (ih htail _)
  exact hbody _ (List.Subset.refl _) wm

theorem adds_pushFrameBody (frame : Frame) :
    ∀ statement ∈ pushFrameBody frame, ∀ wm, Adds Request.OfPushFrame wm (statement wm) := by
  intro statement h wm
  simp only [pushFrameBody, List.mem_cons, List.not_mem_nil, or_false] at h
  rcases h with rfl | rfl | rfl | rfl | rfl | rfl | rfl
  · obtain ⟨more, hlog, hmore⟩ := cacheBuffer_log wm frame
    exact ⟨more, hlog, fun e he ↦ .inl (hmore e he)⟩
  all_goals exact .one rfl (.inr trivial)

/-! ## The constructor -/

theorem adds_connectLoop (answers : ℕ → Bool) (remaining : ℕ) (wm : WindowManager) :
    Adds Request.OfConstructor wm (connectLoop answers remaining wm) := by
  induction remaining generalizing wm with
  | zero => exact .of_log_eq rfl
  | succ remaining ih =>
    have hconnect : Adds Request.OfConstructor wm (wm.connect (answers remaining)) :=
      .one rfl trivial
    rw [connectLoop]
    split_ifs
    · exact hconnect
    · exact hconnect.trans (ih _)

theorem adds_registry_add_object (wm : WindowManager) (registry : Ptr) (g : Global) :
    Adds Request.OfConstructor wm (wm.registry_add_object registry g) := by
  rw [registry_add_object]
  cases g.interface with
  | ignored => exact .of_log_eq rfl
  | wl_compositor | wl_shell | wl_output | wl_seat | android_wlegl | xdg_wm_base =>
    exact .one rfl trivial

theorem adds_announce (wm : WindowManager) (globals : List Global) :
    Adds Request.OfConstructor wm (wm.announce globals) := by
  have hroundtrip : Adds Request.OfConstructor wm (wm.send (.wl_display_roundtrip wm.dpy)) :=
    .one rfl trivial
  exact hroundtrip.trans (.foldl (fun wm g ↦ adds_registry_add_object wm wm.registry g) _ _)

theorem adds_installListeners (wm : WindowManager) (dispatched roundtrip : List Event) :
    Adds (fun r ↦ r.OfConstructor ∨ r.OfHandler) wm (wm.installListeners dispatched roundtrip) := by
  have hdispatch : ∀ (wm : WindowManager) e,
      Adds (fun r ↦ r.OfConstructor ∨ r.OfHandler) wm (wm.dispatch e) :=
    fun wm e ↦ (adds_dispatch wm e).mono fun _ ↦ .inr
  have hlisteners : Adds (fun r ↦ r.OfConstructor ∨ r.OfHandler) wm
      ((wm.send (.add_listener wm.output .output_listener)).send
        (.add_listener wm.seat .w_seat_listener)) :=
    Adds.send (.one rfl (.inl trivial)) (.add_listener wm.seat .w_seat_listener) (.inl trivial)
  have hdispatched := (hlisteners.send (.wl_display_dispatch wm.dpy) (.inl trivial)).trans
    (.foldl hdispatch dispatched _)
  exact (hdispatched.send (.wl_display_roundtrip _) (.inl trivial)).trans (.foldl hdispatch _ _)

/-- The connection once `wl_display_connect` has been tried. -/
def connected (answers : StartAnswers) : WindowManager :=
  connectLoop answers.connect tries uninitialised

theorem construct_of_unconnected {answers : StartAnswers} (hdpy : (connected answers).dpy = .null) :
    construct answers = ((connected answers).send (.report .failedToConnectServer)).exit_error := by
  unfold construct
  exact if_pos hdpy

theorem construct_of_unregistered {answers : StartAnswers}
    (hdpy : (connected answers).dpy ≠ .null) (hregistry : answers.registry = false) :
    construct answers = (((connected answers).get_registry false).send
      (.report .failedToGetRegistry)).exit_error := by
  unfold construct
  rw [hregistry]
  exact (if_neg hdpy).trans (if_pos rfl)

theorem construct_of_registered {answers : StartAnswers}
    (hdpy : (connected answers).dpy ≠ .null) (hregistry : answers.registry = true) :
    construct answers = ((((connected answers).get_registry true).send
      (.add_listener (connected answers).newProxy .registry_listener)).announce
        answers.globals).installListeners answers.dispatched answers.roundtrip := by
  unfold construct
  rw [hregistry]
  exact (if_neg hdpy).trans (if_neg (by exact nofun))

/-- On its way to the dispatch thread the constructor issues its own requests and those of the
handlers it lets run. -/
theorem adds_construct_of_registered {answers : StartAnswers}
    (hdpy : (connected answers).dpy ≠ .null) (hregistry : answers.registry = true) :
    Adds (fun r ↦ r.OfConstructor ∨ r.OfHandler) uninitialised (construct answers) := by
  have hconnected : Adds Request.OfConstructor uninitialised (connected answers) :=
    adds_connectLoop answers.connect tries uninitialised
  have hregistry' :
      Adds Request.OfConstructor uninitialised ((connected answers).get_registry true) :=
    hconnected.trans (.one rfl trivial)
  have hlistener := hregistry'.send
    (.add_listener (connected answers).newProxy .registry_listener) trivial
  have hannounced := hlistener.trans (adds_announce _ answers.globals)
  rw [construct_of_registered hdpy hregistry]
  exact (hannounced.mono fun _ ↦ .inl).trans (adds_installListeners _ _ _)

theorem adds_exit_error (wm : WindowManager) (message : Report) :
    Adds Request.OfExit wm (wm.send (.report message)).exit_error := by
  have hreport : Adds Request.OfExit wm (wm.send (.report message)) := .one rfl trivial
  rw [exit_error]
  split_ifs
  · have hdisconnect :=
      hreport.send (.wl_display_disconnect (wm.send (.report message)).dpy) trivial
    exact hdisconnect.send (.report .failedToInitialize) trivial
  · exact hreport.send (.report .failedToInitialize) trivial

theorem adds_construct (answers : StartAnswers) :
    Adds (fun r ↦ r.OfConstructor ∨ r.OfHandler ∨ r.OfExit) uninitialised (construct answers) := by
  have hexit : ∀ {wm} message, Adds Request.OfConstructor uninitialised wm →
      Adds (fun r ↦ r.OfConstructor ∨ r.OfHandler ∨ r.OfExit) uninitialised
        (wm.send (.report message)).exit_error := by
    intro wm message h
    have hbefore : Adds (fun r ↦ r.OfConstructor ∨ r.OfHandler ∨ r.OfExit) uninitialised wm :=
      h.mono fun _ ↦ .inl
    exact hbefore.trans ((adds_exit_error wm message).mono fun _ h ↦ .inr (.inr h))
  have hconnected : Adds Request.OfConstructor uninitialised (connected answers) :=
    adds_connectLoop answers.connect tries uninitialised
  by_cases hdpy : (connected answers).dpy = .null
  · rw [construct_of_unconnected hdpy]
    exact hexit _ hconnected
  cases hregistry : answers.registry with
  | true => exact (adds_construct_of_registered hdpy hregistry).mono fun _ h ↦ h.imp_right .inl
  | false =>
    rw [construct_of_unregistered hdpy hregistry]
    exact hexit _ (hconnected.trans (.one rfl trivial))

/-! ## Members the constructor leaves alone -/

/-- The members of the derived class that no handler writes. -/
def ownMembers (wm : WindowManager) : Option ℤ × Ptr × Ptr × AList fun _ : ℕ ↦ Ptr :=
  (wm.pre_format, wm.w_shell_surface, wm.w_surface, wm.buffer_map)

theorem ownMembers_foldl {α : Type*} {f : WindowManager → α → WindowManager}
    (hf : ∀ wm a, (f wm a).ownMembers = wm.ownMembers) (elements : List α) (wm : WindowManager) :
    (elements.foldl f wm).ownMembers = wm.ownMembers := by
  induction elements generalizing wm with
  | nil => rfl
  | cons a elements ih => rw [List.foldl_cons, ih, hf]

theorem ownMembers_dispatch (wm : WindowManager) (e : Event) :
    (wm.dispatch e).ownMembers = wm.ownMembers := by
  obtain ⟨_, _, _, _, _, hdispatch⟩ := dispatch_frame wm e
  rw [hdispatch]
  rfl

theorem ownMembers_connectLoop (answers : ℕ → Bool) (remaining : ℕ) (wm : WindowManager) :
    (connectLoop answers remaining wm).ownMembers = wm.ownMembers := by
  induction remaining generalizing wm with
  | zero => rfl
  | succ remaining ih =>
    rw [connectLoop]
    split_ifs
    · rfl
    · rw [ih]
      rfl

theorem ownMembers_registry_add_object (wm : WindowManager) (registry : Ptr) (g : Global) :
    (wm.registry_add_object registry g).ownMembers = wm.ownMembers := by
  rw [registry_add_object]
  cases g.interface <;> rfl

theorem ownMembers_exit_error (wm : WindowManager) : wm.exit_error.ownMembers = wm.ownMembers := by
  rw [exit_error]
  split_ifs <;> rfl

/-- The constructor of the base class leaves the members of the derived class as they are. -/
theorem ownMembers_construct (answers : StartAnswers) :
    (construct answers).ownMembers = uninitialised.ownMembers := by
  have hconnected : (connected answers).ownMembers = uninitialised.ownMembers :=
    ownMembers_connectLoop _ _ _
  by_cases hdpy : (connected answers).dpy = .null
  · rw [construct_of_unconnected hdpy, ownMembers_exit_error]
    exact hconnected
  cases hregistry : answers.registry with
  | false =>
    rw [construct_of_unregistered hdpy hregistry, ownMembers_exit_error]
    exact hconnected
  | true =>
    rw [construct_of_registered hdpy hregistry, installListeners,
      ownMembers_foldl ownMembers_dispatch]
    change (List.foldl dispatch _ answers.dispatched).ownMembers = _
    rw [ownMembers_foldl ownMembers_dispatch]
    change (List.foldl (fun (wm : WindowManager) g ↦ wm.registry_add_object wm.registry g) _
      answers.globals).ownMembers = _
    rw [ownMembers_foldl fun wm g ↦ ownMembers_registry_add_object wm wm.registry g]
    exact hconnected

end WindowManager

end WLManager
