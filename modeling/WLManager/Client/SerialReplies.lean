import WLManager.Client.WindowThread

/-!
# Replies to the compositor

The compositor asks for two kinds of replies: a pong for each ping and an `ack_configure` for each
configure event, with the serial of the event. Whether it gets one depends on the listeners that
were installed. `initialize` installs the one on the window's `xdg_surface`. The one on
`xdg_wm_base` is defined, but `registry_add_object`, which binds the global, leaves it out. So every
configure event is answered once and in order, and no ping is.
-/

namespace WLManager

open History Transition

/-- The object an event is sent to, with its kind. -/
def Event.target : Event → Interface × ℕ
  | .xdg_wm_base_ping id _ => (.xdg_wm_base, id)
  | .xdg_surface_configure id _ => (.xdg_surface, id)
  | .seat_handle_capabilities id _ | .seat_name id _ => (.wl_seat, id)
  | .output_handle_geometry id _ _ _ _ | .output_handle_mode id _ _ _ _ | .output_handle_done id
  | .output_handle_scale id _ => (.wl_output, id)
  | .touch id => (.wl_touch, id)
  | .frame_callback id _ => (.wl_callback, id)
  | .buffer_release id => (.wl_buffer, id)

/-- The reply an event asks for. -/
def Event.reply : Event → Option Request
  | .xdg_wm_base_ping id serial => some (.xdg_wm_base_pong (.obj id) serial)
  | .xdg_surface_configure id serial => some (.xdg_surface_ack_configure (.obj id) serial)
  | _ => none

def Request.isReply (r : Request) : Bool := r.isPong || r.isAckConfigure

/-- The replies in a history, in order. -/
def replies (log : List (Entry Request)) : List Request :=
  (log.map Entry.request).filter Request.isReply

namespace WindowManager

/-- The reply that an activity of the two threads asks for. -/
def demanded : Activity → Option Request
  | .event e => e.reply
  | .main | .call _ => none

/-- The compositor sends events only to objects that the client has created. -/
def SentToCreated (s : Thread WindowManager) : Activity → Prop
  | .event e => Created s.memory.log e.target.1 e.target.2
  | .main | .call _ => True

/-- Every `xdg_surface` has its listener, and no `xdg_wm_base` has one. -/
structure Answering (wm : WindowManager) : Prop where
  configure : ∀ id, Created wm.log Interface.xdg_surface id →
    ⟨.add_listener (.obj id) .xdg_surface_listener, true⟩ ∈ wm.log
  ping : ∀ e ∈ wm.log, ∀ proxy, e.request ≠ .add_listener proxy .xdg_wm_base_listener

/-- The same, except that the surface just created waits for its listener. -/
structure AnsweringOthers (wm : WindowManager) : Prop where
  configure : ∀ id, Created wm.log Interface.xdg_surface id →
    wm.xdg_surface = .obj id ∨ ⟨.add_listener (.obj id) .xdg_surface_listener, true⟩ ∈ wm.log
  ping : ∀ e ∈ wm.log, ∀ proxy, e.request ≠ .add_listener proxy .xdg_wm_base_listener

end WindowManager

/-- Requests with no part in this. -/
def Request.Unrelated (r : Request) : Prop :=
  r.constructs ≠ some .xdg_surface ∧ ∀ proxy, r ≠ .add_listener proxy .xdg_wm_base_listener

theorem Request.unrelated_of_ofHandler (r : Request) (h : r.OfHandler) : r.Unrelated := by
  cases r
  case add_listener proxy listener => cases listener <;> simp_all [OfHandler, Unrelated, constructs]
  all_goals first | exact h.elim | simp [Unrelated, constructs]

theorem Request.unrelated_of_ofPushFrame (r : Request) (h : r.OfPushFrame) : r.Unrelated := by
  cases r
  case add_listener proxy listener =>
    cases listener <;> simp_all [OfPushFrame, WindowManager.MakesBuffer, Unrelated, constructs]
  all_goals simp_all [OfPushFrame, WindowManager.MakesBuffer, Unrelated, constructs]

theorem Request.unrelated_of_ofConstruct (r : Request)
    (h : r.OfConstructor ∨ r.OfHandler ∨ r.OfExit) : r.Unrelated := by
  cases r
  case add_listener proxy listener =>
    cases listener <;> simp_all [OfConstructor, OfHandler, OfExit, Unrelated, constructs]
  case wl_registry_bind registry name interface version =>
    cases interface <;> simp_all [OfConstructor, OfHandler, OfExit, Unrelated, constructs]
  all_goals simp_all [OfConstructor, OfHandler, OfExit, Unrelated, constructs]

namespace WindowManager

variable {wm wm' : WindowManager}

theorem Adds.answering (h : Adds Request.Unrelated wm wm') (hwm : wm.Answering) :
    wm'.Answering := by
  obtain ⟨more, hlog, hmore⟩ := h
  refine ⟨fun id hid ↦ ?_, ?_⟩
  · rw [hlog] at hid ⊢
    rcases hid.of_append with hold | ⟨-, e, he, hkind⟩
    · exact List.mem_append_left _ (hwm.configure id hold)
    · exact absurd hkind (hmore e he).1
  · rw [hlog]
    exact List.forall_mem_append.mpr ⟨hwm.ping, fun e he ↦ (hmore e he).2⟩

theorem Adds.answeringOthers (h : Adds Request.Unrelated wm wm')
    (hsurface : wm'.xdg_surface = wm.xdg_surface) (hwm : wm.AnsweringOthers) :
    wm'.AnsweringOthers := by
  obtain ⟨more, hlog, hmore⟩ := h
  refine ⟨fun id hid ↦ ?_, ?_⟩
  · rw [hlog] at hid ⊢
    rw [hsurface]
    rcases hid.of_append with hold | ⟨-, e, he, hkind⟩
    · exact (hwm.configure id hold).imp_right (List.mem_append_left _)
    · exact absurd hkind (hmore e he).1
  · rw [hlog]
    exact List.forall_mem_append.mpr ⟨hwm.ping, fun e he ↦ (hmore e he).2⟩

theorem answering_dispatch (e : Event) (h : wm.Answering) : (wm.dispatch e).Answering :=
  ((adds_dispatch wm e).mono Request.unrelated_of_ofHandler).answering h

theorem answering_construct (answers : StartAnswers) : (construct answers).Answering := by
  apply ((adds_construct answers).mono Request.unrelated_of_ofConstruct).answering
  refine ⟨fun id hid ↦ ?_, List.forall_mem_nil _⟩
  exact absurd hid.lt_length (Nat.not_lt_zero id)

theorem answeringOthers_getXdgSurface (h : wm.Answering) : (getXdgSurface wm).AnsweringOthers := by
  refine ⟨fun id hid ↦ ?_, ?_⟩
  · rcases hid.of_append with hold | ⟨hge, -⟩
    · exact .inr (List.mem_append_left _ (h.configure id hold))
    · have hlt := hid.lt_length
      simp only [getXdgSurface, send, issue, List.length_append, List.length_singleton] at hlt
      exact .inl (congrArg Ptr.obj (by omega))
  · apply List.forall_mem_append.mpr ⟨h.ping, _⟩
    rw [List.forall_mem_singleton]
    intro p hp
    cases hp

theorem answering_addXdgSurfaceListener (h : wm.AnsweringOthers) :
    (addXdgSurfaceListener wm).Answering := by
  refine ⟨fun id hid ↦ ?_, ?_⟩
  · rcases hid.of_append with hold | ⟨-, e, he, hkind⟩
    · apply List.mem_append.mpr
      rcases h.configure id hold with hsurface | hlistener
      · rw [hsurface]
        exact .inr (List.mem_singleton_self _)
      · exact .inl hlistener
    · rw [List.mem_singleton.mp he] at hkind
      cases hkind
  · apply List.forall_mem_append.mpr ⟨h.ping, _⟩
    rw [List.forall_mem_singleton]
    intro p hp
    cases hp

theorem answeringOthers_dispatch (e : Event) (h : wm.AnsweringOthers) :
    (wm.dispatch e).AnsweringOthers := by
  apply ((adds_dispatch wm e).mono Request.unrelated_of_ofHandler).answeringOthers _ h
  obtain ⟨log, touch, width, height, callback, hframe⟩ := dispatch_frame wm e
  rw [hframe]

/-- `initialize` leaves every `xdg_surface` with its listener, whatever arrives meanwhile. -/
theorem outline_initializeBody (created : Bool) :
    Thread.Outline dispatch (fun _ (_ : Activity) ↦ True) (fun _ ↦ True) Answering Answering
      (initializeBody created) := by
  have hone : ∀ {statement : Statement}, (∀ wm, Adds Request.Unrelated wm (statement wm)) →
      ∀ wm, Answering wm → Answering (statement wm) := fun h wm ↦ (h wm).answering
  cases created with
  | false =>
    apply Thread.Outline.constant (fun _ _ ↦ trivial) (fun _ ↦ id)
      (fun _ e ↦ answering_dispatch e)
    simp only [initializeBody, Bool.false_eq_true, if_false, List.forall_mem_cons]
    refine ⟨hone fun wm ↦ ?_, hone fun wm ↦ ?_, List.forall_mem_nil _⟩
    all_goals exact .one rfl (by simp [Request.Unrelated, Request.constructs])
  | true =>
    refine .next (fun _ _ ↦ trivial) (fun _ e h _ ↦ answering_dispatch e h)
      (hone fun wm ↦ .one rfl (by simp [Request.Unrelated, Request.constructs])) ?_
    refine .next (fun _ _ ↦ trivial) (fun _ e h _ ↦ answering_dispatch e h)
      (fun _ ↦ answeringOthers_getXdgSurface) ?_
    refine .next (fun _ _ ↦ trivial) (fun _ e h _ ↦ answeringOthers_dispatch e h)
      (fun _ ↦ answering_addXdgSurfaceListener) ?_
    apply Thread.Outline.constant (fun _ _ ↦ trivial) (fun _ ↦ id)
      (fun _ e ↦ answering_dispatch e)
    simp only [List.forall_mem_cons]
    refine ⟨hone fun wm ↦ ?_, hone fun wm ↦ ?_, hone fun wm ↦ ?_, hone fun wm ↦ ?_,
      hone fun wm ↦ ?_, hone fun wm ↦ ?_, hone fun wm ↦ ?_, hone fun wm ↦ .of_log_eq rfl,
      List.forall_mem_nil _⟩
    all_goals exact .one rfl (by simp [Request.Unrelated, Request.constructs])

theorem answering_pushFrameBody (frame : Frame) :
    ∀ statement ∈ pushFrameBody frame, ∀ wm, Answering wm → Answering (statement wm) := by
  intro statement hstatement wm
  have hadds := adds_pushFrameBody frame statement hstatement wm
  exact (hadds.mono Request.unrelated_of_ofPushFrame).answering

/-- Whenever the main thread is idle, every `xdg_surface` has its listener. -/
theorem answering_of_idle {answers : StartAnswers} {created : Bool} {activities : List Activity}
    {s : Thread WindowManager} (hrun : run step (start answers created) activities = some s)
    (hidle : s.todo = []) : s.memory.Answering := by
  have houtlined : Thread.Outlined dispatch (fun _ (_ : Activity) ↦ True) (fun _ ↦ True) Answering
      s := by
    apply run_invariant' _ ⟨Answering, answering_construct answers, outline_initializeBody created⟩
      hrun
    intro s a t h hstep
    apply h.step _ _ trivial hstep
    · exact fun _ e h _ ↦ answering_dispatch e h
    · intro wm frame h _
      refine ⟨Answering, h, .constant (fun _ _ ↦ trivial) (fun _ ↦ id) ?_ ?_⟩
      · exact fun _ e ↦ answering_dispatch e
      · exact answering_pushFrameBody frame
  exact houtlined.memory_post hidle

/-! ## What is replied -/

theorem replies_append (log more : List (Entry Request)) :
    replies (log ++ more) = replies log ++ replies more := by
  unfold replies
  rw [List.map_append, List.filter_append]

theorem Adds.replies_eq {kind : Request → Prop} (h : Adds kind wm wm')
    (hkind : ∀ r, kind r → r.isReply = false) : replies wm'.log = replies wm.log := by
  obtain ⟨more, hlog, hmore⟩ := h
  have hnone : replies more = [] := by
    rw [replies, List.filter_eq_nil_iff, List.forall_mem_map]
    intro e he
    rw [hkind _ (hmore e he)]
    exact Bool.false_ne_true
  rw [hlog, replies_append, hnone, List.append_nil]

theorem isReply_of_ofPushFrame (r : Request) (h : r.OfPushFrame) : r.isReply = false := by
  cases r <;> first | rfl | simp [Request.OfPushFrame, MakesBuffer] at h

theorem isReply_of_ofTouch (r : Request) (h : r.OfTouch) : r.isReply = false := by
  cases r <;> first | rfl | exact h.elim

/-- Of the events only a configure is answered, with its own serial. -/
theorem replies_dispatch {e : Event} (h : wm.Answering)
    (hsent : Created wm.log e.target.1 e.target.2) :
    replies (wm.dispatch e).log =
      replies wm.log ++ e.reply.toList.filter Request.isAckConfigure := by
  cases e with
  | xdg_wm_base_ping id serial =>
    have hdropped : ¬ wm.Listening id .xdg_wm_base_listener :=
      fun hlistening ↦ h.ping _ hlistening.1 _ rfl
    rw [dispatch, if_neg hdropped]
    exact (List.append_nil _).symm
  | xdg_surface_configure id serial =>
    have hlistening : wm.Listening id .xdg_surface_listener := by
      refine ⟨h.configure id hsent, fun e _ ↦ ?_⟩
      intro hdestroys
      cases hrequest : e.request <;> rw [hrequest] at hdestroys <;> cases hdestroys
    rw [dispatch, if_pos hlistening]
    exact replies_append _ _
  | seat_handle_capabilities id caps =>
    have hnone : replies (wm.seat_handle_capabilities (.obj id) caps).log = replies wm.log :=
      (adds_seat_handle_capabilities wm _ caps).replies_eq isReply_of_ofTouch
    rw [dispatch]
    split_ifs
    · exact hnone.trans (List.append_nil _).symm
    · exact (List.append_nil _).symm
  | frame_callback id time =>
    rw [dispatch]
    split_ifs
    · exact replies_append _ _
    · exact (List.append_nil _).symm
  | output_handle_mode | buffer_release =>
    rw [dispatch]
    split_ifs <;> exact (List.append_nil _).symm
  | seat_name | output_handle_geometry | output_handle_done | output_handle_scale | touch =>
    exact (List.append_nil _).symm

/-- The state of the threads once `initialize` is done. -/
structure Steady (s : Thread WindowManager) : Prop where
  answering : s.memory.Answering
  pushing : ∀ statement ∈ s.todo, ∀ wm, Adds Request.OfPushFrame wm (statement wm)

theorem steady_step {s t : Thread WindowManager} {a : Activity} (h : Steady s)
    (hstep : step s a = some t) : Steady t := by
  obtain ⟨wm, todo⟩ := s
  cases a with
  | event e =>
    cases hstep
    exact ⟨answering_dispatch e h.answering, h.pushing⟩
  | main =>
    cases todo with
    | nil => cases hstep
    | cons statement todo =>
      cases hstep
      obtain ⟨hadds, hpushing⟩ := List.forall_mem_cons.mp h.pushing
      exact ⟨((hadds wm).mono Request.unrelated_of_ofPushFrame).answering h.answering, hpushing⟩
  | call frame =>
    cases todo with
    | nil =>
      cases hstep
      exact ⟨h.answering, adds_pushFrameBody frame⟩
    | cons statement todo => cases hstep

theorem replies_step {s t : Thread WindowManager} {a : Activity} (h : Steady s)
    (hsent : SentToCreated s a) (hstep : step s a = some t) :
    replies t.memory.log =
      replies s.memory.log ++ (demanded a).toList.filter Request.isAckConfigure := by
  obtain ⟨wm, todo⟩ := s
  cases a with
  | event e =>
    cases hstep
    exact replies_dispatch h.answering hsent
  | main =>
    cases todo with
    | nil => cases hstep
    | cons statement todo =>
      cases hstep
      have hadds := h.pushing statement List.mem_cons_self wm
      exact (hadds.replies_eq isReply_of_ofPushFrame).trans (List.append_nil _).symm
  | call frame =>
    cases todo with
    | nil =>
      cases hstep
      exact (List.append_nil _).symm
    | cons statement todo => cases hstep

/-- Every configure event of a run is answered once, in order and with its own serial. -/
theorem replies_run {s t : Thread WindowManager} {activities : List Activity} (h : Steady s)
    (hsent : StepsAll step SentToCreated s activities) (hrun : run step s activities = some t) :
    replies t.memory.log =
      replies s.memory.log ++ (activities.filterMap demanded).filter Request.isAckConfigure := by
  induction activities generalizing s with
  | nil =>
    cases hrun
    exact (List.append_nil _).symm
  | cons a activities ih =>
    obtain ⟨u, hu, ht⟩ := Option.bind_eq_some_iff.mp hrun
    have hdemanded : (a :: activities).filterMap demanded =
        (demanded a).toList ++ activities.filterMap demanded := by
      rw [List.filterMap_cons]
      cases demanded a <;> rfl
    calc
      _ = replies u.memory.log ++
          (activities.filterMap demanded).filter Request.isAckConfigure :=
        ih (steady_step h hu) (hsent.2 u hu) ht
      _ = replies s.memory.log ++ (demanded a).toList.filter Request.isAckConfigure ++
          (activities.filterMap demanded).filter Request.isAckConfigure := by
        rw [replies_step h hsent.1 hu]
      _ = _ := by
        rw [hdemanded, List.filter_append, List.append_assoc]

/-- After `initialize`, in every run in which the compositor sends events only to objects that the
client has created, the replies are the demanded ones, each once, in order and with its own serial,
exactly when the compositor sends no ping. -/
theorem replies_eq_demanded_iff_no_ping {answers : StartAnswers} {created : Bool}
    {before activities : List Activity} {s t : Thread WindowManager}
    (hbefore : run step (start answers created) before = some s) (hidle : s.todo = [])
    (hsent : StepsAll step SentToCreated s activities) (hrun : run step s activities = some t) :
    replies t.memory.log = replies s.memory.log ++ activities.filterMap demanded ↔
      ∀ id serial, .event (.xdg_wm_base_ping id serial) ∉ activities := by
  have hsteady : Steady s := by
    refine ⟨answering_of_idle hbefore hidle, ?_⟩
    rw [hidle]
    exact List.forall_mem_nil _
  rw [replies_run hsteady hsent hrun, List.append_cancel_left_eq, List.filter_eq_self,
    List.forall_mem_filterMap]
  constructor
  · intro h id serial hping
    exact absurd (h _ hping _ rfl) Bool.false_ne_true
  · intro h a ha r hr
    cases a with
    | main => cases hr
    | call frame => cases hr
    | event e =>
      cases e with
      | xdg_wm_base_ping id serial => exact absurd ha (h id serial)
      | xdg_surface_configure id serial =>
        cases hr
        rfl
      | _ => cases hr

/-- The window is configured. -/
def configured : List Activity := [.event (.xdg_surface_configure 14 7)]

theorem replies_configured :
    replies (window.dispatch (.xdg_surface_configure 14 7)).log =
      replies window.log ++ configured.filterMap demanded := by
  have hcreated : Created window.log Interface.xdg_surface 14 := ⟨_, rfl, rfl, rfl⟩
  have hsent : StepsAll step SentToCreated ⟨window, []⟩ configured := ⟨hcreated, fun _ _ ↦ trivial⟩
  have hrun : run step ⟨window, []⟩ configured =
      some ⟨window.dispatch (.xdg_surface_configure 14 7), []⟩ := rfl
  apply (replies_eq_demanded_iff_no_ping (run_initializeBody .prompt true) rfl hsent hrun).mpr
  simp [configured]

/-- The compositor pings the client. -/
def pinged : List Activity := [.event (.xdg_wm_base_ping 8 7)]

/-- The ping is sent to the bound `xdg_wm_base` and dropped. -/
theorem not_replies_pinged :
    StepsAll step SentToCreated ⟨window, []⟩ pinged ∧
      ¬ ∀ t, run step ⟨window, []⟩ pinged = some t →
        replies t.memory.log = replies window.log ++ pinged.filterMap demanded := by
  have hcreated : Created window.log Interface.xdg_wm_base 8 := ⟨_, rfl, rfl, rfl⟩
  refine ⟨⟨hcreated, fun _ _ ↦ trivial⟩, fun h ↦ ?_⟩
  exact absurd (h ⟨window.dispatch (.xdg_wm_base_ping 8 7), []⟩ rfl) (by decide)

end WindowManager

end WLManager
