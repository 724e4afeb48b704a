import WLManager.Client.WindowThread

/-!
# What the window knows of its compositor

The registry announces globals, some of them perhaps more than once and some only later, and a
member keeps the object that was bound for the last one of its interface. Only the seat and the
output that were there at the end of the first roundtrip get a listener, and what their events have
told since, before and after the start of the dispatch thread, is what the members `touch`,
`screen_width` and `screen_height` say.
-/

namespace WLManager

open History Transition

/-- The interface a global is bound with. -/
def GlobalInterface.interface : GlobalInterface → Option Interface
  | .wl_compositor => some .wl_compositor
  | .wl_shell => some .wl_shell
  | .wl_output => some .wl_output
  | .wl_seat => some .wl_seat
  | .android_wlegl => some .android_wlegl
  | .xdg_wm_base => some .xdg_wm_base
  | .ignored _ => none

/-- The last global announced with an interface. -/
def lastGlobal (i : Interface) (globals : List Global) : Option Global :=
  (globals.filter fun g ↦ g.interface.interface = some i).getLast?

/-- The pointer is to the object bound for the global, or was never written if there is none. -/
def BoundFor (log : List (Entry Request)) (i : Interface) : Option Global → Ptr → Prop
  | none, p => p = .indeterminate
  | some g, p => ∃ id registry version, p = .obj id ∧
      log[id]? = some ⟨.wl_registry_bind registry g.name i version, true⟩

/-- What a seat and an output have told. -/
structure Devices where
  touchOffered : Bool
  screen : Option (ℤ × ℤ)
  deriving DecidableEq

/-- What one more event tells, when `seat` and `output` are listened to. -/
def Devices.learn (seat output : Ptr) (d : Devices) : Event → Devices
  | .seat_handle_capabilities id caps =>
    { d with
      touchOffered := d.touchOffered ||
        decide (seat = .obj id ∧ caps &&& WindowManager.WL_SEAT_CAPABILITY_TOUCH ≠ 0) }
  | .output_handle_mode id _ width height _ =>
    if output = .obj id then { d with screen := some (width, height) } else d
  | _ => d

/-- The requests that fetch the touch object. -/
def Request.isOfTouch : Request → Bool
  | wl_seat_get_touch _ | wl_touch_set_user_data _ | add_listener _ .touch_listener => true
  | _ => false

/-- Those in a history. -/
def touchRequests (log : List (Entry Request)) : List Request :=
  (log.map Entry.request).filter Request.isOfTouch

/-- The listeners through which a seat and an output are heard. -/
def Request.OfDevices : Request → Prop
  | add_listener _ .w_seat_listener | add_listener _ .output_listener => True
  | _ => False

/-- Requests with no part in this. -/
def Request.Neutral (r : Request) : Prop := r.isOfTouch = false ∧ ¬ r.OfDevices

theorem Request.neutral_of_ofInitialize (r : Request) (h : r.OfInitialize) : r.Neutral := by
  cases r
  case add_listener proxy listener =>
    cases listener <;> simp_all [OfInitialize, Neutral, isOfTouch, OfDevices]
  all_goals first | exact h.elim | exact ⟨rfl, id⟩

theorem Request.neutral_of_ofPushFrame (r : Request) (h : r.OfPushFrame) : r.Neutral := by
  cases r
  case add_listener proxy listener =>
    cases listener <;>
      simp_all [OfPushFrame, WindowManager.MakesBuffer, Neutral, isOfTouch, OfDevices]
  all_goals simp_all [OfPushFrame, WindowManager.MakesBuffer, Neutral, isOfTouch, OfDevices]

theorem Request.not_ofDevices_of_ofTouch (r : Request) (h : r.OfTouch) : ¬ r.OfDevices := by
  cases r
  case add_listener proxy listener => cases listener <;> simp_all [OfTouch, OfDevices]
  all_goals exact id

theorem touchRequests_append (log more : List (Entry Request)) :
    touchRequests (log ++ more) = touchRequests log ++ touchRequests more := by
  unfold touchRequests
  rw [List.map_append, List.filter_append]

namespace WindowManager

variable {wm wm' : WindowManager}

theorem Adds.touchRequests_eq (h : Adds Request.Neutral wm wm') :
    touchRequests wm'.log = touchRequests wm.log := by
  obtain ⟨more, hlog, hmore⟩ := h
  have hnone : touchRequests more = [] := by
    rw [touchRequests, List.filter_eq_nil_iff, List.forall_mem_map]
    intro e he
    rw [(hmore e he).1]
    exact Bool.false_ne_true
  rw [hlog, touchRequests_append, hnone, List.append_nil]

/-- Seats and outputs are never destroyed. -/
theorem listening_iff {id : ℕ} {listener : Listener}
    (h : listener.interface = .wl_seat ∨ listener.interface = .wl_output) :
    wm.Listening id listener ↔ ⟨.add_listener (.obj id) listener, true⟩ ∈ wm.log := by
  refine and_iff_left fun e _ hdestroys ↦ ?_
  rcases h with h | h
  all_goals
    rw [h] at hdestroys
    cases hrequest : e.request <;> rw [hrequest] at hdestroys <;> cases hdestroys

theorem Adds.listening_iff (h : Adds (fun r ↦ ¬ r.OfDevices) wm wm') {listener : Listener}
    (hlistener : listener = .w_seat_listener ∨ listener = .output_listener) (id : ℕ) :
    wm'.Listening id listener ↔ wm.Listening id listener := by
  have hinterface : listener.interface = .wl_seat ∨ listener.interface = .wl_output := by
    rcases hlistener with rfl | rfl
    · exact .inl rfl
    · exact .inr rfl
  obtain ⟨more, hlog, hmore⟩ := h
  rw [WindowManager.listening_iff hinterface, WindowManager.listening_iff hinterface, hlog,
    List.mem_append]
  refine or_iff_left fun hmem ↦ hmore _ hmem ?_
  rcases hlistener with rfl | rfl <;> trivial

/-- The members that say what the devices have told. -/
def told (wm : WindowManager) : Ptr × Option ℤ × Option ℤ :=
  (wm.touch, wm.screen_width, wm.screen_height)

/-- Nothing has happened that has to do with the devices. -/
structure Quiet (wm wm' : WindowManager) : Prop where
  adds : Adds Request.Neutral wm wm'
  told : wm'.told = wm.told

theorem Quiet.trans {wm'' : WindowManager} (h : Quiet wm wm') (h' : Quiet wm' wm'') :
    Quiet wm wm'' :=
  ⟨h.adds.trans h'.adds, h'.told.trans h.told⟩

theorem quiet_send (wm : WindowManager) (r : Request) (hr : r.Neutral) : Quiet wm (wm.send r) :=
  ⟨.one rfl hr, rfl⟩

/-! ## What the devices tell -/

/-- The members agree with what the listened-to seat and output have told. -/
structure Knows (seat output : Ptr) (d : Devices) (wm : WindowManager) : Prop where
  seat_listening : ∀ id, wm.Listening id .w_seat_listener ↔ seat = .obj id
  output_listening : ∀ id, wm.Listening id .output_listener ↔ output = .obj id
  fetched : touchRequests wm.log = if d.touchOffered then
    [.wl_seat_get_touch seat, .wl_touch_set_user_data wm.touch,
      .add_listener wm.touch .touch_listener] else []
  touch_null : wm.touch = .null ↔ d.touchOffered = false
  width : wm.screen_width = d.screen.map Prod.fst
  height : wm.screen_height = d.screen.map Prod.snd

variable {seat output : Ptr} {d : Devices}

theorem Knows.of_quiet (h : Knows seat output d wm) (hquiet : Quiet wm wm') :
    Knows seat output d wm' := by
  obtain ⟨htouch, hsize⟩ := Prod.mk.inj hquiet.told
  obtain ⟨hwidth, hheight⟩ := Prod.mk.inj hsize
  have hlisteners : Adds (fun r ↦ ¬ r.OfDevices) wm wm' := hquiet.adds.mono fun r hr ↦ hr.2
  refine ⟨fun id ↦ ?_, fun id ↦ ?_, ?_, ?_, ?_, ?_⟩
  · rw [hlisteners.listening_iff (.inl rfl) id, h.seat_listening]
  · rw [hlisteners.listening_iff (.inr rfl) id, h.output_listening]
  · rw [hquiet.adds.touchRequests_eq, h.fetched, htouch]
  · rw [htouch, h.touch_null]
  · rw [hwidth, h.width]
  · rw [hheight, h.height]

/-- The first capabilities with touch fetch it, and no later ones do. -/
theorem Knows.seat_handle_capabilities (h : Knows seat output d wm) (caps : ℕ) :
    Knows seat output
      { d with
        touchOffered := d.touchOffered || decide (caps &&& WL_SEAT_CAPABILITY_TOUCH ≠ 0) }
      (wm.seat_handle_capabilities seat caps) := by
  have hlisteners : Adds (fun r ↦ ¬ r.OfDevices) wm (wm.seat_handle_capabilities seat caps) :=
    (adds_seat_handle_capabilities wm seat caps).mono Request.not_ofDevices_of_ofTouch
  have hseat := fun id ↦ (hlisteners.listening_iff (.inl rfl) id).trans (h.seat_listening id)
  have houtput := fun id ↦ (hlisteners.listening_iff (.inr rfl) id).trans (h.output_listening id)
  revert hseat houtput
  rw [WindowManager.seat_handle_capabilities]
  split_ifs with hfetch
  · obtain ⟨hcaps, hnull⟩ := hfetch
    have hfetched := h.fetched
    rw [h.touch_null.mp hnull, if_neg Bool.false_ne_true] at hfetched
    have hoffered : (d.touchOffered || decide (caps &&& WL_SEAT_CAPABILITY_TOUCH ≠ 0)) = true := by
      rw [decide_eq_true hcaps, Bool.or_true]
    intro hseat houtput
    refine ⟨hseat, houtput, ?_, ?_, h.width, h.height⟩
    · rw [hoffered, if_pos rfl]
      simp only [send, issue, List.append_assoc, touchRequests_append, hfetched]
      rfl
    · rw [hoffered]
      exact iff_of_false Ptr.noConfusion Bool.noConfusion
  · have hkept : (d.touchOffered || decide (caps &&& WL_SEAT_CAPABILITY_TOUCH ≠ 0)) =
        d.touchOffered := by
      cases hoffered : d.touchOffered with
      | true => rfl
      | false =>
        rw [Bool.false_or, decide_eq_false_iff_not]
        exact fun hcaps ↦ hfetch ⟨hcaps, h.touch_null.mpr hoffered⟩
    rw [hkept]
    exact fun _ _ ↦ h

theorem Knows.dispatch (h : Knows seat output d wm) (e : Event) :
    Knows seat output (d.learn seat output e) (wm.dispatch e) := by
  cases e with
  | seat_handle_capabilities id caps =>
    rw [WindowManager.dispatch, Devices.learn]
    by_cases hseat : seat = .obj id
    · rw [if_pos ((h.seat_listening id).mpr hseat), ← hseat]
      simpa using h.seat_handle_capabilities caps
    · rw [if_neg (mt (h.seat_listening id).mp hseat)]
      simpa [hseat] using h
  | output_handle_mode id flags width height refresh =>
    rw [WindowManager.dispatch, Devices.learn]
    by_cases houtput : output = .obj id
    · rw [if_pos ((h.output_listening id).mpr houtput), if_pos houtput]
      exact ⟨h.seat_listening, h.output_listening, h.fetched, h.touch_null, rfl, rfl⟩
    · rw [if_neg (mt (h.output_listening id).mp houtput), if_neg houtput]
      exact h
  | xdg_wm_base_ping | xdg_surface_configure | frame_callback | buffer_release =>
    rw [WindowManager.dispatch]
    split_ifs
    all_goals first | exact h | exact h.of_quiet ⟨.one rfl ⟨rfl, id⟩, rfl⟩
  | seat_name | output_handle_geometry | output_handle_done | output_handle_scale | touch =>
    exact h

theorem Knows.foldl_dispatch (h : Knows seat output d wm) (events : List Event) :
    Knows seat output (events.foldl (Devices.learn seat output) d)
      (events.foldl WindowManager.dispatch wm) := by
  induction events generalizing d wm with
  | nil => exact h
  | cons e events ih => exact ih (h.dispatch e)

/-! ## What the registry announces -/

/-- The member that keeps the object bound for an interface. -/
def boundTo (wm : WindowManager) : Interface → Ptr
  | .wl_compositor => wm.compositor
  | .wl_shell => wm.shell
  | .wl_output => wm.output
  | .wl_seat => wm.seat
  | .android_wlegl => wm.a_android_wlegl
  | .xdg_wm_base => wm.xdg_wm_base
  | _ => .indeterminate

theorem quiet_registry_add_object (wm : WindowManager) (registry : Ptr) (g : Global) :
    Quiet wm (wm.registry_add_object registry g) := by
  rw [registry_add_object]
  cases g.interface with
  | ignored => exact ⟨.of_log_eq rfl, rfl⟩
  | wl_compositor | wl_shell | wl_output | wl_seat | android_wlegl | xdg_wm_base =>
    exact ⟨.one rfl ⟨rfl, id⟩, rfl⟩

theorem quiet_connectLoop (answers : ℕ → Bool) (remaining : ℕ) (wm : WindowManager) :
    Quiet wm (connectLoop answers remaining wm) ∧
      (connectLoop answers remaining wm).boundTo = wm.boundTo := by
  induction remaining generalizing wm with
  | zero => exact ⟨⟨.of_log_eq rfl, rfl⟩, rfl⟩
  | succ remaining ih =>
    have hconnect : Quiet wm (wm.connect (answers remaining)) := ⟨.one rfl ⟨rfl, id⟩, rfl⟩
    have hboundTo : (wm.connect (answers remaining)).boundTo = wm.boundTo := rfl
    rw [connectLoop]
    split_ifs
    · exact ⟨hconnect, hboundTo⟩
    · exact ⟨hconnect.trans (ih _).1, (ih _).2.trans hboundTo⟩

/-- A global sets the member for its interface, if it has one, and leaves the others alone. -/
theorem boundTo_registry_add_object (wm : WindowManager) (registry : Ptr) (g : Global)
    (i : Interface) :
    (g.interface.interface ≠ some i ∧
      (wm.registry_add_object registry g).boundTo i = wm.boundTo i ∧
      wm.log <+: (wm.registry_add_object registry g).log) ∨
    (g.interface.interface = some i ∧
      (wm.registry_add_object registry g).boundTo i = .obj wm.log.length ∧
      ∃ version, (wm.registry_add_object registry g).log =
        wm.log ++ [⟨.wl_registry_bind registry g.name i version, true⟩]) := by
  rw [registry_add_object]
  cases g.interface with
  | ignored interface =>
    exact .inl ⟨by simp [GlobalInterface.interface], rfl, List.prefix_refl _⟩
  | wl_compositor | wl_shell | wl_output | wl_seat | android_wlegl | xdg_wm_base =>
    cases i
    all_goals first
      | exact .inr ⟨rfl, rfl, _, rfl⟩
      | exact .inl ⟨by simp [GlobalInterface.interface], rfl, List.prefix_append _ _⟩

theorem BoundFor.of_prefix {log log' : List (Entry Request)} {i : Interface} {g : Option Global}
    {p : Ptr} (h : BoundFor log i g p) (hextends : log <+: log') : BoundFor log' i g p := by
  cases g with
  | none => exact h
  | some g =>
    obtain ⟨id, registry, version, hp, hid⟩ := h
    obtain ⟨more, rfl⟩ := hextends
    refine ⟨id, registry, version, hp, ?_⟩
    rw [List.getElem?_append_left (List.getElem?_eq_some_iff.mp hid).1, hid]

/-- One more global is announced. -/
theorem BoundFor.registry_add_object {i : Interface} {globals : List Global}
    (h : BoundFor wm.log i (lastGlobal i globals) (wm.boundTo i)) (registry : Ptr) (g : Global) :
    BoundFor (wm.registry_add_object registry g).log i (lastGlobal i (globals ++ [g]))
      ((wm.registry_add_object registry g).boundTo i) := by
  unfold lastGlobal at h ⊢
  rw [List.filter_append]
  rcases boundTo_registry_add_object wm registry g i with
    ⟨hother, hmember, hextends⟩ | ⟨hthis, hmember, version, hlog⟩
  · rw [List.filter_singleton, decide_eq_false hother, Bool.cond_false, List.append_nil, hmember]
    exact BoundFor.of_prefix h hextends
  · rw [List.filter_singleton, decide_eq_true hthis, Bool.cond_true, List.getLast?_concat,
      hmember, hlog]
    exact ⟨_, _, version, rfl, List.getElem?_concat_length⟩

/-- The roundtrip leaves each member with the object bound for the last global of its interface. -/
theorem boundFor_announce (i : Interface) (hnew : wm.boundTo i = .indeterminate)
    (globals : List Global) :
    BoundFor (wm.announce globals).log i (lastGlobal i globals) ((wm.announce globals).boundTo i) ∧
      Quiet wm (wm.announce globals) := by
  have hroundtrip := quiet_send wm (.wl_display_roundtrip wm.dpy) ⟨rfl, id⟩
  unfold announce
  induction globals using List.reverseRecOn with
  | nil => exact ⟨hnew, hroundtrip⟩
  | append_singleton globals g ih =>
    obtain ⟨hbound, hquiet⟩ := ih
    rw [List.foldl_append, List.foldl_cons, List.foldl_nil]
    exact ⟨BoundFor.registry_add_object hbound _ g, hquiet.trans (quiet_registry_add_object _ _ g)⟩

/-! ## Runs -/

/-- The connection once the globals have been announced. -/
def withGlobals (answers : StartAnswers) : WindowManager :=
  (((connected answers).get_registry true).send
    (.add_listener (connected answers).newProxy .registry_listener)).announce answers.globals

theorem quiet_withGlobals (answers : StartAnswers) :
    Quiet uninitialised (withGlobals answers) ∧
      ∀ i, BoundFor (withGlobals answers).log i (lastGlobal i answers.globals)
        ((withGlobals answers).boundTo i) := by
  obtain ⟨hconnected, hboundTo⟩ := quiet_connectLoop answers.connect tries uninitialised
  have hget : Quiet (connected answers) ((connected answers).get_registry true) :=
    ⟨.one rfl ⟨rfl, id⟩, rfl⟩
  have hregistry := hget.trans (quiet_send ((connected answers).get_registry true)
    (.add_listener (connected answers).newProxy .registry_listener) ⟨rfl, id⟩)
  have hnew : ∀ i, (((connected answers).get_registry true).send
      (.add_listener (connected answers).newProxy .registry_listener)).boundTo i =
        .indeterminate := by
    intro i
    calc
      _ = (connected answers).boundTo i := rfl
      _ = uninitialised.boundTo i := congrFun hboundTo i
      _ = .indeterminate := by cases i <;> rfl
  refine ⟨?_, fun i ↦ (boundFor_announce i (hnew i) answers.globals).1⟩
  exact (hconnected.trans hregistry).trans
    (boundFor_announce .wl_seat (hnew .wl_seat) answers.globals).2

/-- Before any event nothing is known, and the seat and output bound last are listened to. -/
theorem knows_listeners (answers : StartAnswers) :
    Knows (withGlobals answers).seat (withGlobals answers).output ⟨false, none⟩
      (((withGlobals answers).send
        (.add_listener (withGlobals answers).output .output_listener)).send
        (.add_listener (withGlobals answers).seat .w_seat_listener)) := by
  have hstart : Knows .null .null ⟨false, none⟩ uninitialised := by
    refine ⟨fun id ↦ ?_, fun id ↦ ?_, rfl, iff_of_true rfl rfl, rfl, rfl⟩
    all_goals exact iff_of_false (fun h ↦ absurd h.1 List.not_mem_nil) Ptr.noConfusion
  obtain ⟨hseat, houtput, hfetched, hnull, hwidth, hheight⟩ :=
    hstart.of_quiet (quiet_withGlobals answers).1
  refine ⟨fun id ↦ ?_, fun id ↦ ?_, ?_, hnull, hwidth, hheight⟩
  · have hnone := hseat id
    rw [listening_iff (.inl rfl)] at hnone ⊢
    simp only [send, issue, List.mem_append, List.mem_singleton, hnone]
    simp [eq_comm]
  · have hnone := houtput id
    rw [listening_iff (.inr rfl)] at hnone ⊢
    simp only [send, issue, List.mem_append, List.mem_singleton, hnone]
    simp [eq_comm]
  · simp only [send, issue, touchRequests_append, hfetched]
    rfl

theorem knows_construct {answers : StartAnswers} (hdpy : (connected answers).dpy ≠ .null)
    (hregistry : answers.registry = true) :
    Knows (withGlobals answers).seat (withGlobals answers).output
      ((answers.dispatched ++ answers.roundtrip).foldl
        (Devices.learn (withGlobals answers).seat (withGlobals answers).output) ⟨false, none⟩)
      (construct answers) := by
  have hdispatched := ((knows_listeners answers).of_quiet (quiet_send _
    (.wl_display_dispatch (withGlobals answers).dpy) ⟨rfl, id⟩)).foldl_dispatch answers.dispatched
  rw [construct_of_registered hdpy hregistry, List.foldl_append]
  exact (hdispatched.of_quiet (quiet_send _ (.wl_display_roundtrip _) ⟨rfl, id⟩)).foldl_dispatch
    answers.roundtrip

theorem boundTo_dispatch (wm : WindowManager) (e : Event) :
    (wm.dispatch e).boundTo = wm.boundTo := by
  obtain ⟨_, _, _, _, _, hdispatch⟩ := dispatch_frame wm e
  rw [hdispatch]
  rfl

theorem boundTo_construct {answers : StartAnswers} (hdpy : (connected answers).dpy ≠ .null)
    (hregistry : answers.registry = true) :
    (construct answers).boundTo = (withGlobals answers).boundTo ∧
      (withGlobals answers).log <+: (construct answers).log := by
  have hfold : ∀ (events : List Event) (wm : WindowManager),
      (events.foldl dispatch wm).boundTo = wm.boundTo := by
    intro events
    induction events with
    | nil => exact fun _ ↦ rfl
    | cons e events ih => exact fun wm ↦ (ih (wm.dispatch e)).trans (boundTo_dispatch wm e)
  rw [construct_of_registered hdpy hregistry]
  refine ⟨(hfold _ _).trans (hfold _ _), ?_⟩
  obtain ⟨more, hlog, -⟩ :=
    adds_installListeners (withGlobals answers) answers.dispatched answers.roundtrip
  exact ⟨more, hlog.symm⟩

/-- A statement of the main thread that has nothing to do with the devices. -/
def Statement.Quiet (statement : Statement) : Prop :=
  ∀ wm, WindowManager.Quiet wm (statement wm) ∧ (statement wm).boundTo = wm.boundTo

theorem quiet_initializeBody (created : Bool) :
    ∀ statement ∈ initializeBody created, Statement.Quiet statement := by
  intro statement h wm
  have hadds := (adds_initializeBody created statement h wm).mono Request.neutral_of_ofInitialize
  cases created
  all_goals
    simp only [initializeBody, if_true, if_false, Bool.false_eq_true, List.mem_cons,
      List.not_mem_nil, or_false] at h
  · rcases h with rfl | rfl <;> exact ⟨⟨hadds, rfl⟩, rfl⟩
  · rcases h with rfl | rfl | rfl | rfl | rfl | rfl | rfl | rfl | rfl | rfl | rfl <;>
      exact ⟨⟨hadds, rfl⟩, rfl⟩

theorem quiet_pushFrameBody (frame : Frame) :
    ∀ statement ∈ pushFrameBody frame, Statement.Quiet statement := by
  intro statement h wm
  have hadds := (adds_pushFrameBody frame statement h wm).mono Request.neutral_of_ofPushFrame
  simp only [pushFrameBody, List.mem_cons, List.not_mem_nil, or_false] at h
  rcases h with rfl | rfl | rfl | rfl | rfl | rfl | rfl
  case inl =>
    cases hlookup : wm.buffer_map.lookup frame.buffer with
    | some p =>
      rw [cacheBuffer_hit hlookup] at hadds ⊢
      exact ⟨⟨hadds, rfl⟩, rfl⟩
    | none =>
      rw [cacheBuffer_miss hlookup] at hadds ⊢
      exact ⟨⟨hadds, rfl⟩, rfl⟩
  all_goals exact ⟨⟨hadds, rfl⟩, rfl⟩

/-- What the two threads do, and a global that is announced after the construction. -/
inductive Occurrence
  | activity (a : Activity)
  | global (g : Global)

/-- The registry keeps its listener. -/
def stepOrBind (s : Thread WindowManager) : Occurrence → Option (Thread WindowManager)
  | .activity a => step s a
  | .global g => some ⟨s.memory.registry_add_object s.memory.registry g, s.todo⟩

/-- The event an occurrence delivers. -/
def delivered : Occurrence → Option Event
  | .activity (.event e) => some e
  | .activity .main | .activity (.call _) | .global _ => none

def announcedLater : Occurrence → Option Global
  | .global g => some g
  | .activity _ => none

/-- All globals of a run, in the order of their announcements. -/
def globals (answers : StartAnswers) (occurrences : List Occurrence) : List Global :=
  answers.globals ++ occurrences.filterMap announcedLater

/-- The events that reach the handlers of a run, in order. -/
def heard (answers : StartAnswers) (occurrences : List Occurrence) : List Event :=
  answers.dispatched ++ answers.roundtrip ++ occurrences.filterMap delivered

/-- What the events of a run have told about a seat and an output. -/
def devices (answers : StartAnswers) (occurrences : List Occurrence) (seat output : Ptr) :
    Devices :=
  (heard answers occurrences).foldl (Devices.learn seat output) ⟨false, none⟩

theorem devices_snoc (answers : StartAnswers) (occurrences : List Occurrence) (o : Occurrence)
    (seat output : Ptr) : devices answers (occurrences ++ [o]) seat output =
      (delivered o).toList.foldl (Devices.learn seat output)
        (devices answers occurrences seat output) := by
  unfold devices heard
  rw [List.filterMap_append, ← List.append_assoc, List.foldl_append]
  rcases o with (_ | _ | _) | _ <;> rfl

theorem globals_snoc_global (answers : StartAnswers) (occurrences : List Occurrence) (g : Global) :
    globals answers (occurrences ++ [.global g]) = globals answers occurrences ++ [g] := by
  unfold globals
  rw [List.filterMap_append, ← List.append_assoc]
  rfl

/-- The members are up to date, and the main thread will leave them alone. -/
structure UpToDate (answers : StartAnswers) (occurrences : List Occurrence)
    (s : Thread WindowManager) : Prop where
  knows : Knows (withGlobals answers).seat (withGlobals answers).output
    (devices answers occurrences (withGlobals answers).seat (withGlobals answers).output) s.memory
  bound : ∀ i, BoundFor s.memory.log i (lastGlobal i (globals answers occurrences))
    (s.memory.boundTo i)
  older : (withGlobals answers).log <+: s.memory.log
  todo : ∀ statement ∈ s.todo, Statement.Quiet statement

theorem upToDate_start {answers : StartAnswers} (hdpy : (connected answers).dpy ≠ .null)
    (hregistry : answers.registry = true) (created : Bool) :
    UpToDate answers [] (start answers created) where
  knows := by
    have hknows := knows_construct hdpy hregistry
    rw [← List.append_nil (answers.dispatched ++ answers.roundtrip)] at hknows
    exact hknows
  bound i := by
    obtain ⟨hboundTo, holder⟩ := boundTo_construct hdpy hregistry
    rw [globals, List.filterMap_nil, List.append_nil]
    change BoundFor (construct answers).log i _ ((construct answers).boundTo i)
    rw [hboundTo]
    exact BoundFor.of_prefix ((quiet_withGlobals answers).2 i) holder
  older := (boundTo_construct hdpy hregistry).2
  todo := quiet_initializeBody created

/-- A step that leaves the members for the globals alone. -/
theorem UpToDate.step_of_boundTo {answers : StartAnswers} {occurrences : List Occurrence}
    {o : Occurrence} {s t : Thread WindowManager} (h : UpToDate answers occurrences s)
    (ho : announcedLater o = none)
    (hknows : Knows (withGlobals answers).seat (withGlobals answers).output
      (devices answers (occurrences ++ [o]) (withGlobals answers).seat (withGlobals answers).output)
      t.memory) (hboundTo : t.memory.boundTo = s.memory.boundTo)
    (hextends : s.memory.log <+: t.memory.log)
    (htodo : ∀ statement ∈ t.todo, Statement.Quiet statement) :
    UpToDate answers (occurrences ++ [o]) t where
  knows := hknows
  bound i := by
    rw [globals, List.filterMap_append, List.filterMap_cons_none ho, List.filterMap_nil,
      List.append_nil, hboundTo]
    exact BoundFor.of_prefix (h.bound i) hextends
  older := h.older.trans hextends
  todo := htodo

/-- A late global changes the member for its interface, and nobody listens to what it names. -/
theorem UpToDate.step_global {answers : StartAnswers} {occurrences : List Occurrence}
    {s : Thread WindowManager} (h : UpToDate answers occurrences s) (g : Global) :
    UpToDate answers (occurrences ++ [.global g])
      ⟨s.memory.registry_add_object s.memory.registry g, s.todo⟩ := by
  have hquiet := quiet_registry_add_object s.memory s.memory.registry g
  obtain ⟨more, hlog, -⟩ := hquiet.adds
  refine ⟨?_, fun i ↦ ?_, h.older.trans ⟨more, hlog.symm⟩, h.todo⟩
  · rw [devices_snoc]
    exact h.knows.of_quiet hquiet
  · rw [globals_snoc_global]
    exact BoundFor.registry_add_object (h.bound i) s.memory.registry g

theorem upToDate_step {answers : StartAnswers} {occurrences : List Occurrence}
    {s t : Thread WindowManager} {o : Occurrence} (h : UpToDate answers occurrences s)
    (hstep : stepOrBind s o = some t) : UpToDate answers (occurrences ++ [o]) t := by
  obtain ⟨wm, todo⟩ := s
  cases o with
  | activity a =>
    cases a with
    | event e =>
      cases hstep
      obtain ⟨more, hlog, -⟩ := adds_dispatch wm e
      refine h.step_of_boundTo (t := ⟨wm.dispatch e, todo⟩) rfl ?_ (boundTo_dispatch wm e)
        ⟨more, hlog.symm⟩ h.todo
      rw [devices_snoc]
      exact h.knows.dispatch e
    | main =>
      cases todo with
      | nil => cases hstep
      | cons statement todo =>
        cases hstep
        obtain ⟨hquiet, htodo⟩ := List.forall_mem_cons.mp h.todo
        obtain ⟨more, hlog, -⟩ := (hquiet wm).1.adds
        refine h.step_of_boundTo (t := ⟨statement wm, todo⟩) rfl ?_ (hquiet wm).2
          ⟨more, hlog.symm⟩ htodo
        rw [devices_snoc]
        exact h.knows.of_quiet (hquiet wm).1
    | call frame =>
      cases todo with
      | nil =>
        cases hstep
        refine h.step_of_boundTo (t := ⟨wm, pushFrameBody frame⟩) rfl ?_ rfl (List.prefix_refl _)
          (quiet_pushFrameBody frame)
        rw [devices_snoc]
        exact h.knows
      | cons statement todo => cases hstep
  | global g =>
    cases hstep
    exact h.step_global g

/-- In every run after a successful connection, whatever the main thread does meanwhile and whatever
is announced later: the members for the globals name the objects bound for the last ones announced.
Touch has been fetched once, from the seat bound last in the first roundtrip, if that seat has
offered it, and otherwise not; and the screen has the size that the output bound last in the first
roundtrip has told last. -/
theorem members_upToDate {answers : StartAnswers} (hdpy : (connected answers).dpy ≠ .null)
    (hregistry : answers.registry = true) {created : Bool} {occurrences : List Occurrence}
    {s : Thread WindowManager}
    (hrun : run stepOrBind (start answers created) occurrences = some s) :
    (∀ i, BoundFor s.memory.log i (lastGlobal i (globals answers occurrences))
        (s.memory.boundTo i)) ∧
      ∃ seat output, BoundFor s.memory.log .wl_seat (lastGlobal .wl_seat answers.globals) seat ∧
        BoundFor s.memory.log .wl_output (lastGlobal .wl_output answers.globals) output ∧
        touchRequests s.memory.log =
          (if (devices answers occurrences seat output).touchOffered then
            [.wl_seat_get_touch seat, .wl_touch_set_user_data s.memory.touch,
              .add_listener s.memory.touch .touch_listener] else []) ∧
        (s.memory.touch = .null ↔
          (devices answers occurrences seat output).touchOffered = false) ∧
        s.memory.screen_width = (devices answers occurrences seat output).screen.map Prod.fst ∧
        s.memory.screen_height = (devices answers occurrences seat output).screen.map Prod.snd := by
  have hdate : UpToDate answers occurrences s :=
    run_induction (upToDate_start hdpy hregistry created)
      (fun _ _ _ _ _ h hstep ↦ upToDate_step h hstep) hrun
  have hbound := fun i ↦ BoundFor.of_prefix ((quiet_withGlobals answers).2 i) hdate.older
  exact ⟨hdate.bound, _, _, hbound .wl_seat, hbound .wl_output, hdate.knows.fetched,
    hdate.knows.touch_null, hdate.knows.width, hdate.knows.height⟩

/-- A seat that offers touch twice and an output that changes its mode, told while `initialize` is
running and another seat is announced. -/
def toldTwice : List Occurrence :=
  [.activity .main, .activity (.event (.seat_handle_capabilities 6 5)),
    .activity (.event (.output_handle_mode 5 1 1080 1920 60)), .global ⟨6, .wl_seat, 1⟩,
    .activity .main, .activity (.event (.seat_handle_capabilities 6 4)),
    .activity (.event (.output_handle_mode 5 1 1920 1080 60))]

/-- The member names the new seat, and the old one is heard. -/
theorem members_toldTwice : ∃ s seat output,
    run stepOrBind (start .prompt true) toldTwice = some s ∧
    BoundFor s.memory.log .wl_seat (some ⟨6, .wl_seat, 1⟩) s.memory.seat ∧
    BoundFor s.memory.log .wl_seat (some ⟨3, .wl_seat, 1⟩) seat ∧
    BoundFor s.memory.log .wl_output (some ⟨2, .wl_output, 1⟩) output ∧
    s.memory.screen_width = (devices .prompt toldTwice seat output).screen.map Prod.fst := by
  have hrun : run stepOrBind (start .prompt true) toldTwice =
      some ((run stepOrBind (start .prompt true) toldTwice).getD (start .prompt true)) := rfl
  obtain ⟨hbound, seat, output, hseat, houtput, -, -, hwidth, -⟩ :=
    members_upToDate (by decide) rfl hrun
  exact ⟨_, seat, output, hrun, hbound .wl_seat, hseat, houtput, hwidth⟩

end WindowManager

end WLManager
