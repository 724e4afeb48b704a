import WLManager.Client.WaylandSingleWindowManager
import WLManager.Collection.KeyedCache

/-!
# Which buffer a frame is shown with

A `wl_buffer` stands for the words and the dimensions that the exchange creating it carried; the
history of the connection tells which. `pushFrame` keys its buffers by the address of the native
handle and `finalize` is the only place that forgets them, so `buffer_map` is a cache that never
evicts. A frame is shown with a buffer made from its own words exactly in the runs in which no
address stands for two different graphic buffers between two calls of `finalize`.
-/

namespace WLManager

open History Transition

/-- What the compositor learns about a graphic buffer. -/
structure BufferDescription where
  num_fds : ℕ
  fds : List ℤ
  ints : List ℤ
  width : ℤ
  height : ℤ
  stride : ℤ
  format : ℤ
  deriving DecidableEq

def Frame.description (frame : Frame) : BufferDescription where
  num_fds := frame.native.numFds
  fds := frame.native.fds
  ints := frame.native.ints
  width := frame.width
  height := frame.height
  stride := frame.stride
  format := frame.pixel_format

/-- The file descriptors added to a handle, in order. -/
def fdsAdded (handle : Ptr) (log : List (Entry Request)) : List ℤ :=
  log.filterMap fun e ↦
    match e.request with
    | .android_wlegl_handle_add_fd target fd => if target = handle then some fd else none
    | _ => none

/-- The `wl_buffer` was created by an exchange that carried this description. -/
def Describes (log : List (Entry Request)) (id : ℕ) (d : BufferDescription) : Prop :=
  ∃ wlegl wlegl' usage handle,
    log[id]? = some ⟨.android_wlegl_create_buffer wlegl d.width d.height d.stride d.format usage
      (.obj handle), true⟩ ∧
    log[handle]? = some ⟨.android_wlegl_create_handle wlegl' d.num_fds d.ints, true⟩ ∧
    fdsAdded (.obj handle) ((log.take id).drop handle) = d.fds

/-- A call of the window manager from the frame loop or at its end. -/
inductive WindowCall
  | pushFrame (frame : Frame)
  | finalize

/-- The call, as a request to a cache of descriptions keyed by address. -/
def WindowCall.request : WindowCall → KeyedCache.Call ℕ BufferDescription
  | .pushFrame frame => .get frame.buffer frame.description
  | .finalize => .flush

/-- Frames with one handle address come from one graphic buffer between calls of `finalize`. -/
def AddressesKept (calls : List WindowCall) : Prop :=
  ∀ before between after first second,
    calls = before ++ .pushFrame first :: (between ++ .pushFrame second :: after) →
      .finalize ∉ between → first.buffer = second.buffer →
        first.description = second.description

namespace WindowManager

/-- One call, run without interruption. -/
def call (wm : WindowManager) : WindowCall → Option WindowManager
  | .pushFrame frame => some (wm.pushFrame frame)
  | .finalize => some wm.finalize

/-- Every buffer that the call attaches was made from the frame's own words and dimensions. -/
def AttachesOwn (wm : WindowManager) : WindowCall → Prop
  | .pushFrame frame => ∀ surface buffer x y,
      ⟨.wl_surface_attach surface buffer x y, true⟩ ∈ (wm.pushFrame frame).log.drop wm.log.length →
        ∃ id, buffer = .obj id ∧
          Describes (wm.pushFrame frame).log id frame.description
  | .finalize => True

end WindowManager

/-! ## Descriptions in the history -/

theorem Describes.append {log : List (Entry Request)} {id : ℕ} {d : BufferDescription}
    (h : Describes log id d) (more : List (Entry Request)) : Describes (log ++ more) id d := by
  obtain ⟨wlegl, wlegl', usage, handle, hbuffer, hhandle, hfds⟩ := h
  have hid := (List.getElem?_eq_some_iff.mp hbuffer).1
  have hlt := (List.getElem?_eq_some_iff.mp hhandle).1
  refine ⟨wlegl, wlegl', usage, handle, ?_, ?_, ?_⟩
  · rw [List.getElem?_append_left hid, hbuffer]
  · rw [List.getElem?_append_left hlt, hhandle]
  · rw [List.take_append_of_le_length hid.le, hfds]

theorem Describes.unique {log : List (Entry Request)} {id : ℕ} {d d' : BufferDescription}
    (h : Describes log id d) (h' : Describes log id d') : d = d' := by
  obtain ⟨_, _, _, handle, hbuffer, hhandle, hfds⟩ := h
  obtain ⟨_, _, _, handle', hbuffer', hhandle', hfds'⟩ := h'
  rw [hbuffer, Option.some.injEq, Entry.mk.injEq, Request.android_wlegl_create_buffer.injEq,
    Ptr.obj.injEq] at hbuffer'
  obtain ⟨⟨-, hwidth, hheight, hstride, hformat, -, rfl⟩, -⟩ := hbuffer'
  rw [hhandle, Option.some.injEq, Entry.mk.injEq,
    Request.android_wlegl_create_handle.injEq] at hhandle'
  obtain ⟨⟨-, hnum, hints⟩, -⟩ := hhandle'
  cases d
  cases d'
  simp_all

theorem fdsAdded_map_add_fd (handle : Ptr) (fds : List ℤ) :
    fdsAdded handle (fds.map fun fd ↦ ⟨.android_wlegl_handle_add_fd handle fd, true⟩) = fds := by
  induction fds with
  | nil => rfl
  | cons fd fds ih =>
    rw [List.map_cons, fdsAdded, List.filterMap_cons]
    simp only [if_true]
    exact congrArg (fd :: ·) ih

/-- The exchange of `pushFrame` carries the frame's own words and dimensions. -/
theorem describes_exchange (wm : WindowManager) (frame : Frame) :
    Describes (wm.log ++ wm.exchange frame) (wm.log.length + (frame.native.fds.length + 1))
      frame.description := by
  refine ⟨wm.a_android_wlegl, wm.a_android_wlegl, WindowManager.GRALLOC_USAGE_HW_RENDER,
    wm.log.length, ?_, ?_, ?_⟩
  · rw [List.getElem?_append_right (Nat.le_add_right _ _), Nat.add_sub_cancel_left,
      WindowManager.exchange, List.getElem?_cons_succ,
      List.getElem?_append_right (List.length_map _).le, List.length_map, Nat.sub_self]
    rfl
  · rw [List.getElem?_append_right le_rfl, Nat.sub_self]
    rfl
  · have hsegment : ((wm.log ++ wm.exchange frame).take
        (wm.log.length + (frame.native.fds.length + 1))).drop wm.log.length =
        ⟨.android_wlegl_create_handle wm.a_android_wlegl frame.native.numFds frame.native.ints,
          true⟩ :: frame.native.fds.map fun fd ↦
            ⟨.android_wlegl_handle_add_fd wm.newProxy fd, true⟩ := by
      rw [List.take_length_add_append, List.drop_left, WindowManager.exchange, List.take_succ_cons,
        List.take_left' (List.length_map _)]
    rw [hsegment]
    exact fdsAdded_map_add_fd _ _

namespace WindowManager

/-! ## The map as a cache -/

/-- Every address in the map leads to a buffer with the description the cache keeps for it. -/
def Caches (wm : WindowManager) (cache : AList fun _ : ℕ ↦ BufferDescription) : Prop :=
  ∀ address, Option.Rel (fun p d ↦ ∃ id, p = .obj id ∧ Describes wm.log id d)
    (wm.buffer_map.lookup address) (cache.lookup address)

theorem caches_empty {wm : WindowManager} (h : wm.buffer_map = ∅) : wm.Caches ∅ := by
  intro address
  rw [h, AList.lookup_empty, AList.lookup_empty]
  exact .none

/-- The buffers keep their descriptions while the history grows. -/
theorem Caches.append {wm wm' : WindowManager} {cache : AList fun _ : ℕ ↦ BufferDescription}
    (h : wm.Caches cache) {more : List (Entry Request)} (hlog : wm'.log = wm.log ++ more)
    (hmap : wm'.buffer_map = wm.buffer_map) : wm'.Caches cache := by
  intro address
  rw [hmap, hlog]
  have hrel := h address
  generalize wm.buffer_map.lookup address = p at hrel
  generalize cache.lookup address = d at hrel
  cases hrel with
  | none => exact .none
  | some hdescribed =>
    obtain ⟨id, hp, hid⟩ := hdescribed
    exact .some ⟨id, hp, hid.append more⟩

/-- `cacheBuffer` is the cache's `get`. -/
theorem Caches.cacheBuffer {wm : WindowManager} {cache : AList fun _ : ℕ ↦ BufferDescription}
    (h : wm.Caches cache) (frame : Frame) :
    ∃ cache', KeyedCache.step cache (.get frame.buffer frame.description) = some cache' ∧
      (WindowManager.cacheBuffer frame wm).Caches cache' ∧
      ∃ id, (WindowManager.cacheBuffer frame wm).bufferFor frame.buffer = .obj id ∧
        Describes (WindowManager.cacheBuffer frame wm).log id
          (KeyedCache.serve cache frame.buffer frame.description) := by
  have hrel := h frame.buffer
  cases hlookup : wm.buffer_map.lookup frame.buffer with
  | none =>
    rw [hlookup] at hrel
    have hcache : cache.lookup frame.buffer = none := by
      generalize cache.lookup frame.buffer = d at hrel
      cases hrel
      rfl
    have hdescribes : Describes (WindowManager.cacheBuffer frame wm).log
        (wm.log.length + (frame.native.fds.length + 1)) frame.description := by
      rw [cacheBuffer_miss hlookup]
      exact (describes_exchange wm frame).append _
    refine ⟨cache.insert frame.buffer frame.description, by simp [KeyedCache.step, hcache], ?_,
      wm.log.length + (frame.native.fds.length + 1), ?_, ?_⟩
    · intro address
      by_cases haddress : address = frame.buffer
      · subst haddress
        rw [AList.lookup_insert, cacheBuffer_miss hlookup, AList.lookup_insert]
        exact .some ⟨_, rfl, cacheBuffer_miss hlookup ▸ hdescribes⟩
      · have hold : Caches { WindowManager.cacheBuffer frame wm with buffer_map := wm.buffer_map }
            cache := by
          rw [cacheBuffer_miss hlookup]
          exact h.append (List.append_assoc _ _ _) rfl
        rw [AList.lookup_insert_ne haddress]
        have hmap : (WindowManager.cacheBuffer frame wm).buffer_map.lookup address =
            wm.buffer_map.lookup address := by
          rw [cacheBuffer_miss hlookup, AList.lookup_insert_ne haddress]
        rw [hmap]
        exact hold address
    · rw [bufferFor, cacheBuffer_miss hlookup, AList.lookup_insert]
      rfl
    · rw [KeyedCache.serve, hcache]
      exact hdescribes
  | some p =>
    rw [hlookup] at hrel
    obtain ⟨d, hcache, id, hp, hid⟩ : ∃ d, cache.lookup frame.buffer = some d ∧
        ∃ id, p = .obj id ∧ Describes wm.log id d := by
      generalize cache.lookup frame.buffer = d at hrel
      cases hrel with
      | some hdescribed => exact ⟨_, rfl, hdescribed⟩
    rw [cacheBuffer_hit hlookup]
    refine ⟨cache, by simp [KeyedCache.step, hcache], h, id, ?_, ?_⟩
    · rw [bufferFor, hlookup, hp]
      rfl
    · rw [KeyedCache.serve, hcache]
      exact hid

theorem Caches.pushFrame {wm : WindowManager} {cache : AList fun _ : ℕ ↦ BufferDescription}
    (h : wm.Caches cache) (frame : Frame) :
    ∃ cache', KeyedCache.step cache (.get frame.buffer frame.description) = some cache' ∧
      (wm.pushFrame frame).Caches cache' := by
  obtain ⟨cache', hstep, hcaches, -⟩ := h.cacheBuffer frame
  refine ⟨cache', hstep, ?_⟩
  rw [pushFrame_eq]
  exact hcaches.append rfl rfl

/-- `pushFrame` attaches one buffer, the one kept for the frame's address. -/
theorem mem_attach_iff {wm : WindowManager} {frame : Frame} {surface buffer : Ptr} {x y : ℤ} :
    ⟨.wl_surface_attach surface buffer x y, true⟩ ∈ (wm.pushFrame frame).log.drop wm.log.length ↔
      surface = (WindowManager.cacheBuffer frame wm).w_surface ∧
        buffer = (WindowManager.cacheBuffer frame wm).bufferFor frame.buffer ∧ x = 0 ∧ y = 0 := by
  obtain ⟨more, hlog, hmore⟩ := cacheBuffer_log wm frame
  have hnew : (wm.pushFrame frame).log.drop wm.log.length =
      more ++ (WindowManager.cacheBuffer frame wm).presentation frame := by
    rw [pushFrame_eq]
    change List.drop _ ((WindowManager.cacheBuffer frame wm).log ++ _) = _
    rw [hlog, List.append_assoc, List.drop_left]
  have hnone : ⟨.wl_surface_attach surface buffer x y, true⟩ ∉ more := fun hmem ↦ hmore _ hmem
  rw [hnew, List.mem_append, or_iff_right hnone]
  simp [presentation]

/-- A frame is shown with a buffer made from its own words exactly when the cache's answer is
fresh. -/
theorem attachesOwn_iff_fresh {wm : WindowManager}
    {cache : AList fun _ : ℕ ↦ BufferDescription} (h : wm.Caches cache) (c : WindowCall) :
    wm.AttachesOwn c ↔ KeyedCache.Fresh cache c.request := by
  cases c with
  | finalize => exact iff_of_true trivial trivial
  | pushFrame frame =>
    obtain ⟨cache', -, -, id, hbuffer, hid⟩ := h.cacheBuffer frame
    have hdescribes : Describes (wm.pushFrame frame).log id
        (KeyedCache.serve cache frame.buffer frame.description) := by
      rw [pushFrame_eq]
      exact hid.append _
    have hown : wm.AttachesOwn (.pushFrame frame) ↔
        Describes (wm.pushFrame frame).log id frame.description := by
      simp only [AttachesOwn, mem_attach_iff, hbuffer]
      constructor
      · intro hall
        obtain ⟨id', hid', hdescribes'⟩ := hall _ _ 0 0 ⟨rfl, rfl, rfl, rfl⟩
        cases hid'
        exact hdescribes'
      · rintro hdescribes' _ _ _ _ ⟨-, rfl, -, -⟩
        exact ⟨id, rfl, hdescribes'⟩
    rw [hown]
    constructor
    · exact fun hdescribes' ↦ hdescribes.unique hdescribes'
    · intro hfresh
      have hserve : KeyedCache.serve cache frame.buffer frame.description = frame.description :=
        hfresh
      rwa [hserve] at hdescribes

theorem Caches.finalize {wm : WindowManager} : wm.finalize.Caches ∅ := caches_empty rfl

theorem caches_call {wm : WindowManager} {cache : AList fun _ : ℕ ↦ BufferDescription}
    (h : wm.Caches cache) (c : WindowCall) :
    Option.Rel Caches (wm.call c) (KeyedCache.step cache c.request) := by
  cases c with
  | finalize => exact .some Caches.finalize
  | pushFrame frame =>
    obtain ⟨cache', hstep, hcaches⟩ := h.pushFrame frame
    rw [WindowCall.request, hstep]
    exact .some hcaches

end WindowManager

theorem request_eq_get {c : WindowCall} {key : ℕ} {d : BufferDescription}
    (h : c.request = .get key d) :
    ∃ frame, c = .pushFrame frame ∧ frame.buffer = key ∧ frame.description = d := by
  cases c with
  | finalize => cases h
  | pushFrame frame =>
    cases h
    exact ⟨frame, rfl, rfl, rfl⟩

theorem addressesKept_iff_consistent {calls : List WindowCall} :
    AddressesKept calls ↔ KeyedCache.Consistent (calls.map WindowCall.request) := by
  constructor
  · intro h before between after key first second heq hflush
    obtain ⟨before', rest, rfl, rfl, hrest⟩ := List.map_eq_append_iff.mp heq
    obtain ⟨c, rest', rfl, hc, hrest'⟩ := List.map_eq_cons_iff.mp hrest
    obtain ⟨between', rest'', rfl, rfl, hrest''⟩ := List.map_eq_append_iff.mp hrest'
    obtain ⟨c', after', rfl, hc', -⟩ := List.map_eq_cons_iff.mp hrest''
    obtain ⟨frame, rfl, hkey, rfl⟩ := request_eq_get hc
    obtain ⟨frame', rfl, hkey', rfl⟩ := request_eq_get hc'
    apply h before' between' after' frame frame' rfl _ (hkey.trans hkey'.symm)
    exact fun hfinalize ↦ hflush (List.mem_map_of_mem hfinalize)
  · rintro h before between after first second rfl hfinalize haddress
    apply h (before.map WindowCall.request) (between.map WindowCall.request)
      (after.map WindowCall.request) first.buffer
    · simp only [List.map_append, List.map_cons, WindowCall.request, haddress]
    · intro hflush
      obtain ⟨c, hc, hrequest⟩ := List.mem_map.mp hflush
      cases c with
      | finalize => exact hfinalize hc
      | pushFrame frame => cases hrequest

/-- Over every sequence of calls that starts with an empty map: each frame is shown with a buffer
made from its own words and dimensions exactly when no handle address stands for two different
graphic buffers between two calls of `finalize`. -/
theorem attachesOwn_iff_addressesKept {wm : WindowManager} (hmap : wm.buffer_map = ∅)
    (calls : List WindowCall) :
    StepsAll WindowManager.call WindowManager.AttachesOwn wm calls ↔ AddressesKept calls := by
  have hgood : ∀ (wm : WindowManager) (cache : AList fun _ : ℕ ↦ BufferDescription)
      (c : WindowCall), wm.Caches cache →
        (wm.AttachesOwn c ↔ KeyedCache.Fresh cache c.request) :=
    fun _ _ c h ↦ WindowManager.attachesOwn_iff_fresh h c
  have hstep : ∀ (wm : WindowManager) (cache : AList fun _ : ℕ ↦ BufferDescription)
      (c : WindowCall), wm.Caches cache →
        Option.Rel WindowManager.Caches (wm.call c) (KeyedCache.step cache c.request) :=
    fun _ _ c h ↦ WindowManager.caches_call h c
  rw [addressesKept_iff_consistent, ← KeyedCache.stepsAll_fresh_iff_consistent]
  exact stepsAll_simulation hgood hstep (WindowManager.caches_empty hmap)

theorem attachesOwn_shown_twice :
    StepsAll WindowManager.call WindowManager.AttachesOwn .window
      (List.replicate 2 (.pushFrame (GraphicBuffer.onePixel 0).frame)) := by
  refine (attachesOwn_iff_addressesKept rfl _).mpr ?_
  intro before between after first second heq _ _
  have hfirst : WindowCall.pushFrame first ∈
      List.replicate 2 (WindowCall.pushFrame (GraphicBuffer.onePixel 0).frame) := by
    rw [heq]
    exact List.mem_append_right _ List.mem_cons_self
  have hsecond : WindowCall.pushFrame second ∈
      List.replicate 2 (WindowCall.pushFrame (GraphicBuffer.onePixel 0).frame) := by
    rw [heq]
    exact List.mem_append_right _ (List.mem_cons_of_mem _ (List.mem_append_right _
      List.mem_cons_self))
  cases List.eq_of_mem_replicate hfirst
  cases List.eq_of_mem_replicate hsecond
  rfl

/-- A frame of one pixel, and one of two pixels in a later buffer at the same address. -/
def addressReused : List WindowCall :=
  let frame := (GraphicBuffer.onePixel 0).frame
  [.pushFrame frame, .pushFrame { frame with width := 2, stride := 2 }]

/-- The second frame is shown with the buffer made for the first. -/
theorem not_attachesOwn_addressReused :
    ¬ StepsAll WindowManager.call WindowManager.AttachesOwn .window addressReused := by
  intro h
  have hempty : WindowManager.window.Caches ∅ := WindowManager.caches_empty rfl
  obtain ⟨cache, hcache, hcaches⟩ := hempty.pushFrame (GraphicBuffer.onePixel 0).frame
  have hsecond := (h.2 (WindowManager.window.pushFrame (GraphicBuffer.onePixel 0).frame)
    rfl).1
  have hfresh := (WindowManager.attachesOwn_iff_fresh hcaches _).mp hsecond
  cases hcache
  have hsame := KeyedCache.fresh_get_iff.mp hfresh _ (AList.lookup_insert _)
  exact absurd hsame (by decide)

end WLManager
