import Mathlib.Data.Finset.Card
import WLManager.Client.HandleMarshalling
import WLManager.Client.WindowThread

/-!
# The lifetime of the `wl_buffer`s

`pushFrame` creates a `wl_buffer` for each handle it has not seen since the last clean-up, and the
loop at the start of `finalize` destroys them all. A session runs the two in any order and keeps
beside the window manager where the last clean-up ended in the history and which part of the
history each `pushFrame` since then has written. `buffer_map` is then exact: it leads from the
handles pushed since the last clean-up to the `wl_buffer`s that exist.
-/

namespace WLManager

open History Transition

/-- The request is not about the existence of a `wl_buffer`. -/
def Request.LeavesBuffers (r : Request) : Prop :=
  Signature.constructs r ≠ some Interface.wl_buffer ∧
    ∀ p, Signature.destroys r ≠ some (Interface.wl_buffer, p)

namespace WindowManager

/-- The loop over `buffer_map` in `finalize`. -/
def destroyBuffers (wm : WindowManager) : WindowManager :=
  { wm.bufferEntries.foldl (fun wm entry ↦ wm.send (.wl_buffer_destroy entry.2)) wm with
    buffer_map := ∅ }

/-- The clean-up is the first part of `finalize`. -/
theorem finalize_eq (wm : WindowManager) :
    wm.finalize = (wm.destroyBuffers.send (.wl_shell_surface_destroy wm.w_shell_surface)).send
      (.wl_surface_destroy wm.w_surface) := by
  simp only [finalize, destroyBuffers, foldl_send]
  rfl

theorem destroyBuffers_log (wm : WindowManager) :
    wm.destroyBuffers.log = wm.log ++
      wm.bufferEntries.map fun entry ↦ ⟨.wl_buffer_destroy entry.2, true⟩ := by
  rw [destroyBuffers, foldl_send]

/-- The part of the history that one call of `pushFrame` has written, from `first` up to `last`. -/
structure Push where
  handle : ℕ
  first : ℕ
  last : ℕ

/-- The window manager, the length of the history after the last clean-up and the calls of
`pushFrame` since, newest first. -/
structure BufferSession where
  wm : WindowManager
  cleaned : ℕ
  pushes : List Push

/-- The entry creates a `wl_buffer`. -/
def createsBuffer (e : Entry Request) : Bool :=
  e.created && decide (Signature.constructs e.request = some Interface.wl_buffer)

/-- A call of `pushFrame`, or the clean-up. -/
inductive BufferCall
  | pushFrame (frame : Frame)
  | destroyBuffers

namespace BufferSession

/-- A window manager that has been constructed and initialised. -/
def start (answers : StartAnswers) (created : Bool) : BufferSession where
  wm := ((construct answers).runInitialize created).1
  cleaned := ((construct answers).runInitialize created).1.log.length
  pushes := []

def pushFrame (s : BufferSession) (frame : Frame) : BufferSession where
  wm := s.wm.pushFrame frame
  cleaned := s.cleaned
  pushes := ⟨frame.buffer, s.wm.log.length, (s.wm.pushFrame frame).log.length⟩ :: s.pushes

def destroyBuffers (s : BufferSession) : BufferSession where
  wm := s.wm.destroyBuffers
  cleaned := s.wm.destroyBuffers.log.length
  pushes := []

def step (s : BufferSession) : BufferCall → Option BufferSession
  | .pushFrame frame => some (s.pushFrame frame)
  | .destroyBuffers => some s.destroyBuffers

/-- The `wl_buffer` was created by a `pushFrame` of this handle since the last clean-up. -/
def MadeFor (s : BufferSession) (handle : ℕ) (p : Ptr) : Prop :=
  ∃ id, p = .obj id ∧ Created s.wm.log .wl_buffer id ∧
    ∃ push ∈ s.pushes, push.handle = handle ∧ push.first ≤ id ∧ id < push.last

/-- The number of `wl_buffer`s created since the last clean-up. -/
def createdCount (s : BufferSession) : ℕ := (s.wm.log.drop s.cleaned).countP createsBuffer

/-- The distinct handles pushed since the last clean-up. -/
def handles (s : BufferSession) : Finset ℕ := (s.pushes.map Push.handle).toFinset

/-- `buffer_map` is injective, its values are the `wl_buffer`s that have been created and not
destroyed, and as many have been created since the last clean-up as handles were pushed. -/
structure BuffersExact (s : BufferSession) : Prop where
  injective : ∀ handle handle' p, s.wm.buffer_map.lookup handle = some p →
    s.wm.buffer_map.lookup handle' = some p → handle = handle'
  values : ∀ p, (∃ handle, s.wm.buffer_map.lookup handle = some p) ↔
    Extant s.wm.log .wl_buffer p
  count : s.createdCount = s.handles.card

/-- A `pushFrame` attaches a `wl_buffer` that exists at that moment and was created for the handle
being pushed. The clean-up destroys each `wl_buffer` that exists once, issues nothing else and
leaves the map empty. -/
def UsesBuffers (s : BufferSession) : BufferCall → Prop
  | .pushFrame frame => ∀ i surface buffer x y, s.wm.log.length ≤ i →
      (s.wm.pushFrame frame).log[i]? = some ⟨.wl_surface_attach surface buffer x y, true⟩ →
        Extant ((s.wm.pushFrame frame).log.take i) .wl_buffer buffer ∧
          (s.pushFrame frame).MadeFor frame.buffer buffer
  | .destroyBuffers =>
    (s.wm.issued s.wm.destroyBuffers).Nodup ∧
      (∀ e, e ∈ s.wm.issued s.wm.destroyBuffers ↔
        ∃ p, Extant s.wm.log .wl_buffer p ∧ e = ⟨.wl_buffer_destroy p, true⟩) ∧
      s.wm.destroyBuffers.buffer_map = ∅

/-- The invariant of a session. -/
structure Kept (s : BufferSession) : Prop extends BuffersExact s where
  old : DestroysOld s.wm.log .wl_buffer
  made : ∀ handle p, s.wm.buffer_map.lookup handle = some p → s.MadeFor handle p
  keys : ∀ handle, handle ∈ s.wm.buffer_map ↔ handle ∈ s.handles
  cleaned_le : s.cleaned ≤ s.wm.log.length

end BufferSession

/-! ## What the calls do to the `wl_buffer`s -/

theorem leavesBuffers_presentation (wm : WindowManager) (frame : Frame) :
    ∀ e ∈ wm.presentation frame, e.request.LeavesBuffers := by
  intro e he
  simp only [presentation, List.mem_cons, List.not_mem_nil, or_false] at he
  rcases he with rfl | rfl | rfl | rfl | rfl | rfl
  all_goals
    refine ⟨fun hconstructs ↦ ?_, fun p hdestroys ↦ ?_⟩
    · cases hconstructs
    · cases hdestroys

/-- The requests of a miss, up to the creation of the `wl_buffer`. -/
def beforeBuffer (wm : WindowManager) (frame : Frame) : List (Entry Request) :=
  ⟨.android_wlegl_create_handle wm.a_android_wlegl frame.native.numFds frame.native.ints, true⟩ ::
    frame.native.fds.map fun fd ↦ ⟨.android_wlegl_handle_add_fd wm.newProxy fd, true⟩

/-- The creation of the `wl_buffer`. -/
def bufferRequest (wm : WindowManager) (frame : Frame) : Entry Request :=
  ⟨.android_wlegl_create_buffer wm.a_android_wlegl frame.width frame.height frame.stride
    frame.pixel_format GRALLOC_USAGE_HW_RENDER wm.newProxy, true⟩

/-- The requests of a miss after it. -/
def afterBuffer (wm : WindowManager) (frame : Frame) : List (Entry Request) :=
  ⟨.android_wlegl_handle_destroy wm.newProxy, true⟩ ::
    ⟨.add_listener (.obj (wm.newBuffer frame)) .w_buffer_listener, true⟩ ::
      (cacheBuffer frame wm).presentation frame

theorem pushFrame_log_split {wm : WindowManager} {frame : Frame}
    (h : wm.buffer_map.lookup frame.buffer = none) :
    (wm.pushFrame frame).log =
      wm.log ++ (wm.beforeBuffer frame ++ wm.bufferRequest frame :: wm.afterBuffer frame) := by
  rw [pushFrame_log_miss h, exchange, beforeBuffer, bufferRequest, afterBuffer]
  simp only [List.cons_append, List.append_assoc, List.nil_append]

theorem leavesBuffers_beforeBuffer (wm : WindowManager) (frame : Frame) :
    ∀ e ∈ wm.beforeBuffer frame, e.request.LeavesBuffers := by
  refine List.forall_mem_cons.mpr ⟨⟨nofun, nofun⟩, fun e he ↦ ?_⟩
  obtain ⟨fd, -, rfl⟩ := List.mem_map.mp he
  exact ⟨nofun, nofun⟩

theorem leavesBuffers_afterBuffer (wm : WindowManager) (frame : Frame) :
    ∀ e ∈ wm.afterBuffer frame, e.request.LeavesBuffers :=
  List.forall_mem_cons.mpr ⟨⟨nofun, nofun⟩,
    List.forall_mem_cons.mpr ⟨⟨nofun, nofun⟩, leavesBuffers_presentation _ frame⟩⟩

theorem length_beforeBuffer (wm : WindowManager) (frame : Frame) :
    wm.log.length + (wm.beforeBuffer frame).length = wm.newBuffer frame := by
  rw [beforeBuffer, List.length_cons, List.length_map, newBuffer]

theorem bufferFor_cacheBuffer_hit {wm : WindowManager} {frame : Frame} {p : Ptr}
    (h : wm.buffer_map.lookup frame.buffer = some p) :
    (cacheBuffer frame wm).bufferFor frame.buffer = p := by
  rw [cacheBuffer_hit h, bufferFor, h]
  rfl

theorem bufferFor_cacheBuffer_miss {wm : WindowManager} {frame : Frame}
    (h : wm.buffer_map.lookup frame.buffer = none) :
    (cacheBuffer frame wm).bufferFor frame.buffer = .obj (wm.newBuffer frame) := by
  rw [cacheBuffer_miss h, bufferFor, AList.lookup_insert]
  rfl

theorem extant_pushFrame_hit {wm : WindowManager} {frame : Frame} {p q : Ptr}
    (h : wm.buffer_map.lookup frame.buffer = some p) :
    Extant (wm.pushFrame frame).log Interface.wl_buffer q ↔ Extant wm.log .wl_buffer q := by
  rw [pushFrame_log_hit h,
    extant_append_iff fun e he ↦ (leavesBuffers_presentation wm frame e he).1]
  exact and_iff_left fun e he ↦ (leavesBuffers_presentation wm frame e he).2 q

/-- A miss destroys no `wl_buffer`. -/
theorem destroys_miss {wm : WindowManager} {frame : Frame} :
    ∀ e ∈ wm.beforeBuffer frame ++ wm.bufferRequest frame :: wm.afterBuffer frame, ∀ p,
      Signature.destroys e.request ≠ some (Interface.wl_buffer, p) := by
  refine List.forall_mem_append.mpr ⟨fun e he ↦ (leavesBuffers_beforeBuffer wm frame e he).2,
    List.forall_mem_cons.mpr ⟨nofun, fun e he ↦ (leavesBuffers_afterBuffer wm frame e he).2⟩⟩

theorem extant_pushFrame_miss {wm : WindowManager} {frame : Frame} {q : Ptr}
    (hold : DestroysOld wm.log Interface.wl_buffer)
    (h : wm.buffer_map.lookup frame.buffer = none) :
    Extant (wm.pushFrame frame).log Interface.wl_buffer q ↔
      Extant wm.log .wl_buffer q ∨ q = .obj (wm.newBuffer frame) := by
  rw [pushFrame_log_split h, ← length_beforeBuffer]
  exact extant_append_one hold (fun e he ↦ (leavesBuffers_beforeBuffer wm frame e he).1)
    (fun e he ↦ (leavesBuffers_afterBuffer wm frame e he).1) rfl rfl destroys_miss

/-- On a miss the attach comes after the creation. -/
theorem newBuffer_lt_of_attach {wm : WindowManager} {frame : Frame} {i : ℕ} {surface buffer : Ptr}
    {x y : ℤ} (h : wm.buffer_map.lookup frame.buffer = none) (hi : wm.log.length ≤ i)
    (hattach : (wm.pushFrame frame).log[i]? =
      some ⟨.wl_surface_attach surface buffer x y, true⟩) : wm.newBuffer frame < i := by
  rw [pushFrame_log_split h, List.getElem?_append_right hi, List.append_cons] at hattach
  rw [← length_beforeBuffer]
  by_contra hle
  have hlt : i - wm.log.length <
      (wm.beforeBuffer frame ++ [wm.bufferRequest frame]).length := by
    rw [List.length_append, List.length_singleton]
    omega
  rw [List.getElem?_append_left hlt] at hattach
  have hmem := List.mem_of_getElem? hattach
  simp [beforeBuffer, bufferRequest] at hmem

namespace BufferSession

theorem handles_pushFrame (s : BufferSession) (frame : Frame) :
    (s.pushFrame frame).handles = insert frame.buffer s.handles := by
  simp [handles, pushFrame]

/-- What a call issues is counted on top of what was counted before. -/
theorem createdCount_of_append {s s' : BufferSession} {more : List (Entry Request)}
    (hlog : s'.wm.log = s.wm.log ++ more) (hcleaned : s'.cleaned = s.cleaned)
    (hle : s.cleaned ≤ s.wm.log.length) :
    s'.createdCount = s.createdCount + more.countP createsBuffer := by
  rw [createdCount, createdCount, hlog, hcleaned, List.drop_append_of_le_length hle,
    List.countP_append]

theorem countP_createsBuffer_eq_zero {entries : List (Entry Request)}
    (h : ∀ e ∈ entries, e.request.LeavesBuffers) : entries.countP createsBuffer = 0 := by
  rw [List.countP_eq_zero]
  intro e he
  simp [createsBuffer, (h e he).1]

theorem countP_createsBuffer_miss (wm : WindowManager) (frame : Frame) :
    (wm.beforeBuffer frame ++ wm.bufferRequest frame :: wm.afterBuffer frame).countP
      createsBuffer = 1 := by
  have hone : createsBuffer (wm.bufferRequest frame) = true := rfl
  rw [List.countP_append, List.countP_cons_of_pos hone,
    countP_createsBuffer_eq_zero (leavesBuffers_beforeBuffer wm frame),
    countP_createsBuffer_eq_zero (leavesBuffers_afterBuffer wm frame)]

/-- What was made for a handle stays so until the next clean-up. -/
theorem MadeFor.pushFrame {s : BufferSession} {handle : ℕ} {p : Ptr} (h : s.MadeFor handle p)
    {frame : Frame} {more : List (Entry Request)}
    (hlog : (s.pushFrame frame).wm.log = s.wm.log ++ more) :
    (s.pushFrame frame).MadeFor handle p := by
  obtain ⟨id, hp, hid, push, hpush, hfor⟩ := h
  refine ⟨id, hp, ?_, push, List.mem_cons_of_mem _ hpush, hfor⟩
  rw [hlog]
  exact hid.append more

/-- A `pushFrame` of a handle that is in the map. -/
theorem Kept.hit {s : BufferSession} (h : s.Kept) {frame : Frame} {p : Ptr}
    (hlookup : s.wm.buffer_map.lookup frame.buffer = some p) : (s.pushFrame frame).Kept := by
  have hmap : (s.pushFrame frame).wm.buffer_map = s.wm.buffer_map := by
    change (s.wm.pushFrame frame).buffer_map = _
    rw [pushFrame_buffer_map, cacheBuffer_hit hlookup]
  have hlog : (s.pushFrame frame).wm.log = s.wm.log ++ s.wm.presentation frame :=
    pushFrame_log_hit hlookup
  have hhandles : (s.pushFrame frame).handles = s.handles := by
    rw [handles_pushFrame, Finset.insert_eq_of_mem]
    rw [← h.keys, ← AList.lookup_isSome, hlookup]
    rfl
  exact {
    injective := by
      rw [hmap]
      exact h.injective
    values := by
      intro q
      rw [hmap, h.values]
      exact (extant_pushFrame_hit hlookup).symm
    count := by
      rw [createdCount_of_append hlog rfl h.cleaned_le, hhandles, h.count,
        countP_createsBuffer_eq_zero (leavesBuffers_presentation s.wm frame), Nat.add_zero]
    old := by
      rw [hlog]
      exact h.old.append_of_forall fun e he ↦ (leavesBuffers_presentation s.wm frame e he).2
    made := by
      intro handle q hq
      rw [hmap] at hq
      exact (h.made handle q hq).pushFrame hlog
    keys := by
      intro handle
      rw [hmap, hhandles, h.keys]
    cleaned_le := by
      rw [hlog, List.length_append]
      exact Nat.le_add_right_of_le h.cleaned_le }

/-- A `pushFrame` of a handle that is not. -/
theorem Kept.miss {s : BufferSession} (h : s.Kept) {frame : Frame}
    (hlookup : s.wm.buffer_map.lookup frame.buffer = none) : (s.pushFrame frame).Kept := by
  have hmap : (s.pushFrame frame).wm.buffer_map =
      s.wm.buffer_map.insert frame.buffer (.obj (s.wm.newBuffer frame)) := by
    change (s.wm.pushFrame frame).buffer_map = _
    rw [pushFrame_buffer_map, cacheBuffer_miss hlookup]
    rfl
  have hlog : (s.pushFrame frame).wm.log = s.wm.log ++
      (s.wm.beforeBuffer frame ++ s.wm.bufferRequest frame :: s.wm.afterBuffer frame) :=
    pushFrame_log_split hlookup
  have hnotMem : frame.buffer ∉ s.wm.buffer_map := AList.lookup_eq_none.mp hlookup
  have hnew : ∀ handle, s.wm.buffer_map.lookup handle ≠ some (.obj (s.wm.newBuffer frame)) := by
    intro handle hq
    have hlt := ((h.values _).mp ⟨handle, hq⟩).obj.lt_length
    exact absurd hlt (Nat.not_lt.mpr (Nat.le_add_right _ _))
  exact {
    injective := by
      rw [hmap]
      exact KeyedCache.injective_insert h.injective hlookup hnew
    values := by
      intro q
      change _ ↔ Extant (s.wm.pushFrame frame).log _ q
      rw [extant_pushFrame_miss h.old hlookup, ← h.values, hmap]
      simp only [KeyedCache.lookup_insert_iff hlookup, exists_or, exists_eq_left]
      exact or_comm
    count := by
      rw [createdCount_of_append hlog rfl h.cleaned_le, handles_pushFrame,
        Finset.card_insert_of_notMem ((h.keys _).not.mp hnotMem), h.count,
        countP_createsBuffer_miss]
    old := by
      rw [hlog]
      exact h.old.append_of_forall destroys_miss
    made := by
      intro handle q hq
      rw [hmap, KeyedCache.lookup_insert_iff hlookup] at hq
      rcases hq with ⟨rfl, rfl⟩ | hold
      · have hcreated := ((extant_pushFrame_miss h.old hlookup).mpr (.inr rfl)).obj
        refine ⟨_, rfl, hcreated, _, List.mem_cons_self, rfl, Nat.le_add_right _ _, ?_⟩
        exact hcreated.lt_length
      · exact (h.made handle q hold).pushFrame hlog
    keys := by
      intro handle
      rw [hmap, handles_pushFrame, AList.mem_insert, Finset.mem_insert, h.keys]
    cleaned_le := by
      rw [hlog, List.length_append]
      exact Nat.le_add_right_of_le h.cleaned_le }

theorem Kept.pushFrame {s : BufferSession} (h : s.Kept) (frame : Frame) :
    (s.pushFrame frame).Kept := by
  cases hlookup : s.wm.buffer_map.lookup frame.buffer with
  | none => exact h.miss hlookup
  | some p => exact h.hit hlookup

/-- The clean-up goes over the `wl_buffer`s that exist. -/
theorem Kept.mem_destroyed_iff {s : BufferSession} (h : s.Kept) (e : Entry Request) :
    (e ∈ s.wm.bufferEntries.map fun entry ↦ ⟨.wl_buffer_destroy entry.2, true⟩) ↔
      ∃ p, Extant s.wm.log Interface.wl_buffer p ∧ e = ⟨.wl_buffer_destroy p, true⟩ := by
  rw [List.mem_map]
  constructor
  · rintro ⟨⟨handle, p⟩, hmem, rfl⟩
    have hentry := s.wm.bufferEntries_perm.mem_iff.mp hmem
    exact ⟨p, (h.values p).mp ⟨handle, AList.mem_lookup_iff.mpr hentry⟩, rfl⟩
  · rintro ⟨p, hp, rfl⟩
    obtain ⟨handle, hlookup⟩ := (h.values p).mpr hp
    exact ⟨⟨handle, p⟩, s.wm.bufferEntries_perm.mem_iff.mpr (AList.mem_lookup_iff.mp hlookup), rfl⟩

/-- It names each of them once. -/
theorem Kept.nodup_destroyed {s : BufferSession} (h : s.Kept) :
    (s.wm.bufferEntries.map fun entry ↦
      (⟨.wl_buffer_destroy entry.2, true⟩ : Entry Request)).Nodup := by
  have hentries : s.wm.bufferEntries.Nodup :=
    s.wm.bufferEntries_perm.nodup_iff.mpr s.wm.buffer_map.nodupKeys.nodup
  refine List.Nodup.map_on ?_ hentries
  rintro ⟨handle, p⟩ hp ⟨handle', q⟩ hq heq
  obtain rfl : p = q := by
    injection heq with hrequest
    injection hrequest
  obtain rfl := h.injective handle handle' p
    (AList.mem_lookup_iff.mpr (s.wm.bufferEntries_perm.mem_iff.mp hp))
    (AList.mem_lookup_iff.mpr (s.wm.bufferEntries_perm.mem_iff.mp hq))
  rfl

theorem Kept.destroyBuffers {s : BufferSession} (h : s.Kept) : s.destroyBuffers.Kept := by
  have hlog : s.destroyBuffers.wm.log = s.wm.log ++
      s.wm.bufferEntries.map fun entry ↦ ⟨.wl_buffer_destroy entry.2, true⟩ :=
    destroyBuffers_log s.wm
  have hnone : ∀ p, ¬ Extant s.destroyBuffers.wm.log Interface.wl_buffer p := by
    intro p hp
    have hcreates : ∀ e ∈ s.wm.bufferEntries.map (fun entry ↦
        (⟨.wl_buffer_destroy entry.2, true⟩ : Entry Request)),
        Signature.constructs e.request ≠ some Interface.wl_buffer := by
      intro e he
      obtain ⟨entry, -, rfl⟩ := List.mem_map.mp he
      exact nofun
    rw [hlog, extant_append_iff hcreates] at hp
    exact hp.2 _ ((h.mem_destroyed_iff _).mpr ⟨p, hp.1, rfl⟩) rfl
  exact {
    injective := by
      intro handle _ p hp
      cases hp
    values := by
      intro p
      refine iff_of_false ?_ (hnone p)
      rintro ⟨handle, hp⟩
      cases hp
    count := by
      change List.countP _ (List.drop s.wm.destroyBuffers.log.length s.wm.destroyBuffers.log) = 0
      rw [List.drop_length]
      rfl
    old := by
      rw [hlog]
      refine h.old.append fun e he id hdestroys ↦ ?_
      obtain ⟨p, hp, rfl⟩ := (h.mem_destroyed_iff e).mp he
      cases hdestroys
      exact hp.obj.lt_length
    made := by
      intro handle p hp
      cases hp
    keys := fun handle ↦ iff_of_false (AList.notMem_empty handle) (Finset.notMem_empty handle)
    cleaned_le := le_rfl }

/-- A call in a state the invariant holds in. -/
theorem Kept.usesBuffers {s : BufferSession} (h : s.Kept) (a : BufferCall) : s.UsesBuffers a := by
  cases a with
  | pushFrame frame =>
    intro i surface buffer x y hi hattach
    have hmem : ⟨.wl_surface_attach surface buffer x y, true⟩ ∈
        (s.wm.pushFrame frame).log.drop s.wm.log.length := by
      refine List.mem_of_getElem? (i := i - s.wm.log.length) ?_
      rw [List.getElem?_drop, Nat.add_sub_cancel' hi, hattach]
    obtain ⟨-, hbuffer, -⟩ := mem_attach_iff.mp hmem
    obtain ⟨id, hid, hlt, hkept⟩ : ∃ id, buffer = .obj id ∧ id < i ∧
        (s.pushFrame frame).wm.buffer_map.lookup frame.buffer = some buffer := by
      change ∃ id, _ ∧ _ ∧ (s.wm.pushFrame frame).buffer_map.lookup frame.buffer = _
      rw [pushFrame_buffer_map]
      cases hlookup : s.wm.buffer_map.lookup frame.buffer with
      | some p =>
        -- the buffer has been in the map since an earlier call
        rw [bufferFor_cacheBuffer_hit hlookup] at hbuffer
        obtain ⟨id, rfl, hcreated, -⟩ := h.made frame.buffer p hlookup
        refine ⟨id, hbuffer, hcreated.lt_length.trans_le hi, ?_⟩
        rw [cacheBuffer_hit hlookup, hlookup, hbuffer]
      | none =>
        rw [bufferFor_cacheBuffer_miss hlookup] at hbuffer
        refine ⟨_, hbuffer, newBuffer_lt_of_attach hlookup hi hattach, ?_⟩
        rw [cacheBuffer_miss hlookup, AList.lookup_insert, hbuffer]
        rfl
    have hafter := h.pushFrame frame
    refine ⟨?_, hafter.made frame.buffer buffer hkept⟩
    have hextant := (hafter.values buffer).mp ⟨frame.buffer, hkept⟩
    rw [hid] at hextant ⊢
    exact hextant.take hlt
  | destroyBuffers =>
    rw [UsesBuffers, issued_of_append (destroyBuffers_log s.wm)]
    exact ⟨h.nodup_destroyed, h.mem_destroyed_iff, rfl⟩

theorem Kept.step {s t : BufferSession} {a : BufferCall} (h : s.Kept) (hstep : s.step a = some t) :
    t.Kept := by
  cases a with
  | pushFrame frame =>
    cases hstep
    exact h.pushFrame frame
  | destroyBuffers =>
    cases hstep
    exact h.destroyBuffers

/-! ## The start -/

/-- Neither the constructor nor `initialize` writes the map. -/
theorem buffer_map_construct (answers : StartAnswers) : (construct answers).buffer_map = ∅ :=
  congrArg (fun members ↦ members.2.2.2) (ownMembers_construct answers)

theorem buffer_map_runInitialize (wm : WindowManager) (created : Bool) :
    (wm.runInitialize created).1.buffer_map = wm.buffer_map := by
  cases created <;> rfl

/-- Nothing that runs before the frame loop is about `wl_buffer`s. -/
theorem leavesBuffers_of_start (r : Request)
    (h : (r.OfConstructor ∨ r.OfHandler ∨ r.OfExit) ∨ r.OfInitialize) : r.LeavesBuffers := by
  cases r with
  | wl_registry_bind registry name interface version =>
    refine ⟨fun hbuffer ↦ ?_, nofun⟩
    cases hbuffer
    simp [Request.OfConstructor, Request.OfHandler, Request.OfExit, Request.OfInitialize] at h
  | android_wlegl_create_buffer | wl_buffer_destroy =>
    simp [Request.OfConstructor, Request.OfHandler, Request.OfExit, Request.OfInitialize] at h
  | _ => exact ⟨nofun, nofun⟩

theorem kept_start (answers : StartAnswers) (created : Bool) : (start answers created).Kept := by
  have hmap : (start answers created).wm.buffer_map = ∅ :=
    (buffer_map_runInitialize _ created).trans (buffer_map_construct answers)
  have hleaves : ∀ e ∈ (start answers created).wm.log, e.request.LeavesBuffers := by
    have hconstruct : Adds Request.LeavesBuffers uninitialised (construct answers) :=
      (adds_construct answers).mono fun r h ↦ leavesBuffers_of_start r (.inl h)
    have hinitialize : Adds Request.LeavesBuffers (construct answers)
        ((construct answers).runInitialize created).1 :=
      (adds_runInitialize _ created).mono fun r h ↦ leavesBuffers_of_start r (.inr h)
    obtain ⟨more, hlog, hmore⟩ := hconstruct.trans hinitialize
    intro e he
    rw [start, hlog] at he
    exact hmore e he
  have hnone : ∀ p, ¬ Extant (start answers created).wm.log Interface.wl_buffer p := by
    rintro p ⟨⟨id, -, hid⟩, -⟩
    exact not_created_of_forall (fun e he ↦ (hleaves e he).1) id hid
  have hlookup : ∀ handle p,
      (start answers created).wm.buffer_map.lookup handle = some p → False := by
    intro handle p hp
    rw [hmap] at hp
    cases hp
  exact {
    injective := fun handle _ p hp _ ↦ absurd hp (hlookup handle p)
    values := fun p ↦ iff_of_false (fun ⟨handle, hp⟩ ↦ hlookup handle p hp) (hnone p)
    count := by
      change List.countP _ (List.drop (start answers created).wm.log.length _) = 0
      rw [List.drop_length]
      rfl
    old := destroysOld_of_forall fun e he ↦ (hleaves e he).2
    made := fun handle p hp ↦ absurd hp (hlookup handle p)
    keys := by
      intro handle
      rw [hmap]
      exact iff_of_false (AList.notMem_empty handle) (Finset.notMem_empty handle)
    cleaned_le := le_rfl }

/-- In every run of `pushFrame` and the clean-up, `buffer_map` is exact after every call, every
attach names a `wl_buffer` that exists and was created for the handle being pushed, and every
clean-up destroys each `wl_buffer` that exists once. -/
theorem buffers_exact (answers : StartAnswers) (created : Bool) (calls : List BufferCall) :
    StatesAll step BuffersExact (start answers created) calls ∧
      StepsAll step UsesBuffers (start answers created) calls := by
  have hinit := kept_start answers created
  have hkeep : ∀ s a t, Kept s → True → step s a = some t → Kept t :=
    fun _ _ _ h _ hstep ↦ h.step hstep
  constructor
  · exact (statesAll_of_stepsAll hkeep hinit stepsAll_true).mono fun _ h ↦ h.toBuffersExact
  · exact stepsAll_of_invariant (fun _ a h _ ↦ h.usesBuffers a) hkeep hinit stepsAll_true

end BufferSession

end WindowManager

end WLManager
