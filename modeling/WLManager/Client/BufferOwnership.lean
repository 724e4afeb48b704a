import WLManager.Client.FrameLoop

/-!
# Who may draw into a buffer that is on screen

A buffer leaves the producer when it is queued and comes back in `unlockBuffer`, at the end of the
iteration that pushed it. The release event of its `wl_buffer` plays no part: the listener is empty
because the buffers are only cleaned up in `finalize`. So a successful unlock hands the pushed
buffer back whatever the compositor holds, and the compositor and the producer never share a
buffer exactly in the runs in which every `unlockBuffer` happens to come after the release event of
the buffer it gives back.

The invariant is that the buffer queue counts no buffer twice, that whatever the consumer's table
records has really been acquired, and that its one entry is that of the buffer being shown.
-/

namespace WLManager.FrameLoop

open Transition

/-- The compositor holds no buffer that the producer may draw into. -/
def NoneShared (s : FrameLoop) : Prop := ∀ buffer ∈ s.onScreen, ¬ s.Released buffer

/-- The buffer that an action gives back to the buffer queue. -/
def givenBack (s : FrameLoop) : Action → Option GraphicBuffer
  | .unlockBuffer answers =>
    match s.pc with
    | .locked imgBuffer =>
      ((s.consumer.unlockBuffer imgBuffer answers).bind fun r ↦ r.released).map fun released ↦
        released.2.1
    | _ => none
  | _ => none

/-- A buffer is given back only after the compositor has let go of it. -/
def ReleasedFirst (s : FrameLoop) (a : Action) : Prop :=
  ∀ buffer ∈ s.givenBack a, buffer ∉ s.onScreen

/-- The two accounts of the buffer queue and the consumer. -/
structure Owned (s : FrameLoop) : Prop where
  inUse_nodup : s.inUse.Nodup
  recorded_le : s.consumer.recorded ≤ s.consumer.acquired

theorem owned_createInputSurface (uninitialised : SizeT) :
    (createInputSurface uninitialised).Owned where
  inUse_nodup := Multiset.nodup_zero
  recorded_le := by
    rw [createInputSurface, WLConsumer.recorded_construct]
    exact Multiset.zero_le _

theorem noneShared_createInputSurface (uninitialised : SizeT) :
    (createInputSurface uninitialised).NoneShared :=
  fun _ hbuffer ↦ absurd hbuffer (Finset.notMem_empty _)

/-! ## Taking buffers -/

theorem inUse_queueBuffer (s : FrameLoop) (frame : QueuedFrame) :
    (s.queueBuffer frame).inUse = frame.buffer ::ₘ s.inUse := by
  calc
    _ = ↑((s.queue ++ [frame]).map QueuedFrame.buffer) + s.consumer.acquired.map Prod.snd := rfl
    _ = (↑(s.queue.map QueuedFrame.buffer) + {frame.buffer}) +
        s.consumer.acquired.map Prod.snd := by
      rw [List.map_append, ← Multiset.coe_add, List.map_singleton, Multiset.coe_singleton]
    _ = {frame.buffer} + s.inUse := by
      unfold inUse
      rw [add_assoc, add_left_comm]
    _ = frame.buffer ::ₘ s.inUse := Multiset.singleton_add _ _

/-- A successful acquire moves the buffer at the head of the queue to the consumer. -/
theorem inUse_acquired {s t : FrameLoop} {answers : WLConsumer.LockAnswers}
    (hacquires : s.Acquires answers) (hacquire : answers.acquireErr = .OK)
    (hqueue : t.queue = s.queue.tail) (hacquired : t.consumer.acquired =
      (answers.item.mSlot, answers.buffer) ::ₘ s.consumer.acquired) : t.inUse = s.inUse := by
  have hbuffer : QueuedFrame.buffer ⟨answers.item, answers.slotBuffer⟩ = answers.buffer := rfl
  calc
    _ = ↑(s.queue.tail.map QueuedFrame.buffer) +
        ((answers.item.mSlot, answers.buffer) ::ₘ s.consumer.acquired).map Prod.snd := by
      rw [inUse, hqueue, hacquired]
    _ = answers.buffer ::ₘ
        (↑(s.queue.tail.map QueuedFrame.buffer) + s.consumer.acquired.map Prod.snd) := by
      rw [Multiset.map_cons, Multiset.add_cons]
    _ = ↑((⟨answers.item, answers.slotBuffer⟩ :: s.queue.tail).map QueuedFrame.buffer) +
        s.consumer.acquired.map Prod.snd := by
      rw [List.map_cons, hbuffer, ← Multiset.cons_coe, Multiset.cons_add]
    _ = s.inUse := by
      rw [← queue_of_acquires hacquires hacquire]
      rfl

/-- One iteration's lock, whatever its outcome: the buffers in use stay the same, and a pushed one
is among them. -/
theorem lockedNext_spec {s : FrameLoop} {answers : WLConsumer.LockAnswers}
    {r : WLConsumer.LockReturn} (hs : s.Owned) (hacquires : s.Acquires answers)
    (hr : s.consumer.lockNextBuffer (some .empty) answers = some r) :
    (s.lockedNext answers r).Owned ∧ (s.lockedNext answers r).inUse = s.inUse ∧
      ((s.lockedNext answers r).onScreen = s.onScreen ∨
        answers.buffer ∈ s.inUse ∧
          (s.lockedNext answers r).onScreen = insert answers.buffer s.onScreen) := by
  rcases WLConsumer.lockNextBuffer_cases hr with ⟨hacquire, status, -, rfl⟩ |
    ⟨hacquire, -, rfl⟩ | ⟨hacquire, -, hfree, rfl⟩
  · have hinUse :
        (s.lockedNext answers ⟨status, some .empty, none, s.consumer⟩).inUse = s.inUse := by
      rw [inUse, lockedNext, if_neg hacquire, inUse]
    exact ⟨⟨hinUse ▸ hs.inUse_nodup, hs.recorded_le⟩, hinUse, .inl rfl⟩
  · have hinUse : (s.lockedNext answers ⟨answers.lockErr, some .empty, none,
        s.consumer.acquireBufferLocked answers.item.mSlot answers.buffer⟩).inUse = s.inUse :=
      inUse_acquired hacquires hacquire (if_pos hacquire) rfl
    refine ⟨⟨hinUse ▸ hs.inUse_nodup, ?_⟩, hinUse, .inl rfl⟩
    exact hs.recorded_le.trans (Multiset.le_cons_self _ _)
  · have hinUse : (s.lockedNext answers ⟨.OK, some (WLConsumer.filledBuffer answers),
        some answers.buffer.frame, s.consumer.locked answers⟩).inUse = s.inUse :=
      inUse_acquired hacquires hacquire (if_pos hacquire) rfl
    refine ⟨⟨hinUse ▸ hs.inUse_nodup, ?_⟩, hinUse, .inr ⟨?_, rfl⟩⟩
    · have hrecorded := WLConsumer.recorded_locked hfree answers
      have hacquired : (s.consumer.locked answers).acquired =
          s.consumer.acquired + {(answers.item.mSlot, answers.buffer)} := by
        rw [add_comm, Multiset.singleton_add]
        rfl
      change (s.consumer.locked answers).recorded ≤ (s.consumer.locked answers).acquired
      rw [hrecorded, hacquired]
      apply add_le_add hs.recorded_le
      split_ifs
      · exact Multiset.zero_le _
      · exact le_rfl
    · rw [inUse, queue_of_acquires hacquires hacquire]
      exact Multiset.mem_add.mpr (.inl (List.mem_cons_self))

/-! ## Giving a buffer back -/

/-- A successful unlock gives back one buffer, which is then in nobody's use. -/
theorem inUse_unlocked {s : FrameLoop} (hs : s.Owned) {imgBuffer : LockedBuffer}
    {ab : AcquiredBuffer} {buffer : GraphicBuffer} {r : WLConsumer.UnlockReturn}
    (hid : imgBuffer.data ≠ kUnusedId)
    (hentry : s.consumer.mAcquiredBuffers[s.consumer.findAcquiredBufferLocked imgBuffer.data]? =
      some ab) (hbuffer : ab.mGraphicBuffer = some buffer)
    (hr : r.consumer = s.consumer.unlocked (s.consumer.findAcquiredBufferLocked imgBuffer.data)
      ab.mSlot buffer) :
    (s.unlockedNext r).Owned ∧ (s.unlockedNext r).inUse = s.inUse.erase buffer := by
  have hrecorded : (s.unlockedNext r).consumer.recorded =
      s.consumer.recorded.erase (ab.mSlot, buffer) := by
    change r.consumer.recorded = _
    rw [hr]
    exact WLConsumer.recorded_unlocked hid hentry hbuffer
  have hacquired : (s.unlockedNext r).consumer.acquired =
      s.consumer.acquired.erase (ab.mSlot, buffer) := by
    change r.consumer.acquired = _
    rw [hr]
    rfl
  have hmem : (ab.mSlot, buffer) ∈ s.consumer.acquired :=
    Multiset.mem_of_le hs.recorded_le (WLConsumer.mem_recorded_find hid hentry hbuffer)
  have hinUse : (s.unlockedNext r).inUse = s.inUse.erase buffer := by
    have hqueue : (s.unlockedNext r).queue = s.queue := rfl
    rw [inUse, inUse, hqueue, hacquired, Multiset.map_erase_of_mem _ _ hmem,
      Multiset.erase_add_right_pos _ (Multiset.mem_map_of_mem _ hmem)]
  refine ⟨⟨hinUse ▸ hs.inUse_nodup.erase _, ?_⟩, hinUse⟩
  rw [hrecorded, hacquired]
  exact Multiset.erase_le_erase _ hs.recorded_le

theorem givenBack_eq_some {s : FrameLoop} {answers : WLConsumer.UnlockAnswers}
    {imgBuffer : LockedBuffer} {r : WLConsumer.UnlockReturn} (hpc : s.pc = .locked imgBuffer)
    (hr : s.consumer.unlockBuffer imgBuffer answers = some r) :
    s.givenBack (.unlockBuffer answers) = r.released.map fun released ↦ released.2.1 := by
  simp only [givenBack, hpc, hr, Option.bind_some]

theorem releasedFirst_of_refused {s : FrameLoop} {a : Action} (h : s.step a = none) :
    s.ReleasedFirst a := by
  cases a with
  | unlockBuffer answers =>
    cases hpc : s.pc with
    | locked imgBuffer =>
      simp only [step, hpc, Option.map_eq_none_iff] at h
      simp [ReleasedFirst, givenBack, hpc, h]
    | idle => simp [ReleasedFirst, givenBack, hpc]
    | waiting => simp [ReleasedFirst, givenBack, hpc]
    | taken => simp [ReleasedFirst, givenBack, hpc]
  | _ =>
    intro buffer hbuffer
    cases hbuffer

theorem owned_step {s t : FrameLoop} {a : Action} (hs : s.Owned) (h : s.step a = some t) :
    t.Owned := by
  rcases step_cases h with ⟨frame, rfl, hreleased, rfl⟩ | ⟨rfl, -, -, rfl⟩ | ⟨rfl, -, rfl⟩ |
    ⟨rfl, -, rfl⟩ | ⟨answers, r, rfl, -, hacquires, hr, rfl⟩ |
    ⟨answers, imgBuffer, r, rfl, -, hr, rfl⟩ | ⟨buffer, rfl, -, rfl⟩
  · refine ⟨?_, hs.recorded_le⟩
    rw [inUse_queueBuffer]
    exact Multiset.nodup_cons.mpr ⟨hreleased, hs.inUse_nodup⟩
  · exact ⟨hs.inUse_nodup, hs.recorded_le⟩
  · unfold inputBufferLocked
    split_ifs
    · exact ⟨hs.inUse_nodup, hs.recorded_le⟩
    · exact ⟨hs.inUse_nodup, hs.recorded_le⟩
  · exact ⟨hs.inUse_nodup, hs.recorded_le⟩
  · exact (lockedNext_spec hs hacquires hr).1
  · rcases WLConsumer.unlockBuffer_cases hr with ⟨status, -, rfl⟩ |
      ⟨ab, buffer, fence, hid, hentry, hbuffer, -, rfl⟩
    · exact ⟨hs.inUse_nodup, hs.recorded_le⟩
    · exact (inUse_unlocked hs hid hentry hbuffer rfl).1
  · exact ⟨hs.inUse_nodup, hs.recorded_le⟩

/-- One step: the compositor and the producer still share no buffer exactly when the step gives
none back that the compositor holds. -/
theorem noneShared_step {s t : FrameLoop} {a : Action} (hs : s.Owned) (hshared : s.NoneShared)
    (h : s.step a = some t) : t.NoneShared ↔ s.ReleasedFirst a := by
  rcases step_cases h with ⟨frame, rfl, -, rfl⟩ | ⟨rfl, -, -, rfl⟩ |
    ⟨rfl, -, rfl⟩ | ⟨rfl, -, rfl⟩ | ⟨answers, r, rfl, -, hacquires, hr, rfl⟩ |
    ⟨answers, imgBuffer, r, rfl, hpc, hr, rfl⟩ | ⟨buffer, rfl, -, rfl⟩
  · refine iff_of_true (fun buffer hbuffer ↦ ?_) nofun
    rw [Released, not_not, inUse_queueBuffer]
    exact Multiset.mem_cons_of_mem (not_not.mp (hshared buffer hbuffer))
  · exact iff_of_true hshared nofun
  · rw [inputBufferLocked]
    split_ifs
    · exact iff_of_true hshared nofun
    · exact iff_of_true hshared nofun
  · exact iff_of_true hshared nofun
  · obtain ⟨-, hinUse, hscreen⟩ := lockedNext_spec hs hacquires hr
    refine iff_of_true (fun buffer hbuffer ↦ ?_) nofun
    rw [Released, not_not, hinUse]
    rcases hscreen with hsame | ⟨hpushed, hinsert⟩
    · exact not_not.mp (hshared buffer (hsame ▸ hbuffer))
    · rw [hinsert, Finset.mem_insert] at hbuffer
      rcases hbuffer with rfl | hbuffer
      · exact hpushed
      · exact not_not.mp (hshared buffer hbuffer)
  · rcases WLConsumer.unlockBuffer_cases hr with ⟨status, -, rfl⟩ |
      ⟨ab, buffer, fence, hid, hentry, hbuffer, -, rfl⟩
    · have hnone : s.givenBack (.unlockBuffer answers) = none := givenBack_eq_some hpc hr
      refine iff_of_true hshared ?_
      rw [ReleasedFirst, hnone]
      exact nofun
    · have hsome : s.givenBack (.unlockBuffer answers) = some buffer := givenBack_eq_some hpc hr
      obtain ⟨-, hinUse⟩ := inUse_unlocked (r := ⟨.OK, some (ab.mSlot, buffer, fence),
        s.consumer.unlocked (s.consumer.findAcquiredBufferLocked imgBuffer.data) ab.mSlot buffer⟩)
        hs hid hentry hbuffer rfl
      rw [ReleasedFirst, hsome]
      constructor
      · rintro hafter _ ⟨⟩ hheld
        apply hafter buffer hheld
        rw [Released, hinUse]
        exact hs.inUse_nodup.notMem_erase
      · intro hfirst other hother
        have hne : other ≠ buffer := by
          rintro rfl
          exact hfirst other rfl hother
        rw [Released, hinUse, Multiset.mem_erase_of_ne hne]
        exact hshared other hother
  · refine iff_of_true (fun other hother ↦ ?_) nofun
    exact hshared other (Finset.mem_of_mem_erase hother)

/-- In every state the compositor holds no buffer that the producer may draw into exactly when
every buffer that `unlockBuffer` gives back has been released by the compositor before. -/
theorem noneShared_iff_releasedFirst (uninitialised : SizeT) (actions : List Action) :
    StatesAll step NoneShared (createInputSurface uninitialised) actions ↔
      StepsAll step ReleasedFirst (createInputSurface uninitialised) actions := by
  have hinit : (createInputSurface uninitialised).Owned ∧
      (createInputSurface uninitialised).NoneShared :=
    ⟨owned_createInputSurface uninitialised, noneShared_createInputSurface uninitialised⟩
  have hiff : ∀ (s : FrameLoop) (a : Action), s.Owned ∧ s.NoneShared → True →
      ((∀ t, s.step a = some t → t.NoneShared) ↔ s.ReleasedFirst a) := by
    intro s a hs _
    cases hstep : s.step a with
    | none =>
      refine iff_of_true (fun t ht ↦ ?_) (releasedFirst_of_refused hstep)
      cases ht
    | some t =>
      simp only [Option.some.injEq, forall_eq']
      exact noneShared_step hs.1 hs.2 hstep
  have hkeep : ∀ (s : FrameLoop) (a : Action) (t : FrameLoop), s.Owned ∧ s.NoneShared → True →
      s.ReleasedFirst a → s.step a = some t → t.Owned ∧ t.NoneShared :=
    fun s a t hs _ hfirst hstep ↦
      ⟨owned_step hs.1 hstep, (noneShared_step hs.1 hs.2 hstep).mpr hfirst⟩
  rw [statesAll_iff, and_iff_right hinit.2]
  exact stepsAll_iff_of_invariant hiff hkeep hinit stepsAll_true

/-! ## The buffer an iteration pushed -/

/-- The answers to a call of `lockNextBuffer`. -/
def Action.lockAnswers : Action → Option WLConsumer.LockAnswers
  | .lockNextBuffer answers => some answers
  | _ => none

/-- A successful unlock takes the buffer out of use, and nothing else, and does not ask what the
compositor holds. -/
def UnlockGivesBack (s : FrameLoop) (buffer : GraphicBuffer) : Prop :=
  ∀ answers : WLConsumer.UnlockAnswers, answers.unlockErr = .OK →
    ∃ t, s.step (.unlockBuffer answers) = some t ∧ buffer ∈ s.inUse ∧
      t.inUse = s.inUse.erase buffer ∧ t.Released buffer ∧ t.onScreen = s.onScreen

/-- While a buffer is locked at an address, it is the one handed out by the latest
`lockNextBuffer`, it was the last to be pushed, and its unlock gives it back. -/
def GivesBackPushed (actions : List Action) (s : FrameLoop) : Prop :=
  ∀ imgBuffer, s.pc = .locked imgBuffer → imgBuffer.data ≠ kUnusedId →
    ∃ answers, (actions.filterMap Action.lockAnswers).getLast? = some answers ∧
      s.pushed.getLast? = some answers.buffer.frame ∧ s.UnlockGivesBack answers.buffer

/-- The iteration under way has locked and pushed with these answers, and the table holds nothing
else. -/
structure PushedWith (s : FrameLoop) (answers : WLConsumer.LockAnswers) : Prop where
  pc : s.pc = .locked (WLConsumer.filledBuffer answers)
  table : s.consumer.mAcquiredBuffers =
    [WLConsumer.recordedEntry answers (WLConsumer.filledBuffer answers)]
  pushed : s.pushed.getLast? = some answers.buffer.frame

/-- There is room for one buffer, and it is taken by the one that was handed out last. -/
structure Recorded (actions : List Action) (s : FrameLoop) : Prop where
  owned : s.Owned
  room : s.consumer.mMaxLockedBuffers = 1
  latest : ∀ imgBuffer, s.pc = .locked imgBuffer →
    ∃ answers, (actions.filterMap Action.lockAnswers).getLast? = some answers ∧
      s.PushedWith answers

theorem recorded_createInputSurface (uninitialised : SizeT) :
    Recorded [] (createInputSurface uninitialised) where
  owned := owned_createInputSurface uninitialised
  room := rfl
  latest := fun _ hpc ↦ LoopPc.noConfusion hpc

/-- A step that is no lock leaves the latest lock the latest, and can only end what it began. -/
theorem Recorded.unchanged {actions : List Action} {s t : FrameLoop} {a : Action}
    (hs : Recorded actions s) (howned : t.Owned) (hlock : a.lockAnswers = none)
    (hroom : t.consumer.mMaxLockedBuffers = s.consumer.mMaxLockedBuffers)
    (hpc : (t.pc = s.pc ∧ t.consumer = s.consumer ∧ t.pushed = s.pushed) ∨
      ∀ imgBuffer, t.pc ≠ .locked imgBuffer) : Recorded (actions ++ [a]) t := by
  refine ⟨howned, hroom.trans hs.room, fun imgBuffer hlocked ↦ ?_⟩
  rcases hpc with ⟨hpc, hconsumer, hpushed⟩ | hpc
  · obtain ⟨answers, hlast, hwith⟩ := hs.latest imgBuffer (hpc ▸ hlocked)
    refine ⟨answers, ?_, hpc ▸ hwith.pc, hconsumer ▸ hwith.table, hpushed ▸ hwith.pushed⟩
    rw [List.filterMap_append, List.filterMap_cons_none hlock, List.filterMap_nil,
      List.append_nil]
    exact hlast
  · exact absurd hlocked (hpc imgBuffer)

/-- With room for one buffer, the one that has just been locked is all the table records. -/
theorem table_locked {c : WLConsumer} (hroom : c.mMaxLockedBuffers = 1) (hfree : c.HasFreeEntry)
    (answers : WLConsumer.LockAnswers) : (c.locked answers).mAcquiredBuffers =
      [WLConsumer.recordedEntry answers (WLConsumer.filledBuffer answers)] := by
  have hlength : c.mAcquiredBuffers.length = 1 := by
    rw [c.table_length, hroom]
    rfl
  obtain ⟨ab, htable⟩ := List.length_eq_one_iff.mp hlength
  have hlt := WLConsumer.find_unused_lt_length hfree
  rw [hlength, Nat.lt_one_iff] at hlt
  change c.mAcquiredBuffers.set (c.findAcquiredBufferLocked kUnusedId) _ = _
  rw [hlt, htable]
  rfl

theorem recorded_step {actions : List Action} {s t : FrameLoop} {a : Action}
    (hs : Recorded actions s) (h : s.step a = some t) : Recorded (actions ++ [a]) t := by
  have howned := owned_step hs.owned h
  rcases step_cases h with ⟨frame, rfl, -, rfl⟩ | ⟨rfl, -, -, rfl⟩ | ⟨rfl, hidle, rfl⟩ |
    ⟨rfl, -, rfl⟩ | ⟨answers, r, rfl, -, -, hr, rfl⟩ | ⟨answers, imgBuffer, r, rfl, -, hr, rfl⟩ |
    ⟨buffer, rfl, -, rfl⟩
  · exact hs.unchanged howned rfl rfl (.inl ⟨rfl, rfl, rfl⟩)
  · exact hs.unchanged howned rfl rfl (.inl ⟨rfl, rfl, rfl⟩)
  · apply hs.unchanged howned rfl
    · unfold inputBufferLocked
      split_ifs <;> rfl
    · refine .inr fun imgBuffer ↦ ?_
      unfold inputBufferLocked
      split_ifs <;> exact LoopPc.noConfusion
  · exact hs.unchanged howned rfl rfl (.inr fun _ ↦ LoopPc.noConfusion)
  · rcases WLConsumer.lockNextBuffer_cases hr with ⟨-, status, hstatus, rfl⟩ |
      ⟨-, hstatus, rfl⟩ | ⟨-, -, hfree, rfl⟩
    · refine ⟨howned, hs.room, fun imgBuffer hlocked ↦ ?_⟩
      exact LoopPc.noConfusion ((if_neg hstatus).symm.trans hlocked)
    · refine ⟨howned, hs.room, fun imgBuffer hlocked ↦ ?_⟩
      exact LoopPc.noConfusion ((if_neg hstatus).symm.trans hlocked)
    · refine ⟨howned, hs.room, fun imgBuffer _ ↦ ⟨answers, ?_, rfl, ?_, ?_⟩⟩
      · rw [List.filterMap_append]
        exact List.getLast?_concat
      · exact table_locked hs.room hfree answers
      · exact List.getLast?_concat
  · rcases WLConsumer.unlockBuffer_cases hr with ⟨status, -, rfl⟩ |
      ⟨ab, buffer, fence, -, -, -, -, rfl⟩
    · exact hs.unchanged howned rfl rfl (.inr fun _ ↦ LoopPc.noConfusion)
    · exact hs.unchanged howned rfl rfl (.inr fun _ ↦ LoopPc.noConfusion)
  · exact hs.unchanged howned rfl rfl (.inl ⟨rfl, rfl, rfl⟩)

theorem PushedWith.unlockGivesBack {s : FrameLoop} {answers : WLConsumer.LockAnswers}
    (hwith : s.PushedWith answers) (hs : s.Owned) (hnull : answers.bufferPointer ≠ kUnusedId) :
    s.UnlockGivesBack answers.buffer := by
  intro unlockAnswers hok
  have hentry := WLConsumer.getElem?_find_singleton hwith.table
  have hunlock : s.consumer.unlockBuffer (WLConsumer.filledBuffer answers) unlockAnswers = _ :=
    s.consumer.unlockBuffer_known hnull hentry rfl
  rw [if_neg (not_not_intro hok)] at hunlock
  obtain ⟨-, hinUse⟩ := inUse_unlocked (r := ⟨.OK, _, _⟩) hs hnull hentry rfl rfl
  refine ⟨s.unlockedNext _, ?_, ?_, hinUse, ?_, rfl⟩
  · simp only [step, hwith.pc, hunlock, Option.map_some]
    rfl
  · have hacquired := WLConsumer.mem_recorded_find hnull hentry rfl
    exact Multiset.mem_add.mpr (.inr (Multiset.mem_map_of_mem Prod.snd
      (Multiset.mem_of_le hs.recorded_le hacquired)))
  · rw [Released, hinUse]
    exact hs.inUse_nodup.notMem_erase

theorem recorded_run {uninitialised : SizeT} {actions : List Action} {s : FrameLoop}
    (hrun : run step (createInputSurface uninitialised) actions = some s) : Recorded actions s :=
  run_induction (recorded_createInputSurface uninitialised)
    (fun _ _ _ _ _ hs h ↦ recorded_step hs h) hrun

theorem givesBackPushed_of_recorded {actions : List Action} {s : FrameLoop}
    (hs : Recorded actions s) : GivesBackPushed actions s := by
  intro imgBuffer hlocked hnull
  obtain ⟨answers, hlast, hwith⟩ := hs.latest imgBuffer hlocked
  obtain rfl : WLConsumer.filledBuffer answers = imgBuffer :=
    LoopPc.locked.inj (hwith.pc.symm.trans hlocked)
  exact ⟨answers, hlast, hwith.pushed, hwith.unlockGivesBack hs.owned hnull⟩

/-- Over every interleaving: the unlock that ends an iteration gives back the buffer this iteration
pushed, whatever the compositor holds; and in every state the compositor holds no buffer that the
producer may draw into exactly when every buffer that `unlockBuffer` gives back has been released
by the compositor before. -/
theorem pushed_given_back_and_noneShared_iff (uninitialised : SizeT) (actions : List Action) :
    (∀ s, run step (createInputSurface uninitialised) actions = some s →
      GivesBackPushed actions s) ∧
      (StatesAll step NoneShared (createInputSurface uninitialised) actions ↔
        StepsAll step ReleasedFirst (createInputSurface uninitialised) actions) :=
  ⟨fun _ hrun ↦ givesBackPushed_of_recorded (recorded_run hrun),
    noneShared_iff_releasedFirst uninitialised actions⟩

/-- One frame that is queued, announced and handled, and no release event. -/
def shownOnce : List Action :=
  [.queueBuffer (.onePixel 0), .onFrameAvailable, .inputBufferLocked,
    .lockNextBuffer (.onePixel 0 .OK 64), .unlockBuffer ⟨.OK, -1⟩]

theorem run_shownOnce :
    ∃ s, run step (createInputSurface 0) shownOnce = some s ∧
      GraphicBuffer.onePixel 0 ∈ s.onScreen ∧ s.Released (.onePixel 0) := by
  refine ⟨_, rfl, Finset.mem_insert_self _ _, ?_⟩
  decide

/-- The compositor still holds the buffer when the producer may draw into it again. -/
theorem not_noneShared_shownOnce :
    ¬ StatesAll step NoneShared (createInputSurface 0) shownOnce := by
  intro h
  obtain ⟨s, hrun, hheld, hreleased⟩ := run_shownOnce
  exact statesAll_iff_prefix.mp h _ (List.prefix_refl _) s hrun _ hheld hreleased

end WLManager.FrameLoop
