import WLManager.Client.ClientProcess

/-!
# The loop's one table entry

`createInputSurface` gives the consumer room for one locked buffer, and the loop unlocks every
buffer before it locks the next. When `unlockAsync` fails, `unlockBuffer` returns before it frees
the entry, and the loop ignores the status and forgets the buffer. The next frame that is acquired
and locked is still pushed, and is then recorded behind the end of the table. So a run goes on
without undefined behaviour only as long as every unlock succeeds.
-/

namespace WLManager.FrameLoop

open Transition

/-- The unlock of a buffer that was locked at an address succeeds. -/
def Unlocks (s : FrameLoop) : Action → Prop
  | .unlockBuffer answers => ∀ imgBuffer, s.pc = .locked imgBuffer → imgBuffer.data ≠ kUnusedId →
      answers.unlockErr = .OK
  | _ => True

/-- Between a lock and the unlock that belongs to it. -/
def HoldsBuffer (s : FrameLoop) : Prop := ∃ imgBuffer, s.pc = .locked imgBuffer

/-- The next `lockNextBuffer` returns, whatever the buffer queue and the allocator answer. -/
def NextLockReturns (s : FrameLoop) : Prop :=
  ∀ answers, (s.consumer.lockNextBuffer (some .empty) answers).isSome

/-- A `lockNextBuffer` that is answered so pushes its frame and then writes behind the table. -/
def OverrunsTable (s : FrameLoop) (answers : WLConsumer.LockAnswers) : Prop :=
  let (err, _, pushed, c) := s.consumer.acquireAndLock .empty answers
  err = .OK ∧ pushed = some answers.buffer.frame ∧
    c.findAcquiredBufferLocked kUnusedId = c.mAcquiredBuffers.length ∧
    s.consumer.lockNextBuffer (some .empty) answers = none

/-- The table has one entry, which is the one of the buffer that is locked. -/
def OneEntry (s : FrameLoop) : Prop :=
  ∃ ab, s.consumer.mAcquiredBuffers = [ab] ∧ ∀ imgBuffer, s.pc = .locked imgBuffer →
    ab.mLockedBufferId = imgBuffer.data ∧ ab.mGraphicBuffer.isSome = true

/-- The entry is free, or will be once the buffer is unlocked. -/
def Frees (s : FrameLoop) : Prop := ¬ s.HoldsBuffer → s.consumer.HasFreeEntry

theorem nextLockReturns_iff {s : FrameLoop} : s.NextLockReturns ↔ s.consumer.HasFreeEntry := by
  constructor
  · intro h
    by_contra hfull
    have hreturns := h (.onePixel 0 .OK 64)
    rw [s.consumer.lockNextBuffer_overflow .empty rfl rfl hfull] at hreturns
    cases hreturns
  · intro hfree answers
    by_cases hacquire : answers.acquireErr = .OK
    · by_cases hlock : answers.lockErr = .OK
      · rw [s.consumer.lockNextBuffer_locked .empty hacquire hlock hfree]
        rfl
      · rw [s.consumer.lockNextBuffer_lock_failed .empty hacquire hlock]
        rfl
    · obtain ⟨status, -, hreturn⟩ := s.consumer.lockNextBuffer_acquire_failed .empty hacquire
      rw [hreturn]
      rfl

theorem overrunsTable {s : FrameLoop} {answers : WLConsumer.LockAnswers}
    (hfull : ¬ s.consumer.HasFreeEntry) (hacquire : answers.acquireErr = .OK)
    (hlock : answers.lockErr = .OK) : s.OverrunsTable answers := by
  have hend : s.consumer.findAcquiredBufferLocked kUnusedId =
      s.consumer.mAcquiredBuffers.length := by
    refine le_antisymm List.findIdx_le_length ?_
    rw [s.consumer.table_length, ← not_lt, s.consumer.findAcquiredBufferLocked_unused_lt_iff]
    exact hfull
  unfold OverrunsTable
  rw [s.consumer.acquireAndLock_locked .empty hacquire hlock]
  exact ⟨rfl, rfl, hend, s.consumer.lockNextBuffer_overflow .empty hacquire hlock hfull⟩

/-- A step that leaves the table alone and holds no buffer before or after. -/
theorem oneEntry_unchanged {s t : FrameLoop} {a : Action} (hs : s.OneEntry) (ha : s.Unlocks a)
    (htable : t.consumer.mAcquiredBuffers = s.consumer.mAcquiredBuffers)
    (hpc : t.pc = s.pc ∨ ¬ s.HoldsBuffer ∧ ¬ t.HoldsBuffer) :
    t.OneEntry ∧ (t.Frees ↔ s.Frees ∧ s.Unlocks a) := by
  obtain ⟨ab, htab, hlocked⟩ := hs
  have hfree : t.consumer.HasFreeEntry ↔ s.consumer.HasFreeEntry := by
    rw [WLConsumer.hasFreeEntry_singleton htab,
      WLConsumer.hasFreeEntry_singleton (htable.trans htab)]
  rw [and_iff_left ha]
  unfold Frees
  rw [hfree]
  rcases hpc with hpc | ⟨hpc, hpc'⟩
  · have hholds : t.HoldsBuffer ↔ s.HoldsBuffer := by
      unfold HoldsBuffer
      rw [hpc]
    rw [hholds]
    refine ⟨⟨ab, htable.trans htab, ?_⟩, Iff.rfl⟩
    rw [hpc]
    exact hlocked
  · refine ⟨⟨ab, htable.trans htab, fun imgBuffer h ↦ absurd ⟨imgBuffer, h⟩ hpc'⟩, ?_⟩
    rw [iff_true_intro hpc, iff_true_intro hpc']

theorem not_holdsBuffer {s : FrameLoop} {pc : LoopPc} (h : s.pc = pc)
    (hpc : ∀ imgBuffer, pc ≠ .locked imgBuffer) : ¬ s.HoldsBuffer := by
  rintro ⟨imgBuffer, hlocked⟩
  exact hpc imgBuffer (h.symm.trans hlocked)

/-- A buffer that has been acquired and locked is recorded in the entry. -/
theorem oneEntry_locked {s : FrameLoop} {answers : WLConsumer.LockAnswers} (hs : s.OneEntry)
    (hfree : s.consumer.HasFreeEntry) :
    (s.lockedNext answers ⟨.OK, some (WLConsumer.filledBuffer answers), some answers.buffer.frame,
      s.consumer.locked answers⟩).OneEntry := by
  obtain ⟨ab, htab, -⟩ := hs
  have hunused := (WLConsumer.hasFreeEntry_singleton htab).mp hfree
  have hfind : s.consumer.findAcquiredBufferLocked kUnusedId = 0 := by
    rw [← hunused]
    exact WLConsumer.find_singleton htab
  refine ⟨WLConsumer.recordedEntry answers (WLConsumer.filledBuffer answers), ?_, ?_⟩
  · change s.consumer.mAcquiredBuffers.set (s.consumer.findAcquiredBufferLocked kUnusedId) _ = _
    rw [hfind, htab]
    rfl
  · intro imgBuffer hlocked
    cases hlocked
    exact ⟨rfl, rfl⟩

/-- The unlock frees the entry if it succeeds, and where nothing was recorded. -/
theorem oneEntry_unlocked {s : FrameLoop} {answers : WLConsumer.UnlockAnswers}
    {imgBuffer : LockedBuffer} {r : WLConsumer.UnlockReturn} (hs : s.OneEntry)
    (hpc : s.pc = .locked imgBuffer)
    (hr : s.consumer.unlockBuffer imgBuffer answers = some r) :
    (s.unlockedNext r).OneEntry ∧
      ((s.unlockedNext r).consumer.HasFreeEntry ↔ s.Unlocks (.unlockBuffer answers)) := by
  obtain ⟨ab, htab, hlocked⟩ := hs
  obtain ⟨hid, hnamed⟩ := hlocked imgBuffer hpc
  have hunlocks : s.Unlocks (.unlockBuffer answers) ↔
      (imgBuffer.data ≠ kUnusedId → answers.unlockErr = .OK) := by
    constructor
    · exact fun h ↦ h imgBuffer hpc
    · intro h other hother
      rw [hpc] at hother
      cases hother
      exact h
  have hone : ∀ entry, r.consumer.mAcquiredBuffers = [entry] → (s.unlockedNext r).OneEntry :=
    fun entry hentry ↦ ⟨entry, hentry, fun _ ↦ LoopPc.noConfusion⟩
  rw [hunlocks]
  by_cases hdata : imgBuffer.data = kUnusedId
  · rw [s.consumer.unlockBuffer_unknown imgBuffer answers (.inl hdata)] at hr
    cases hr
    refine ⟨hone ab htab, iff_of_true ?_ fun hne ↦ absurd hdata hne⟩
    exact (WLConsumer.hasFreeEntry_singleton htab).mpr (hid.trans hdata)
  · obtain ⟨buffer, hbuffer⟩ := Option.isSome_iff_exists.mp hnamed
    have hfind : s.consumer.findAcquiredBufferLocked imgBuffer.data = 0 := by
      rw [← hid]
      exact WLConsumer.find_singleton htab
    have hentry := WLConsumer.getElem?_find_singleton htab
    rw [hid] at hentry
    rw [s.consumer.unlockBuffer_known hdata hentry hbuffer] at hr
    by_cases hunlock : answers.unlockErr = .OK
    · rw [if_neg (not_not_intro hunlock), hfind] at hr
      cases hr
      have htable : (s.consumer.unlocked 0 ab.mSlot buffer).mAcquiredBuffers =
          [AcquiredBuffer.unused] := by
        change s.consumer.mAcquiredBuffers.set 0 .unused = _
        rw [htab]
        rfl
      refine ⟨hone _ htable, iff_of_true ?_ fun _ ↦ hunlock⟩
      exact (WLConsumer.hasFreeEntry_singleton htable).mpr rfl
    · rw [if_pos hunlock] at hr
      cases hr
      refine ⟨hone ab htab, iff_of_false ?_ fun h ↦ hunlock (h hdata)⟩
      intro hfree
      exact hdata (hid.symm.trans ((WLConsumer.hasFreeEntry_singleton htab).mp hfree))

/-- One step: the entry will be free afterwards exactly when it would have been before and the step
is not an unlock that fails. -/
theorem oneEntry_step {s t : FrameLoop} {a : Action} (hs : s.OneEntry) (h : s.step a = some t) :
    t.OneEntry ∧ (t.Frees ↔ s.Frees ∧ s.Unlocks a) := by
  rcases step_cases h with ⟨frame, rfl, -, rfl⟩ | ⟨rfl, -, -, rfl⟩ | ⟨rfl, hpc, rfl⟩ |
    ⟨rfl, hpc, rfl⟩ | ⟨answers, r, rfl, hpc, -, hr, rfl⟩ |
    ⟨answers, imgBuffer, r, rfl, hpc, hr, rfl⟩ | ⟨buffer, rfl, -, rfl⟩
  · exact oneEntry_unchanged hs trivial rfl (.inl rfl)
  · exact oneEntry_unchanged hs trivial rfl (.inl rfl)
  · have hidle : ¬ s.HoldsBuffer := not_holdsBuffer hpc fun _ ↦ LoopPc.noConfusion
    have hunlocks : s.Unlocks .inputBufferLocked := trivial
    apply oneEntry_unchanged hs hunlocks
    · unfold inputBufferLocked
      split_ifs <;> rfl
    · refine .inr ⟨hidle, ?_⟩
      unfold inputBufferLocked
      split_ifs
      · exact not_holdsBuffer rfl fun _ ↦ LoopPc.noConfusion
      · exact not_holdsBuffer rfl fun _ ↦ LoopPc.noConfusion
  · have hidle : ¬ s.HoldsBuffer := not_holdsBuffer hpc fun _ ↦ LoopPc.noConfusion
    exact oneEntry_unchanged hs trivial rfl
      (.inr ⟨hidle, not_holdsBuffer rfl fun _ ↦ LoopPc.noConfusion⟩)
  · have htaken : ¬ s.HoldsBuffer := not_holdsBuffer hpc fun _ ↦ LoopPc.noConfusion
    have hfailed : ∀ status outBuffer pushed c, status ≠ .OK →
        ¬ (s.lockedNext answers ⟨status, outBuffer, pushed, c⟩).HoldsBuffer := by
      intro status outBuffer pushed c hstatus
      exact not_holdsBuffer (if_neg hstatus) fun _ ↦ LoopPc.noConfusion
    rcases WLConsumer.lockNextBuffer_cases hr with ⟨-, status, hstatus, rfl⟩ |
      ⟨-, hstatus, rfl⟩ | ⟨-, -, hfree, rfl⟩
    · exact oneEntry_unchanged hs trivial rfl (.inr ⟨htaken, hfailed _ _ _ _ hstatus⟩)
    · exact oneEntry_unchanged hs trivial rfl (.inr ⟨htaken, hfailed _ _ _ _ hstatus⟩)
    · refine ⟨oneEntry_locked hs hfree, iff_of_true ?_ ⟨fun _ ↦ hfree, trivial⟩⟩
      exact fun hnot ↦ absurd ⟨_, rfl⟩ hnot
  · obtain ⟨hone, hfree⟩ := oneEntry_unlocked hs hpc hr
    have hidle : ¬ (s.unlockedNext r).HoldsBuffer :=
      not_holdsBuffer rfl fun _ ↦ LoopPc.noConfusion
    have hfrees : s.Frees := fun hnot ↦ absurd ⟨imgBuffer, hpc⟩ hnot
    refine ⟨hone, ?_⟩
    rw [iff_true_intro hfrees, true_and, ← hfree]
    exact ⟨fun h ↦ h hidle, fun h _ ↦ h⟩
  · exact oneEntry_unchanged hs trivial rfl (.inl rfl)

theorem oneEntry_createInputSurface (uninitialised : SizeT) :
    (createInputSurface uninitialised).OneEntry :=
  ⟨.unused, rfl, fun _ ↦ LoopPc.noConfusion⟩

theorem frees_createInputSurface (uninitialised : SizeT) :
    (createInputSurface uninitialised).Frees :=
  fun _ ↦ (WLConsumer.hasFreeEntry_singleton rfl).mpr rfl

/-- The entry of a buffer that nobody remembers stays in use. -/
theorem not_frees_of_run {s t : FrameLoop} {actions : List Action} (hs : s.OneEntry)
    (hfrees : ¬ s.Frees) (hrun : run step s actions = some t) : ¬ t.Frees := by
  suffices h : t.OneEntry ∧ ¬ t.Frees from h.2
  apply run_invariant' _ ⟨hs, hfrees⟩ hrun
  intro u a v ⟨hu, hnot⟩ hstep
  obtain ⟨hv, hiff⟩ := oneEntry_step hu hstep
  exact ⟨hv, fun hfree ↦ hnot (hiff.mp hfree).1⟩

/-- After every run of the loop with the producer and the compositor, between two iterations: the
next `lockNextBuffer` returns whatever it is answered exactly when every unlock of a buffer that was
locked at an address has succeeded. Once one has failed, in every state from then on the loop has no
buffer to unlock, and the next frame that is acquired and locked is pushed by a call that then
writes behind the table. -/
theorem next_lock_returns_iff {uninitialised : SizeT} {actions : List Action} {s : FrameLoop}
    (hrun : run step (createInputSurface uninitialised) actions = some s)
    (hbetween : ¬ s.HoldsBuffer) :
    (s.NextLockReturns ↔ StepsAll step Unlocks (createInputSurface uninitialised) actions) ∧
      (¬ StepsAll step Unlocks (createInputSurface uninitialised) actions →
        ∀ more t, run step s more = some t → ¬ t.HoldsBuffer ∧
          ∀ answers, answers.acquireErr = .OK → answers.lockErr = .OK →
            t.OverrunsTable answers) := by
  have hinit := oneEntry_createInputSurface uninitialised
  have hfrees := frees_createInputSurface uninitialised
  have hone : s.OneEntry := run_invariant' (fun _ _ _ hs h ↦ (oneEntry_step hs h).1) hinit hrun
  have hend : StepsAll step Unlocks (createInputSurface uninitialised) actions ↔ s.Frees :=
    stepsAll_iff_end (fun _ _ _ hs _ h ↦ oneEntry_step hs h) hinit hfrees stepsAll_true hrun
  rw [hend]
  refine ⟨?_, fun hnot more t ht ↦ ?_⟩
  · rw [nextLockReturns_iff]
    exact ⟨fun h _ ↦ h, fun h ↦ h hbetween⟩
  · obtain ⟨hidle, hfull⟩ : ¬ t.HoldsBuffer ∧ ¬ t.consumer.HasFreeEntry :=
      Classical.not_imp.mp (not_frees_of_run hone hnot ht)
    exact ⟨hidle, fun answers ↦ overrunsTable hfull⟩

/-- The unlock of the first frame fails. -/
def unlockFailed : List Action :=
  [.queueBuffer (.onePixel 0), .onFrameAvailable, .inputBufferLocked,
    .lockNextBuffer (.onePixel 0 .OK 64), .unlockBuffer ⟨.BAD_VALUE, -1⟩]

theorem run_unlockFailed :
    ∃ s, run step (createInputSurface 0) unlockFailed = some s ∧ ¬ s.HoldsBuffer ∧
      ¬ s.NextLockReturns := by
  refine ⟨_, rfl, not_holdsBuffer rfl (fun _ ↦ LoopPc.noConfusion), ?_⟩
  rw [nextLockReturns_iff, WLConsumer.hasFreeEntry_singleton rfl]
  decide

/-- The second frame is pushed and then written behind the table. -/
theorem next_lock_returns_unlockFailed :
    ∃ s, run step (createInputSurface 0) unlockFailed = some s ∧
      s.OverrunsTable (.onePixel 1 .OK 64) := by
  obtain ⟨s, hrun, hbetween, hnot⟩ := run_unlockFailed
  obtain ⟨hiff, hoverruns⟩ := next_lock_returns_iff hrun hbetween
  exact ⟨s, hrun, (hoverruns (hiff.not.mp hnot) [] s rfl).2 _ rfl rfl⟩

end WLManager.FrameLoop
