import WLManager.Client.LockedTable

/-!
# Acquired buffers and the table that records them

The buffer queue counts every buffer the consumer has acquired and not yet released. A buffer it
counts and the table does not record can never be released again. This happens on the early return
after a failed `lockAsync`, which leaves the acquisition behind, and when `lockAsync` succeeds with
a null address, whose table entry keeps looking unused. On every other path the two accounts agree.
-/

namespace WLManager.WLConsumer

open Transition

/-- The acquisitions not yet released are exactly those the in-use entries record. -/
def Balanced (c : WLConsumer) : Prop := c.acquired = c.recorded

/-- A call that does not return `OK` leaves the table and the acquisitions as they were. -/
def ErrorKeeps (c : WLConsumer) (a : Call) : Prop :=
  ∀ status c', c.call a = some (status, c') → status ≠ .OK →
    c'.mAcquiredBuffers = c.mAcquiredBuffers ∧ c'.acquired = c.acquired

/-- A lock is only attempted while the table has a free entry. -/
def FreeEntryForLock (c : WLConsumer) : Call → Prop
  | .lockNextBuffer _ _ => c.HasFreeEntry
  | .unlockBuffer _ _ => True

/-- Once an acquire has succeeded, the CPU lock succeeds too and hands out an address. -/
def LocksWhatItAcquires : Call → Prop
  | .lockNextBuffer (some _) answers =>
    answers.acquireErr = .OK → answers.lockErr = .OK ∧ answers.bufferPointer ≠ kUnusedId
  | .lockNextBuffer none _ => True
  | .unlockBuffer _ _ => True

/-- The invariant of a run: the accounts agree and in-use entries name their buffers. -/
structure Tracked (c : WLConsumer) : Prop where
  balanced : c.Balanced
  named : c.EntriesNamed

theorem tracked_construct (maxLockedBuffers uninitialised : SizeT) :
    (construct maxLockedBuffers uninitialised).Tracked where
  balanced := (recorded_construct maxLockedBuffers uninitialised).symm
  named := entriesNamed_construct maxLockedBuffers uninitialised

/-- An early return between the acquire and the record loses the acquisition. -/
theorem not_balanced_acquireBufferLocked {c : WLConsumer} (h : c.Balanced) (slot : ℤ)
    (buffer : GraphicBuffer) : ¬ (c.acquireBufferLocked slot buffer).Balanced := by
  intro hleak
  have hcons : (slot, buffer) ::ₘ c.acquired = c.acquired := hleak.trans h.symm
  exact (Multiset.lt_cons_self _ _).ne' hcons

/-- A successful lock keeps the accounts in agreement exactly when its address is not null. -/
theorem balanced_locked_iff {c : WLConsumer} (h : c.Balanced) (hfree : c.HasFreeEntry)
    (answers : LockAnswers) :
    (c.locked answers).Balanced ↔ answers.bufferPointer ≠ kUnusedId := by
  have hacquired : (c.locked answers).acquired =
      (answers.item.mSlot, answers.buffer) ::ₘ c.recorded := by
    change _ ::ₘ c.acquired = _
    rw [h]
  rw [Balanced, hacquired, recorded_locked hfree]
  by_cases hnull : answers.bufferPointer = kUnusedId
  · simp [hnull, (Multiset.lt_cons_self _ _).ne']
  · simp [hnull, add_comm c.recorded, Multiset.singleton_add]

theorem balanced_unlocked {c : WLConsumer} (h : c.Balanced) {id : ℕ} {ab : AcquiredBuffer}
    {buffer : GraphicBuffer} (hid : id ≠ kUnusedId)
    (hentry : c.mAcquiredBuffers[c.findAcquiredBufferLocked id]? = some ab)
    (hbuffer : ab.mGraphicBuffer = some buffer) :
    (c.unlocked (c.findAcquiredBufferLocked id) ab.mSlot buffer).Balanced := by
  rw [Balanced, recorded_unlocked hid hentry hbuffer, ← h]
  rfl

theorem balanced_call_unlockBuffer {c c' : WLConsumer} (h : c.Balanced)
    {nativeBuffer : LockedBuffer} {answers : UnlockAnswers} {status : Status}
    (hcall : c.call (.unlockBuffer nativeBuffer answers) = some (status, c')) :
    c'.Balanced ∧ (status ≠ .OK → c' = c) := by
  rcases call_cases hcall with ⟨-, rfl⟩ | ⟨_, _, ha, -⟩ | ⟨_, _, ha, -⟩ |
    ⟨_, _, ab, buffer, ha, hid, hentry, hbuffer, -, rfl, rfl⟩
  · exact ⟨h, fun _ ↦ rfl⟩
  · cases ha
  · cases ha
  · exact ⟨balanced_unlocked h hid hentry hbuffer, fun hne ↦ absurd rfl hne⟩

/-- One call, in a state where the accounts agree and a lock has a free entry: they still agree
afterwards, with errors changing nothing, exactly when an acquired buffer gets locked. -/
theorem balanced_call_iff {c : WLConsumer} {a : Call} (h : c.Balanced)
    (hfree : c.FreeEntryForLock a) :
    ((∀ c', c.step a = some c' → c'.Balanced) ∧ c.ErrorKeeps a) ↔ LocksWhatItAcquires a := by
  cases a with
  | unlockBuffer nativeBuffer answers =>
    refine iff_of_true ⟨fun c' hstep ↦ ?_, fun status c' hcall hne ↦ ?_⟩ trivial
    · obtain ⟨⟨status, c''⟩, hcall, rfl⟩ := Option.map_eq_some_iff.mp hstep
      exact (balanced_call_unlockBuffer h hcall).1
    · rw [(balanced_call_unlockBuffer h hcall).2 hne]
      exact ⟨rfl, rfl⟩
  | lockNextBuffer nativeBuffer answers =>
    cases nativeBuffer with
    | none =>
      refine iff_of_true ⟨fun c' hstep ↦ ?_, fun status c' hcall _ ↦ ?_⟩ trivial
      · cases hstep
        exact h
      · cases hcall
        exact ⟨rfl, rfl⟩
    | some outBuffer =>
      by_cases hacquire : answers.acquireErr = .OK
      · by_cases hlock : answers.lockErr = .OK
        · -- the buffer is recorded, under an address that may be null
          have hreturn := lockNextBuffer_locked c outBuffer hacquire hlock hfree
          simp only [LocksWhatItAcquires, hacquire, hlock, true_implies, true_and]
          rw [← balanced_locked_iff h hfree answers]
          constructor
          · intro hgood
            exact hgood.1 _ (by rw [step, call, hreturn]; rfl)
          · intro hbalanced
            refine ⟨fun c' hstep ↦ ?_, fun status c' hcall hne ↦ ?_⟩
            · rw [step, call, hreturn] at hstep
              cases hstep
              exact hbalanced
            · rw [call, hreturn] at hcall
              cases hcall
              exact absurd rfl hne
        · -- the early return: the acquisition stays behind
          have hreturn := lockNextBuffer_lock_failed c outBuffer hacquire hlock
          refine iff_of_false (fun hgood ↦ ?_) (fun hlocks ↦ hlock (hlocks hacquire).1)
          refine not_balanced_acquireBufferLocked h answers.item.mSlot answers.buffer ?_
          exact hgood.1 _ (by rw [step, call, hreturn]; rfl)
      · obtain ⟨status, -, hreturn⟩ := lockNextBuffer_acquire_failed c outBuffer hacquire
        refine iff_of_true ⟨fun c' hstep ↦ ?_, fun status' c' hcall _ ↦ ?_⟩
          (fun hok ↦ absurd hok hacquire)
        · rw [step, call, hreturn] at hstep
          cases hstep
          exact h
        · rw [call, hreturn] at hcall
          cases hcall
          exact ⟨rfl, rfl⟩

theorem tracked_step {c c' : WLConsumer} {a : Call} (h : c.Tracked)
    (hfree : c.FreeEntryForLock a) (hlocks : LocksWhatItAcquires a) (hstep : c.step a = some c') :
    c'.Tracked := by
  obtain ⟨⟨status, c''⟩, hcall, rfl⟩ := Option.map_eq_some_iff.mp hstep
  exact ⟨((balanced_call_iff h.balanced hfree).mpr hlocks).1 _ hstep,
    entriesNamed_call h.named hcall⟩

/-- With a free entry at hand every call returns. -/
theorem step_isSome {c : WLConsumer} {a : Call} (hnamed : c.EntriesNamed)
    (hfree : c.FreeEntryForLock a) : ∃ c', c.step a = some c' := by
  rw [← Option.isSome_iff_exists, step, Option.isSome_map]
  cases a with
  | unlockBuffer nativeBuffer answers => exact call_unlockBuffer_isSome hnamed _ _
  | lockNextBuffer nativeBuffer answers =>
    rw [call, Option.isSome_map]
    cases nativeBuffer with
    | none => rfl
    | some outBuffer =>
      by_cases hacquire : answers.acquireErr = .OK
      · by_cases hlock : answers.lockErr = .OK
        · rw [lockNextBuffer_locked c outBuffer hacquire hlock hfree]
          rfl
        · rw [lockNextBuffer_lock_failed c outBuffer hacquire hlock]
          rfl
      · obtain ⟨status, -, hreturn⟩ := lockNextBuffer_acquire_failed c outBuffer hacquire
        rw [hreturn]
        rfl

/-- No error path leaks an acquired buffer exactly in the runs in which every acquired buffer is
also locked, at an address that is not null. -/
theorem no_leak_iff (maxLockedBuffers uninitialised : SizeT) (calls : List Call)
    (hfree : StepsAll step FreeEntryForLock (construct maxLockedBuffers uninitialised) calls) :
    (StatesAll step Balanced (construct maxLockedBuffers uninitialised) calls ∧
      StepsAll step ErrorKeeps (construct maxLockedBuffers uninitialised) calls) ↔
    ∀ a ∈ calls, LocksWhatItAcquires a := by
  have hinit := tracked_construct maxLockedBuffers uninitialised
  have hcall : ∀ c a, Tracked c → FreeEntryForLock c a →
      (((∀ c', step c a = some c' → Balanced c') ∧ ErrorKeeps c a) ↔ LocksWhatItAcquires a) :=
    fun c a h hallowed ↦ balanced_call_iff h.balanced hallowed
  have hkeep : ∀ c a c', Tracked c → FreeEntryForLock c a → LocksWhatItAcquires a →
      step c a = some c' → Tracked c' :=
    fun c a c' h hallowed hlocks hstep ↦ tracked_step h hallowed hlocks hstep
  have hreturns : ∀ c a, Tracked c → FreeEntryForLock c a → LocksWhatItAcquires a →
      ∃ c', step c a = some c' ∧ Tracked c' := by
    intro c a h hallowed hlocks
    obtain ⟨c', hstep⟩ := step_isSome h.named hallowed
    exact ⟨c', hstep, tracked_step h hallowed hlocks hstep⟩
  rw [statesAll_and_stepsAll_iff hcall hkeep hinit hinit.balanced hfree]
  exact stepsAll_iff_forall_mem hreturns hinit hfree

/-- Locking and unlocking one buffer is such a run. -/
theorem no_leak_lock_unlock :
    let calls : List Call :=
      [.lockNextBuffer (some .empty) (.onePixel 0 .OK 64),
        .unlockBuffer (filledBuffer (.onePixel 0 .OK 64)) ⟨.OK, -1⟩]
    StatesAll step Balanced (construct 1 0) calls ∧
      StepsAll step ErrorKeeps (construct 1 0) calls := by
  intro calls
  have hfree : StepsAll step FreeEntryForLock (construct 1 0) calls :=
    ⟨⟨.unused, by decide, rfl⟩, fun _ _ ↦ ⟨trivial, fun _ _ ↦ trivial⟩⟩
  refine (no_leak_iff 1 0 calls hfree).mpr ?_
  simp [calls, LocksWhatItAcquires, LockAnswers.onePixel, kUnusedId]

/-- One failed `lockAsync` is enough for a leak, although the table had a free entry. -/
theorem failed_lockAsync_leaks :
    let calls : List Call := [.lockNextBuffer (some .empty) (.onePixel 0 (.error (-22)) 0)]
    StepsAll step FreeEntryForLock (construct 1 0) calls ∧
      ¬ StatesAll step Balanced (construct 1 0) calls := by
  intro calls
  refine ⟨⟨⟨.unused, by decide, rfl⟩, fun _ _ ↦ trivial⟩, fun hall ↦ ?_⟩
  have hleak : ((0, .onePixel 0) ::ₘ 0 : Multiset (ℤ × GraphicBuffer)) = 0 :=
    hall.2 ((construct 1 0).acquireBufferLocked 0 (.onePixel 0)) rfl
  exact Multiset.cons_ne_zero hleak

end WLManager.WLConsumer
