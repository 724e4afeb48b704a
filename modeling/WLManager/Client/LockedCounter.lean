import WLManager.Client.LockedTable

/-!
# The counter of locked buffers and the bound of the table

`mCurrentLockedBuffers` should count the entries in use and a lock with no free entry should be
refused. The constructor leaves the counter uninitialised, a lock at the null address is counted
but looks unused, and nothing but an assertion stops a lock from writing behind the table. A run
in which none of the three happens keeps the counter exact and inside the table, and only such a
run does.
-/

namespace WLManager.WLConsumer

open Transition

/-- The counter is the number of entries in use and stays within the table. -/
def CounterExact (c : WLConsumer) : Prop :=
  c.mCurrentLockedBuffers.toNat = c.inUseCount ∧
    c.mCurrentLockedBuffers.toNat ≤ c.mMaxLockedBuffers.toNat

/-- A lock made while every entry is in use returns an error and keeps the table. -/
def FullRefused (c : WLConsumer) : Call → Prop
  | .lockNextBuffer nativeBuffer answers =>
    ¬ c.HasFreeEntry → ∃ status c',
      c.call (.lockNextBuffer nativeBuffer answers) = some (status, c') ∧ status ≠ .OK ∧
        c'.mAcquiredBuffers = c.mAcquiredBuffers
  | .unlockBuffer _ _ => True

/-- A buffer that gets acquired and locked has an address and finds a free entry. -/
def RoomForLock (c : WLConsumer) : Call → Prop
  | .lockNextBuffer (some _) answers =>
    answers.acquireErr = .OK → answers.lockErr = .OK →
      answers.bufferPointer ≠ kUnusedId ∧ c.HasFreeEntry
  | .lockNextBuffer none _ => True
  | .unlockBuffer _ _ => True

/-- The bound on the counter follows from the table. -/
theorem counterExact_iff {c : WLConsumer} :
    c.CounterExact ↔ c.mCurrentLockedBuffers.toNat = c.inUseCount := by
  refine and_iff_left_of_imp fun h ↦ ?_
  rw [h]
  exact c.inUseCount_le

theorem counterExact_construct_iff (maxLockedBuffers uninitialised : SizeT) :
    (construct maxLockedBuffers uninitialised).CounterExact ↔ uninitialised = 0 := by
  rw [counterExact_iff, inUseCount_construct]
  exact BitVec.toNat_inj (y := 0)

/-- A recorded lock counts up, without wrapping, and the table follows unless the address is
null. -/
theorem counterExact_locked_iff {c : WLConsumer} (h : c.CounterExact) (hfree : c.HasFreeEntry)
    (answers : LockAnswers) :
    (c.locked answers).CounterExact ↔ answers.bufferPointer ≠ kUnusedId := by
  have hle := c.inUseCount_le
  have hroom : c.inUseCount ≠ c.mMaxLockedBuffers.toNat :=
    fun hfull ↦ not_hasFreeEntry_iff.mpr hfull hfree
  have hmax := c.mMaxLockedBuffers.isLt
  have hcounter : (c.locked answers).mCurrentLockedBuffers.toNat = c.inUseCount + 1 := by
    change (c.mCurrentLockedBuffers + 1).toNat = _
    have hone : (1 : SizeT).toNat = 1 := rfl
    rw [BitVec.toNat_add, counterExact_iff.mp h, hone]
    omega
  rw [counterExact_iff, hcounter, inUseCount_locked hfree]
  by_cases hnull : answers.bufferPointer = kUnusedId
  · simp [hnull]
  · simp [hnull]

theorem counterExact_unlocked {c : WLConsumer} (h : c.CounterExact) {id : ℕ} {ab : AcquiredBuffer}
    {slot : ℤ} {buffer : GraphicBuffer} (hid : id ≠ kUnusedId)
    (hentry : c.mAcquiredBuffers[c.findAcquiredBufferLocked id]? = some ab) :
    (c.unlocked (c.findAcquiredBufferLocked id) slot buffer).CounterExact := by
  have hcount :
      (c.unlocked (c.findAcquiredBufferLocked id) slot buffer).inUseCount + 1 = c.inUseCount :=
    inUseCount_unlocked hid hentry
  have hlt := c.mCurrentLockedBuffers.isLt
  have hexact := counterExact_iff.mp h
  rw [counterExact_iff]
  change (c.mCurrentLockedBuffers - 1).toNat = _
  have hone : (1 : SizeT).toNat = 1 := rfl
  rw [BitVec.toNat_sub, hone]
  omega

/-- One call, in a state where the counter is exact: it stays exact, and a full table refuses a
lock, exactly when a buffer that gets locked has an address and a free entry. -/
theorem counterExact_call_iff {c : WLConsumer} {a : Call} (h : c.CounterExact) :
    ((∀ c', c.step a = some c' → c'.CounterExact) ∧ c.FullRefused a) ↔ c.RoomForLock a := by
  cases a with
  | unlockBuffer nativeBuffer answers =>
    refine iff_of_true ⟨fun c' hstep ↦ ?_, trivial⟩ trivial
    obtain ⟨⟨status, c''⟩, hcall, rfl⟩ := Option.map_eq_some_iff.mp hstep
    rcases call_cases hcall with ⟨-, rfl⟩ | ⟨_, _, ha, -⟩ | ⟨_, _, ha, -⟩ |
      ⟨_, _, ab, buffer, ha, hid, hentry, -, -, -, rfl⟩
    · exact h
    · cases ha
    · cases ha
    · exact counterExact_unlocked h hid hentry
  | lockNextBuffer nativeBuffer answers =>
    cases nativeBuffer with
    | none =>
      refine iff_of_true ⟨fun c' hstep ↦ ?_, fun _ ↦ ⟨_, _, rfl, Status.noConfusion, rfl⟩⟩ trivial
      cases hstep
      exact h
    | some outBuffer =>
      by_cases hacquire : answers.acquireErr = .OK
      · by_cases hlock : answers.lockErr = .OK
        · simp only [RoomForLock, hacquire, hlock, true_implies]
          by_cases hfree : c.HasFreeEntry
          · have hreturn := lockNextBuffer_locked c outBuffer hacquire hlock hfree
            simp only [FullRefused, hfree, not_true_eq_false, false_implies, and_true]
            rw [← counterExact_locked_iff h hfree answers, step, call, hreturn]
            simp
          · -- every entry is in use and the call has no result
            have hreturn := lockNextBuffer_overflow c outBuffer hacquire hlock hfree
            refine iff_of_false (fun hgood ↦ ?_) (fun hroom ↦ hfree hroom.2)
            obtain ⟨status, c', hcall, -⟩ := hgood.2 hfree
            rw [call, hreturn] at hcall
            cases hcall
        · have hreturn := lockNextBuffer_lock_failed c outBuffer hacquire hlock
          refine iff_of_true ⟨fun c' hstep ↦ ?_, fun _ ↦ ?_⟩ (fun _ hok ↦ absurd hok hlock)
          · rw [step, call, hreturn] at hstep
            cases hstep
            exact h
          · exact ⟨answers.lockErr, c.acquireBufferLocked answers.item.mSlot answers.buffer,
              by rw [call, hreturn]; rfl, hlock, rfl⟩
      · obtain ⟨status, hstatus, hreturn⟩ := lockNextBuffer_acquire_failed c outBuffer hacquire
        refine iff_of_true ⟨fun c' hstep ↦ ?_, fun _ ↦ ?_⟩ (fun hok ↦ absurd hok hacquire)
        · rw [step, call, hreturn] at hstep
          cases hstep
          exact h
        · exact ⟨status, c, by rw [call, hreturn]; rfl, hstatus, rfl⟩

/-- The counter is exact in every state, and a full table refuses every lock, exactly in the runs
that start with a zero in the counter's memory and in which every buffer that gets acquired and
locked has an address and finds a free entry. -/
theorem counterExact_iff_room (maxLockedBuffers uninitialised : SizeT) (calls : List Call) :
    (StatesAll step CounterExact (construct maxLockedBuffers uninitialised) calls ∧
      StepsAll step FullRefused (construct maxLockedBuffers uninitialised) calls) ↔
    uninitialised = 0 ∧
      StepsAll step RoomForLock (construct maxLockedBuffers uninitialised) calls := by
  have hfirst : StatesAll step CounterExact (construct maxLockedBuffers uninitialised) calls →
      uninitialised = 0 := fun h ↦
    (counterExact_construct_iff maxLockedBuffers uninitialised).mp (statesAll_iff.mp h).1
  rw [← and_iff_right_of_imp hfirst, and_assoc]
  apply and_congr_right
  intro hzero
  have hinit := (counterExact_construct_iff maxLockedBuffers uninitialised).mpr hzero
  have hcall : ∀ c a, CounterExact c → True →
      (((∀ c', step c a = some c' → CounterExact c') ∧ FullRefused c a) ↔ RoomForLock c a) :=
    fun c a h _ ↦ counterExact_call_iff h
  have hkeep : ∀ c a c', CounterExact c → True → RoomForLock c a → step c a = some c' →
      CounterExact c' :=
    fun c a c' h _ hroom hstep ↦ ((counterExact_call_iff h).mpr hroom).1 c' hstep
  exact statesAll_and_stepsAll_iff hcall hkeep hinit hinit stepsAll_true

/-- An uninitialised counter is wrong before the first call, and with one entry the second of two
successful locks is not refused but has no result at all. -/
theorem counter_uninitialised_and_table_overflow :
    ¬ StatesAll step CounterExact (construct 1 7) [] ∧
      ¬ StepsAll step FullRefused (construct 1 0)
        [.lockNextBuffer (some .empty) (.onePixel 0 .OK 64),
          .lockNextBuffer (some .empty) (.onePixel 1 .OK 128)] := by
  constructor
  · intro h
    have hcounter : (7 : ℕ) = 0 := h.1
    cases hcounter
  · intro h
    have hfull : ¬ ((construct 1 0).locked (.onePixel 0 .OK 64)).HasFreeEntry :=
      not_hasFreeEntry_iff.mpr rfl
    obtain ⟨status, c', hcall, -⟩ := (h.2 ((construct 1 0).locked (.onePixel 0 .OK 64)) rfl).1 hfull
    rw [call, lockNextBuffer_overflow _ _ rfl rfl hfull] at hcall
    cases hcall

end WLManager.WLConsumer
