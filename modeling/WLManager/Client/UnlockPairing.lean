import WLManager.Client.LockedTable
import WLManager.Collection.LoanBook

/-!
# Locks and the unlocks that undo them

A user of the consumer sees locks that return an address and unlocks that take one. A session runs
the consumer beside a book in which every lock that returned `OK` stands as a loan: what it
acquired, under the address it returned. An unlock that returned `OK` settles its address. The
table of the consumer knows neither the order of the locks nor their number, only the addresses,
and it uses the null address to mark a free entry. As long as the addresses in use are distinct and
not null, and no lock is attempted on a full table, it holds exactly the loans still out.
-/

namespace WLManager

/-- The acquisition an in-use entry records, with the address it is recorded under. -/
def AcquiredBuffer.loan (ab : AcquiredBuffer) : Option (ℕ × ℤ × GraphicBuffer) :=
  ab.held.map fun acquisition ↦ (ab.mLockedBufferId, acquisition)

namespace WLConsumer

open Transition

/-- The consumer, what its unlocks have given back to the buffer queue so far, newest first, and
the book of its locks. -/
structure Session where
  consumer : WLConsumer
  releases : List (ℤ × GraphicBuffer)
  book : LoanBook ℕ (ℤ × GraphicBuffer)

namespace Session

def start (maxLockedBuffers uninitialised : SizeT) : Session where
  consumer := construct maxLockedBuffers uninitialised
  releases := []
  book := .empty

/-- After a lock: if it returned `OK`, its acquisition is out under the address it returned. -/
def afterLock (s : Session) (answers : LockAnswers) (r : LockReturn) : Session where
  consumer := r.consumer
  releases := s.releases
  book :=
    match r.status, r.nativeBuffer with
    | .OK, some nativeBuffer =>
      s.book.lend nativeBuffer.data (answers.item.mSlot, answers.buffer)
    | _, _ => s.book

/-- After an unlock: if it returned `OK`, its address is settled. -/
def afterUnlock (s : Session) (nativeBuffer : LockedBuffer) (r : UnlockReturn) : Session where
  consumer := r.consumer
  releases := (r.released.map fun (slot, buffer, _) ↦ (slot, buffer)).toList ++ s.releases
  book := if r.status = .OK then s.book.settle nativeBuffer.data else s.book

def step (s : Session) : Call → Option Session
  | .lockNextBuffer nativeBuffer answers =>
    (s.consumer.lockNextBuffer nativeBuffer answers).map (s.afterLock answers)
  | .unlockBuffer nativeBuffer answers =>
    (s.consumer.unlockBuffer nativeBuffer answers).map (s.afterUnlock nativeBuffer)

/-- The book only watches: the consumer of a session makes the steps it makes without one. -/
theorem map_consumer_step (s : Session) (a : Call) :
    (s.step a).map consumer = s.consumer.step a := by
  cases a with
  | lockNextBuffer nativeBuffer answers =>
    simp only [step, WLConsumer.step, call, Option.map_map]
    rfl
  | unlockBuffer nativeBuffer answers =>
    simp only [step, WLConsumer.step, call, Option.map_map]
    rfl

theorem afterLock_of_error (s : Session) (answers : LockAnswers) {r : LockReturn}
    (h : r.status ≠ .OK) : s.afterLock answers r = ⟨r.consumer, s.releases, s.book⟩ := by
  unfold afterLock
  split
  · contradiction
  · rfl

/-- A lock is only attempted while fewer buffers are locked than the table has entries. -/
def FewerLocked (s : Session) : Call → Prop
  | .lockNextBuffer _ _ => s.book.outstanding.length < s.consumer.mMaxLockedBuffers.toNat
  | .unlockBuffer _ _ => True

/-- A buffer that gets locked has an address of its own among the locked ones, and not null. -/
def AddressesApart (s : Session) : Call → Prop
  | .lockNextBuffer (some _) answers =>
    answers.acquireErr = .OK → answers.lockErr = .OK →
      answers.bufferPointer ≠ 0 ∧
        ∀ loan ∈ s.book.outstanding, loan.key ≠ answers.bufferPointer
  | .lockNextBuffer none _ => True
  | .unlockBuffer _ _ => True

/-- From one table to the other exactly the entry that records a loan has been freed. -/
def FreesEntryOf (loan : Loan ℕ (ℤ × GraphicBuffer)) (c c' : WLConsumer) : Prop :=
  ∃ index, c.mAcquiredBuffers[index]? = some ⟨loan.item.1, some loan.item.2, loan.key⟩ ∧
    c'.mAcquiredBuffers = c.mAcquiredBuffers.set index .unused

/-- The call returns. A lock the outside agrees to acquires its buffer and returns `OK`. An unlock
of an outstanding lock returns what the buffer's own unlock answers; if that is `OK`, it has taken
what this lock acquired out of what the buffer queue counts, and freed the entry of this lock
alone; any other unlock changes nothing, and that of an address without an outstanding lock returns
`BAD_VALUE`. -/
def Paired (s : Session) : Call → Prop
  | .lockNextBuffer nativeBuffer answers =>
    ∃ r, s.consumer.lockNextBuffer nativeBuffer answers = some r ∧
      (nativeBuffer.isSome = true → answers.acquireErr = .OK → answers.lockErr = .OK →
        r.status = .OK ∧ r.nativeBuffer.map LockedBuffer.data = some answers.bufferPointer ∧
        r.consumer.acquired = (answers.item.mSlot, answers.buffer) ::ₘ s.consumer.acquired)
  | .unlockBuffer nativeBuffer answers =>
    ∃ r, s.consumer.unlockBuffer nativeBuffer answers = some r ∧
      (r.status = .OK → ∃ loan fence, s.book.under nativeBuffer.data = [loan] ∧
        r.released = some (loan.item.1, loan.item.2, fence) ∧
        loan.item ∈ s.consumer.acquired ∧
        r.consumer.acquired = s.consumer.acquired.erase loan.item ∧
        FreesEntryOf loan s.consumer r.consumer) ∧
      (r.status ≠ .OK → r.released = none ∧ r.consumer = s.consumer) ∧
      (s.book.under nativeBuffer.data ≠ [] → r.status = answers.unlockErr) ∧
      (s.book.under nativeBuffer.data = [] → r = ⟨.BAD_VALUE, none, s.consumer⟩)

/-- What the unlocks have given back are the acquisitions of distinct locks, none of which is
still outstanding. -/
def ReleasedOnce (s : Session) : Prop :=
  s.releases = s.book.returned.map Loan.item ∧ (s.book.returned.map Loan.serial).Nodup ∧
    ∀ loan ∈ s.book.returned, ∀ loan' ∈ s.book.outstanding, loan.serial ≠ loan'.serial

/-- The invariant of a session: the in-use entries are the loans still out, whose addresses are
distinct and not null, and the buffer queue counts every one of them. -/
structure Matched (s : Session) : Prop where
  apart : s.book.Apart
  nonnull : ∀ loan ∈ s.book.outstanding, loan.key ≠ kUnusedId
  table : SlotTable.contents AcquiredBuffer.loan s.consumer.mAcquiredBuffers =
    ↑(s.book.outstanding.map fun loan ↦ (loan.key, loan.item))
  named : s.consumer.EntriesNamed
  counted : ↑(s.book.outstanding.map Loan.item) ≤ s.consumer.acquired
  released : s.releases = s.book.returned.map Loan.item

theorem matched_start (maxLockedBuffers uninitialised : SizeT) :
    (start maxLockedBuffers uninitialised).Matched where
  apart := List.nodup_nil
  nonnull := List.forall_mem_nil _
  table := SlotTable.contents_replicate_none _ rfl _
  named := entriesNamed_construct maxLockedBuffers uninitialised
  counted := Multiset.zero_le _
  released := rfl

/-! ## The table and the book -/

theorem loan_eq_some_iff {ab : AcquiredBuffer} {key : ℕ} {item : ℤ × GraphicBuffer} :
    ab.loan = some (key, item) ↔ key ≠ kUnusedId ∧ ab = ⟨item.1, some item.2, key⟩ := by
  obtain ⟨slot, buffer, id⟩ := ab
  by_cases hid : id = kUnusedId
  · refine iff_of_false ?_ ?_
    · simp [AcquiredBuffer.loan, AcquiredBuffer.held, AcquiredBuffer.inUse, hid]
    · rintro ⟨hkey, heq⟩
      exact hkey ((congrArg AcquiredBuffer.mLockedBufferId heq).symm.trans hid)
  · have hloan : AcquiredBuffer.loan ⟨slot, buffer, id⟩ = buffer.map fun b ↦ (id, slot, b) := by
      have hused : AcquiredBuffer.inUse ⟨slot, buffer, id⟩ = true := by
        simpa [AcquiredBuffer.inUse] using hid
      rw [AcquiredBuffer.loan, AcquiredBuffer.held, if_pos hused, Option.map_map]
      rfl
    rw [hloan, Option.map_eq_some_iff]
    constructor
    · rintro ⟨b, rfl, heq⟩
      cases heq
      exact ⟨hid, rfl⟩
    · rintro ⟨-, heq⟩
      cases heq
      exact ⟨item.2, rfl, rfl⟩

section Matched

variable {s : Session} (h : s.Matched)

include h

theorem Matched.outstanding_of_mem {ab : AcquiredBuffer} {key : ℕ} {item : ℤ × GraphicBuffer}
    (hab : ab.loan = some (key, item)) (hmem : ab ∈ s.consumer.mAcquiredBuffers) :
    ∃ loan ∈ s.book.outstanding, loan.key = key ∧ loan.item = item := by
  have hin := (SlotTable.mem_contents AcquiredBuffer.loan).mpr ⟨ab, hmem, hab⟩
  rw [h.table, Multiset.mem_coe, List.mem_map] at hin
  obtain ⟨loan, hloan, heq⟩ := hin
  cases heq
  exact ⟨loan, hloan, rfl, rfl⟩

/-- The entry a search for a non-null address ends at records a loan under this address. -/
theorem Matched.outstanding_of_entry {key : ℕ} {ab : AcquiredBuffer} (hkey : key ≠ kUnusedId)
    (hentry : s.consumer.mAcquiredBuffers[s.consumer.findAcquiredBufferLocked key]? = some ab) :
    ∃ loan ∈ s.book.outstanding, loan.key = key ∧ ab = ⟨loan.item.1, some loan.item.2, key⟩ := by
  have hmem := List.mem_of_getElem? hentry
  have hused := h.named ab hmem (inUse_find hkey hentry)
  obtain ⟨buffer, hbuffer⟩ := Option.isSome_iff_exists.mp hused
  have hab : ab = ⟨ab.mSlot, some buffer, key⟩ := by
    rw [← hbuffer, ← mLockedBufferId_find hentry]
  have hrecorded : ab.loan = some (key, ab.mSlot, buffer) := loan_eq_some_iff.mpr ⟨hkey, hab⟩
  obtain ⟨loan, hloan, hloanKey, hitem⟩ := h.outstanding_of_mem hrecorded hmem
  refine ⟨loan, hloan, hloanKey, ?_⟩
  rw [hitem]
  exact hab

theorem Matched.entry_of_outstanding {loan : Loan ℕ (ℤ × GraphicBuffer)}
    (hloan : loan ∈ s.book.outstanding) :
    s.consumer.mAcquiredBuffers[s.consumer.findAcquiredBufferLocked loan.key]? =
      some ⟨loan.item.1, some loan.item.2, loan.key⟩ := by
  have hin : (loan.key, loan.item) ∈
      SlotTable.contents AcquiredBuffer.loan s.consumer.mAcquiredBuffers := by
    rw [h.table, Multiset.mem_coe]
    exact List.mem_map_of_mem hloan
  obtain ⟨ab, hab, hloanOf⟩ := (SlotTable.mem_contents AcquiredBuffer.loan).mp hin
  obtain ⟨hkey, rfl⟩ := loan_eq_some_iff.mp hloanOf
  have hlt : s.consumer.findAcquiredBufferLocked loan.key <
      s.consumer.mAcquiredBuffers.length :=
    List.findIdx_lt_length.mpr ⟨_, hab, beq_self_eq_true _⟩
  have hentry := List.getElem?_eq_getElem hlt
  obtain ⟨other, hother, hotherKey, heq⟩ := h.outstanding_of_entry hkey hentry
  obtain rfl := List.inj_on_of_nodup_map h.apart hother hloan hotherKey
  rw [hentry, heq]

theorem Matched.unknown_of_under {key : ℕ} (hunder : s.book.under key = []) :
    key = kUnusedId ∨
      s.consumer.mAcquiredBuffers[s.consumer.findAcquiredBufferLocked key]? = none := by
  by_contra hknown
  rw [not_or] at hknown
  obtain ⟨hkey, hfound⟩ := hknown
  obtain ⟨ab, hentry⟩ := Option.ne_none_iff_exists'.mp hfound
  obtain ⟨loan, hloan, hloanKey, -⟩ := h.outstanding_of_entry hkey hentry
  exact LoanBook.under_eq_nil_iff.mp hunder loan hloan hloanKey

theorem Matched.hasFreeEntry
    (hfewer : s.book.outstanding.length < s.consumer.mMaxLockedBuffers.toNat) :
    s.consumer.HasFreeEntry := by
  by_contra hfull
  have hloan : ∀ ab ∈ s.consumer.mAcquiredBuffers,
      ab.inUse = true → (ab.loan).isSome = true := by
    intro ab hab hused
    rw [AcquiredBuffer.loan, Option.isSome_map, AcquiredBuffer.held, if_pos hused,
      Option.isSome_map]
    exact h.named ab hab hused
  have hcard := congrArg Multiset.card h.table
  rw [SlotTable.contents, Multiset.coe_card, Multiset.coe_card, List.length_map,
    List.length_filterMap_eq_countP] at hcard
  have hcount : s.consumer.inUseCount ≤ s.book.outstanding.length := by
    rw [← hcard]
    exact List.countP_mono_left hloan
  rw [not_hasFreeEntry_iff.mp hfull] at hcount
  exact hcount.not_gt hfewer

/-! ## What the calls do to a session -/

theorem Matched.locked {answers : LockAnswers} (hfree : s.consumer.HasFreeEntry)
    (hnull : answers.bufferPointer ≠ kUnusedId)
    (hnew : ∀ loan ∈ s.book.outstanding, loan.key ≠ answers.bufferPointer) :
    Matched ⟨s.consumer.locked answers, s.releases,
      s.book.lend answers.bufferPointer (answers.item.mSlot, answers.buffer)⟩ where
  apart := LoanBook.apart_lend_iff.mpr ⟨hnew, h.apart⟩
  nonnull := List.forall_mem_cons.mpr ⟨hnull, h.nonnull⟩
  table := by
    have hlt := find_unused_lt_length hfree
    have hunused : (s.consumer.mAcquiredBuffers[
        s.consumer.findAcquiredBufferLocked kUnusedId]).loan = none := by
      rw [AcquiredBuffer.loan, AcquiredBuffer.held, inUse_find_unused hlt]
      rfl
    have hrecorded : (recordedEntry answers (filledBuffer answers)).loan =
        some (answers.bufferPointer, answers.item.mSlot, answers.buffer) :=
      loan_eq_some_iff.mpr ⟨hnull, rfl⟩
    have hset := SlotTable.contents_set_of_free AcquiredBuffer.loan hlt hunused
      (recordedEntry answers (filledBuffer answers))
    rw [h.table, hrecorded, SlotTable.single_some, add_comm, Multiset.singleton_add] at hset
    exact hset
  named := h.named.locked answers
  counted := Multiset.cons_le_cons _ h.counted
  released := h.released

/-- An address settled by an unlock is out no more, in the table as in the book. -/
theorem Matched.unlocked {loan : Loan ℕ (ℤ × GraphicBuffer)} {key : ℕ}
    (hunder : s.book.under key = [loan]) :
    Matched ⟨s.consumer.unlocked (s.consumer.findAcquiredBufferLocked key) loan.item.1 loan.item.2,
      loan.item :: s.releases, s.book.settle key⟩ where
  apart := LoanBook.apart_settle h.apart key
  nonnull := fun other hother ↦ h.nonnull other (List.mem_of_mem_filter hother)
  table := by
    obtain ⟨hloan, rfl⟩ := LoanBook.mem_of_under_eq hunder
    obtain ⟨hlt, hentry⟩ := List.getElem?_eq_some_iff.mp (h.entry_of_outstanding hloan)
    have hold : (s.consumer.mAcquiredBuffers[
        s.consumer.findAcquiredBufferLocked loan.key]).loan = some (loan.key, loan.item) := by
      rw [hentry]
      exact loan_eq_some_iff.mpr ⟨h.nonnull loan hloan, rfl⟩
    have hunused : AcquiredBuffer.unused.loan = none := rfl
    have hset := SlotTable.contents_set_free AcquiredBuffer.loan hlt hold hunused
    have hperm := Multiset.coe_eq_coe.mpr ((LoanBook.outstanding_perm_settle hunder).map
      fun loan ↦ (loan.key, loan.item))
    rw [h.table, hperm, List.map_cons, ← Multiset.cons_coe, Multiset.erase_cons_head] at hset
    exact hset
  named := h.named.unlocked _ loan.item.1 loan.item.2
  counted := by
    have hperm := Multiset.coe_eq_coe.mpr
      ((LoanBook.outstanding_perm_settle hunder).map Loan.item)
    have hcounted := Multiset.erase_le_erase loan.item h.counted
    rw [hperm, List.map_cons, ← Multiset.cons_coe, Multiset.erase_cons_head] at hcounted
    exact hcounted
  released := by
    change _ = (s.book.under key ++ s.book.returned).map Loan.item
    rw [hunder, h.released]
    rfl

theorem Matched.unlockBuffer_eq {loan : Loan ℕ (ℤ × GraphicBuffer)} {nativeBuffer : LockedBuffer}
    (hunder : s.book.under nativeBuffer.data = [loan]) (answers : UnlockAnswers) :
    s.consumer.unlockBuffer nativeBuffer answers =
      if answers.unlockErr ≠ .OK then some ⟨answers.unlockErr, none, s.consumer⟩
      else some ⟨.OK,
        some (loan.item.1, loan.item.2,
          if 0 ≤ answers.fenceFd then some answers.fenceFd else none),
        s.consumer.unlocked (s.consumer.findAcquiredBufferLocked nativeBuffer.data)
          loan.item.1 loan.item.2⟩ := by
  obtain ⟨hloan, hkey⟩ := LoanBook.mem_of_under_eq hunder
  have hentry := h.entry_of_outstanding hloan
  have hid := h.nonnull loan hloan
  rw [hkey] at hentry hid
  exact unlockBuffer_known s.consumer hid hentry rfl

theorem Matched.unlockBuffer_unknown {nativeBuffer : LockedBuffer}
    (hunder : s.book.under nativeBuffer.data = []) (answers : UnlockAnswers) :
    s.consumer.unlockBuffer nativeBuffer answers = some ⟨.BAD_VALUE, none, s.consumer⟩ :=
  WLConsumer.unlockBuffer_unknown s.consumer nativeBuffer answers (h.unknown_of_under hunder)

theorem Matched.lockNextBuffer {nativeBuffer : Option LockedBuffer} {answers : LockAnswers}
    (hfewer : s.FewerLocked (.lockNextBuffer nativeBuffer answers))
    (hapart : s.AddressesApart (.lockNextBuffer nativeBuffer answers)) :
    s.Paired (.lockNextBuffer nativeBuffer answers) ∧
      ∀ r, s.consumer.lockNextBuffer nativeBuffer answers = some r →
        (s.afterLock answers r).Matched := by
  cases nativeBuffer with
  | none =>
    refine ⟨⟨_, rfl, fun hsome ↦ absurd hsome Bool.false_ne_true⟩, ?_⟩
    rintro r ⟨⟩
    exact h
  | some outBuffer =>
    by_cases hacquire : answers.acquireErr = .OK
    · by_cases hlock : answers.lockErr = .OK
      · have hfree := h.hasFreeEntry hfewer
        have hreturn := lockNextBuffer_locked s.consumer outBuffer hacquire hlock hfree
        obtain ⟨hnull, hnew⟩ := hapart hacquire hlock
        refine ⟨⟨_, hreturn, fun _ _ _ ↦ ⟨rfl, rfl, rfl⟩⟩, fun r hr ↦ ?_⟩
        cases hreturn.symm.trans hr
        exact h.locked hfree hnull hnew
      · -- the acquisition stays behind, counted by the buffer queue but by nothing else
        have hreturn := lockNextBuffer_lock_failed s.consumer outBuffer hacquire hlock
        refine ⟨⟨_, hreturn, fun _ _ hok ↦ absurd hok hlock⟩, fun r hr ↦ ?_⟩
        cases hreturn.symm.trans hr
        rw [afterLock_of_error s answers hlock]
        exact { h with counted := h.counted.trans (Multiset.le_cons_self _ _) }
    · obtain ⟨status, hstatus, hreturn⟩ :=
        lockNextBuffer_acquire_failed s.consumer outBuffer hacquire
      refine ⟨⟨_, hreturn, fun _ hok _ ↦ absurd hok hacquire⟩, fun r hr ↦ ?_⟩
      cases hreturn.symm.trans hr
      rw [afterLock_of_error s answers hstatus]
      exact h

theorem Matched.unlockBuffer (nativeBuffer : LockedBuffer) (answers : UnlockAnswers) :
    s.Paired (.unlockBuffer nativeBuffer answers) ∧
      ∀ r, s.consumer.unlockBuffer nativeBuffer answers = some r →
        (s.afterUnlock nativeBuffer r).Matched := by
  rcases LoanBook.under_cases h.apart nativeBuffer.data with hnone | ⟨loan, hunder⟩
  · have hreturn := h.unlockBuffer_unknown hnone answers
    refine ⟨⟨_, hreturn, Status.noConfusion, fun _ ↦ ⟨rfl, rfl⟩, fun hsome ↦ absurd hnone hsome,
      fun _ ↦ rfl⟩, fun r hr ↦ ?_⟩
    cases hreturn.symm.trans hr
    exact h
  · have hreturn := h.unlockBuffer_eq hunder answers
    have hsome : s.book.under nativeBuffer.data ≠ [] := hunder ▸ List.cons_ne_nil loan []
    by_cases hunlock : answers.unlockErr = .OK
    · rw [if_neg (not_not_intro hunlock)] at hreturn
      refine ⟨⟨_, hreturn, fun _ ↦ ?_, fun herror ↦ absurd rfl herror, fun _ ↦ hunlock.symm,
        fun hnone ↦ absurd hnone hsome⟩, fun r hr ↦ ?_⟩
      · obtain ⟨hloan, hkey⟩ := LoanBook.mem_of_under_eq hunder
        refine ⟨loan, _, hunder, rfl, ?_, rfl, _, h.entry_of_outstanding hloan, ?_⟩
        · exact Multiset.mem_of_le h.counted (List.mem_map_of_mem hloan)
        · rw [hkey]
          rfl
      · cases hreturn.symm.trans hr
        exact h.unlocked hunder
    · rw [if_pos hunlock] at hreturn
      refine ⟨⟨_, hreturn, fun hok ↦ absurd hok hunlock, fun _ ↦ ⟨rfl, rfl⟩, fun _ ↦ rfl,
        fun hnone ↦ absurd hnone hsome⟩, fun r hr ↦ ?_⟩
      cases hreturn.symm.trans hr
      have hafter : s.afterUnlock nativeBuffer ⟨answers.unlockErr, none, s.consumer⟩ = s := by
        rw [afterUnlock, if_neg hunlock]
        rfl
      rw [hafter]
      exact h

theorem Matched.step {a : Call} (hallowed : s.FewerLocked a ∧ s.AddressesApart a) :
    s.Paired a ∧ ∀ t, s.step a = some t → t.Matched := by
  cases a with
  | lockNextBuffer nativeBuffer answers =>
    obtain ⟨hpaired, hmatched⟩ := h.lockNextBuffer hallowed.1 hallowed.2
    refine ⟨hpaired, fun t ht ↦ ?_⟩
    obtain ⟨r, hr, rfl⟩ := Option.map_eq_some_iff.mp ht
    exact hmatched r hr
  | unlockBuffer nativeBuffer answers =>
    obtain ⟨hpaired, hmatched⟩ := h.unlockBuffer nativeBuffer answers
    refine ⟨hpaired, fun t ht ↦ ?_⟩
    obtain ⟨r, hr, rfl⟩ := Option.map_eq_some_iff.mp ht
    exact hmatched r hr

theorem Matched.releasedOnce : s.ReleasedOnce :=
  ⟨h.released, s.book.returned_nodup, fun _ hloan _ hloan' ↦
    s.book.not_outstanding_of_returned hloan hloan'⟩

end Matched

/-- In every run that locks only into free entries and at distinct addresses that are not null,
every `OK` unlock gives back what the outstanding lock of its address acquired and frees the entry
of this lock alone, an outstanding lock is refused its unlock only by the buffer, no acquisition is
given back twice, and an address without an outstanding lock is refused. -/
theorem unlock_releases_matching_lock (maxLockedBuffers uninitialised : SizeT) (calls : List Call)
    (hfewer : StepsAll step FewerLocked (start maxLockedBuffers uninitialised) calls)
    (hapart : StepsAll step AddressesApart (start maxLockedBuffers uninitialised) calls) :
    StepsAll step Paired (start maxLockedBuffers uninitialised) calls ∧
      StatesAll step ReleasedOnce (start maxLockedBuffers uninitialised) calls := by
  have hallowed := stepsAll_and.mpr ⟨hfewer, hapart⟩
  have hinit := matched_start maxLockedBuffers uninitialised
  have hkeep : ∀ s a t, Matched s → FewerLocked s a ∧ AddressesApart s a → step s a = some t →
      Matched t := fun s a t h hadmitted ht ↦ (h.step hadmitted).2 t ht
  have hpaired : ∀ s a, Matched s → FewerLocked s a ∧ AddressesApart s a → Paired s a :=
    fun s a h hadmitted ↦ (h.step hadmitted).1
  constructor
  · exact stepsAll_of_invariant hpaired hkeep hinit hallowed
  · exact (statesAll_of_stepsAll hkeep hinit hallowed).mono fun s h ↦ h.releasedOnce

/-- Two buffers locked at a time and unlocked in the order they were locked. -/
theorem unlock_releases_overlapping_locks :
    let calls : List Call :=
      [.lockNextBuffer (some .empty) (.onePixel 0 .OK 64),
        .lockNextBuffer (some .empty) (.onePixel 1 .OK 128),
        .unlockBuffer (filledBuffer (.onePixel 0 .OK 64)) ⟨.OK, -1⟩,
        .unlockBuffer (filledBuffer (.onePixel 1 .OK 128)) ⟨.OK, -1⟩]
    StepsAll step Paired (start 2 0) calls ∧ StatesAll step ReleasedOnce (start 2 0) calls := by
  intro calls
  have hnull : (64 : ℕ) ≠ 0 ∧ (128 : ℕ) ≠ 0 := by decide
  refine unlock_releases_matching_lock 2 0 calls ⟨Nat.zero_lt_two, ?_⟩
    ⟨fun _ _ ↦ ⟨hnull.1, List.forall_mem_nil _⟩, ?_⟩
  · rintro _ ⟨⟩
    refine ⟨Nat.one_lt_two, ?_⟩
    rintro _ ⟨⟩
    exact ⟨trivial, fun _ _ ↦ ⟨trivial, fun _ _ ↦ trivial⟩⟩
  · have hnew : (64 : ℕ) ≠ 128 := by decide
    rintro _ ⟨⟩
    refine ⟨fun _ _ ↦ ⟨hnull.2, List.forall_mem_singleton.mpr hnew⟩, ?_⟩
    rintro _ ⟨⟩
    exact ⟨trivial, fun _ _ ↦ ⟨trivial, fun _ _ ↦ trivial⟩⟩

end Session

end WLConsumer

end WLManager
