import Mathlib.Data.Multiset.AddSub
import WLManager.Client.GraphicBuffer
import WLManager.Collection.SlotTable
import WLManager.Transition.Run

/-!
# The buffer consumer

`WLConsumer` acquires queued buffers, locks them for the CPU, pushes them to the window manager
and gives them back to the buffer queue. The answers of the buffer queue and of the graphics
allocator are inputs of each call. Beside the members of the class the state keeps the buffer
queue's own record of what this consumer has acquired and not yet released, so that the two
accounts can be compared.

A call that would index the table behind its end or use a null buffer has no result: the release
build, where `ALOG_ASSERT` expands to nothing, has undefined behaviour there.
-/

namespace WLManager

inductive Status
  | OK
  | BAD_VALUE
  | NOT_ENOUGH_DATA
  | NO_BUFFER_AVAILABLE
  | error (code : ℤ)
  deriving DecidableEq

/-- `size_t`; increments and decrements wrap. -/
abbrev SizeT := BitVec 64

structure Rect where
  left : ℤ
  top : ℤ
  right : ℤ
  bottom : ℤ
  deriving DecidableEq

/-- What the buffer queue says about an acquired buffer. The buffer itself is only sent along
when the consumer does not know it yet. -/
structure BufferItem where
  mSlot : ℤ
  mGraphicBuffer : Option GraphicBuffer
  mCrop : Rect
  mTransform : ℕ
  mScalingMode : ℕ
  mTimestamp : ℤ
  mDataSpace : ℤ
  mFrameNumber : ℕ
  deriving DecidableEq

/-- A buffer as its user sees it while it is locked; `data` is the address, `0` for null. -/
structure LockedBuffer where
  data : ℕ
  width : ℕ
  height : ℕ
  format : ℤ
  stride : ℕ
  crop : Rect
  transform : ℕ
  scalingMode : ℕ
  timestamp : ℤ
  dataSpace : ℤ
  frameNumber : ℕ
  flexFormat : ℤ
  dataCb : ℕ
  dataCr : ℕ
  chromaStride : ℕ
  chromaStep : ℕ
  deriving DecidableEq

/-- The default constructor. -/
def LockedBuffer.empty : LockedBuffer where
  data := 0
  width := 0
  height := 0
  format := 0
  stride := 0
  crop := ⟨0, 0, 0, 0⟩
  transform := 0
  scalingMode := 0
  timestamp := 0
  dataSpace := 0
  frameNumber := 0
  flexFormat := 0
  dataCb := 0
  dataCr := 0
  chromaStride := 0
  chromaStep := 0

def kUnusedId : ℕ := 0

def INVALID_BUFFER_SLOT : ℤ := -1

structure AcquiredBuffer where
  mSlot : ℤ
  mGraphicBuffer : Option GraphicBuffer
  mLockedBufferId : ℕ
  deriving DecidableEq

/-- The default constructor, and what `reset` leaves behind. -/
def AcquiredBuffer.unused : AcquiredBuffer where
  mSlot := INVALID_BUFFER_SLOT
  mGraphicBuffer := none
  mLockedBufferId := kUnusedId

def AcquiredBuffer.inUse (ab : AcquiredBuffer) : Bool := ab.mLockedBufferId != kUnusedId

/-- The acquisition an in-use entry records. -/
def AcquiredBuffer.held (ab : AcquiredBuffer) : Option (ℤ × GraphicBuffer) :=
  if ab.inUse then ab.mGraphicBuffer.map fun buffer ↦ (ab.mSlot, buffer) else none

/-- The members of the class, and the acquisitions the buffer queue counts for it. -/
structure WLConsumer where
  mMaxLockedBuffers : SizeT
  mAcquiredBuffers : List AcquiredBuffer
  mCurrentLockedBuffers : SizeT
  acquired : Multiset (ℤ × GraphicBuffer)
  table_length : mAcquiredBuffers.length = mMaxLockedBuffers.toNat

namespace WLConsumer

/-- The constructor. It gives `mCurrentLockedBuffers` no value; `uninitialised` is what happens to
be in its memory. -/
def construct (maxLockedBuffers uninitialised : SizeT) : WLConsumer where
  mMaxLockedBuffers := maxLockedBuffers
  mAcquiredBuffers := List.replicate maxLockedBuffers.toNat AcquiredBuffer.unused
  mCurrentLockedBuffers := uninitialised
  acquired := 0
  table_length := List.length_replicate

/-- The entry with a given id; the number of entries if there is none. Searching for
`kUnusedId` finds a free entry. -/
def findAcquiredBufferLocked (c : WLConsumer) (id : ℕ) : ℕ :=
  c.mAcquiredBuffers.findIdx fun ab ↦ ab.mLockedBufferId == id

def editItemAt (c : WLConsumer) (index : ℕ) (ab : AcquiredBuffer) : WLConsumer :=
  { c with
    mAcquiredBuffers := c.mAcquiredBuffers.set index ab
    table_length := by rw [List.length_set, c.table_length] }

/-- A successful acquire, on the side of the buffer queue. -/
def acquireBufferLocked (c : WLConsumer) (slot : ℤ) (buffer : GraphicBuffer) : WLConsumer :=
  { c with acquired := (slot, buffer) ::ₘ c.acquired }

def releaseBufferLocked (c : WLConsumer) (slot : ℤ) (buffer : GraphicBuffer) : WLConsumer :=
  { c with acquired := c.acquired.erase (slot, buffer) }

/-- The outside's answers to one `lockNextBuffer` call. `slotBuffer` is
`mSlots[item.mSlot].mGraphicBuffer` once the acquire has succeeded. -/
structure LockAnswers where
  acquireErr : Status
  item : BufferItem
  slotBuffer : GraphicBuffer
  lockErr : Status
  bufferPointer : ℕ
  deriving DecidableEq

def LockAnswers.buffer (answers : LockAnswers) : GraphicBuffer :=
  answers.item.mGraphicBuffer.getD answers.slotBuffer

/-- Answers about a one-pixel buffer in a slot of its own, acquired without error, for concrete
runs. -/
def LockAnswers.onePixel (id : ℕ) (lockErr : Status) (bufferPointer : ℕ) : LockAnswers where
  acquireErr := .OK
  item := ⟨id, none, ⟨0, 0, 1, 1⟩, 0, 0, 0, 0, 0⟩
  slotBuffer := .onePixel id
  lockErr := lockErr
  bufferPointer := bufferPointer

/-- What a successful `lockBufferItem` writes for its caller. -/
def filledBuffer (answers : LockAnswers) : LockedBuffer where
  data := answers.bufferPointer
  width := answers.buffer.width
  height := answers.buffer.height
  format := answers.buffer.format
  stride := answers.buffer.stride
  crop := answers.item.mCrop
  transform := answers.item.mTransform
  scalingMode := answers.item.mScalingMode
  timestamp := answers.item.mTimestamp
  dataSpace := answers.item.mDataSpace
  frameNumber := answers.item.mFrameNumber
  flexFormat := answers.buffer.format
  dataCb := 0
  dataCr := 0
  chromaStride := 0
  chromaStep := 0

/-- Lock the acquired buffer for the CPU and push it to the window manager. -/
def lockBufferItem (answers : LockAnswers) (outBuffer : LockedBuffer) :
    Status × LockedBuffer × Option Frame :=
  if answers.lockErr ≠ .OK then (answers.lockErr, outBuffer, none)
  else (.OK, filledBuffer answers, some answers.buffer.frame)

def getLockedBufferId (buffer : LockedBuffer) : ℕ := buffer.data

/-- A returned `lockNextBuffer` call: its status, the caller's buffer, the `pushFrame` call made on
the way and the consumer it leaves. -/
structure LockReturn where
  status : Status
  nativeBuffer : Option LockedBuffer
  pushed : Option Frame
  consumer : WLConsumer

def recordedEntry (answers : LockAnswers) (locked : LockedBuffer) : AcquiredBuffer where
  mSlot := answers.item.mSlot
  mGraphicBuffer := some answers.buffer
  mLockedBufferId := getLockedBufferId locked

/-- `lockNextBuffer` up to its search for a free entry: the status so far, the filled buffer, the
`pushFrame` call that has been made and the consumer. -/
def acquireAndLock (c : WLConsumer) (outBuffer : LockedBuffer) (answers : LockAnswers) :
    Status × LockedBuffer × Option Frame × WLConsumer :=
  if answers.acquireErr ≠ .OK then
    if answers.acquireErr = .NO_BUFFER_AVAILABLE then
      (.BAD_VALUE, outBuffer, none, c)
    else
      (answers.acquireErr, outBuffer, none, c)
  else
    let c := c.acquireBufferLocked answers.item.mSlot answers.buffer
    let (err, locked, pushed) := lockBufferItem answers outBuffer
    (err, locked, pushed, c)

def lockNextBuffer (c : WLConsumer) (nativeBuffer : Option LockedBuffer) (answers : LockAnswers) :
    Option LockReturn :=
  match nativeBuffer with
  | none => some ⟨.BAD_VALUE, none, none, c⟩
  | some outBuffer =>
    let (err, locked, pushed, c) := c.acquireAndLock outBuffer answers
    if err ≠ .OK then
      some ⟨err, some locked, pushed, c⟩
    else
      let lockedIdx := c.findAcquiredBufferLocked kUnusedId
      -- the bound is only asserted: past it the write is undefined, with the frame pushed already
      if lockedIdx < c.mMaxLockedBuffers.toNat then
        let c := c.editItemAt lockedIdx (recordedEntry answers locked)
        some ⟨.OK, some locked, pushed,
          { c with mCurrentLockedBuffers := c.mCurrentLockedBuffers + 1 }⟩
      else
        none

structure UnlockAnswers where
  unlockErr : Status
  fenceFd : ℤ
  deriving DecidableEq

/-- A returned `unlockBuffer` call: its status, the acquisition given back with the fence it
carries, and the consumer it leaves. -/
structure UnlockReturn where
  status : Status
  released : Option (ℤ × GraphicBuffer × Option ℤ)
  consumer : WLConsumer

def unlockBuffer (c : WLConsumer) (nativeBuffer : LockedBuffer) (answers : UnlockAnswers) :
    Option UnlockReturn :=
  let id := getLockedBufferId nativeBuffer
  let lockedIdx :=
    if id ≠ kUnusedId then c.findAcquiredBufferLocked id else c.mMaxLockedBuffers.toNat
  if lockedIdx = c.mMaxLockedBuffers.toNat then
    some ⟨.BAD_VALUE, none, c⟩
  else do
    let ab ← c.mAcquiredBuffers[lockedIdx]?
    let buffer ← ab.mGraphicBuffer
    if answers.unlockErr ≠ .OK then
      some ⟨answers.unlockErr, none, c⟩
    else
      let fence := if 0 ≤ answers.fenceFd then some answers.fenceFd else none
      let c := (c.releaseBufferLocked ab.mSlot buffer).editItemAt lockedIdx .unused
      some ⟨.OK, some (ab.mSlot, buffer, fence),
        { c with mCurrentLockedBuffers := c.mCurrentLockedBuffers - 1 }⟩

/-- One call a user of the consumer can make, with the outside's answers to it. -/
inductive Call
  | lockNextBuffer (nativeBuffer : Option LockedBuffer) (answers : LockAnswers)
  | unlockBuffer (nativeBuffer : LockedBuffer) (answers : UnlockAnswers)

def call (c : WLConsumer) : Call → Option (Status × WLConsumer)
  | .lockNextBuffer nativeBuffer answers =>
    (c.lockNextBuffer nativeBuffer answers).map fun r ↦ (r.status, r.consumer)
  | .unlockBuffer nativeBuffer answers =>
    (c.unlockBuffer nativeBuffer answers).map fun r ↦ (r.status, r.consumer)

def step (c : WLConsumer) (a : Call) : Option WLConsumer := (c.call a).map Prod.snd

def recorded (c : WLConsumer) : Multiset (ℤ × GraphicBuffer) :=
  SlotTable.contents AcquiredBuffer.held c.mAcquiredBuffers

def inUseCount (c : WLConsumer) : ℕ := c.mAcquiredBuffers.countP AcquiredBuffer.inUse

def HasFreeEntry (c : WLConsumer) : Prop := ∃ ab ∈ c.mAcquiredBuffers, ab.inUse = false

def EntriesNamed (c : WLConsumer) : Prop :=
  ∀ ab ∈ c.mAcquiredBuffers, ab.inUse = true → ab.mGraphicBuffer.isSome = true

/-! ## What a call does -/

def locked (c : WLConsumer) (answers : LockAnswers) : WLConsumer :=
  { (c.acquireBufferLocked answers.item.mSlot answers.buffer).editItemAt
      (c.findAcquiredBufferLocked kUnusedId) (recordedEntry answers (filledBuffer answers)) with
    mCurrentLockedBuffers := c.mCurrentLockedBuffers + 1 }

def unlocked (c : WLConsumer) (index : ℕ) (slot : ℤ) (buffer : GraphicBuffer) : WLConsumer :=
  { (c.releaseBufferLocked slot buffer).editItemAt index .unused with
    mCurrentLockedBuffers := c.mCurrentLockedBuffers - 1 }

theorem inUse_eq_false_iff {ab : AcquiredBuffer} :
    ab.inUse = false ↔ ab.mLockedBufferId = kUnusedId := by
  simp [AcquiredBuffer.inUse]

theorem findAcquiredBufferLocked_unused_lt_iff (c : WLConsumer) :
    c.findAcquiredBufferLocked kUnusedId < c.mMaxLockedBuffers.toNat ↔ c.HasFreeEntry := by
  rw [← c.table_length, findAcquiredBufferLocked, List.findIdx_lt_length]
  simp only [beq_iff_eq, HasFreeEntry, inUse_eq_false_iff]

theorem acquireAndLock_acquire_failed (c : WLConsumer) (outBuffer : LockedBuffer)
    {answers : LockAnswers} (h : answers.acquireErr ≠ .OK) :
    ∃ status, status ≠ .OK ∧ c.acquireAndLock outBuffer answers = (status, outBuffer, none, c) := by
  by_cases hnone : answers.acquireErr = .NO_BUFFER_AVAILABLE
  · exact ⟨.BAD_VALUE, by decide, by simp [acquireAndLock, hnone]⟩
  · exact ⟨answers.acquireErr, h, by simp [acquireAndLock, h, hnone]⟩

theorem acquireAndLock_lock_failed (c : WLConsumer) (outBuffer : LockedBuffer)
    {answers : LockAnswers} (hacquire : answers.acquireErr = .OK) (hlock : answers.lockErr ≠ .OK) :
    c.acquireAndLock outBuffer answers =
      (answers.lockErr, outBuffer, none,
        c.acquireBufferLocked answers.item.mSlot answers.buffer) := by
  simp [acquireAndLock, lockBufferItem, hacquire, hlock]

/-- The frame has been pushed by the time a free entry is looked for. -/
theorem acquireAndLock_locked (c : WLConsumer) (outBuffer : LockedBuffer)
    {answers : LockAnswers} (hacquire : answers.acquireErr = .OK) (hlock : answers.lockErr = .OK) :
    c.acquireAndLock outBuffer answers =
      (.OK, filledBuffer answers, some answers.buffer.frame,
        c.acquireBufferLocked answers.item.mSlot answers.buffer) := by
  simp [acquireAndLock, lockBufferItem, hacquire, hlock]

theorem lockNextBuffer_acquire_failed (c : WLConsumer) (outBuffer : LockedBuffer)
    {answers : LockAnswers} (h : answers.acquireErr ≠ .OK) :
    ∃ status, status ≠ .OK ∧
      c.lockNextBuffer (some outBuffer) answers = some ⟨status, some outBuffer, none, c⟩ := by
  obtain ⟨status, hstatus, hfailed⟩ := c.acquireAndLock_acquire_failed outBuffer h
  exact ⟨status, hstatus, by simp [lockNextBuffer, hfailed, hstatus]⟩

theorem lockNextBuffer_lock_failed (c : WLConsumer) (outBuffer : LockedBuffer)
    {answers : LockAnswers} (hacquire : answers.acquireErr = .OK) (hlock : answers.lockErr ≠ .OK) :
    c.lockNextBuffer (some outBuffer) answers =
      some ⟨answers.lockErr, some outBuffer, none,
        c.acquireBufferLocked answers.item.mSlot answers.buffer⟩ := by
  simp [lockNextBuffer, c.acquireAndLock_lock_failed outBuffer hacquire hlock, hlock]

theorem lockNextBuffer_locked (c : WLConsumer) (outBuffer : LockedBuffer) {answers : LockAnswers}
    (hacquire : answers.acquireErr = .OK) (hlock : answers.lockErr = .OK)
    (hfree : c.HasFreeEntry) :
    c.lockNextBuffer (some outBuffer) answers =
      some ⟨.OK, some (filledBuffer answers), some answers.buffer.frame, c.locked answers⟩ := by
  have hidx := c.findAcquiredBufferLocked_unused_lt_iff.mpr hfree
  simp only [findAcquiredBufferLocked] at hidx
  simp [lockNextBuffer, c.acquireAndLock_locked outBuffer hacquire hlock, acquireBufferLocked,
    findAcquiredBufferLocked, hidx, locked, editItemAt]

/-- With every entry in use, a buffer that is acquired and locked is written past the table. -/
theorem lockNextBuffer_overflow (c : WLConsumer) (outBuffer : LockedBuffer) {answers : LockAnswers}
    (hacquire : answers.acquireErr = .OK) (hlock : answers.lockErr = .OK)
    (hfull : ¬ c.HasFreeEntry) : c.lockNextBuffer (some outBuffer) answers = none := by
  have hidx := c.findAcquiredBufferLocked_unused_lt_iff.not.mpr hfull
  simp only [findAcquiredBufferLocked] at hidx
  simp [lockNextBuffer, c.acquireAndLock_locked outBuffer hacquire hlock, acquireBufferLocked,
    findAcquiredBufferLocked, hidx]

/-- An address under which nothing is recorded, null included, cannot be unlocked. -/
theorem unlockBuffer_unknown (c : WLConsumer) (nativeBuffer : LockedBuffer)
    (answers : UnlockAnswers)
    (h : nativeBuffer.data = kUnusedId ∨
      c.mAcquiredBuffers[c.findAcquiredBufferLocked nativeBuffer.data]? = none) :
    c.unlockBuffer nativeBuffer answers = some ⟨.BAD_VALUE, none, c⟩ := by
  by_cases hid : nativeBuffer.data = kUnusedId
  · simp [unlockBuffer, getLockedBufferId, hid]
  · have hend : c.findAcquiredBufferLocked nativeBuffer.data = c.mMaxLockedBuffers.toNat := by
      have hle := List.getElem?_eq_none_iff.mp (h.resolve_left hid)
      rw [← c.table_length]
      exact le_antisymm List.findIdx_le_length hle
    simp [unlockBuffer, getLockedBufferId, hid, hend]

/-- An address recorded in the table: the unlock is tried, and on success the entry is released
and freed. -/
theorem unlockBuffer_known (c : WLConsumer) {nativeBuffer : LockedBuffer}
    {answers : UnlockAnswers} {ab : AcquiredBuffer} {buffer : GraphicBuffer}
    (hid : nativeBuffer.data ≠ kUnusedId)
    (hentry : c.mAcquiredBuffers[c.findAcquiredBufferLocked nativeBuffer.data]? = some ab)
    (hbuffer : ab.mGraphicBuffer = some buffer) :
    c.unlockBuffer nativeBuffer answers =
      if answers.unlockErr ≠ .OK then some ⟨answers.unlockErr, none, c⟩
      else some ⟨.OK,
        some (ab.mSlot, buffer, if 0 ≤ answers.fenceFd then some answers.fenceFd else none),
        c.unlocked (c.findAcquiredBufferLocked nativeBuffer.data) ab.mSlot buffer⟩ := by
  have hlt : c.findAcquiredBufferLocked nativeBuffer.data ≠ c.mMaxLockedBuffers.toNat := by
    obtain ⟨hlt, -⟩ := List.getElem?_eq_some_iff.mp hentry
    rw [← c.table_length]
    exact hlt.ne
  simp [unlockBuffer, getLockedBufferId, hid, hlt, hentry, hbuffer, unlocked, editItemAt,
    releaseBufferLocked]

theorem unlockBuffer_unnamed (c : WLConsumer) {nativeBuffer : LockedBuffer}
    (answers : UnlockAnswers) {ab : AcquiredBuffer} (hid : nativeBuffer.data ≠ kUnusedId)
    (hentry : c.mAcquiredBuffers[c.findAcquiredBufferLocked nativeBuffer.data]? = some ab)
    (hbuffer : ab.mGraphicBuffer = none) : c.unlockBuffer nativeBuffer answers = none := by
  have hlt : c.findAcquiredBufferLocked nativeBuffer.data ≠ c.mMaxLockedBuffers.toNat := by
    obtain ⟨hlt, -⟩ := List.getElem?_eq_some_iff.mp hentry
    rw [← c.table_length]
    exact hlt.ne
  simp [unlockBuffer, getLockedBufferId, hid, hlt, hentry, hbuffer]

/-- Everything a returning `lockNextBuffer` can do with a buffer to fill. -/
theorem lockNextBuffer_cases {c : WLConsumer} {outBuffer : LockedBuffer} {answers : LockAnswers}
    {r : LockReturn} (h : c.lockNextBuffer (some outBuffer) answers = some r) :
    (answers.acquireErr ≠ .OK ∧ ∃ status, status ≠ .OK ∧ r = ⟨status, some outBuffer, none, c⟩) ∨
    (answers.acquireErr = .OK ∧ answers.lockErr ≠ .OK ∧
      r = ⟨answers.lockErr, some outBuffer, none,
        c.acquireBufferLocked answers.item.mSlot answers.buffer⟩) ∨
    (answers.acquireErr = .OK ∧ answers.lockErr = .OK ∧ c.HasFreeEntry ∧
      r = ⟨.OK, some (filledBuffer answers), some answers.buffer.frame, c.locked answers⟩) := by
  by_cases hacquire : answers.acquireErr = .OK
  · by_cases hlock : answers.lockErr = .OK
    · by_cases hfree : c.HasFreeEntry
      · rw [lockNextBuffer_locked c outBuffer hacquire hlock hfree] at h
        exact .inr (.inr ⟨hacquire, hlock, hfree, (Option.some.inj h).symm⟩)
      · rw [lockNextBuffer_overflow c outBuffer hacquire hlock hfree] at h
        cases h
    · rw [lockNextBuffer_lock_failed c outBuffer hacquire hlock] at h
      exact .inr (.inl ⟨hacquire, hlock, (Option.some.inj h).symm⟩)
  · obtain ⟨status, hstatus, hreturn⟩ := lockNextBuffer_acquire_failed c outBuffer hacquire
    rw [hreturn] at h
    exact .inl ⟨hacquire, status, hstatus, (Option.some.inj h).symm⟩

theorem unlockBuffer_cases {c : WLConsumer} {nativeBuffer : LockedBuffer} {answers : UnlockAnswers}
    {r : UnlockReturn} (h : c.unlockBuffer nativeBuffer answers = some r) :
    (∃ status, status ≠ .OK ∧ r = ⟨status, none, c⟩) ∨
    (∃ ab buffer fence, nativeBuffer.data ≠ kUnusedId ∧
      c.mAcquiredBuffers[c.findAcquiredBufferLocked nativeBuffer.data]? = some ab ∧
      ab.mGraphicBuffer = some buffer ∧ answers.unlockErr = .OK ∧
      r = ⟨.OK, some (ab.mSlot, buffer, fence),
        c.unlocked (c.findAcquiredBufferLocked nativeBuffer.data) ab.mSlot buffer⟩) := by
  by_cases hid : nativeBuffer.data = kUnusedId
  · rw [unlockBuffer_unknown c nativeBuffer answers (.inl hid)] at h
    exact .inl ⟨_, Status.noConfusion, (Option.some.inj h).symm⟩
  cases hentry : c.mAcquiredBuffers[c.findAcquiredBufferLocked nativeBuffer.data]? with
  | none =>
    rw [unlockBuffer_unknown c nativeBuffer answers (.inr hentry)] at h
    exact .inl ⟨_, Status.noConfusion, (Option.some.inj h).symm⟩
  | some ab =>
    cases hbuffer : ab.mGraphicBuffer with
    | none =>
      rw [unlockBuffer_unnamed c answers hid hentry hbuffer] at h
      cases h
    | some buffer =>
      rw [unlockBuffer_known c hid hentry hbuffer] at h
      by_cases hunlock : answers.unlockErr = .OK
      · rw [if_neg (not_not_intro hunlock)] at h
        exact .inr ⟨ab, buffer, _, hid, rfl, hbuffer, hunlock, (Option.some.inj h).symm⟩
      · rw [if_pos hunlock] at h
        exact .inl ⟨_, hunlock, (Option.some.inj h).symm⟩

theorem call_cases {c c' : WLConsumer} {a : Call} {status : Status}
    (h : c.call a = some (status, c')) :
    (status ≠ .OK ∧ c' = c) ∨
    (∃ outBuffer answers, a = .lockNextBuffer (some outBuffer) answers ∧
      answers.acquireErr = .OK ∧ answers.lockErr ≠ .OK ∧ status = answers.lockErr ∧
      c' = c.acquireBufferLocked answers.item.mSlot answers.buffer) ∨
    (∃ outBuffer answers, a = .lockNextBuffer (some outBuffer) answers ∧
      answers.acquireErr = .OK ∧ answers.lockErr = .OK ∧ c.HasFreeEntry ∧ status = .OK ∧
      c' = c.locked answers) ∨
    (∃ nativeBuffer answers ab buffer, a = .unlockBuffer nativeBuffer answers ∧
      nativeBuffer.data ≠ kUnusedId ∧
      c.mAcquiredBuffers[c.findAcquiredBufferLocked nativeBuffer.data]? = some ab ∧
      ab.mGraphicBuffer = some buffer ∧ answers.unlockErr = .OK ∧ status = .OK ∧
      c' = c.unlocked (c.findAcquiredBufferLocked nativeBuffer.data) ab.mSlot buffer) := by
  cases a with
  | lockNextBuffer nativeBuffer answers =>
    obtain ⟨r, hr, hstatus⟩ := Option.map_eq_some_iff.mp h
    cases hstatus
    cases nativeBuffer with
    | none =>
      cases hr
      exact .inl ⟨Status.noConfusion, rfl⟩
    | some outBuffer =>
      rcases lockNextBuffer_cases hr with ⟨-, failure, hfailure, rfl⟩ | ⟨hacquire, hlock, rfl⟩ |
        ⟨hacquire, hlock, hfree, rfl⟩
      · exact .inl ⟨hfailure, rfl⟩
      · exact .inr (.inl ⟨outBuffer, answers, rfl, hacquire, hlock, rfl, rfl⟩)
      · exact .inr (.inr (.inl ⟨outBuffer, answers, rfl, hacquire, hlock, hfree, rfl, rfl⟩))
  | unlockBuffer nativeBuffer answers =>
    obtain ⟨r, hr, hstatus⟩ := Option.map_eq_some_iff.mp h
    cases hstatus
    rcases unlockBuffer_cases hr with ⟨failure, hfailure, rfl⟩ |
      ⟨ab, buffer, fence, hid, hentry, hbuffer, hunlock, rfl⟩
    · exact .inl ⟨hfailure, rfl⟩
    · exact .inr (.inr (.inr ⟨nativeBuffer, answers, ab, buffer, rfl, hid, hentry, hbuffer,
        hunlock, rfl, rfl⟩))

end WLConsumer

end WLManager
