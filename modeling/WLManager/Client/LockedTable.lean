import WLManager.Client.WLConsumer

/-!
# The table of locked buffers across calls

What a successful lock or unlock does to the acquisitions the table records and to the number of
entries in use, and the invariant that an in-use entry always names its graphic buffer.
-/

namespace WLManager.WLConsumer

@[simp]
theorem held_unused : AcquiredBuffer.unused.held = none := rfl

@[simp]
theorem inUse_unused : AcquiredBuffer.unused.inUse = false := rfl

theorem inUse_recordedEntry (answers : LockAnswers) :
    (recordedEntry answers (filledBuffer answers)).inUse = true ↔
      answers.bufferPointer ≠ kUnusedId := by
  simp [AcquiredBuffer.inUse, recordedEntry, getLockedBufferId, filledBuffer]

/-- A lock that handed out the null address leaves its entry looking unused. -/
theorem held_recordedEntry (answers : LockAnswers) :
    (recordedEntry answers (filledBuffer answers)).held =
      if answers.bufferPointer = kUnusedId then none
      else some (answers.item.mSlot, answers.buffer) := by
  by_cases hnull : answers.bufferPointer = kUnusedId
  · have hunused := (inUse_recordedEntry answers).not.mpr (not_not_intro hnull)
    rw [AcquiredBuffer.held, if_neg hunused, if_pos hnull]
  · have hused := (inUse_recordedEntry answers).mpr hnull
    rw [AcquiredBuffer.held, if_pos hused, if_neg hnull]
    rfl

/-- A search for a free entry that succeeds ends at a free entry. -/
theorem inUse_find_unused {c : WLConsumer}
    (hlt : c.findAcquiredBufferLocked kUnusedId < c.mAcquiredBuffers.length) :
    c.mAcquiredBuffers[c.findAcquiredBufferLocked kUnusedId].inUse = false := by
  rw [inUse_eq_false_iff]
  have hmatch := List.findIdx_getElem (w := hlt)
  exact beq_iff_eq.mp hmatch

section FreeEntry

variable {c : WLConsumer} (hfree : c.HasFreeEntry)

include hfree

theorem find_unused_lt_length :
    c.findAcquiredBufferLocked kUnusedId < c.mAcquiredBuffers.length := by
  rw [c.table_length]
  exact c.findAcquiredBufferLocked_unused_lt_iff.mpr hfree

/-- A lock records what it acquired, unless its data address is null. -/
theorem recorded_locked (answers : LockAnswers) :
    (c.locked answers).recorded = c.recorded +
      SlotTable.single (if answers.bufferPointer = kUnusedId then none
        else some (answers.item.mSlot, answers.buffer)) := by
  have hlt := find_unused_lt_length hfree
  have hheld : c.mAcquiredBuffers[c.findAcquiredBufferLocked kUnusedId].held = none := by
    rw [AcquiredBuffer.held, inUse_find_unused hlt]
    rfl
  rw [← held_recordedEntry]
  exact SlotTable.contents_set_of_free _ hlt hheld _

theorem inUseCount_locked (answers : LockAnswers) :
    (c.locked answers).inUseCount =
      c.inUseCount + if answers.bufferPointer = kUnusedId then 0 else 1 := by
  have hcount := List.countP_set (p := AcquiredBuffer.inUse)
    (a := recordedEntry answers (filledBuffer answers)) (find_unused_lt_length hfree)
  rw [inUse_find_unused (find_unused_lt_length hfree)] at hcount
  change List.countP _ (List.set _ _ _) = _
  rw [acquireBufferLocked, hcount]
  by_cases hnull : answers.bufferPointer = kUnusedId
  · have hunused := (inUse_recordedEntry answers).not.mpr (not_not_intro hnull)
    simp [hunused, hnull, inUseCount]
  · have hused := (inUse_recordedEntry answers).mpr hnull
    simp [hused, hnull, inUseCount]

end FreeEntry

section KnownEntry

variable {c : WLConsumer} {id : ℕ} {ab : AcquiredBuffer}
  (hid : id ≠ kUnusedId) (hentry : c.mAcquiredBuffers[c.findAcquiredBufferLocked id]? = some ab)

include hentry

/-- The entry a search for an id ends at carries this id. -/
theorem mLockedBufferId_find : ab.mLockedBufferId = id := by
  obtain ⟨hlt, hab⟩ := List.getElem?_eq_some_iff.mp hentry
  have hmatch := List.findIdx_getElem (w := hlt)
  rw [← hab]
  exact beq_iff_eq.mp hmatch

include hid

theorem inUse_find : ab.inUse = true := by
  rw [AcquiredBuffer.inUse, mLockedBufferId_find hentry]
  simpa using hid

theorem held_find {buffer : GraphicBuffer} (hbuffer : ab.mGraphicBuffer = some buffer) :
    ab.held = some (ab.mSlot, buffer) := by
  rw [AcquiredBuffer.held, if_pos (inUse_find hid hentry), hbuffer]
  rfl

theorem mem_recorded_find {buffer : GraphicBuffer} (hbuffer : ab.mGraphicBuffer = some buffer) :
    (ab.mSlot, buffer) ∈ c.recorded := by
  rw [recorded, SlotTable.mem_contents]
  exact ⟨ab, List.mem_of_getElem? hentry, held_find hid hentry hbuffer⟩

/-- An unlock takes exactly its own acquisition out of what the table records. -/
theorem recorded_unlocked {buffer : GraphicBuffer} (hbuffer : ab.mGraphicBuffer = some buffer) :
    (c.unlocked (c.findAcquiredBufferLocked id) ab.mSlot buffer).recorded =
      c.recorded.erase (ab.mSlot, buffer) := by
  obtain ⟨hlt, hab⟩ := List.getElem?_eq_some_iff.mp hentry
  have hheld : (c.mAcquiredBuffers[c.findAcquiredBufferLocked id]).held =
      some (ab.mSlot, buffer) := by
    rw [hab]
    exact held_find hid hentry hbuffer
  exact SlotTable.contents_set_free _ hlt hheld held_unused

theorem inUseCount_unlocked {slot : ℤ} {buffer : GraphicBuffer} :
    (c.unlocked (c.findAcquiredBufferLocked id) slot buffer).inUseCount + 1 = c.inUseCount := by
  obtain ⟨hlt, hab⟩ := List.getElem?_eq_some_iff.mp hentry
  have hcount := List.countP_set (p := AcquiredBuffer.inUse) (a := .unused) hlt
  have hused := inUse_find hid hentry
  have hpos : 0 < c.inUseCount :=
    List.countP_pos_iff.mpr ⟨ab, hab ▸ List.getElem_mem hlt, hused⟩
  change List.countP _ (List.set _ _ _) + 1 = _
  rw [releaseBufferLocked, hcount, hab, hused]
  simp only [inUse_unused]
  rw [inUseCount] at hpos ⊢
  simp only [if_true, Bool.false_eq_true, if_false]
  omega

end KnownEntry

theorem inUseCount_le (c : WLConsumer) : c.inUseCount ≤ c.mMaxLockedBuffers.toNat := by
  rw [← c.table_length]
  exact List.countP_le_length

theorem not_hasFreeEntry_iff {c : WLConsumer} :
    ¬ c.HasFreeEntry ↔ c.inUseCount = c.mMaxLockedBuffers.toNat := by
  rw [← c.table_length, inUseCount, List.countP_eq_length]
  simp [HasFreeEntry]

@[simp]
theorem recorded_construct (maxLockedBuffers uninitialised : SizeT) :
    (construct maxLockedBuffers uninitialised).recorded = 0 :=
  SlotTable.contents_replicate_none _ held_unused _

@[simp]
theorem inUseCount_construct (maxLockedBuffers uninitialised : SizeT) :
    (construct maxLockedBuffers uninitialised).inUseCount = 0 := by
  simp [inUseCount, construct, List.countP_replicate]

theorem entriesNamed_construct (maxLockedBuffers uninitialised : SizeT) :
    (construct maxLockedBuffers uninitialised).EntriesNamed := by
  intro ab hab hused
  rw [List.eq_of_mem_replicate hab] at hused
  cases hused

theorem EntriesNamed.editItemAt {c : WLConsumer} (hnamed : c.EntriesNamed) {index : ℕ}
    {ab : AcquiredBuffer} (hab : ab.inUse = true → ab.mGraphicBuffer.isSome = true) :
    (c.editItemAt index ab).EntriesNamed := by
  intro entry hentry hused
  rcases List.mem_or_eq_of_mem_set hentry with hold | rfl
  · exact hnamed entry hold hused
  · exact hab hused

theorem EntriesNamed.locked {c : WLConsumer} (hnamed : c.EntriesNamed) (answers : LockAnswers) :
    (c.locked answers).EntriesNamed :=
  hnamed.editItemAt fun _ ↦ rfl

theorem EntriesNamed.unlocked {c : WLConsumer} (hnamed : c.EntriesNamed) (index : ℕ) (slot : ℤ)
    (buffer : GraphicBuffer) : (c.unlocked index slot buffer).EntriesNamed :=
  hnamed.editItemAt nofun

/-- No call makes an in-use entry lose its buffer. -/
theorem entriesNamed_call {c c' : WLConsumer} {a : Call} {status : Status}
    (hnamed : c.EntriesNamed) (h : c.call a = some (status, c')) : c'.EntriesNamed := by
  rcases call_cases h with ⟨-, rfl⟩ | ⟨_, _, -, -, -, -, rfl⟩ | ⟨_, answers, -, -, -, -, -, rfl⟩ |
    ⟨_, _, ab, buffer, -, -, -, -, -, -, rfl⟩
  · exact hnamed
  · exact hnamed
  · exact hnamed.locked answers
  · exact hnamed.unlocked _ ab.mSlot buffer

/-- Under the invariant an unlock always returns. -/
theorem call_unlockBuffer_isSome {c : WLConsumer} (hnamed : c.EntriesNamed)
    (nativeBuffer : LockedBuffer) (answers : UnlockAnswers) :
    (c.call (.unlockBuffer nativeBuffer answers)).isSome = true := by
  rw [call, Option.isSome_map]
  by_cases hid : nativeBuffer.data = kUnusedId
  · rw [unlockBuffer_unknown c nativeBuffer answers (.inl hid)]
    rfl
  cases hentry : c.mAcquiredBuffers[c.findAcquiredBufferLocked nativeBuffer.data]? with
  | none =>
    rw [unlockBuffer_unknown c nativeBuffer answers (.inr hentry)]
    rfl
  | some ab =>
    obtain ⟨hlt, hab⟩ := List.getElem?_eq_some_iff.mp hentry
    have hsome := hnamed ab (hab ▸ List.getElem_mem hlt) (inUse_find hid hentry)
    obtain ⟨buffer, hbuffer⟩ := Option.isSome_iff_exists.mp hsome
    rw [unlockBuffer_known c hid hentry hbuffer]
    split_ifs <;> rfl

/-! ## A table with one entry -/

theorem hasFreeEntry_singleton {c : WLConsumer} {ab : AcquiredBuffer}
    (h : c.mAcquiredBuffers = [ab]) : c.HasFreeEntry ↔ ab.mLockedBufferId = kUnusedId := by
  unfold HasFreeEntry
  rw [h]
  simp only [List.mem_singleton, exists_eq_left, inUse_eq_false_iff]

theorem find_singleton {c : WLConsumer} {ab : AcquiredBuffer} (h : c.mAcquiredBuffers = [ab]) :
    c.findAcquiredBufferLocked ab.mLockedBufferId = 0 := by
  unfold findAcquiredBufferLocked
  rw [h]
  simp [List.findIdx_cons]

theorem getElem?_find_singleton {c : WLConsumer} {ab : AcquiredBuffer}
    (h : c.mAcquiredBuffers = [ab]) :
    c.mAcquiredBuffers[c.findAcquiredBufferLocked ab.mLockedBufferId]? = some ab := by
  rw [find_singleton h, h]
  rfl

end WLManager.WLConsumer
