import Mathlib.Algebra.Order.Group.Multiset
import Mathlib.Data.List.Perm.Basic
import Mathlib.Tactic.Abel

/-!
# Tables of reusable slots

A table is a list whose entries are overwritten in place and whose length never changes. An
entry either holds something or is free; `contents held table` is the multiset of what the entries
hold, read out by `held`. Overwriting one entry exchanges what that entry held for what the new
value holds, and nothing else. Searching is `List.findIdx`, which answers the length of the table
when no entry matches.
-/

namespace WLManager.SlotTable

variable {α β : Type*} (held : α → Option β)

/-- What the entries of a table hold, with multiplicity. -/
def contents (table : List α) : Multiset β := ↑(table.filterMap held)

/-- The multiset form of at most one held thing. -/
def single (slot : Option β) : Multiset β := ↑slot.toList

@[simp]
theorem single_none : single (none : Option β) = 0 := rfl

@[simp]
theorem single_some (b : β) : single (some b) = {b} := rfl

theorem contents_cons (entry : α) (table : List α) :
    contents held (entry :: table) = single (held entry) + contents held table := by
  cases hheld : held entry with
  | none => simp [contents, hheld]
  | some b =>
    simp only [contents, List.filterMap_cons, hheld, single_some, Multiset.singleton_add,
      Multiset.cons_coe]

/-- A table grown by one free entry holds what it held. -/
theorem contents_append_of_free {entry : α} (h : held entry = none) (table : List α) :
    contents held (table ++ [entry]) = contents held table := by
  have hnil : [entry].filterMap held = [] := by rw [List.filterMap_cons, h, List.filterMap_nil]
  rw [contents, List.filterMap_append, hnil, List.append_nil]
  rfl

theorem mem_contents {table : List α} {b : β} :
    b ∈ contents held table ↔ ∃ entry ∈ table, held entry = some b := by
  rw [contents, Multiset.mem_coe, List.mem_filterMap]

theorem contents_perm {first second : List α} (h : first.Perm second) :
    contents held first = contents held second :=
  Multiset.coe_eq_coe.mpr (h.filterMap held)

/-- A table of free entries holds nothing. -/
theorem contents_replicate_none {entry : α} (h : held entry = none) (count : ℕ) :
    contents held (List.replicate count entry) = 0 := by
  have hnil : (List.replicate count entry).filterMap held = [] := by
    rw [List.filterMap_eq_nil_iff]
    intro a ha
    rw [List.eq_of_mem_replicate ha, h]
  rw [contents, hnil]
  rfl

/-- Overwriting one entry exchanges what it held for what the new value holds. -/
theorem contents_set {table : List α} {index : ℕ} (h : index < table.length) (entry : α) :
    contents held (table.set index entry) + single (held table[index]) =
      contents held table + single (held entry) := by
  have hset := contents_perm held (List.set_perm_cons_eraseIdx h entry)
  have hold := contents_perm held (List.getElem_cons_eraseIdx_perm h)
  rw [contents_cons] at hset hold
  rw [hset, ← hold]
  abel

/-- Filling a free entry adds what the new value holds. -/
theorem contents_set_of_free {table : List α} {index : ℕ} (h : index < table.length)
    (hfree : held table[index] = none) (entry : α) :
    contents held (table.set index entry) = contents held table + single (held entry) := by
  have hset := contents_set held h entry
  rwa [hfree, single_none, add_zero] at hset

/-- Freeing an entry removes what it held, once. -/
theorem contents_set_free [DecidableEq β] {table : List α} {index : ℕ} (h : index < table.length)
    {b : β} (hold : held table[index] = some b) {entry : α} (hfree : held entry = none) :
    contents held (table.set index entry) = (contents held table).erase b := by
  have hset := contents_set held h entry
  rw [hold, hfree, single_some, single_none, add_zero] at hset
  rw [← hset, add_comm, Multiset.singleton_add, Multiset.erase_cons_head]

end WLManager.SlotTable
