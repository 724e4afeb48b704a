import Mathlib.Data.List.Nodup
import Mathlib.Data.List.Perm.Basic

/-!
# Books of loans

Things are lent under a key and come back under the same key. The book numbers the loans in the
order they are entered and keeps two lists, the loans still out and the loans that came back. By
construction every loan entered so far stands in exactly one of the two lists, once. While the
loans still out have distinct keys, a key settles at most one loan.
-/

namespace WLManager

/-- One loan: the number it was entered with, the key it comes back under and what was lent. -/
structure Loan (κ β : Type*) where
  serial : ℕ
  key : κ
  item : β
  deriving DecidableEq

/-- The loans entered so far, each either still out or returned. -/
structure LoanBook (κ β : Type*) where
  lent : ℕ
  outstanding : List (Loan κ β)
  returned : List (Loan κ β)
  once : ((outstanding ++ returned).map Loan.serial).Perm (List.range lent)

namespace LoanBook

variable {κ β : Type*}

/-- The book before the first loan. -/
def empty : LoanBook κ β where
  lent := 0
  outstanding := []
  returned := []
  once := .nil

/-- Enter a loan. -/
def lend (book : LoanBook κ β) (key : κ) (item : β) : LoanBook κ β where
  lent := book.lent + 1
  outstanding := ⟨book.lent, key, item⟩ :: book.outstanding
  returned := book.returned
  once := by
    rw [List.range_succ, List.cons_append, List.map_cons]
    exact (book.once.cons book.lent).trans (List.perm_append_singleton _ _).symm

variable [DecidableEq κ]

/-- The loans still out under a key. -/
def under (book : LoanBook κ β) (key : κ) : List (Loan κ β) :=
  book.outstanding.filter fun loan ↦ loan.key = key

/-- Strike out what is due under a key. -/
def settle (book : LoanBook κ β) (key : κ) : LoanBook κ β where
  lent := book.lent
  outstanding := book.outstanding.filter fun loan ↦ !decide (loan.key = key)
  returned := book.under key ++ book.returned
  once := by
    refine List.Perm.trans (List.Perm.map _ ?_) book.once
    rw [← List.append_assoc]
    refine List.Perm.append_right _ (List.perm_append_comm.trans ?_)
    exact List.filter_append_perm _ book.outstanding

/-- The loans still out have distinct keys. -/
def Apart (book : LoanBook κ β) : Prop := (book.outstanding.map Loan.key).Nodup

omit [DecidableEq κ] in
/-- No loan came back twice. -/
theorem returned_nodup (book : LoanBook κ β) : (book.returned.map Loan.serial).Nodup := by
  have hall := book.once.nodup_iff.mpr List.nodup_range
  rw [List.map_append] at hall
  exact hall.of_append_right

omit [DecidableEq κ] in
/-- What has come back is not still out. -/
theorem not_outstanding_of_returned (book : LoanBook κ β) {loan loan' : Loan κ β}
    (h : loan ∈ book.returned) (h' : loan' ∈ book.outstanding) : loan.serial ≠ loan'.serial := by
  have hall := book.once.nodup_iff.mpr List.nodup_range
  rw [List.map_append] at hall
  intro heq
  exact (List.disjoint_of_nodup_append hall) (List.mem_map_of_mem h')
    (heq ▸ List.mem_map_of_mem h)

theorem under_eq_nil_iff {book : LoanBook κ β} {key : κ} :
    book.under key = [] ↔ ∀ loan ∈ book.outstanding, loan.key ≠ key := by
  simp [under, List.filter_eq_nil_iff]

omit [DecidableEq κ] in
theorem apart_lend_iff {book : LoanBook κ β} {key : κ} {item : β} :
    (book.lend key item).Apart ↔
      (∀ loan ∈ book.outstanding, loan.key ≠ key) ∧ book.Apart := by
  simp [Apart, lend]

theorem apart_settle {book : LoanBook κ β} (h : book.Apart) (key : κ) :
    (book.settle key).Apart :=
  h.sublist (List.filter_sublist.map _)

/-- With distinct keys at most one loan is out under a key. -/
theorem under_eq_singleton {book : LoanBook κ β} (h : book.Apart) {loan : Loan κ β}
    (hloan : loan ∈ book.outstanding) : book.under loan.key = [loan] := by
  obtain ⟨before, after, hsplit⟩ := List.append_of_mem hloan
  rw [Apart, hsplit, List.map_append, List.map_cons] at h
  obtain ⟨hbefore, -⟩ := List.nodup_cons.mp (List.nodup_middle.mp h)
  rw [List.mem_append, not_or] at hbefore
  have hnone : ∀ {loans : List (Loan κ β)}, loan.key ∉ loans.map Loan.key →
      loans.filter (fun other ↦ decide (other.key = loan.key)) = [] := by
    intro loans hloans
    rw [List.filter_eq_nil_iff]
    intro other hother
    rw [decide_eq_true_iff]
    exact fun hkey ↦ hloans (hkey ▸ List.mem_map_of_mem hother)
  rw [under, hsplit, List.filter_append, hnone hbefore.1, List.nil_append,
    List.filter_cons_of_pos (by simp), hnone hbefore.2]

theorem mem_of_under_eq {book : LoanBook κ β} {key : κ} {loan : Loan κ β}
    (h : book.under key = [loan]) : loan ∈ book.outstanding ∧ loan.key = key := by
  have hmem : loan ∈ book.under key := h ▸ List.mem_singleton_self loan
  simpa [under] using hmem

theorem under_cases {book : LoanBook κ β} (h : book.Apart) (key : κ) :
    book.under key = [] ∨ ∃ loan, book.under key = [loan] := by
  by_cases hnone : ∀ loan ∈ book.outstanding, loan.key ≠ key
  · exact .inl (under_eq_nil_iff.mpr hnone)
  · push Not at hnone
    obtain ⟨loan, hloan, rfl⟩ := hnone
    exact .inr ⟨loan, under_eq_singleton h hloan⟩

/-- Settling a key takes its one loan out of those still out. -/
theorem outstanding_perm_settle {book : LoanBook κ β} {key : κ} {loan : Loan κ β}
    (h : book.under key = [loan]) :
    book.outstanding.Perm (loan :: (book.settle key).outstanding) := by
  have hsplit := List.filter_append_perm (fun loan ↦ decide (loan.key = key)) book.outstanding
  rw [← under, h] at hsplit
  exact hsplit.symm

end LoanBook

end WLManager
