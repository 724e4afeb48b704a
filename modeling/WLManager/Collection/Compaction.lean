import Mathlib.Algebra.Order.Ring.Nat
import WLManager.Transition.Run

/-!
# Compacting an array in place

A reader and a writer walk the same array. A `copy` writes the element under the reader to where
the writer stands and moves both on, a `skip` moves the reader alone. Since the writer never
overtakes the reader, it only writes where the reader has been: the elements from the writer on are
still the original ones, whatever the moves were.

Keeping `keep` elements out of every `keep + drop` leaves the kept blocks side by side at the front
and everything behind them untouched.
-/

namespace WLManager

open Transition

/-- An array, where the writer stands in it and where the reader does. -/
structure Cursors (α : Type*) where
  memory : List α
  writePtr : ℕ
  readPtr : ℕ

namespace Cursors

variable {α : Type*}

inductive Move
  | copy
  | skip

/-- Both cursors at the front. -/
def start (original : List α) : Cursors α := ⟨original, 0, 0⟩

/-- One move; there is none past the end of the array. -/
def step (c : Cursors α) : Move → Option (Cursors α)
  | .copy =>
    if c.writePtr < c.memory.length then
      c.memory[c.readPtr]?.map fun a ↦
        ⟨c.memory.set c.writePtr a, c.writePtr + 1, c.readPtr + 1⟩
    else none
  | .skip => if c.readPtr < c.memory.length then some { c with readPtr := c.readPtr + 1 } else none

/-- Nothing from the writer on has been overwritten. -/
structure Intact (original : List α) (c : Cursors α) : Prop where
  behind : c.writePtr ≤ c.readPtr
  length_eq : c.memory.length = original.length
  rest : ∀ p, c.writePtr ≤ p → c.memory[p]? = original[p]?

variable {original : List α} {c : Cursors α}

theorem intact_start (original : List α) : (start original).Intact original where
  behind := le_rfl
  length_eq := rfl
  rest _ _ := rfl

/-- What a copy does while the array is intact from the writer on. -/
theorem Intact.step_copy (h : c.Intact original) {a : α} (ha : original[c.readPtr]? = some a) :
    c.step .copy =
      some ⟨c.memory.set c.writePtr a, c.writePtr + 1, c.readPtr + 1⟩ := by
  obtain ⟨hlt, -⟩ := List.getElem?_eq_some_iff.mp ha
  have hwrite : c.writePtr < c.memory.length := h.length_eq ▸ h.behind.trans_lt hlt
  unfold step
  rw [if_pos hwrite, h.rest _ h.behind, ha]
  rfl

/-- The written part grows by the copied element. -/
theorem Intact.take_copy (h : c.Intact original) (hread : c.readPtr < original.length) (a : α) :
    (c.memory.set c.writePtr a).take (c.writePtr + 1) = c.memory.take c.writePtr ++ [a] := by
  have hlt : c.writePtr < c.memory.length := h.length_eq ▸ h.behind.trans_lt hread
  rw [List.take_add_one, List.take_set_of_le le_rfl, List.getElem?_set_self hlt]
  rfl

theorem Intact.step_skip (h : c.Intact original) (hread : c.readPtr < original.length) :
    c.step .skip = some { c with readPtr := c.readPtr + 1 } := by
  unfold step
  exact if_pos (h.length_eq.symm ▸ hread)

theorem Intact.step {c' : Cursors α} {move : Move} (h : c.Intact original)
    (hstep : c.step move = some c') : c'.Intact original := by
  cases move with
  | copy =>
    obtain ⟨-, hread⟩ := Option.ite_none_right_eq_some.mp hstep
    obtain ⟨a, -, rfl⟩ := Option.map_eq_some_iff.mp hread
    exact {
      behind := Nat.succ_le_succ h.behind
      length_eq := List.length_set.trans h.length_eq
      rest := fun p hp ↦ by
        rw [List.getElem?_set_ne (Nat.ne_of_lt hp)]
        exact h.rest p (Nat.le_of_succ_le hp) }
  | skip =>
    obtain ⟨-, hskip⟩ := Option.ite_none_right_eq_some.mp hstep
    cases hskip
    exact ⟨h.behind.trans (Nat.le_succ _), h.length_eq, h.rest⟩

/-- However the cursors move, the reader only finds original elements. -/
theorem statesAll_unread (original : List α) (moves : List Move) :
    StatesAll step (fun c ↦ ∀ p, c.readPtr ≤ p → c.memory[p]? = original[p]?)
      (start original) moves := by
  have hintact : StatesAll step (Intact original) (start original) moves :=
    statesAll_of_stepsAll (fun _ _ _ h _ hstep ↦ h.step hstep) (intact_start original)
      stepsAll_true
  exact hintact.mono fun c h p hp ↦ h.rest p (h.behind.trans hp)

/-! ## Blocks -/

/-- A block of the array. -/
def block (original : List α) (first length : ℕ) : List α := (original.drop first).take length

theorem length_block {first length : ℕ} (h : first + length ≤ original.length) :
    (block original first length).length = length := by
  unfold block
  rw [List.length_take, List.length_drop]
  omega

theorem getElem?_block {first length k : ℕ} (hk : k < length) :
    (block original first length)[k]? = original[first + k]? := by
  unfold block
  rw [List.getElem?_take_of_lt hk, List.getElem?_drop]

theorem block_succ {first length : ℕ} {a : α} (ha : original[first + length]? = some a) :
    block original first (length + 1) = block original first length ++ [a] := by
  unfold block
  rw [List.take_add_one, List.getElem?_drop, ha]
  rfl

/-- A run of copies appends a block to what has been written. -/
theorem Intact.run_copies (h : c.Intact original) {length : ℕ}
    (hlength : c.readPtr + length ≤ original.length) :
    ∃ c', run Cursors.step c (List.replicate length .copy) = some c' ∧ c'.Intact original ∧
      c'.writePtr = c.writePtr + length ∧ c'.readPtr = c.readPtr + length ∧
      c'.memory.take c'.writePtr =
        c.memory.take c.writePtr ++ block original c.readPtr length := by
  induction length with
  | zero =>
    refine ⟨c, rfl, h, rfl, rfl, ?_⟩
    unfold block
    rw [List.take_zero, List.append_nil]
  | succ length ih =>
    obtain ⟨u, hrun, hu, hwrite, hread, htake⟩ := ih (Nat.le_of_succ_le hlength)
    obtain ⟨a, ha⟩ : ∃ a, original[c.readPtr + length]? = some a :=
      ⟨_, List.getElem?_eq_getElem hlength⟩
    have hstep := hu.step_copy (hread ▸ ha)
    refine ⟨_, ?_, hu.step hstep, ?_, ?_, ?_⟩
    · rw [List.replicate_succ', run_snoc_eq_some]
      exact ⟨u, hrun, hstep⟩
    · exact congrArg (· + 1) hwrite
    · exact congrArg (· + 1) hread
    · calc
        (u.memory.set u.writePtr a).take (u.writePtr + 1) = u.memory.take u.writePtr ++ [a] :=
          hu.take_copy (hread ▸ hlength) a
        _ = (c.memory.take c.writePtr ++ block original c.readPtr length) ++ [a] := by rw [htake]
        _ = c.memory.take c.writePtr ++ block original c.readPtr (length + 1) := by
          rw [List.append_assoc, block_succ ha]

theorem Intact.run_skips (h : c.Intact original) {length : ℕ}
    (hlength : c.readPtr + length ≤ original.length) :
    run Cursors.step c (List.replicate length .skip) =
      some { c with readPtr := c.readPtr + length } := by
  induction length with
  | zero => rfl
  | succ length ih =>
    have hbefore := ih (Nat.le_of_succ_le hlength)
    have hintact := run_invariant' (fun _ _ _ ↦ Intact.step) h hbefore
    rw [List.replicate_succ', run_snoc_eq_some]
    exact ⟨_, hbefore, hintact.step_skip hlength⟩

/-! ## Keeping a part of every block -/

/-- The moves that keep `keep` elements and pass over `drop`, `count` times. -/
def compaction (keep drop count : ℕ) : List Move :=
  (List.replicate count (List.replicate keep .copy ++ List.replicate drop .skip)).flatten

/-- The blocks that are kept. -/
def kept (original : List α) (keep drop count : ℕ) : List α :=
  (List.range count).flatMap fun i ↦ block original ((keep + drop) * i) keep

theorem kept_succ (original : List α) (keep drop count : ℕ) :
    kept original keep drop (count + 1) =
      kept original keep drop count ++ block original ((keep + drop) * count) keep := by
  unfold kept
  rw [List.range_succ, List.flatMap_append, List.flatMap_singleton]

theorem length_kept {keep drop count : ℕ} (h : (keep + drop) * count ≤ original.length) :
    (kept original keep drop count).length = keep * count := by
  induction count with
  | zero => rfl
  | succ count ih =>
    rw [Nat.mul_succ] at h
    have hblock : (block original ((keep + drop) * count) keep).length = keep :=
      length_block (by omega)
    rw [kept_succ, List.length_append, ih (by omega), hblock, Nat.mul_succ]

/-- Where an element of the kept blocks comes from. -/
theorem getElem?_kept {keep drop count i k : ℕ} (h : (keep + drop) * count ≤ original.length)
    (hi : i < count) (hk : k < keep) :
    (kept original keep drop count)[keep * i + k]? = original[(keep + drop) * i + k]? := by
  induction count with
  | zero => exact absurd hi (Nat.not_lt_zero i)
  | succ count ih =>
    rw [Nat.mul_succ] at h
    have hbefore : (keep + drop) * count ≤ original.length := by omega
    have hlength := length_kept hbefore
    rw [kept_succ]
    rcases Nat.lt_succ_iff_lt_or_eq.mp hi with hlt | rfl
    · have hinside : keep * i + k < (kept original keep drop count).length := by
        calc
          keep * i + k < keep * i + keep := Nat.add_lt_add_left hk _
          _ = keep * (i + 1) := (Nat.mul_succ keep i).symm
          _ ≤ keep * count := Nat.mul_le_mul_left keep hlt
          _ = _ := hlength.symm
      rw [List.getElem?_append_left hinside, ih hbefore hlt]
    · rw [List.getElem?_append_right (by omega), hlength, Nat.add_sub_cancel_left,
        getElem?_block hk]

/-- A compaction that stays within the array moves the kept blocks to the front. -/
theorem run_compaction {keep drop count : ℕ} (h : (keep + drop) * count ≤ original.length) :
    ∃ c, run step (start original) (compaction keep drop count) = some c ∧ c.Intact original ∧
      c.writePtr = keep * count ∧ c.readPtr = (keep + drop) * count ∧
      c.memory.take c.writePtr = kept original keep drop count := by
  induction count with
  | zero => exact ⟨start original, rfl, intact_start original, rfl, rfl, rfl⟩
  | succ count ih =>
    rw [Nat.mul_succ] at h
    obtain ⟨u, hrun, hu, hwrite, hread, htake⟩ := ih (by omega)
    have hkeep : u.readPtr + keep ≤ original.length := by omega
    obtain ⟨v, hcopies, hv, hwrite', hread', htake'⟩ := hu.run_copies hkeep
    have hdrop : v.readPtr + drop ≤ original.length := by omega
    have hskips := hv.run_skips hdrop
    refine ⟨_, ?_, run_invariant' (fun _ _ _ ↦ Intact.step) hv hskips, ?_, ?_, ?_⟩
    · unfold compaction at hrun ⊢
      rw [List.replicate_succ', List.flatten_append, List.flatten_singleton, run_append, hrun,
        Option.bind_some, run_append, hcopies, Option.bind_some, hskips]
    · change v.writePtr = _
      rw [hwrite', hwrite, Nat.mul_succ]
    · change v.readPtr + drop = _
      rw [hread', hread, Nat.mul_succ, Nat.add_assoc]
    · calc
        v.memory.take v.writePtr = u.memory.take u.writePtr ++ block original u.readPtr keep :=
          htake'
        _ = kept original keep drop count ++ block original ((keep + drop) * count) keep := by
          rw [htake, hread]
        _ = kept original keep drop (count + 1) := (kept_succ original keep drop count).symm

end Cursors

end WLManager
