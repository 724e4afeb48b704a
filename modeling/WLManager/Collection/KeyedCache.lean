import Mathlib.Data.List.AList
import WLManager.Transition.Run

/-!
# A cache that never evicts

A cache answers a request for a key with the content it was first asked to keep for that key, and
forgets everything at once when it is flushed. Whether it ever answers with stale content depends
on the requests alone: it does exactly when two requests for one key, with no flush between them,
come with different contents.
-/

namespace WLManager.KeyedCache

open Transition

variable {κ ν : Type*} [DecidableEq κ]

/-- A request for a key, with the content it stands for at the moment, or a flush. -/
inductive Call (κ ν : Type*)
  | get (key : κ) (content : ν)
  | flush

def serve (cache : AList fun _ : κ ↦ ν) (key : κ) (content : ν) : ν :=
  (cache.lookup key).getD content

/-- One call; a request is kept only where there is nothing yet. -/
def step (cache : AList fun _ : κ ↦ ν) : Call κ ν → Option (AList fun _ : κ ↦ ν)
  | .get key content =>
    if (cache.lookup key).isNone then some (cache.insert key content) else some cache
  | .flush => some ∅

/-- The answer is the content of the request itself. -/
def Fresh (cache : AList fun _ : κ ↦ ν) : Call κ ν → Prop
  | .get key content => serve cache key content = content
  | .flush => True

/-- Requests for one key come with one content between flushes. -/
def Consistent (calls : List (Call κ ν)) : Prop :=
  ∀ before between after key first second,
    calls = before ++ .get key first :: (between ++ .get key second :: after) →
      .flush ∉ between → first = second

theorem fresh_get_iff {cache : AList fun _ : κ ↦ ν} {key : κ} {content : ν} :
    Fresh cache (.get key content) ↔ ∀ kept, cache.lookup key = some kept → kept = content := by
  rw [Fresh, serve]
  cases cache.lookup key with
  | none => exact iff_of_true rfl nofun
  | some kept => simp only [Option.getD_some, Option.some.injEq, forall_eq']

/-- After a fresh answer the cache keeps the content of the request. -/
theorem lookup_step_get {cache cache' : AList fun _ : κ ↦ ν} {key : κ} {content : ν}
    (hfresh : Fresh cache (.get key content))
    (hstep : step cache (.get key content) = some cache') :
    cache'.lookup key = some content := by
  rw [fresh_get_iff] at hfresh
  cases hlookup : cache.lookup key with
  | none =>
    simp only [step, hlookup, Option.isNone_none, if_true, Option.some.injEq] at hstep
    rw [← hstep, AList.lookup_insert]
  | some kept =>
    simp only [step, hlookup, Option.isNone_some, Bool.false_eq_true, if_false,
      Option.some.injEq] at hstep
    rw [← hstep, hlookup, hfresh kept hlookup]

/-- What is kept after a key that was not there has been inserted. -/
theorem lookup_insert_iff {cache : AList fun _ : κ ↦ ν} {key other : κ} {content kept : ν}
    (hnew : cache.lookup key = none) :
    (cache.insert key content).lookup other = some kept ↔
      (other = key ∧ kept = content) ∨ cache.lookup other = some kept := by
  by_cases hother : other = key
  · subst hother
    rw [AList.lookup_insert, hnew, Option.some.injEq, eq_comm]
    simp only [true_and, reduceCtorEq, or_false]
  · rw [AList.lookup_insert_ne hother]
    simp only [hother, false_and, false_or]

theorem lookup_get {cache cache' : AList fun _ : κ ↦ ν} {key : κ} {content : ν}
    (hstep : step cache (.get key content) = some cache') (other : κ) :
    cache'.lookup other = (cache.lookup other).or (if other = key then some content else none) := by
  cases hlookup : cache.lookup key with
  | none =>
    simp only [step, hlookup, Option.isNone_none, if_true, Option.some.injEq] at hstep
    subst hstep
    by_cases hother : other = key
    · rw [hother, AList.lookup_insert, hlookup, if_pos rfl, Option.none_or]
    · rw [AList.lookup_insert_ne hother, if_neg hother, Option.or_none]
  | some kept =>
    simp only [step, hlookup, Option.isNone_some, Bool.false_eq_true, if_false,
      Option.some.injEq] at hstep
    subst hstep
    by_cases hother : other = key
    · rw [hother, hlookup, Option.some_or]
    · rw [if_neg hother, Option.or_none]

/-- A cache that keeps different contents for different keys goes on doing so when it takes up new
content. -/
theorem injective_insert {cache : AList fun _ : κ ↦ ν} {key : κ} {content : ν}
    (hinjective : ∀ first second kept, cache.lookup first = some kept →
      cache.lookup second = some kept → first = second)
    (hnew : cache.lookup key = none) (hcontent : ∀ other, cache.lookup other ≠ some content) :
    ∀ first second kept, (cache.insert key content).lookup first = some kept →
      (cache.insert key content).lookup second = some kept → first = second := by
  intro first second kept hfirst hsecond
  rw [lookup_insert_iff hnew] at hfirst hsecond
  rcases hfirst with ⟨rfl, rfl⟩ | hfirst
  · rcases hsecond with ⟨rfl, -⟩ | hsecond
    · rfl
    · exact absurd hsecond (hcontent second)
  · rcases hsecond with ⟨-, rfl⟩ | hsecond
    · exact absurd hfirst (hcontent first)
    · exact hinjective first second kept hfirst hsecond

/-- What is kept stays kept until the next flush. -/
theorem lookup_step_of_ne_flush {cache cache' : AList fun _ : κ ↦ ν} {call : Call κ ν} {key : κ}
    {kept : ν} (hkept : cache.lookup key = some kept) (hcall : call ≠ .flush)
    (hstep : step cache call = some cache') : cache'.lookup key = some kept := by
  cases call with
  | flush => exact absurd rfl hcall
  | get other content =>
    by_cases hother : (cache.lookup other).isNone
    · have hne : key ≠ other := by
        rintro rfl
        rw [hkept] at hother
        cases hother
      simp only [step, hother, if_true, Option.some.injEq] at hstep
      rw [← hstep, AList.lookup_insert_ne hne, hkept]
    · simp only [step, hother, Bool.false_eq_true, if_false, Option.some.injEq] at hstep
      rw [← hstep, hkept]

theorem lookup_run_of_no_flush {cache cache' : AList fun _ : κ ↦ ν} {calls : List (Call κ ν)}
    {key : κ} {kept : ν} (hkept : cache.lookup key = some kept) (hflush : .flush ∉ calls)
    (hrun : run step cache calls = some cache') : cache'.lookup key = some kept := by
  have hcond : StepsAll step (fun _ call ↦ call ≠ .flush) cache calls := by
    apply stepsAll_of_forall
    rintro call hcall _ rfl
    exact hflush hcall
  have hstep : ∀ (cache : AList fun _ : κ ↦ ν) (call : Call κ ν) (cache' : AList fun _ : κ ↦ ν),
      cache.lookup key = some kept → call ≠ .flush → step cache call = some cache' →
        cache'.lookup key = some kept :=
    fun _ _ _ hkept hcall hstep ↦ lookup_step_of_ne_flush hkept hcall hstep
  exact run_invariant hstep hkept hcond hrun

/-- Whatever is kept was asked for since the last flush. -/
theorem exists_get_of_lookup {cache : AList fun _ : κ ↦ ν} {calls : List (Call κ ν)} {key : κ}
    {kept : ν} (hrun : run step ∅ calls = some cache) (hkept : cache.lookup key = some kept) :
    ∃ before between, calls = before ++ .get key kept :: between ∧ .flush ∉ between := by
  induction calls using List.reverseRecOn generalizing cache with
  | nil =>
    cases hrun
    rw [AList.lookup_empty] at hkept
    cases hkept
  | append_singleton calls call ih =>
    obtain ⟨cache', hrun', hstep⟩ := run_snoc_eq_some.mp hrun
    have hold : call ≠ .flush → cache'.lookup key = some kept →
        ∃ before between, calls ++ [call] = before ++ .get key kept :: between ∧
          .flush ∉ between := by
      intro hcall hkept'
      obtain ⟨before, between, rfl, hflush⟩ := ih hrun' hkept'
      refine ⟨before, between ++ [call], by rw [List.append_assoc, List.cons_append], ?_⟩
      rw [List.mem_append, List.mem_singleton, not_or]
      exact ⟨hflush, hcall.symm⟩
    cases call with
    | flush =>
      cases hstep
      rw [AList.lookup_empty] at hkept
      cases hkept
    | get other content =>
      by_cases hother : (cache'.lookup other).isNone
      · simp only [step, hother, if_true, Option.some.injEq] at hstep
        subst hstep
        rw [lookup_insert_iff (Option.isNone_iff_eq_none.mp hother)] at hkept
        rcases hkept with ⟨rfl, rfl⟩ | hkept
        · exact ⟨calls, [], rfl, List.not_mem_nil⟩
        · exact hold nofun hkept
      · simp only [step, hother, Bool.false_eq_true, if_false, Option.some.injEq] at hstep
        subst hstep
        exact hold nofun hkept

theorem run_isSome (cache : AList fun _ : κ ↦ ν) (calls : List (Call κ ν)) :
    ∃ cache', run step cache calls = some cache' := by
  induction calls generalizing cache with
  | nil => exact ⟨cache, rfl⟩
  | cons call calls ih =>
    have hstep : ∃ next, step cache call = some next := by
      cases call with
      | flush => exact ⟨∅, rfl⟩
      | get key content =>
        simp only [step]
        split_ifs
        · exact ⟨_, rfl⟩
        · exact ⟨_, rfl⟩
    obtain ⟨next, hnext⟩ := hstep
    obtain ⟨cache', hrun⟩ := ih next
    exact ⟨cache', by rw [run_cons, hnext, Option.bind_some, hrun]⟩

/-- No answer is stale exactly when the requests are consistent. -/
theorem stepsAll_fresh_iff_consistent {calls : List (Call κ ν)} :
    StepsAll step Fresh ∅ calls ↔ Consistent calls := by
  rw [stepsAll_iff_split]
  constructor
  · rintro hfresh before between after key first second rfl hflush
    obtain ⟨cache, hcache⟩ := run_isSome (∅ : AList fun _ : κ ↦ ν) before
    have hfirst := hfresh before (.get key first) _ rfl cache hcache
    obtain ⟨next, hnext⟩ := run_isSome cache [.get key first]
    have hstep : step cache (.get key first) = some next := by simpa using hnext
    have hkept := lookup_step_get hfirst hstep
    obtain ⟨last, hlast⟩ := run_isSome next between
    have hrun : run step ∅ (before ++ .get key first :: between) = some last := by
      rw [run_append, hcache, Option.bind_some, run_cons, hstep, Option.bind_some, hlast]
    have hsecond := hfresh (before ++ .get key first :: between) (.get key second) after
      (by rw [List.append_assoc, List.cons_append]) last hrun
    exact fresh_get_iff.mp hsecond first (lookup_run_of_no_flush hkept hflush hlast)
  · rintro hconsistent before call after rfl cache hcache
    cases call with
    | flush => trivial
    | get key content =>
      rw [fresh_get_iff]
      intro kept hkept
      obtain ⟨earlier, between, rfl, hflush⟩ := exists_get_of_lookup hcache hkept
      refine hconsistent earlier between after key kept content ?_ hflush
      rw [List.append_assoc, List.cons_append]

end WLManager.KeyedCache
