import WLManager.Client.BufferLifetime

/-!
# Taking the window down

`initialize` gives the window a `wl_surface`, an `xdg_surface` on it and an `xdg_toplevel` on that.
`finalize` should destroy these three, the upper ones first, and have nothing left to do when it
is called again. It is written for the shell that `initialize` no longer uses: it destroys
`w_shell_surface`, which nothing ever writes, and of the three objects only the `wl_surface`.
-/

namespace WLManager

open History Transition

/-- The objects that make up a window. -/
def Interface.IsWindow : Interface → Prop
  | .wl_surface | .xdg_surface | .xdg_toplevel | .wl_shell_surface => True
  | _ => False

/-- The first object was created on the second. -/
def RestsOn (log : List (Entry Request)) (upper lower : Interface × Ptr) : Prop :=
  ∃ id e, upper.2 = .obj id ∧ log[id]? = some e ∧ e.created = true ∧
    Signature.constructs e.request = some upper.1 ∧ lower ∈ Signature.uses e.request

/-- The request at this position destroys this window object. -/
def DestroysAt (more : List (Entry Request)) (i : ℕ) (u : Interface × Ptr) : Prop :=
  ∃ e : Entry Request, more[i]? = some e ∧ Signature.destroys e.request = some u ∧ u.1.IsWindow

/-- The requests that follow a history destroy the window objects that exist after it: nothing
else, each of them once, and those created on others before these. -/
structure DestroysWindow (log more : List (Entry Request)) : Prop where
  existing : ∀ i kind p, DestroysAt more i (kind, p) → Extant (log ++ more.take i) kind p
  everything : ∀ kind p, kind.IsWindow → Extant log kind p → ∃ i, DestroysAt more i (kind, p)
  once : ∀ i j u, DestroysAt more i u → DestroysAt more j u → i = j
  ordered : ∀ i j upper lower, DestroysAt more i upper → DestroysAt more j lower →
    RestsOn log upper lower → i < j

namespace WindowManager

/-- The window manager, and whether `finalize` has been called since the last `initialize`. -/
structure WindowSession where
  wm : WindowManager
  finalized : Bool

namespace WindowSession

/-- A call of `initialize`, which gets a surface or not, of `pushFrame` or of `finalize`. -/
inductive Call
  | setUp (created : Bool)
  | pushFrame (frame : Frame)
  | finalize

def start (answers : StartAnswers) : WindowSession where
  wm := construct answers
  finalized := false

def step (s : WindowSession) : Call → Option WindowSession
  | .setUp created => some ⟨(s.wm.runInitialize created).1, false⟩
  | .pushFrame frame => some ⟨s.wm.pushFrame frame, s.finalized⟩
  | .finalize => some ⟨s.wm.finalize, true⟩

/-- A call of `finalize` destroys the window; a second one issues no request. -/
def TearsDown (s : WindowSession) : Call → Prop
  | .finalize =>
    if s.finalized then s.wm.issued s.wm.finalize = []
    else DestroysWindow s.wm.log (s.wm.issued s.wm.finalize)
  | .setUp _ | .pushFrame _ => True

def ShellUnwritten (s : WindowSession) : Prop := s.wm.w_shell_surface = .indeterminate

theorem shellUnwritten_start (answers : StartAnswers) : (start answers).ShellUnwritten := by
  have hmembers := ownMembers_construct answers
  simp only [ownMembers, Prod.mk.injEq] at hmembers
  exact hmembers.2.1

theorem ShellUnwritten.step {s t : WindowSession} {a : Call} (h : s.ShellUnwritten)
    (hstep : s.step a = some t) : t.ShellUnwritten := by
  cases a with
  | setUp created =>
    cases hstep
    cases created <;> exact h
  | pushFrame frame =>
    cases hstep
    change (s.wm.pushFrame frame).w_shell_surface = _
    rw [pushFrame_eq]
    change (cacheBuffer frame s.wm).w_shell_surface = _
    cases hlookup : s.wm.buffer_map.lookup frame.buffer with
    | some p =>
      rw [cacheBuffer_hit hlookup]
      exact h
    | none =>
      rw [cacheBuffer_miss hlookup]
      exact h
  | finalize =>
    cases hstep
    change s.wm.finalize.w_shell_surface = _
    rw [finalize, foldl_send]
    exact h

theorem issued_finalize (wm : WindowManager) :
    wm.issued wm.finalize =
      (wm.bufferEntries.map fun entry ↦ ⟨.wl_buffer_destroy entry.2, true⟩) ++
        [⟨.wl_shell_surface_destroy wm.w_shell_surface, true⟩,
          ⟨.wl_surface_destroy wm.w_surface, true⟩] := by
  apply issued_of_append
  rw [finalize_eq]
  change wm.destroyBuffers.log ++ _ ++ _ = _
  rw [destroyBuffers_log, List.append_assoc, List.append_assoc]
  rfl

/-- Every call of `finalize` destroys an object nobody has created. -/
theorem ShellUnwritten.not_tearsDown_finalize {s : WindowSession} (h : s.ShellUnwritten) :
    ¬ s.TearsDown .finalize := by
  unfold TearsDown
  rw [issued_finalize]
  split_ifs
  · exact List.append_ne_nil_of_right_ne_nil _ (List.cons_ne_nil _ _)
  · intro hdestroys
    have hshell : DestroysAt ((s.wm.bufferEntries.map fun entry ↦
        (⟨.wl_buffer_destroy entry.2, true⟩ : Entry Request)) ++
          [⟨.wl_shell_surface_destroy s.wm.w_shell_surface, true⟩,
            ⟨.wl_surface_destroy s.wm.w_surface, true⟩])
        (s.wm.bufferEntries.map fun entry ↦
          (⟨.wl_buffer_destroy entry.2, true⟩ : Entry Request)).length
        (.wl_shell_surface, s.wm.w_shell_surface) := by
      refine ⟨⟨.wl_shell_surface_destroy s.wm.w_shell_surface, true⟩, ?_, rfl, trivial⟩
      rw [List.getElem?_append_right le_rfl, Nat.sub_self]
      rfl
    obtain ⟨id, hp, -⟩ := (hdestroys.existing _ _ _ hshell).created
    rw [h] at hp
    cases hp

/-- In a run that begins with a successful `initialize`, every call of `finalize` takes the window
down as it was set up exactly when there is no such call. -/
theorem tearsDown_iff_not_finalized (answers : StartAnswers) (calls : List Call) :
    StepsAll step TearsDown (start answers) (.setUp true :: calls) ↔ .finalize ∉ calls := by
  have hiff : ∀ s a, ShellUnwritten s → True → (TearsDown s a ↔ a ≠ .finalize) := by
    intro s a h _
    cases a with
    | setUp | pushFrame => exact iff_of_true trivial nofun
    | finalize => exact iff_of_false h.not_tearsDown_finalize (not_not_intro rfl)
  have hkeep : ∀ s a t, ShellUnwritten s → True → a ≠ .finalize → step s a = some t →
      ShellUnwritten t := fun _ _ _ h _ _ hstep ↦ h.step hstep
  have hreturns : ∀ s a, ShellUnwritten s → True → a ≠ .finalize →
      ∃ t, step s a = some t ∧ ShellUnwritten t := by
    intro s a h _ _
    obtain ⟨t, ht⟩ : ∃ t, step s a = some t := by cases a <;> exact ⟨_, rfl⟩
    exact ⟨t, ht, h.step ht⟩
  have hinit := shellUnwritten_start answers
  rw [stepsAll_iff_of_invariant hiff hkeep hinit stepsAll_true,
    stepsAll_iff_forall_mem hreturns hinit stepsAll_true]
  constructor
  · intro hnone hmem
    exact hnone _ (List.mem_cons_of_mem _ hmem) rfl
  · rintro hnone a ha rfl
    rcases List.mem_cons.mp ha with hfirst | hmem
    · cases hfirst
    · exact hnone hmem

/-- One window, set up and taken down. -/
theorem not_tearsDown_finalized :
    ¬ StepsAll step TearsDown (start .prompt) [.setUp true, .finalize] := by
  intro h
  have hinitialized : ShellUnwritten ⟨((construct .prompt).runInitialize true).1, false⟩ :=
    (shellUnwritten_start .prompt).step (a := .setUp true) rfl
  exact hinitialized.not_tearsDown_finalize (h.2 _ rfl).1

end WindowSession

end WindowManager

end WLManager
