import WLManager.Client.Program

/-!
# What is left of the GL programs

No call of `Program` leaves a shader behind, and a failed setup leaves no program. A setup that
succeeds forgets the program that was held before, so that just one program exists in exactly the
runs in which none succeeds while one is held. A setup that fails has already written the type and
perhaps the locations, so that a program that is held keeps what it was set up with in exactly the
runs in which no failing setup comes upon it, unless it is for the same type and fails before the
look-ups. And a draw with a program of unknown type leaves vertex arrays enabled, if the locations
are those of arrays.
-/

namespace WLManager

open History Transition

/-- The call enables or disables a vertex array. -/
def GlCall.isArrays {F : Type} : GlCall F → Bool
  | glEnableVertexAttribArray _ | glDisableVertexAttribArray _ => true
  | _ => false

namespace Gl

variable {F : Type} {log : List (Entry (GlCall F))} {owned : Multiset (GlObject × Ptr)}

/-! ## Shaders and programs -/

/-- Calls on objects that are owned, none of which creates or destroys. -/
theorem owns_calls (cs : List (GlCall F)) (h : Owns owned log)
    (hcs : ∀ c ∈ cs, (∀ u ∈ c.uses, u ∈ owned) ∧ c.constructs = none ∧ c.destroys = none) :
    Owns owned (log ++ calls cs) := by
  refine h.useAll fun e he ↦ ?_
  obtain ⟨c, hc, rfl⟩ := List.mem_map.mp he
  obtain ⟨huses, hconstructs, hdestroys⟩ := hcs c hc
  exact ⟨huses, rfl, hconstructs, hdestroys⟩

theorem owns_glDeleteShader {shader : Ptr} (h : Owns ((.shader, shader) ::ₘ owned) log) :
    Owns owned (log ++ calls [.glDeleteShader shader]) :=
  h.destroy (List.forall_mem_singleton.mpr (Multiset.mem_cons_self _ _)) rfl rfl rfl

theorem owns_glDeleteProgram {program : Ptr} (h : Owns ((.program, program) ::ₘ owned) log) :
    Owns owned (log ++ calls [.glDeleteProgram program]) :=
  h.destroy (List.forall_mem_singleton.mpr (Multiset.mem_cons_self _ _)) rfl rfl rfl

/-- A function with an out parameter: it adds an object, or fails and leaves nothing. -/
def Yields (kind : GlObject) (owned : Multiset (GlObject × Ptr)) (granted : Prop)
    (result : Option Ptr × List (Entry (GlCall F))) : Prop :=
  (granted ∧ ∃ id, result.1 = some (.obj id) ∧ Owns ((kind, .obj id) ::ₘ owned) result.2) ∨
    (¬ granted ∧ result.1 = none ∧ Owns owned result.2)

theorem yields_compileShader (h : Owns owned log) (shaderType : ShaderType) (src : ShaderSource)
    (answers : CompileAnswers) :
    Yields .shader owned (answers.glCreateShader = true ∧ answers.compiled = true)
      (compileShader log shaderType src answers) := by
  unfold compileShader
  cases hcreate : answers.glCreateShader with
  | false => exact .inr ⟨by simp, rfl, h.use (List.forall_mem_nil _) rfl Bool.noConfusion rfl⟩
  | true =>
    have hshader : Owns ((GlObject.shader, .obj log.length) ::ₘ owned)
        (log ++ [⟨.glCreateShader shaderType, true⟩]) :=
      h.create (List.forall_mem_nil _) rfl rfl rfl rfl
    have hcompiled := owns_calls [.glShaderSource (.obj log.length) src,
      .glCompileShader (.obj log.length),
      .glGetShaderiv (.obj log.length) "GL_COMPILE_STATUS"] hshader
      (by simp [GlCall.uses, GlCall.constructs, GlCall.destroys])
    cases hstatus : answers.compiled with
    | false =>
      have hlength := owns_calls [.glGetShaderiv (.obj log.length) "GL_INFO_LOG_LENGTH"]
        hcompiled (by simp [GlCall.uses, GlCall.constructs, GlCall.destroys])
      have hinfo := owns_calls (if answers.infoLen then
          [GlCall.glGetShaderInfoLog (.obj log.length)] else []) hlength
        (by split_ifs <;> simp [GlCall.uses, GlCall.constructs, GlCall.destroys])
      exact .inr ⟨by simp, rfl, owns_glDeleteShader hinfo⟩
    | true => exact .inl ⟨⟨rfl, rfl⟩, _, rfl, hcompiled⟩

theorem yields_linkShaderProgram {vs fs : Ptr} (h : Owns owned log)
    (hvs : (GlObject.shader, vs) ∈ owned) (hfs : (GlObject.shader, fs) ∈ owned)
    (answers : LinkAnswers) :
    Yields .program owned (answers.glCreateProgram = true ∧ answers.linkStatus = true)
      (linkShaderProgram log vs fs answers) := by
  unfold linkShaderProgram
  cases hcreate : answers.glCreateProgram with
  | false => exact .inr ⟨by simp, rfl, h.use (List.forall_mem_nil _) rfl Bool.noConfusion rfl⟩
  | true =>
    have hprogram : Owns ((GlObject.program, .obj log.length) ::ₘ owned)
        (log ++ [⟨.glCreateProgram, true⟩]) :=
      h.create (List.forall_mem_nil _) rfl rfl rfl rfl
    have hlinked := owns_calls [.glAttachShader (.obj log.length) vs,
      .glAttachShader (.obj log.length) fs, .glLinkProgram (.obj log.length),
      .glGetProgramiv (.obj log.length) "GL_LINK_STATUS"] hprogram
      (by simp [GlCall.uses, GlCall.constructs, GlCall.destroys, or_imp, forall_and, hvs, hfs])
    cases hstatus : answers.linkStatus with
    | false =>
      have hlength := owns_calls [.glGetProgramiv (.obj log.length) "GL_INFO_LOG_LENGTH"]
        hlinked (by simp [GlCall.uses, GlCall.constructs, GlCall.destroys])
      have hinfo := owns_calls (if answers.bufLength then
          [GlCall.glGetProgramInfoLog (.obj log.length)] else []) hlength
        (by split_ifs <;> simp [GlCall.uses, GlCall.constructs, GlCall.destroys])
      exact .inr ⟨by simp, rfl, owns_glDeleteProgram hinfo⟩
    | true => exact .inl ⟨⟨rfl, rfl⟩, _, rfl, hlinked⟩

/-- Both shaders compile and the program links. -/
def Builds (answers : SetupAnswers) : Prop :=
  (answers.vertex.glCreateShader = true ∧ answers.vertex.compiled = true) ∧
    (answers.fragment.glCreateShader = true ∧ answers.fragment.compiled = true) ∧
    (answers.link.glCreateProgram = true ∧ answers.link.linkStatus = true)

/-- The shaders are deleted again, whether or not they could be linked. -/
theorem yields_createProgram (h : Owns owned log) (vertexShader fragmentShader : ShaderSource)
    (answers : SetupAnswers) :
    Yields .program owned (Builds answers)
      (createProgram log vertexShader fragmentShader answers) := by
  unfold createProgram
  have hvertex := yields_compileShader h .GL_VERTEX_SHADER vertexShader answers.vertex
  generalize compileShader log .GL_VERTEX_SHADER vertexShader answers.vertex = vertex at hvertex
  obtain ⟨vs, log⟩ := vertex
  rcases hvertex with ⟨hvs, v, rfl, hvertex⟩ | ⟨hvs, rfl, hnothing⟩
  · have hfragment := yields_compileShader hvertex .GL_FRAGMENT_SHADER fragmentShader
      answers.fragment
    dsimp only
    generalize compileShader log .GL_FRAGMENT_SHADER fragmentShader answers.fragment = fragment
      at hfragment
    obtain ⟨fs, log⟩ := fragment
    rcases hfragment with ⟨hfs, f, rfl, hfragment⟩ | ⟨hfs, rfl, hnothing⟩
    · have hlink := yields_linkShaderProgram hfragment
        (Multiset.mem_cons_of_mem (Multiset.mem_cons_self _ _)) (Multiset.mem_cons_self _ _)
        answers.link
      dsimp only
      generalize linkShaderProgram log (.obj v) (.obj f) answers.link = link at hlink
      obtain ⟨program, log⟩ := link
      rcases hlink with ⟨hlinked, id, rfl, hlink⟩ | ⟨hlinked, rfl, hlink⟩
      · have hswap : Owns ((.shader, .obj v) ::ₘ (.shader, .obj f) ::ₘ (.program, .obj id) ::ₘ
            owned) log := by
          rw [Multiset.cons_swap, Multiset.cons_swap (GlObject.shader, Ptr.obj v),
            Multiset.cons_swap]
          exact hlink
        exact .inl ⟨⟨hvs, hfs, hlinked⟩, id, rfl,
          owns_glDeleteShader (owns_glDeleteShader hswap)⟩
      · have hswap : Owns ((.shader, .obj v) ::ₘ (.shader, .obj f) ::ₘ owned) log := by
          rw [Multiset.cons_swap]
          exact hlink
        exact .inr ⟨fun hbuilds ↦ hlinked hbuilds.2.2, rfl,
          owns_glDeleteShader (owns_glDeleteShader hswap)⟩
    · exact .inr ⟨fun hbuilds ↦ hfs hbuilds.2.1, rfl, owns_glDeleteShader hnothing⟩
  · exact .inr ⟨fun hbuilds ↦ hvs hbuilds.1, rfl, hnothing⟩

/-- The setup answers `NO_ERROR`. -/
def Succeeds (answers : SetupAnswers) : Prop :=
  Builds answers ∧ lookupFailed answers.locations = false

instance (answers : SetupAnswers) : Decidable (Succeeds answers) :=
  inferInstanceAs (Decidable (((_ ∧ _) ∧ (_ ∧ _) ∧ (_ ∧ _)) ∧ _ = _))

/-- Everything a setup can do: fail before the look-ups, fail at them, or hold a new program. -/
theorem setup_cases {g : Gl F} (h : Owns owned g.log) (type : ProgramType)
    (answers : SetupAnswers) :
    (¬ Builds answers ∧ ∃ log, g.setup type answers =
      (.UNKNOWN_ERROR, ⟨log, { g.program with mProgramType := type }⟩) ∧ Owns owned log) ∨
    (Builds answers ∧ lookupFailed answers.locations = true ∧ ∃ log, g.setup type answers =
      (.UNKNOWN_ERROR, ⟨log, ⟨type, g.program.mProgram, answers.locations⟩⟩) ∧ Owns owned log) ∨
    (Succeeds answers ∧ ∃ log id, g.setup type answers =
      (.NO_ERROR, ⟨log, ⟨type, .obj id, answers.locations⟩⟩) ∧
      Owns ((.program, .obj id) ::ₘ owned) log) := by
  unfold setup
  have hcreated := yields_createProgram h .kVertexShader (fragmentShader type) answers
  generalize createProgram g.log .kVertexShader (fragmentShader type) answers = created at hcreated
  obtain ⟨program, log⟩ := created
  rcases hcreated with ⟨hbuilds, id, rfl, howns⟩ | ⟨hfails, rfl, howns⟩
  · have hlookUps := owns_calls (lookUps (.obj id)) howns
      (by simp [lookUps, GlCall.uses, GlCall.constructs, GlCall.destroys])
    dsimp only
    cases hfailed : lookupFailed answers.locations with
    | true =>
      exact .inr (.inl ⟨hbuilds, rfl, _, rfl, owns_glDeleteProgram hlookUps⟩)
    | false => exact .inr (.inr ⟨⟨hbuilds, hfailed⟩, _, id, rfl, hlookUps⟩)
  · exact .inl ⟨hfails, log, rfl, howns⟩

/-- What the client has: the program it holds and those it has forgotten. -/
structure Ledger (forgotten : Multiset (GlObject × Ptr)) (g : Gl F) : Prop where
  owns : Owns (holding .program g.program.mProgram + forgotten) g.log
  programs : ∀ u ∈ forgotten, u.1 = .program
  initialised : g.program.mProgram ≠ .indeterminate

theorem ledger_start : Ledger 0 (start : Gl F) where
  owns := owns_nil
  programs u hu := absurd hu (Multiset.notMem_zero u)
  initialised := Ptr.noConfusion

theorem textureTarget_eq_none_iff {type : ProgramType} :
    textureTarget type = none ↔ type = .PROGRAM_UNKNOWN := by
  cases type <;> simp [textureTarget]

section Draw

variable [Div F] [Neg F] [IntCast F] (g : Gl F) (texName : ℕ) (texMatrix vertices texes : List F)
  (invert : Bool) (mode : DrawMode) (count : ℕ) (answers : DrawAnswers)

/-- The calls that a draw consists of, one after the other. -/
theorem draw_eq : ∃ cs : List (GlCall F),
    (g.draw texName texMatrix vertices texes invert mode count answers).2 =
      ⟨g.log ++ calls (prepareDraw g.program texMatrix vertices texes invert answers ++ cs),
        g.program⟩ ∧
    (g.program.mProgramType = .PROGRAM_UNKNOWN ∧ cs = [] ∨
      g.program.mProgramType ≠ .PROGRAM_UNKNOWN ∧ ∃ before after,
        cs = before ++ disableArrays g.program ++ after ∧
        ∀ c ∈ before ++ after, c.uses = [] ∧ c.constructs = none ∧ c.destroys = none ∧
          c.isArrays = false) := by
  unfold draw beforeDraw
  cases htarget : textureTarget g.program.mProgramType with
  | none =>
    refine ⟨[], ?_, .inl ⟨textureTarget_eq_none_iff.mp htarget, rfl⟩⟩
    simp [htarget]
  | some target =>
    have hknown : g.program.mProgramType ≠ .PROGRAM_UNKNOWN := by
      rw [ne_eq, ← textureTarget_eq_none_iff, htarget]
      exact Option.some_ne_none target
    cases hbefore : answers.noErrorBefore with
    | false =>
      refine ⟨[.glBindTexture target texName, .glUniform1i g.program.locations.muTextureLoc 0,
        .glGetError] ++ disableArrays g.program ++ [], ?_, .inr ⟨hknown, _, [], rfl, ?_⟩⟩
      · simp [htarget, calls]
      · simp [GlCall.uses, GlCall.constructs, GlCall.destroys, GlCall.isArrays]
    | true =>
      refine ⟨[.glBindTexture target texName, .glUniform1i g.program.locations.muTextureLoc 0,
        .glGetError, .glDrawArrays mode 0 count] ++ disableArrays g.program ++ [.glGetError], ?_,
        .inr ⟨hknown, _, _, rfl, ?_⟩⟩
      · cases hafter : answers.noErrorAfter <;>
          simp [htarget, hafter, afterDraw, calls]
      · simp [GlCall.uses, GlCall.constructs, GlCall.destroys, GlCall.isArrays]

theorem prepareDraw_uses (p : Program) :
    ∀ c ∈ prepareDraw p texMatrix vertices texes invert answers,
      c.uses ⊆ pointee .program p.mProgram ∧ c.constructs = none ∧ c.destroys = none := by
  simp [prepareDraw, GlCall.uses, GlCall.constructs, GlCall.destroys]

variable {g}

theorem owns_draw (h : Owns owned g.log)
    (hprogram : ∀ u ∈ pointee .program g.program.mProgram, u ∈ owned) :
    Owns owned (g.draw texName texMatrix vertices texes invert mode count answers).2.log := by
  obtain ⟨cs, hdraw, hcs⟩ := draw_eq g texName texMatrix vertices texes invert mode count answers
  rw [hdraw]
  have hpure : ∀ c : GlCall F, c.uses = [] ∧ c.constructs = none ∧ c.destroys = none →
      (∀ u ∈ c.uses, u ∈ owned) ∧ c.constructs = none ∧ c.destroys = none := by
    intro c hc
    rw [hc.1]
    exact ⟨List.forall_mem_nil _, hc.2⟩
  refine owns_calls _ h fun c hc ↦ ?_
  rcases List.mem_append.mp hc with hprepare | hrest
  · obtain ⟨huses, hother⟩ := prepareDraw_uses texMatrix vertices texes invert answers _ c hprepare
    exact ⟨fun u hu ↦ hprogram u (huses hu), hother⟩
  · rcases hcs with ⟨-, rfl⟩ | ⟨-, before, after, rfl, hother⟩
    · exact absurd hrest List.not_mem_nil
    · rw [List.append_assoc, List.mem_append, List.mem_append] at hrest
      rcases hrest with hbefore | hdisable | hafter
      · obtain ⟨huses, hconstructs, hdestroys, -⟩ := hother c (List.mem_append_left _ hbefore)
        exact hpure c ⟨huses, hconstructs, hdestroys⟩
      · revert hdisable
        simp only [disableArrays, List.mem_cons, List.not_mem_nil, or_false]
        rintro (rfl | rfl) <;> exact hpure _ ⟨rfl, rfl, rfl⟩
      · obtain ⟨huses, hconstructs, hdestroys, -⟩ := hother c (List.mem_append_right _ hafter)
        exact hpure c ⟨huses, hconstructs, hdestroys⟩

theorem draw_program :
    (g.draw texName texMatrix vertices texes invert mode count answers).2.program = g.program := by
  obtain ⟨cs, hdraw, -⟩ := draw_eq g texName texMatrix vertices texes invert mode count answers
  rw [hdraw]

theorem Ledger.draw {forgotten : Multiset (GlObject × Ptr)} (h : Ledger forgotten g) :
    Ledger forgotten (g.draw texName texMatrix vertices texes invert mode count answers).2 where
  owns := by
    rw [draw_program]
    exact owns_draw _ _ _ _ _ _ _ _ h.owns fun u hu ↦ Multiset.mem_add.mpr (.inl hu)
  programs := h.programs
  initialised := by
    rw [draw_program]
    exact h.initialised

end Draw

/-! ## Which programs exist -/

section Ledger

variable {forgotten : Multiset (GlObject × Ptr)} {g : Gl F}

theorem Ledger.no_shader (h : Ledger forgotten g) (p : Ptr) : ¬ Extant g.log GlObject.shader p := by
  rw [h.owns.extant_iff, Multiset.mem_add]
  rintro (hheld | hforgotten)
  · obtain ⟨id, -, heq⟩ := mem_pointee.mp hheld
    cases heq
  · cases h.programs _ hforgotten

/-- Just the program that is held exists. -/
def OnlyHeld (g : Gl F) : Prop :=
  ∀ p, Extant g.log GlObject.program p ↔ p = g.program.mProgram ∧ p ≠ .null

theorem Ledger.onlyHeld_iff (h : Ledger forgotten g) : g.OnlyHeld ↔ forgotten = 0 := by
  have hheld : ∀ p, (GlObject.program, p) ∈ holding GlObject.program g.program.mProgram ↔
      p = g.program.mProgram ∧ p ≠ .null := by
    intro p
    cases hptr : g.program.mProgram with
    | indeterminate => exact absurd hptr h.initialised
    | null => simp
    | obj id =>
      simp only [holding_obj, Multiset.mem_singleton, Prod.mk.injEq, true_and]
      refine (and_iff_left_of_imp ?_).symm
      rintro rfl
      exact Ptr.noConfusion
  constructor
  · intro honly
    refine Multiset.eq_zero_of_forall_notMem fun u hu ↦ ?_
    obtain ⟨kind, p⟩ := u
    cases h.programs _ hu
    have hextant := (h.owns.extant_iff .program p).mpr (Multiset.mem_add.mpr (.inr hu))
    exact Multiset.disjoint_left.mp (Multiset.nodup_add.mp h.owns.nodup).2.2
      ((hheld p).mpr ((honly p).mp hextant)) hu
  · rintro rfl p
    rw [h.owns.extant_iff, add_zero, hheld]

theorem Ledger.release (h : Ledger forgotten g) : Ledger forgotten g.release := by
  unfold Gl.release
  split_ifs with hnull
  · cases hptr : g.program.mProgram with
    | null => exact absurd hptr hnull
    | indeterminate => exact absurd hptr h.initialised
    | obj id =>
      refine ⟨?_, h.programs, Ptr.noConfusion⟩
      have howns := h.owns
      rw [hptr, holding_obj, Multiset.singleton_add] at howns
      rw [holding_null, zero_add]
      exact owns_glDeleteProgram howns
  · exact h

/-- No setup succeeds while a program is held. -/
def NoneHeld (g : Gl F) : Action F → Prop
  | .setup _ answers => Succeeds answers → g.program.mProgram = .null
  | .release | .blit _ _ _ _ _ _ _ _ | .drawTriangles _ _ _ _ _ _ => True

theorem Ledger.setup (h : Ledger forgotten g) (type : ProgramType) (answers : SetupAnswers) :
    ∃ forgotten', Ledger forgotten' (g.setup type answers).2 ∧
      (forgotten' = 0 ↔ forgotten = 0 ∧ (Succeeds answers → g.program.mProgram = .null)) := by
  rcases setup_cases h.owns type answers with ⟨hfails, log, heq, howns⟩ |
    ⟨-, hfailed, log, heq, howns⟩ | ⟨hsucceeds, log, id, heq, howns⟩
  · rw [heq]
    exact ⟨forgotten, ⟨howns, h.programs, h.initialised⟩,
      (and_iff_left fun hs ↦ absurd hs.1 hfails).symm⟩
  · rw [heq]
    refine ⟨forgotten, ⟨howns, h.programs, h.initialised⟩, (and_iff_left fun hs ↦ ?_).symm⟩
    cases hfailed.symm.trans hs.2
  · rw [heq]
    refine ⟨holding .program g.program.mProgram + forgotten, ⟨?_, ?_, Ptr.noConfusion⟩, ?_⟩
    · rw [holding_obj, Multiset.singleton_add]
      exact howns
    · intro u hu
      rcases Multiset.mem_add.mp hu with hheld | hold
      · obtain ⟨id, -, rfl⟩ := mem_pointee.mp hheld
        rfl
      · exact h.programs u hold
    · have hholding : holding GlObject.program g.program.mProgram = 0 ↔
          g.program.mProgram = .null := by
        cases hptr : g.program.mProgram with
        | indeterminate => exact absurd hptr h.initialised
        | null => simp
        | obj id => simp
      rw [← Multiset.card_eq_zero, Multiset.card_add, Nat.add_eq_zero_iff, Multiset.card_eq_zero,
        Multiset.card_eq_zero, hholding, and_comm, forall_prop_of_true hsucceeds]

end Ledger

variable [Div F] [Neg F] [IntCast F]

theorem ledger_step {g g' : Gl F} {a : Action F} (h : ∃ forgotten, Ledger forgotten g)
    (hstep : step g a = some g') :
    (∃ forgotten, Ledger forgotten g') ∧ (g'.OnlyHeld ↔ g.OnlyHeld ∧ g.NoneHeld a) := by
  obtain ⟨forgotten, hledger⟩ := h
  have hkept : ∀ g'' : Gl F, Ledger forgotten g'' → (g''.OnlyHeld ↔ g.OnlyHeld ∧ True) := by
    intro g'' h''
    rw [h''.onlyHeld_iff, hledger.onlyHeld_iff, and_true]
  cases a with
  | setup type answers =>
    cases hstep
    obtain ⟨forgotten', hafter, hiff⟩ := hledger.setup type answers
    refine ⟨⟨forgotten', hafter⟩, ?_⟩
    rw [hafter.onlyHeld_iff, hledger.onlyHeld_iff]
    exact hiff
  | release =>
    cases hstep
    exact ⟨⟨forgotten, hledger.release⟩, hkept _ hledger.release⟩
  | blit texName texMatrix x y w h invert answers =>
    cases hstep
    have hafter := hledger.draw texName texMatrix (blitPos x y w h) blitUv invert
      .GL_TRIANGLE_STRIP 4 answers
    exact ⟨⟨forgotten, hafter⟩, hkept _ hafter⟩
  | drawTriangles texName texMatrix vertices texes count answers =>
    cases hstep
    have hafter := hledger.draw texName texMatrix vertices texes false .GL_TRIANGLES count answers
    exact ⟨⟨forgotten, hafter⟩, hkept _ hafter⟩

/-- GL answers a setup with success. -/
def works : SetupAnswers :=
  ⟨⟨true, true, false⟩, ⟨true, true, false⟩, ⟨true, true, false⟩, ⟨0, 1, 0, 1, 2⟩⟩

/-- Two setups, with no release between them. -/
def setupTwice : List (Action ℚ) :=
  [.setup .PROGRAM_EXTERNAL_TEXTURE works, .setup .PROGRAM_EXTERNAL_TEXTURE works]

/-- What the program that is held came from, after one more call. -/
def builtNext (built : Option (ProgramType × Locations)) :
    Action F → Option (ProgramType × Locations)
  | .setup type answers => if Succeeds answers then some (type, answers.locations) else built
  | .release => none
  | .blit _ _ _ _ _ _ _ _ | .drawTriangles _ _ _ _ _ _ => built

/-- The type and the locations of the setup that the program which is held came from, read off the
calls. -/
def built (actions : List (Action F)) : Option (ProgramType × Locations) :=
  actions.foldl builtNext none

/-- The members say what the program that is held was set up with. -/
def Fits (built : Option (ProgramType × Locations)) (g : Gl F) : Prop :=
  ∀ b, built = some b → (g.program.mProgramType, g.program.locations) = b

/-- A setup does not fail while a program is held, or it is for the same type and fails before the
look-ups. -/
def KeepsFit (g : Gl F) : Action F → Prop
  | .setup type answers => g.program.mProgram ≠ .null →
      Succeeds answers ∨ ¬ Builds answers ∧ type = g.program.mProgramType
  | .release | .blit _ _ _ _ _ _ _ _ | .drawTriangles _ _ _ _ _ _ => True

/-- A program is held exactly if the last setup that succeeded has not been released. -/
structure Tracks (built : Option (ProgramType × Locations)) (g : Gl F) : Prop where
  ledger : ∃ forgotten, Ledger forgotten g
  null_iff : g.program.mProgram = .null ↔ built = none
  found : ∀ b, built = some b → lookupFailed b.2 = false

omit [Div F] [Neg F] [IntCast F] in
theorem release_null (g : Gl F) : g.release.program.mProgram = .null := by
  unfold release
  split_ifs with hnull
  · rfl
  · exact not_not.mp hnull

section Fits

variable {g g' : Gl F} {b : Option (ProgramType × Locations)}

omit [Div F] [Neg F] [IntCast F] in
/-- Calls that leave the members alone. -/
theorem Tracks.of_program (h : Tracks b g) (hledger : ∃ forgotten, Ledger forgotten g')
    (hprogram : g'.program = g.program) :
    Tracks b g' ∧ (Fits b g → (Fits b g' ↔ True)) := by
  refine ⟨⟨hledger, ?_, h.found⟩, fun hfits ↦ iff_true_intro ?_⟩
  · rw [hprogram]
    exact h.null_iff
  · unfold Fits
    rw [hprogram]
    exact hfits

omit [Div F] [Neg F] [IntCast F] in
/-- A failed setup fits what it found there, or nothing that is held. -/
theorem Tracks.fits_failed_iff (h : Tracks b g) (hfits : Fits b g) {type : ProgramType}
    {locations : Locations} {log : List (Entry (GlCall F))} :
    Fits b ⟨log, ⟨type, g.program.mProgram, locations⟩⟩ ↔
      (g.program.mProgram ≠ .null → type = g.program.mProgramType ∧
        locations = g.program.locations) := by
  unfold Fits
  rw [ne_eq, h.null_iff]
  cases b with
  | none => simp
  | some built =>
    have heq := hfits built rfl
    simp only [Option.some.injEq, forall_eq', reduceCtorEq, not_false_eq_true, forall_const]
    rw [← heq, Prod.mk.injEq]

omit [Div F] [Neg F] [IntCast F] in
theorem Tracks.setup (h : Tracks b g) (type : ProgramType) (answers : SetupAnswers)
    (hledger : ∃ forgotten, Ledger forgotten (g.setup type answers).2) :
    Tracks (builtNext b (.setup type answers : Action F)) (g.setup type answers).2 ∧
      (Fits b g → (Fits (builtNext b (.setup type answers : Action F)) (g.setup type answers).2 ↔
        g.KeepsFit (.setup type answers))) := by
  obtain ⟨forgotten, hbefore⟩ := h.ledger
  rcases setup_cases hbefore.owns type answers with ⟨hfails, log, heq, -⟩ |
    ⟨hbuilds, hfailed, log, heq, -⟩ | ⟨hsucceeds, log, id, heq, -⟩
  · have hkept : builtNext b (.setup type answers : Action F) = b := if_neg fun hs ↦ hfails hs.1
    rw [heq] at hledger ⊢
    rw [hkept]
    refine ⟨⟨hledger, h.null_iff, h.found⟩, fun hfits ↦ ?_⟩
    rw [h.fits_failed_iff hfits]
    refine forall_congr' fun _ ↦ ?_
    have hnot : ¬ Succeeds answers := fun hs ↦ hfails hs.1
    simp [hnot, hfails]
  · have hnot : ¬ Succeeds answers := fun hs ↦ Bool.noConfusion (hfailed.symm.trans hs.2)
    have hkept : builtNext b (.setup type answers : Action F) = b := if_neg hnot
    rw [heq] at hledger ⊢
    rw [hkept]
    refine ⟨⟨hledger, h.null_iff, h.found⟩, fun hfits ↦ ?_⟩
    rw [h.fits_failed_iff hfits]
    refine forall_congr' fun hheld ↦ iff_of_false ?_ ?_
    · -- one of the new locations is missing, and none of the old ones was
      rintro ⟨-, hsame⟩
      cases b with
      | none => exact hheld (h.null_iff.mpr rfl)
      | some built =>
        have hfound := h.found built rfl
        rw [← hfits built rfl, ← hsame, hfailed] at hfound
        cases hfound
    · rintro (hs | ⟨hfails, -⟩)
      · exact hnot hs
      · exact hfails hbuilds
  · have hnew : builtNext b (.setup type answers : Action F) = some (type, answers.locations) :=
      if_pos hsucceeds
    rw [heq] at hledger ⊢
    rw [hnew]
    refine ⟨⟨hledger, by simp, ?_⟩, fun _ ↦ iff_of_true ?_ fun _ ↦ .inl hsucceeds⟩
    · intro built hbuilt
      cases hbuilt
      exact hsucceeds.2
    · intro built hbuilt
      cases hbuilt
      rfl

theorem Tracks.step {a : Action F} (h : Tracks b g) (hstep : Gl.step g a = some g') :
    Tracks (builtNext b a) g' ∧ (Fits b g → (Fits (builtNext b a) g' ↔ g.KeepsFit a)) := by
  have hledger := (ledger_step h.ledger hstep).1
  cases a with
  | setup type answers =>
    cases hstep
    exact h.setup type answers hledger
  | release =>
    cases hstep
    refine ⟨⟨hledger, iff_of_true g.release_null rfl, fun b hb ↦ ?_⟩,
      fun _ ↦ iff_of_true (fun b hb ↦ ?_) trivial⟩
    · cases hb
    · cases hb
  | blit texName texMatrix x y w height invert answers =>
    cases hstep
    exact h.of_program hledger (draw_program _ _ _ _ _ _ _ _)
  | drawTriangles texName texMatrix vertices texes count answers =>
    cases hstep
    exact h.of_program hledger (draw_program _ _ _ _ _ _ _ _)

end Fits

omit [Div F] [Neg F] [IntCast F] in
theorem built_snoc (actions : List (Action F)) (a : Action F) :
    built (actions ++ [a]) = builtNext (built actions) a := by
  unfold built
  rw [List.foldl_append]
  rfl

theorem tracks_run {actions : List (Action F)} {g : Gl F} (hrun : run step start actions = some g) :
    Tracks (built actions) g := by
  induction actions using List.reverseRecOn generalizing g with
  | nil =>
    cases hrun
    exact ⟨⟨0, ledger_start⟩, iff_of_true rfl rfl, fun b hb ↦ by cases hb⟩
  | append_singleton actions a ih =>
    obtain ⟨g', hg', hstep⟩ := run_snoc_eq_some.mp hrun
    rw [built_snoc]
    exact ((ih hg').step hstep).1

/-- Throughout a run, the type and the locations in the members are those that the program which is
held was set up with, exactly if no setup failed while a program was held, unless it was for the
same type and failed before the look-ups. -/
theorem fits_iff_keepsFit (actions : List (Action F)) :
    (∀ first, first <+: actions → ∀ g, run step start first = some g → Fits (built first) g) ↔
      StepsAll step KeepsFit start actions := by
  induction actions using List.reverseRecOn with
  | nil =>
    refine iff_of_true (fun first hfirst g hrun ↦ ?_) trivial
    rw [List.prefix_nil.mp hfirst]
    intro b hb
    cases hb
  | append_singleton actions a ih =>
    rw [stepsAll_snoc, ← ih]
    constructor
    · intro h
      refine ⟨fun first hfirst ↦ h first (hfirst.trans (List.prefix_append _ _)), fun g hg ↦ ?_⟩
      obtain ⟨g', hstep⟩ : ∃ g', step g a = some g' := by cases a <;> exact ⟨_, rfl⟩
      have hafter := h (actions ++ [a]) (List.prefix_refl _) g'
        (run_snoc_eq_some.mpr ⟨g, hg, hstep⟩)
      rw [built_snoc] at hafter
      have hfits := h actions (List.prefix_append _ _) g hg
      exact (((tracks_run hg).step hstep).2 hfits).mp hafter
    · rintro ⟨hbefore, hkeeps⟩ first hfirst g' hrun
      rcases List.prefix_concat_iff.mp hfirst with rfl | hfirst
      · obtain ⟨g, hg, hstep⟩ := run_snoc_eq_some.mp hrun
        rw [built_snoc]
        have hfits := hbefore actions (List.prefix_refl _) g hg
        exact (((tracks_run hg).step hstep).2 hfits).mpr (hkeeps g hg)
      · exact hbefore first hfirst g' hrun

/-! ## Vertex arrays -/

/-- GL has so many vertex arrays, and refuses other indices without changing anything. -/
def setArray (maxVertexAttribs : ℕ) (enabled : GLint → Bool) (index : GLint) (b : Bool) :
    GLint → Bool :=
  if index.toNat < maxVertexAttribs then Function.update enabled index b else enabled

/-- Which arrays are enabled after one more call. -/
def arrayCall (maxVertexAttribs : ℕ) (enabled : GLint → Bool) : GlCall F → GLint → Bool
  | .glEnableVertexAttribArray index => setArray maxVertexAttribs enabled index true
  | .glDisableVertexAttribArray index => setArray maxVertexAttribs enabled index false
  | _ => enabled

/-- The last call about an array enabled it. -/
def leftEnabled (maxVertexAttribs : ℕ) (log : List (Entry (GlCall F))) : GLint → Bool :=
  log.foldl (fun enabled e ↦ arrayCall maxVertexAttribs enabled e.request) fun _ ↦ false

/-- No array is left enabled. -/
def ArraysDisabled (maxVertexAttribs : ℕ) (g : Gl F) : Prop :=
  ∀ index, leftEnabled maxVertexAttribs g.log index = false

/-- Neither of the two attribute locations is the index of an array. -/
def NoArray (maxVertexAttribs : ℕ) (l : Locations) : Prop :=
  maxVertexAttribs ≤ l.maPositionLoc.toNat ∧ maxVertexAttribs ≤ l.maTextureCoordLoc.toNat

/-- A draw that does not know the type of the program finds no array that it could enable. -/
def LeavesNone (maxVertexAttribs : ℕ) (g : Gl F) : Action F → Prop
  | .blit _ _ _ _ _ _ _ _ | .drawTriangles _ _ _ _ _ _ =>
    g.program.mProgramType = .PROGRAM_UNKNOWN → NoArray maxVertexAttribs g.program.locations
  | .setup _ _ | .release => True

variable {maxVertexAttribs : ℕ}

theorem setArray_apply (enabled : GLint → Bool) (index : GLint) (b : Bool) (i : GLint) :
    setArray maxVertexAttribs enabled index b i =
      if index.toNat < maxVertexAttribs ∧ i = index then b else enabled i := by
  unfold setArray
  split_ifs with hindex hi hi
  · rw [hi.2, Function.update_self]
  · exact Function.update_of_ne (fun heq ↦ hi ⟨hindex, heq⟩) _ _
  · exact absurd hi.1 hindex
  · rfl

section Arrays

omit [Div F] [Neg F] [IntCast F]

theorem leftEnabled_calls (cs : List (GlCall F)) :
    leftEnabled maxVertexAttribs (log ++ calls cs) =
      cs.foldl (arrayCall maxVertexAttribs) (leftEnabled maxVertexAttribs log) := by
  unfold leftEnabled calls
  rw [List.foldl_append, List.foldl_map]

theorem foldl_arrayCall {cs : List (GlCall F)} (h : ∀ c ∈ cs, c.isArrays = false)
    (enabled : GLint → Bool) : cs.foldl (arrayCall maxVertexAttribs) enabled = enabled := by
  induction cs with
  | nil => rfl
  | cons c cs ih =>
    obtain ⟨hc, hcs⟩ := List.forall_mem_cons.mp h
    have hother : arrayCall maxVertexAttribs enabled c = enabled := by
      cases c <;> first | rfl | cases hc
    rw [List.foldl_cons, hother, ih hcs]

variable (maxVertexAttribs)

theorem leftEnabled_compileShader (log : List (Entry (GlCall F))) (shaderType : ShaderType)
    (src : ShaderSource) (answers : CompileAnswers) :
    leftEnabled maxVertexAttribs (compileShader log shaderType src answers).2 =
      leftEnabled maxVertexAttribs log := by
  unfold compileShader
  cases answers.glCreateShader <;> cases answers.compiled <;> cases answers.infoLen <;>
    simp [leftEnabled, calls, arrayCall]

theorem leftEnabled_linkShaderProgram (log : List (Entry (GlCall F))) (vs fs : Ptr)
    (answers : LinkAnswers) :
    leftEnabled maxVertexAttribs (linkShaderProgram log vs fs answers).2 =
      leftEnabled maxVertexAttribs log := by
  unfold linkShaderProgram
  cases answers.glCreateProgram <;> cases answers.linkStatus <;> cases answers.bufLength <;>
    simp [leftEnabled, calls, arrayCall]

theorem leftEnabled_createProgram (log : List (Entry (GlCall F)))
    (vertexShader fragmentShader : ShaderSource) (answers : SetupAnswers) :
    leftEnabled maxVertexAttribs (createProgram log vertexShader fragmentShader answers).2 =
      leftEnabled maxVertexAttribs log := by
  unfold createProgram
  have hvertex := leftEnabled_compileShader maxVertexAttribs log .GL_VERTEX_SHADER vertexShader
    answers.vertex
  generalize compileShader log .GL_VERTEX_SHADER vertexShader answers.vertex = vertex at hvertex
  obtain ⟨vs, log'⟩ := vertex
  cases vs with
  | none => exact hvertex
  | some vs =>
    have hfragment := leftEnabled_compileShader maxVertexAttribs log' .GL_FRAGMENT_SHADER
      fragmentShader answers.fragment
    dsimp only
    generalize compileShader log' .GL_FRAGMENT_SHADER fragmentShader answers.fragment = fragment
      at hfragment
    obtain ⟨fs, log''⟩ := fragment
    cases fs with
    | none =>
      dsimp only
      rw [leftEnabled_calls]
      exact hfragment.trans hvertex
    | some fs =>
      dsimp only
      rw [leftEnabled_calls, leftEnabled_calls, leftEnabled_linkShaderProgram]
      exact hfragment.trans hvertex

theorem leftEnabled_setup (g : Gl F) (type : ProgramType) (answers : SetupAnswers) :
    leftEnabled maxVertexAttribs (g.setup type answers).2.log =
      leftEnabled maxVertexAttribs g.log := by
  unfold setup
  have hcreated := leftEnabled_createProgram maxVertexAttribs g.log .kVertexShader
    (fragmentShader type) answers
  generalize createProgram g.log .kVertexShader (fragmentShader type) answers = created at hcreated
  obtain ⟨program, log'⟩ := created
  cases program with
  | none => exact hcreated
  | some program =>
    dsimp only
    split_ifs
    · rw [leftEnabled_calls, leftEnabled_calls]
      exact hcreated
    · rw [leftEnabled_calls]
      exact hcreated

theorem leftEnabled_release (g : Gl F) :
    leftEnabled maxVertexAttribs g.release.log = leftEnabled maxVertexAttribs g.log := by
  unfold release
  split_ifs
  · exact leftEnabled_calls _
  · rfl

end Arrays

/-- Both arrays on, from none. -/
theorem setArray_setArray_iff (p t : GLint) :
    (∀ i, setArray maxVertexAttribs (setArray maxVertexAttribs (fun _ ↦ false) p true) t true i =
      false) ↔ maxVertexAttribs ≤ p.toNat ∧ maxVertexAttribs ≤ t.toNat := by
  simp only [setArray_apply]
  constructor
  · intro h
    have hp := h p
    have ht := h t
    refine ⟨not_lt.mp fun hlt ↦ ?_, not_lt.mp fun hlt ↦ ?_⟩
    · simp [hlt] at hp
    · simp [hlt] at ht
  · rintro ⟨hp, ht⟩ i
    rw [if_neg fun hi ↦ absurd hi.1 (not_lt.mpr ht), if_neg fun hi ↦ absurd hi.1 (not_lt.mpr hp)]

/-- A draw leaves an array enabled exactly if it does not know the type of the program and one of
the locations is that of an array. -/
theorem arraysDisabled_draw_iff {g : Gl F} (h : g.ArraysDisabled maxVertexAttribs) (texName : ℕ)
    (texMatrix vertices texes : List F) (invert : Bool) (mode : DrawMode) (count : ℕ)
    (answers : DrawAnswers) :
    (g.draw texName texMatrix vertices texes invert mode count answers).2.ArraysDisabled
        maxVertexAttribs ↔
      (g.program.mProgramType = .PROGRAM_UNKNOWN →
        NoArray maxVertexAttribs g.program.locations) := by
  have hnone : leftEnabled maxVertexAttribs g.log = fun _ ↦ false := funext h
  have hprepare : ∀ enabled : GLint → Bool,
      (prepareDraw g.program texMatrix vertices texes invert answers).foldl
          (arrayCall maxVertexAttribs) enabled =
        setArray maxVertexAttribs (setArray maxVertexAttribs enabled
          g.program.locations.maPositionLoc true) g.program.locations.maTextureCoordLoc true :=
    fun enabled ↦ rfl
  obtain ⟨cs, hdraw, hcs⟩ := draw_eq g texName texMatrix vertices texes invert mode count answers
  unfold ArraysDisabled
  rw [hdraw]
  simp only [leftEnabled_calls, List.foldl_append, hprepare, hnone]
  rcases hcs with ⟨hunknown, rfl⟩ | ⟨hknown, before, after, rfl, hother⟩
  · rw [imp_iff_right hunknown]
    exact setArray_setArray_iff _ _
  · refine iff_of_true (fun index ↦ ?_) fun hunknown ↦ absurd hunknown hknown
    obtain ⟨hbefore, hafter⟩ := List.forall_mem_append.mp hother
    rw [List.foldl_append, List.foldl_append, foldl_arrayCall fun c hc ↦ (hafter c hc).2.2.2,
      foldl_arrayCall fun c hc ↦ (hbefore c hc).2.2.2]
    simp only [disableArrays, List.foldl_cons, List.foldl_nil, arrayCall, setArray_apply]
    split_ifs <;> rfl

/-- Between the calls of a run no vertex array is left enabled exactly if every draw that did not
know the type of the program found no array at the two locations. -/
theorem arraysDisabled_iff_leavesNone (maxVertexAttribs : ℕ) (actions : List (Action F)) :
    StatesAll step (ArraysDisabled maxVertexAttribs) start actions ↔
      StepsAll step (LeavesNone maxVertexAttribs) start actions := by
  have hiff : ∀ (g : Gl F) (a : Action F), g.ArraysDisabled maxVertexAttribs → True →
      ((∀ g', step g a = some g' → g'.ArraysDisabled maxVertexAttribs) ↔
        g.LeavesNone maxVertexAttribs a) := by
    intro g a h _
    cases a with
    | setup type answers =>
      refine iff_of_true (fun g' hg' ↦ ?_) trivial
      cases hg'
      have hsame := leftEnabled_setup maxVertexAttribs g type answers
      exact fun index ↦ (congrFun hsame index).trans (h index)
    | release =>
      refine iff_of_true (fun g' hg' ↦ ?_) trivial
      cases hg'
      exact fun index ↦ (congrFun (leftEnabled_release maxVertexAttribs g) index).trans (h index)
    | blit texName texMatrix x y w height invert answers =>
      have hdraw := arraysDisabled_draw_iff h texName texMatrix (blitPos x y w height) blitUv
        invert .GL_TRIANGLE_STRIP 4 answers
      simp only [step, Option.some.injEq, forall_eq']
      exact hdraw
    | drawTriangles texName texMatrix vertices texes count answers =>
      have hdraw := arraysDisabled_draw_iff h texName texMatrix vertices texes false .GL_TRIANGLES
        count answers
      simp only [step, Option.some.injEq, forall_eq']
      exact hdraw
  have hstart : (start : Gl F).ArraysDisabled maxVertexAttribs := fun _ ↦ rfl
  rw [statesAll_iff, and_iff_right hstart]
  exact stepsAll_iff_of_invariant hiff
    (fun g a g' h hallowed hleaves hstep ↦ (hiff g a h hallowed).mpr hleaves g' hstep) hstart
    stepsAll_true

end Gl

end WLManager
