import Mathlib.Algebra.CharZero.Defs
import Mathlib.Tactic.FieldSimp
import Mathlib.Tactic.Ring
import WLManager.Client.GlContext
import WLManager.Client.ProgramLedger

/-!
# What a program draws

With a program that was set up and not spoilt by a later setup, `blit` and `drawTriangles` show what
they are asked for, on any GL that behaves as documented and accepts the calls: the texture, on
vertices that lie where the caller put them, in pixels counted from the top of the viewport, or from
the bottom where the image is inverted. The projection built from the viewport and the viewport
transformation cancel out, the samplers of the fragment shader find the texture, and what earlier
calls left behind in GL does not matter.
-/

namespace WLManager

open History Transition

namespace GlContext

section Spares

variable {F : Type}

/-- A call that draws nothing and leaves the shaders and programs with names below `n` alone. -/
def Spares (n : ℕ) : GlCall F → Prop
  | .glShaderSource p _ | .glCompileShader p | .glAttachShader p _ | .glLinkProgram p =>
    ∀ id < n, Ptr.obj id ≠ p
  | .glDrawArrays _ _ _ => False
  | _ => True

theorem Spares.mono {n n' : ℕ} {request : GlCall F} (h : Spares n' request) (hle : n ≤ n') :
    Spares n request := by
  cases request with
  | glDrawArrays mode first count => exact h
  | glShaderSource p | glCompileShader p | glAttachShader p | glLinkProgram p =>
    exact fun id hid ↦ h id (hid.trans_le hle)
  | _ => trivial

theorem obj_ne_of_lt (n : ℕ) : ∀ id < n, Ptr.obj id ≠ .obj n := by
  intro id hid heq
  cases heq
  exact lt_irrefl _ hid

end Spares

variable {F : Type} [Field F] {facts : GlFacts}

theorem execute_append (c : GlContext F) (first second : List (Entry (GlCall F))) :
    c.execute facts (first ++ second) = (c.execute facts first).execute facts second := by
  exact List.foldl_append

theorem execute_cons (c : GlContext F) (e : Entry (GlCall F)) (log : List (Entry (GlCall F))) :
    c.execute facts (e :: log) = (c.call facts e.request).execute facts log := rfl

theorem execute_calls (c : GlContext F) (cs : List (GlCall F)) :
    c.execute facts (Gl.calls cs) = cs.foldl (call facts) c := by
  unfold execute Gl.calls
  exact List.foldl_map

/-- Nothing has been drawn in between and the older shaders and programs are as they were. -/
structure Spared (n : ℕ) (c c' : GlContext F) : Prop where
  drawn : c'.drawn = c.drawn
  compiled : ∀ id < n, c'.compiled (.obj id) = c.compiled (.obj id)
  executable : ∀ id < n, c'.executable (.obj id) = c.executable (.obj id)

theorem spared_call (facts : GlFacts) {n : ℕ} {request : GlCall F} (h : Spares n request)
    (c : GlContext F) : Spared n c (c.call facts request) := by
  cases request with
  | glDrawArrays mode first count => exact absurd h id
  | glCompileShader shader =>
    exact ⟨rfl, fun id hid ↦ Function.update_of_ne (h id hid) _ _, fun _ _ ↦ rfl⟩
  | glLinkProgram program =>
    exact ⟨rfl, fun _ _ ↦ rfl, fun id hid ↦ Function.update_of_ne (h id hid) _ _⟩
  | _ => exact ⟨rfl, fun _ _ ↦ rfl, fun _ _ ↦ rfl⟩

theorem spared_execute (facts : GlFacts) {n : ℕ} {more : List (Entry (GlCall F))}
    (h : ∀ e ∈ more, Spares n e.request) (c : GlContext F) :
    Spared n c (c.execute facts more) := by
  induction more generalizing c with
  | nil => exact ⟨rfl, fun _ _ ↦ rfl, fun _ _ ↦ rfl⟩
  | cons e more ih =>
    obtain ⟨hfirst, hrest⟩ := List.forall_mem_cons.mp h
    have hcall := spared_call facts hfirst c
    have hexecute := ih hrest (c.call facts e.request)
    exact ⟨hexecute.drawn.trans hcall.drawn,
      fun id hid ↦ (hexecute.compiled id hid).trans (hcall.compiled id hid),
      fun id hid ↦ (hexecute.executable id hid).trans (hcall.executable id hid)⟩

theorem spared_calls (facts : GlFacts) {n : ℕ} {cs : List (GlCall F)}
    (h : ∀ request ∈ cs, Spares n request) (c : GlContext F) :
    Spared n c (c.execute facts (Gl.calls cs)) := by
  refine spared_execute facts (fun e he ↦ ?_) c
  obtain ⟨request, hrequest, rfl⟩ := List.mem_map.mp he
  exact h request hrequest

/-- A draw between other calls. -/
theorem execute_draw (facts : GlFacts) (n : ℕ) (before after : List (GlCall F))
    (hbefore : ∀ request ∈ before, Spares n request)
    (hafter : ∀ request ∈ after, Spares n request) (mode : DrawMode) (count : ℕ)
    (c : GlContext F) :
    (c.execute facts (Gl.calls before ++ Gl.calls [.glDrawArrays mode 0 count] ++
        Gl.calls after)).drawn =
      c.drawn ++ [(c.execute facts (Gl.calls before)).picture facts mode 0 count] ∧
    ∀ id < n, (c.execute facts (Gl.calls before ++ Gl.calls [.glDrawArrays mode 0 count] ++
        Gl.calls after)).executable (.obj id) = c.executable (.obj id) := by
  have hready := spared_calls facts hbefore c
  have hlast := spared_calls facts hafter
    ((c.execute facts (Gl.calls before)).call facts (.glDrawArrays mode 0 count))
  have hdraw : c.execute facts (Gl.calls before ++ Gl.calls [.glDrawArrays mode 0 count] ++
      Gl.calls after) = ((c.execute facts (Gl.calls before)).call facts
        (.glDrawArrays mode 0 count)).execute facts (Gl.calls after) := by
    rw [execute_append, execute_append]
    rfl
  rw [hdraw, hlast.drawn, ← hready.drawn]
  exact ⟨rfl, fun id hid ↦ (hlast.executable id hid).trans (hready.executable id hid)⟩

/-- Shaders are attached only to programs that exist. -/
theorem attached_eq_nil (facts : GlFacts) {log : List (Entry (GlCall F))} (hsound : Sound log)
    {id : ℕ} (hid : log.length ≤ id) : (start.execute facts log).attached (.obj id) = [] := by
  induction log using List.reverseRecOn with
  | nil => rfl
  | append_singleton log e ih =>
    obtain ⟨hbefore, huses⟩ := always_append_singleton.mp hsound
    rw [List.length_append, List.length_singleton] at hid
    have hold := ih hbefore (Nat.le_of_succ_le hid)
    rw [execute_append]
    obtain ⟨request, created⟩ := e
    cases request with
    | glAttachShader program shader =>
      obtain ⟨id', rfl, hcreated⟩ := (huses (.program, program) (List.mem_cons_self ..)).created
      have hne := obj_ne_of_lt id id' (hcreated.lt_length.trans_le (Nat.le_of_succ_le hid))
      exact (Function.update_of_ne hne.symm _ _).trans hold
    | _ => exact hold

end GlContext

namespace Gl

section Grows

variable {F : Type} {log log' log'' : List (Entry (GlCall F))}

/-! ## Building a program -/

/-- The history has grown by calls that draw nothing and leave older objects alone. -/
def Grows (log log' : List (Entry (GlCall F))) : Prop :=
  ∃ more, log' = log ++ more ∧ ∀ e ∈ more, GlContext.Spares log.length e.request

namespace Grows

theorem refl : Grows log log :=
  ⟨[], (List.append_nil log).symm, List.forall_mem_nil _⟩

theorem length_le (h : Grows log log') : log.length ≤ log'.length := by
  obtain ⟨more, rfl, -⟩ := h
  rw [List.length_append]
  exact Nat.le_add_right _ _

theorem append (h : Grows log log') {more : List (Entry (GlCall F))}
    (hmore : ∀ e ∈ more, GlContext.Spares log.length e.request) : Grows log (log' ++ more) := by
  obtain ⟨earlier, rfl, hearlier⟩ := h
  exact ⟨earlier ++ more, List.append_assoc _ _ _, List.forall_mem_append.mpr ⟨hearlier, hmore⟩⟩

theorem calls (h : Grows log log') (cs : List (GlCall F))
    (hcs : ∀ c ∈ cs, GlContext.Spares log.length c) : Grows log (log' ++ Gl.calls cs) := by
  refine h.append fun e he ↦ ?_
  obtain ⟨c, hc, rfl⟩ := List.mem_map.mp he
  exact hcs c hc

theorem trans (h : Grows log log') (h' : Grows log' log'') : Grows log log'' := by
  have hle := h.length_le
  obtain ⟨more, rfl, hmore⟩ := h'
  exact h.append fun e he ↦ (hmore e he).mono hle

end Grows

theorem grows_compileShader (log : List (Entry (GlCall F))) (shaderType : ShaderType)
    (src : ShaderSource) (answers : CompileAnswers) :
    Grows log (compileShader log shaderType src answers).2 := by
  have hnew := GlContext.obj_ne_of_lt log.length
  have hcreated : ∀ created, Grows log (log ++ [⟨.glCreateShader shaderType, created⟩]) :=
    fun created ↦ Grows.refl.append (List.forall_mem_singleton.mpr trivial)
  unfold compileShader
  cases answers.glCreateShader with
  | false => exact hcreated false
  | true =>
    have hcompiled := (hcreated true).calls [.glShaderSource (.obj log.length) src,
      .glCompileShader (.obj log.length), .glGetShaderiv (.obj log.length) "GL_COMPILE_STATUS"]
      (by simpa [GlContext.Spares] using hnew)
    cases answers.compiled with
    | false =>
      have hlength := hcompiled.calls
        [.glGetShaderiv (.obj log.length) "GL_INFO_LOG_LENGTH"] (by simp [GlContext.Spares])
      have hinfo := hlength.calls (if answers.infoLen then
        [.glGetShaderInfoLog (.obj log.length)] else []) (by split_ifs <;> simp [GlContext.Spares])
      exact hinfo.calls [.glDeleteShader (.obj log.length)] (by simp [GlContext.Spares])
    | true => exact hcompiled

theorem grows_linkShaderProgram (log : List (Entry (GlCall F))) (vs fs : Ptr)
    (answers : LinkAnswers) : Grows log (linkShaderProgram log vs fs answers).2 := by
  have hnew := GlContext.obj_ne_of_lt log.length
  have hcreated : ∀ created, Grows log (log ++ [⟨.glCreateProgram, created⟩]) :=
    fun created ↦ Grows.refl.append (List.forall_mem_singleton.mpr trivial)
  unfold linkShaderProgram
  cases answers.glCreateProgram with
  | false => exact hcreated false
  | true =>
    have hlinked := (hcreated true).calls [.glAttachShader (.obj log.length) vs,
      .glAttachShader (.obj log.length) fs, .glLinkProgram (.obj log.length),
      .glGetProgramiv (.obj log.length) "GL_LINK_STATUS"]
      (by simpa [GlContext.Spares] using hnew)
    cases answers.linkStatus with
    | false =>
      have hlength := hlinked.calls
        [.glGetProgramiv (.obj log.length) "GL_INFO_LOG_LENGTH"] (by simp [GlContext.Spares])
      have hinfo := hlength.calls (if answers.bufLength then
        [.glGetProgramInfoLog (.obj log.length)] else []) (by split_ifs <;> simp [GlContext.Spares])
      exact hinfo.calls [.glDeleteProgram (.obj log.length)] (by simp [GlContext.Spares])
    | true => exact hlinked

theorem grows_createProgram (log : List (Entry (GlCall F)))
    (vertexShader fragmentShader : ShaderSource) (answers : SetupAnswers) :
    Grows log (createProgram log vertexShader fragmentShader answers).2 := by
  have hvertex := grows_compileShader log .GL_VERTEX_SHADER vertexShader answers.vertex
  unfold createProgram
  generalize compileShader log .GL_VERTEX_SHADER vertexShader answers.vertex = vertex at hvertex
  rcases vertex with ⟨_ | vs, log₁⟩
  · exact hvertex
  have hfragment := hvertex.trans
    (grows_compileShader log₁ .GL_FRAGMENT_SHADER fragmentShader answers.fragment)
  dsimp only
  generalize compileShader log₁ .GL_FRAGMENT_SHADER fragmentShader answers.fragment = fragment
    at hfragment
  rcases fragment with ⟨_ | fs, log₂⟩
  · exact hfragment.calls [.glDeleteShader vs] (by simp [GlContext.Spares])
  · have hlink := hfragment.trans (grows_linkShaderProgram log₂ vs fs answers.link)
    exact (hlink.calls [.glDeleteShader vs] (by simp [GlContext.Spares])).calls
      [.glDeleteShader fs] (by simp [GlContext.Spares])

theorem grows_setup (g : Gl F) (type : ProgramType) (answers : SetupAnswers) :
    Grows g.log (g.setup type answers).2.log := by
  have hcreated := grows_createProgram g.log .kVertexShader (fragmentShader type) answers
  unfold setup
  generalize createProgram g.log .kVertexShader (fragmentShader type) answers = created at hcreated
  rcases created with ⟨_ | program, log⟩
  · exact hcreated
  · have hlookUps := hcreated.calls (lookUps program) (by simp [lookUps, GlContext.Spares])
    dsimp only
    split_ifs
    · exact hlookUps.calls [.glDeleteProgram program] (by simp [GlContext.Spares])
    · exact hlookUps

end Grows

variable {F : Type} [Field F] (facts : GlFacts) {log log' : List (Entry (GlCall F))}

/-- What GL makes of a history. -/
def context (facts : GlFacts) (log : List (Entry (GlCall F))) : GlContext F :=
  GlContext.start.execute facts log

theorem context_append (log more : List (Entry (GlCall F))) :
    context facts (log ++ more) = (context facts log).execute facts more := by
  exact GlContext.execute_append _ _ _

theorem Grows.spared (h : Grows log log') :
    GlContext.Spared log.length (context facts log) (context facts log') := by
  obtain ⟨more, rfl, hmore⟩ := h
  rw [context_append]
  exact GlContext.spared_execute facts hmore _

/-- The shader that is handed out was compiled from the text. -/
theorem compileShader_eq_some (log : List (Entry (GlCall F))) (shaderType : ShaderType)
    (src : ShaderSource) (answers : CompileAnswers) (shader : Ptr)
    (h : (compileShader log shaderType src answers).1 = some shader) :
    shader = .obj log.length ∧
      (context facts (compileShader log shaderType src answers).2).compiled shader = some src := by
  revert h
  unfold compileShader
  cases answers.glCreateShader with
  | false => exact fun h ↦ by cases h
  | true =>
    cases answers.compiled with
    | false => exact fun h ↦ by cases h
    | true =>
      intro h
      cases h
      refine ⟨rfl, ?_⟩
      simp [context, GlContext.execute_append, GlContext.execute_cons, GlContext.execute_calls,
        GlContext.call]

/-- The program that is handed out was linked from the two shaders. -/
theorem linkShaderProgram_eq_some {vs fs program : Ptr} {answers : LinkAnswers}
    (hsound : Sound log) (h : (linkShaderProgram log vs fs answers).1 = some program) :
    program = .obj log.length ∧
      (context facts (linkShaderProgram log vs fs answers).2).executable program =
        [(context facts log).compiled vs, (context facts log).compiled fs] := by
  have hfresh := GlContext.attached_eq_nil facts hsound le_rfl
  revert h
  unfold linkShaderProgram
  cases answers.glCreateProgram with
  | false => exact fun h ↦ by cases h
  | true =>
    cases answers.linkStatus with
    | false => exact fun h ↦ by cases h
    | true =>
      intro h
      cases h
      refine ⟨rfl, ?_⟩
      simp [context, GlContext.execute_append, GlContext.execute_cons, GlContext.execute_calls,
        GlContext.call, hfresh]

/-- A program is linked from the shaders compiled before it. -/
theorem createProgram_eq_some {owned : Multiset (GlObject × Ptr)} (howns : Owns owned log)
    (vertexShader fragmentShader : ShaderSource) (answers : SetupAnswers) (program : Ptr)
    (h : (createProgram log vertexShader fragmentShader answers).1 = some program) :
    (context facts (createProgram log vertexShader fragmentShader answers).2).executable program =
      [some vertexShader, some fragmentShader] := by
  have hvertex := yields_compileShader howns .GL_VERTEX_SHADER vertexShader answers.vertex
  have hvs := compileShader_eq_some facts log .GL_VERTEX_SHADER vertexShader answers.vertex
  revert h
  unfold createProgram
  generalize compileShader log .GL_VERTEX_SHADER vertexShader answers.vertex = vertex
    at hvertex hvs
  obtain ⟨vs, log₁⟩ := vertex
  rcases hvertex with ⟨-, id, rfl, hvertex⟩ | ⟨-, rfl, -⟩
  case inr => exact fun h ↦ by cases h
  have hlt : id < log₁.length :=
    ((hvertex.extant_iff .shader (.obj id)).mpr (Multiset.mem_cons_self _ _)).obj.lt_length
  have hfragment := yields_compileShader hvertex .GL_FRAGMENT_SHADER fragmentShader
    answers.fragment
  have hgrows := grows_compileShader log₁ .GL_FRAGMENT_SHADER fragmentShader answers.fragment
  have hfs := compileShader_eq_some facts log₁ .GL_FRAGMENT_SHADER fragmentShader answers.fragment
  dsimp only
  generalize compileShader log₁ .GL_FRAGMENT_SHADER fragmentShader answers.fragment = fragment
    at hfragment hgrows hfs
  obtain ⟨fs, log₂⟩ := fragment
  rcases hfragment with ⟨-, id', rfl, hfragment⟩ | ⟨-, rfl, -⟩
  case inr => exact fun h ↦ by cases h
  dsimp only
  intro h
  have hlink := (linkShaderProgram_eq_some facts hfragment.sound h).2
  rw [(hgrows.spared facts).compiled id hlt, (hvs _ rfl).2, (hfs _ rfl).2] at hlink
  rw [← hlink]
  simp [context, GlContext.execute_append, GlContext.execute_calls, GlContext.call]

/-- After a setup that succeeds the program was linked from the shaders for its type. -/
theorem setup_executable {owned : Multiset (GlObject × Ptr)} {g : Gl F} (howns : Owns owned g.log)
    (type : ProgramType) (answers : SetupAnswers)
    (h : (g.setup type answers).1 = .NO_ERROR) :
    (context facts (g.setup type answers).2.log).executable
        (g.setup type answers).2.program.mProgram =
      [some .kVertexShader, some (fragmentShader type)] := by
  have hcreated := createProgram_eq_some facts howns .kVertexShader (fragmentShader type) answers
  revert h
  unfold setup
  generalize createProgram g.log .kVertexShader (fragmentShader type) answers = created at hcreated
  rcases created with ⟨_ | program, log⟩
  · exact fun h ↦ by cases h
  · dsimp only
    split_ifs
    · exact fun h ↦ by cases h
    · intro
      rw [← hcreated program rfl]
      simp [context, GlContext.execute_append, GlContext.execute_calls, lookUps, GlContext.call]

variable {facts}

/-! ## A draw -/

/-- The locations that a draw tells apart. -/
def Distinct (l : Locations) : Prop :=
  l.maPositionLoc ≠ l.maTextureCoordLoc ∧ l.muMVPMatrixLoc ≠ l.muGLCMatrixLoc

instance (l : Locations) : Decidable (Distinct l) := inferInstanceAs (Decidable (_ ∧ _))

/-- A vertex where the caller puts it, with what the texture matrix makes of its texture
coordinate. -/
def askedVertex (facts : GlFacts) (texMatrix : List F) (invert : Bool) (x y u v : F) :
    Option (Vertex F) := do
  let (s, t, _, _) ← GlContext.mulVec texMatrix (u, v, 0, 1)
  some ⟨x, if invert then y else facts.viewportHeight - y, s, t⟩

/-- The vertex at a place of two arrays of pairs. -/
def askedAt (facts : GlFacts) (texMatrix vertices texes : List F) (invert : Bool) (i : ℕ) :
    Option (Vertex F) := do
  let x ← vertices[2 * i]?
  let y ← vertices[2 * i + 1]?
  let u ← texes[2 * i]?
  let v ← texes[2 * i + 1]?
  askedVertex facts texMatrix invert x y u v

/-- The projection and the viewport transformation take a position to itself. -/
theorem screenToNdc_spec [CharZero F] {width height : ℤ} (hwidth : width ≠ 0) (hheight : height ≠ 0)
    (invert : Bool) (x y : F) :
    ∃ px py, GlContext.mulVec (screenToNdc width height invert) (x, y, 0, 1) =
        some (px, py, 0, 1) ∧
      GlContext.toViewport width px = x ∧
      GlContext.toViewport height py = if invert then y else height - y := by
  have hwidth' : (width : F) ≠ 0 := Int.cast_ne_zero.mpr hwidth
  have hheight' : (height : F) ≠ 0 := Int.cast_ne_zero.mpr hheight
  have hx : GlContext.toViewport width (2 / width * x - 1) = x := by
    unfold GlContext.toViewport
    field_simp
    ring
  cases invert with
  | false =>
    refine ⟨2 / width * x - 1, -2 / height * y + 1, ?_, hx, ?_⟩
    · simp [GlContext.mulVec, screenToNdc, sub_eq_add_neg]
    · unfold GlContext.toViewport
      rw [if_neg Bool.false_ne_true]
      field_simp
      ring
  | true =>
    refine ⟨2 / width * x - 1, 2 / height * y - 1, ?_, hx, ?_⟩
    · simp [GlContext.mulVec, screenToNdc, sub_eq_add_neg, neg_div]
    · unfold GlContext.toViewport
      rw [if_pos rfl]
      field_simp
      ring

section Draw

variable (texName : ℕ) (texMatrix vertices texes : List F) (invert : Bool) (answers : DrawAnswers)

/-- The calls up to the draw. -/
def readyCalls (p : Program) (target : TextureTarget) : List (GlCall F) :=
  prepareDraw p texMatrix vertices texes invert answers ++
    [.glBindTexture target texName, .glUniform1i p.locations.muTextureLoc 0, .glGetError]

/-- What GL is then set to. -/
structure Ready (p : Program) (target : TextureTarget) (c c' : GlContext F) : Prop where
  current : c'.current = p.mProgram
  executable : c'.executable = c.executable
  positions : c'.enabled p.locations.maPositionLoc = true ∧
    c'.pointer p.locations.maPositionLoc = vertices
  coords : c'.enabled p.locations.maTextureCoordLoc = true ∧
    c'.pointer p.locations.maTextureCoordLoc = texes
  mvp : c'.matrix p.mProgram p.locations.muMVPMatrixLoc =
    screenToNdc answers.viewportWidth answers.viewportHeight invert
  glc : c'.matrix p.mProgram p.locations.muGLCMatrixLoc = texMatrix
  texture : c'.texture (c'.sampler p.mProgram p.locations.muTextureLoc).toNat target = texName

theorem ready_readyCalls (facts : GlFacts) {p : Program} (hdistinct : Distinct p.locations)
    (target : TextureTarget) (c : GlContext F) :
    Ready texName texMatrix vertices texes invert answers p target c
      (c.execute facts
        (calls (readyCalls texName texMatrix vertices texes invert answers p target))) := by
  obtain ⟨hattributes, huniforms⟩ := hdistinct
  rw [GlContext.execute_calls]
  simp only [readyCalls, prepareDraw, List.cons_append, List.nil_append, List.foldl_cons,
    List.foldl_nil, GlContext.call]
  constructor
  all_goals simp [hattributes, huniforms]

variable {texName texMatrix vertices texes invert answers}

theorem shade_ready [CharZero F] {p : Program} {target : TextureTarget} {c c' : GlContext F}
    (h : Ready texName texMatrix vertices texes invert answers p target c c')
    (hlocations : facts.locations p.mProgram = p.locations)
    (hviewport : answers.viewportWidth = facts.viewportWidth ∧
      answers.viewportHeight = facts.viewportHeight)
    (hwidth : facts.viewportWidth ≠ 0) (hheight : facts.viewportHeight ≠ 0) (i : ℕ) :
    c'.shade facts i = askedAt facts texMatrix vertices texes invert i := by
  unfold GlContext.shade GlContext.fetch
  rw [h.current, hlocations]
  dsimp only
  rw [h.positions.1, h.positions.2, h.coords.1, h.coords.2, h.mvp, h.glc, hviewport.1, hviewport.2,
    if_pos rfl, if_pos rfl]
  unfold askedAt askedVertex
  cases vertices[2 * i]? with
  | none => rfl
  | some x =>
    cases vertices[2 * i + 1]? with
    | none => rfl
    | some y =>
      obtain ⟨px, py, hposition, hx, hy⟩ := screenToNdc_spec hwidth hheight invert x y
      cases texes[2 * i]? with
      | none => rfl
      | some u =>
        cases texes[2 * i + 1]? with
        | none => rfl
        | some v =>
          simp [hposition, hx, hy]

/-- The fragment shader for a type samples the target for it. -/
theorem samples_fragmentShader {type : ProgramType} {target : TextureTarget}
    (h : textureTarget type = some target) :
    GlContext.samples (some (fragmentShader type)) = some target := by
  cases type with
  | PROGRAM_UNKNOWN => cases h
  | PROGRAM_EXTERNAL_TEXTURE | PROGRAM_TEXTURE_2D => exact h

/-- The picture that is asked for, on a target. -/
def askedPicture (facts : GlFacts) (texName : ℕ) (texMatrix vertices texes : List F)
    (invert : Bool) (mode : DrawMode) (count : ℕ) (target : TextureTarget) : Picture F where
  mode := mode
  target := target
  texName := texName
  vertices := (List.range count).map (askedAt facts texMatrix vertices texes invert)

theorem picture_ready [CharZero F] {p : Program} {target : TextureTarget} {c c' : GlContext F}
    (h : Ready texName texMatrix vertices texes invert answers p target c c')
    {type : ProgramType} (hexecutable : c.executable p.mProgram =
      [some .kVertexShader, some (fragmentShader type)])
    (htarget : textureTarget type = some target)
    (hlocations : facts.locations p.mProgram = p.locations)
    (hviewport : answers.viewportWidth = facts.viewportWidth ∧
      answers.viewportHeight = facts.viewportHeight)
    (hwidth : facts.viewportWidth ≠ 0) (hheight : facts.viewportHeight ≠ 0) (mode : DrawMode)
    (count : ℕ) :
    c'.picture facts mode 0 count =
      some (askedPicture facts texName texMatrix vertices texes invert mode count target) := by
  have hshade : c'.shade facts = askedAt facts texMatrix vertices texes invert :=
    funext (shade_ready h hlocations hviewport hwidth hheight)
  unfold GlContext.picture
  rw [h.executable, h.current, hexecutable, hlocations, hshade]
  simp only [samples_fragmentShader htarget, Option.bind_eq_bind, Option.bind_some, h.texture,
    askedPicture, List.range_eq_range']

/-- The pictures a draw asks for, with what the program that is held came from: one where the type
has a target. -/
def asksDraw (built : Option (ProgramType × Locations)) (picture : TextureTarget → Picture F) :
    List (Picture F) :=
  ((built.bind fun b ↦ textureTarget b.1).map picture).toList

/-- A draw without a target leaves everything as it is. -/
theorem grows_draw (g : Gl F) (mode : DrawMode) (count : ℕ)
    (h : textureTarget g.program.mProgramType = none) :
    Grows g.log (g.draw texName texMatrix vertices texes invert mode count answers).2.log := by
  have hprepared : Grows g.log
      (g.log ++ calls (prepareDraw g.program texMatrix vertices texes invert answers)) :=
    Grows.refl.calls _ (by simp [prepareDraw, GlContext.Spares])
  unfold draw beforeDraw
  dsimp only
  rw [h]
  exact hprepared

/-- A draw with a picture. -/
theorem draw_log (g : Gl F) (mode : DrawMode) (count : ℕ) {target : TextureTarget}
    (htarget : textureTarget g.program.mProgramType = some target)
    (hbefore : answers.noErrorBefore = true) :
    (g.draw texName texMatrix vertices texes invert mode count answers).2.log =
      g.log ++
        (calls (readyCalls texName texMatrix vertices texes invert answers g.program target) ++
          calls [.glDrawArrays mode 0 count] ++
          calls (disableArrays g.program ++ [.glGetError])) := by
  unfold draw beforeDraw afterDraw
  dsimp only
  rw [htarget, hbefore]
  cases answers.noErrorAfter <;> simp [readyCalls, calls]

end Draw

/-! ## A run -/

/-- The corners of the rectangle and of the texture, in the order of a triangle strip. -/
def corners (x y w h : ℤ) : List (ℤ × ℤ × ℤ × ℤ) :=
  [(x, y + h, 0, 0), (x + w, y + h, 1, 0), (x, y, 0, 1), (x + w, y, 1, 1)]

/-- The pictures one more call asks for. -/
def asksFor (facts : GlFacts) (built : Option (ProgramType × Locations)) :
    Action F → List (Picture F)
  | .blit texName texMatrix x y w h invert _ =>
    asksDraw built fun target ↦
      ⟨.GL_TRIANGLE_STRIP, target, texName, (corners x y w h).map fun (x, y, u, v) ↦
        askedVertex facts texMatrix invert x y u v⟩
  | .drawTriangles texName texMatrix vertices texes count _ =>
    asksDraw built
      (askedPicture facts texName texMatrix vertices texes false .GL_TRIANGLES count)
  | .setup _ _ | .release => []

/-- The pictures that the calls ask for. -/
def asked (facts : GlFacts) : Option (ProgramType × Locations) → List (Action F) → List (Picture F)
  | _, [] => []
  | built, a :: actions => asksFor facts built a ++ asked facts (builtNext built a) actions

theorem asked_snoc (built : Option (ProgramType × Locations)) (actions : List (Action F))
    (a : Action F) : asked facts built (actions ++ [a]) =
      asked facts built actions ++ asksFor facts (actions.foldl builtNext built) a := by
  induction actions generalizing built with
  | nil => exact List.append_nil _
  | cons first actions ih =>
    rw [List.cons_append, asked, asked, ih, List.append_assoc, List.foldl_cons]

/-- A sum that is an `int32_t` again. -/
def FitsInt32 (n : ℤ) : Prop := -2 ^ 31 ≤ n ∧ n < 2 ^ 31

instance (n : ℤ) : Decidable (FitsInt32 n) := inferInstanceAs (Decidable (_ ∧ _))

theorem addInt32_eq {m n : ℤ} (h : FitsInt32 (m + n)) : addInt32 m n = m + n :=
  Int.bmod_eq_of_le h.1 h.2

theorem askedPicture_blit (texName : ℕ) (texMatrix : List F) {x y w h : ℤ} (hx : FitsInt32 (x + w))
    (hy : FitsInt32 (y + h)) (invert : Bool) (target : TextureTarget) :
    askedPicture facts texName texMatrix (blitPos x y w h) blitUv invert .GL_TRIANGLE_STRIP 4
        target =
      ⟨.GL_TRIANGLE_STRIP, target, texName, (corners x y w h).map fun (x, y, u, v) ↦
        askedVertex facts texMatrix invert x y u v⟩ := by
  simp [askedPicture, askedAt, blitPos, blitUv, corners, List.range_succ, addInt32_eq hx,
    addInt32_eq hy]

/-- A draw is told the viewport that is there, and that there is no error. -/
structure DrawAgrees (facts : GlFacts) (answers : DrawAnswers) : Prop where
  width : answers.viewportWidth = facts.viewportWidth
  height : answers.viewportHeight = facts.viewportHeight
  noErrorBefore : answers.noErrorBefore = true
  noErrorAfter : answers.noErrorAfter = true

/-- GL's answers agree with the facts: a new program has the locations that are looked up, and the
draws are told the viewport and no error. -/
def Agrees (facts : GlFacts) (g : Gl F) : Action F → Prop
  | .setup type answers => Succeeds answers →
      facts.locations (g.setup type answers).2.program.mProgram = answers.locations ∧
        Distinct answers.locations
  | .blit _ _ _ _ _ _ _ answers | .drawTriangles _ _ _ _ _ answers => DrawAgrees facts answers
  | .release => True

/-- The far corner of the rectangle does not overflow. -/
def CornerFits : Action F → Prop
  | .blit _ _ x y w h _ _ => FitsInt32 (x + w) ∧ FitsInt32 (y + h)
  | .setup _ _ | .release | .drawTriangles _ _ _ _ _ _ => True

/-- A draw finds a program. -/
def HasProgram (g : Gl F) : Action F → Prop
  | .blit _ _ _ _ _ _ _ _ | .drawTriangles _ _ _ _ _ _ => g.program.mProgram ≠ .null
  | .setup _ _ | .release => True

/-- The program that is held was linked from the shaders for its type, and the members fit it. -/
structure Shows (facts : GlFacts) (built : Option (ProgramType × Locations)) (g : Gl F) : Prop where
  tracks : Tracks built g
  fits : Fits built g
  linked : ∀ b, built = some b →
    (context facts g.log).executable g.program.mProgram =
        [some .kVertexShader, some (fragmentShader b.1)] ∧
      facts.locations g.program.mProgram = b.2 ∧ Distinct b.2

theorem shows_start : Shows facts none (start : Gl F) where
  tracks := by
    have hnil : run step (start : Gl F) [] = some start := rfl
    exact tracks_run hnil
  fits b hb := by cases hb
  linked b hb := by cases hb

omit [Field F] in
/-- The program that is held is older than any new object. -/
theorem Tracks.lt_length {built : Option (ProgramType × Locations)} {g : Gl F}
    (h : Tracks built g) {b : ProgramType × Locations} (hb : built = some b) :
    ∃ id < g.log.length, g.program.mProgram = .obj id := by
  obtain ⟨forgotten, hledger⟩ := h.ledger
  have hnull : g.program.mProgram ≠ .null := by
    rw [ne_eq, h.null_iff, hb]
    exact Option.some_ne_none b
  cases hptr : g.program.mProgram with
  | null => exact absurd hptr hnull
  | indeterminate => exact absurd hptr hledger.initialised
  | obj id =>
    have hextant := (hledger.owns.extant_iff .program (.obj id)).mpr
      (by rw [hptr]; exact Multiset.mem_add.mpr (.inl (Multiset.mem_singleton_self _)))
    exact ⟨id, hextant.obj.lt_length, rfl⟩

/-- Calls that leave the members alone and older objects as they are. -/
theorem Shows.of_grows {built : Option (ProgramType × Locations)} {g g' : Gl F}
    (h : Shows facts built g) (htracks : Tracks built g') (hprogram : g'.program = g.program)
    (hexecutable : ∀ id < g.log.length, (context facts g'.log).executable (.obj id) =
      (context facts g.log).executable (.obj id)) : Shows facts built g' where
  tracks := htracks
  fits := by
    unfold Fits
    rw [hprogram]
    exact h.fits
  linked b hb := by
    obtain ⟨id, hid, hptr⟩ := h.tracks.lt_length hb
    have hlinked := h.linked b hb
    rw [hprogram]
    rw [hptr] at hlinked ⊢
    rw [hexecutable id hid]
    exact hlinked

/-- A draw shows what it asks for, whatever GL has been left set to. -/
theorem next_draw [CharZero F] {built : Option (ProgramType × Locations)} {g g' : Gl F}
    (h : Shows facts built g) (hheld : g.program.mProgram ≠ .null) {texName : ℕ}
    {texMatrix vertices texes : List F} {invert : Bool} {mode : DrawMode} {count : ℕ}
    {answers : DrawAnswers} (hagrees : DrawAgrees facts answers)
    (hwidth : facts.viewportWidth ≠ 0) (hheight : facts.viewportHeight ≠ 0)
    (hdraw : (g.draw texName texMatrix vertices texes invert mode count answers).2 = g')
    (htracks : Tracks built g') :
    Shows facts built g' ∧ (context facts g'.log).drawn = (context facts g.log).drawn ++
      (asksDraw built
        (askedPicture facts texName texMatrix vertices texes invert mode count)).map some := by
  have hprogram : g'.program = g.program := by
    rw [← hdraw]
    exact draw_program texName texMatrix vertices texes invert mode count answers
  obtain ⟨⟨type, locations⟩, hbuilt⟩ : ∃ b, built = some b :=
    Option.ne_none_iff_exists'.mp fun hnone ↦ hheld (h.tracks.null_iff.mpr hnone)
  obtain ⟨hexecutable, hlocations, hdistinct⟩ := h.linked _ hbuilt
  obtain ⟨htype, rfl⟩ := Prod.mk.inj (h.fits _ hbuilt)
  have hasks : ∀ picture : TextureTarget → Picture F,
      asksDraw built picture = ((textureTarget type).map picture).toList := by
    intro picture
    rw [asksDraw, hbuilt]
    rfl
  rw [hasks]
  cases htarget : textureTarget type with
  | none =>
    have hgrows : Grows g.log g'.log := by
      rw [← hdraw]
      exact grows_draw g mode count (by rwa [htype])
    have hspared := hgrows.spared facts
    refine ⟨h.of_grows htracks hprogram hspared.executable, ?_⟩
    rw [hspared.drawn]
    exact (List.append_nil _).symm
  | some target =>
    have hready := ready_readyCalls texName texMatrix vertices texes invert answers facts hdistinct
      target (context facts g.log)
    have hpicture := picture_ready hready hexecutable htarget hlocations
      ⟨hagrees.width, hagrees.height⟩ hwidth hheight mode count
    have hlog : (g.draw texName texMatrix vertices texes invert mode count answers).2.log = _ :=
      draw_log g mode count (by rwa [htype]) hagrees.noErrorBefore
    obtain ⟨hdrawn, hkept⟩ := GlContext.execute_draw facts g.log.length
      (readyCalls texName texMatrix vertices texes invert answers g.program target)
      (disableArrays g.program ++ [.glGetError])
      (by simp [readyCalls, prepareDraw, GlContext.Spares])
      (by simp [disableArrays, GlContext.Spares]) mode count (context facts g.log)
    rw [hpicture, ← context_append, ← hlog, hdraw] at hdrawn
    rw [← context_append, ← hlog, hdraw] at hkept
    exact ⟨h.of_grows htracks hprogram hkept, hdrawn⟩

/-- A setup draws nothing, and a program that it puts in place is the one that was linked. -/
theorem next_setup {built : Option (ProgramType × Locations)} {g g' : Gl F}
    (h : Shows facts built g) {type : ProgramType} {answers : SetupAnswers}
    (hagrees : g.Agrees facts (.setup type answers)) (hkeeps : g.KeepsFit (.setup type answers))
    (hsetup : (g.setup type answers).2 = g') :
    Shows facts (builtNext built (.setup type answers : Action F)) g' ∧
      (context facts g'.log).drawn = (context facts g.log).drawn := by
  have hstep : step g (.setup type answers) = some g' := by
    rw [← hsetup]
    rfl
  obtain ⟨htracks, hfits⟩ := h.tracks.step hstep
  have hgrows : Grows g.log g'.log := by
    rw [← hsetup]
    exact grows_setup g type answers
  have hspared := hgrows.spared facts
  refine ⟨⟨htracks, (hfits h.fits).mpr hkeeps, ?_⟩, hspared.drawn⟩
  obtain ⟨forgotten, hledger⟩ := h.tracks.ledger
  have hfailed : ¬ Succeeds answers → g'.program.mProgram = g.program.mProgram →
      ∀ b, builtNext built (.setup type answers : Action F) = some b →
        (context facts g'.log).executable g'.program.mProgram =
            [some .kVertexShader, some (fragmentShader b.1)] ∧
          facts.locations g'.program.mProgram = b.2 ∧ Distinct b.2 := by
    intro hnot hsame b hb
    have hkept : builtNext built (.setup type answers : Action F) = built := if_neg hnot
    rw [hkept] at hb
    obtain ⟨id, hid, hptr⟩ := h.tracks.lt_length hb
    have hlinked := h.linked b hb
    rw [hsame]
    rw [hptr] at hlinked ⊢
    rw [hspared.executable id hid]
    exact hlinked
  rcases setup_cases hledger.owns type answers with ⟨hfails, log, heq, -⟩ |
    ⟨-, hfailedLookup, log, heq, -⟩ | ⟨hsucceeds, log, id, heq, -⟩
  · refine hfailed (fun hs ↦ hfails hs.1) ?_
    rw [← hsetup, heq]
  · refine hfailed (fun hs ↦ Bool.noConfusion (hfailedLookup.symm.trans hs.2)) ?_
    rw [← hsetup, heq]
  · have hnew : builtNext built (.setup type answers : Action F) =
        some (type, answers.locations) := if_pos hsucceeds
    intro b hb
    cases hnew.symm.trans hb
    have hexecutable := setup_executable facts hledger.owns type answers (by rw [heq])
    rw [hsetup] at hexecutable
    have hlocations := hagrees hsucceeds
    rw [hsetup] at hlocations
    exact ⟨hexecutable, hlocations⟩

/-- What one more call shows, and that the program stays fit to be used. -/
theorem next_step [CharZero F] {built : Option (ProgramType × Locations)} {g g' : Gl F}
    {a : Action F} (hwidth : facts.viewportWidth ≠ 0) (hheight : facts.viewportHeight ≠ 0)
    (h : Shows facts built g) (hagrees : g.Agrees facts a) (hkeeps : g.KeepsFit a)
    (hprogram : g.HasProgram a) (hfits : CornerFits a) (hstep : step g a = some g') :
    Shows facts (builtNext built a) g' ∧ (context facts g'.log).drawn =
      (context facts g.log).drawn ++ (asksFor facts built a).map some := by
  have htracks := (h.tracks.step hstep).1
  cases a with
  | setup type answers =>
    obtain ⟨hshows, hdrawn⟩ := next_setup h hagrees hkeeps (Option.some.inj hstep)
    exact ⟨hshows, hdrawn.trans (List.append_nil _).symm⟩
  | release =>
    cases hstep
    have hgrows : Grows g.log g.release.log := by
      unfold release
      split_ifs
      · exact Grows.refl.calls _ (by simp [GlContext.Spares])
      · exact Grows.refl
    have hnone : ∀ b, builtNext built (.release : Action F) ≠ some b := fun b hb ↦ by cases hb
    refine ⟨⟨htracks, fun b hb ↦ absurd hb (hnone b), fun b hb ↦ absurd hb (hnone b)⟩, ?_⟩
    rw [(hgrows.spared facts).drawn]
    exact (List.append_nil _).symm
  | blit texName texMatrix x y w height invert answers =>
    have hnext := next_draw h hprogram hagrees hwidth hheight (Option.some.inj hstep) htracks
    rw [funext (askedPicture_blit texName texMatrix hfits.1 hfits.2 invert)] at hnext
    exact hnext
  | drawTriangles texName texMatrix vertices texes count answers =>
    exact next_draw h hprogram hagrees hwidth hheight (Option.some.inj hstep) htracks

/-- What the effects of the calls draw. -/
theorem context_drawn_eq_asked [CharZero F] (hwidth : facts.viewportWidth ≠ 0)
    (hheight : facts.viewportHeight ≠ 0) {actions : List (Action F)} {g : Gl F}
    (hrun : run step start actions = some g)
    (hsteps : StepsAll step
      (fun g a ↦ g.Agrees facts a ∧ g.KeepsFit a ∧ g.HasProgram a ∧ CornerFits a) start actions) :
    (context facts g.log).drawn = (asked facts none actions).map some := by
  suffices hshows : Shows facts (built actions) g ∧
      (context facts g.log).drawn = (asked facts none actions).map some from hshows.2
  induction actions using List.reverseRecOn generalizing g with
  | nil =>
    cases hrun
    exact ⟨shows_start, rfl⟩
  | append_singleton actions a ih =>
    obtain ⟨g', hg', hstep⟩ := run_snoc_eq_some.mp hrun
    obtain ⟨hbefore, hlast⟩ := stepsAll_snoc.mp hsteps
    obtain ⟨hshows, hdrawn⟩ := ih hg' hbefore
    obtain ⟨hagrees, hkeeps, hprogram, hfits⟩ := hlast g' hg'
    obtain ⟨hshows', hdrawn'⟩ :=
      next_step hwidth hheight hshows hagrees hkeeps hprogram hfits hstep
    refine ⟨built_snoc actions a ▸ hshows', ?_⟩
    rw [hdrawn', hdrawn, asked_snoc, List.map_append]
    rfl

/-- 4x4 identity matrix. -/
def kIdentity : List F := [1, 0, 0, 0, 0, 1, 0, 0, 0, 0, 1, 0, 0, 0, 0, 1]

/-- A program set up for an external texture that is drawn inverted on a part of the viewport, and
set up again for three vertices of another one. -/
def blits : List (Action ℚ) :=
  [.setup .PROGRAM_EXTERNAL_TEXTURE works, .blit 5 kIdentity 0 0 64 32 true ⟨128, 64, true, true⟩,
    .release, .setup .PROGRAM_TEXTURE_2D works,
    .drawTriangles 6 kIdentity [0, 0, 128, 0, 0, 64] [0, 0, 1, 0, 0, 1] 3 ⟨128, 64, true, true⟩]

/-- With these locations and a viewport of 128 by 64 pixels. -/
def blitsGl : GlDriver ℚ := .ofEffects ⟨fun _ ↦ works.locations, 128, 64⟩

end Gl

end WLManager
