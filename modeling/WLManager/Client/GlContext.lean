import Mathlib.Algebra.Field.Basic
import Mathlib.Logic.Function.Basic
import WLManager.Client.Program

/-!
# What the GL calls draw

GL is not part of the repository. It is a parameter with a state of its own, of which only a view is
looked at: the shader and program objects, vertex arrays, uniforms and textures that a draw depends
on, and what has been drawn. What its documentation says about the calls of `Program` are hypotheses
about that view, for calls that GL accepts; they hold of the view itself with the effects as its
calls.

The shaders are those of the source file, so that a vertex is `uMVPMatrix * aPosition`, taken to the
viewport, with the texture coordinate `(uGLCMatrix * aTextureCoord).xy`. Arithmetic is that of a
field.
-/

namespace WLManager

open History

/-- A vertex as it is rasterised: its place in the viewport, from the lower left corner, and its
texture coordinate. -/
structure Vertex (F : Type) where
  x : F
  y : F
  s : F
  t : F
  deriving DecidableEq

/-- What one call of `glDrawArrays` shows. A vertex is missing where an array or a matrix is too
short. -/
structure Picture (F : Type) where
  mode : DrawMode
  target : TextureTarget
  texName : ℕ
  vertices : List (Option (Vertex F))
  deriving DecidableEq

/-- The facts GL keeps to itself: the locations it gave to the variables of each program, and the
size of the viewport. -/
structure GlFacts where
  locations : Ptr → Locations
  viewportWidth : ℤ
  viewportHeight : ℤ

/-- The view of GL: the state that a draw depends on, and what has been drawn. A draw has no picture
where the current program was not linked from the shaders of the file. -/
structure GlContext (F : Type) where
  source : Ptr → Option ShaderSource
  compiled : Ptr → Option ShaderSource
  attached : Ptr → List Ptr
  executable : Ptr → List (Option ShaderSource)
  current : Ptr
  pointer : GLint → List F
  enabled : GLint → Bool
  matrix : Ptr → GLint → List F
  sampler : Ptr → GLint → ℤ
  unit : ℕ
  texture : ℕ → TextureTarget → ℕ
  drawn : List (Option (Picture F))

namespace GlContext

variable {F : Type}

def start : GlContext F where
  source _ := none
  compiled _ := none
  attached _ := []
  executable _ := []
  current := .null
  pointer _ := []
  enabled _ := false
  matrix _ _ := []
  sampler _ _ := 0
  unit := 0
  texture _ _ := 0
  drawn := []

/-- The target of the sampler `uTexture` of a fragment shader. -/
def samples : Option ShaderSource → Option TextureTarget
  | some .kExtFragmentShader => some .GL_TEXTURE_EXTERNAL_OES
  | some .kFragmentShader => some .GL_TEXTURE_2D
  | some .kVertexShader | none => none

section Shader

variable [Field F]

/-- A product with a matrix that is given by columns. -/
def mulVec : List F → F × F × F × F → Option (F × F × F × F)
  | [m₀, m₁, m₂, m₃, m₄, m₅, m₆, m₇, m₈, m₉, m₁₀, m₁₁, m₁₂, m₁₃, m₁₄, m₁₅], (x, y, z, w) =>
    some (m₀ * x + m₄ * y + m₈ * z + m₁₂ * w, m₁ * x + m₅ * y + m₉ * z + m₁₃ * w,
      m₂ * x + m₆ * y + m₁₀ * z + m₁₄ * w, m₃ * x + m₇ * y + m₁₁ * z + m₁₅ * w)
  | _, _ => none

/-- The value of an attribute with two components at a vertex. -/
def fetch (c : GlContext F) (location : GLint) (vertex : ℕ) : Option (F × F × F × F) :=
  if c.enabled location then do
    let x ← (c.pointer location)[2 * vertex]?
    let y ← (c.pointer location)[2 * vertex + 1]?
    some (x, y, 0, 1)
  else none

/-- The viewport transformation in one direction. -/
def toViewport (size : ℤ) (coordinate : F) : F := (coordinate + 1) * size / 2

/-- `kVertexShader`, and what GL does with its result. -/
def shade (facts : GlFacts) (c : GlContext F) (vertex : ℕ) : Option (Vertex F) := do
  let l := facts.locations c.current
  let aPosition ← c.fetch l.maPositionLoc vertex
  let aTextureCoord ← c.fetch l.maTextureCoordLoc vertex
  let (x, y, _, w) ← mulVec (c.matrix c.current l.muMVPMatrixLoc) aPosition
  let (s, t, _, _) ← mulVec (c.matrix c.current l.muGLCMatrixLoc) aTextureCoord
  some ⟨toViewport facts.viewportWidth (x / w), toViewport facts.viewportHeight (y / w), s, t⟩

def picture (facts : GlFacts) (c : GlContext F) (mode : DrawMode) (first count : ℕ) :
    Option (Picture F) :=
  match c.executable c.current with
  | [some .kVertexShader, fragment] => do
    let target ← samples fragment
    let unit := c.sampler c.current (facts.locations c.current).muTextureLoc
    some ⟨mode, target, c.texture unit.toNat target, (List.range' first count).map (c.shade facts)⟩
  | _ => none

def call (facts : GlFacts) (c : GlContext F) : GlCall F → GlContext F
  | .glShaderSource shader src => { c with source := Function.update c.source shader (some src) }
  | .glCompileShader shader =>
    { c with compiled := Function.update c.compiled shader (c.source shader) }
  | .glAttachShader program shader =>
    { c with attached := Function.update c.attached program (c.attached program ++ [shader]) }
  | .glLinkProgram program =>
    { c with
      executable := Function.update c.executable program ((c.attached program).map c.compiled) }
  | .glUseProgram program => { c with current := program }
  | .glVertexAttribPointer index _ pointer =>
    { c with pointer := Function.update c.pointer index pointer }
  | .glEnableVertexAttribArray index => { c with enabled := Function.update c.enabled index true }
  | .glDisableVertexAttribArray index => { c with enabled := Function.update c.enabled index false }
  | .glUniformMatrix4fv location value =>
    { c with
      matrix := Function.update c.matrix c.current
        (Function.update (c.matrix c.current) location value) }
  | .glActiveTexture unit => { c with unit := unit }
  | .glBindTexture target texName =>
    { c with
      texture := Function.update c.texture c.unit
        (Function.update (c.texture c.unit) target texName) }
  | .glUniform1i location value =>
    { c with
      sampler := Function.update c.sampler c.current
        (Function.update (c.sampler c.current) location value) }
  | .glDrawArrays mode first count =>
    { c with drawn := c.drawn ++ [c.picture facts mode first count] }
  | .glCreateShader _ | .glGetShaderiv _ _ | .glGetShaderInfoLog _ | .glDeleteShader _
  | .glCreateProgram | .glGetProgramiv _ _ | .glGetProgramInfoLog _ | .glDeleteProgram _
  | .glGetAttribLocation _ _ | .glGetUniformLocation _ _ | .glGetViewport | .glGetError => c

def execute (facts : GlFacts) (c : GlContext F) (log : List (Entry (GlCall F))) : GlContext F :=
  log.foldl (fun c e ↦ c.call facts e.request) c

end Shader

end GlContext

/-- A call that asks for something, creates a name or gives one up. -/
def GlCall.isQuiet {F : Type} : GlCall F → Bool
  | glCreateShader _ | glGetShaderiv _ _ | glGetShaderInfoLog _ | glDeleteShader _
  | glCreateProgram | glGetProgramiv _ _ | glGetProgramInfoLog _ | glDeleteProgram _
  | glGetAttribLocation _ _ | glGetUniformLocation _ _ | glGetViewport | glGetError => true
  | _ => false

/-- An implementation of GL: what a call does to its state, and whether it accepts the call or
records an error. -/
structure GlDriver (F : Type) where
  State : Type
  initial : State
  call : State → GlCall F → State
  accepts : State → GlCall F → Bool
  view : State → GlContext F
  facts : GlFacts

namespace GlDriver

variable {F : Type} (gl : GlDriver F)

def execute (log : List (Entry (GlCall F))) : gl.State :=
  log.foldl (fun s e ↦ gl.call s e.request) gl.initial

def AcceptsAll (log : List (Entry (GlCall F))) : Prop :=
  Always (fun before request ↦ gl.accepts (gl.execute before) request = true) log

/-- The effect of a call where it is accepted. -/
def Does (request : GlCall F) (effect : GlContext F → GlContext F) : Prop :=
  ∀ s, gl.accepts s request = true → gl.view (gl.call s request) = effect (gl.view s)

variable [Field F]

/-- The documented behaviour of the calls that `Program` makes. -/
structure Documented : Prop where
  initial : gl.view gl.initial = .start
  glShaderSource : ∀ shader src, gl.Does (.glShaderSource shader src) fun c ↦
    { c with source := Function.update c.source shader (some src) }
  glCompileShader : ∀ shader, gl.Does (.glCompileShader shader) fun c ↦
    { c with compiled := Function.update c.compiled shader (c.source shader) }
  glAttachShader : ∀ program shader, gl.Does (.glAttachShader program shader) fun c ↦
    { c with attached := Function.update c.attached program (c.attached program ++ [shader]) }
  glLinkProgram : ∀ program, gl.Does (.glLinkProgram program) fun c ↦
    { c with
      executable := Function.update c.executable program ((c.attached program).map c.compiled) }
  glUseProgram : ∀ program, gl.Does (.glUseProgram program) fun c ↦ { c with current := program }
  glVertexAttribPointer : ∀ index size pointer,
    gl.Does (.glVertexAttribPointer index size pointer) fun c ↦
      { c with pointer := Function.update c.pointer index pointer }
  glEnableVertexAttribArray : ∀ index, gl.Does (.glEnableVertexAttribArray index) fun c ↦
    { c with enabled := Function.update c.enabled index true }
  glDisableVertexAttribArray : ∀ index, gl.Does (.glDisableVertexAttribArray index) fun c ↦
    { c with enabled := Function.update c.enabled index false }
  glUniformMatrix4fv : ∀ location value, gl.Does (.glUniformMatrix4fv location value) fun c ↦
    { c with
      matrix := Function.update c.matrix c.current
        (Function.update (c.matrix c.current) location value) }
  glActiveTexture : ∀ unit, gl.Does (.glActiveTexture unit) fun c ↦ { c with unit := unit }
  glBindTexture : ∀ target texName, gl.Does (.glBindTexture target texName) fun c ↦
    { c with
      texture := Function.update c.texture c.unit
        (Function.update (c.texture c.unit) target texName) }
  glUniform1i : ∀ location value, gl.Does (.glUniform1i location value) fun c ↦
    { c with
      sampler := Function.update c.sampler c.current
        (Function.update (c.sampler c.current) location value) }
  glDrawArrays : ∀ mode first count, gl.Does (.glDrawArrays mode first count) fun c ↦
    { c with drawn := c.drawn ++ [c.picture gl.facts mode first count] }
  quiet : ∀ request : GlCall F, request.isQuiet = true → gl.Does request id

variable {gl}

theorem Documented.does (h : gl.Documented) (request : GlCall F) :
    gl.Does request fun c ↦ c.call gl.facts request := by
  cases request with
  | glShaderSource shader src => exact h.glShaderSource shader src
  | glCompileShader shader => exact h.glCompileShader shader
  | glAttachShader program shader => exact h.glAttachShader program shader
  | glLinkProgram program => exact h.glLinkProgram program
  | glUseProgram program => exact h.glUseProgram program
  | glVertexAttribPointer index size pointer => exact h.glVertexAttribPointer index size pointer
  | glEnableVertexAttribArray index => exact h.glEnableVertexAttribArray index
  | glDisableVertexAttribArray index => exact h.glDisableVertexAttribArray index
  | glUniformMatrix4fv location value => exact h.glUniformMatrix4fv location value
  | glActiveTexture unit => exact h.glActiveTexture unit
  | glBindTexture target texName => exact h.glBindTexture target texName
  | glUniform1i location value => exact h.glUniform1i location value
  | glDrawArrays mode first count => exact h.glDrawArrays mode first count
  | _ => exact h.quiet _ rfl

/-- A history of accepted calls has the effects of its calls. -/
theorem Documented.view_execute (h : gl.Documented) {log : List (Entry (GlCall F))}
    (haccepts : gl.AcceptsAll log) :
    gl.view (gl.execute log) = GlContext.start.execute gl.facts log := by
  induction log using List.reverseRecOn with
  | nil => exact h.initial
  | append_singleton log e ih =>
    obtain ⟨hbefore, hlast⟩ := always_append_singleton.mp haccepts
    unfold execute GlContext.execute
    rw [List.foldl_append, List.foldl_append]
    exact (h.does e.request _ hlast).trans (congrArg (GlContext.call gl.facts · e.request)
      (ih hbefore))

/-- The view with the effects as its calls, which it accepts. -/
def ofEffects (facts : GlFacts) : GlDriver F where
  State := GlContext F
  initial := .start
  call c request := c.call facts request
  accepts _ _ := true
  view c := c
  facts := facts

theorem documented_ofEffects (facts : GlFacts) : (ofEffects facts : GlDriver F).Documented where
  initial := rfl
  glShaderSource _ _ _ _ := rfl
  glCompileShader _ _ _ := rfl
  glAttachShader _ _ _ _ := rfl
  glLinkProgram _ _ _ := rfl
  glUseProgram _ _ _ := rfl
  glVertexAttribPointer _ _ _ _ _ := rfl
  glEnableVertexAttribArray _ _ _ := rfl
  glDisableVertexAttribArray _ _ _ := rfl
  glUniformMatrix4fv _ _ _ _ := rfl
  glActiveTexture _ _ _ := rfl
  glBindTexture _ _ _ _ := rfl
  glUniform1i _ _ _ _ := rfl
  glDrawArrays _ _ _ _ _ := rfl
  quiet request hquiet s _ := by
    cases request <;> first | rfl | cases hquiet

end GlDriver

end WLManager
