import Mathlib.Data.Rat.Defs
import WLManager.Client.EglWindow

/-!
# GL programs

A `Program` compiles two shaders, links them into a GL program and draws textures with it. The calls
into GL are kept as a history; where GL answers with a name, a status or a location, the answer is
an input. The type of `float` is a parameter with the operations the source uses.
-/

namespace WLManager

open History

/-- The objects that GL creates. -/
inductive GlObject
  | shader
  | program
  deriving DecidableEq

/-- `GLint`. -/
abbrev GLint := BitVec 32

inductive ShaderType
  | GL_VERTEX_SHADER
  | GL_FRAGMENT_SHADER
  deriving DecidableEq

/-- The shader texts of the file. -/
inductive ShaderSource
  | kVertexShader
  | kExtFragmentShader
  | kFragmentShader
  deriving DecidableEq

inductive ProgramType
  | PROGRAM_UNKNOWN
  | PROGRAM_EXTERNAL_TEXTURE
  | PROGRAM_TEXTURE_2D
  deriving DecidableEq

inductive TextureTarget
  | GL_TEXTURE_EXTERNAL_OES
  | GL_TEXTURE_2D
  deriving DecidableEq

inductive DrawMode
  | GL_TRIANGLES
  | GL_TRIANGLE_STRIP
  deriving DecidableEq

/-- The calls of `Program`. -/
inductive GlCall (F : Type)
  | glCreateShader (shaderType : ShaderType)
  | glShaderSource (shader : Ptr) (src : ShaderSource)
  | glCompileShader (shader : Ptr)
  | glGetShaderiv (shader : Ptr) (pname : String)
  | glGetShaderInfoLog (shader : Ptr)
  | glDeleteShader (shader : Ptr)
  | glCreateProgram
  | glAttachShader (program shader : Ptr)
  | glLinkProgram (program : Ptr)
  | glGetProgramiv (program : Ptr) (pname : String)
  | glGetProgramInfoLog (program : Ptr)
  | glDeleteProgram (program : Ptr)
  | glGetAttribLocation (program : Ptr) (name : String)
  | glGetUniformLocation (program : Ptr) (name : String)
  | glGetViewport
  | glUseProgram (program : Ptr)
  | glVertexAttribPointer (index : GLint) (size : ℕ) (pointer : List F)
  | glEnableVertexAttribArray (index : GLint)
  | glDisableVertexAttribArray (index : GLint)
  | glUniformMatrix4fv (location : GLint) (value : List F)
  | glActiveTexture (unit : ℕ)
  | glBindTexture (target : TextureTarget) (texName : ℕ)
  | glUniform1i (location : GLint) (value : ℤ)
  | glGetError
  | glDrawArrays (mode : DrawMode) (first count : ℕ)
  deriving DecidableEq

namespace GlCall

variable {F : Type}

/-- The objects a call needs; `glUseProgram(0)` uses none. -/
def uses : GlCall F → List (GlObject × Ptr)
  | glShaderSource shader _ | glCompileShader shader | glGetShaderiv shader _
  | glGetShaderInfoLog shader | glDeleteShader shader => [(.shader, shader)]
  | glAttachShader program shader => [(.program, program), (.shader, shader)]
  | glLinkProgram program | glGetProgramiv program _ | glGetProgramInfoLog program
  | glDeleteProgram program | glGetAttribLocation program _ | glGetUniformLocation program _ =>
    [(.program, program)]
  | glUseProgram program => pointee .program program
  | _ => []

def constructs : GlCall F → Option GlObject
  | glCreateShader _ => some .shader
  | glCreateProgram => some .program
  | _ => none

def destroys : GlCall F → Option (GlObject × Ptr)
  | glDeleteShader shader => some (.shader, shader)
  | glDeleteProgram program => some (.program, program)
  | _ => none

instance : Signature (GlCall F) GlObject where
  uses := uses
  constructs := constructs
  destroys := destroys
  closes _ := false
  destroys_uses c u h := by
    cases c <;> cases h <;> exact List.mem_singleton.mpr rfl
  closes_uses _ h := by
    cases h

end GlCall

/-- The members that hold the results of the look-ups. -/
structure Locations where
  maPositionLoc : GLint
  maTextureCoordLoc : GLint
  muMVPMatrixLoc : GLint
  muGLCMatrixLoc : GLint
  muTextureLoc : GLint
  deriving DecidableEq

structure Program where
  mProgramType : ProgramType
  mProgram : Ptr
  locations : Locations
  deriving DecidableEq

/-- The constructor. -/
def Program.construct : Program where
  mProgramType := .PROGRAM_UNKNOWN
  mProgram := .null
  locations := ⟨0, 0, 0, 0, 0⟩

/-- GL's answers to `compileShader`. -/
structure CompileAnswers where
  glCreateShader : Bool
  compiled : Bool
  infoLen : Bool
  deriving DecidableEq

/-- GL's answers to `linkShaderProgram`. -/
structure LinkAnswers where
  glCreateProgram : Bool
  linkStatus : Bool
  bufLength : Bool
  deriving DecidableEq

/-- GL's answers to `setup`. -/
structure SetupAnswers where
  vertex : CompileAnswers
  fragment : CompileAnswers
  link : LinkAnswers
  locations : Locations
  deriving DecidableEq

/-- What GL answers during a draw: the viewport and whether there was no error before and after. -/
structure DrawAnswers where
  viewportWidth : ℤ
  viewportHeight : ℤ
  noErrorBefore : Bool
  noErrorAfter : Bool
  deriving DecidableEq

/-- A program next to the calls that have been made into GL. -/
structure Gl (F : Type) where
  log : List (Entry (GlCall F))
  program : Program
  deriving DecidableEq

namespace Gl

variable {F : Type}

/-- Calls without an answer that matters. -/
def calls (cs : List (GlCall F)) : List (Entry (GlCall F)) := cs.map fun c ↦ ⟨c, true⟩

/-- `none` stands for `UNKNOWN_ERROR`, a result for `NO_ERROR` and the out parameter. -/
def compileShader (log : List (Entry (GlCall F))) (shaderType : ShaderType) (src : ShaderSource)
    (answers : CompileAnswers) : Option Ptr × List (Entry (GlCall F)) :=
  let shader := if answers.glCreateShader then Ptr.obj log.length else .null
  let log := log ++ [⟨.glCreateShader shaderType, answers.glCreateShader⟩]
  if shader = .null then (none, log)
  else
    let log := log ++ calls [.glShaderSource shader src, .glCompileShader shader,
      .glGetShaderiv shader "GL_COMPILE_STATUS"]
    if !answers.compiled then
      let log := log ++ calls [.glGetShaderiv shader "GL_INFO_LOG_LENGTH"]
      let log := log ++ calls (if answers.infoLen then [.glGetShaderInfoLog shader] else [])
      (none, log ++ calls [.glDeleteShader shader])
    else (some shader, log)

def linkShaderProgram (log : List (Entry (GlCall F))) (vs fs : Ptr) (answers : LinkAnswers) :
    Option Ptr × List (Entry (GlCall F)) :=
  let program := if answers.glCreateProgram then Ptr.obj log.length else .null
  let log := log ++ [⟨.glCreateProgram, answers.glCreateProgram⟩]
  if program = .null then (none, log)
  else
    let log := log ++ calls [.glAttachShader program vs, .glAttachShader program fs,
      .glLinkProgram program, .glGetProgramiv program "GL_LINK_STATUS"]
    if !answers.linkStatus then
      let log := log ++ calls [.glGetProgramiv program "GL_INFO_LOG_LENGTH"]
      let log := log ++ calls (if answers.bufLength then [.glGetProgramInfoLog program] else [])
      (none, log ++ calls [.glDeleteProgram program])
    else (some program, log)

def createProgram (log : List (Entry (GlCall F))) (vertexShader fragmentShader : ShaderSource)
    (answers : SetupAnswers) : Option Ptr × List (Entry (GlCall F)) :=
  match compileShader log .GL_VERTEX_SHADER vertexShader answers.vertex with
  | (none, log) => (none, log)
  | (some vs, log) =>
    match compileShader log .GL_FRAGMENT_SHADER fragmentShader answers.fragment with
    | (none, log) => (none, log ++ calls [.glDeleteShader vs])
    | (some fs, log) =>
      let (program, log) := linkShaderProgram log vs fs answers.link
      (program, log ++ calls [.glDeleteShader vs] ++ calls [.glDeleteShader fs])

/-- The look-ups of `setup`. -/
def lookUps (program : Ptr) : List (GlCall F) :=
  [.glGetAttribLocation program "aPosition", .glGetAttribLocation program "aTextureCoord",
    .glGetUniformLocation program "uMVPMatrix", .glGetUniformLocation program "uGLCMatrix",
    .glGetUniformLocation program "uTexture"]

/-- The fragment shader for a type. -/
def fragmentShader (type : ProgramType) : ShaderSource :=
  if type = .PROGRAM_TEXTURE_2D then .kFragmentShader else .kExtFragmentShader

/-- A look-up has failed, which the source reads off the bitwise or of the locations. -/
def lookupFailed (l : Locations) : Bool :=
  l.maPositionLoc ||| l.maTextureCoordLoc ||| l.muMVPMatrixLoc ||| l.muGLCMatrixLoc |||
    l.muTextureLoc == -1

/-- The type and the locations are written before it is known whether the setup succeeds. -/
def setup (g : Gl F) (type : ProgramType) (answers : SetupAnswers) : EglStatus × Gl F :=
  let p := { g.program with mProgramType := type }
  match createProgram g.log .kVertexShader (fragmentShader type) answers with
  | (none, log) => (.UNKNOWN_ERROR, ⟨log, p⟩)
  | (some program, log) =>
    let log := log ++ calls (lookUps program)
    let p := { p with locations := answers.locations }
    if lookupFailed p.locations then
      (.UNKNOWN_ERROR, ⟨log ++ calls [.glDeleteProgram program], p⟩)
    else (.NO_ERROR, ⟨log, { p with mProgram := program }⟩)

def release (g : Gl F) : Gl F :=
  if g.program.mProgram ≠ .null then
    ⟨g.log ++ calls [.glDeleteProgram g.program.mProgram], { g.program with mProgram := .null }⟩
  else g

variable [Div F] [Neg F] [IntCast F]

/-- The orthographic projection for a viewport. -/
def screenToNdc (width height : ℤ) (invert : Bool) : List F :=
  let scaleY : F := -((2 : ℤ) : F) / (height : F)
  let offsetY : F := ((1 : ℤ) : F)
  [((2 : ℤ) : F) / (width : F), (0 : ℤ), (0 : ℤ), (0 : ℤ),
    (0 : ℤ), if invert then -scaleY else scaleY, (0 : ℤ), (0 : ℤ),
    (0 : ℤ), (0 : ℤ), ((1 : ℤ) : F), (0 : ℤ),
    -((1 : ℤ) : F), if invert then -offsetY else offsetY, (0 : ℤ), ((1 : ℤ) : F)]

/-- What `beforeDraw` calls before it looks at the type of the program. -/
def prepareDraw (p : Program) (texMatrix vertices texes : List F) (invert : Bool)
    (answers : DrawAnswers) : List (GlCall F) :=
  [.glGetViewport, .glUseProgram p.mProgram,
    .glVertexAttribPointer p.locations.maPositionLoc 2 vertices,
    .glVertexAttribPointer p.locations.maTextureCoordLoc 2 texes,
    .glEnableVertexAttribArray p.locations.maPositionLoc,
    .glEnableVertexAttribArray p.locations.maTextureCoordLoc,
    .glUniformMatrix4fv p.locations.muMVPMatrixLoc
      (screenToNdc answers.viewportWidth answers.viewportHeight invert),
    .glUniformMatrix4fv p.locations.muGLCMatrixLoc texMatrix, .glActiveTexture 0]

/-- The texture target for a type; the `default` of the `switch` is `none`. -/
def textureTarget : ProgramType → Option TextureTarget
  | .PROGRAM_EXTERNAL_TEXTURE => some .GL_TEXTURE_EXTERNAL_OES
  | .PROGRAM_TEXTURE_2D => some .GL_TEXTURE_2D
  | .PROGRAM_UNKNOWN => none

/-- Disable the two arrays, as `beforeDraw` and `afterDraw` both do. -/
def disableArrays (p : Program) : List (GlCall F) :=
  [.glDisableVertexAttribArray p.locations.maPositionLoc,
    .glDisableVertexAttribArray p.locations.maTextureCoordLoc]

/-- An unexpected type of program is noticed after the arrays have been enabled, and leaves them
so. -/
def beforeDraw (g : Gl F) (texName : ℕ) (texMatrix vertices texes : List F) (invert : Bool)
    (answers : DrawAnswers) : EglStatus × Gl F :=
  let p := g.program
  let g := { g with log := g.log ++ calls (prepareDraw p texMatrix vertices texes invert answers) }
  match textureTarget p.mProgramType with
  | none => (.UNKNOWN_ERROR, g)
  | some target =>
    let g := { g with log := g.log ++ calls [.glBindTexture target texName,
      .glUniform1i p.locations.muTextureLoc 0, .glGetError] }
    if !answers.noErrorBefore then
      (.UNKNOWN_ERROR, { g with log := g.log ++ calls (disableArrays p) })
    else (.NO_ERROR, g)

def afterDraw (g : Gl F) (answers : DrawAnswers) : EglStatus × Gl F :=
  let g := { g with log := g.log ++ calls (disableArrays g.program) }
  let g := { g with log := g.log ++ calls [.glGetError] }
  if !answers.noErrorAfter then (.UNKNOWN_ERROR, g) else (.NO_ERROR, g)

/-- What `blit` and `drawTriangles` have in common. -/
def draw (g : Gl F) (texName : ℕ) (texMatrix vertices texes : List F) (invert : Bool)
    (mode : DrawMode) (count : ℕ) (answers : DrawAnswers) : EglStatus × Gl F :=
  let (err, g) := g.beforeDraw texName texMatrix vertices texes invert answers
  if err = .NO_ERROR then
    { g with log := g.log ++ calls [.glDrawArrays mode 0 count] }.afterDraw answers
  else (err, g)

/-- A sum of `int32_t`. -/
def addInt32 (m n : ℤ) : ℤ := (m + n).bmod (2 ^ 32)

/-- The corners of the rectangle, in the order of a triangle strip. -/
def blitPos (x y w h : ℤ) : List F :=
  [(x : F), (addInt32 y h : F), (addInt32 x w : F), (addInt32 y h : F), (x : F), (y : F),
    (addInt32 x w : F), (y : F)]

def blitUv : List F :=
  [(0 : ℤ), (0 : ℤ), (1 : ℤ), (0 : ℤ), (0 : ℤ), (1 : ℤ), (1 : ℤ), (1 : ℤ)].map fun n : ℤ ↦ (n : F)

def blit (g : Gl F) (texName : ℕ) (texMatrix : List F) (x y w h : ℤ) (invert : Bool)
    (answers : DrawAnswers) : EglStatus × Gl F :=
  g.draw texName texMatrix (blitPos x y w h) blitUv invert .GL_TRIANGLE_STRIP 4 answers

def drawTriangles (g : Gl F) (texName : ℕ) (texMatrix vertices texes : List F) (count : ℕ)
    (answers : DrawAnswers) : EglStatus × Gl F :=
  g.draw texName texMatrix vertices texes false .GL_TRIANGLES count answers

/-- The member functions; the destructor is `release`. -/
inductive Action (F : Type)
  | setup (type : ProgramType) (answers : SetupAnswers)
  | release
  | blit (texName : ℕ) (texMatrix : List F) (x y w h : ℤ) (invert : Bool) (answers : DrawAnswers)
  | drawTriangles (texName : ℕ) (texMatrix vertices texes : List F) (count : ℕ)
      (answers : DrawAnswers)

def start : Gl F := ⟨[], .construct⟩

def step (g : Gl F) : Action F → Option (Gl F)
  | .setup type answers => some (g.setup type answers).2
  | .release => some g.release
  | .blit texName texMatrix x y w h invert answers =>
    some (g.blit texName texMatrix x y w h invert answers).2
  | .drawTriangles texName texMatrix vertices texes count answers =>
    some (g.drawTriangles texName texMatrix vertices texes count answers).2

end Gl

end WLManager
