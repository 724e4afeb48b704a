import Mathlib.Data.Int.Notation
import WLManager.Protocol.Ownership
import WLManager.Transition.Run

/-!
# EGL windows

An `EglWindow` wraps the display, the context and the surface that EGL creates for one drawing
target. All windows of a thread share its binding: `eglMakeCurrent` and `eglReleaseThread` act on
the thread, whichever window calls them. The calls into EGL are kept as a history, each with EGL's
answer whether it succeeded.
-/

namespace WLManager

open History

/-- The objects that EGL creates for a window. -/
inductive EglObject
  | context
  | surface
  deriving DecidableEq

/-- There is one display, `EGL_DEFAULT_DISPLAY`. -/
inductive EGLDisplay
  | EGL_NO_DISPLAY
  | defaultDisplay
  deriving DecidableEq

/-- The calls of `EglWindow`. A config is a number, and `none` is `NULL`. The two calls that destroy
an object carry EGL's answer, for one that is refused destroys nothing. -/
inductive EglCall
  | eglGetDisplay
  | eglInitialize (display : EGLDisplay)
  | eglChooseConfig (display : EGLDisplay) (forPbuffer : Bool)
  | eglCreateContext (display : EGLDisplay) (config : Option ℕ)
  | eglCreateWindowSurface (display : EGLDisplay) (config : Option ℕ) (producer : ℕ)
  | eglCreatePbufferSurface (display : EGLDisplay) (config : Option ℕ) (width height : ℤ)
  | eglMakeCurrent (display : EGLDisplay) (surface context : Ptr)
  | eglDestroyContext (display : EGLDisplay) (context : Ptr) (destroyed : Bool)
  | eglDestroySurface (display : EGLDisplay) (surface : Ptr) (destroyed : Bool)
  | eglReleaseThread
  | eglPresentationTimeANDROID (display : EGLDisplay) (surface : Ptr) (whenNsec : ℤ)
  | eglSwapBuffers (display : EGLDisplay) (surface : Ptr)
  deriving DecidableEq

namespace EglCall

/-- The objects a call needs; `EGL_NO_SURFACE` and `EGL_NO_CONTEXT` may be passed where EGL answers
them with an error, or with the release of what is bound. -/
def uses : EglCall → List (EglObject × Ptr)
  | eglMakeCurrent _ surface context => pointee .surface surface ++ pointee .context context
  | eglDestroyContext _ context _ => [(.context, context)]
  | eglDestroySurface _ surface _ => [(.surface, surface)]
  | eglPresentationTimeANDROID _ surface _ | eglSwapBuffers _ surface => pointee .surface surface
  | _ => []

def constructs : EglCall → Option EglObject
  | eglCreateContext _ _ => some .context
  | eglCreateWindowSurface _ _ _ | eglCreatePbufferSurface _ _ _ _ => some .surface
  | _ => none

def destroys : EglCall → Option (EglObject × Ptr)
  | eglDestroyContext _ context true => some (.context, context)
  | eglDestroySurface _ surface true => some (.surface, surface)
  | _ => none

/-- The object that EGL refuses to destroy. -/
def refused : EglCall → Multiset (EglObject × Ptr)
  | eglDestroyContext _ context false => {(.context, context)}
  | eglDestroySurface _ surface false => {(.surface, surface)}
  | _ => 0

instance : Signature EglCall EglObject where
  uses := uses
  constructs := constructs
  destroys := destroys
  closes _ := false
  destroys_uses c u h := by
    cases c with
    | eglDestroyContext display context destroyed =>
      cases destroyed <;> cases h
      exact List.mem_singleton_self _
    | eglDestroySurface display surface destroyed =>
      cases destroyed <;> cases h
      exact List.mem_singleton_self _
    | _ => cases h
  closes_uses _ h := by
    cases h

end EglCall

/-- `status_t`, as far as these classes answer it. -/
inductive EglStatus
  | NO_ERROR
  | UNKNOWN_ERROR
  deriving DecidableEq

structure EglWindow where
  mEglDisplay : EGLDisplay
  mEglContext : Ptr
  mEglSurface : Ptr
  mEglConfig : Option ℕ
  mWidth : ℤ
  mHeight : ℤ
  deriving DecidableEq

/-- The constructor. -/
def EglWindow.construct : EglWindow where
  mEglDisplay := .EGL_NO_DISPLAY
  mEglContext := .null
  mEglSurface := .null
  mEglConfig := none
  mWidth := 0
  mHeight := 0

/-- An `IGraphicBufferProducer` with its answers to the two queries; a query that fails leaves the
variable alone. -/
structure GraphicBufferProducer where
  id : ℕ
  width : Option ℤ
  height : Option ℤ
  deriving DecidableEq

/-- What a surface is created for: the argument of `createWindow` or those of `createPbuffer`. -/
inductive EglTarget
  | window (producer : GraphicBufferProducer)
  | pbuffer (width height : ℤ)
  deriving DecidableEq

namespace EglTarget

def forPbuffer : EglTarget → Bool
  | window _ => false
  | pbuffer _ _ => true

/-- Cache the dimensions. -/
def resize (w : EglWindow) : EglTarget → EglWindow
  | window producer =>
    { w with
      mWidth := producer.width.getD w.mWidth
      mHeight := producer.height.getD w.mHeight }
  | pbuffer width height => { w with mWidth := width, mHeight := height }

/-- The call that creates the surface. -/
def create (w : EglWindow) : EglTarget → EglCall
  | window producer => .eglCreateWindowSurface w.mEglDisplay w.mEglConfig producer.id
  | pbuffer width height => .eglCreatePbufferSurface w.mEglDisplay w.mEglConfig width height

end EglTarget

/-- EGL's answers to `eglSetupContext`. `eglChooseConfig` fails, or writes a config if one
matches. -/
structure EglSetupAnswers where
  eglGetDisplay : Bool
  eglInitialize : Bool
  eglChooseConfig : Option (Option ℕ)
  eglCreateContext : Bool
  deriving DecidableEq

/-- EGL's answers to `eglRelease`. -/
structure EglReleaseAnswers where
  eglMakeCurrent : Bool
  eglDestroyContext : Bool
  eglDestroySurface : Bool
  deriving DecidableEq

/-- EGL's answers to `createWindow` and `createPbuffer`, which may have to release a context. -/
structure EglCreateAnswers extends EglSetupAnswers where
  surface : Bool
  release : EglReleaseAnswers
  deriving DecidableEq

/-- A window next to the calls that its thread has made. -/
structure Egl where
  log : List (Entry EglCall)
  window : EglWindow
  deriving DecidableEq

namespace Egl

def call (e : Egl) (c : EglCall) (answer : Bool) : Egl := { e with log := e.log ++ [⟨c, answer⟩] }

/-- What the next call creates, if it succeeds. -/
def created (e : Egl) (answer : Bool) : Ptr := if answer then .obj e.log.length else .null

def eglGetDisplay (e : Egl) (answer : Bool) : Egl :=
  let e := e.call .eglGetDisplay answer
  { e with window :=
    { e.window with mEglDisplay := if answer then .defaultDisplay else .EGL_NO_DISPLAY } }

def eglInitialize (e : Egl) (answer : Bool) : Egl :=
  e.call (.eglInitialize e.window.mEglDisplay) answer

def eglChooseConfig (e : Egl) (forPbuffer : Bool) (answer : Option (Option ℕ)) : Egl :=
  let e := e.call (.eglChooseConfig e.window.mEglDisplay forPbuffer) answer.isSome
  { e with window := { e.window with mEglConfig := answer.join.or e.window.mEglConfig } }

def eglCreateContext (e : Egl) (answer : Bool) : Egl :=
  { e.call (.eglCreateContext e.window.mEglDisplay e.window.mEglConfig) answer with
    window := { e.window with mEglContext := e.created answer } }

/-- The number of configs that `eglChooseConfig` found is not looked at. -/
def eglSetupContext (e : Egl) (forPbuffer : Bool) (answers : EglSetupAnswers) :
    EglStatus × Egl :=
  let e := e.eglGetDisplay answers.eglGetDisplay
  if e.window.mEglDisplay = .EGL_NO_DISPLAY then (.UNKNOWN_ERROR, e)
  else
    let e := e.eglInitialize answers.eglInitialize
    if !answers.eglInitialize then (.UNKNOWN_ERROR, e)
    else
      let e := e.eglChooseConfig forPbuffer answers.eglChooseConfig
      if answers.eglChooseConfig.isNone then (.UNKNOWN_ERROR, e)
      else
        let e := e.eglCreateContext answers.eglCreateContext
        if e.window.mEglContext = .null then (.UNKNOWN_ERROR, e) else (.NO_ERROR, e)

def destroyContext (e : Egl) (answer : Bool) : Egl :=
  if e.window.mEglContext ≠ .null then
    e.call (.eglDestroyContext e.window.mEglDisplay e.window.mEglContext answer) answer
  else e

def destroySurface (e : Egl) (answer : Bool) : Egl :=
  if e.window.mEglSurface ≠ .null then
    e.call (.eglDestroySurface e.window.mEglDisplay e.window.mEglSurface answer) answer
  else e

/-- No answer is looked at. The thread's binding is given up even where this window has nothing. -/
def eglRelease (e : Egl) (answers : EglReleaseAnswers) : Egl :=
  let e :=
    if e.window.mEglDisplay ≠ .EGL_NO_DISPLAY then
      let e := e.call (.eglMakeCurrent e.window.mEglDisplay .null .null) answers.eglMakeCurrent
      let e := e.destroyContext answers.eglDestroyContext
      e.destroySurface answers.eglDestroySurface
    else e
  let e := { e with window :=
    { e.window with
      mEglDisplay := .EGL_NO_DISPLAY
      mEglContext := .null
      mEglSurface := .null
      mEglConfig := none } }
  e.call .eglReleaseThread true

def createSurface (e : Egl) (target : EglTarget) (answer : Bool) : Egl :=
  let e := { e with window := target.resize e.window }
  { e.call (target.create e.window) answer with
    window := { e.window with mEglSurface := e.created answer } }

/-- What `createWindow` and `createPbuffer` have in common. -/
def create (e : Egl) (target : EglTarget) (answers : EglCreateAnswers) : EglStatus × Egl :=
  if e.window.mEglSurface ≠ .null then (.UNKNOWN_ERROR, e)
  else
    let (err, e) := e.eglSetupContext target.forPbuffer answers.toEglSetupAnswers
    if err ≠ .NO_ERROR then (err, e)
    else
      let e := e.createSurface target answers.surface
      if e.window.mEglSurface = .null then (.UNKNOWN_ERROR, e.eglRelease answers.release)
      else (.NO_ERROR, e)

def createWindow (e : Egl) (producer : GraphicBufferProducer) (answers : EglCreateAnswers) :
    EglStatus × Egl :=
  e.create (.window producer) answers

def createPbuffer (e : Egl) (width height : ℤ) (answers : EglCreateAnswers) : EglStatus × Egl :=
  e.create (.pbuffer width height) answers

def makeCurrent (e : Egl) (answer : Bool) : EglStatus × Egl :=
  let w := e.window
  let e := e.call (.eglMakeCurrent w.mEglDisplay w.mEglSurface w.mEglContext) answer
  if !answer then (.UNKNOWN_ERROR, e) else (.NO_ERROR, e)

def presentationTime (e : Egl) (whenNsec : ℤ) (answer : Bool) : Egl :=
  e.call (.eglPresentationTimeANDROID e.window.mEglDisplay e.window.mEglSurface whenNsec) answer

def swapBuffers (e : Egl) (answer : Bool) : Egl :=
  e.call (.eglSwapBuffers e.window.mEglDisplay e.window.mEglSurface) answer

def release (e : Egl) (answers : EglReleaseAnswers) : Egl := e.eglRelease answers

end Egl

/-- A thread that uses EGL, and the windows it has constructed; `none` once one is destructed. -/
structure EglThread where
  log : List (Entry EglCall)
  windows : List (Option EglWindow)
  deriving DecidableEq

namespace EglThread

def start : EglThread where
  log := []
  windows := []

/-- The member functions of the windows, with EGL's answers. -/
inductive Action
  | construct
  | createWindow (index : ℕ) (producer : GraphicBufferProducer) (answers : EglCreateAnswers)
  | createPbuffer (index : ℕ) (width height : ℤ) (answers : EglCreateAnswers)
  | makeCurrent (index : ℕ) (answer : Bool)
  | presentationTime (index : ℕ) (whenNsec : ℤ) (answer : Bool)
  | swapBuffers (index : ℕ) (answer : Bool)
  | release (index : ℕ) (answers : EglReleaseAnswers)
  | destruct (index : ℕ) (answers : EglReleaseAnswers)
  deriving DecidableEq

/-- The window with this number, unless it has been destructed. -/
def window? (s : EglThread) (index : ℕ) : Option EglWindow := s.windows[index]?.join

/-- Call a member function of a window. -/
def on (s : EglThread) (index : ℕ) (f : Egl → Egl) : Option EglThread := do
  let w ← s.window? index
  let e := f ⟨s.log, w⟩
  some ⟨e.log, s.windows.set index (some e.window)⟩

def step (s : EglThread) : Action → Option EglThread
  | .construct => some { s with windows := s.windows ++ [some .construct] }
  | .createWindow index producer answers =>
    s.on index fun e ↦ (e.createWindow producer answers).2
  | .createPbuffer index width height answers =>
    s.on index fun e ↦ (e.createPbuffer width height answers).2
  | .makeCurrent index answer => s.on index fun e ↦ (e.makeCurrent answer).2
  | .presentationTime index whenNsec answer => s.on index fun e ↦ e.presentationTime whenNsec answer
  | .swapBuffers index answer => s.on index fun e ↦ e.swapBuffers answer
  | .release index answers => s.on index fun e ↦ e.release answers
  | .destruct index answers => do
    let w ← s.window? index
    some ⟨((⟨s.log, w⟩ : Egl).eglRelease answers).log, s.windows.set index none⟩

end EglThread

end WLManager
