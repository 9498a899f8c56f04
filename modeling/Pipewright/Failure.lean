import Pipewright.Errno
import Pipewright.Path

set_option autoImplicit false

/-! # Failures

`Failure` is the first thing that went wrong in resolving, creating, building or running a
project. Each failure has a `category`, by which reports are sorted, and a `message`.

* `Failure.isRecoverable` holds of the one failure that forcing can overcome. -/

namespace Pipewright

/-- What an operation on a file met. -/
inductive IoCause where
  | system (e : Errno)
  | other (text : String)
  deriving DecidableEq, Repr

/-- The wording of what an operation on a file met. -/
def IoCause.describe : IoCause → String
  | .system e => e.describe
  | .other text => text

/-- Two entries that bind one URN to different import paths. -/
structure Conflict where
  urn : String
  existingPackage : String
  existingDocument : Path
  conflictingPackage : String
  document : Path
  deriving DecidableEq, Repr

/-- What went wrong. -/
inductive Failure where
  /-- A configuration document or a setting cannot be used; `origin` names it. -/
  | config (origin message : String)
  /-- An option has no usable value. -/
  | validation (field message : String)
  | noMappingSource
  | unresolvedUrn (urn : String)
  | conflictingMapping (conflict : Conflict)
  /-- A package could not be fetched. -/
  | fetch (package message : String)
  /-- A template could not be read or rendered. -/
  | render (template message : String)
  | projectExists (path : Path)
  | io (path : Path) (cause : IoCause)
  | build (project : Path) (message : String)
  | runtime (message : String)
  deriving DecidableEq, Repr

/-- The classes of failures. -/
inductive Category where
  | config
  | validation
  | resolution
  | fetch
  | render
  | filesystem
  | build
  | runtime
  deriving DecidableEq, Repr

/-- The name of a class. -/
def Category.name : Category → String
  | .config => "config"
  | .validation => "validation"
  | .resolution => "resolution"
  | .fetch => "fetch"
  | .render => "render"
  | .filesystem => "filesystem"
  | .build => "build"
  | .runtime => "runtime"

namespace Failure

/-- The class of a failure. -/
def category : Failure → Category
  | .config .. => .config
  | .validation .. | .noMappingSource => .validation
  | .unresolvedUrn .. | .conflictingMapping .. => .resolution
  | .fetch .. => .fetch
  | .render .. => .render
  | .projectExists .. | .io .. => .filesystem
  | .build .. => .build
  | .runtime .. => .runtime

/-- Whether forcing can overcome the failure. -/
def isRecoverable : Failure → Bool
  | .projectExists .. => true
  | _ => false

/-- The wording of a failure. -/
def message : Failure → String
  | .config origin message => "Configuration error: " ++ origin ++ ": " ++ message
  | .validation field message => "Validation error: " ++ field ++ ": " ++ message
  | .noMappingSource => "No urn package source found"
  | .unresolvedUrn urn =>
    "Unresolved urn: " ++ urn ++ " is not provided by any package source"
  | .conflictingMapping conflict =>
    "Conflicting package source for urn " ++ conflict.urn ++ ": " ++ conflict.existingPackage ++
      " (from " ++ conflict.existingDocument ++ ") vs " ++ conflict.conflictingPackage ++
      " (from " ++ conflict.document ++ ")"
  | .fetch package message => "Fetch failed for package " ++ package ++ ": " ++ message
  | .render template message => "Render error: " ++ template ++ ": " ++ message
  | .projectExists path => "Project path " ++ path ++ " already exists"
  | .io path cause => "I/O error at " ++ path ++ ": " ++ cause.describe
  | .build project message => "Build failed for project " ++ project ++ ": " ++ message
  | .runtime message => "Runtime error: " ++ message

/-- The wording of the underlying error of a failed file operation. -/
def source? : Failure → Option String
  | .io _ cause => some cause.describe
  | _ => none

end Failure

/-- A step on a state that may fail; a failed step leaves the state as it had it. -/
abbrev Action (σ : Type) (α : Type) := ExceptT Failure (StateM σ) α

end Pipewright
