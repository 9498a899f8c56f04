import Pipewright.Mapping.Resolution
import Pipewright.Pipeline.Config
import Pipewright.World

set_option autoImplicit false

/-! # Loading documents

`LoadedConfig.load` reads a pipeline configuration and keeps its bytes, so that a project can have
an exact copy of it. `MappingDocument.load` reads a mapping document. -/

namespace Pipewright

/-- A configuration with the file it was read from. -/
structure LoadedConfig where
  config : PipelineConfig
  /-- The path, as it was given. -/
  path : Path
  fileName : String
  bytes : Bytes

/-- Reads a configuration, which must be a regular file. -/
def LoadedConfig.load (path : Path) : Job LoadedConfig := do
  let fail := fun (message : String) => Failure.config path message
  if path = "" then throw (.config "<none>" "config file name is empty")
  match ← Job.orFail (fun e => fail e.describe) (← Job.stat path) with
  | .file _ _ =>
    match Path.fileName? path with
    | none => throw (fail "no file name")
    | some fileName =>
      let bytes ← Job.orFail (fun e => fail e.describe) (← Job.readFile path)
      match Json.ofBytes? PipelineConfig.decode bytes with
      | .ok config =>
        Job.log .debug .configuration
        return { config, path, fileName, bytes }
      | .error fault => throw (fail ("malformed configuration: " ++ fault.message))
  | _ => throw (fail "config path must point to a regular file")

/-- Reads a mapping document. -/
def MappingDocument.load (path : Path) : Job MappingDocument := do
  let fail := fun (message : String) => Failure.config path message
  let bytes ← Job.orFail (fun e => fail e.describe) (← Job.readFile path)
  match Json.ofBytes? MappingDocument.decode bytes with
  | .ok document =>
    Job.log .debug .mapping
    return document
  | .error fault => throw (fail ("malformed package source: " ++ fault.message))

end Pipewright
