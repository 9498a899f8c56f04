import Pipewright.Project.Arguments
import Pipewright.Project.Options

set_option autoImplicit false

/-! # The data of a template

`ProjectData` is all that the template of a project can refer to, and `ProjectData.toJson` the
data by its names. -/

namespace Pipewright

/-- What the template of a project can refer to. -/
structure ProjectData where
  options : CreateOptions
  packages : List Package
  /-- The path of the configuration, as it was given. -/
  configPath : Path
  configFileName : String
  createTime : String
  arguments : Arguments

/-- The data by its names. -/
def ProjectData.toJson (data : ProjectData) : Json :=
  .object [
    ("args", .object data.arguments),
    ("config", .string data.configPath),
    ("config_filename", .string data.configFileName),
    ("create_options", data.options.toJson),
    ("create_time", .string data.createTime),
    ("packages", .array (data.packages.map Package.toJson))]

end Pipewright
