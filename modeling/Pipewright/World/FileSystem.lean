import Pipewright.Errno
import Pipewright.Path
import Pipewright.Text.Utf8

set_option autoImplicit false

/-! # File systems

A `FileSystem` maps locations, which are lists of names from the root, to nodes: files,
directories, symbolic links and devices. The root is a directory.

* `walk` follows a path from a directory to a location, through links.
* `stat`, `exists?`, `read` and `canonical` ask; `write`, `makeDirectory`, `makeDirectories` and
  `remove` change. Each gives the error of the operating system where it fails. -/

namespace Pipewright

/-- The names on the way from the root. -/
abbrev Location := List String

/-- What stands at a location. -/
inductive Node where
  | file (content : Bytes) (isExecutable : Bool)
  | directory
  | link (target : Path)
  /-- A device that has no content and takes any. -/
  | device
  deriving DecidableEq, Repr

/-- Nodes by location. -/
structure FileSystem where
  entries : List (Location × Node)
  deriving DecidableEq, Repr

namespace FileSystem

/-- The file system with nothing but the root. -/
def empty : FileSystem := ⟨[]⟩

/-- The node at a location of a list of entries. -/
def lookup (location : Location) : List (Location × Node) → Option Node
  | [] => none
  | (other, node) :: rest => if other = location then some node else lookup location rest

/-- The node at a location. -/
def node? (files : FileSystem) (location : Location) : Option Node :=
  if location = [] then some .directory else lookup location files.entries

/-- The entries with a node in place of what stood at its location. -/
def replace (location : Location) (node : Node) : List (Location × Node) → List (Location × Node)
  | [] => [(location, node)]
  | (other, old) :: rest =>
    if other = location then (location, node) :: rest
    else (other, old) :: replace location node rest

/-- Puts a node at a location. -/
def put (files : FileSystem) (location : Location) (node : Node) : FileSystem :=
  ⟨replace location node files.entries⟩

/-- Removes a location and everything below it. -/
def erase (files : FileSystem) (location : Location) : FileSystem :=
  ⟨files.entries.filter fun entry => !location.isPrefixOf entry.1⟩

theorem lookup_replace (location other : Location) (node : Node)
    (entries : List (Location × Node)) :
    lookup other (replace location node entries) =
      if location = other then some node else lookup other entries := by
  induction entries with
  | nil => simp [replace, lookup]
  | cons entry rest ih =>
    obtain ⟨first, old⟩ := entry
    unfold replace
    split
    · next h => subst h; simp only [lookup]; split <;> rfl
    · next h =>
      simp only [lookup, ih]
      by_cases ho : first = other
      · subst ho; simp [Ne.symm h]
      · simp [ho]

/-- What stands at a location after a node was put somewhere. -/
theorem node?_put (files : FileSystem) (location other : Location) (node : Node)
    (h : location ≠ []) :
    (files.put location node).node? other =
      if location = other then some node else files.node? other := by
  unfold node? put
  by_cases ho : other = []
  · subst ho; simp [h]
  · simp [ho, lookup_replace]

/-! ## Following paths -/

/-- The greatest number of links on one path. -/
def linkLimit : Nat := 40

/-- The greatest length of a name, in bytes. -/
def nameLimit : Nat := 255

/-- The greatest length of a path, in bytes. -/
def pathLimit : Nat := 4095

/-- The names and separators of a path. -/
def pieces (path : Path) : List String := (Path.splitSlash path.toList).map String.ofList

/-- Whether a piece stands for the directory it is met in. -/
def isHere (piece : String) : Bool := piece = "" || piece = "."

/-- The number of pieces that a node puts in place of its name. -/
def detour : Node → Nat
  | .link target => (pieces target).length
  | .file .. | .directory | .device => 0

/-- The most pieces that one of the nodes puts in place of its name. -/
def longestDetour (entries : List (Location × Node)) : Nat :=
  (entries.map fun entry => detour entry.2).foldr max 0

theorem detour_le_longestDetour {location : Location} {node : Node} :
    ∀ {entries : List (Location × Node)}, lookup location entries = some node →
      detour node ≤ longestDetour entries
  | (other, first) :: rest, h => by
    simp only [lookup] at h
    simp only [longestDetour, List.map_cons, List.foldr_cons]
    split at h
    · cases h
      exact Nat.le_max_left _ _
    · exact Nat.le_trans (detour_le_longestDetour h) (Nat.le_max_right _ _)

theorem length_pieces_le {files : FileSystem} {location : Location} {target : Path}
    (h : files.node? location = some (.link target)) :
    (pieces target).length ≤ longestDetour files.entries := by
  unfold node? at h
  split at h
  · cases h
  · exact detour_le_longestDetour h

/-- Follows pieces from an existing node to the location they name; a location that has no node may
    stand at the end only. With `follow`, a link at the end is followed too. -/
def walk (files : FileSystem) (follow : Bool) (links : Nat) (here : Location) :
    List String → Except Errno (Location × Option Node)
  | [] => .ok (here, files.node? here)
  | piece :: rest =>
    if files.node? here ≠ some .directory then .error .notDirectory
    else if isHere piece then walk files follow links here rest
    else if piece = ".." then walk files follow links here.dropLast rest
    else if nameLimit < piece.utf8ByteSize then .error .nameTooLong
    else
      match _hnode : files.node? (here ++ [piece]) with
      | none => if rest.all (· = "") then .ok (here ++ [piece], none) else .error .absent
      | some (.link target) =>
        if rest = [] ∧ ¬ follow then .ok (here ++ [piece], some (.link target))
        else
          match links with
          | 0 => .error .tooManyLinks
          | links + 1 =>
            walk files follow links (if Path.isAbsolute target then [] else here)
              (pieces target ++ rest)
      | some node =>
        if rest = [] then .ok (here ++ [piece], some node)
        else walk files follow links (here ++ [piece]) rest
-- a natural number, so that the kernel can run it
termination_by pieces => links * longestDetour files.entries + pieces.length
decreasing_by
  · simp
  · simp
  · have hdetour := length_pieces_le _hnode
    rw [List.length_append, List.length_cons, Nat.succ_mul]
    omega
  · simp

/-- Follows a path from a directory. -/
def locate (files : FileSystem) (follow : Bool) (directory : Location) (path : Path) :
    Except Errno (Location × Option Node) :=
  if path = "" then .error .absent
  else if pathLimit < path.utf8ByteSize then .error .nameTooLong
  else
    walk files follow linkLimit (if Path.isAbsolute path then [] else directory) (pieces path)

/-! ## Asking -/

/-- The node that a path names. -/
def stat (files : FileSystem) (directory : Location) (path : Path) : Except Errno Node :=
  match files.locate true directory path with
  | .ok (_, some node) => .ok node
  | .ok (_, none) => .error .absent
  | .error e => .error e

/-- Whether a path names a node; an error other than absence is reported. -/
def exists? (files : FileSystem) (directory : Location) (path : Path) : Except Errno Bool :=
  match files.stat directory path with
  | .ok _ => .ok true
  | .error e => if e = .absent then .ok false else .error e

/-- Whether a path names a directory. -/
def isDirectory (files : FileSystem) (directory : Location) (path : Path) : Bool :=
  match files.stat directory path with
  | .ok .directory => true
  | _ => false

/-- The content of a file. -/
def read (files : FileSystem) (directory : Location) (path : Path) : Except Errno Bytes :=
  match files.stat directory path with
  | .ok (.file content _) => .ok content
  | .ok .device => .ok []
  | .ok .directory => .error .isDirectory
  | .ok (.link _) => .error .tooManyLinks
  | .error e => .error e

/-- The absolute path of a location. -/
def locationPath (location : Location) : Path :=
  if location = [] then "/" else location.foldl (fun path name => path ++ "/" ++ name) ""

/-- The absolute path of the node that a path names, without links. -/
def canonical (files : FileSystem) (directory : Location) (path : Path) : Except Errno Path :=
  match files.locate true directory path with
  | .ok (location, some _) => .ok (locationPath location)
  | .ok (_, none) => .error .absent
  | .error e => .error e

/-! ## Changing -/

/-- Replaces the content of a file, or makes a new one. -/
def write (files : FileSystem) (directory : Location) (path : Path) (content : Bytes) :
    Except Errno FileSystem :=
  match files.locate true directory path with
  | .error e => .error e
  | .ok (location, some (.file _ isExecutable)) =>
    .ok (files.put location (.file content isExecutable))
  | .ok (_, some .device) => .ok files
  | .ok (_, some .directory) => .error .isDirectory
  | .ok (_, some (.link _)) => .error .tooManyLinks
  | .ok (location, none) =>
    if Path.endsWithSlash path then .error .isDirectory
    else .ok (files.put location (.file content false))

/-- Makes a directory, whose parent must be there. -/
def makeDirectory (files : FileSystem) (directory : Location) (path : Path) :
    Except Errno FileSystem :=
  match files.locate false directory path with
  | .error e => .error e
  | .ok (_, some _) => .error .exists_
  | .ok (location, none) => .ok (files.put location .directory)

/-- Makes a directory and the missing ones above it, of which there are at most `levels`. -/
def makeLevels (directory : Location) : Nat → FileSystem → Path → Except Errno Unit × FileSystem
  | 0, files, _ => (.error .absent, files)
  | levels + 1, files, path =>
    if path = "" then (.ok (), files)
    else
      match files.makeDirectory directory path with
      | .ok files => (.ok (), files)
      | .error e =>
        if e ≠ .absent then
          (if files.isDirectory directory path then .ok () else .error e, files)
        else
          match Path.parent? path with
          | none => (.error .absent, files)
          | some parent =>
            match makeLevels directory levels files parent with
            | (.error e, files) => (.error e, files)
            | (.ok (), files) =>
              match files.makeDirectory directory path with
              | .ok files => (.ok (), files)
              | .error e =>
                (if files.isDirectory directory path then .ok () else .error e, files)

/-- Makes a directory and the missing ones above it. After a failure, those made before it stay. -/
def makeDirectories (files : FileSystem) (directory : Location) (path : Path) :
    Except Errno Unit × FileSystem :=
  makeLevels directory (path.length + 1) files path

/-- Removes what a path names, with everything below it; a link is removed itself. -/
def remove (files : FileSystem) (directory : Location) (path : Path) : FileSystem :=
  match files.locate false directory path with
  | .ok (location, some _) => files.erase location
  | _ => files

end FileSystem

end Pipewright
