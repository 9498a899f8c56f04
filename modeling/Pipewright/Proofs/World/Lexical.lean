import Pipewright.Proofs.World.Directories

set_option autoImplicit false

/-! # Paths without links

Where nothing is a symbolic link, a path that leads anywhere leads where its text says
(`NoLinks.locate_place`), and following a link at the end or not makes no difference
(`NoLinks.locate_follow`). -/

namespace Pipewright

namespace FileSystem

/-- Where a piece of a path leads from a location, by its text. -/
def goOn (here : Location) (piece : String) : Location :=
  if isHere piece then here else if piece = ".." then here.dropLast else here ++ [piece]

/-- The location that a path names by its text. -/
def placeOf (directory : Location) (path : Path) : Location :=
  (pieces path).foldl goOn (if Path.isAbsolute path then [] else directory)

/-- Nothing is a symbolic link. -/
def NoLinks (files : FileSystem) : Prop :=
  ∀ location target, files.node? location ≠ some (.link target)

/-- Nothing is a device. -/
def NoDevices (files : FileSystem) : Prop :=
  ∀ location, files.node? location ≠ some .device

variable {files after : FileSystem} {directory location here : Location} {path : Path}
  {follow : Bool} {links : Nat} {names : List String} {found : Option Node}

theorem mem_of_lookup {entries : List (Location × Node)} {node : Node}
    (h : lookup location entries = some node) : (location, node) ∈ entries := by
  induction entries with
  | nil => cases h
  | cons entry rest ih =>
    obtain ⟨other, first⟩ := entry
    unfold lookup at h
    split at h
    · next hother =>
      cases h
      exact hother ▸ List.mem_cons_self
    · exact List.mem_cons_of_mem _ (ih h)

/-- What stands somewhere has an entry, unless it is a directory. -/
theorem mem_of_node? {node : Node} (h : files.node? location = some node)
    (hnode : node ≠ .directory) : (location, node) ∈ files.entries := by
  unfold node? at h
  split at h
  · exact absurd (Option.some.inj h).symm hnode
  · exact mem_of_lookup h

theorem noLinks_of_entries
    (h : files.entries.all fun entry => match entry.2 with | .link _ => false | _ => true) :
    files.NoLinks := fun _ _ hlink => by
  simpa using List.all_eq_true.1 h _ (mem_of_node? hlink (by simp))

theorem noDevices_of_entries
    (h : files.entries.all fun entry => match entry.2 with | .device => false | _ => true) :
    files.NoDevices := fun _ hdevice => by
  simpa using List.all_eq_true.1 h _ (mem_of_node? hdevice (by simp))

/-- Where nothing is a device, no path leads to one. -/
theorem NoDevices.stat (h : files.NoDevices) : files.stat directory path ≠ .ok .device := by
  unfold FileSystem.stat
  cases hlocate : files.locate true directory path with
  | error e => simp
  | ok place =>
    obtain ⟨location, found⟩ := place
    have hfound := locate_node hlocate
    cases found with
    | none => simp
    | some node =>
      rw [ne_eq, Except.ok.injEq]
      rintro rfl
      exact h location hfound.symm

theorem goOn_here {piece : String} (h : isHere piece) : goOn here piece = here := if_pos h

theorem goOn_up : goOn here ".." = here.dropLast := rfl

theorem goOn_name {piece : String} (hhere : ¬ isHere piece) (hup : piece ≠ "..") :
    goOn here piece = here ++ [piece] := by
  rw [goOn, if_neg hhere, if_neg hup]

theorem foldl_goOn_blank (h : names.all (· = "")) : names.foldl goOn here = here := by
  induction names with
  | nil => rfl
  | cons name rest ih =>
    simp only [List.all_cons, Bool.and_eq_true, decide_eq_true_eq] at h
    rw [List.foldl_cons, goOn_here (by simp [isHere, h.1])]
    exact ih h.2

/-- A walk without links leads where the text of its pieces says. -/
theorem NoLinks.walk_place (hlinks : files.NoLinks)
    (h : walk files follow links here names = .ok (location, found)) :
    location = names.foldl goOn here := by
  fun_induction walk files follow links here names with
  | case1 => cases h; rfl
  | case2 => cases h
  | case3 links here piece rest hdirectory hhere ih =>
    rw [List.foldl_cons, goOn_here hhere]
    exact ih h
  | case4 links here rest hdirectory hhere ih =>
    rw [List.foldl_cons, goOn_up]
    exact ih h
  | case5 => cases h
  | case6 links here piece rest hdirectory hhere hup hlong hnone hblank =>
    cases h
    rw [List.foldl_cons, goOn_name hhere hup, foldl_goOn_blank hblank]
  | case7 => cases h
  | case8 links here piece rest hdirectory hhere hup hlong target hlink =>
    exact absurd hlink (hlinks _ _)
  | case9 => cases h
  | case10 here piece rest hdirectory hhere hup hlong target hlink =>
    exact absurd hlink (hlinks _ _)
  | case11 links here piece hdirectory hhere hup =>
    cases h
    rw [List.foldl_cons, goOn_name hhere hup]
    rfl
  | case12 links here piece rest hdirectory hhere hup hlong node hlink hnode hrest ih =>
    rw [List.foldl_cons, goOn_name hhere hup]
    exact ih h

theorem NoLinks.locate_place (hlinks : files.NoLinks)
    (h : files.locate follow directory path = .ok (location, found)) :
    location = placeOf directory path := by
  unfold locate at h
  split at h
  · cases h
  · split at h
    · cases h
    · exact hlinks.walk_place h

theorem NoLinks.walk_follow (hlinks : files.NoLinks) :
    walk files follow links here names = walk files true links here names := by
  fun_induction walk files follow links here names with
  | case1 => rw [walk]
  | case2 links here piece rest hother => rw [walk, if_pos hother]
  | case3 links here piece rest hdirectory hhere ih =>
    rw [walk_here (Decidable.not_not.mp hdirectory) hhere, ih]
  | case4 links here rest hdirectory hhere ih =>
    rw [walk_up (Decidable.not_not.mp hdirectory), ih]
  | case5 links here piece rest hdirectory hhere hup hlong =>
    rw [walk, if_neg hdirectory, if_neg hhere, if_neg hup, if_pos hlong]
  | case6 links here piece rest hdirectory hhere hup hlong hnone hblank =>
    rw [walk_name (Decidable.not_not.mp hdirectory) ⟨hhere, hup, hlong⟩, hnone]
    exact (if_pos hblank).symm
  | case7 links here piece rest hdirectory hhere hup hlong hnone hblank =>
    rw [walk_name (Decidable.not_not.mp hdirectory) ⟨hhere, hup, hlong⟩, hnone]
    exact (if_neg hblank).symm
  | case8 links here piece rest hdirectory hhere hup hlong target hlink
  | case9 here piece rest hdirectory hhere hup hlong target hlink
  | case10 here piece rest hdirectory hhere hup hlong target hlink =>
    exact absurd hlink (hlinks _ _)
  | case11 links here piece hdirectory hhere hup hlong node hlink hnode =>
    rw [walk_name (Decidable.not_not.mp hdirectory) ⟨hhere, hup, hlong⟩, hnode]
    cases node with
    | link target => exact absurd rfl (hlink target)
    | _ => rfl
  | case12 links here piece rest hdirectory hhere hup hlong node hlink hnode hrest ih =>
    rw [walk_on (Decidable.not_not.mp hdirectory) ⟨hhere, hup, hlong⟩ hnode hlink hrest, ih]

theorem NoLinks.locate_follow (hlinks : files.NoLinks) :
    files.locate follow directory path = files.locate true directory path := by
  unfold locate
  split
  · rfl
  · split
    · rfl
    · exact hlinks.walk_follow

/-- Directories that are gained are no links. -/
theorem Gains.noLinks (h : Gains directory path files after) (hlinks : files.NoLinks) :
    after.NoLinks := by
  intro location target hlink
  rcases h location with hsame | ⟨-, hmade, -⟩
  · exact hlinks location target (hsame ▸ hlink)
  · rw [hmade] at hlink
    cases hlink

/-- They are no devices either. -/
theorem Gains.noDevices (h : Gains directory path files after) (hdevices : files.NoDevices) :
    after.NoDevices := by
  intro location hdevice
  rcases h location with hsame | ⟨-, hmade, -⟩
  · exact hdevices location (hsame ▸ hdevice)
  · rw [hmade] at hdevice
    cases hdevice

/-- Gaining directories keeps the ways. -/
theorem Gains.keepsWays (h : Gains directory path files after) : files.KeepsWays after := by
  intro location node hnode _
  rcases h location with hsame | ⟨hnone, -, -⟩
  · rw [hsame, hnode]
  · rw [hnone] at hnode
    cases hnode

/-- Directories are gained at the places of the path and of the paths above it. -/
theorem Gains.place (h : Gains directory path files after) (hlinks : files.NoLinks)
    (location : Location) :
    after.node? location = files.node? location ∨
      ∃ above : Path, above.AtOrAbove path ∧ location = placeOf directory above := by
  rcases h location with hsame | ⟨-, -, above, habove, hlocate⟩
  · exact .inl hsame
  · exact .inr ⟨above, habove, (h.noLinks hlinks).locate_place hlocate⟩

end FileSystem

end Pipewright
