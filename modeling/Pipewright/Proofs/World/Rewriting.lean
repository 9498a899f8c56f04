import Pipewright.Proofs.World.Entries

set_option autoImplicit false

/-! # Writing again

Files that differ only in what regular files contain are found by the same paths (`Alike.locate`).
So writing the same again changes nothing (`write_absorbed`), and what was written is written again
over whatever the content has become since (`Recast.write`). -/

namespace Pipewright

/-- What stands there, without the content of a regular file. -/
def Node.emptied : Node → Node
  | .file _ isExecutable => .file [] isExecutable
  | node => node

namespace FileSystem

variable {files after written : FileSystem} {directory location here place : Location} {path : Path}
  {follow : Bool} {links : Nat} {names : List String} {content : Bytes}

/-- The same stands everywhere. -/
def SameNodes (files after : FileSystem) : Prop :=
  ∀ location, after.node? location = files.node? location

/-- The same stands everywhere, but for the content of regular files. -/
def Alike (files after : FileSystem) : Prop :=
  ∀ location, (after.node? location).map Node.emptied = (files.node? location).map Node.emptied

/-- The same stands everywhere, but for the content of a regular file at this location. -/
structure Recast (location : Location) (files after : FileSystem) : Prop where
  others : ∀ other, other ≠ location → after.node? other = files.node? other
  here : after.node? location = files.node? location ∨ ∃ old new isExecutable,
    files.node? location = some (.file old isExecutable) ∧
      after.node? location = some (.file new isExecutable)

theorem SameNodes.refl (files : FileSystem) : SameNodes files files := fun _ => rfl

theorem SameNodes.trans {more : FileSystem} (h : SameNodes files after)
    (hmore : SameNodes after more) : SameNodes files more :=
  fun location => (hmore location).trans (h location)

theorem SameNodes.recast (h : SameNodes files after) (location : Location) :
    Recast location files after :=
  ⟨fun other _ => h other, .inl (h location)⟩

theorem Recast.alike (h : Recast location files after) : Alike files after := by
  intro other
  by_cases hother : other = location
  · subst hother
    rcases h.here with hsame | ⟨old, new, isExecutable, hold, hnew⟩
    · rw [hsame]
    · rw [hold, hnew]
      rfl
  · rw [h.others other hother]

/-! ## Finding -/

theorem Alike.none_iff (h : Alike files after) :
    after.node? location = none ↔ files.node? location = none := by
  have hmap := h location
  cases hbefore : files.node? location <;> cases hafter : after.node? location <;>
    simp_all

/-- What is no regular file is there in both. -/
theorem Alike.some_iff (h : Alike files after) {node : Node}
    (hnode : ∀ content isExecutable, node ≠ .file content isExecutable) :
    after.node? location = some node ↔ files.node? location = some node := by
  have hmap := h location
  have hemptied : ∀ other : Node, other.emptied = node.emptied ↔ other = node := by
    intro other
    cases other <;> cases node <;> simp_all [Node.emptied]
  cases hbefore : files.node? location with
  | none => rw [hbefore, Option.map_none, Option.map_eq_none_iff] at hmap; simp [hmap]
  | some before =>
    cases hafter : after.node? location with
    | none => rw [hafter, hbefore] at hmap; cases hmap
    | some now =>
      rw [hafter, hbefore] at hmap
      have heq : now.emptied = before.emptied := Option.some.inj hmap
      rw [Option.some.injEq, Option.some.injEq, ← hemptied, ← hemptied, heq]

theorem Alike.link_iff (h : Alike files after) {target : Path} :
    after.node? location = some (.link target) ↔ files.node? location = some (.link target) :=
  h.some_iff (by simp)

theorem Alike.directory_iff (h : Alike files after) :
    after.node? location = some .directory ↔ files.node? location = some .directory :=
  h.some_iff (by simp)

/-- What is there and no link is there afterwards, and no link. -/
theorem Alike.some_of_some (h : Alike files after) {node : Node}
    (hnode : files.node? location = some node) (hlink : ∀ target, node ≠ .link target) :
    ∃ now, after.node? location = some now ∧ ∀ target, now ≠ .link target := by
  cases hafter : after.node? location with
  | none =>
    rw [h.none_iff, hnode] at hafter
    cases hafter
  | some now =>
    refine ⟨now, rfl, ?_⟩
    rintro target rfl
    rw [h.link_iff, hnode, Option.some.injEq] at hafter
    exact hlink target hafter

theorem Alike.walk (h : Alike files after) :
    FileSystem.walk after follow links here names =
      (FileSystem.walk files follow links here names).map
        fun found => (found.1, after.node? found.1) := by
  fun_induction FileSystem.walk files follow links here names with
  | case1 => rw [FileSystem.walk]; rfl
  | case2 links here piece rest hother =>
    rw [FileSystem.walk, if_pos (by rwa [ne_eq, h.directory_iff])]
    rfl
  | case3 links here piece rest hdirectory hhere ih =>
    rw [walk_here (h.directory_iff.mpr (Decidable.not_not.mp hdirectory)) hhere, ih]
  | case4 links here rest hdirectory hhere ih =>
    rw [walk_up (h.directory_iff.mpr (Decidable.not_not.mp hdirectory)), ih]
  | case5 links here piece rest hdirectory hhere hup hlong =>
    rw [FileSystem.walk, if_neg (by rwa [ne_eq, h.directory_iff]), if_neg hhere, if_neg hup,
      if_pos hlong]
    rfl
  | case6 links here piece rest hdirectory hhere hup hlong hnone hblank =>
    have hafter := h.none_iff.mpr hnone
    rw [walk_name (h.directory_iff.mpr (Decidable.not_not.mp hdirectory)) ⟨hhere, hup, hlong⟩,
      hafter]
    simp only [hblank, if_true, Except.map, hafter]
  | case7 links here piece rest hdirectory hhere hup hlong hnone hblank =>
    rw [walk_name (h.directory_iff.mpr (Decidable.not_not.mp hdirectory)) ⟨hhere, hup, hlong⟩,
      h.none_iff.mpr hnone]
    exact if_neg hblank
  | case8 links here piece rest hdirectory hhere hup hlong target hlink hlast =>
    have hafter := h.link_iff.mpr hlink
    rw [walk_name (h.directory_iff.mpr (Decidable.not_not.mp hdirectory)) ⟨hhere, hup, hlong⟩,
      hafter]
    simp only [hlast, Except.map, hafter]
    rfl
  | case9 here piece rest hdirectory hhere hup hlong target hlink hlast =>
    rw [walk_name (h.directory_iff.mpr (Decidable.not_not.mp hdirectory)) ⟨hhere, hup, hlong⟩,
      h.link_iff.mpr hlink]
    exact if_neg hlast
  | case10 here piece rest hdirectory hhere hup hlong target hlink hlast links ih =>
    rw [walk_name (h.directory_iff.mpr (Decidable.not_not.mp hdirectory)) ⟨hhere, hup, hlong⟩,
      h.link_iff.mpr hlink]
    exact (if_neg hlast).trans ih
  | case11 links here piece hdirectory hhere hup hlong node hlink hnode =>
    obtain ⟨now, hafter, hother⟩ := h.some_of_some hnode hlink
    rw [walk_name (h.directory_iff.mpr (Decidable.not_not.mp hdirectory)) ⟨hhere, hup, hlong⟩,
      hafter]
    cases now with
    | link target => exact absurd rfl (hother target)
    | _ => simp only [Except.map, hafter]; rfl
  | case12 links here piece rest hdirectory hhere hup hlong node hlink hnode hrest ih =>
    obtain ⟨now, hafter, hother⟩ := h.some_of_some hnode hlink
    rw [walk_on (h.directory_iff.mpr (Decidable.not_not.mp hdirectory)) ⟨hhere, hup, hlong⟩ hafter
      hother hrest, ih]

/-- Paths lead to the same locations. -/
theorem Alike.locate (h : Alike files after) :
    after.locate follow directory path =
      (files.locate follow directory path).map fun found => (found.1, after.node? found.1) := by
  unfold FileSystem.locate
  split
  · rfl
  · split
    · rfl
    · exact h.walk

/-! ## Writing -/

theorem sameNodes_put {node : Node} (h : files.node? location = some node) (hroot : location ≠ []) :
    SameNodes files (files.put location node) := by
  intro other
  rw [node?_put files location other node hroot]
  split
  · next heq => rw [← heq, h]
  · rfl

/-- Writing what makes no difference changes nothing. -/
theorem write_absorbed {dir : Path} {name : String}
    (h : files.Contains directory dir place name)
    (habsorbs : files.Absorbs (place ++ [name]) content) :
    ∃ written, files.write directory (Path.join dir name) content = .ok written ∧
      SameNodes files written := by
  unfold write
  rw [h.locate habsorbs.not_link]
  rcases habsorbs with ⟨isExecutable, hfile⟩ | hdevice
  · rw [hfile]
    exact ⟨_, rfl, sameNodes_put hfile (by simp)⟩
  · rw [hdevice]
    exact ⟨_, rfl, .refl files⟩

/-- The same is put in the place of what may differ. -/
theorem Recast.put (h : Recast location files after) (hroot : location ≠ []) (node : Node) :
    SameNodes (files.put location node) (after.put location node) := by
  intro other
  rw [node?_put files location other node hroot, node?_put after location other node hroot]
  split
  · rfl
  · next hother => exact h.others other (Ne.symm hother)

/-- What was written is written over other content too. -/
theorem Recast.write (h : Recast location files after) {found : Option Node}
    (hlocate : files.locate true directory path = .ok (location, found))
    (hwrite : files.write directory path content = .ok written) :
    ∃ again, after.write directory path content = .ok again ∧ SameNodes written again := by
  have hfound := locate_node hlocate
  have hafter : after.locate true directory path = .ok (location, after.node? location) := by
    rw [h.alike.locate, hlocate]
    rfl
  unfold FileSystem.write at hwrite ⊢
  rw [hlocate] at hwrite
  rw [hafter]
  have hroot : found ≠ some .directory → location ≠ [] := by
    rintro hother rfl
    exact hother (hfound.trans files.node?_nil)
  rcases found with _ | ⟨old, isExecutable⟩ | _ | target | _
  · have hnone : after.node? location = none := h.alike.none_iff.mpr hfound.symm
    dsimp only at hwrite
    split at hwrite
    · cases hwrite
    · next hslash =>
      cases hwrite
      rw [hnone]
      exact ⟨_, if_neg hslash, h.put (hroot (by simp)) _⟩
  · cases hwrite
    obtain ⟨new, hnew⟩ : ∃ new, after.node? location = some (.file new isExecutable) := by
      rcases h.here with hsame | ⟨_, new, _, hold, hnew⟩
      · exact ⟨old, by rw [hsame, ← hfound]⟩
      · rw [← hfound] at hold
        cases hold
        exact ⟨new, hnew⟩
    rw [hnew]
    exact ⟨_, rfl, h.put (hroot (by simp)) _⟩
  · cases hwrite
  · cases hwrite
  · cases hwrite
    have hdevice : after.node? location = some .device :=
      (h.alike.some_iff (by simp)).mpr hfound.symm
    rw [hdevice]
    refine ⟨after, rfl, fun other => ?_⟩
    by_cases hother : other = location
    · rw [hother, hdevice, ← hfound]
    · exact h.others other hother

theorem SameNodes.write_ok (h : SameNodes files after)
    (hwrite : files.write directory path content = .ok written) :
    ∃ again, after.write directory path content = .ok again ∧ SameNodes written again := by
  obtain ⟨location, found, hlocate, -⟩ := FileSystem.write_ok hwrite
  exact (h.recast location).write hlocate hwrite

theorem SameNodes.locate (h : SameNodes files after) :
    after.locate follow directory path = files.locate follow directory path := by
  rw [(h.recast []).alike.locate]
  cases hlocate : files.locate follow directory path with
  | error e => rfl
  | ok found =>
    obtain ⟨location, node⟩ := found
    have hnode := locate_node hlocate
    simp only [Except.map, h location, hnode]

theorem SameNodes.write_error (h : SameNodes files after) {e : Errno}
    (hwrite : files.write directory path content = .error e) :
    after.write directory path content = .error e := by
  unfold FileSystem.write at hwrite ⊢
  rw [h.locate]
  split at hwrite
  · exact hwrite
  · cases hwrite
  · cases hwrite
  · exact hwrite
  · exact hwrite
  · split at hwrite
    · next hslash => rw [if_pos hslash, hwrite]
    · cases hwrite

/-! ## Two files of a directory -/

/-- Writes two files, as far as it goes, and names the one that it fails at. -/
def writeBoth (directory : Location) (first : Path) (content : Bytes) (second : Path) (more : Bytes)
    (files : FileSystem) : Except (Path × Errno) Unit × FileSystem :=
  match files.write directory first content with
  | .error e => (.error (first, e), files)
  | .ok middle =>
    match middle.write directory second more with
    | .error e => (.error (second, e), middle)
    | .ok after => (.ok (), after)

section Both

variable {dir : Path} {name other : String} {more : Bytes}

/-- Files that could not both be written cannot be written again, and nothing more is changed. -/
theorem writeBoth_error (hdir : dir ≠ "") (hname : Path.IsEntry name)
    (hlinks : files.NoLinkIn directory dir) {failed : Path × Errno}
    (h : writeBoth directory (Path.join dir name) content (Path.join dir other) more files =
      (.error failed, after)) :
    ∃ again, writeBoth directory (Path.join dir name) content (Path.join dir other) more after =
      (.error failed, again) ∧ SameNodes after again := by
  unfold writeBoth at h
  split at h
  · next e hfirst =>
    cases h
    refine ⟨files, ?_, .refl files⟩
    unfold writeBoth
    rw [hfirst]
  · next middle hfirst =>
    split at h
    · next e hsecond =>
      cases h
      obtain ⟨place, hcontains, halters, habsorbs, -⟩ := write_entry hdir hname hlinks hfirst
      obtain ⟨again, hagain, hsame⟩ :=
        write_absorbed (hcontains.kept halters.keepsWays) habsorbs
      refine ⟨again, ?_, hsame⟩
      unfold writeBoth
      rw [hagain]
      dsimp only
      rw [hsame.write_error hsecond]
    · cases h

/-- Both files are in the directory then, and writing the same again makes no difference. -/
theorem writeBoth_entries (hdir : dir ≠ "") (hname : Path.IsEntry name)
    (hother : Path.IsEntry other) (hne : name ≠ other) (hlinks : files.NoLinkIn directory dir)
    (h : writeBoth directory (Path.join dir name) content (Path.join dir other) more files =
      (.ok (), written)) :
    ∃ place, written.Contains directory dir place name ∧
      written.Contains directory dir place other ∧
      written.Absorbs (place ++ [name]) content ∧ written.Absorbs (place ++ [other]) more := by
  unfold writeBoth at h
  split at h
  · cases h
  · next middle hfirst =>
    split at h
    · cases h
    · next last hsecond =>
      cases h
      obtain ⟨place, hin, hbeside, habsorbs, hmore, -⟩ :=
        write_entries hdir hname hother hne hlinks hfirst hsecond
      exact ⟨place, hin, hbeside, habsorbs, hmore⟩

/-- No link is lost in writing. -/
theorem noLinks_of_writeBoth {first second : Path}
    (h : writeBoth directory first content second more files = (.ok (), written))
    (hlinks : written.NoLinks) : files.NoLinks := by
  intro place target hlink
  unfold writeBoth at h
  split at h
  · cases h
  · next middle hfirst =>
    obtain ⟨_, _, -, halters, -⟩ := write_ok hfirst
    have hkept := halters.keepsWays _ _ hlink trivial
    split at h
    · cases h
    · next last hsecond =>
      cases h
      obtain ⟨_, _, -, halters', -⟩ := write_ok hsecond
      exact hlinks place target (halters'.keepsWays _ _ hkept trivial)

/-- Files that have both been written are written again, also over what the content of the first has
    become. -/
theorem writeBoth_ok (hdir : dir ≠ "") (hname : Path.IsEntry name) (hother : Path.IsEntry other)
    (hne : name ≠ other) (hlinks : files.NoLinkIn directory dir)
    (h : writeBoth directory (Path.join dir name) content (Path.join dir other) more files =
      (.ok (), written))
    (hlocate : ∃ found, written.locate true directory (Path.join dir name) = .ok (location, found))
    (hrecast : Recast location written after) :
    ∃ again, writeBoth directory (Path.join dir name) content (Path.join dir other) more after =
      (.ok (), again) ∧ SameNodes written again := by
  obtain ⟨place, hin, hbeside, habsorbs, hmore⟩ :=
    writeBoth_entries hdir hname hother hne hlinks h
  obtain ⟨found, hlocate⟩ := hlocate
  -- each of the two is absorbed, so writing both again leaves the same everywhere
  obtain ⟨first, hwrite, hsame⟩ := write_absorbed hin habsorbs
  obtain ⟨first', hwrite', hsame'⟩ := hrecast.write hlocate hwrite
  obtain ⟨second, hwrite₂, hsame₂⟩ := write_absorbed hbeside hmore
  obtain ⟨second', hwrite₂', hsame₂'⟩ := (hsame.trans hsame').write_ok hwrite₂
  refine ⟨second', ?_, hsame₂.trans hsame₂'⟩
  unfold writeBoth
  rw [hwrite']
  dsimp only
  rw [hwrite₂']

end Both

end FileSystem

end Pipewright
