import Pipewright.Proofs.World.Lexical
import Pipewright.Proofs.World.Names

set_option autoImplicit false

/-! # Files in a directory

The path that `Path.join` makes of a directory and a name leads to the entry of this name in the
directory (`Contains.locate`), however the path of the directory is written. What is written there
is found there, and other entries stay as they are (`write_ok`, `write_entries`). -/

namespace Pipewright

namespace FileSystem

variable {files after : FileSystem} {directory place location : Location} {dir path : Path}
  {name : String} {content : Bytes}

/-- A slash before a name makes no difference. -/
theorem walk_slash (files : FileSystem) (links : Nat) (here : Location) (names : List String)
    (hname : name ≠ "") :
    walk files true links here (names ++ ["", name]) =
      walk files true links here (names ++ [name]) := by
  rcases walk_append files links here names with ⟨place, left, hplace, hon⟩ | ⟨-, e, hfails⟩
  · have hdirectory : files.node? place = some .directory := (walk_node hplace).symm
    rw [hon _ (by simp [hname]), hon _ (by simp [hname]), walk_here hdirectory (by simp [isHere])]
  · rw [hfails _ (by simp [hname]), hfails _ (by simp [hname])]

/-- The path into a directory leads by the pieces of the directory and then by the name. -/
theorem locate_join (files : FileSystem) (directory : Location) (hdir : dir ≠ "")
    (hname : Path.IsEntry name) (hshort : ¬ pathLimit < (Path.join dir name).utf8ByteSize) :
    files.locate true directory (Path.join dir name) =
      walk files true linkLimit (if Path.isAbsolute dir then [] else directory)
        (pieces dir ++ [name]) := by
  obtain ⟨rest, hjoin⟩ := Path.join_eq_append dir hname.noSlash
  obtain ⟨first, more, hchars⟩ := List.exists_cons_of_ne_nil (l := dir.toList) (by simpa using hdir)
  have hstart : Path.isAbsolute (Path.join dir name) = Path.isAbsolute dir := by
    simp [hjoin, Path.isAbsolute, hchars]
  unfold locate
  rw [if_neg (Path.join_ne_empty hname.ne_empty), if_neg hshort, hstart]
  rcases Path.pieces_join hdir hname.noSlash with hpieces | ⟨front, hfront, hpieces⟩
  · rw [hpieces]
  · rw [hpieces, hfront, List.append_assoc, List.singleton_append,
      walk_slash _ _ _ _ hname.ne_empty]

theorem locate_dir (files : FileSystem) (directory : Location) (hdir : dir ≠ "")
    (hname : Path.IsEntry name) (hshort : ¬ pathLimit < (Path.join dir name).utf8ByteSize) :
    files.locate true directory dir =
      walk files true linkLimit (if Path.isAbsolute dir then [] else directory) (pieces dir) := by
  obtain ⟨rest, hjoin⟩ := Path.join_eq_append dir hname.noSlash
  rw [hjoin, String.utf8ByteSize_append] at hshort
  unfold locate
  rw [if_neg hdir, if_neg (by omega)]

/-! ## Entries of a directory -/

/-- The path names a directory at a location, and an entry of this name can be asked for there. -/
structure Contains (files : FileSystem) (directory : Location) (dir : Path) (place : Location)
    (name : String) : Prop where
  located : files.locate true directory dir = .ok (place, some .directory)
  isEntry : Path.IsEntry name
  shortName : ¬ nameLimit < name.utf8ByteSize
  shortPath : ¬ pathLimit < (Path.join dir name).utf8ByteSize

/-- No symbolic link lies in the directory that the path names. -/
def NoLinkIn (files : FileSystem) (directory : Location) (dir : Path) : Prop :=
  ∀ place name target, files.locate true directory dir = .ok (place, some .directory) →
    files.node? (place ++ [name]) ≠ some (.link target)

theorem NoLinks.noLinkIn (hlinks : files.NoLinks) : files.NoLinkIn directory dir :=
  fun _ _ _ _ => hlinks _ _

/-- A path that leads into a directory leads there by way of the directory. -/
theorem contains_of_locate {found : Option Node} (hdir : dir ≠ "") (hname : Path.IsEntry name)
    (h : files.locate true directory (Path.join dir name) = .ok (location, found)) :
    ∃ place, files.Contains directory dir place name := by
  have hshort : ¬ pathLimit < (Path.join dir name).utf8ByteSize := by
    intro hlong
    unfold locate at h
    rw [if_pos hlong] at h
    split at h <;> cases h
  have hmore := hname.not_blank
  have hlocate := locate_dir files directory hdir hname hshort
  rw [locate_join files directory hdir hname hshort] at h
  rcases walk_append files linkLimit (if Path.isAbsolute dir then [] else directory) (pieces dir)
    with ⟨place, left, hplace, hon⟩ | ⟨-, e, hfails⟩
  · rw [hon _ hmore] at h
    have hdirectory : files.node? place = some .directory := (walk_node hplace).symm
    refine ⟨place, hlocate.trans hplace, hname, fun hlong => ?_, hshort⟩
    rw [walk, if_neg (by simp [hdirectory]), if_neg hname.notHere, if_neg hname.notUp,
      if_pos hlong] at h
    cases h
  · rw [hfails _ hmore] at h
    cases h

/-- What a directory contains is found by its path, unless it is a link. -/
theorem Contains.locate (h : files.Contains directory dir place name)
    (hlink : ∀ target, files.node? (place ++ [name]) ≠ some (.link target)) :
    files.locate true directory (Path.join dir name) =
      .ok (place ++ [name], files.node? (place ++ [name])) := by
  have hdirectory : files.node? place = some .directory := (locate_node h.located).symm
  have hdir : dir ≠ "" := by
    rintro rfl
    cases h.located
  have hmore := h.isEntry.not_blank
  have hlocated := h.located
  rw [locate_dir files directory hdir h.isEntry h.shortPath] at hlocated
  rw [locate_join files directory hdir h.isEntry h.shortPath]
  rcases walk_append files linkLimit (if Path.isAbsolute dir then [] else directory) (pieces dir)
    with ⟨other, left, hother, hon⟩ | ⟨hfails, -⟩
  · obtain rfl : other = place := by
      rw [hother] at hlocated
      cases hlocated
      rfl
    rw [hon _ hmore, walk_name hdirectory ⟨h.isEntry.notHere, h.isEntry.notUp, h.shortName⟩]
    cases hnode : files.node? (other ++ [name]) with
    | none => rfl
    | some node =>
      cases node with
      | link target => exact absurd hnode (hlink target)
      | _ => rfl
  · -- a walk that is stuck before the name does not lead to the directory either
    exact absurd hlocated (hfails place)

/-- The directory is where it was as long as the ways are kept. -/
theorem Contains.kept (h : files.Contains directory dir place name)
    (hways : files.KeepsWays after) : after.Contains directory dir place name := by
  have hdirectory := hways _ _ (locate_node h.located).symm trivial
  refine ⟨?_, h.isEntry, h.shortName, h.shortPath⟩
  rw [hways.locate h.located (.inl hdirectory), hdirectory]

theorem Contains.place_eq {other : Location} {another : String}
    (h : files.Contains directory dir place name)
    (hother : files.Contains directory dir other another) : place = other := by
  have hplace := h.located
  rw [hother.located] at hplace
  cases hplace
  rfl

/-! ## Writing -/

/-- A file with this content stands at the location. -/
def Holds (files : FileSystem) (location : Location) (content : Bytes) : Prop :=
  ∃ isExecutable, files.node? location = some (.file content isExecutable)

/-- The path names a file with this content. -/
def Keeps (files : FileSystem) (directory : Location) (path : Path) (content : Bytes) : Prop :=
  ∃ isExecutable, files.stat directory path = .ok (.file content isExecutable)

/-- Writing this content to the location makes no difference: a file with it stands there already,
    or a device, which keeps nothing. -/
def Absorbs (files : FileSystem) (location : Location) (content : Bytes) : Prop :=
  files.Holds location content ∨ files.node? location = some .device

/-- The node at this location alone may differ, and it did not lead on. -/
structure Alters (location : Location) (files after : FileSystem) : Prop where
  others : ∀ other, other ≠ location → after.node? other = files.node? other
  noWay : ∀ node, files.node? location = some node → ¬ node.LeadsOn

theorem Alters.keepsWays (h : Alters location files after) : files.KeepsWays after := by
  intro other node hnode hleads
  have hother : other ≠ location := by
    rintro rfl
    exact h.noWay node hnode hleads
  rw [h.others other hother, hnode]

/-- Putting something in place of a node that does not lead on alters its location alone. -/
theorem alters_put (files : FileSystem) (location : Location)
    (hnode : ∀ node, files.node? location = some node → ¬ node.LeadsOn) (node : Node) :
    Alters location files (files.put location node) ∧
      (files.put location node).node? location = some node := by
  have hroot : location ≠ [] := by
    rintro rfl
    exact hnode .directory rfl trivial
  refine ⟨⟨fun other hother => ?_, hnode⟩, ?_⟩
  · rw [node?_put _ _ _ _ hroot, if_neg (Ne.symm hother)]
  · rw [node?_put _ _ _ _ hroot, if_pos rfl]

/-- Writing alters what the path names, which holds the content then if it is no device. -/
theorem write_ok (h : files.write directory path content = .ok after) :
    ∃ location found, files.locate true directory path = .ok (location, found) ∧
      Alters location files after ∧ after.Absorbs location content ∧
      (found ≠ some .device → after.Holds location content) := by
  unfold write at h
  split at h
  · cases h
  · next location old isExecutable hlocate =>
    cases h
    obtain ⟨halters, hput⟩ := alters_put files location
      (by simp [← locate_node hlocate, Node.LeadsOn]) (.file content isExecutable)
    exact ⟨location, _, hlocate, halters, .inl ⟨isExecutable, hput⟩, fun _ => ⟨isExecutable, hput⟩⟩
  · next location hlocate =>
    cases h
    refine ⟨location, _, hlocate, ⟨fun _ _ => rfl, ?_⟩, .inr (locate_node hlocate).symm,
      fun hdevice => absurd rfl hdevice⟩
    simp [← locate_node hlocate, Node.LeadsOn]
  · cases h
  · cases h
  · next location hlocate =>
    split at h
    · cases h
    · cases h
      obtain ⟨halters, hput⟩ := alters_put files location
        (by simp [← locate_node hlocate]) (.file content false)
      exact ⟨location, _, hlocate, halters, .inl ⟨false, hput⟩, fun _ => ⟨false, hput⟩⟩

theorem Absorbs.noWay (h : files.Absorbs location content) (node : Node)
    (hnode : files.node? location = some node) : ¬ node.LeadsOn := by
  rcases h with ⟨isExecutable, hfile⟩ | hdevice
  · rw [hfile] at hnode
    cases hnode
    exact id
  · rw [hdevice] at hnode
    cases hnode
    exact id

theorem Absorbs.not_link (h : files.Absorbs location content) (target : Path) :
    files.node? location ≠ some (.link target) :=
  fun hlink => h.noWay _ hlink trivial

theorem Absorbs.altered (h : files.Absorbs location content) {other : Location}
    (halters : Alters other files after) (hother : location ≠ other) :
    after.Absorbs location content := by
  unfold Absorbs Holds
  rw [halters.others _ hother]
  exact h

/-- Other locations hold what they held. -/
theorem Holds.altered (h : files.Holds location content) {other : Location}
    (halters : Alters other files after) (hother : location ≠ other) :
    after.Holds location content := by
  unfold Holds
  rw [halters.others _ hother]
  exact h

/-- What is held in a directory is kept by the path. -/
theorem Contains.keeps (h : files.Contains directory dir place name)
    (hholds : files.Holds (place ++ [name]) content) :
    files.Keeps directory (Path.join dir name) content := by
  obtain ⟨isExecutable, hfile⟩ := hholds
  refine ⟨isExecutable, ?_⟩
  unfold stat
  rw [h.locate (Absorbs.not_link (.inl ⟨isExecutable, hfile⟩)), hfile]

/-- A device in a directory is found by its path. -/
theorem Contains.stat_device (h : files.Contains directory dir place name)
    (hdevice : files.node? (place ++ [name]) = some .device) :
    files.stat directory (Path.join dir name) = .ok .device := by
  unfold stat
  rw [h.locate (by simp [hdevice]), hdevice]

/-- Writing into a directory without links alters the entry alone. -/
theorem write_entry (hdir : dir ≠ "") (hname : Path.IsEntry name)
    (hlinks : files.NoLinkIn directory dir)
    (h : files.write directory (Path.join dir name) content = .ok after) :
    ∃ place, files.Contains directory dir place name ∧ Alters (place ++ [name]) files after ∧
      after.Absorbs (place ++ [name]) content ∧
      (files.stat directory (Path.join dir name) ≠ .ok .device →
        after.Holds (place ++ [name]) content) := by
  obtain ⟨location, found, hlocate, halters, habsorbs, hholds⟩ := write_ok h
  obtain ⟨place, hcontains⟩ := contains_of_locate hdir hname hlocate
  have hplace := hcontains.locate (hlinks place name · hcontains.located)
  rw [hlocate] at hplace
  cases hplace
  exact ⟨place, hcontains, halters, habsorbs,
    fun hdevice => hholds fun hfound => hdevice (hcontains.stat_device hfound)⟩

/-- Writing into a directory without links makes no link in it. -/
theorem noLinkIn_written (hdir : dir ≠ "") (hname : Path.IsEntry name)
    (hlinks : files.NoLinkIn directory dir)
    (h : files.write directory (Path.join dir name) content = .ok after) :
    after.NoLinkIn directory dir := by
  obtain ⟨place, hcontains, halters, habsorbs, -⟩ := write_entry hdir hname hlinks h
  have hkept := hcontains.kept halters.keepsWays
  intro spot entry target hspot
  have hplace := hkept.located
  rw [hspot] at hplace
  cases hplace
  by_cases hentry : place ++ [entry] = place ++ [name]
  · rw [hentry]
    exact habsorbs.not_link target
  · rw [halters.others _ hentry]
    exact hlinks place entry target hcontains.located

/-- Two entries are written into a directory without links, and each of them holds what was written
    if it was no device. -/
theorem write_entries {other : String} {more : Bytes} {middle : FileSystem} (hdir : dir ≠ "")
    (hname : Path.IsEntry name) (hother : Path.IsEntry other) (hne : name ≠ other)
    (hlinks : files.NoLinkIn directory dir)
    (h : files.write directory (Path.join dir name) content = .ok middle)
    (hmore : middle.write directory (Path.join dir other) more = .ok after) :
    ∃ place, after.Contains directory dir place name ∧ after.Contains directory dir place other ∧
      after.Absorbs (place ++ [name]) content ∧ after.Absorbs (place ++ [other]) more ∧
      (files.stat directory (Path.join dir name) ≠ .ok .device →
        after.Holds (place ++ [name]) content) ∧
      (files.stat directory (Path.join dir other) ≠ .ok .device →
        after.Holds (place ++ [other]) more) := by
  obtain ⟨place, hcontains, halters, habsorbs, hholds⟩ := write_entry hdir hname hlinks h
  have hkept := hcontains.kept halters.keepsWays
  -- the first write makes no link, so the second one is a write without links too
  have hmiddle := noLinkIn_written hdir hname hlinks h
  obtain ⟨place', hcontains', halters', habsorbs', hholds'⟩ :=
    write_entry hdir hother hmiddle hmore
  obtain rfl := hkept.place_eq hcontains'
  have hentries : place ++ [name] ≠ place ++ [other] := by simpa using hne
  refine ⟨place, hkept.kept halters'.keepsWays, hcontains'.kept halters'.keepsWays,
    habsorbs.altered halters' hentries, habsorbs',
    fun hdevice => (hholds hdevice).altered halters' hentries, fun hdevice => hholds' ?_⟩
  -- what stands under the second name is not the first write's doing
  have hbeside : files.Contains directory dir place other :=
    ⟨hcontains.located, hother, hcontains'.shortName, hcontains'.shortPath⟩
  have hsame : middle.stat directory (Path.join dir other) =
      files.stat directory (Path.join dir other) := by
    unfold stat
    rw [hcontains'.locate (hmiddle place other · hkept.located),
      hbeside.locate (hlinks place other · hcontains.located), halters.others _ hentries.symm]
  rwa [hsame]

end FileSystem

end Pipewright
