import Pipewright.Proofs.World.Remaking
import Pipewright.Proofs.World.Rewriting

set_option autoImplicit false

/-! # What lies apart from a directory

Making a directory and files in it touches the locations above and below it (`Touches`) and spares
all others (`Spares`). What is read at a path that is clear of the directory is read there again
(`Spares.read_ok`), and a file that is missing beside one that is there is still missing
(`Spares.read_absent`). -/

namespace Pipewright

namespace FileSystem

/-- Being at or below the directory that the path names, or at the place of a path above it. -/
def Touches (directory : Location) (dir : Path) (location : Location) : Prop :=
  (∃ above : Path, above.AtOrAbove dir ∧ location = placeOf directory above) ∨
    placeOf directory dir <+: location

/-- The path names neither the directory, nor what is above it, nor what is below it. -/
def ClearOf (directory : Location) (dir path : Path) : Prop :=
  ¬ Touches directory dir (placeOf directory path)

/-- Nothing has changed but at and around a directory; no way is lost, and there are no links. -/
structure Spares (directory : Location) (dir : Path) (files after : FileSystem) : Prop where
  keepsWays : files.KeepsWays after
  elsewhere : ∀ location, ¬ Touches directory dir location →
    after.node? location = files.node? location
  noLinks : after.NoLinks

variable {files middle after : FileSystem} {directory location place : Location}
  {dir path : Path} {name : String}

theorem KeepsWays.trans (h : files.KeepsWays middle) (hmore : middle.KeepsWays after) :
    files.KeepsWays after :=
  fun location node hnode hleads => hmore location node (h location node hnode hleads) hleads

theorem Spares.trans (h : Spares directory dir files middle)
    (hmore : Spares directory dir middle after) : Spares directory dir files after where
  keepsWays := h.keepsWays.trans hmore.keepsWays
  elsewhere location hclear := (hmore.elsewhere location hclear).trans (h.elsewhere location hclear)
  noLinks := hmore.noLinks

/-! ## Places above -/

theorem prefix_goOn {piece : String} (hup : piece ≠ "..") : place <+: goOn place piece := by
  unfold goOn
  rw [if_neg hup]
  split
  · exact List.prefix_rfl
  · exact List.prefix_append place [piece]

theorem prefix_foldl_goOn {names : List String} (hup : ".." ∉ names) :
    place <+: names.foldl goOn place := by
  induction names generalizing place with
  | nil => exact List.prefix_rfl
  | cons piece rest ih =>
    rw [List.mem_cons, not_or] at hup
    exact (prefix_goOn (Ne.symm hup.1)).trans (ih hup.2)

/-- A path without `..` leads down from the places of the paths above it. -/
theorem place_above {above : Path} (h : above.AtOrAbove dir) (hup : ".." ∉ pieces dir) :
    placeOf directory above <+: placeOf directory dir := by
  induction h with
  | self => exact List.prefix_rfl
  | @above path parent other hparent _ ih =>
    rcases Path.parent?_front hparent with
      ⟨rfl, hrelative⟩ | rfl | ⟨-, -, habsolute, more, hpieces, -⟩
    · have hdown : placeOf directory "" <+: placeOf directory path := by
        have hempty : placeOf directory "" = directory := by
          have hpieces : pieces "" = [""] := by decide +kernel
          have habsolute : Path.isAbsolute "" = false := by decide +kernel
          rw [placeOf, hpieces, habsolute]
          rfl
        rw [hempty, placeOf, hrelative]
        exact prefix_foldl_goOn hup
      exact (ih (by decide +kernel)).trans hdown
    · have hroot : placeOf directory "/" = [] := by
        have hpieces : pieces "/" = ["", ""] := by decide +kernel
        have habsolute : Path.isAbsolute "/" = true := by decide +kernel
        rw [placeOf, hpieces, habsolute]
        rfl
      exact (ih (by decide +kernel)).trans (hroot ▸ List.nil_prefix)
    · rw [hpieces, List.mem_append, not_or] at hup
      refine (ih hup.1).trans ?_
      rw [placeOf, placeOf, hpieces, habsolute, List.foldl_append]
      exact prefix_foldl_goOn hup.2

/-- Of a directory whose path has no `..`, every place is clear that is neither above nor below. -/
theorem clearOf_of_apart (hup : ".." ∉ pieces dir)
    (habove : ¬ placeOf directory path <+: placeOf directory dir)
    (hbelow : ¬ placeOf directory dir <+: placeOf directory path) : ClearOf directory dir path := by
  rintro (⟨above, hat, hplace⟩ | hprefix)
  · exact habove (hplace ▸ place_above hat hup)
  · exact hbelow hprefix

/-! ## What spares -/

theorem Gains.spares (h : Gains directory dir files after) (hlinks : files.NoLinks) :
    Spares directory dir files after where
  keepsWays := h.keepsWays
  elsewhere location hclear := by
    rcases h.place hlinks location with hsame | habove
    · exact hsame
    · exact absurd (.inl habove) hclear
  noLinks := h.noLinks hlinks

/-- An entry of the directory is below it. -/
theorem Contains.touches (h : files.Contains directory dir place name) (hlinks : files.NoLinks) :
    Touches directory dir (place ++ [name]) := by
  have hplace := hlinks.locate_place h.located
  exact .inr (hplace ▸ List.prefix_append place [name])

/-- Writing into the directory spares what is apart from it. -/
theorem spares_write {content : Bytes} (hdir : dir ≠ "") (hname : Path.IsEntry name)
    (hlinks : files.NoLinks)
    (h : files.write directory (Path.join dir name) content = .ok after) :
    Spares directory dir files after := by
  obtain ⟨place, hcontains, halters, habsorbs, -⟩ := write_entry hdir hname hlinks.noLinkIn h
  refine ⟨halters.keepsWays, fun location hclear => halters.others location ?_, ?_⟩
  · rintro rfl
    exact hclear (hcontains.touches hlinks)
  · intro location target hlink
    by_cases hentry : location = place ++ [name]
    · rw [hentry] at hlink
      exact habsorbs.not_link target hlink
    · rw [halters.others location hentry] at hlink
      exact hlinks location target hlink

theorem Spares.refl (hlinks : files.NoLinks) : Spares directory dir files files :=
  ⟨fun _ _ hnode _ => hnode, fun _ _ => rfl, hlinks⟩

theorem spares_writeBoth {other : String} {content more : Bytes}
    {result : Except (Path × Errno) Unit} (hdir : dir ≠ "") (hname : Path.IsEntry name)
    (hother : Path.IsEntry other) (hlinks : files.NoLinks)
    (h : writeBoth directory (Path.join dir name) content (Path.join dir other) more files =
      (result, after)) : Spares directory dir files after := by
  unfold writeBoth at h
  split at h
  · cases h
    exact .refl hlinks
  · next middle hfirst =>
    have hspares := spares_write hdir hname hlinks hfirst
    split at h
    · cases h
      exact hspares
    · next last hsecond =>
      cases h
      exact hspares.trans (spares_write hdir hother hspares.noLinks hsecond)

theorem Recast.spares (h : Recast location files after) (hlinks : files.NoLinks)
    (htouches : Touches directory dir location) : Spares directory dir files after where
  keepsWays other node hnode hleads := by
    rw [h.alike.some_iff, hnode]
    rintro content isExecutable rfl
    exact hleads
  elsewhere other hclear := h.others other fun heq => hclear (heq ▸ htouches)
  noLinks other target hlink := by
    rw [h.alike.link_iff] at hlink
    exact hlinks other target hlink

/-! ## What is read again -/

theorem Spares.stat_ok (h : Spares directory dir files after) (hlinks : files.NoLinks)
    (hclear : ClearOf directory dir path) {node : Node}
    (hstat : files.stat directory path = .ok node) : after.stat directory path = .ok node := by
  unfold stat at hstat
  split at hstat
  · next location found hlocate =>
    cases hstat
    have hplace := hlinks.locate_place hlocate
    have hsame := h.elsewhere location (hplace ▸ hclear)
    rw [← locate_node hlocate] at hsame
    unfold stat
    rw [h.keepsWays.locate hlocate (.inl hsame), hsame]
  · cases hstat
  · cases hstat

theorem Spares.read_ok (h : Spares directory dir files after) (hlinks : files.NoLinks)
    (hclear : ClearOf directory dir path) {content : Bytes}
    (hread : files.read directory path = .ok content) :
    after.read directory path = .ok content := by
  cases hstat : files.stat directory path with
  | error e =>
    unfold read at hread
    rw [hstat] at hread
    cases hread
  | ok node =>
    unfold read at hread ⊢
    rw [hstat] at hread
    rw [h.stat_ok hlinks hclear hstat]
    exact hread

theorem stat_of_read_absent (h : files.read directory path = .error .absent) :
    files.stat directory path = .error .absent := by
  unfold read at h
  split at h
  · cases h
  · cases h
  · cases h
  · cases h
  · next e hstat => rw [hstat, Except.error.inj h]

/-- A file that is missing where another one is there is still missing. -/
theorem Spares.read_absent {beside other : String} {base : Path} {content : Bytes}
    (h : Spares directory dir files after) (hlinks : files.NoLinks) (hbase : base ≠ "")
    (hbeside : Path.IsEntry beside) (hother : Path.IsEntry other)
    (hshort : ¬ nameLimit < other.utf8ByteSize)
    (hclear : ClearOf directory dir (Path.join base other))
    (hread : files.read directory (Path.join base beside) = .ok content)
    (habsent : files.read directory (Path.join base other) = .error .absent) :
    after.read directory (Path.join base other) = .error .absent := by
  obtain ⟨spot, found, hlocate⟩ : ∃ spot found,
      files.locate true directory (Path.join base beside) = .ok (spot, found) := by
    unfold read stat at hread
    cases hlocate : files.locate true directory (Path.join base beside) with
    | error e =>
      rw [hlocate] at hread
      cases hread
    | ok found => exact ⟨found.1, found.2, rfl⟩
  obtain ⟨place, hcontains⟩ := contains_of_locate hbase hbeside hlocate
  have hstat := stat_of_read_absent habsent
  have hlong : ¬ pathLimit < (Path.join base other).utf8ByteSize := by
    intro hlong
    unfold stat locate at hstat
    rw [if_neg (Path.join_ne_empty hother.ne_empty), if_pos hlong] at hstat
    cases hstat
  have hin : files.Contains directory base place other :=
    ⟨hcontains.located, hother, hshort, hlong⟩
  have hthere := hin.locate fun target => hlinks _ target
  have hnone : files.node? (place ++ [other]) = none := by
    unfold stat at hstat
    rw [hthere] at hstat
    cases hnode : files.node? (place ++ [other]) with
    | none => rfl
    | some node =>
      rw [hnode] at hstat
      cases hstat
  have hplace := hlinks.locate_place hthere
  have hafter := (hin.kept h.keepsWays).locate fun target => h.noLinks _ target
  rw [h.elsewhere _ (hplace ▸ hclear), hnone] at hafter
  unfold read stat
  rw [hafter]

/-- A directory that is there stays there. -/
theorem Spares.isDirectory (h : Spares directory dir files after)
    (hthere : files.isDirectory directory path) : after.isDirectory directory path := by
  obtain ⟨place, hplace⟩ := isDirectory_iff.mp hthere
  have hdirectory := h.keepsWays _ _ (locate_node hplace).symm trivial
  refine isDirectory_iff.mpr ⟨place, ?_⟩
  rw [h.keepsWays.locate hplace (.inl hdirectory), hdirectory]

theorem SameNodes.file?_eq (h : SameNodes files after) (location : Location) :
    after.file? location = files.file? location := by
  unfold file?
  rw [h location]

end FileSystem

end Pipewright
