import Pipewright.Proofs.World.Following

set_option autoImplicit false

/-! # Making directories

What is put at a vacant location stands in no way: a path leads where it led, and the new node can
only be met at the end of one. From this follows all that `makeDirectories` does, whether it
succeeds or not: `Gains directory path` says that each location is as it was, or was vacant and is
now a directory that the path, or a path above it, names. -/

namespace Pipewright

/-- A path, or what is left of it without some of its last components. -/
inductive Path.AtOrAbove : Path → Path → Prop
  | self (path : Path) : AtOrAbove path path
  | above {path parent other : Path} : Path.parent? path = some parent →
      AtOrAbove other parent → AtOrAbove other path

namespace FileSystem

variable {files after : FileSystem} {directory location vacant : Location} {path : Path}
  {node : Node}

/-- The root is never vacant. -/
theorem ne_nil_of_vacant (h : files.node? vacant = none) : vacant ≠ [] := by
  rintro rfl
  simp at h

/-- What stands somewhere is not changed by what is put at a vacant location. -/
theorem node?_put_of_some (hvacant : files.node? vacant = none)
    (h : files.node? location = some node) :
    (files.put vacant .directory).node? location = some node := by
  rw [node?_put files vacant location .directory (ne_nil_of_vacant hvacant), if_neg, h]
  rintro rfl
  rw [hvacant] at h
  cases h

theorem node?_put_self (hvacant : files.node? vacant = none) :
    (files.put vacant .directory).node? vacant = some .directory := by
  rw [node?_put files vacant vacant .directory (ne_nil_of_vacant hvacant), if_pos rfl]

/-- What is put at a vacant location stands in no way. -/
theorem keepsWays_put (hvacant : files.node? vacant = none) :
    files.KeepsWays (files.put vacant .directory) :=
  fun _ _ hnode _ => node?_put_of_some hvacant hnode

/-! ## Gaining directories -/

/-- The content of the regular file at a location, and whether it can be executed. -/
def file? (files : FileSystem) (location : Location) : Option (Bytes × Bool) :=
  match files.node? location with
  | some (.file content isExecutable) => some (content, isExecutable)
  | _ => none

/-- Each location is as it was, or was vacant and is now a directory that the path, or a path above
    it, names. -/
def Gains (directory : Location) (path : Path) (files after : FileSystem) : Prop :=
  ∀ location, after.node? location = files.node? location ∨
    (files.node? location = none ∧ after.node? location = some .directory ∧
      ∃ above : Path, above.AtOrAbove path ∧
        after.locate false directory above = .ok (location, some .directory))

theorem Gains.refl (directory : Location) (path : Path) (files : FileSystem) :
    Gains directory path files files := fun _ => .inl rfl

/-- Gaining directories changes no regular file. -/
theorem Gains.file?_eq (h : Gains directory path files after) (location : Location) :
    after.file? location = files.file? location := by
  unfold file?
  rcases h location with hsame | ⟨hnone, hmade, _⟩
  · rw [hsame]
  · rw [hnone, hmade]

/-- What a path above gains is gained for the path. -/
theorem Gains.of_parent {parent : Path} (hparent : Path.parent? path = some parent)
    (h : Gains directory parent files after) : Gains directory path files after := by
  intro location
  rcases h location with hsame | ⟨hnone, hmade, above, habove, hlocate⟩
  · exact .inl hsame
  · exact .inr ⟨hnone, hmade, above, .above hparent habove, hlocate⟩

/-- Making one directory fills the vacant location that its path names. -/
theorem makeDirectory_ok (h : files.makeDirectory directory path = .ok after) :
    ∃ vacant, files.node? vacant = none ∧
      files.locate false directory path = .ok (vacant, none) ∧
      after = files.put vacant .directory := by
  unfold makeDirectory at h
  split at h
  · cases h
  · cases h
  · next vacant hlocate =>
    cases h
    exact ⟨vacant, (locate_node hlocate).symm, hlocate, rfl⟩

/-- The directory of the path is gained after those above it. -/
theorem Gains.make {middle : FileSystem} (h : Gains directory path files middle)
    (hmake : middle.makeDirectory directory path = .ok after) :
    Gains directory path files after := by
  obtain ⟨vacant, hvacant, hnamed, rfl⟩ := makeDirectory_ok hmake
  have hself := node?_put_self hvacant
  intro location
  by_cases hlocation : location = vacant
  · -- the location of the new directory itself
    subst hlocation
    have hafter := (keepsWays_put hvacant).locate hnamed (.inr hself)
    rw [hself] at hafter
    rcases h location with hsame | ⟨_, hmade, _⟩
    · exact .inr ⟨hsame ▸ hvacant, hself, path, .self path, hafter⟩
    · rw [hvacant] at hmade
      cases hmade
  · have hother : (middle.put vacant .directory).node? location = middle.node? location := by
      rw [node?_put middle vacant location .directory (ne_nil_of_vacant hvacant),
        if_neg (Ne.symm hlocation)]
    rw [hother]
    rcases h location with hsame | ⟨hnone, hmade, above, habove, hlocate⟩
    · exact .inl hsame
    · refine .inr ⟨hnone, hmade, above, habove, ?_⟩
      have hafter := (keepsWays_put hvacant).locate hlocate (.inl (hother.trans hmade))
      rw [hother, hmade] at hafter
      exact hafter

/-- Making directories gains nothing but directories at the path and above it, even if it fails. -/
theorem makeLevels_gains (directory : Location) (levels : Nat) (files : FileSystem) (path : Path) :
    Gains directory path files (makeLevels directory levels files path).2 := by
  induction levels generalizing files path with
  | zero => exact .refl directory path files
  | succ levels ih =>
    unfold makeLevels
    split
    · exact .refl directory path files
    · split
      · next after hmake => exact (Gains.refl directory path files).make hmake
      · split
        · exact .refl directory path files
        · split
          · exact .refl directory path files
          · next parent hparent =>
            have hgains := (ih files parent).of_parent hparent
            rcases hlevels : makeLevels directory levels files parent with ⟨_ | ⟨⟩, middle⟩
            · rw [hlevels] at hgains
              exact hgains
            · rw [hlevels] at hgains
              simp only
              split
              · next after hmake => exact hgains.make hmake
              · exact hgains

theorem makeDirectories_gains (directory : Location) (files : FileSystem) (path : Path) :
    Gains directory path files (files.makeDirectories directory path).2 :=
  makeLevels_gains directory (path.length + 1) files path

end FileSystem

end Pipewright
