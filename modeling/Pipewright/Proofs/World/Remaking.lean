import Pipewright.Proofs.World.Lexical
import Pipewright.Proofs.World.Parents

set_option autoImplicit false

/-! # Making directories again

Without symbolic links, making a directory that is there does nothing (`makeDirectories_there`), a
directory that was made is there (`makeDirectories_ok`), and one that could not be made cannot be
made from what this attempt has left either (`makeDirectories_error`). -/

namespace Pipewright

namespace FileSystem

variable {files after : FileSystem} {directory : Location} {path : Path} {levels : Nat}

theorem makeDirectory_there (hlinks : files.NoLinks) (h : files.isDirectory directory path) :
    files.makeDirectory directory path = .error .exists_ := by
  obtain ⟨place, hplace⟩ := isDirectory_iff.mp h
  unfold makeDirectory
  rw [hlinks.locate_follow, hplace]

/-- Making a directory that is there does nothing. -/
theorem makeLevels_there (hlinks : files.NoLinks) (h : files.isDirectory directory path) :
    makeLevels directory (levels + 1) files path = (.ok (), files) := by
  have hsome : path ≠ "" := by
    rintro rfl
    cases h
  rw [makeLevels, if_neg hsome, makeDirectory_there hlinks h]
  dsimp only
  rw [if_pos (by decide), if_pos h]

theorem makeDirectory_noLinks (hlinks : files.NoLinks)
    (h : files.makeDirectory directory path = .ok after) : after.NoLinks :=
  ((Gains.refl directory path files).make h).noLinks hlinks

/-- A directory that was made is there. -/
theorem isDirectory_made (hlinks : files.NoLinks)
    (h : files.makeDirectory directory path = .ok after) : after.isDirectory directory path := by
  have hafter := makeDirectory_noLinks hlinks h
  obtain ⟨vacant, hvacant, hnamed, rfl⟩ := makeDirectory_ok h
  have hself := node?_put_self hvacant
  have hplace := (keepsWays_put hvacant).locate hnamed (.inr hself)
  rw [hafter.locate_follow, hself] at hplace
  exact isDirectory_iff.mpr ⟨vacant, hplace⟩

theorem makeLevels_noLinks (hlinks : files.NoLinks) {result : Except Errno Unit}
    (h : makeLevels directory levels files path = (result, after)) : after.NoLinks := by
  have hgains := makeLevels_gains directory levels files path
  rw [h] at hgains
  exact hgains.noLinks hlinks

theorem makeLevels_ok (hlinks : files.NoLinks) (hsome : path ≠ "")
    (h : makeLevels directory levels files path = (.ok (), after)) :
    after.isDirectory directory path := by
  -- in each way to succeed the path was made at the end, or found to be a directory
  cases levels with
  | zero => cases h
  | succ levels =>
    rw [makeLevels, if_neg hsome] at h
    split at h
    · next made hmake =>
      cases h
      exact isDirectory_made hlinks hmake
    · split at h
      · split at h
        · next hthere =>
          cases h
          exact hthere
        · cases h
      · split at h
        · cases h
        · next parent hparent =>
          split at h
          · cases h
          · next middle hlevels =>
            split at h
            · next made hmake =>
              cases h
              exact isDirectory_made (makeLevels_noLinks hlinks hlevels) hmake
            · split at h
              · next hthere =>
                cases h
                exact hthere
              · cases h

/-- What can be made, or is there, has a directory above it. -/
theorem isDirectory_above (hlinks : files.NoLinks) {parent : Path}
    (hparent : Path.parent? path = some parent) (hsome : parent ≠ "")
    (h : (∃ made, files.makeDirectory directory path = .ok made) ∨
      files.isDirectory directory path) : files.isDirectory directory parent := by
  rcases h with ⟨made, hmake⟩ | hthere
  · obtain ⟨vacant, -, hnamed, -⟩ := makeDirectory_ok hmake
    rw [hlinks.locate_follow] at hnamed
    exact isDirectory_parent hparent hsome hnamed
  · obtain ⟨place, hplace⟩ := isDirectory_iff.mp hthere
    exact isDirectory_parent hparent hsome hplace

theorem makeLevels_empty : makeLevels directory (levels + 1) files "" = (.ok (), files) := by
  rw [makeLevels, if_pos rfl]

/-- A directory that is not there and cannot be made by itself cannot be made at all, unless it is
    the one above it that is missing. -/
theorem makeLevels_fails {e : Errno} (hsome : path ≠ "")
    (hmake : files.makeDirectory directory path = .error e)
    (hother : ¬ files.isDirectory directory path)
    (habove : ∀ parent, Path.parent? path = some parent →
      (∃ e', (makeLevels directory levels files parent).1 = .error e') ∨
        makeLevels directory levels files parent = (.ok (), files)) :
    ∃ e', (makeLevels directory (levels + 1) files path).1 = .error e' := by
  rw [makeLevels, if_neg hsome, hmake]
  dsimp only
  by_cases habsent : e = .absent
  · rw [if_neg (by simpa using habsent)]
    cases hparent : Path.parent? path with
    | none => exact ⟨_, rfl⟩
    | some parent =>
      dsimp only
      rcases habove parent hparent with ⟨e', hfails⟩ | hthere
      · rcases hlevels : makeLevels directory levels files parent with ⟨_ | ⟨⟩, middle⟩
        · exact ⟨_, rfl⟩
        · rw [hlevels] at hfails
          cases hfails
      · rw [hthere]
        dsimp only
        rw [hmake]
        exact ⟨e, if_neg hother⟩
  · rw [if_pos habsent, if_neg hother]
    exact ⟨e, rfl⟩

/-- How making directories fails: at once, with nothing done; above the path; or at the path, when
    all above it has been made. -/
theorem makeLevels_error_cases {e : Errno}
    (h : makeLevels directory (levels + 1) files path = (.error e, after)) :
    after = files ∨ path ≠ "" ∧ ∃ parent, Path.parent? path = some parent ∧
      (makeLevels directory levels files parent = (.error e, after) ∨
        makeLevels directory levels files parent = (.ok (), after) ∧
          after.makeDirectory directory path = .error e ∧
          ¬ after.isDirectory directory path) := by
  by_cases hsome : path = ""
  · rw [makeLevels, if_pos hsome] at h
    cases h
  rw [makeLevels, if_neg hsome] at h
  split at h
  · cases h
  · split at h
    · exact .inl (congrArg Prod.snd h).symm
    · split at h
      · exact .inl (congrArg Prod.snd h).symm
      · next parent hparent =>
        refine .inr ⟨hsome, parent, hparent, ?_⟩
        split at h
        · next e' middle hlevels =>
          cases h
          exact .inl hlevels
        · next middle hlevels =>
          split at h
          · cases h
          · next e' hmake =>
            split at h
            · cases h
            · next hother =>
              cases h
              exact .inr ⟨hlevels, hmake, hother⟩

/-- A directory that could not be made cannot be made from what the attempt has left. -/
theorem makeLevels_error (hlinks : files.NoLinks) {e : Errno}
    (h : makeLevels directory levels files path = (.error e, after)) :
    ∃ e', (makeLevels directory levels after path).1 = .error e' := by
  induction levels generalizing files path e after with
  | zero => exact ⟨_, rfl⟩
  | succ levels ih =>
    have hafter := makeLevels_noLinks hlinks h
    rcases makeLevels_error_cases h with
      rfl | ⟨hsome, parent, hparent, hfails | ⟨hmade, hmake, hother⟩⟩
    · exact ⟨e, by rw [h]⟩
    · obtain ⟨e', hagain⟩ := ih hlinks hfails
      cases levels with
      | zero =>
        cases hfails
        exact ⟨_, by rw [h]⟩
      | succ levels =>
        -- the path cannot be made, nor be there, for what is above it is not there
        have hsome' : parent ≠ "" := by
          rintro rfl
          rw [makeLevels_empty] at hfails
          cases hfails
        have hmissing : ¬ after.isDirectory directory parent := by
          intro hthere
          rw [makeLevels_there hafter hthere] at hagain
          cases hagain
        cases hmake : after.makeDirectory directory path with
        | ok made =>
          exact absurd (isDirectory_above hafter hparent hsome' (.inl ⟨made, hmake⟩)) hmissing
        | error e'' =>
          refine makeLevels_fails hsome hmake
            (fun hthere => hmissing (isDirectory_above hafter hparent hsome' (.inr hthere)))
            fun other hother => ?_
          obtain rfl : parent = other := Option.some.inj (hparent.symm.trans hother)
          exact .inl ⟨e', hagain⟩
    · refine makeLevels_fails hsome hmake hother fun other hother => ?_
      obtain rfl : parent = other := Option.some.inj (hparent.symm.trans hother)
      refine .inr ?_
      cases levels with
      | zero => cases hmade
      | succ levels =>
        by_cases hempty : parent = ""
        · rw [hempty, makeLevels_empty]
        · exact makeLevels_there hafter (makeLevels_ok hlinks hempty hmade)

/-! ## Whole paths -/

theorem makeDirectories_there (hlinks : files.NoLinks) (h : files.isDirectory directory path) :
    files.makeDirectories directory path = (.ok (), files) :=
  makeLevels_there hlinks h

theorem makeDirectories_ok (hlinks : files.NoLinks) (hsome : path ≠ "")
    (h : files.makeDirectories directory path = (.ok (), after)) :
    after.isDirectory directory path :=
  makeLevels_ok hlinks hsome h

theorem makeDirectories_error (hlinks : files.NoLinks) {e : Errno}
    (h : files.makeDirectories directory path = (.error e, after)) :
    ∃ e', (after.makeDirectories directory path).1 = .error e' :=
  makeLevels_error hlinks h

end FileSystem

end Pipewright
