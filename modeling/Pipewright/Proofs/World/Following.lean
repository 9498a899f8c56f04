import Pipewright.World.FileSystem

set_option autoImplicit false

/-! # Following paths

Following a path takes one piece after the other. `walk_here`, `walk_up` and `walk_name` say what a
piece does. Only directories and links lead on, so a path leads where it led as long as these are
kept (`KeepsWays.walk`), and a longer path goes on from the directory that a shorter one leads to
(`walk_append`). -/

namespace Pipewright

/-- A path leads on from a directory or a link, and from nothing else. -/
def Node.LeadsOn : Node → Prop
  | .directory | .link _ => True
  | .file _ _ | .device => False

namespace FileSystem

variable {files after : FileSystem} {directory location here : Location} {path : Path}
  {follow : Bool} {links : Nat} {names : List String}

@[simp] theorem node?_nil : files.node? [] = some .directory := rfl

/-- Following a path gives a location with the node that stands there. -/
theorem walk_node {found : Option Node}
    (h : walk files follow links here names = .ok (location, found)) :
    found = files.node? location := by
  fun_induction walk files follow links here names with
  | case1 => cases h; rfl
  | case2 => cases h
  | case3 _ _ _ _ _ _ ih => exact ih h
  | case4 _ _ _ _ _ ih => exact ih h
  | case5 => cases h
  | case6 _ _ _ _ _ _ _ _ hnone => cases h; exact hnone.symm
  | case7 => cases h
  | case8 _ _ _ _ _ _ _ _ target hlink => cases h; exact hlink.symm
  | case9 => cases h
  | case10 _ _ _ _ _ _ _ _ _ _ _ ih => exact ih h
  | case11 _ _ _ _ _ _ _ node _ hnode => cases h; exact hnode.symm
  | case12 _ _ _ _ _ _ _ _ _ _ _ _ ih => exact ih h

/-- Being the name of an entry: no piece that stays where it is or goes up, and not too long. -/
structure IsName (piece : String) : Prop where
  notHere : ¬ isHere piece
  notUp : piece ≠ ".."
  short : ¬ nameLimit < piece.utf8ByteSize

theorem walk_here {piece : String} (hdirectory : files.node? here = some .directory)
    (hhere : isHere piece) :
    walk files follow links here (piece :: names) = walk files follow links here names := by
  rw [walk, if_neg (by simp [hdirectory]), if_pos hhere]

theorem walk_up (hdirectory : files.node? here = some .directory) :
    walk files follow links here (".." :: names) = walk files follow links here.dropLast names := by
  rw [walk, if_neg (by simp [hdirectory]), if_neg (by decide), if_pos rfl]

/-- A name leads on to what stands there. -/
theorem walk_name {name : String} (hdirectory : files.node? here = some .directory)
    (hname : IsName name) :
    walk files follow links here (name :: names) =
      match files.node? (here ++ [name]) with
      | none => if names.all (· = "") then .ok (here ++ [name], none) else .error .absent
      | some (.link target) =>
        if names = [] ∧ ¬ follow then .ok (here ++ [name], some (.link target))
        else
          match links with
          | 0 => .error .tooManyLinks
          | links + 1 =>
            walk files follow links (if Path.isAbsolute target then [] else here)
              (pieces target ++ names)
      | some node =>
        if names = [] then .ok (here ++ [name], some node)
        else walk files follow links (here ++ [name]) names := by
  rw [walk, if_neg (by simp [hdirectory]), if_neg hname.notHere, if_neg hname.notUp,
    if_neg hname.short]
  split
  · next hnone => simp only [hnone]
  · next target hlink => cases links <;> simp only [hlink]
  · next node hother hnode =>
    rw [hnode]
    cases node with
    | link target => exact (hother target rfl).elim
    | _ => rfl

/-- From what is no link a path goes on by the remaining pieces. -/
theorem walk_on {name : String} {node : Node} (hdirectory : files.node? here = some .directory)
    (hname : IsName name) (hnode : files.node? (here ++ [name]) = some node)
    (hlink : ∀ target, node ≠ .link target) (hmore : names ≠ []) :
    walk files follow links here (name :: names) =
      walk files follow links (here ++ [name]) names := by
  rw [walk_name hdirectory hname, hnode]
  cases node with
  | link target => exact absurd rfl (hlink target)
  | _ => exact if_neg hmore

/-- Only a directory can be gone on from. -/
theorem walk_stuck (hother : files.node? here ≠ some .directory) (hmore : names ≠ []) :
    walk files follow links here names = .error .notDirectory := by
  obtain ⟨name, rest, rfl⟩ := List.exists_cons_of_ne_nil hmore
  rw [walk, if_pos hother]

/-- Slashes at the end of a path stay at the directory before them. -/
theorem walk_blank (hhere : files.node? here = some .directory)
    (hblank : names.all (· = "")) :
    walk files follow links here names = .ok (here, some .directory) := by
  induction names with
  | nil => rw [walk, hhere]
  | cons name rest ih =>
    simp only [List.all_cons, Bool.and_eq_true, decide_eq_true_eq] at hblank
    rw [walk_here hhere (by simp [isHere, hblank.1])]
    exact ih hblank.2

/-- All that leads on is there afterwards as it was. -/
def KeepsWays (files after : FileSystem) : Prop :=
  ∀ location node, files.node? location = some node → node.LeadsOn →
    after.node? location = some node

theorem KeepsWays.directory_eq (hways : files.KeepsWays after)
    (h : ¬ files.node? here ≠ some .directory) : after.node? here = some .directory :=
  hways _ _ (Decidable.not_not.mp h) trivial

/-- A path leads where it led as long as the ways are kept, if the same stands at its end, or a
    directory. -/
theorem KeepsWays.walk {found : Option Node} (hways : files.KeepsWays after)
    (h : walk files follow links here names = .ok (location, found))
    (hend : after.node? location = found ∨ after.node? location = some .directory) :
    FileSystem.walk after follow links here names = .ok (location, after.node? location) := by
  -- along the walk that went well: what each of its steps needed was a directory or a link
  fun_induction FileSystem.walk files follow links here names with
  | case1 links here =>
    cases h
    rw [FileSystem.walk]
  | case2 => cases h
  | case3 links here piece rest hdirectory hhere ih =>
    rw [walk_here (hways.directory_eq hdirectory) hhere]
    exact ih h
  | case4 links here rest hdirectory hhere ih =>
    rw [walk_up (hways.directory_eq hdirectory)]
    exact ih h
  | case5 => cases h
  | case6 links here piece rest hdirectory hhere hup hlong hnone hblank =>
    cases h
    rw [walk_name (hways.directory_eq hdirectory) ⟨hhere, hup, hlong⟩]
    rcases hend with hsame | hmade
    · rw [hsame]
      exact if_pos hblank
    · -- slashes may follow the name of the directory that was made
      rw [hmade]
      simp only
      split
      · rfl
      · exact walk_blank hmade hblank
  | case7 => cases h
  | case8 links here piece rest hdirectory hhere hup hlong target hlink hlast =>
    cases h
    rw [walk_name (hways.directory_eq hdirectory) ⟨hhere, hup, hlong⟩,
      hways _ _ hlink trivial]
    exact if_pos hlast
  | case9 => cases h
  | case10 here piece rest hdirectory hhere hup hlong target hlink hlast links ih =>
    rw [walk_name (hways.directory_eq hdirectory) ⟨hhere, hup, hlong⟩,
      hways _ _ hlink trivial]
    exact (if_neg hlast).trans (ih h)
  | case11 links here piece hdirectory hhere hup hlong node hlink hnode =>
    cases h
    rw [walk_name (hways.directory_eq hdirectory) ⟨hhere, hup, hlong⟩]
    rcases hend with hsame | hmade
    · rw [hsame]
      simp
    · rw [hmade]
      exact if_pos rfl
  | case12 links here piece rest hdirectory hhere hup hlong node hlink hnode hrest ih =>
    have hon : files.node? (here ++ [piece]) = some .directory := by
      refine Decidable.byContradiction fun hother => ?_
      rw [walk_stuck hother hrest] at h
      cases h
    rw [walk_on (hways.directory_eq hdirectory) ⟨hhere, hup, hlong⟩ (hways _ _ hon trivial)
      (by simp) hrest]
    exact ih h

/-! ## Going on -/

theorem ne_nil_of_not_blank {more : List String} (h : ¬ more.all (· = "")) : more ≠ [] := by
  rintro rfl
  exact h rfl

/-- A walk that is to go on does so from the directory that it leads to, or fails in any case. -/
theorem walk_append (files : FileSystem) (links : Nat) (here : Location) (names : List String) :
    (∃ place left, walk files true links here names = .ok (place, some .directory) ∧
      ∀ more, ¬ more.all (· = "") →
        walk files true links here (names ++ more) = walk files true left place more) ∨
    (∀ place, walk files true links here names ≠ .ok (place, some .directory)) ∧
      ∃ e, ∀ more, ¬ more.all (· = "") → walk files true links here (names ++ more) = .error e := by
  -- along the walk by `names`: it ends (here, at what is absent, or at a last node), fails at a
  -- piece that fails whatever follows, or goes on as a shorter walk does
  fun_induction walk files true links here names with
  | case1 links here =>
    by_cases hhere : files.node? here = some .directory
    · exact .inl ⟨here, links, by rw [hhere], fun _ _ => rfl⟩
    · refine .inr ⟨fun place h => ?_, .notDirectory, fun more hmore =>
        walk_stuck hhere (ne_nil_of_not_blank hmore)⟩
      simp only [Except.ok.injEq, Prod.mk.injEq] at h
      exact hhere h.2
  | case2 links here piece rest hother =>
    exact .inr ⟨nofun, .notDirectory, fun more _ => by
      rw [List.cons_append, walk, if_pos hother]⟩
  | case3 links here piece rest hdirectory hhere ih =>
    simp only [List.cons_append, walk_here (Decidable.not_not.mp hdirectory) hhere]
    exact ih
  | case4 links here rest hdirectory hhere ih =>
    simp only [List.cons_append, walk_up (Decidable.not_not.mp hdirectory)]
    exact ih
  | case5 links here piece rest hdirectory hhere hup hlong =>
    exact .inr ⟨nofun, .nameTooLong, fun more _ => by
      rw [List.cons_append, walk, if_neg hdirectory, if_neg hhere, if_neg hup, if_pos hlong]⟩
  | case6 links here piece rest hdirectory hhere hup hlong hnone hblank
  | case7 links here piece rest hdirectory hhere hup hlong hnone hblank =>
    refine .inr ⟨nofun, .absent, fun more hmore => ?_⟩
    rw [List.cons_append, walk_name (Decidable.not_not.mp hdirectory) ⟨hhere, hup, hlong⟩, hnone]
    refine if_neg fun hall => hmore ?_
    rw [List.all_append, Bool.and_eq_true] at hall
    exact hall.2
  | case8 _ _ _ _ _ _ _ _ _ _ hlast => exact absurd rfl hlast.2
  | case9 here piece rest hdirectory hhere hup hlong target hlink hlast =>
    refine .inr ⟨nofun, .tooManyLinks, fun more hmore => ?_⟩
    rw [List.cons_append, walk_name (Decidable.not_not.mp hdirectory) ⟨hhere, hup, hlong⟩, hlink]
    exact if_neg (by simp)
  | case10 here piece rest hdirectory hhere hup hlong target hlink hlast links ih =>
    simp only [List.append_assoc] at ih
    simp only [List.cons_append, walk_name (Decidable.not_not.mp hdirectory) ⟨hhere, hup, hlong⟩,
      hlink, not_true_eq_false, and_false, if_false]
    exact ih
  | case11 links here piece hdirectory hhere hup hlong node hlink hnode =>
    have hon : ∀ more, ¬ more.all (· = "") →
        walk files true links here ([piece] ++ more) =
          walk files true links (here ++ [piece]) more := fun more hmore =>
      walk_on (Decidable.not_not.mp hdirectory) ⟨hhere, hup, hlong⟩ hnode hlink
        (ne_nil_of_not_blank hmore)
    by_cases hend : node = .directory
    · subst hend
      exact .inl ⟨here ++ [piece], links, rfl, hon⟩
    · refine .inr ⟨fun place h => ?_, .notDirectory, fun more hmore => ?_⟩
      · cases h
        exact hend rfl
      · rw [hon more hmore]
        exact walk_stuck (by simpa [hnode] using hend) (ne_nil_of_not_blank hmore)
  | case12 links here piece rest hdirectory hhere hup hlong node hlink hnode hrest ih =>
    have hon : ∀ more, walk files true links here (piece :: rest ++ more) =
        walk files true links (here ++ [piece]) (rest ++ more) := fun more =>
      walk_on (Decidable.not_not.mp hdirectory) ⟨hhere, hup, hlong⟩ hnode hlink (by simp [hrest])
    simp only [hon]
    exact ih

/-! ## Locations -/

theorem locate_node {found : Option Node}
    (h : files.locate follow directory path = .ok (location, found)) :
    found = files.node? location := by
  unfold locate at h
  split at h
  · cases h
  · split at h
    · cases h
    · exact walk_node h

theorem KeepsWays.locate {found : Option Node} (hways : files.KeepsWays after)
    (h : files.locate follow directory path = .ok (location, found))
    (hend : after.node? location = found ∨ after.node? location = some .directory) :
    after.locate follow directory path = .ok (location, after.node? location) := by
  unfold FileSystem.locate at h ⊢
  split at h
  · cases h
  · next hnonempty =>
    split at h
    · cases h
    · next hshort =>
      rw [if_neg hnonempty, if_neg hshort]
      exact hways.walk h hend

end FileSystem

end Pipewright
