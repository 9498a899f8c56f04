import Pipewright.Proofs.World.Parents

set_option autoImplicit false

/-! # The components of paths

`Path.components` is what a path says, without its slashes and the pieces that say nothing. The path
of an entry of a directory has the components of the directory and one more, the name of the entry
(`Path.components_entry`), while joining `.` adds none (`Path.components_here`). -/

namespace Pipewright.Path

/-- A component of a path. -/
inductive Component where
  | root
  /-- The directory that a relative path starts from. -/
  | here
  | up
  | name (text : String)
  deriving DecidableEq, Repr

/-- What a piece says where it is not skipped. -/
def Component.ofPiece (piece : List Char) : Component :=
  if piece = [] then .root
  else if piece = ['.'] then .here
  else if piece = ['.', '.'] then .up
  else .name (String.ofList piece)

/-- The components of a path; the empty path has none. -/
def components (path : Path) : List Component :=
  match splitSlash path.toList with
  | [] | [[]] => []
  | first :: rest =>
    Component.ofPiece first :: (rest.filter (!isSkipped ·)).map Component.ofPiece

example : components "/a//b/./../c/" = [.root, .name "a", .name "b", .up, .name "c"] := by
  decide +kernel
example : components "./a" = [.here, .name "a"] := by decide +kernel

/-- What is taken from a directory that has a name has one too. -/
theorem join_ne_empty_of_base {base path : Path} (h : base ≠ "") : join base path ≠ "" := by
  unfold join
  split
  · next habsolute =>
    rintro rfl
    exact absurd habsolute (by decide +kernel)
  · split <;> rw [ne_eq, ← String.toList_inj] <;> simp [h]

theorem components_of_pieces {path : Path} {first : List Char} {rest : List (List Char)}
    (hpath : path ≠ "") (hsplit : splitSlash path.toList = first :: rest) :
    components path =
      Component.ofPiece first :: (rest.filter (!isSkipped ·)).map Component.ofPiece := by
  unfold components
  split
  · next hnone => rw [hnone] at hsplit; cases hsplit
  · next hempty =>
    -- a single empty piece is the empty path
    have hchars := joinSlash_splitSlash path.toList
    rw [hempty] at hchars
    exact absurd (String.toList_inj.1 hchars.symm) hpath
  · next hpieces =>
    rw [hsplit] at hpieces
    cases hpieces
    rfl

/-- Joining a text without slashes adds what it says as a piece. -/
theorem components_join {dir : Path} {name : String} (hdir : dir ≠ "")
    (hname : '/' ∉ name.toList) :
    components (join dir name) =
      components dir ++ ([name.toList].filter (!isSkipped ·)).map Component.ofPiece := by
  obtain ⟨front, hjoin, hfront⟩ := toList_join hdir hname
  obtain ⟨first, rest, hsplit⟩ := List.exists_cons_of_ne_nil (splitSlash_ne_nil front)
  have hjoined : splitSlash (join dir name).toList = first :: (rest ++ [name.toList]) := by
    rw [hjoin, splitSlash_append, hsplit, splitSlash_of_noSlash hname, List.cons_append]
  have hsome : join dir name ≠ "" := by
    rw [ne_eq, ← String.toList_inj, hjoin]
    simp
  have hkept : components dir =
      Component.ofPiece first :: (rest.filter (!isSkipped ·)).map Component.ofPiece := by
    rcases hfront with hsame | hslash
    · exact components_of_pieces hdir (hsame ▸ hsplit)
    · have hpieces : splitSlash dir.toList = first :: (rest ++ [[]]) := by
        rw [hslash, splitSlash_append, hsplit]
        rfl
      rw [components_of_pieces hdir hpieces, List.filter_append]
      simp [isSkipped]
  rw [components_of_pieces hsome hjoined, hkept, List.filter_append, List.map_append,
    List.cons_append]

/-- The path of an entry has one component more than that of the directory, the name. -/
theorem components_entry {dir : Path} {name : String} (hdir : dir ≠ "") (hname : IsEntry name) :
    components (join dir name) = components dir ++ [.name name] := by
  have hskipped := hname.not_isSkipped
  have hpiece : Component.ofPiece name.toList = .name name := by
    simp only [isSkipped, Bool.or_eq_false_iff, decide_eq_false_iff_not] at hskipped
    have hup : name.toList ≠ ['.', '.'] := fun heq => hname.notUp (String.toList_inj.1 heq)
    rw [Component.ofPiece, if_neg hskipped.1, if_neg hskipped.2, if_neg hup, String.ofList_toList]
  rw [components_join hdir hname.noSlash, List.filter_cons_of_pos (by simpa using hskipped)]
  simp [hpiece]

theorem components_here {dir : Path} (hdir : dir ≠ "") :
    components (join dir ".") = components dir := by
  rw [components_join hdir (by decide)]
  simp [isSkipped]

end Pipewright.Path
