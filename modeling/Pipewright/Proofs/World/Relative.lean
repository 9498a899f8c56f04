import Pipewright.Proofs.World.Lexical

set_option autoImplicit false

/-! # Paths from elsewhere

An absolute path names the same from every directory (`locate_of_isAbsolute`). A relative path
climbs some levels and then goes down by names, which is its `Course`. Where nothing is a link, it
leads from two directories to the same location just when they agree above the levels that it climbs
(`placeOf_eq_iff`). -/

namespace Pipewright

namespace FileSystem

variable {files : FileSystem} {here there location other : Location} {path : Path} {follow : Bool}
  {found again : Option Node}

/-- From where it is taken makes no difference to an absolute path. -/
theorem locate_of_isAbsolute (h : Path.isAbsolute path = true) (here there : Location) :
    files.locate follow here path = files.locate follow there path := by
  simp only [locate, h, if_true]

/-- A relative path is followed from where it is taken. -/
theorem locate_relative (hpath : Path.isAbsolute path = false) (hsome : path ≠ "")
    (hshort : ¬ pathLimit < path.utf8ByteSize) :
    files.locate follow here path = walk files follow linkLimit here (pieces path) := by
  rw [locate, if_neg hsome, if_neg hshort, if_neg (by simp [hpath])]

/-! ## Relative paths -/

/-- How many levels pieces of a path climb, and the names by which they go down from there. -/
structure Course where
  levels : Nat
  names : List String

/-- The course with a piece behind it. -/
def Course.step (course : Course) (piece : String) : Course :=
  if isHere piece then course
  else if piece = ".." then
    if course.names = [] then { course with levels := course.levels + 1 }
    else { course with names := course.names.dropLast }
  else { course with names := course.names ++ [piece] }

/-- Where a course leads. -/
def Course.leadsFrom (course : Course) (here : Location) : Location :=
  here.take (here.length - course.levels) ++ course.names

/-- How many levels a path climbs before it goes down for good. -/
def climbs (path : Path) : Nat := ((pieces path).foldl Course.step ⟨0, []⟩).levels

/-- The directories are the same from some levels above them on. -/
def AgreeAbove (levels : Nat) (here there : Location) : Prop :=
  here.take (here.length - levels) = there.take (there.length - levels)

instance (levels : Nat) (here there : Location) : Decidable (AgreeAbove levels here there) :=
  inferInstanceAs (Decidable (_ = _))

theorem agreeAbove_zero : AgreeAbove 0 here there ↔ here = there := by
  simp [AgreeAbove]

theorem goOn_course (course : Course) (here : Location) (piece : String) :
    goOn (course.leadsFrom here) piece = (course.step piece).leadsFrom here := by
  unfold Course.step Course.leadsFrom
  by_cases hhere : isHere piece
  · rw [goOn_here hhere, if_pos hhere]
  rw [if_neg hhere]
  by_cases hup : piece = ".."
  · rw [if_pos hup, hup, goOn_up]
    split
    · next hnames =>
      -- one level up from the end of what is taken of the directory
      have hlevels : here.length - course.levels - 1 = here.length - (course.levels + 1) := by omega
      simp only [hnames, List.append_nil, List.dropLast_eq_take, List.take_take, List.length_take,
        ← hlevels]
      congr 1
      omega
    · next hnames => exact List.dropLast_append_of_ne_nil hnames
  · rw [if_neg hup, goOn_name hhere hup]
    exact List.append_assoc ..

theorem foldl_goOn_course (course : Course) (here : Location) (names : List String) :
    names.foldl goOn (course.leadsFrom here) = (names.foldl Course.step course).leadsFrom here := by
  induction names generalizing course with
  | nil => rfl
  | cons name rest ih => rw [List.foldl_cons, List.foldl_cons, goOn_course, ih]

/-- A relative path leads to the same place from directories that agree above what it climbs. -/
theorem placeOf_eq_iff (h : Path.isAbsolute path = false) :
    placeOf here path = placeOf there path ↔ AgreeAbove (climbs path) here there := by
  have hcourse : ∀ here, placeOf here path =
      ((pieces path).foldl Course.step ⟨0, []⟩).leadsFrom here := by
    intro here
    rw [← foldl_goOn_course, placeOf, h]
    simp [Course.leadsFrom]
  rw [hcourse here, hcourse there]
  exact List.append_left_inj _

/-- Where nothing is a link, what a relative path names from two directories is the same just when
    these agree above what it climbs. -/
theorem NoLinks.locate_eq_iff (hlinks : files.NoLinks) (hpath : Path.isAbsolute path = false)
    (hhere : files.locate follow here path = .ok (location, found)) :
    files.locate follow there path = files.locate follow here path ↔
      AgreeAbove (climbs path) there here ∧
        ∃ result, files.locate follow there path = .ok result := by
  have hplace := hlinks.locate_place hhere
  constructor
  · intro hsame
    rw [hhere] at hsame
    have hother := hlinks.locate_place hsame
    exact ⟨(placeOf_eq_iff hpath).1 (hother.symm.trans hplace), _, hsame⟩
  · rintro ⟨hagree, ⟨other, again⟩, hthere⟩
    obtain rfl : other = location := by
      rw [hlinks.locate_place hthere, hplace]
      exact (placeOf_eq_iff hpath).2 hagree
    rw [hthere, hhere, locate_node hthere, locate_node hhere]

end FileSystem

end Pipewright
