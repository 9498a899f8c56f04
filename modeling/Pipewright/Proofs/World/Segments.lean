import Pipewright.Proofs.World.Parents

set_option autoImplicit false

/-! # Segments

The segments of a text are the pieces between its slashes that are not empty
(`Path.segments_eq_splitOn`). None of them is absolute, so joining them one after the other never
leaves the path it started from: they stand behind it in their order, with one slash between them
(`Path.foldl_join_eq`), and the result has the segments of both (`Path.segments_foldl_join`). -/

namespace Pipewright.Path

/-- Being a piece that is not empty. -/
structure IsSegment (name : String) : Prop where
  ne_empty : name ≠ ""
  noSlash : '/' ∉ name.toList

/-! ## The segments of a text -/

theorem joinSlash_eq_intercalate (pieces : List (List Char)) :
    joinSlash pieces = ['/'].intercalate pieces := by
  induction pieces with
  | nil => rfl
  | cons piece rest ih =>
    cases rest with
    | nil => simp [joinSlash]
    | cons next more =>
      rw [joinSlash, ih, List.intercalate_cons_of_ne_nil (List.cons_ne_nil next more)]
      · simp
      · exact List.cons_ne_nil next more

/-- The pieces of a text are what splitting it at every slash gives. -/
theorem splitSlash_eq_splitOn (text : List Char) : splitSlash text = text.splitOn '/' := by
  have hpieces : ∀ piece ∈ splitSlash text, '/' ∉ piece :=
    fun _ hpiece => noSlash_of_mem_splitSlash hpiece
  have hback := List.splitOn_intercalate '/' hpieces (splitSlash_ne_nil text)
  rw [← joinSlash_eq_intercalate, joinSlash_splitSlash] at hback
  exact hback.symm

theorem segments_eq_splitOn (path : Path) :
    segments path = ((path.toList.splitOn '/').filter (· ≠ [])).map String.ofList := by
  rw [segments, splitSlash_eq_splitOn]

theorem isSegment_of_mem_segments {path : Path} {name : String} (h : name ∈ segments path) :
    IsSegment name := by
  obtain ⟨piece, hpiece, rfl⟩ := List.mem_map.1 h
  obtain ⟨hmem, hsome⟩ := List.mem_filter.1 hpiece
  constructor
  · simpa [← String.toList_inj] using hsome
  · rw [String.toList_ofList]
    exact noSlash_of_mem_splitSlash hmem

theorem segments_empty : segments "" = [] := by decide

/-- A slash separates the segments before it from those behind it. -/
theorem segments_slash {path : Path} {front back : List Char}
    (h : path.toList = front ++ '/' :: back) :
    segments path = segments (String.ofList front) ++ segments (String.ofList back) := by
  simp only [segments, h, splitSlash_append, String.toList_ofList, List.filter_append,
    List.map_append]

theorem IsSegment.segments_eq {name : String} (h : IsSegment name) : segments name = [name] := by
  have hsome : name.toList ≠ [] := by simpa using h.ne_empty
  rw [segments, splitSlash_of_noSlash h.noSlash, List.filter_cons_of_pos (by simpa using hsome)]
  simp

/-! ## Joining segments -/

section Joining

variable {dir : Path} {name : String} {names : List String}

theorem segments_join (dir : Path) (hname : IsSegment name) :
    segments (join dir name) = segments dir ++ [name] := by
  by_cases hdir : dir = ""
  · subst hdir
    have hjoin : join "" name = name := by simp [join, not_isAbsolute_of_noSlash hname.noSlash,
      isEmpty]
    rw [hjoin, hname.segments_eq, segments_empty, List.nil_append]
  · obtain ⟨front, hjoin, hfront⟩ := toList_join hdir hname.noSlash
    have hdirectory : segments dir = segments (String.ofList front) := by
      rcases hfront with hsame | hslash
      · rw [← hsame, String.ofList_toList]
      · rw [segments_slash hslash]
        simp [segments_empty]
    rw [segments_slash hjoin, hdirectory, String.ofList_toList, hname.segments_eq]

theorem segments_foldl_join (dir : Path) (hnames : ∀ name ∈ names, IsSegment name) :
    segments (names.foldl join dir) = segments dir ++ names := by
  induction names generalizing dir with
  | nil => simp
  | cons name rest ih =>
    rw [List.forall_mem_cons] at hnames
    rw [List.foldl_cons, ih (join dir name) hnames.2, segments_join dir hnames.1,
      List.append_assoc, List.singleton_append]

/-- What stands between a path and a name that is joined to it. -/
def separator (dir : Path) : String :=
  if isEmpty dir || endsWithSlash dir then "" else "/"

theorem join_eq_separator (dir : Path) (hname : '/' ∉ name.toList) :
    join dir name = dir ++ separator dir ++ name := by
  unfold join separator
  rw [if_neg (not_isAbsolute_of_noSlash hname)]
  cases isEmpty dir || endsWithSlash dir <;> simp

theorem endsWithSlash_append_segment (front : String) (hname : IsSegment name) :
    endsWithSlash (front ++ name) = false := by
  obtain ⟨last, hlast⟩ : ∃ last, name.toList.getLast? = some last :=
    Option.ne_none_iff_exists'.1 (by simpa using hname.ne_empty)
  have hother : last ≠ '/' := by
    rintro rfl
    exact hname.noSlash (List.mem_of_getLast? hlast)
  rw [endsWithSlash, String.toList_append, List.getLast?_append, hlast]
  simpa using hother

/-- A name that is joined to a segment follows a slash. -/
theorem separator_join (dir : Path) (hname : IsSegment name) :
    separator (join dir name) = "/" := by
  have hjoin : join dir name ≠ "" := join_ne_empty hname.ne_empty
  have hsome : isEmpty (join dir name) = false := by simpa [isEmpty] using hjoin
  rw [separator, hsome, join_eq_separator dir hname.noSlash,
    endsWithSlash_append_segment _ hname]
  rfl

/-- Segments stand behind the path that they are joined to, with slashes between them. -/
theorem foldl_join_eq (dir : Path) (hnames : ∀ name ∈ names, IsSegment name) (hsome : names ≠ []) :
    names.foldl join dir = dir ++ separator dir ++ "/".intercalate names := by
  induction names generalizing dir with
  | nil => exact absurd rfl hsome
  | cons name rest ih =>
    rw [List.forall_mem_cons] at hnames
    rw [List.foldl_cons]
    by_cases hrest : rest = []
    · rw [hrest, List.foldl_nil, join_eq_separator dir hnames.1.noSlash,
        String.intercalate_singleton]
    · rw [ih (join dir name) hnames.2 hrest, separator_join dir hnames.1,
        join_eq_separator dir hnames.1.noSlash, String.intercalate_cons_of_ne_nil hrest]
      simp only [String.append_assoc]

/-- Joining segments gives no slash at the end. -/
theorem endsWithSlash_foldl_join (dir : Path) (hnames : ∀ name ∈ names, IsSegment name)
    (hsome : names ≠ []) : endsWithSlash (names.foldl join dir) = false := by
  obtain ⟨front, last, rfl⟩ := (List.eq_nil_or_concat names).resolve_left hsome
  have hlast := hnames last (by simp)
  rw [List.concat_eq_append, List.foldl_append, List.foldl_cons, List.foldl_nil,
    join_eq_separator _ hlast.noSlash]
  exact endsWithSlash_append_segment _ hlast

theorem isAbsolute_foldl_join (dir : Path) (hnames : ∀ name ∈ names, IsSegment name) :
    isAbsolute (names.foldl join dir) = isAbsolute dir := by
  induction names generalizing dir with
  | nil => rfl
  | cons name rest ih =>
    rw [List.forall_mem_cons] at hnames
    have hname : isAbsolute name = false := by
      simpa using not_isAbsolute_of_noSlash hnames.1.noSlash
    rw [List.foldl_cons, ih (join dir name) hnames.2, isAbsolute_join, hname, Bool.or_false]

end Joining

end Pipewright.Path
