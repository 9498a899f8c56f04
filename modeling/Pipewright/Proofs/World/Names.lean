import Pipewright.World.FileSystem

set_option autoImplicit false

/-! # Names in paths

A path that `Path.join` makes of a directory and the name of an entry has the pieces of the
directory and then the name (`Path.pieces_join`). The last component of a path is such a name, if
`Path.fileName?` gives one (`Path.fileName?_isEntry`). -/

namespace Pipewright

namespace Path

theorem splitSlash_ne_nil (text : List Char) : splitSlash text ≠ [] := by
  cases text with
  | nil => simp [splitSlash]
  | cons c rest =>
    unfold splitSlash
    split
    · simp
    · split <;> simp

/-- A slash separates the pieces before it from those behind it. -/
theorem splitSlash_append (front back : List Char) :
    splitSlash (front ++ '/' :: back) = splitSlash front ++ splitSlash back := by
  induction front with
  | nil => simp [splitSlash]
  | cons c front ih =>
    obtain ⟨piece, pieces, hsplit⟩ := List.exists_cons_of_ne_nil (splitSlash_ne_nil front)
    by_cases hc : c = '/'
    · simp [splitSlash, hc, ih]
    · simp [splitSlash, hc, ih, hsplit]

theorem splitSlash_of_noSlash {text : List Char} (h : '/' ∉ text) : splitSlash text = [text] := by
  induction text with
  | nil => rfl
  | cons c rest ih =>
    rw [List.mem_cons, not_or] at h
    simp [splitSlash, Ne.symm h.1, ih h.2]

theorem noSlash_of_mem_splitSlash {text piece : List Char} (h : piece ∈ splitSlash text) :
    '/' ∉ piece := by
  induction text generalizing piece with
  | nil =>
    obtain rfl := List.mem_singleton.1 h
    exact List.not_mem_nil
  | cons c rest ih =>
    obtain ⟨first, more, hsplit⟩ := List.exists_cons_of_ne_nil (splitSlash_ne_nil rest)
    rw [hsplit] at ih
    by_cases hc : c = '/'
    · simp only [splitSlash, hc, if_true, hsplit, List.mem_cons] at h
      rcases h with rfl | h
      · exact List.not_mem_nil
      · exact ih (List.mem_cons.2 h)
    · simp only [splitSlash, hc, if_false, hsplit, List.mem_cons] at h
      rcases h with rfl | h
      · rw [List.mem_cons, not_or]
        exact ⟨Ne.symm hc, ih List.mem_cons_self⟩
      · exact ih (List.mem_cons_of_mem _ h)

theorem mem_of_mem_dropSkipped {piece : List Char} {pieces : List (List Char)}
    (h : piece ∈ dropSkipped pieces) : piece ∈ pieces := by
  fun_induction dropSkipped pieces with
  | case1 | case2 | case4 => exact h
  | case3 first before _ _ ih => exact List.mem_cons_of_mem _ (ih h)

/-- Being the name of an entry of a directory. -/
structure IsEntry (name : String) : Prop where
  noSlash : '/' ∉ name.toList
  notHere : ¬ FileSystem.isHere name
  notUp : name ≠ ".."

theorem IsEntry.ne_empty {name : String} (h : IsEntry name) : name ≠ "" := by
  rintro rfl
  exact h.notHere (by decide)

theorem IsEntry.not_blank {name : String} (h : IsEntry name) : ¬ [name].all (· = "") := by
  simpa using h.ne_empty

/-- The last component of a path, if it is a name, is that of an entry. -/
theorem fileName?_isEntry {path : Path} {name : String} (h : fileName? path = some name) :
    IsEntry name := by
  unfold fileName? at h
  split at h
  · next last before hlast =>
    split at h
    · cases h
    · next hplain =>
      cases h
      simp only [Bool.or_eq_true, decide_eq_true_eq, not_or] at hplain
      unfold splitLast at hlast
      split at hlast
      · cases hlast
      · next first more hdrop =>
        split at hlast
        · cases hlast
        · next hsome =>
          cases hlast
          have hmem : last ∈ splitSlash path.toList :=
            List.mem_reverse.1 (mem_of_mem_dropSkipped (hdrop ▸ List.mem_cons_self))
          refine ⟨?_, ?_, ?_⟩
          · rw [String.toList_ofList]
            exact noSlash_of_mem_splitSlash hmem
          · simp [FileSystem.isHere, ← String.toList_inj, hsome, hplain]
          · simp [← String.toList_inj, hplain]
  · cases h

theorem not_isAbsolute_of_noSlash {name : String} (hname : '/' ∉ name.toList) :
    ¬ isAbsolute name := by
  simp only [isAbsolute, decide_eq_true_eq]
  exact fun habsolute => hname (List.mem_of_mem_head? habsolute)

theorem join_ne_empty {base path : Path} (h : path ≠ "") : join base path ≠ "" := by
  unfold join
  split
  · exact h
  · split <;> rw [ne_eq, ← String.toList_inj] <;> simp [h]

/-- A path is absolute when it is taken from an absolute one, or is so itself. -/
theorem isAbsolute_join (base path : Path) :
    isAbsolute (join base path) = (isAbsolute base || isAbsolute path) := by
  cases hpath : isAbsolute path with
  | true => simp [join, hpath]
  | false =>
    have hnot : path.toList.head? ≠ some '/' := by simpa [isAbsolute] using hpath
    cases hchars : base.toList with
    | nil => simp [join, isEmpty, hchars, isAbsolute, hnot]
    | cons c rest =>
      unfold join
      rw [hpath]
      cases isEmpty base || endsWithSlash base <;> simp [isAbsolute, hchars]
/-- Entries of a directory with different names have different paths. -/
theorem join_inj {dir name other : String} (hname : '/' ∉ name.toList)
    (hother : '/' ∉ other.toList) : join dir name = join dir other ↔ name = other := by
  refine ⟨fun h => ?_, fun h => by rw [h]⟩
  unfold join at h
  rw [if_neg (not_isAbsolute_of_noSlash hname), if_neg (not_isAbsolute_of_noSlash hother)] at h
  split at h <;> simpa [← String.toList_inj] using h

/-- A path into a directory starts with that of the directory. -/
theorem join_eq_append {name : String} (dir : Path) (hname : '/' ∉ name.toList) :
    ∃ rest, join dir name = dir ++ rest := by
  unfold join
  rw [if_neg (not_isAbsolute_of_noSlash hname)]
  split
  · exact ⟨name, rfl⟩
  · exact ⟨"/" ++ name, String.append_assoc ..⟩

/-- The name of an entry stands behind the path of the directory and one slash. -/
theorem toList_join {dir : Path} {name : String} (hdir : dir ≠ "") (hname : '/' ∉ name.toList) :
    ∃ front, (join dir name).toList = front ++ '/' :: name.toList ∧
      (dir.toList = front ∨ dir.toList = front ++ ['/']) := by
  have hsome : ¬ isEmpty dir := by simpa [isEmpty] using hdir
  unfold join
  rw [if_neg (not_isAbsolute_of_noSlash hname)]
  cases hslash : endsWithSlash dir with
  | true =>
    obtain ⟨front, hfront⟩ : ∃ front, dir.toList = front ++ ['/'] := by
      simpa [endsWithSlash, List.getLast?_eq_some_iff] using hslash
    refine ⟨front, ?_, .inr hfront⟩
    rw [if_pos (by simp), String.toList_append, hfront, List.append_assoc]
    rfl
  | false =>
    refine ⟨dir.toList, ?_, .inl rfl⟩
    rw [if_neg (by simpa using hsome), String.toList_append, String.toList_append,
      List.append_assoc]
    rfl

/-- The pieces of a path into a directory are those of the directory and the name, but for a slash
    at the end of the directory. -/
theorem pieces_join {dir : Path} {name : String} (hdir : dir ≠ "") (hname : '/' ∉ name.toList) :
    FileSystem.pieces (join dir name) = FileSystem.pieces dir ++ [name] ∨
    ∃ front, FileSystem.pieces dir = front ++ [""] ∧
      FileSystem.pieces (join dir name) = front ++ [name] := by
  obtain ⟨front, hjoin, hfront⟩ := toList_join hdir hname
  have hpieces : FileSystem.pieces (join dir name) =
      (splitSlash front).map String.ofList ++ [name] := by
    rw [FileSystem.pieces, hjoin, splitSlash_append, splitSlash_of_noSlash hname]
    simp
  unfold FileSystem.pieces at hpieces ⊢
  rcases hfront with rfl | hslash
  · exact .inl hpieces
  · refine .inr ⟨_, ?_, hpieces⟩
    rw [hslash, splitSlash_append]
    simp [splitSlash]

end Path

end Pipewright
