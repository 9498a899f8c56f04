import Pipewright.Proofs.World.Entries

set_option autoImplicit false

/-! # The path above

`Path.parent?` takes the last component off a path, with the pieces around it that are no
components. What is left is the front of the path (`Path.parent?_front`), so a path that leads
anywhere leads there by way of the directory that the path above names (`isDirectory_parent`). Above
the path that `Path.join` makes for an entry is one that names the directory of the entry
(`NoLinks.locate_parent`). -/

namespace Pipewright

namespace Path

theorem joinSlash_splitSlash (text : List Char) : joinSlash (splitSlash text) = text := by
  induction text with
  | nil => rfl
  | cons c rest ih =>
    obtain ⟨piece, pieces, hsplit⟩ := List.exists_cons_of_ne_nil (splitSlash_ne_nil rest)
    rw [hsplit] at ih
    by_cases hc : c = '/'
    · subst hc
      simp [splitSlash, hsplit, joinSlash, ih]
    · cases pieces with
      | nil => simp_all [splitSlash, joinSlash]
      | cons next more => simp_all [splitSlash, joinSlash]

theorem joinSlash_append {front back : List (List Char)} (hfront : front ≠ []) (hback : back ≠ []) :
    joinSlash (front ++ back) = joinSlash front ++ '/' :: joinSlash back := by
  induction front with
  | nil => exact absurd rfl hfront
  | cons piece front ih =>
    cases front with
    | nil =>
      obtain ⟨next, more, rfl⟩ := List.exists_cons_of_ne_nil hback
      rfl
    | cons next more =>
      have hmore := ih (List.cons_ne_nil next more)
      simp only [List.cons_append, joinSlash] at hmore ⊢
      rw [hmore]
      simp

/-- Pieces without slashes are found again between the slashes. -/
theorem splitSlash_joinSlash {pieces : List (List Char)} (hpieces : pieces ≠ [])
    (hslash : ∀ piece ∈ pieces, '/' ∉ piece) : splitSlash (joinSlash pieces) = pieces := by
  induction pieces with
  | nil => exact absurd rfl hpieces
  | cons piece pieces ih =>
    rw [List.forall_mem_cons] at hslash
    cases pieces with
    | nil => exact splitSlash_of_noSlash hslash.1
    | cons next more =>
      simp only [joinSlash]
      rw [splitSlash_append, splitSlash_of_noSlash hslash.1,
        ih (List.cons_ne_nil next more) hslash.2]
      rfl

/-- What is dropped stands in front. -/
theorem dropSkipped_suffix (pieces : List (List Char)) :
    ∃ skipped, pieces = skipped ++ dropSkipped pieces := by
  fun_induction dropSkipped pieces with
  | case1 | case2 | case4 => exact ⟨[], rfl⟩
  | case3 piece before _ _ ih =>
    obtain ⟨skipped, hskipped⟩ := ih
    exact ⟨piece :: skipped, congrArg _ hskipped⟩

theorem dropSkipped_ne_nil {pieces : List (List Char)} (h : pieces ≠ []) :
    dropSkipped pieces ≠ [] := by
  fun_induction dropSkipped pieces with
  | case1 => exact absurd rfl h
  | case2 | case4 => exact List.cons_ne_nil _ _
  | case3 piece before hbefore _ ih =>
    exact ih hbefore

theorem joinSlash_ne_nil {pieces : List (List Char)} (hpieces : pieces ≠ [])
    (hroot : pieces ≠ [[]]) : joinSlash pieces ≠ [] := by
  match pieces with
  | [] => exact absurd rfl hpieces
  | [piece] =>
    intro hnil
    have hpiece : piece = [] := hnil
    rw [hpiece] at hroot
    exact hroot rfl
  | piece :: next :: more => simp [joinSlash]

/-- The pieces of a path are those that are kept in front, and then the last component with the
    pieces around it that are none. -/
theorem splitLast_pieces {path : Path} {last : List Char} {before : List (List Char)}
    (h : splitLast path = some (last, before)) :
    ∃ more, splitSlash path.toList = (dropSkipped before).reverse ++ more ∧ last ∈ more ∧
      last ≠ [] := by
  unfold splitLast at h
  split at h
  · cases h
  · next first rest hdrop =>
    split at h
    · cases h
    · next hsome =>
      cases h
      obtain ⟨behind, hbehind⟩ := dropSkipped_suffix (splitSlash path.toList).reverse
      obtain ⟨between, hbetween⟩ := dropSkipped_suffix before
      rw [hdrop] at hbehind
      refine ⟨between.reverse ++ last :: behind.reverse, ?_, by simp, hsome⟩
      have hsplit := congrArg List.reverse hbehind
      rw [List.reverse_reverse, List.reverse_append, List.reverse_cons] at hsplit
      have hfront := congrArg List.reverse hbetween
      rw [List.reverse_append] at hfront
      rw [hsplit, hfront]
      simp

/-- A path that is nothing but its last component is relative. -/
theorem isAbsolute_of_splitLast {path : Path} {last : List Char}
    (h : splitLast path = some (last, [])) : isAbsolute path = false := by
  unfold splitLast at h
  split at h
  · cases h
  · next first rest hdrop =>
    split at h
    · cases h
    · next hsome =>
      cases h
      obtain ⟨behind, hbehind⟩ := dropSkipped_suffix (splitSlash path.toList).reverse
      have hsplit := congrArg List.reverse hbehind
      rw [hdrop, List.reverse_reverse, List.reverse_append] at hsplit
      unfold isAbsolute
      cases hchars : path.toList with
      | nil => rfl
      | cons c chars =>
        rw [hchars] at hsplit
        by_cases hc : c = '/'
        · rw [hc, splitSlash, if_pos rfl] at hsplit
          exact absurd (List.cons.inj hsplit).1.symm hsome
        · simpa using hc

/-- The path above is empty, for a relative path, or the root, or the front of the path. -/
theorem parent?_front {path parent : Path} (h : parent? path = some parent) :
    parent = "" ∧ isAbsolute path = false ∨ parent = "/" ∨
      (∃ rest, path = parent ++ rest) ∧ parent ≠ "" ∧ isAbsolute parent = isAbsolute path ∧
        ∃ more, FileSystem.pieces path = FileSystem.pieces parent ++ more ∧
          ¬ more.all (· = "") := by
  unfold parent? at h
  obtain ⟨⟨last, before⟩, hlast, hparent⟩ := Option.map_eq_some_iff.mp h
  obtain ⟨more, hsplit, hmem, hsome⟩ := splitLast_pieces hlast
  have hmore : more ≠ [] := List.ne_nil_of_mem hmem
  by_cases hbefore : before = []
  · subst hbefore
    exact .inl ⟨hparent.symm, isAbsolute_of_splitLast hlast⟩
  have hkept := dropSkipped_ne_nil hbefore
  have hnamed : ofReversed (dropSkipped before) = parent := by
    cases before with
    | nil => exact absurd rfl hbefore
    | cons piece rest => exact hparent
  by_cases hroot : dropSkipped before = [[]]
  · rw [hroot] at hnamed
    exact .inr (.inl hnamed.symm)
  have htext : parent.toList = joinSlash (dropSkipped before).reverse := by
    rw [← hnamed, ofReversed]
    · exact String.toList_ofList
    · exact hroot
  have hne : joinSlash (dropSkipped before).reverse ≠ [] := joinSlash_ne_nil (by simpa) (by simpa)
  have hpath : path.toList = parent.toList ++ '/' :: joinSlash more := by
    rw [htext, ← joinSlash_append (by simpa) hmore, ← hsplit, joinSlash_splitSlash]
  refine .inr (.inr ⟨⟨String.ofList ('/' :: joinSlash more), ?_⟩, ?_, ?_,
    more.map String.ofList, ?_, ?_⟩)
  · rw [← String.toList_inj, hpath]
    simp
  · rw [ne_eq, ← String.toList_inj, htext]
    exact hne
  · rw [← htext] at hne
    obtain ⟨c, rest, hchars⟩ := List.exists_cons_of_ne_nil hne
    simp [isAbsolute, hpath, hchars]
  · have hslash : ∀ piece ∈ (dropSkipped before).reverse, '/' ∉ piece := by
      intro piece hpiece
      have hin : piece ∈ splitSlash path.toList := hsplit ▸ List.mem_append_left more hpiece
      exact noSlash_of_mem_splitSlash hin
    unfold FileSystem.pieces
    rw [hsplit, htext, splitSlash_joinSlash (by simpa) hslash, List.map_append]
  · intro hblank
    rw [List.all_map, List.all_eq_true] at hblank
    have hempty : String.ofList last = "" := by simpa using hblank last hmem
    rw [← String.toList_inj, String.toList_ofList] at hempty
    exact hsome hempty

/-! ## Above an entry -/

section Entry

variable {dir : Path} {name : String}

theorem IsEntry.not_isSkipped (h : IsEntry name) : isSkipped name.toList = false := by
  have hhere := h.notHere
  simp only [FileSystem.isHere, ← String.toList_inj, Bool.or_eq_true, decide_eq_true_eq] at hhere
  simpa [isSkipped] using hhere

/-- A path is absolute when it has an empty piece in front of others. -/
theorem isAbsolute_iff {path : Path} :
    isAbsolute path = true ↔ ∃ piece more, splitSlash path.toList = [] :: piece :: more := by
  unfold isAbsolute
  cases path.toList with
  | nil => simp [splitSlash]
  | cons c rest =>
    obtain ⟨piece, more, hsplit⟩ := List.exists_cons_of_ne_nil (splitSlash_ne_nil rest)
    by_cases hc : c = '/' <;> simp [splitSlash, hc, hsplit]

/-- The path of an entry is taken apart at its name. -/
theorem splitLast_join (hdir : dir ≠ "") (hname : IsEntry name) :
    ∃ before, before ≠ [] ∧ splitLast (join dir name) = some (name.toList, before) ∧
      splitSlash (join dir name).toList = before.reverse ++ [name.toList] := by
  obtain ⟨front, hfront, -⟩ := toList_join hdir hname.noSlash
  have hsplit : splitSlash (join dir name).toList = splitSlash front ++ [name.toList] := by
    rw [hfront, splitSlash_append, splitSlash_of_noSlash hname.noSlash]
  have hbefore : (splitSlash front).reverse ≠ [] := by simpa using splitSlash_ne_nil front
  refine ⟨(splitSlash front).reverse, hbefore, ?_, by rw [List.reverse_reverse, hsplit]⟩
  unfold splitLast
  rw [hsplit, List.reverse_append, List.reverse_singleton]
  obtain ⟨piece, more, hmore⟩ := List.exists_cons_of_ne_nil hbefore
  have hname' : name.toList ≠ [] := by simpa using hname.ne_empty
  rw [hmore]
  simp [dropSkipped, hname.not_isSkipped, hname']

/-- Pieces that are no components lead nowhere else. -/
theorem foldl_goOn_dropSkipped (here : Location) (pieces : List (List Char)) :
    ((dropSkipped pieces).reverse.map String.ofList).foldl FileSystem.goOn here =
      (pieces.reverse.map String.ofList).foldl FileSystem.goOn here := by
  fun_induction dropSkipped pieces with
  | case1 | case2 | case4 => rfl
  | case3 piece before hbefore hskipped ih =>
    have hhere : FileSystem.isHere (String.ofList piece) := by
      have hpiece : piece = [] ∨ piece = ['.'] := by simpa [isSkipped] using hskipped
      rcases hpiece with rfl | rfl <;> decide
    rw [ih, List.reverse_cons, List.map_append, List.foldl_append]
    exact (FileSystem.goOn_here hhere).symm

theorem ofReversed_ne_empty {kept : List (List Char)} (hkept : kept ≠ []) :
    ofReversed kept ≠ "" := by
  by_cases hroot : kept = [[]]
  · subst hroot
    decide +kernel
  · rw [ofReversed, ne_eq, ← String.toList_inj, String.toList_ofList]
    · exact joinSlash_ne_nil (by simpa) (by simpa)
    · exact hroot

/-- The path of what stands in front leads where that leads. -/
theorem placeOf_ofReversed {path : Path} {kept rest : List (List Char)}
    (hsplit : splitSlash path.toList = kept.reverse ++ rest) (hkept : kept ≠ []) (hrest : rest ≠ [])
    (directory : Location) :
    FileSystem.placeOf directory (ofReversed kept) =
      (kept.reverse.map String.ofList).foldl FileSystem.goOn
        (if isAbsolute path then [] else directory) := by
  obtain ⟨next, more, rfl⟩ := List.exists_cons_of_ne_nil hrest
  obtain ⟨first, behind, hfirst⟩ := List.exists_cons_of_ne_nil (List.reverse_ne_nil_iff.2 hkept)
  rw [hfirst] at hsplit ⊢
  by_cases hroot : kept = [[]]
  · subst hroot
    cases hfirst
    have habsolute : isAbsolute path = true := isAbsolute_iff.2 ⟨next, more, hsplit⟩
    have hpieces : FileSystem.pieces "/" = ["", ""] := by decide +kernel
    have hslash : isAbsolute "/" = true := by decide +kernel
    rw [habsolute, ofReversed, FileSystem.placeOf, hpieces, hslash]
    rfl
  have hslash : ∀ piece ∈ first :: behind, '/' ∉ piece := fun piece hpiece =>
    noSlash_of_mem_splitSlash (hsplit ▸ List.mem_append_left _ hpiece)
  have htext : splitSlash (ofReversed kept).toList = first :: behind := by
    rw [ofReversed, String.toList_ofList, hfirst]
    · exact splitSlash_joinSlash (List.cons_ne_nil _ _) hslash
    · exact hroot
  have habsolute : isAbsolute (ofReversed kept) = isAbsolute path := by
    rw [Bool.eq_iff_iff, isAbsolute_iff, isAbsolute_iff, htext, hsplit]
    cases behind with
    | nil =>
      -- a single piece in front is the root if it is empty
      have hfirst' : first ≠ [] := by
        rintro rfl
        exact hroot (List.reverse_eq_iff.1 hfirst)
      simp [hfirst']
    | cons piece behind => simp
  unfold FileSystem.placeOf FileSystem.pieces
  rw [htext, habsolute]

/-- The path above that of an entry names the directory that the entry is in. -/
theorem parent?_join (hdir : dir ≠ "") (hname : IsEntry name) :
    ∃ parent, parent? (join dir name) = some parent ∧ parent ≠ "" ∧ ∀ directory,
      FileSystem.placeOf directory (join dir name) =
        FileSystem.placeOf directory parent ++ [name] := by
  obtain ⟨before, hbefore, hlast, hsplit⟩ := splitLast_join hdir hname
  have hparent : parent? (join dir name) = some (ofReversed (dropSkipped before)) := by
    unfold parent?
    rw [hlast]
    cases before with
    | nil => exact absurd rfl hbefore
    | cons piece more => rfl
  refine ⟨_, hparent, ofReversed_ne_empty (dropSkipped_ne_nil hbefore), fun directory => ?_⟩
  obtain ⟨skipped, hskipped⟩ := dropSkipped_suffix before
  have hpieces : splitSlash (join dir name).toList =
      (dropSkipped before).reverse ++ (skipped.reverse ++ [name.toList]) := by
    rw [hsplit, ← List.append_assoc, ← List.reverse_append, ← hskipped]
  rw [placeOf_ofReversed hpieces (dropSkipped_ne_nil hbefore) (by simp),
    foldl_goOn_dropSkipped, FileSystem.placeOf, FileSystem.pieces, hsplit, List.map_append,
    List.foldl_append, ← FileSystem.goOn_name hname.notHere hname.notUp]
  simp

end Entry

end Path

namespace FileSystem

variable {files : FileSystem} {directory location : Location} {path parent : Path}

theorem isDirectory_iff : files.isDirectory directory path = true ↔
    ∃ place, files.locate true directory path = .ok (place, some .directory) := by
  unfold isDirectory stat
  split
  · next h =>
    split at h
    · next place node hlocate =>
      cases h
      simp [hlocate]
    · cases h
    · cases h
  · next h =>
    simp only [Bool.false_eq_true, false_iff, not_exists]
    rintro place hlocate
    simp [hlocate] at h

theorem exists?_of_isDirectory (h : files.isDirectory directory path) :
    files.exists? directory path = .ok true := by
  obtain ⟨place, hplace⟩ := isDirectory_iff.mp h
  unfold exists? stat
  rw [hplace]

theorem locate_root : files.locate true directory "/" = .ok ([], some .directory) := by
  have hpieces : pieces "/" = ["", ""] := by decide +kernel
  have habsolute : Path.isAbsolute "/" = true := by decide +kernel
  unfold locate
  rw [if_neg (by decide), if_neg (by decide +kernel), habsolute, if_pos rfl, hpieces]
  exact walk_blank rfl (by simp)

/-- A path that leads anywhere leads there by way of the directory that the path above names. -/
theorem isDirectory_parent {found : Option Node} (hparent : Path.parent? path = some parent)
    (hsome : parent ≠ "") (h : files.locate true directory path = .ok (location, found)) :
    files.isDirectory directory parent = true := by
  rw [isDirectory_iff]
  rcases Path.parent?_front hparent with
    ⟨hempty, -⟩ | rfl | ⟨⟨rest, hrest⟩, -, habsolute, more, hpieces, hmore⟩
  · exact absurd hempty hsome
  · exact ⟨[], locate_root⟩
  · unfold locate at h ⊢
    rw [if_neg hsome]
    split at h
    · cases h
    · split at h
      · cases h
      · next hshort =>
        rw [hrest, String.utf8ByteSize_append] at hshort
        rw [if_neg (by omega), habsolute]
        rw [hpieces] at h
        rcases walk_append files linkLimit (if Path.isAbsolute path then [] else directory)
          (pieces parent) with ⟨place, left, hplace, -⟩ | ⟨-, e, hfails⟩
        · exact ⟨place, hplace⟩
        · rw [hfails more hmore] at h
          cases h

/-- Where nothing is a link, the path above that of an entry names the directory of the entry. -/
theorem NoLinks.locate_parent {dir : Path} {place : Location} {name : String}
    (hlinks : files.NoLinks) (h : files.Contains directory dir place name) :
    ∃ parent, Path.parent? (Path.join dir name) = some parent ∧
      files.locate true directory parent = .ok (place, some .directory) := by
  have hdir : dir ≠ "" := by
    rintro rfl
    cases h.located
  obtain ⟨parent, hparent, hsome, hjoin⟩ := Path.parent?_join hdir h.isEntry
  have hentry := h.locate fun target => hlinks _ target
  obtain ⟨above, habove⟩ := isDirectory_iff.1 (isDirectory_parent hparent hsome hentry)
  -- both are where their texts say
  have hplace : place ++ [name] = above ++ [name] := by
    rw [hlinks.locate_place hentry, hlinks.locate_place habove, hjoin]
  exact ⟨parent, hparent, List.append_cancel_right hplace ▸ habove⟩

end FileSystem

end Pipewright
