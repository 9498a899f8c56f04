import Pipewright.Json.Printer
import Pipewright.Proofs.Mapping.Resolution

set_option autoImplicit false

/-! # Who is to blame

Documents that load and do not agree raise one conflict. Of the bindings that they ask for, in the
order of the documents and of their entries, it names the earliest that disagrees with one before
it, and against it the first binding of the same URN, whatever has confirmed that one since.

`ofDocuments_blame` says so of `MappingTable.ofDocuments`. There is never more than one conflict to
blame (`Blames.unique`), and it arises in the first document that breaks the agreement of those
before it (`exists_first_disagreeing`). -/

namespace Pipewright

open Pipewright.Action

/-- What a document asks for is named after it. -/
theorem MappingDocument.document_of_mem_bindings {origin : Path} {document : MappingDocument}
    {binding : Binding} (h : binding ∈ document.bindings origin) : binding.document = origin := by
  obtain ⟨entry, -, rfl⟩ := List.mem_map.1 h
  rfl

theorem bindingsOf_append (as bs : List (Path × MappingDocument)) :
    bindingsOf (as ++ bs) = bindingsOf as ++ bindingsOf bs :=
  List.flatMap_append

theorem bindingsOf_cons (path : Path) (document : MappingDocument)
    (rest : List (Path × MappingDocument)) :
    bindingsOf ((path, document) :: rest) = document.bindings path ++ bindingsOf rest :=
  List.flatMap_cons

/-! ## One conflict -/

/-- Bindings behind those that raise a conflict change nothing about it. -/
theorem Blames.append {bindings : List Binding} {conflict : Conflict}
    (h : Blames bindings conflict) (more : List Binding) : Blames (bindings ++ more) conflict := by
  obtain ⟨earlier, later, rfl, hrest⟩ := h
  refine ⟨earlier, later ++ more, ?_, hrest⟩
  rw [List.append_assoc, List.cons_append]

/-- There is no more than one conflict to blame. -/
theorem Blames.unique {bindings : List Binding} {a b : Conflict} (ha : Blames bindings a)
    (hb : Blames bindings b) : a = b := by
  obtain ⟨earlier, later, rfl, hcons, hfirst, hne⟩ := ha
  obtain ⟨good, later', hsplit, hgood, hfirst', -⟩ := hb.in_second hcons
  cases good with
  | nil =>
    -- both are about the same binding, and so about the first one of its URN
    obtain ⟨hsame, -⟩ := List.cons.inj hsplit
    obtain ⟨hurn, hpkg, hdocument⟩ := Binding.mk.inj hsame
    rw [List.append_nil, ← hurn, hfirst, Option.some.injEq] at hfirst'
    obtain ⟨-, hexisting, horigin⟩ := Binding.mk.inj hfirst'
    cases a
    cases b
    rw [Conflict.mk.injEq]
    exact ⟨hurn, hexisting, horigin, hpkg, hdocument⟩
  | cons binding good =>
    -- the binding of the one would stand among those that agree for the other
    obtain ⟨rfl, -⟩ := List.cons.inj hsplit
    exact absurd hgood (Blames.not_consistent ⟨earlier, good, rfl, hcons, hfirst, hne⟩)

/-! ## Where it arises -/

/-- Of documents that do not agree, one is the first that does not agree with those before it. -/
theorem exists_first_disagreeing {loaded : List (Path × MappingDocument)}
    (h : ¬ Consistent (bindingsOf loaded)) :
    ∃ before path document after, loaded = before ++ (path, document) :: after ∧
      Consistent (bindingsOf before) ∧
      ¬ Consistent (bindingsOf before ++ document.bindings path) := by
  -- on the documents from the last one back: it is to blame unless those before it are
  induction loaded using List.reverseRecOn with
  | nil => exact absurd consistent_nil h
  | append_singleton loaded last ih =>
    by_cases hcons : Consistent (bindingsOf loaded)
    · rw [bindingsOf_append_singleton] at h
      exact ⟨loaded, last.1, last.2, [], rfl, hcons, h⟩
    · obtain ⟨before, path, document, after, rfl, hrest⟩ := ih hcons
      exact ⟨before, path, document, after ++ [last], by simp, hrest⟩

/-- The conflict of a document with those before it names this document, and one of its entries. -/
theorem Blames.in_document {bindings : List Binding} {path : Path} {document : MappingDocument}
    {conflict : Conflict} (hcons : Consistent bindings)
    (h : Blames (bindings ++ document.bindings path) conflict) :
    conflict.document = path ∧ ⟨conflict.urn, conflict.conflictingPackage⟩ ∈ document.entries := by
  obtain ⟨good, later, hsplit, -⟩ := h.in_second hcons
  have hmem : ⟨conflict.urn, conflict.conflictingPackage, conflict.document⟩ ∈
      document.bindings path := by
    rw [hsplit]
    exact List.mem_append_right _ (List.mem_cons_self ..)
  obtain ⟨⟨urn, pkg⟩, hentry, heq⟩ := List.mem_map.1 hmem
  obtain ⟨rfl, rfl, hpath⟩ := Binding.mk.inj heq
  exact ⟨hpath.symm, hentry⟩

/-- Where no document before has the URN, the document is in conflict with itself. -/
theorem Blames.inside_document {bindings : List Binding} {path : Path} {document : MappingDocument}
    {conflict : Conflict} (hcons : Consistent bindings)
    (h : Blames (bindings ++ document.bindings path) conflict)
    (hnew : ∀ b ∈ bindings, b.urn ≠ conflict.urn) : conflict.existingDocument = path := by
  obtain ⟨good, later, hsplit, -, hfirst, -⟩ := h.in_second hcons
  obtain ⟨hmem, -⟩ := mem_of_firstOf hfirst
  rcases List.mem_append.1 hmem with hbefore | hgood
  · exact absurd rfl (hnew _ hbefore)
  · have hown : _ ∈ document.bindings path := hsplit ▸ List.mem_append_left _ hgood
    exact MappingDocument.document_of_mem_bindings hown

/-! ## The conflict of documents -/

/-- Documents that load and do not agree are refused at the first that does not agree with those
    before it. -/
theorem LoadedIn.ofDocuments_conflict {world : World} {documents : List Path}
    {loaded : List (Path × MappingDocument)} (h : LoadedIn world documents loaded)
    (hnot : ¬ Consistent (bindingsOf loaded)) :
    ∃ before path document after conflict world', loaded = before ++ (path, document) :: after ∧
      Consistent (bindingsOf before) ∧
      Blames (bindingsOf before ++ document.bindings path) conflict ∧
      (MappingTable.ofDocuments MappingDocument.load documents).runOn world =
        (.error (.conflictingMapping conflict), world') := by
  obtain ⟨before, path, document, after, rfl, hcons, hbreaks⟩ := exists_first_disagreeing hnot
  obtain ⟨conflict, hblames⟩ := (consistent_or_blames _).resolve_left hbreaks
  obtain ⟨rfl, hload⟩ := h
  have hbefore : LoadedIn world (before.map Prod.fst) before :=
    ⟨rfl, fun d hd => hload d (List.mem_append_left _ hd)⟩
  have hdocument : ((MappingDocument.load path).runOn world).1 = .ok document :=
    hload (path, document) (List.mem_append_right _ (List.mem_cons_self ..))
  obtain ⟨world', hrun⟩ :=
    ofDocuments_conflicting (after.map Prod.fst) hbefore hcons hdocument hblames
  rw [List.map_append, List.map_cons]
  exact ⟨before, path, document, after, conflict, world', rfl, hcons, hblames, hrun⟩

/-- **Who is to blame.** Documents that load, two entries of which bind a URN to different import
    paths, raise the conflict of the earliest binding that disagrees with one before it. It names
    the document that this binding stands in, and the import path and the document of the very
    first binding of the URN; this is the same document if no document before it has the URN. -/
theorem ofDocuments_blame {world : World} {documents : List Path}
    {loaded : List (Path × MappingDocument)} (hloaded : LoadedIn world documents loaded)
    (hdisagree : ∃ a ∈ bindingsOf loaded, ∃ b ∈ bindingsOf loaded, a.urn = b.urn ∧ a.pkg ≠ b.pkg) :
    ∃ conflict,
      ((MappingTable.ofDocuments MappingDocument.load documents).runOn world).1 =
        .error (.conflictingMapping conflict) ∧
      Blames (bindingsOf loaded) conflict ∧
      (∀ other, Blames (bindingsOf loaded) other → other = conflict) ∧
      ∃ before path document after, loaded = before ++ (path, document) :: after ∧
        Consistent (bindingsOf before) ∧ conflict.document = path ∧
        ⟨conflict.urn, conflict.conflictingPackage⟩ ∈ document.entries ∧
        ((∀ b ∈ bindingsOf before, b.urn ≠ conflict.urn) → conflict.existingDocument = path) := by
  obtain ⟨a, ha, b, hb, hurn, hne⟩ := hdisagree
  have hnot : ¬ Consistent (bindingsOf loaded) := fun hcons => hne (hcons a ha b hb hurn)
  obtain ⟨before, path, document, after, conflict, world', rfl, hcons, hblames, hrun⟩ :=
    hloaded.ofDocuments_conflict hnot
  have hall : Blames (bindingsOf (before ++ (path, document) :: after)) conflict := by
    rw [bindingsOf_append, bindingsOf_cons, ← List.append_assoc]
    exact hblames.append (bindingsOf after)
  obtain ⟨horigin, hentry⟩ := hblames.in_document hcons
  exact ⟨conflict, by rw [hrun], hall, fun other hother => hother.unique hall, before, path,
    document, after, rfl, hcons, horigin, hentry, hblames.inside_document hcons⟩

/-- The third document is in conflict with the first, which the second one has confirmed. -/
theorem ofDocuments_blame_confirmed :
    let one : MappingDocument := ⟨[⟨"urn:a", "pkg/x"⟩]⟩
    let two : MappingDocument := ⟨[⟨"urn:b", "pkg/y"⟩, ⟨"urn:a", "pkg/x"⟩]⟩
    let three : MappingDocument := ⟨[⟨"urn:a", "pkg/y"⟩, ⟨"urn:b", "pkg/x"⟩]⟩
    let file := fun document : MappingDocument =>
      Node.file (Text.Utf8.encode document.toJson.compact) false
    let world := World.fresh [(["one"], file one), (["two"], file two), (["three"], file three)]
    LoadedIn world ["/one", "/two", "/three"] [("/one", one), ("/two", two), ("/three", three)] ∧
      ((MappingTable.ofDocuments MappingDocument.load ["/one", "/two", "/three"]).runOn world).1 =
        .error (.conflictingMapping ⟨"urn:a", "pkg/x", "/one", "pkg/y", "/three"⟩) := by
  intro one two three file world
  have hloaded : LoadedIn world ["/one", "/two", "/three"]
      [("/one", one), ("/two", two), ("/three", three)] := by
    refine ⟨rfl, ?_⟩
    simp only [List.forall_mem_cons]
    refine ⟨?_, ?_, ?_, ?_⟩
    · decide +kernel
    · decide +kernel
    · decide +kernel
    · simp
  obtain ⟨conflict, hrun, -, hunique, -⟩ := ofDocuments_blame hloaded
    ⟨⟨"urn:a", "pkg/x", "/one"⟩, by decide, ⟨"urn:a", "pkg/y", "/three"⟩, by decide, by decide⟩
  have hblames : Blames (bindingsOf [("/one", one), ("/two", two), ("/three", three)])
      ⟨"urn:a", "pkg/x", "/one", "pkg/y", "/three"⟩ :=
    ⟨[⟨"urn:a", "pkg/x", "/one"⟩, ⟨"urn:b", "pkg/y", "/two"⟩, ⟨"urn:a", "pkg/x", "/two"⟩],
      [⟨"urn:b", "pkg/x", "/three"⟩], rfl, by decide, rfl, by decide⟩
  rw [hunique _ hblames]
  exact ⟨hloaded, hrun⟩

end Pipewright
