import Pipewright.Proofs.Mapping.Blame

set_option autoImplicit false

/-! # What resolution depends on

Resolution looks at documents only for the pairs of URNs and import paths that they bind, and at a
list of URNs only for the URNs in it. However the same pairs are written down, in one document or in
several, in whatever order and however often, the outcome is the same, save that a conflict may be
blamed on another binding (`SameOutcome`). The order of the URNs and their repetitions change at
most which of the unbound ones is reported (`resolve_depends_on_sets`). -/

namespace Pipewright

open Pipewright.Action

/-- Being the same outcome, whichever binding a conflict is blamed on. -/
inductive SameOutcome : Except Failure (List Package) → Except Failure (List Package) → Prop
  | conflicting (a b : Conflict) :
      SameOutcome (.error (.conflictingMapping a)) (.error (.conflictingMapping b))
  | resolved (packages : List Package) : SameOutcome (.ok packages) (.ok packages)
  | unresolved (urn : String) :
      SameOutcome (.error (.unresolvedUrn urn)) (.error (.unresolvedUrn urn))

/-! ## The same outcome -/

/-- What resolution gives in a world. -/
abbrev resolutionIn (world : World) (sourceRoot : Path) (documents : List Path)
    (urns : List String) : Except Failure (List Package) :=
  ((resolve MappingDocument.load sourceRoot documents urns).runOn world).1

variable {worldA worldB : World} {documentsA documentsB : List Path} {urnsA urnsB : List String}
  {bindingsA bindingsB : List Binding}

/-- Whether everything is in order depends on which URNs are in the list. -/
theorem Resolvable.of_mem_iff {world : World} {documents : List Path} {bindings : List Binding}
    (h : Resolvable world documents urnsA bindings) (hsame : ∀ urn, urn ∈ urnsA ↔ urn ∈ urnsB) :
    Resolvable world documents urnsB bindings := by
  obtain ⟨hsome, hloaded, hcons, hbound⟩ := h
  exact ⟨hsome, hloaded, hcons, fun urn hurn => hbound urn ((hsame urn).2 hurn)⟩

/-- Where everything is in order on both sides, the packages depend on the import paths alone. -/
theorem Resolvable.same_packages (sourceRoot : Path)
    (hA : Resolvable worldA documentsA urnsA bindingsA)
    (hB : Resolvable worldB documentsB urnsB bindingsB)
    (hsame : ∀ uri, (∃ urn ∈ urnsA, Binds bindingsA urn uri) ↔
      ∃ urn ∈ urnsB, Binds bindingsB urn uri) :
    ∃ packages, resolutionIn worldA sourceRoot documentsA urnsA = .ok packages ∧
      resolutionIn worldB sourceRoot documentsB urnsB = .ok packages := by
  obtain ⟨urisA, hokA, hascendA, hmemA⟩ := hA.resolve_ok sourceRoot
  obtain ⟨urisB, hokB, hascendB, hmemB⟩ := hB.resolve_ok sourceRoot
  have huris : urisA = urisB := hascendA.eq_of_mem_iff hascendB fun uri => by
    rw [hmemA, hmemB]
    exact hsame uri
  subst huris
  exact ⟨_, hokA, hokB⟩

/-- Documents that load and do not agree end resolution with a conflict. -/
theorem LoadedIn.resolve_conflicting {world : World} {documents : List Path}
    {loaded : List (Path × MappingDocument)} (h : LoadedIn world documents loaded)
    (hsome : documents ≠ []) (hnot : ¬ Consistent (bindingsOf loaded)) (sourceRoot : Path)
    (urns : List String) :
    ∃ conflict, resolutionIn world sourceRoot documents urns =
      .error (.conflictingMapping conflict) := by
  obtain ⟨_, _, _, _, conflict, world', -, -, -, hrun⟩ := h.ofDocuments_conflict hnot
  exact ⟨conflict, resolve_of_ofDocuments_error sourceRoot urns hsome hrun⟩

/-- The same pairs in other documents give the same outcome. -/
theorem same_outcome_of_binds {loadedA loadedB : List (Path × MappingDocument)}
    (hsomeA : documentsA ≠ []) (hsomeB : documentsB ≠ [])
    (hA : LoadedIn worldA documentsA loadedA) (hB : LoadedIn worldB documentsB loadedB)
    (hsame : ∀ urn pkg, Binds (bindingsOf loadedA) urn pkg ↔ Binds (bindingsOf loadedB) urn pkg)
    (sourceRoot : Path) (urns : List String) :
    SameOutcome (resolutionIn worldA sourceRoot documentsA urns)
      (resolutionIn worldB sourceRoot documentsB urns) := by
  have hiff : Consistent (bindingsOf loadedA) ↔ Consistent (bindingsOf loadedB) := by
    simp only [consistent_iff_binds, hsame]
  -- whether they agree, and which URN is the first unbound one, is said by the pairs alone
  by_cases hconsA : Consistent (bindingsOf loadedA)
  · have hconsB := hiff.1 hconsA
    rcases bound_or_first (bindingsOf loadedA) urns with
      hboundA | ⟨known, urn, more, rfl, hknownA, hurnA⟩
    · have hboundB : ∀ urn ∈ urns, ∃ pkg, Binds (bindingsOf loadedB) urn pkg := fun urn hurn =>
        (hboundA urn hurn).imp fun pkg => (hsame urn pkg).1
      obtain ⟨packages, hokA, hokB⟩ := Resolvable.same_packages sourceRoot
        ⟨hsomeA, ⟨loadedA, hA, rfl⟩, hconsA, hboundA⟩
        ⟨hsomeB, ⟨loadedB, hB, rfl⟩, hconsB, hboundB⟩ fun uri => by simp only [hsame]
      rw [hokA, hokB]
      exact .resolved packages
    · have hknownB : ∀ u ∈ known, ∃ pkg, Binds (bindingsOf loadedB) u pkg := fun u hu =>
        (hknownA u hu).imp fun pkg => (hsame u pkg).1
      have hurnB : ∀ pkg, ¬ Binds (bindingsOf loadedB) urn pkg := fun pkg hpkg =>
        hurnA pkg ((hsame urn pkg).2 hpkg)
      rw [resolutionIn, (FailsFirst.unresolved hsomeA hA hconsA hknownA hurnA).resolve_error,
        resolutionIn, (FailsFirst.unresolved hsomeB hB hconsB hknownB hurnB).resolve_error]
      exact .unresolved urn
  · obtain ⟨a, hconflictA⟩ := hA.resolve_conflicting hsomeA hconsA sourceRoot urns
    obtain ⟨b, hconflictB⟩ := hB.resolve_conflicting hsomeB (mt hiff.2 hconsA) sourceRoot urns
    rw [hconflictA, hconflictB]
    exact .conflicting a b

/-- **What resolution depends on.** Documents that bind the same pairs give the same outcome for
    every list of URNs: the same packages, the same first unbound URN, or a conflict on both sides.
    Lists of the same URNs give the same packages, or fail on both sides. -/
theorem resolve_depends_on_sets (sourceRoot : Path) :
    (∀ worldA worldB documentsA documentsB loadedA loadedB,
      documentsA ≠ [] → documentsB ≠ [] →
      LoadedIn worldA documentsA loadedA → LoadedIn worldB documentsB loadedB →
      (∀ urn pkg, Binds (bindingsOf loadedA) urn pkg ↔ Binds (bindingsOf loadedB) urn pkg) →
      ∀ urns, SameOutcome (resolutionIn worldA sourceRoot documentsA urns)
        (resolutionIn worldB sourceRoot documentsB urns)) ∧
    ∀ world documents urnsA urnsB, (∀ urn, urn ∈ urnsA ↔ urn ∈ urnsB) →
      (∃ packages, resolutionIn world sourceRoot documents urnsA = .ok packages ∧
        resolutionIn world sourceRoot documents urnsB = .ok packages) ∨
      ∃ failureA failureB, resolutionIn world sourceRoot documents urnsA = .error failureA ∧
        resolutionIn world sourceRoot documents urnsB = .error failureB := by
  refine ⟨fun worldA worldB documentsA documentsB loadedA loadedB hsomeA hsomeB hA hB hsame =>
    same_outcome_of_binds hsomeA hsomeB hA hB hsame sourceRoot, ?_⟩
  intro world documents urnsA urnsB hsame
  rcases resolvable_or_failsFirst world documents urnsA with ⟨bindings, hA⟩ | ⟨failureA, hA⟩
  · have hB : Resolvable world documents urnsB bindings := hA.of_mem_iff hsame
    exact .inl (hA.same_packages sourceRoot hB fun uri => by simp only [hsame])
  · rcases resolvable_or_failsFirst world documents urnsB with ⟨bindings, hB⟩ | ⟨failureB, hB⟩
    · -- the same URNs would be bound in the other list too
      obtain ⟨uris, hok, -⟩ := (hB.of_mem_iff fun urn => (hsame urn).symm).resolve_ok sourceRoot
      have herror := hA.resolve_error sourceRoot
      rw [hok] at herror
      cases herror
    · exact .inr ⟨failureA, failureB, hA.resolve_error sourceRoot, hB.resolve_error sourceRoot⟩

/-- Two documents with what one of them says, in another order and said again. -/
theorem resolve_depends_on_sets_regrouped :
    let all : MappingDocument := ⟨[⟨"urn:a", "pkg/x"⟩, ⟨"urn:b", "pkg/y"⟩]⟩
    let late : MappingDocument := ⟨[⟨"urn:b", "pkg/y"⟩]⟩
    let early : MappingDocument := ⟨[⟨"urn:a", "pkg/x"⟩, ⟨"urn:b", "pkg/y"⟩]⟩
    let file := fun document : MappingDocument =>
      Node.file (Text.Utf8.encode document.toJson.compact) false
    let world := World.fresh [(["all"], file all), (["late"], file late), (["early"], file early)]
    LoadedIn world ["/all"] [("/all", all)] ∧
    LoadedIn world ["/late", "/early"] [("/late", late), ("/early", early)] ∧
    SameOutcome (resolutionIn world "/src" ["/all"] ["urn:b", "urn:a"])
      (resolutionIn world "/src" ["/late", "/early"] ["urn:b", "urn:a"]) := by
  intro all late early file world
  have hall : LoadedIn world ["/all"] [("/all", all)] := by
    refine ⟨rfl, ?_⟩
    rw [List.forall_mem_singleton]
    decide +kernel
  have hsplit : LoadedIn world ["/late", "/early"] [("/late", late), ("/early", early)] := by
    refine ⟨rfl, ?_⟩
    rw [List.forall_mem_cons, List.forall_mem_singleton]
    constructor
    · decide +kernel
    · decide +kernel
  refine ⟨hall, hsplit, (resolve_depends_on_sets "/src").1 _ _ _ _ _ _ (by decide) (by decide) hall
    hsplit (fun urn pkg => ?_) _⟩
  simp only [Binds, bindingsOf, MappingDocument.bindings, all, late, early]
  simp
  tauto

end Pipewright
