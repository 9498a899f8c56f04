import Pipewright.Proofs.Mapping.Merging
import Pipewright.Proofs.Text.ByteOrder
import Pipewright.Proofs.World.Looking

set_option autoImplicit false

/-! # What resolution gives

Resolution is a function of the documents as they lie on the disk and of the list of URNs.
`resolve_outcome` says when it succeeds, with which packages, and with which failure it ends
otherwise: `Resolvable` and `FailsFirst` speak of the bindings of all documents, and not of tables.
-/

namespace Pipewright

open Pipewright.Action

/-! ## Import paths -/

/-- The texts ascend strictly, byte by byte. -/
def BytesAscend (texts : List String) : Prop :=
  texts.Pairwise fun a b => Text.Utf8.encode a < Text.Utf8.encode b

theorem BytesAscend.pairwise_lt {texts : List String} (h : BytesAscend texts) :
    texts.Pairwise (· < ·) :=
  h.imp Text.Utf8.encode_lt_encode_iff.1

theorem BytesAscend.nodup {texts : List String} (h : BytesAscend texts) : texts.Nodup :=
  h.pairwise_lt.imp ne_of_lt

/-- An ascending list of texts is determined by what is in it. -/
theorem BytesAscend.eq_of_mem_iff {as bs : List String} (ha : BytesAscend as) (hb : BytesAscend bs)
    (h : ∀ text, text ∈ as ↔ text ∈ bs) : as = bs := by
  have hperm : as.Perm bs := (List.perm_ext_iff_of_nodup ha.nodup hb.nodup).2 h
  exact hperm.eq_of_pairwise (fun _ _ _ _ hlt hgt => absurd hgt hlt.asymm) ha.pairwise_lt
    hb.pairwise_lt

theorem mem_insertText {text other : String} {texts : List String} :
    other ∈ insertText text texts ↔ other = text ∨ other ∈ texts := by
  induction texts with
  | nil => simp [insertText]
  | cons first rest ih =>
    unfold insertText
    split_ifs with hlt heq
    · simp
    · subst heq; simp
    · simp only [List.mem_cons, ih]
      exact or_left_comm

theorem pairwise_insertText {text : String} {texts : List String}
    (h : texts.Pairwise (· < ·)) : (insertText text texts).Pairwise (· < ·) := by
  induction texts with
  | nil => simp [insertText]
  | cons first rest ih =>
    obtain ⟨hfirst, hrest⟩ := List.pairwise_cons.1 h
    unfold insertText
    split_ifs with hlt heq
    · refine List.pairwise_cons.2 ⟨fun other hother => ?_, h⟩
      rcases List.mem_cons.1 hother with rfl | hother
      · exact hlt
      · exact hlt.trans (hfirst other hother)
    · exact h
    · refine List.pairwise_cons.2 ⟨fun other hother => ?_, ih hrest⟩
      rcases mem_insertText.1 hother with rfl | hother
      · exact lt_of_le_of_ne (not_lt.1 hlt) (Ne.symm heq)
      · exact hfirst other hother

namespace MappingTable

variable {table : MappingTable}

/-- When every URN is bound, the import paths are those of the URNs, and those found before. -/
theorem importPaths_ok {urns : List String} (found : List String)
    (hbound : ∀ urn ∈ urns, ∃ pkg, table.get? urn = some pkg) (hfound : found.Pairwise (· < ·)) :
    ∃ uris, table.importPaths urns found = .ok uris ∧ uris.Pairwise (· < ·) ∧
      ∀ uri, uri ∈ uris ↔ uri ∈ found ∨ ∃ urn ∈ urns, table.get? urn = some uri := by
  induction urns generalizing found with
  | nil => exact ⟨found, rfl, hfound, by simp⟩
  | cons urn urns ih =>
    obtain ⟨pkg, hpkg⟩ := hbound urn (List.mem_cons_self ..)
    obtain ⟨uris, hok, hsorted, hmem⟩ := ih (insertText pkg found)
      (fun u hu => hbound u (List.mem_cons_of_mem _ hu)) (pairwise_insertText hfound)
    refine ⟨uris, ?_, hsorted, fun uri => ?_⟩
    · rw [importPaths, hpkg]
      exact hok
    · rw [hmem, mem_insertText]
      simp only [List.mem_cons, exists_eq_or_imp, hpkg, Option.some.injEq]
      rw [or_assoc, or_left_comm, eq_comm]

/-- The first URN that is not bound is reported. -/
theorem importPaths_error {known : List String} {urn : String} (more found : List String)
    (hknown : ∀ u ∈ known, ∃ pkg, table.get? u = some pkg) (hurn : table.get? urn = none) :
    table.importPaths (known ++ urn :: more) found = .error urn := by
  induction known generalizing found with
  | nil => rw [List.nil_append, importPaths, hurn]
  | cons u known ih =>
    obtain ⟨pkg, hpkg⟩ := hknown u (List.mem_cons_self ..)
    rw [List.cons_append, importPaths, hpkg]
    exact ih (insertText pkg found) fun v hv => hknown v (List.mem_cons_of_mem _ hv)

end MappingTable

/-! ## The documents -/

/-- Loading the documents at these paths gives these documents. -/
def LoadedIn (world : World) (paths : List Path) (loaded : List (Path × MappingDocument)) : Prop :=
  loaded.map Prod.fst = paths ∧
    ∀ d ∈ loaded, ((MappingDocument.load d.1).runOn world).1 = .ok d.2

/-- The bindings of documents, in order. -/
def bindingsOf (loaded : List (Path × MappingDocument)) : List Binding :=
  loaded.flatMap fun d => d.2.bindings d.1

/-- The documents can be loaded and agree, and bind every URN; `bindings` are those of all documents
    together. -/
def Resolvable (world : World) (documents : List Path) (urns : List String)
    (bindings : List Binding) : Prop :=
  documents ≠ [] ∧ (∃ loaded, LoadedIn world documents loaded ∧ bindingsOf loaded = bindings) ∧
    Consistent bindings ∧ ∀ urn ∈ urns, ∃ pkg, Binds bindings urn pkg

/-- The first thing that goes wrong: there is no document; the document at `path` is the first that
    cannot be loaded, or whose bindings break the agreement of those before it; or all documents
    agree and `urn` is the first URN that they do not bind. -/
inductive FailsFirst (world : World) : List Path → List String → Failure → Prop
  | noDocument (urns : List String) : FailsFirst world [] urns .noMappingSource
  | unloadable {before after : List Path} {path : Path} {loaded : List (Path × MappingDocument)}
      {message : String} (urns : List String) (hloaded : LoadedIn world before loaded)
      (hcons : Consistent (bindingsOf loaded))
      (herror : ((MappingDocument.load path).runOn world).1 = .error (.config path message)) :
      FailsFirst world (before ++ path :: after) urns (.config path message)
  | conflicting {before after : List Path} {path : Path} {loaded : List (Path × MappingDocument)}
      {document : MappingDocument} {conflict : Conflict} (urns : List String)
      (hloaded : LoadedIn world before loaded) (hcons : Consistent (bindingsOf loaded))
      (hdocument : ((MappingDocument.load path).runOn world).1 = .ok document)
      (hblames : Blames (bindingsOf loaded ++ document.bindings path) conflict) :
      FailsFirst world (before ++ path :: after) urns (.conflictingMapping conflict)
  | unresolved {documents : List Path} {loaded : List (Path × MappingDocument)}
      {known more : List String} {urn : String} (hsome : documents ≠ [])
      (hloaded : LoadedIn world documents loaded) (hcons : Consistent (bindingsOf loaded))
      (hknown : ∀ u ∈ known, ∃ pkg, Binds (bindingsOf loaded) u pkg)
      (hurn : ∀ pkg, ¬ Binds (bindingsOf loaded) urn pkg) :
      FailsFirst world documents (known ++ urn :: more) (.unresolvedUrn urn)

/-! ## Loading and merging -/

/-- What loading a document gives depends on the disk alone. -/
theorem MappingDocument.load_result (path : Path) (world : World) :
    ((MappingDocument.load path).runOn world).1 = onDisk world.disk path :=
  (load_answers path world (.refl world)).1

/-- Worlds with the same disk have the same documents. -/
theorem LoadedIn.of_disk_eq {world other : World} (hdisk : other.disk = world.disk)
    {paths : List Path} {loaded : List (Path × MappingDocument)} (h : LoadedIn world paths loaded) :
    LoadedIn other paths loaded := by
  obtain ⟨hpaths, hall⟩ := h
  refine ⟨hpaths, fun d hd => ?_⟩
  rw [MappingDocument.load_result, hdisk, ← MappingDocument.load_result]
  exact hall d hd

theorem Resolvable.of_disk_eq {world other : World} (hdisk : other.disk = world.disk)
    {documents : List Path} {urns : List String} {bindings : List Binding}
    (h : Resolvable world documents urns bindings) : Resolvable other documents urns bindings := by
  obtain ⟨hsome, ⟨loaded, hloaded, hbindings⟩, hrest⟩ := h
  exact ⟨hsome, ⟨loaded, hloaded.of_disk_eq hdisk, hbindings⟩, hrest⟩

theorem FailsFirst.of_disk_eq {world other : World} (hdisk : other.disk = world.disk)
    {documents : List Path} {urns : List String} {failure : Failure}
    (h : FailsFirst world documents urns failure) : FailsFirst other documents urns failure := by
  cases h with
  | noDocument => exact .noDocument urns
  | unloadable _ hloaded hcons herror =>
    rw [MappingDocument.load_result, ← hdisk, ← MappingDocument.load_result] at herror
    exact .unloadable urns (hloaded.of_disk_eq hdisk) hcons herror
  | conflicting _ hloaded hcons hdocument hblames =>
    rw [MappingDocument.load_result, ← hdisk, ← MappingDocument.load_result] at hdocument
    exact .conflicting urns (hloaded.of_disk_eq hdisk) hcons hdocument hblames
  | unresolved hsome hloaded hcons hknown hurn =>
    exact .unresolved hsome (hloaded.of_disk_eq hdisk) hcons hknown hurn

theorem LoadedIn.append {world : World} {paths : List Path}
    {loaded : List (Path × MappingDocument)} (h : LoadedIn world paths loaded) {path : Path}
    {document : MappingDocument}
    (hdocument : ((MappingDocument.load path).runOn world).1 = .ok document) :
    LoadedIn world (paths ++ [path]) (loaded ++ [(path, document)]) := by
  obtain ⟨rfl, hall⟩ := h
  refine ⟨by rw [List.map_append]; rfl, fun d hd => ?_⟩
  rcases List.mem_append.1 hd with hd | hd
  · exact hall d hd
  · obtain rfl := List.mem_singleton.1 hd
    exact hdocument

theorem bindingsOf_append_singleton (loaded : List (Path × MappingDocument)) (path : Path)
    (document : MappingDocument) :
    bindingsOf (loaded ++ [(path, document)]) = bindingsOf loaded ++ document.bindings path := by
  simp [bindingsOf]

/-- All documents load and agree, or one is the first that does not. -/
theorem loadedIn_or_first (world : World) (documents : List Path) :
    (∃ loaded, LoadedIn world documents loaded ∧ Consistent (bindingsOf loaded)) ∨
    ∃ before path after loaded, documents = before ++ path :: after ∧
      LoadedIn world before loaded ∧ Consistent (bindingsOf loaded) ∧
      ((∃ message,
          ((MappingDocument.load path).runOn world).1 = .error (.config path message)) ∨
        ∃ document conflict, ((MappingDocument.load path).runOn world).1 = .ok document ∧
          Blames (bindingsOf loaded ++ document.bindings path) conflict) := by
  induction documents using List.reverseRecOn with
  | nil => exact Or.inl ⟨[], ⟨rfl, by simp⟩, consistent_nil⟩
  | append_singleton documents path ih =>
    rcases ih with ⟨loaded, hloaded, hcons⟩ | ⟨before, first, after, loaded, rfl, hrest⟩
    · cases hload : ((MappingDocument.load path).runOn world).1 with
      | error failure =>
        obtain ⟨message, rfl⟩ :=
          MappingDocument.onDisk_error ((MappingDocument.load_result path world).symm.trans hload)
        exact Or.inr ⟨documents, path, [], loaded, rfl, hloaded, hcons, Or.inl ⟨message, hload⟩⟩
      | ok document =>
        rcases consistent_or_blames (bindingsOf loaded ++ document.bindings path) with
          hagree | ⟨conflict, hblames⟩
        · refine Or.inl ⟨_, hloaded.append hload, ?_⟩
          rw [bindingsOf_append_singleton]
          exact hagree
        · exact Or.inr ⟨documents, path, [], loaded, rfl, hloaded, hcons,
            Or.inr ⟨document, conflict, hload, hblames⟩⟩
    · exact Or.inr ⟨before, first, after ++ [path], loaded, by simp, hrest⟩

namespace MappingTable

/-- Documents that load and agree with what the table holds are all merged, and those behind them
    come next. -/
theorem mergeDocuments_append {disk : Disk} {table : MappingTable} {bindings : List Binding}
    (htable : table.Holds bindings) (loaded : List (Path × MappingDocument))
    (hload : ∀ d ∈ loaded, MappingDocument.onDisk disk d.1 = .ok d.2)
    (hcons : Consistent (bindings ++ bindingsOf loaded)) (rest : List Path) {world : World}
    (hworld : world.disk = disk) :
    ∃ table' world', (mergeDocuments MappingDocument.load table
        (loaded.map Prod.fst ++ rest)).runOn world =
        (mergeDocuments MappingDocument.load table' rest).runOn world' ∧
      world'.disk = disk ∧ table'.Holds (bindings ++ bindingsOf loaded) := by
  induction loaded generalizing table bindings world with
  | nil => exact ⟨table, world, rfl, hworld, by simpa [bindingsOf] using htable⟩
  | cons d loaded ih =>
    obtain ⟨path, document⟩ := d
    have hsplit : bindings ++ bindingsOf ((path, document) :: loaded) =
        (bindings ++ document.bindings path) ++ bindingsOf loaded := by
      simp [bindingsOf]
    rw [hsplit] at hcons ⊢
    obtain ⟨next, hmerge, hnext⟩ := htable.merge_of_consistent hcons.of_append
    obtain ⟨hresult, hkept⟩ := MappingDocument.load_answers path world (.refl world)
    rw [hworld, hload _ (List.mem_cons_self ..)] at hresult
    obtain ⟨table', world', hrun, hrest⟩ :=
      ih hnext (fun d hd => hload d (List.mem_cons_of_mem _ hd)) hcons
        (hkept.disk_eq.trans hworld)
    refine ⟨table', world', ?_, hrest⟩
    rw [List.map_cons, List.cons_append, mergeDocuments, runOn_bind_ok (Prod.ext hresult rfl),
      hmerge]
    exact hrun

end MappingTable

/-! ## The outcome -/

/-- All URNs are bound, or one is the first that is not. -/
theorem bound_or_first (bindings : List Binding) (urns : List String) :
    (∀ urn ∈ urns, ∃ pkg, Binds bindings urn pkg) ∨
    ∃ known urn more, urns = known ++ urn :: more ∧
      (∀ u ∈ known, ∃ pkg, Binds bindings u pkg) ∧ ∀ pkg, ¬ Binds bindings urn pkg := by
  induction urns with
  | nil => exact Or.inl (by simp)
  | cons urn urns ih =>
    by_cases hurn : ∃ pkg, Binds bindings urn pkg
    · rcases ih with hall | ⟨known, u, more, rfl, hknown, hu⟩
      · exact Or.inl (List.forall_mem_cons.2 ⟨hurn, hall⟩)
      · exact Or.inr ⟨urn :: known, u, more, rfl, List.forall_mem_cons.2 ⟨hurn, hknown⟩, hu⟩
    · exact Or.inr ⟨[], urn, urns, rfl, by simp, fun pkg hpkg => hurn ⟨pkg, hpkg⟩⟩

/-- Resolution succeeds, or something goes wrong first. -/
theorem resolvable_or_failsFirst (world : World) (documents : List Path) (urns : List String) :
    (∃ bindings, Resolvable world documents urns bindings) ∨
    ∃ failure, FailsFirst world documents urns failure := by
  by_cases hsome : documents = []
  · subst hsome
    exact Or.inr ⟨_, .noDocument urns⟩
  rcases loadedIn_or_first world documents with ⟨loaded, hloaded, hcons⟩ |
    ⟨before, path, after, loaded, rfl, hloaded, hcons, ⟨message, herror⟩ |
      ⟨document, conflict, hdocument, hblames⟩⟩
  · rcases bound_or_first (bindingsOf loaded) urns with hall | ⟨known, urn, more, rfl, hknown, hurn⟩
    · exact Or.inl ⟨_, hsome, ⟨loaded, hloaded, rfl⟩, hcons, hall⟩
    · exact Or.inr ⟨_, .unresolved hsome hloaded hcons hknown hurn⟩
  · exact Or.inr ⟨_, .unloadable urns hloaded hcons herror⟩
  · exact Or.inr ⟨_, .conflicting urns hloaded hcons hdocument hblames⟩

/-- Documents that load and agree give a table that holds their bindings. -/
theorem ofDocuments_append {world : World} {before : List Path}
    {loaded : List (Path × MappingDocument)} (hloaded : LoadedIn world before loaded)
    (hcons : Consistent (bindingsOf loaded)) (rest : List Path) :
    ∃ table world', (MappingTable.ofDocuments MappingDocument.load (before ++ rest)).runOn world =
        (MappingTable.mergeDocuments MappingDocument.load table rest).runOn world' ∧
      world'.disk = world.disk ∧ table.Holds (bindingsOf loaded) := by
  obtain ⟨rfl, hall⟩ := hloaded
  have hload : ∀ d ∈ loaded, MappingDocument.onDisk world.disk d.1 = .ok d.2 := fun d hd =>
    (MappingDocument.load_result d.1 world).symm.trans (hall d hd)
  unfold MappingTable.ofDocuments
  simpa using MappingTable.mergeDocuments_append MappingTable.holds_empty loaded hload
    (by simpa using hcons) rest rfl

variable {world : World} {documents : List Path} {urns : List String}

/-- A document that breaks the agreement of those before it is refused with the conflict that is to
    blame. -/
theorem ofDocuments_conflicting {before : List Path} {path : Path}
    {loaded : List (Path × MappingDocument)} {document : MappingDocument} {conflict : Conflict}
    (after : List Path) (hloaded : LoadedIn world before loaded)
    (hcons : Consistent (bindingsOf loaded))
    (hdocument : ((MappingDocument.load path).runOn world).1 = .ok document)
    (hblames : Blames (bindingsOf loaded ++ document.bindings path) conflict) :
    ∃ world',
      (MappingTable.ofDocuments MappingDocument.load (before ++ path :: after)).runOn world =
      (.error (.conflictingMapping conflict), world') := by
  obtain ⟨table, middle, hrun, hdisk, htable⟩ := ofDocuments_append hloaded hcons (path :: after)
  rw [MappingDocument.load_result, ← hdisk, ← MappingDocument.load_result] at hdocument
  obtain ⟨table', hmerge⟩ := htable.merge_of_blames hcons hblames
  refine ⟨((MappingDocument.load path).runOn middle).2, ?_⟩
  rw [hrun, MappingTable.mergeDocuments, runOn_bind_ok (Prod.ext hdocument rfl), hmerge]
  rfl

/-- With documents, resolution looks the URNs up in the table of the documents. -/
theorem resolve_of_ofDocuments (sourceRoot : Path) (urns : List String) (hsome : documents ≠ [])
    {table : MappingTable} {world' : World}
    (h : (MappingTable.ofDocuments MappingDocument.load documents).runOn world =
      (.ok table, world')) :
    ((resolve MappingDocument.load sourceRoot documents urns).runOn world).1 =
      table.resolve sourceRoot urns := by
  unfold resolve
  rw [if_neg hsome]
  dsimp only
  rw [runOn_bind_ok h, runOn_mk_pure]

theorem resolve_of_ofDocuments_error (sourceRoot : Path) (urns : List String)
    (hsome : documents ≠ []) {failure : Failure} {world' : World}
    (h : (MappingTable.ofDocuments MappingDocument.load documents).runOn world =
      (.error failure, world')) :
    ((resolve MappingDocument.load sourceRoot documents urns).runOn world).1 = .error failure := by
  unfold resolve
  rw [if_neg hsome]
  dsimp only
  rw [runOn_bind_error h]

/-- Where everything is in order, the packages are those of the bound import paths. -/
theorem Resolvable.resolve_ok (sourceRoot : Path) {bindings : List Binding}
    (h : Resolvable world documents urns bindings) :
    ∃ uris, ((resolve MappingDocument.load sourceRoot documents urns).runOn world).1 =
        .ok (uris.map fun uri => ⟨uri, "", sourceRoot⟩) ∧
      BytesAscend uris ∧ ∀ uri, uri ∈ uris ↔ ∃ urn ∈ urns, Binds bindings urn uri := by
  obtain ⟨hsome, ⟨loaded, hloaded, rfl⟩, hcons, hbound⟩ := h
  obtain ⟨table, world', hrun, -, htable⟩ := ofDocuments_append hloaded hcons []
  rw [List.append_nil] at hrun
  have hget := htable.get?_eq_some hcons
  obtain ⟨uris, hok, hsorted, hmem⟩ := MappingTable.importPaths_ok []
    (fun urn hurn => (hbound urn hurn).imp fun _ => (hget _ _).2) List.Pairwise.nil
  refine ⟨uris, ?_, hsorted.imp Text.Utf8.encode_lt_encode, fun uri => ?_⟩
  · rw [resolve_of_ofDocuments sourceRoot urns hsome hrun, MappingTable.resolve, hok]
    rfl
  · simp [hmem, hget]

/-- Where something goes wrong first, it is reported. -/
theorem FailsFirst.resolve_error (sourceRoot : Path) {failure : Failure}
    (h : FailsFirst world documents urns failure) :
    ((resolve MappingDocument.load sourceRoot documents urns).runOn world).1 = .error failure := by
  cases h with
  | noDocument => rfl
  | @unloadable before after path loaded message _ hloaded hcons herror =>
    obtain ⟨table, world', hrun, hdisk, -⟩ := ofDocuments_append hloaded hcons (path :: after)
    rw [MappingDocument.load_result, ← hdisk, ← MappingDocument.load_result] at herror
    apply resolve_of_ofDocuments_error sourceRoot urns (by simp)
    rw [hrun, MappingTable.mergeDocuments, runOn_bind_error (Prod.ext herror rfl)]
  | @conflicting before after path loaded document conflict _ hloaded hcons hdocument hblames =>
    obtain ⟨world', hrun⟩ := ofDocuments_conflicting after hloaded hcons hdocument hblames
    exact resolve_of_ofDocuments_error sourceRoot urns (by simp) hrun
  | @unresolved _ loaded known more urn hsome hloaded hcons hknown hurn =>
    obtain ⟨table, world', hrun, -, htable⟩ := ofDocuments_append hloaded hcons []
    rw [List.append_nil] at hrun
    have hget := htable.get?_eq_some hcons
    have hnone : table.get? urn = none :=
      Option.eq_none_iff_forall_ne_some.2 fun pkg hpkg => hurn pkg ((hget _ _).1 hpkg)
    have hpaths := MappingTable.importPaths_error more []
      (fun u hu => (hknown u hu).imp fun _ => (hget _ _).2) hnone
    rw [resolve_of_ofDocuments sourceRoot _ hsome hrun, MappingTable.resolve, hpaths]

/-- Resolution depends on the disk alone. -/
theorem resolve_of_disk_eq {other : World} (hdisk : other.disk = world.disk) (sourceRoot : Path)
    (documents : List Path) (urns : List String) :
    ((resolve MappingDocument.load sourceRoot documents urns).runOn other).1 =
      ((resolve MappingDocument.load sourceRoot documents urns).runOn world).1 := by
  rcases resolvable_or_failsFirst world documents urns with ⟨bindings, h⟩ | ⟨failure, h⟩
  · obtain ⟨uris, hok, hascend, hmem⟩ := h.resolve_ok sourceRoot
    obtain ⟨others, hother, hascend', hmem'⟩ := (h.of_disk_eq hdisk).resolve_ok sourceRoot
    rw [hok, hother, hascend'.eq_of_mem_iff hascend fun uri => by rw [hmem, hmem']]
  · rw [h.resolve_error sourceRoot, (h.of_disk_eq hdisk).resolve_error sourceRoot]

/-- **What resolution gives.** It succeeds when there are documents, all can be loaded, no URN has
    two import paths in them, and every URN has one; the packages are then those of the distinct
    paths that the URNs are bound to, in ascending order, each of the latest revision. Otherwise it
    ends with what goes wrong first. -/
theorem resolve_outcome (world : World) (sourceRoot : Path) (documents : List Path)
    (urns : List String) :
    let outcome := ((resolve MappingDocument.load sourceRoot documents urns).runOn world).1
    ((∃ packages, outcome = .ok packages) ↔
      ∃ bindings, Resolvable world documents urns bindings) ∧
    (∀ packages bindings, outcome = .ok packages → Resolvable world documents urns bindings →
      ∃ uris, packages = uris.map (fun uri => ⟨uri, "", sourceRoot⟩) ∧ BytesAscend uris ∧
        ∀ uri, uri ∈ uris ↔ ∃ urn ∈ urns, Binds bindings urn uri) ∧
    ∀ failure, outcome = .error failure ↔ FailsFirst world documents urns failure := by
  intro outcome
  have hfails : ∀ failure, FailsFirst world documents urns failure → outcome = .error failure :=
    fun failure h => h.resolve_error sourceRoot
  refine ⟨⟨?_, ?_⟩, ?_, fun failure => ⟨fun herror => ?_, hfails failure⟩⟩
  · rintro ⟨packages, hok⟩
    rcases resolvable_or_failsFirst world documents urns with h | ⟨failure, h⟩
    · exact h
    · rw [hfails failure h] at hok
      cases hok
  · rintro ⟨bindings, h⟩
    obtain ⟨uris, hok, -⟩ := h.resolve_ok sourceRoot
    exact ⟨_, hok⟩
  · intro packages bindings hok h
    obtain ⟨uris, huris, hrest⟩ := h.resolve_ok sourceRoot
    exact ⟨uris, Except.ok.inj (hok.symm.trans huris), hrest⟩
  · rcases resolvable_or_failsFirst world documents urns with ⟨bindings, h⟩ | ⟨first, h⟩
    · obtain ⟨uris, hok, -⟩ := h.resolve_ok sourceRoot
      exact absurd (herror.symm.trans hok) (by simp)
    · have hsame := Except.error.inj (herror.symm.trans (hfails first h))
      rw [hsame]
      exact h

end Pipewright
