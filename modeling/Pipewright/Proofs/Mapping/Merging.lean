import Mathlib.Data.List.Induction
import Mathlib.Tactic.Push
import Pipewright.Mapping.Table

set_option autoImplicit false

/-! # What merging does

The entries of documents, read in order, are a list of `Binding`s, each with the document that asks
for it. Such a list is `Consistent` when no URN has two import paths in it; otherwise `Blames` says
which conflict it raises: that of the earliest binding that disagrees with the first binding of its
URN. A list is one or the other (`consistent_or_blames`) and never both.

A table that `Holds` a list finds for each URN the first binding of the list. Merging a document
into such a table gives a table that holds the list with the document's bindings behind it
(`merge_of_consistent`), or raises the conflict that is to blame (`merge_of_blames`). -/

namespace Pipewright

/-- The bindings that a document asks for. -/
def MappingDocument.bindings (origin : Path) (document : MappingDocument) : List Binding :=
  document.entries.map fun entry => ⟨entry.urn, entry.pkg, origin⟩

/-- The first binding of a URN. -/
def firstOf (urn : String) (bindings : List Binding) : Option Binding :=
  bindings.find? (·.urn == urn)

/-- No URN has two import paths. -/
def Consistent (bindings : List Binding) : Prop :=
  ∀ a ∈ bindings, ∀ b ∈ bindings, a.urn = b.urn → a.pkg = b.pkg

instance (bindings : List Binding) : Decidable (Consistent bindings) :=
  inferInstanceAs (Decidable (∀ a ∈ bindings, ∀ b ∈ bindings, a.urn = b.urn → a.pkg = b.pkg))

/-- Whether a URN is bound to an import path. -/
def Binds (bindings : List Binding) (urn pkg : String) : Prop :=
  ∃ b ∈ bindings, b.urn = urn ∧ b.pkg = pkg

/-- Whether bindings are consistent depends on the pairs alone. -/
theorem consistent_iff_binds {bindings : List Binding} :
    Consistent bindings ↔ ∀ urn p q, Binds bindings urn p → Binds bindings urn q → p = q := by
  constructor
  · rintro h urn p q ⟨a, ha, rfl, rfl⟩ ⟨b, hb, hurn, rfl⟩
    exact h a ha b hb hurn.symm
  · intro h a ha b hb hurn
    exact h a.urn a.pkg b.pkg ⟨a, ha, rfl, rfl⟩ ⟨b, hb, hurn.symm, rfl⟩

/-- The conflict of the earliest binding that disagrees with the first binding of its URN. -/
def Blames (bindings : List Binding) (conflict : Conflict) : Prop :=
  ∃ earlier later,
    bindings =
      earlier ++ ⟨conflict.urn, conflict.conflictingPackage, conflict.document⟩ :: later ∧
    Consistent earlier ∧
    firstOf conflict.urn earlier =
      some ⟨conflict.urn, conflict.existingPackage, conflict.existingDocument⟩ ∧
    conflict.existingPackage ≠ conflict.conflictingPackage

/-! ## The first binding of a URN -/

theorem firstOf_append (urn : String) (as bs : List Binding) :
    firstOf urn (as ++ bs) = (firstOf urn as).or (firstOf urn bs) :=
  List.find?_append

theorem firstOf_singleton (urn : String) (binding : Binding) :
    firstOf urn [binding] = if binding.urn = urn then some binding else none := by
  by_cases h : binding.urn = urn <;> simp [firstOf, h]

theorem firstOf_eq_none {urn : String} {bindings : List Binding} :
    firstOf urn bindings = none ↔ ∀ b ∈ bindings, b.urn ≠ urn := by
  simp [firstOf]

theorem mem_of_firstOf {urn : String} {bindings : List Binding} {first : Binding}
    (h : firstOf urn bindings = some first) : first ∈ bindings ∧ first.urn = urn :=
  ⟨List.mem_of_find?_eq_some h, by simpa using List.find?_some h⟩

/-! ## Consistency -/

theorem consistent_nil : Consistent [] := fun a ha => absurd ha (by simp)

theorem Consistent.of_append {as bs : List Binding} (h : Consistent (as ++ bs)) : Consistent as :=
  fun a ha b hb => h a (List.mem_append_left _ ha) b (List.mem_append_left _ hb)

/-- A further binding keeps consistency when it agrees with the first binding of its URN. -/
theorem consistent_append_singleton {bindings : List Binding} {binding : Binding}
    (h : Consistent bindings)
    (hfirst : ∀ first, firstOf binding.urn bindings = some first → first.pkg = binding.pkg) :
    Consistent (bindings ++ [binding]) := by
  -- any binding of the new one's URN agrees with the first of them, and so with the new one
  have hagrees : ∀ a ∈ bindings, a.urn = binding.urn → a.pkg = binding.pkg := by
    intro a ha hurn
    cases hf : firstOf binding.urn bindings with
    | none => exact absurd hurn (firstOf_eq_none.1 hf a ha)
    | some first =>
      obtain ⟨hmem, hfurn⟩ := mem_of_firstOf hf
      rw [h a ha first hmem (hurn.trans hfurn.symm), hfirst first hf]
  intro a ha b hb hurn
  rw [List.mem_append, List.mem_singleton] at ha hb
  rcases ha with ha | rfl <;> rcases hb with hb | rfl
  · exact h a ha b hb hurn
  · exact hagrees a ha hurn
  · exact (hagrees b hb hurn.symm).symm
  · rfl

/-- Bindings are consistent, or some conflict is to blame. -/
theorem consistent_or_blames (bindings : List Binding) :
    Consistent bindings ∨ ∃ conflict, Blames bindings conflict := by
  induction bindings using List.reverseRecOn with
  | nil => exact Or.inl consistent_nil
  | append_singleton bindings binding ih =>
    rcases ih with hcons | ⟨conflict, earlier, later, rfl, hrest⟩
    · by_cases hfirst : ∀ first, firstOf binding.urn bindings = some first →
          first.pkg = binding.pkg
      · exact Or.inl (consistent_append_singleton hcons hfirst)
      · push Not at hfirst
        obtain ⟨first, hf, hne⟩ := hfirst
        obtain ⟨-, hurn⟩ := mem_of_firstOf hf
        refine Or.inr ⟨⟨binding.urn, first.pkg, first.document, binding.pkg, binding.document⟩,
          bindings, [], rfl, hcons, ?_, hne⟩
        rw [hf, ← hurn]
    · refine Or.inr ⟨conflict, earlier, later ++ [binding], ?_, hrest⟩
      rw [List.append_assoc, List.cons_append]

/-- Where a conflict is to blame, the bindings are not consistent. -/
theorem Blames.not_consistent {bindings : List Binding} {conflict : Conflict}
    (h : Blames bindings conflict) : ¬ Consistent bindings := by
  obtain ⟨earlier, later, rfl, -, hf, hne⟩ := h
  intro hcons
  obtain ⟨hmem, -⟩ := mem_of_firstOf hf
  exact hne (hcons _ (List.mem_append_left _ hmem) _
    (List.mem_append_right _ (List.mem_cons_self ..)) rfl)

/-- Behind consistent bindings, the binding to blame is one of those that follow. -/
theorem Blames.in_second {as bs : List Binding} {conflict : Conflict} (has : Consistent as)
    (h : Blames (as ++ bs) conflict) :
    ∃ good later,
      bs = good ++ ⟨conflict.urn, conflict.conflictingPackage, conflict.document⟩ :: later ∧
      Consistent (as ++ good) ∧
      firstOf conflict.urn (as ++ good) =
        some ⟨conflict.urn, conflict.existingPackage, conflict.existingDocument⟩ ∧
      conflict.existingPackage ≠ conflict.conflictingPackage := by
  obtain ⟨earlier, later, hsplit, hrest⟩ := h
  rcases List.append_eq_append_iff.1 hsplit with ⟨good, rfl, hbs⟩ | ⟨tail, has', htail⟩
  · exact ⟨good, later, hbs, hrest⟩
  · cases tail with
    | nil =>
      rw [List.append_nil] at has'
      subst has'
      exact ⟨[], later, htail.symm, by simpa using hrest⟩
    | cons binding tail =>
      -- the binding to blame would stand among the consistent ones
      obtain ⟨rfl, rfl⟩ : _ = binding ∧ later = tail ++ bs := by simpa using htail
      exact absurd has (Blames.not_consistent ⟨earlier, tail, has', hrest⟩)

/-! ## Tables -/

namespace MappingTable

/-- The table finds for each URN the first of the bindings. -/
def Holds (table : MappingTable) (bindings : List Binding) : Prop :=
  ∀ urn, table.find? urn = firstOf urn bindings

theorem holds_empty : empty.Holds [] := fun _ => rfl

/-- The import path of a URN in a table that holds consistent bindings. -/
theorem Holds.get?_eq_some {table : MappingTable} {bindings : List Binding}
    (h : table.Holds bindings) (hcons : Consistent bindings) (urn pkg : String) :
    table.get? urn = some pkg ↔ Binds bindings urn pkg := by
  unfold get? Binds
  rw [h urn, Option.map_eq_some_iff]
  constructor
  · rintro ⟨first, hf, rfl⟩
    obtain ⟨hmem, hurn⟩ := mem_of_firstOf hf
    exact ⟨first, hmem, hurn, rfl⟩
  · rintro ⟨b, hb, rfl, rfl⟩
    cases hf : firstOf b.urn bindings with
    | none => exact absurd rfl (firstOf_eq_none.1 hf b hb)
    | some first =>
      obtain ⟨hmem, hurn⟩ := mem_of_firstOf hf
      exact ⟨first, rfl, hcons first hmem b hb hurn⟩

/-- An entry that agrees with the first binding of its URN is taken. -/
theorem Holds.accept_ok {table : MappingTable} {bindings : List Binding}
    (h : table.Holds bindings) (origin : Path) {entry : MappingEntry}
    (hfirst : ∀ first, firstOf entry.urn bindings = some first → first.pkg = entry.pkg) :
    ∃ table', accept origin table entry = .ok table' ∧
      table'.Holds (bindings ++ [⟨entry.urn, entry.pkg, origin⟩]) := by
  unfold accept
  rw [h entry.urn]
  cases hf : firstOf entry.urn bindings with
  | none =>
    refine ⟨_, rfl, fun urn => ?_⟩
    rw [firstOf_append, firstOf_singleton, ← h urn]
    by_cases hurn : entry.urn = urn
    · subst hurn
      rw [h entry.urn, hf]
      simp [find?]
    · simp [find?, hurn]
  | some first =>
    refine ⟨table, if_pos (hfirst first hf), fun urn => ?_⟩
    rw [firstOf_append, firstOf_singleton, ← h urn]
    by_cases hurn : entry.urn = urn
    · subst hurn
      rw [h entry.urn, hf]
      rfl
    · simp [hurn]

/-- An entry that disagrees with the first binding of its URN is refused. -/
theorem Holds.accept_error {table : MappingTable} {bindings : List Binding}
    (h : table.Holds bindings) {origin : Path} {entry : MappingEntry} {first : Binding}
    (hf : firstOf entry.urn bindings = some first) (hne : first.pkg ≠ entry.pkg) :
    accept origin table entry =
      .error ⟨entry.urn, first.pkg, first.document, entry.pkg, origin⟩ := by
  unfold accept
  rw [h entry.urn, hf]
  exact if_neg hne

/-- Entries that keep the bindings consistent are all taken, and those behind them come next. -/
theorem Holds.acceptAll_append {table : MappingTable} {bindings : List Binding}
    (h : table.Holds bindings) {origin : Path} (entries rest : List MappingEntry)
    (hcons : Consistent (bindings ++ MappingDocument.bindings origin ⟨entries⟩)) :
    ∃ table', acceptAll origin table (entries ++ rest) = acceptAll origin table' rest ∧
      table'.Holds (bindings ++ MappingDocument.bindings origin ⟨entries⟩) := by
  induction entries generalizing table bindings with
  | nil => exact ⟨table, rfl, by simpa [MappingDocument.bindings] using h⟩
  | cons entry entries ih =>
    have hsplit : bindings ++ MappingDocument.bindings origin ⟨entry :: entries⟩ =
        (bindings ++ [⟨entry.urn, entry.pkg, origin⟩]) ++
          MappingDocument.bindings origin ⟨entries⟩ := by
      simp [MappingDocument.bindings]
    rw [hsplit] at hcons ⊢
    have hagrees : ∀ first, firstOf entry.urn bindings = some first → first.pkg = entry.pkg := by
      intro first hf
      obtain ⟨hmem, hurn⟩ := mem_of_firstOf hf
      exact hcons.of_append first (List.mem_append_left _ hmem) ⟨entry.urn, entry.pkg, origin⟩
        (by simp) hurn
    obtain ⟨next, haccept, hnext⟩ := h.accept_ok origin hagrees
    obtain ⟨table', hall, hheld⟩ := ih hnext hcons
    refine ⟨table', ?_, hheld⟩
    rw [List.cons_append, acceptAll, haccept]
    exact hall

/-- A document that keeps the bindings consistent is merged. -/
theorem Holds.merge_of_consistent {table : MappingTable} {bindings : List Binding}
    (h : table.Holds bindings) {origin : Path} {document : MappingDocument}
    (hcons : Consistent (bindings ++ document.bindings origin)) :
    ∃ table', table.merge origin document = (none, table') ∧
      table'.Holds (bindings ++ document.bindings origin) := by
  obtain ⟨table', hall, hheld⟩ := h.acceptAll_append document.entries [] hcons
  rw [List.append_nil] at hall
  exact ⟨table', hall, hheld⟩

/-- A document that does not is refused with the conflict that is to blame. -/
theorem Holds.merge_of_blames {table : MappingTable} {bindings : List Binding}
    (h : table.Holds bindings) (hbefore : Consistent bindings) {origin : Path}
    {document : MappingDocument} {conflict : Conflict}
    (hblames : Blames (bindings ++ document.bindings origin) conflict) :
    ∃ table', table.merge origin document = (some conflict, table') := by
  obtain ⟨good, later, hsplit, hcons, hf, hne⟩ := hblames.in_second hbefore
  -- the same split of the document's entries
  obtain ⟨entries, others, hentries, rfl, hothers⟩ := List.map_eq_append_iff.1 hsplit
  obtain ⟨entry, rest, rfl, hentry, -⟩ := List.map_eq_cons_iff.1 hothers
  obtain ⟨hurn, hpkg, horigin⟩ := Binding.mk.inj hentry
  obtain ⟨table', hall, hheld⟩ := h.acceptAll_append entries (entry :: rest) hcons
  refine ⟨table', ?_⟩
  rw [← hurn] at hf
  rw [← hpkg] at hne
  rw [merge, hentries, hall, acceptAll, hheld.accept_error hf hne, hurn, hpkg, horigin]

end MappingTable

end Pipewright
