import Mathlib.Data.Set.Card
import Pipewright.Proofs.Mapping.Merging

set_option autoImplicit false

/-! # A history of merges

A table goes through a history of merges, and a merge that fails does not end it: what came before
the conflict stays, and the next document is merged into that.

The bindings that a history has `accepted` can be told without a table. Of each document they are
the ones up to the first that `Disagrees` with what stands. The table `Holds` them
(`holds_mergeEach`), and they only ever grow at the end, so that nothing that `get?` has told once
is taken back. The main result is `mergeEach_tells_accepted`. -/

namespace Pipewright

/-- Whether a binding gives its URN another import path than one that stands. -/
def Disagrees (standing : List Binding) (binding : Binding) : Prop :=
  ∃ earlier ∈ standing, earlier.urn = binding.urn ∧ earlier.pkg ≠ binding.pkg

instance (standing : List Binding) (binding : Binding) : Decidable (Disagrees standing binding) :=
  inferInstanceAs (Decidable (∃ earlier ∈ standing, _))

/-- The bindings before the first that disagrees with what stands or with one before it. -/
def agreeing (standing : List Binding) : List Binding → List Binding
  | [] => []
  | binding :: rest =>
    if Disagrees standing binding then []
    else binding :: agreeing (standing ++ [binding]) rest

/-- The bindings that a history of merges takes, in order. -/
def accepted (history : List (Path × MappingDocument)) : List Binding :=
  history.foldl
    (fun standing merge => standing ++ agreeing standing (merge.2.bindings merge.1)) []

/-- The table after a history of merges, the failing ones included. -/
def MappingTable.mergeEach (table : MappingTable) (history : List (Path × MappingDocument)) :
    MappingTable :=
  history.foldl (fun table merge => (table.merge merge.1 merge.2).2) table

/-! ## Bindings that agree -/

/-- Consistent bindings stay so with one behind them that does not disagree. -/
theorem Consistent.append_of_not_disagrees {standing : List Binding} {binding : Binding}
    (h : Consistent standing) (hagrees : ¬ Disagrees standing binding) :
    Consistent (standing ++ [binding]) := by
  refine consistent_append_singleton h fun first hf => ?_
  obtain ⟨hmem, hurn⟩ := mem_of_firstOf hf
  by_contra hne
  exact hagrees ⟨first, hmem, hurn, hne⟩

/-- What disagrees with consistent bindings disagrees with the first of its URN. -/
theorem Disagrees.firstOf_ne {standing : List Binding} {binding : Binding}
    (h : Disagrees standing binding) (hcons : Consistent standing) :
    ∃ first, firstOf binding.urn standing = some first ∧ first.pkg ≠ binding.pkg := by
  obtain ⟨earlier, hmem, hurn, hne⟩ := h
  cases hf : firstOf binding.urn standing with
  | none => exact absurd hurn (firstOf_eq_none.1 hf earlier hmem)
  | some first =>
    obtain ⟨hfirst, hfurn⟩ := mem_of_firstOf hf
    have hsame : first.pkg = earlier.pkg := hcons first hfirst earlier hmem (by rw [hfurn, hurn])
    exact ⟨first, rfl, by rwa [hsame]⟩

theorem Disagrees.not_consistent {standing : List Binding} {binding : Binding}
    {rest : List Binding} (h : Disagrees standing binding) :
    ¬ Consistent (standing ++ binding :: rest) := by
  obtain ⟨earlier, hmem, hurn, hne⟩ := h
  intro hcons
  exact hne (hcons earlier (List.mem_append_left _ hmem) binding (by simp) hurn)

theorem Consistent.append_agreeing {standing : List Binding} (h : Consistent standing)
    (bindings : List Binding) : Consistent (standing ++ agreeing standing bindings) := by
  induction bindings generalizing standing with
  | nil => simpa [agreeing] using h
  | cons binding rest ih =>
    rw [agreeing]
    split
    · simpa using h
    · rename_i hagrees
      simpa using ih (h.append_of_not_disagrees hagrees)

/-- All bindings agree, or those before the first that disagrees. -/
theorem agreeing_cases (standing bindings : List Binding) :
    agreeing standing bindings = bindings ∨
      ∃ bad later, bindings = agreeing standing bindings ++ bad :: later ∧
        Disagrees (standing ++ agreeing standing bindings) bad := by
  induction bindings generalizing standing with
  | nil => exact Or.inl rfl
  | cons binding rest ih =>
    rw [agreeing]
    split
    · rename_i hbad
      exact Or.inr ⟨binding, rest, rfl, by simpa using hbad⟩
    · rcases ih (standing ++ [binding]) with hall | ⟨bad, later, hsplit, hbad⟩
      · exact Or.inl (by rw [hall])
      · exact Or.inr ⟨bad, later, by rw [List.cons_append, ← hsplit], by simpa using hbad⟩

/-- Some binding is left out exactly where one disagrees with what comes before it. -/
theorem agreeing_ne_iff {standing : List Binding} (h : Consistent standing)
    (bindings : List Binding) :
    agreeing standing bindings ≠ bindings ↔
      ∃ good bad later, bindings = good ++ bad :: later ∧ Disagrees (standing ++ good) bad := by
  constructor
  · intro hne
    rcases agreeing_cases standing bindings with hall | ⟨bad, later, hsplit, hbad⟩
    · exact absurd hall hne
    · exact ⟨_, bad, later, hsplit, hbad⟩
  · rintro ⟨good, bad, later, rfl, hbad⟩ hall
    have hcons := h.append_agreeing (good ++ bad :: later)
    rw [hall, ← List.append_assoc] at hcons
    exact hbad.not_consistent hcons

/-! ## One merge -/

namespace MappingTable

/-- Entries are taken as long as they agree, and the next one is refused. -/
theorem Holds.acceptAll_agreeing {table : MappingTable} {standing : List Binding}
    (h : table.Holds standing) (hcons : Consistent standing) (origin : Path)
    (entries : List MappingEntry) :
    let asked := MappingDocument.bindings origin ⟨entries⟩
    (acceptAll origin table entries).2.Holds (standing ++ agreeing standing asked) ∧
      ((acceptAll origin table entries).1 = none ↔ agreeing standing asked = asked) := by
  induction entries generalizing table standing with
  | nil => simpa [acceptAll, agreeing, MappingDocument.bindings] using h
  | cons entry entries ih =>
    simp only [MappingDocument.bindings, List.map_cons, agreeing, acceptAll] at ih ⊢
    by_cases hbad : Disagrees standing ⟨entry.urn, entry.pkg, origin⟩
    · obtain ⟨first, hf, hne⟩ := hbad.firstOf_ne hcons
      rw [if_pos hbad, h.accept_error hf hne]
      simpa using h
    · have hgrown := hcons.append_of_not_disagrees hbad
      obtain ⟨next, haccept, hnext⟩ := h.accept_ok origin fun first hf => by
        obtain ⟨hmem, hurn⟩ := mem_of_firstOf hf
        by_contra hne
        exact hbad ⟨first, hmem, hurn, hne⟩
      obtain ⟨hheld, hnone⟩ := ih hnext hgrown
      rw [if_neg hbad, haccept]
      exact ⟨by simpa using hheld, by simpa using hnone⟩

/-- A merge takes the bindings that agree, and fails when some are left out. -/
theorem Holds.merge_agreeing {table : MappingTable} {standing : List Binding}
    (h : table.Holds standing) (hcons : Consistent standing) (origin : Path)
    (document : MappingDocument) :
    (table.merge origin document).2.Holds
        (standing ++ agreeing standing (document.bindings origin)) ∧
      ((table.merge origin document).1 = none ↔
        agreeing standing (document.bindings origin) = document.bindings origin) :=
  h.acceptAll_agreeing hcons origin document.entries

/-- Each URN is bound once. -/
def Distinct (table : MappingTable) : Prop := (table.bindings.map (·.urn)).Nodup

theorem find?_eq_none {table : MappingTable} {urn : String} :
    table.find? urn = none ↔ urn ∉ table.bindings.map (·.urn) := by
  simp [find?]

theorem Distinct.accept {table next : MappingTable} (h : table.Distinct) {origin : Path}
    {entry : MappingEntry} (haccept : accept origin table entry = .ok next) : next.Distinct := by
  unfold MappingTable.accept at haccept
  split at haccept
  · rename_i hnone
    obtain rfl := Except.ok.inj haccept
    exact List.nodup_cons.2 ⟨find?_eq_none.1 hnone, h⟩
  · split at haccept
    · obtain rfl := Except.ok.inj haccept
      exact h
    · exact absurd haccept (by simp)

theorem Distinct.acceptAll {table : MappingTable} (h : table.Distinct) (origin : Path)
    (entries : List MappingEntry) : (acceptAll origin table entries).2.Distinct := by
  induction entries generalizing table with
  | nil => exact h
  | cons entry entries ih =>
    rw [MappingTable.acceptAll]
    split
    · rename_i haccept
      exact ih (h.accept haccept)
    · exact h

/-- A table that binds each URN once has as many bindings as there are bound URNs. -/
theorem Distinct.size_eq_ncard {table : MappingTable} (h : table.Distinct) :
    table.size = Set.ncard {urn | (table.get? urn).isSome} := by
  have hbound : {urn | (table.get? urn).isSome} =
      ((table.bindings.map (·.urn)).toFinset : Set String) := by
    ext urn
    simp [get?, find?]
  rw [hbound, Set.ncard_coe_finset, List.toFinset_card_of_nodup h, List.length_map]
  rfl

/-! ## A history of merges -/

theorem accepted_append_singleton (history : List (Path × MappingDocument)) (origin : Path)
    (document : MappingDocument) :
    accepted (history ++ [(origin, document)]) =
      accepted history ++ agreeing (accepted history) (document.bindings origin) := by
  simp [accepted]

theorem mergeEach_append (table : MappingTable) (history more : List (Path × MappingDocument)) :
    table.mergeEach (history ++ more) = (table.mergeEach history).mergeEach more :=
  List.foldl_append

/-- What has been accepted stays in front of all that is accepted later. -/
theorem accepted_append (history more : List (Path × MappingDocument)) :
    ∃ later, accepted (history ++ more) = accepted history ++ later := by
  induction more using List.reverseRecOn with
  | nil => exact ⟨[], by simp⟩
  | append_singleton more merge ih =>
    obtain ⟨later, hlater⟩ := ih
    obtain ⟨origin, document⟩ := merge
    rw [← List.append_assoc, accepted_append_singleton, hlater, List.append_assoc]
    exact ⟨_, rfl⟩

theorem consistent_accepted (history : List (Path × MappingDocument)) :
    Consistent (accepted history) := by
  induction history using List.reverseRecOn with
  | nil => exact consistent_nil
  | append_singleton history merge ih =>
    obtain ⟨origin, document⟩ := merge
    rw [accepted_append_singleton]
    exact ih.append_agreeing _

/-- The table after a history holds what the history has accepted. -/
theorem holds_mergeEach (history : List (Path × MappingDocument)) :
    (empty.mergeEach history).Holds (accepted history) := by
  induction history using List.reverseRecOn with
  | nil => exact holds_empty
  | append_singleton history merge ih =>
    obtain ⟨origin, document⟩ := merge
    rw [accepted_append_singleton, mergeEach_append]
    exact (ih.merge_agreeing (consistent_accepted history) origin document).1

theorem distinct_mergeEach (history : List (Path × MappingDocument)) :
    (empty.mergeEach history).Distinct := by
  induction history using List.reverseRecOn with
  | nil => exact List.nodup_nil
  | append_singleton history merge ih =>
    rw [mergeEach_append]
    exact ih.acceptAll merge.1 merge.2.entries

theorem get?_mergeEach (history : List (Path × MappingDocument)) (urn : String) :
    (empty.mergeEach history).get? urn = (firstOf urn (accepted history)).map (·.pkg) := by
  rw [get?, holds_mergeEach history urn]

/-- What `get?` tells once it tells for ever. -/
theorem get?_mergeEach_append {history : List (Path × MappingDocument)} {urn pkg : String}
    (h : (empty.mergeEach history).get? urn = some pkg) (more : List (Path × MappingDocument)) :
    (empty.mergeEach (history ++ more)).get? urn = some pkg := by
  obtain ⟨later, hlater⟩ := accepted_append history more
  rw [get?_mergeEach] at h ⊢
  obtain ⟨first, hf, hpkg⟩ := Option.map_eq_some_iff.1 h
  rw [hlater, firstOf_append, hf, Option.some_or, Option.map_some, hpkg]

/-- An entry disagrees with what the history has accepted and some entries of its document when it
    disagrees with the table or with one of these. -/
theorem disagrees_append_iff (history : List (Path × MappingDocument)) (origin : Path)
    (entries : List MappingEntry) (entry : MappingEntry) :
    Disagrees (accepted history ++ MappingDocument.bindings origin ⟨entries⟩)
        ⟨entry.urn, entry.pkg, origin⟩ ↔
      (∃ pkg, (empty.mergeEach history).get? entry.urn = some pkg ∧ pkg ≠ entry.pkg) ∨
        ∃ earlier ∈ entries, earlier.urn = entry.urn ∧ earlier.pkg ≠ entry.pkg := by
  have hstanding : (∃ pkg, (empty.mergeEach history).get? entry.urn = some pkg ∧
      pkg ≠ entry.pkg) ↔ Disagrees (accepted history) ⟨entry.urn, entry.pkg, origin⟩ := by
    simp only [(holds_mergeEach history).get?_eq_some (consistent_accepted history), Binds,
      Disagrees]
    constructor
    · rintro ⟨pkg, ⟨earlier, hmem, hurn, rfl⟩, hne⟩
      exact ⟨earlier, hmem, hurn, hne⟩
    · rintro ⟨earlier, hmem, hurn, hne⟩
      exact ⟨earlier.pkg, ⟨earlier, hmem, hurn, rfl⟩, hne⟩
  rw [hstanding]
  simp [Disagrees, MappingDocument.bindings, or_and_right, exists_or]

/-- A merge fails exactly where an entry disagrees with the table or with an earlier entry of its
    document. -/
theorem merge_mergeEach_isSome_iff (history : List (Path × MappingDocument)) (origin : Path)
    (document : MappingDocument) :
    (((empty.mergeEach history).merge origin document).1.isSome ↔
      ∃ good bad later, document.entries = good ++ bad :: later ∧
        ((∃ pkg, (empty.mergeEach history).get? bad.urn = some pkg ∧ pkg ≠ bad.pkg) ∨
          ∃ earlier ∈ good, earlier.urn = bad.urn ∧ earlier.pkg ≠ bad.pkg)) := by
  obtain ⟨-, hnone⟩ := (holds_mergeEach history).merge_agreeing (consistent_accepted history)
    origin document
  rw [Option.isSome_iff_ne_none, ne_eq, hnone, ← ne_eq,
    agreeing_ne_iff (consistent_accepted history)]
  simp only [← disagrees_append_iff history origin]
  constructor
  · rintro ⟨good, bad, later, hsplit, hbad⟩
    -- the same split of the document's entries
    obtain ⟨entries, others, hentries, rfl, hothers⟩ := List.map_eq_append_iff.1 hsplit
    obtain ⟨entry, rest, rfl, rfl, -⟩ := List.map_eq_cons_iff.1 hothers
    exact ⟨entries, entry, rest, hentries, hbad⟩
  · rintro ⟨good, bad, later, hsplit, hbad⟩
    exact ⟨_, _, MappingDocument.bindings origin ⟨later⟩,
      by simp [MappingDocument.bindings, hsplit], hbad⟩

/-- After any history of merges, the failing ones included, the table tells of each URN the first
    accepted import path. A merge accepts all its entries, or when it fails those before its first
    conflicting entry. Whatever is told once stays; the size is the number of the bound URNs; and a
    merge fails exactly where an entry disagrees with the table or with an earlier entry of its
    document. -/
theorem mergeEach_tells_accepted (history : List (Path × MappingDocument)) :
    let table := empty.mergeEach history
    (∀ urn, table.get? urn = (firstOf urn (accepted history)).map (·.pkg)) ∧
    (∀ origin document,
      ((table.merge origin document).1 = none →
        accepted (history ++ [(origin, document)]) =
          accepted history ++ document.bindings origin) ∧
      (∀ conflict, (table.merge origin document).1 = some conflict →
        ∃ good bad later, document.bindings origin = good ++ bad :: later ∧
          accepted (history ++ [(origin, document)]) = accepted history ++ good ∧
          Consistent (accepted history ++ good) ∧ Disagrees (accepted history ++ good) bad)) ∧
    (∀ more urn pkg, table.get? urn = some pkg →
      (empty.mergeEach (history ++ more)).get? urn = some pkg) ∧
    table.size = Set.ncard {urn | (table.get? urn).isSome} ∧
    (∀ origin document, (table.merge origin document).1.isSome ↔
      ∃ good bad later, document.entries = good ++ bad :: later ∧
        ((∃ pkg, table.get? bad.urn = some pkg ∧ pkg ≠ bad.pkg) ∨
          ∃ earlier ∈ good, earlier.urn = bad.urn ∧ earlier.pkg ≠ bad.pkg)) := by
  intro table
  refine ⟨get?_mergeEach history, fun origin document => ⟨fun hok => ?_, fun conflict hbad => ?_⟩,
    fun more urn pkg htold => get?_mergeEach_append htold more,
    (distinct_mergeEach history).size_eq_ncard, merge_mergeEach_isSome_iff history⟩
  all_goals
    obtain ⟨-, hnone⟩ := (holds_mergeEach history).merge_agreeing (consistent_accepted history)
      origin document
  · rw [accepted_append_singleton, hnone.1 hok]
  · rcases agreeing_cases (accepted history) (document.bindings origin) with
      hall | ⟨bad, later, hsplit, hdisagrees⟩
    · exact absurd (hnone.2 hall) (by rw [hbad]; simp)
    · exact ⟨_, bad, later, hsplit, accepted_append_singleton history origin document,
        (consistent_accepted history).append_agreeing _, hdisagrees⟩

end MappingTable

end Pipewright
