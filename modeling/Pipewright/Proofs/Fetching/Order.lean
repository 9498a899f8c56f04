import Pipewright.Proofs.Fetching.Commands
import Pipewright.Proofs.Fetching.SourceDirs
import Pipewright.Proofs.Mapping.Resolution

set_option autoImplicit false

/-! # The order of fetching

Resolution gives packages by ascending import path. Among import paths without empty pieces, one
that goes on where another ends is the later of the two (`Package.uri_lt`), whatever else stands
between them: `a-b` comes between `a` and `a/b`. So the directories are all different, and each
comes before those below it.

A pass does its work in blocks, one for each package, of which the first step is to look whether
the directory of the package is there (`GoPass.blocks`). **Nothing has then been downloaded that
lives below this directory** (`resolve_safeOrder`), so a directory that is found there has not been
made by the pass on the way to a package below it. -/

namespace Pipewright

open Pipewright.Path Pipewright.Action

/-! ## Import paths in order -/

namespace Package

/-- No piece between the slashes of the import path is empty. -/
def IsProper (package : Package) : Prop := [] ∉ splitSlash package.uri.toList

instance (package : Package) : Decidable package.IsProper :=
  inferInstanceAs (Decidable ([] ∉ splitSlash package.uri.toList))

variable {package other : Package}

/-- A proper import path is made of its segments. -/
theorem IsProper.uri_eq (h : package.IsProper) :
    package.uri = "/".intercalate (segments package.uri) := by
  have hall : (splitSlash package.uri.toList).filter (· ≠ []) = splitSlash package.uri.toList := by
    refine List.filter_eq_self.2 fun piece hpiece => ?_
    simpa using fun hempty : piece = [] => h (hempty ▸ hpiece)
  have hpieces : (segments package.uri).map String.toList = splitSlash package.uri.toList := by
    rw [segments, hall, List.map_map]
    exact List.map_id'' (fun _ => String.toList_ofList) _
  rw [← String.toList_inj, String.toList_intercalate, hpieces]
  exact ((joinSlash_splitSlash _).symm.trans (joinSlash_eq_intercalate _))

theorem IsProper.segments_ne_nil (h : package.IsProper) : segments package.uri ≠ [] := by
  intro hnone
  have huri := h.uri_eq
  rw [hnone, String.intercalate_nil] at huri
  exact h (by rw [huri]; decide)

/-- Of two proper import paths, the one that goes on where the other ends is the later one. -/
theorem uri_lt (hpackage : package.IsProper) (hother : other.IsProper) {names : List String}
    (hsome : names ≠ []) (hsegments : segments other.uri = segments package.uri ++ names) :
    package.uri < other.uri := by
  have huri : other.uri = package.uri ++ "/" ++ "/".intercalate names := by
    conv_lhs => rw [hother.uri_eq, hsegments]
    rw [String.intercalate_append_of_ne_nil hpackage.segments_ne_nil hsome, ← hpackage.uri_eq]
  have hchars : other.uri.toList = package.uri.toList ++ '/' :: ("/".intercalate names).toList := by
    rw [huri]
    simp
  rw [String.lt_iff_toList_lt, hchars]
  have hlonger : package.uri.toList ++ [] <
      package.uri.toList ++ '/' :: ("/".intercalate names).toList :=
    List.append_left_lt (List.nil_lt_cons _ _)
  rwa [List.append_nil] at hlonger

/-- The first package has another directory than the second one and does not live below it. -/
def StandsBefore (first later : Package) : Prop :=
  first.sourceDir ≠ later.sourceDir ∧ ¬ first.sourceDir.LiesBelow later.sourceDir

theorem standsBefore_of_lt (hroot : package.sourceRoot = other.sourceRoot)
    (hpackage : package.IsProper) (hother : other.IsProper) (hlt : package.uri < other.uri) :
    package.StandsBefore other := by
  constructor
  · intro hdir
    have hsegments := (sourceDir_eq_iff hroot).1 hdir
    have huri : package.uri = other.uri := by rw [hpackage.uri_eq, hother.uri_eq, hsegments]
    exact absurd (huri ▸ hlt) (lt_irrefl _)
  · intro hbelow
    obtain ⟨names, hsome, hsegments⟩ := (liesBelow_iff hroot).1 hbelow
    exact lt_asymm hlt (uri_lt hother hpackage hsome hsegments)

end Package

/-- Import paths are found in ascending order. -/
theorem MappingTable.importPaths_pairwise {table : MappingTable} {urns found uris : List String}
    (h : table.importPaths urns found = .ok uris) (hfound : found.Pairwise (· < ·)) :
    uris.Pairwise (· < ·) := by
  induction urns generalizing found with
  | nil => exact Except.ok.inj h ▸ hfound
  | cons urn rest ih =>
    unfold importPaths at h
    cases hget : table.get? urn with
    | none =>
      rw [hget] at h
      cases h
    | some pkg =>
      rw [hget] at h
      exact ih h (pairwise_insertText hfound)

/-- The packages ascend by import path, and all have this root. -/
structure Ascend (root : Path) (packages : List Package) : Prop where
  uris : packages.Pairwise fun first later => first.uri < later.uri
  roots : ∀ package ∈ packages, package.sourceRoot = root

theorem MappingTable.resolve_ascend {table : MappingTable} {root : Path} {urns : List String}
    {packages : List Package} (h : table.resolve root urns = .ok packages) :
    Ascend root packages := by
  unfold resolve at h
  cases hpaths : table.importPaths urns [] with
  | error urn =>
    rw [hpaths] at h
    cases h
  | ok uris =>
    rw [hpaths] at h
    cases h
    refine ⟨?_, fun package hpackage => ?_⟩
    · rw [List.pairwise_map]
      exact importPaths_pairwise hpaths .nil
    · obtain ⟨uri, -, rfl⟩ := List.mem_map.1 hpackage
      rfl

namespace Ascend

variable {root : Path} {packages : List Package}

/-- Pins change neither the order nor the root. -/
theorem pinned (h : Ascend root packages) (pins : Pins) :
    Ascend root (applyPins pins packages) := by
  constructor
  · refine List.pairwise_map.2 (h.uris.imp fun {first later} hlt => ?_)
    rw [(first.pinned_revised pins).uri, (later.pinned_revised pins).uri]
    exact hlt
  · intro package hpackage
    obtain ⟨plain, hplain, rfl⟩ := List.mem_map.1 hpackage
    rw [(plain.pinned_revised pins).sourceRoot, h.roots plain hplain]

theorem standsBefore (h : Ascend root packages) :
    packages.Pairwise fun first later =>
      first.IsProper → later.IsProper → first.StandsBefore later :=
  h.uris.imp_of_mem fun {first later} hfirst hlater hlt hproper hproper' =>
    Package.standsBefore_of_lt ((h.roots first hfirst).trans (h.roots later hlater).symm) hproper
      hproper' hlt

/-- The packages with proper import paths all have directories of their own, and none comes before
    one that it lives below. -/
theorem filter_standsBefore (h : Ascend root packages) :
    (packages.filter (·.IsProper)).Pairwise Package.StandsBefore := by
  refine List.pairwise_filter.2 (h.standsBefore.imp fun hbefore hfirst hlater => ?_)
  exact hbefore (of_decide_eq_true hfirst) (of_decide_eq_true hlater)

end Ascend

/-! ## A pass in blocks -/

/-- The effects of a pass that bring in one package. -/
structure FetchBlock where
  package : Package
  effects : List Effect

/-- The block begins with the look whether the package is there, and goes on with commands that
    bring it in. -/
def FetchBlock.BringsIn (toolchain : Toolchain) (update : Bool) (block : FetchBlock) : Prop :=
  ∃ isPresent issued, issued <+: toolchain.commandsFor update isPresent block.package ∧
    block.effects = .inspect block.package.sourceDir :: issued.map .command

section Passes

variable {host : Host} {toolchain : Toolchain} {update : Bool}

theorem Host.Issues.issued_initial {package : Package} {start after : World}
    {commands issued : List Invocation} {result : Except Failure Unit}
    (h : host.Issues package start commands issued result after) : issued <+: commands := by
  cases h with
  | all => exact List.prefix_rfl
  | @upTo done rest failing _ _ _ hsplit => exact ⟨rest, by rw [hsplit]; simp⟩

theorem GoFetches.bringsIn {package : Package} {start after : World} {effects : List Effect}
    {result : Except Failure Unit}
    (h : GoFetches host toolchain update package start effects result after) :
    FetchBlock.BringsIn toolchain update ⟨package, effects⟩ := by
  cases h with
  | unchecked => exact ⟨false, [], List.nil_prefix, rfl⟩
  | checked _ hissues => exact ⟨_, _, hissues.issued_initial, rfl⟩

/-- A pass goes through its packages in order, one block for each, up to the one that it stops
    at. -/
theorem GoPass.blocks {packages : List Package} {start after : World} {effects : List Effect}
    {result : Except Failure Unit}
    (h : GoPass host toolchain update start packages effects result after) :
    ∃ blocks : List FetchBlock, effects = blocks.flatMap (·.effects) ∧
      blocks.map (·.package) <+: packages ∧ ∀ block ∈ blocks, block.BringsIn toolchain update := by
  induction h with
  | done start => exact ⟨[], rfl, List.prefix_rfl, nofun⟩
  | @next _ _ _ package _ effects _ _ hfetches _ ih =>
    obtain ⟨blocks, rfl, hpackages, hblocks⟩ := ih
    refine ⟨⟨package, effects⟩ :: blocks, rfl, ?_, ?_⟩
    · exact List.cons_prefix_cons.2 ⟨rfl, hpackages⟩
    · exact List.forall_mem_cons.2 ⟨hfetches.bringsIn, hblocks⟩
  | @stops _ _ package rest effects _ hfetches =>
    refine ⟨[⟨package, effects⟩], (List.append_nil effects).symm, ⟨rest, rfl⟩, ?_⟩
    exact List.forall_mem_singleton.2 hfetches.bringsIn

/-- The last argument of the command that gets a package is its import path. -/
theorem Toolchain.getLast?_get (toolchain : Toolchain) (uri : String) (update : Bool) :
    (toolchain.get uri update).arguments.getLast? = some uri := by
  simp only [get, go]
  exact List.getLast?_concat

/-- A block gets no other package than its own. -/
theorem FetchBlock.BringsIn.uri_eq_of_get {block : FetchBlock}
    (h : block.BringsIn toolchain update) {uri : String} {anew : Bool}
    (hget : .command (toolchain.get uri anew) ∈ block.effects) : block.package.uri = uri := by
  obtain ⟨isPresent, issued, hissued, heffects⟩ := h
  rw [heffects, List.mem_cons, List.mem_map] at hget
  obtain hlook | ⟨command, hcommand, hsame⟩ := hget
  · cases hlook
  obtain rfl : command = toolchain.get uri anew := Effect.command.inj hsame
  obtain ⟨other, hother⟩ | hcheckout := Toolchain.mem_commandsFor (hissued.subset hcommand)
  · have hlast := toolchain.getLast?_get uri anew
    rw [hother, ← toolchain.get_eq_getFor, toolchain.getLast?_get] at hlast
    exact Option.some.inj hlast
  · -- a checkout is started in the directory of the package, and getting it is not
    cases Toolchain.directory_of_mem_checkoutsFor hcheckout

end Passes

/-! ## Nothing below comes first -/

/-- In blocks that follow ascending packages, no package has been got that lives below the one of
    the block. -/
theorem Ascend.not_got {root : Path} {packages : List Package} (h : Ascend root packages)
    {toolchain : Toolchain} {update : Bool} {before after : List FetchBlock} {block : FetchBlock}
    (hblocks : (before ++ block :: after).map (·.package) <+: packages)
    (hbrings : ∀ earlier ∈ before, earlier.BringsIn toolchain update)
    (hproper : block.package.IsProper) {lower : Package} (hroot : lower.sourceRoot = root)
    (hlower : lower.IsProper) (hbelow : lower.sourceDir.LiesBelow block.package.sourceDir)
    (update' : Bool) :
    .command (toolchain.get lower.uri update') ∉ before.flatMap (·.effects) := by
  intro hgot
  obtain ⟨earlier, hearlier, hget⟩ := List.mem_flatMap.1 hgot
  have huri : earlier.package.uri = lower.uri := (hbrings earlier hearlier).uri_eq_of_get hget
  -- the block that got the package is that of a package with the same directory
  have hmem : earlier.package ∈ packages :=
    hblocks.subset (List.mem_map_of_mem (List.mem_append_left _ hearlier))
  have hdir : earlier.package.sourceDir = lower.sourceDir := by
    rw [Package.sourceDir, Package.sourceDir, huri, h.roots _ hmem, hroot]
  have hordered := h.standsBefore.sublist hblocks.sublist
  rw [List.map_append, List.map_cons, List.pairwise_append] at hordered
  have hstands := hordered.2.2 _ (List.mem_map_of_mem hearlier) _ List.mem_cons_self
  have hearlierProper : earlier.package.IsProper := by
    rw [Package.IsProper, huri]
    exact hlower
  exact (hstands hearlierProper hproper).2 (hdir ▸ hbelow)

/-- **Safe order.** Among the resolved packages with proper import paths no two share a directory,
    and a package that another one lives below comes before it. A pass of the go tool's fetcher over
    all resolved packages works in blocks, each of which begins with the look whether the directory
    of its package is there; whatever the commands do, no package that lives below this directory
    has been got before. -/
theorem resolve_safeOrder {table : MappingTable} {root : Path} {urns : List String}
    {packages : List Package} (h : table.resolve root urns = .ok packages) :
    let proper := packages.filter (·.IsProper)
    (proper.map (·.sourceDir)).Nodup ∧
    (∀ (i j : Nat) (upper lower : Package), proper[i]? = some upper → proper[j]? = some lower →
      lower.sourceDir.LiesBelow upper.sourceDir → i < j) ∧
    ∀ (host : Host) (toolchain : Toolchain) (update : Bool) (pins : Pins) (start : World),
      let pinned := applyPins pins packages
      let run := (fetchAll (goFetcher host toolchain) update pins packages).runOn start
      ∃ (blocks : List FetchBlock) (result : Except Failure Unit),
        let effects := blocks.flatMap (·.effects)
        GoPass host toolchain update start pinned effects result run.2 ∧
        (run.1 = result.map fun _ => pinned) ∧
        (host.LeavesJournal → run.2.journal = effects.reverse ++ start.journal) ∧
        blocks.map (·.package) <+: pinned ∧
        (∀ block ∈ blocks, block.BringsIn toolchain update) ∧
        ∀ before block after, blocks = before ++ block :: after → block.package.IsProper →
          ∀ lower ∈ packages, lower.IsProper →
            lower.sourceDir.LiesBelow block.package.sourceDir →
            ∀ update', .command (toolchain.get lower.uri update') ∉ before.flatMap (·.effects) := by
  have hascend := MappingTable.resolve_ascend h
  have hstands := hascend.filter_standsBefore
  refine ⟨?_, fun i j upper lower hupper hlower hbelow => ?_,
    fun host toolchain update pins start => ?_⟩
  · exact List.pairwise_map.2 (hstands.imp And.left)
  · obtain ⟨hi, rfl⟩ := List.getElem?_eq_some_iff.1 hupper
    obtain ⟨hj, rfl⟩ := List.getElem?_eq_some_iff.1 hlower
    rcases Nat.lt_trichotomy i j with hlt | rfl | hgt
    · exact hlt
    · exact absurd rfl hbelow.ne
    · exact absurd hbelow (List.pairwise_iff_getElem.1 hstands j i hj hi hgt).2
  · obtain ⟨effects, result, hpass, hresult⟩ :=
      fetchAll_goPass host toolchain update pins packages start
    obtain ⟨blocks, rfl, hpackages, hbrings⟩ := hpass.blocks
    refine ⟨blocks, result, hpass, hresult, fun hleaves => hpass.journal_eq hleaves, hpackages,
      hbrings, ?_⟩
    rintro before block after rfl hproper lower hmem hlower hbelow update'
    exact (hascend.pinned pins).not_got hpackages
      (fun earlier hearlier => hbrings earlier (List.mem_append_left _ hearlier)) hproper
      (hascend.roots lower hmem) hlower hbelow update'

/-- A table of nested packages. -/
def nestedTable : MappingTable :=
  ⟨[⟨"urn:c", "a-b", "m"⟩, ⟨"urn:b", "a/b", "m"⟩, ⟨"urn:a", "a", "m"⟩]⟩

/-- A package whose import path stands between those of two nested ones changes nothing. -/
theorem resolve_safeOrder_nested :
    let packages := ["a", "a-b", "a/b"].map (Package.latest "/ws/src")
    nestedTable.resolve "/ws/src" ["urn:b", "urn:c", "urn:a"] = .ok packages ∧
      packages.map (·.sourceDir) = ["/ws/src/a", "/ws/src/a-b", "/ws/src/a/b"] ∧
      Path.LiesBelow "/ws/src/a/b" "/ws/src/a" ∧
      ∀ (i j : Nat) (upper lower : Package), packages[i]? = some upper →
        packages[j]? = some lower → lower.sourceDir.LiesBelow upper.sourceDir → i < j := by
  intro packages
  have hresolve : nestedTable.resolve "/ws/src" ["urn:b", "urn:c", "urn:a"] = .ok packages := by
    decide +kernel
  have hproper : packages.filter (·.IsProper) = packages := by decide +kernel
  have hordered := (resolve_safeOrder hresolve).2.1
  rw [hproper] at hordered
  have hbelow : Path.LiesBelow "/ws/src/a/b" "/ws/src/a" :=
    ⟨["b"], List.cons_ne_nil _ _, List.forall_mem_singleton.2 ⟨by decide, by decide⟩,
      by decide +kernel⟩
  exact ⟨hresolve, by decide +kernel, hbelow, hordered⟩

end Pipewright
