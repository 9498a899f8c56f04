import Pipewright.CommandLine.Request
import Pipewright.Proofs.CommandLine.Untested
import Pipewright.Proofs.Dictionary
import Pipewright.Proofs.Workflow.Pinning

set_option autoImplicit false

/-! # Revisions on the command line

**Pins arrive as they are given.** A text is a pin if it has an import path in front of its first
equals sign and a revision behind it (`parsePin?_eq_some_iff`). A command line that gives other
texts for revisions is not read; one that gives pins leads to options that name just the last
revision of each import path, that are never refused on account of them, and with which just the
resolved packages of these import paths are fetched and rendered at these revisions
(`revisions_arrive`). -/

namespace Pipewright

/-- Pins that are whole are no reason to refuse options. -/
theorem CreateOptions.validate_of_brokenPin? {options : CreateOptions}
    (h : brokenPin? options.pins = none) :
    options.validate = { options with pins := [] }.validate := by
  have hnone : brokenPin? [] = none := rfl
  simp only [validate, h, hnone]

namespace CommandLine

/-! ## Pins as texts -/

/-- The text names a revision for an import path. -/
def IsPin (text uri revision : String) : Prop :=
  text = uri ++ "=" ++ revision ∧ '=' ∉ uri.toList ∧ uri ≠ "" ∧ revision ≠ ""

theorem parsePin?_eq_some_iff {text uri revision : String} :
    parsePin? text = some (uri, revision) ↔ IsPin text uri revision := by
  unfold parsePin? IsPin
  constructor
  · intro h
    dsimp only at h
    cases hrest : text.toList.dropWhile fun c => decide (c ≠ '=') with
    | nil =>
      rw [hrest] at h
      cases h
    | cons sign behind =>
      obtain ⟨hsplit, hfree⟩ := split_sign hrest
      generalize text.toList.takeWhile (fun c => decide (c ≠ '=')) = front at h hsplit hfree
      rw [hrest] at h
      dsimp only at h
      split at h
      · cases h
      · next hsome =>
        cases h
        have hboth : front ≠ [] ∧ behind ≠ [] := by simpa using hsome
        refine ⟨String.toList_inj.1 (by simp [hsplit]), by simpa using hfree, ?_, ?_⟩
        · simpa using hboth.1
        · simpa using hboth.2
  · rintro ⟨rfl, hfree, huri, hrevision⟩
    have htext : (uri ++ "=" ++ revision).toList = uri.toList ++ '=' :: revision.toList := by
      simp
    have hempty : ∀ {s : String}, s ≠ "" → s.toList ≠ [] := by simp
    simp only [htext]
    rw [dropWhile_sign hfree, takeWhile_sign hfree]
    simp [hempty huri, hempty hrevision]

/-- The test of the option. -/
theorem pinComplaint?_eq_none_iff {text : String} :
    pinComplaint? text = none ↔ ∃ uri revision, IsPin text uri revision := by
  simp only [← parsePin?_eq_some_iff]
  unfold pinComplaint?
  cases hpin : parsePin? text with
  | none => simp
  | some pin => exact ⟨fun _ => ⟨pin.1, pin.2, rfl⟩, fun _ => rfl⟩

theorem pinComplaint?_of_not {text : String} (h : ∀ uri revision, ¬ IsPin text uri revision) :
    pinComplaint? text = some ("expected <import path>=<revision>, got '" ++ text ++ "'") := by
  unfold pinComplaint?
  cases hpin : parsePin? text with
  | none => rfl
  | some pin => exact absurd (parsePin?_eq_some_iff.1 hpin) (h pin.1 pin.2)

/-- The last of the texts that names a revision for the import path names this one. -/
def LastPin (texts : List String) (uri revision : String) : Prop :=
  ∃ before text after, texts = before ++ text :: after ∧ IsPin text uri revision ∧
    ∀ other ∈ after, ∀ later, ¬ IsPin other uri later

theorem LastPin.ne_empty {texts : List String} {uri revision : String}
    (h : LastPin texts uri revision) : uri ≠ "" ∧ revision ≠ "" := by
  obtain ⟨_, _, _, -, hpin, -⟩ := h
  exact hpin.2.2

/-- No pin is collected for an import path that no text names. -/
theorem not_mem_pins_iff {texts : List String} {uri : String} :
    uri ∉ (texts.filterMap parsePin?).map (·.1) ↔
      ∀ text ∈ texts, ∀ revision, ¬ IsPin text uri revision := by
  simp only [← parsePin?_eq_some_iff]
  constructor
  · intro hnone text htext revision hpin
    exact hnone (List.mem_map.2 ⟨(uri, revision), List.mem_filterMap.2 ⟨text, htext, hpin⟩, rfl⟩)
  · intro hnone hmem
    obtain ⟨⟨_, revision⟩, hpair, rfl⟩ := List.mem_map.1 hmem
    obtain ⟨text, htext, hpin⟩ := List.mem_filterMap.1 hpair
    exact hnone text htext revision hpin

/-- Of the pins that are collected the last ones are kept. -/
theorem get?_pins_iff {texts : List String} {uri revision : String} :
    Dictionary.get? uri (Dictionary.ofList (texts.filterMap parsePin?)) = some revision ↔
      LastPin texts uri revision := by
  rw [Dictionary.get?_ofList_eq_some_iff]
  constructor
  · rintro ⟨before, after, hpairs, hlast⟩
    obtain ⟨first, rest, rfl, -, hrest⟩ := List.filterMap_eq_append_iff.1 hpairs
    obtain ⟨skipped, text, last, rfl, -, hpin, rfl⟩ := List.filterMap_eq_cons_iff.1 hrest
    exact ⟨first ++ skipped, text, last, by simp, parsePin?_eq_some_iff.1 hpin,
      not_mem_pins_iff.1 hlast⟩
  · rintro ⟨before, text, after, rfl, hpin, hlast⟩
    refine ⟨before.filterMap parsePin?, after.filterMap parsePin?, ?_, not_mem_pins_iff.2 hlast⟩
    rw [List.filterMap_append, List.filterMap_cons_some (parsePin?_eq_some_iff.2 hpin)]

/-! ## Pins behind the command line -/

/-- The package has the revision that is named last for its import path, or none if none is. -/
def HasPin (texts : List String) (package : Package) : Prop :=
  ∀ revision, package.revision = revision ∧ revision ≠ "" ↔ LastPin texts package.uri revision

/-- With these options the revisions that the texts name arrive: the pins are the last ones, the
    options are refused for nothing that they would not be refused for without pins, and behind the
    resolution of a configuration its packages are handed on with their pins. -/
structure PinsArrive (texts : List String) (options : CreateOptions) : Prop where
  pins : ∀ uri revision,
    Dictionary.get? uri options.pins = some revision ↔ LastPin texts uri revision
  validate : options.validate = { options with pins := [] }.validate
  handsOn : ∀ (tool : Tool) (configPath : Path) (start resolved : World)
    (pipeline : ResolvedPipeline), options.validate = .ok () →
    (tool.resolve configPath options.sources options.workspace).runOn start =
      (.ok pipeline, resolved) →
    ∃ packages, tool.HandsOn configPath options start pipeline resolved packages ∧
      List.Forall₂ (fun found package => package.uri = found.uri ∧
        package.sourceRoot = found.sourceRoot ∧ HasPin texts package) pipeline.packages packages

section Collected

variable {texts : List String} {options : CreateOptions}
  (hpins : ∀ uri revision,
    Dictionary.get? uri options.pins = some revision ↔ LastPin texts uri revision)

include hpins

/-- A package without a revision gets the pin that is named last for it. -/
theorem hasPin_of_latest {package : Package} (hlatest : package.revision = "") :
    HasPin texts (Tool.pin options package) := by
  intro revision
  unfold Tool.pin
  rw [← hpins, hlatest]
  dsimp only
  cases hpin : Dictionary.get? package.uri options.pins with
  | none => simp
  | some last =>
    have hlast : last ≠ "" := ((hpins _ _).1 hpin).ne_empty.2
    rw [Option.getD_some, Option.some.injEq, and_iff_left_iff_imp]
    rintro rfl
    exact hlast

theorem brokenPin?_of_lastPins (hsorted : Dictionary.IsSorted options.pins) :
    CreateOptions.brokenPin? options.pins = none := by
  refine Option.map_eq_none_iff.2 (List.find?_eq_none.2 fun pin hpin => ?_)
  have hnamed := ((hpins pin.1 pin.2).1 (hsorted.mem_iff.1 hpin)).ne_empty
  simpa using hnamed

end Collected

/-- The pins that are collected from texts arrive. -/
theorem PinsArrive.of_texts {texts : List String} {options : CreateOptions}
    (hpins : options.pins = Dictionary.ofList (texts.filterMap parsePin?)) :
    PinsArrive texts options := by
  have hlast : ∀ uri revision,
      Dictionary.get? uri options.pins = some revision ↔ LastPin texts uri revision := by
    intro uri revision
    rw [hpins, get?_pins_iff]
  have hsorted : Dictionary.IsSorted options.pins := hpins ▸ Dictionary.isSorted_ofList _
  refine ⟨hlast, CreateOptions.validate_of_brokenPin? (brokenPin?_of_lastPins hlast hsorted), ?_⟩
  intro tool configPath start resolved pipeline hvalid hresolve
  have hresolves := tool.resolve_resolves options configPath start
  rw [hresolve] at hresolves
  refine ⟨_, Tool.handsOn_pinned hvalid hresolve, ?_⟩
  rw [List.forall₂_map_right_iff, List.forall₂_same]
  intro package hpackage
  exact ⟨rfl, rfl, hasPin_of_latest hlast (hresolves.packages_latest package hpackage).1⟩

/-! ## Reading command lines -/

/-- Behind arguments that are read, any list of texts can be given for revisions. -/
theorem readAll_revisions {name : String} (hname : name = "create" ∨ name = "run")
    {arguments : List String} {given : Given} (hdashes : "--" ∉ arguments)
    (hread : readAll (Request.commandLevel name).untested arguments = .ok given)
    (texts : List String) :
    ∃ inner, readAll (Request.commandLevel name).untested
        (arguments ++ texts.map fun text => "--revision=" ++ text) = .ok inner ∧
      inner.values = given.values ++ texts.map fun text => ("revision", text) := by
  let level := (Request.commandLevel name).untested
  let opt : Opt := ⟨"revision", some 'r', .repeated "REVISIONS" .text, false⟩
  have hcommands : level.commands = [] := rfl
  have hopt : level.byName? opt.name = some opt := by
    rcases hname with rfl | rfl <;> rfl
  obtain ⟨⟨found, hwalk⟩, hrequired⟩ := readAll_eq_ok_iff.1 hread
  obtain ⟨last, hsettle, hmore⟩ := walk_append hcommands hdashes hwalk
  have hwhole := (hmore _).trans (walk_attached hcommands hopt rfl (by decide) texts hsettle)
  refine ⟨_, readAll_eq_ok_iff.2 ⟨⟨_, hwhole⟩, fun opt hopt hneeded => ?_⟩, rfl⟩
  have hgiven := hrequired opt hopt hneeded
  unfold Given.has at hgiven ⊢
  rw [List.any_append, hgiven, Bool.true_or]

theorem Given.mem_all {given : Given} {name value : String} :
    value ∈ given.all name ↔ (name, value) ∈ given.values := by
  simp [Given.all]

/-- No option of a command but the one for revisions tests its values. -/
theorem Request.complaint?_commandLevel {name : String} (hname : name = "create" ∨ name = "run")
    {opt : Opt} (hopt : opt ∈ (Request.commandLevel name).opts) :
    (opt.name = "revision" ∧ opt.display = "--revision <REVISIONS>" ∧
      opt.complaint? = pinComplaint?) ∨
    opt.name ≠ "revision" ∧ ∀ value, opt.complaint? value = none := by
  have hopts : (Request.commandLevel name).opts = resolveOpts ++ projectOpts ++ toolOpts := by
    rcases hname with rfl | rfl <;> rfl
  rw [hopts] at hopt
  simp only [resolveOpts, projectOpts, toolOpts, List.cons_append, List.nil_append, List.mem_cons,
    List.not_mem_nil, or_false] at hopt
  rcases hopt with rfl | rfl | rfl | rfl | rfl | rfl | rfl | rfl | rfl | rfl | rfl | rfl
  all_goals first
    | exact .inl ⟨rfl, rfl, rfl⟩
    | exact .inr ⟨by decide, fun _ => rfl⟩

/-- Behind the name of a command for projects its options are read. -/
theorem Request.ofArguments?_eq {arguments rest : List String} {name : String} {outer : Given}
    (hname : name = "create" ∨ name = "run")
    (hcommand : walk Request.toolLevel false arguments .empty = .ok (outer, some (name, rest))) :
    Request.ofArguments? arguments =
      (readAll (Request.commandLevel name) rest >>= fun given => .ok
        { settingsFile := (given.get? "tool-config").or (outer.get? "tool-config")
          verbosity := ((if given.has "verbose" then given else outer).all "verbose").length
          command := if name = "create" then .create (Request.projectRequest given)
            else .run (Request.projectRequest given) }) := by
  unfold Request.ofArguments?
  rw [hcommand]
  rcases hname with rfl | rfl <;> rfl

/-- The fault of a command line that gives this text for a revision. -/
def revisionFault (text : String) : UsageFault :=
  .invalidValue text "--revision <REVISIONS>"
    ("expected <import path>=<revision>, got '" ++ text ++ "'")

/-- The options of a command are read if all texts that are given for revisions are pins, and else
    one of these texts is the fault. -/
theorem readAll_commandLevel {name : String} (hname : name = "create" ∨ name = "run")
    {arguments : List String} {inner : Given}
    (hread : readAll (Request.commandLevel name).untested arguments = .ok inner) :
    (∃ text ∈ inner.all "revision", (∀ uri revision, ¬ IsPin text uri revision) ∧
      readAll (Request.commandLevel name) arguments = .error (.usage (revisionFault text))) ∨
    (∀ text ∈ inner.all "revision", ∃ uri revision, IsPin text uri revision) ∧
      ∃ given, readAll (Request.commandLevel name) arguments = .ok given ∧
        given.all "revision" = inner.all "revision" := by
  obtain ⟨given, rfl, -, -, hread⟩ := readAll_sifts hread
  rcases hread with
    ⟨hok, hadmits⟩ | ⟨halt, herror, opt, hopt, text, complaint, hgiven, hsays, rfl⟩
  · refine .inr ⟨fun text htext => ?_, given, hok, rfl⟩
    rcases hadmits _ (Given.mem_all.1 htext) with hold | ⟨opt, hopt, hopname, hpasses⟩
    · cases hold
    · rcases Request.complaint?_commandLevel hname hopt with ⟨-, -, htest⟩ | ⟨hother, -⟩
      · exact pinComplaint?_eq_none_iff.1 (htest ▸ hpasses)
      · exact absurd hopname hother
  · rcases Request.complaint?_commandLevel hname hopt with ⟨hopname, hdisplay, htest⟩ | ⟨-, hnone⟩
    · rw [hopname] at hgiven
      rw [htest] at hsays
      have hnot : ∀ uri revision, ¬ IsPin text uri revision := fun uri revision hpin => by
        rw [pinComplaint?_eq_none_iff.2 ⟨uri, revision, hpin⟩] at hsays
        cases hsays
      rw [pinComplaint?_of_not hnot] at hsays
      cases hsays
      rw [hdisplay] at herror
      exact .inl ⟨text, Given.mem_all.2 hgiven, hnot, herror⟩
    · rw [hnone] at hsays
      cases hsays

/-- **Pins arrive as they are given.** Take a command line for a project that can be read if any
    text may stand for a revision. A text is accepted if and only if it is a pin. If one of the
    texts is none, such a text is the fault; otherwise the command line is read, and the last
    revisions that the texts name arrive. Any further texts can be given in the same way. -/
theorem revisions_arrive {arguments rest : List String} {name : String} {outer inner : Given}
    (hname : name = "create" ∨ name = "run")
    (hcommand : walk Request.toolLevel false arguments .empty = .ok (outer, some (name, rest)))
    (hread : readAll (Request.commandLevel name).untested rest = .ok inner) :
    let texts := inner.all "revision"
    (∀ text, pinComplaint? text = none ↔ ∃ uri revision, IsPin text uri revision) ∧
    ((∃ text ∈ texts, (∀ uri revision, ¬ IsPin text uri revision) ∧
        Request.ofArguments? arguments = .error (.usage (revisionFault text))) ∨
      (∀ text ∈ texts, ∃ uri revision, IsPin text uri revision) ∧
        ∃ request project, Request.ofArguments? arguments = .ok request ∧
          request.command = (if name = "create" then .create project else .run project) ∧
          ∀ workspace, PinsArrive texts (project.options workspace)) ∧
    ("--" ∉ rest → ∀ more : List String, ∃ longer,
      readAll (Request.commandLevel name).untested
        (rest ++ more.map fun text => "--revision=" ++ text) = .ok longer ∧
      longer.all "revision" = texts ++ more) := by
  intro texts
  have hrequest := Request.ofArguments?_eq hname hcommand
  refine ⟨fun _ => pinComplaint?_eq_none_iff, ?_, fun hdashes more => ?_⟩
  · rcases readAll_commandLevel hname hread with
      ⟨text, htext, hnot, herror⟩ | ⟨hpins, given, hok, hgiven⟩
    · rw [herror] at hrequest
      exact .inl ⟨text, htext, hnot, hrequest⟩
    · rw [hok] at hrequest
      refine .inr ⟨hpins, _, Request.projectRequest given, hrequest, rfl, fun workspace => ?_⟩
      have harrive : PinsArrive (given.all "revision")
          ((Request.projectRequest given).options workspace) := .of_texts rfl
      rw [hgiven] at harrive
      exact harrive
  · obtain ⟨longer, hlonger, hvalues⟩ := readAll_revisions hname hdashes hread more
    refine ⟨longer, hlonger, ?_⟩
    unfold texts Given.all
    rw [hvalues, List.filterMap_append]
    simp

/-- The second revision of a package counts, and has an equals sign of its own. -/
theorem revisions_arrive_twice :
    let arguments := ["create", "-c", "/a", "--source", "/m", "-n", "p", "--revision=x=v1", "-r",
      "x=v=2"]
    ∃ request project, Request.ofArguments? arguments = .ok request ∧
      request.command = .create project ∧
      ∀ workspace, PinsArrive ["x=v1", "x=v=2"] (project.options workspace) ∧
        Dictionary.get? "x" (project.options workspace).pins = some "v=2" := by
  intro arguments
  have hfirst : IsPin "x=v1" "x" "v1" := ⟨by decide, by decide, by decide, by decide⟩
  have hsecond : IsPin "x=v=2" "x" "v=2" := ⟨by decide, by decide, by decide, by decide⟩
  have hcommand : walk Request.toolLevel false arguments .empty =
      .ok (.empty, some ("create", arguments.tail)) := rfl
  have hread : readAll (Request.commandLevel "create").untested arguments.tail =
      .ok ⟨[("config", "/a"), ("source", "/m"), ("name", "p"), ("revision", "x=v1"),
        ("revision", "x=v=2")], none⟩ := rfl
  obtain ⟨-, ⟨text, htext, hnot, -⟩ | ⟨-, request, project, hrequest, hproject, harrive⟩, -⟩ :=
    revisions_arrive (.inl rfl) hcommand hread
  · have htexts : text ∈ ["x=v1", "x=v=2"] := htext
    simp only [List.mem_cons, List.not_mem_nil, or_false] at htexts
    rcases htexts with rfl | rfl
    · exact absurd hfirst (hnot _ _)
    · exact absurd hsecond (hnot _ _)
  · refine ⟨request, project, hrequest, hproject, fun workspace => ?_⟩
    exact ⟨harrive workspace, ((harrive workspace).pins "x" "v=2").2
      ⟨["x=v1"], "x=v=2", [], rfl, hsecond, nofun⟩⟩

end CommandLine

end Pipewright
