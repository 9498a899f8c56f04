import Pipewright.Proofs.Workflow.Planning
import Pipewright.Proofs.World.Apart

set_option autoImplicit false

/-! # Creating again

A forced creation without fetching is repeated on what it has left, at another time. What it is made
of lies apart from the directory of the project, so the plan is the same (`Tool.planOn_again`). The
template does not look at the time, so the same text is written over the formatted source file, and
formatted to the same again (`Completes.again`). **So nothing changes** (`createProject_again`). -/

namespace Pipewright

open Pipewright.Action Project

/-! ## What is planned again -/

section Plan

variable (tool : Tool) (configPath : Path) (options : CreateOptions)

/-- The paths that a creation without fetching reads. -/
def Tool.inputs : List Path :=
  let paths := tool.settings.layout.templatePaths options
  configPath :: paths.template :: paths.arguments :: options.sources

/-- What is read lies apart from the directory of the project, at the start. -/
def Tool.ReadsApart (start : World) : Prop :=
  ∀ path ∈ tool.inputs configPath options,
    FileSystem.ClearOf start.directory (dirOf tool.settings.layout options) path

/-- Nothing has changed from one disk to the other but at and around a directory. -/
structure Disk.Spares (dir : Path) (disk after : Disk) : Prop where
  files : FileSystem.Spares disk.directory dir disk.files after.files
  directory : after.directory = disk.directory

variable {tool configPath options} {overrides : Option Arguments} {start later : World}
  {dir path : Path}

theorem Disk.Spares.trans {disk middle after : Disk} (h : disk.Spares dir middle)
    (hmore : middle.Spares dir after) : disk.Spares dir after :=
  ⟨h.files.trans (h.directory ▸ hmore.files), hmore.directory.trans h.directory⟩

/-- Making a directory spares what lies apart from it, however far it comes. -/
theorem Disk.Spares.of_makeDirectories {disk after : Disk} {result : Except Errno Unit}
    (hlinks : disk.files.NoLinks)
    (hmake : disk.files.makeDirectories disk.directory dir = (result, after.files))
    (hdirectory : after.directory = disk.directory) : disk.Spares dir after := by
  have hgains := FileSystem.makeDirectories_gains disk.directory disk.files dir
  rw [hmake] at hgains
  exact ⟨hgains.spares hlinks, hdirectory⟩

theorem MappingDocument.onDisk_again {document : MappingDocument}
    (hlinks : start.files.NoLinks) (hspares : start.disk.Spares dir later.disk)
    (hclear : FileSystem.ClearOf start.directory dir path)
    (h : MappingDocument.onDisk start.disk path = .ok document) :
    MappingDocument.onDisk later.disk path = .ok document := by
  unfold MappingDocument.onDisk at h ⊢
  obtain ⟨bytes, hread, hdecode⟩ := mapError_bind_eq_ok h
  have hagain := hspares.files.read_ok hlinks hclear hread
  rw [hspares.directory, hagain]
  exact hdecode

theorem LoadedConfig.onDisk_again {config : LoadedConfig}
    (hlinks : start.files.NoLinks) (hspares : start.disk.Spares dir later.disk)
    (hclear : FileSystem.ClearOf start.directory dir path)
    (h : LoadedConfig.onDisk start.disk path = .ok config) :
    LoadedConfig.onDisk later.disk path = .ok config := by
  obtain ⟨⟨content, isExecutable, hstat⟩, hpath, hname, hread, hdecode⟩ :=
    LoadedConfig.onDisk_eq_ok_iff.1 h
  have hstatAgain := hspares.files.stat_ok hlinks hclear hstat
  have hreadAgain := hspares.files.read_ok hlinks hclear hread
  rw [← hspares.directory] at hstatAgain hreadAgain
  exact LoadedConfig.onDisk_eq_ok_iff.2
    ⟨⟨content, isExecutable, hstatAgain⟩, hpath, hname, hreadAgain, hdecode⟩

theorem templateOn_again {template : List Template.Element}
    (hlinks : start.files.NoLinks) (hspares : start.disk.Spares dir later.disk)
    (hclear : FileSystem.ClearOf start.directory dir path)
    (h : templateOn start.disk path = .ok template) :
    templateOn later.disk path = .ok template := by
  unfold templateOn at h ⊢
  split at h
  · cases h
  · next bytes hread =>
    rw [hspares.directory, hspares.files.read_ok hlinks hclear hread]
    exact h

/-- A template is there when its arguments are read. -/
theorem argumentsOn_again {base : Path} {content : Bytes} {arguments : Arguments}
    (hlinks : start.files.NoLinks) (hspares : start.disk.Spares dir later.disk) (hbase : base ≠ "")
    (hclear : FileSystem.ClearOf start.directory dir (Path.join base argumentsFile))
    (hbeside : start.files.read start.directory (Path.join base entryPoint) = .ok content)
    (h : argumentsOn start.disk (Path.join base argumentsFile) = .ok arguments) :
    argumentsOn later.disk (Path.join base argumentsFile) = .ok arguments := by
  have hentry : Path.IsEntry argumentsFile := ⟨by decide, by decide, by decide⟩
  unfold argumentsOn at h ⊢
  split at h
  · next e hread =>
    split at h
    · next habsent =>
      have hagain := hspares.files.read_absent hlinks hbase entryPoint_isEntry hentry
        (by decide +kernel) hclear hbeside (habsent ▸ hread)
      rw [hspares.directory, hagain]
      exact h
    · cases h
  · next bytes hread =>
    rw [hspares.directory, hspares.files.read_ok hlinks hclear hread]
    exact h

theorem resolve_again {sourceRoot : Path} {documents : List Path} {urns : List String}
    {packages : List Package} (hlinks : start.files.NoLinks)
    (hspares : start.disk.Spares dir later.disk)
    (hclear : ∀ path ∈ documents, FileSystem.ClearOf start.directory dir path)
    (h : ((resolve MappingDocument.load sourceRoot documents urns).runOn start).1 =
      .ok packages) :
    ((resolve MappingDocument.load sourceRoot documents urns).runOn later).1 = .ok packages := by
  rcases resolvable_or_failsFirst start documents urns with ⟨bindings, hresolvable⟩ | ⟨_, hfails⟩
  · obtain ⟨hsome, ⟨loaded, ⟨hpaths, hloaded⟩, hbindings⟩, hcons, hbound⟩ := hresolvable
    have hagain : LoadedIn later documents loaded := by
      refine ⟨hpaths, fun document hdocument => ?_⟩
      have hpath : document.1 ∈ documents := hpaths ▸ List.mem_map_of_mem hdocument
      have hbefore := hloaded document hdocument
      rw [MappingDocument.load_result] at hbefore ⊢
      exact MappingDocument.onDisk_again hlinks hspares (hclear _ hpath) hbefore
    have hfirst : Resolvable start documents urns bindings :=
      ⟨hsome, ⟨loaded, ⟨hpaths, hloaded⟩, hbindings⟩, hcons, hbound⟩
    have hsecond : Resolvable later documents urns bindings :=
      ⟨hsome, ⟨loaded, hagain, hbindings⟩, hcons, hbound⟩
    -- the packages are the ascending list of what is bound, so they are the same list
    obtain ⟨uris, hok, hascend, hmem⟩ := hfirst.resolve_ok sourceRoot
    obtain ⟨others, hother, hascend', hmem'⟩ := hsecond.resolve_ok sourceRoot
    rw [hother, hascend'.eq_of_mem_iff hascend fun uri => by rw [hmem, hmem'], ← hok, h]
  · rw [hfails.resolve_error sourceRoot] at h
    cases h

/-- The arguments lie beside the template, in a directory that has a name. -/
theorem templatePaths_eq (layout : LayoutSettings) (h : options.validate = .ok ()) :
    ∃ base : Path, base ≠ "" ∧
      layout.templatePaths options = ⟨Path.join base entryPoint, Path.join base argumentsFile⟩ := by
  obtain ⟨-, -, hname, -, -⟩ := CreateOptions.validate_eq_ok_iff.1 h
  have hsome : options.templateName ≠ "" := by
    intro hempty
    have hfault : CreateOptions.templateNameFault? "" ≠ none := by decide +kernel
    exact hfault (hempty ▸ hname)
  exact ⟨_, Path.join_ne_empty hsome, rfl⟩

/-- What could be gathered and read is gathered and read again, if it is spared. -/
theorem Tool.planOn_again {plan : ResolvedPipeline × Survey} (hlinks : start.files.NoLinks)
    (hapart : tool.ReadsApart configPath options start)
    (hspares : start.disk.Spares (dirOf tool.settings.layout options) later.disk)
    (h : tool.planOn configPath options overrides start = .ok plan) :
    tool.planOn configPath options overrides later = .ok plan := by
  obtain ⟨pipeline, surveyed⟩ := plan
  obtain ⟨hgather, hsurvey⟩ := Tool.planOn_eq_ok_iff.1 h
  obtain ⟨hvalid, config, packages, hload, hresolve, rfl⟩ := Tool.gatherOn_eq_ok_iff.1 hgather
  obtain ⟨hname, template, defaults, htemplate, hdefaults, rfl⟩ := surveyOn_eq_ok_iff.1 hsurvey
  obtain ⟨base, hbase, hpaths⟩ := templatePaths_eq tool.settings.layout hvalid
  have hinputs : ∀ path, path = configPath ∨
      path = (tool.settings.layout.templatePaths options).template ∨
      path = (tool.settings.layout.templatePaths options).arguments ∨ path ∈ options.sources →
      FileSystem.ClearOf start.directory (dirOf tool.settings.layout options) path := by
    intro path hpath
    exact hapart path (by simpa [Tool.inputs] using hpath)
  have hconfig := LoadedConfig.onDisk_again hlinks hspares (hinputs _ (.inl rfl)) hload
  have hpackages := resolve_again hlinks hspares
    (fun path hpath => hinputs path (.inr (.inr (.inr hpath)))) hresolve
  have htemplateAgain := templateOn_again hlinks hspares (hinputs _ (.inr (.inl rfl))) htemplate
  obtain ⟨content, hbeside⟩ : ∃ content,
      start.files.read start.directory (Path.join base entryPoint) = .ok content := by
    rw [hpaths] at htemplate
    unfold templateOn at htemplate
    split at htemplate
    · cases htemplate
    · next content hread => exact ⟨content, hread⟩
  have harguments := hinputs _ (.inr (.inr (.inl rfl)))
  rw [hpaths] at hdefaults harguments
  have hdefaultsAgain := argumentsOn_again hlinks hspares hbase harguments hbeside hdefaults
  refine Tool.planOn_eq_ok_iff.2 ⟨?_, ?_⟩
  · exact Tool.gatherOn_eq_ok_iff.2 ⟨hvalid, config, packages, hconfig, hpackages, rfl⟩
  · refine surveyOn_eq_ok_iff.2 ⟨hname, template, defaults, htemplateAgain, ?_, rfl⟩
    rw [hpaths]
    exact hdefaultsAgain

/-- The plan is a function of the disk. -/
theorem Tool.planOn_of_disk_eq (h : later.disk = start.disk) :
    tool.planOn configPath options overrides later =
      tool.planOn configPath options overrides start := by
  unfold planOn gatherOn
  simp only [h, resolve_of_disk_eq h]

end Plan

/-! ## What is completed again -/

/-- A file with its content changed; what is no file stays as it is. -/
def Node.rewritten (format : Bytes → Bytes) : Node → Node
  | .file content isExecutable => .file (format content) isExecutable
  | node => node

/-- The command gives the file at the path a content that is a function of its content, and changes
    nothing else on a disk. -/
structure Host.Formats (host : Host) (invocation : Invocation) (path : Path)
    (format : Bytes → Bytes) : Prop where
  directory : ∀ world, (host.run invocation world).2.directory = world.directory
  there : ∀ world location found,
    world.files.locate true world.directory path = .ok (location, found) →
      (host.run invocation world).2.files.node? location = found.map (Node.rewritten format)
  elsewhere : ∀ world location,
    (∀ found, world.files.locate true world.directory path ≠ .ok (location, found)) →
      (host.run invocation world).2.files.node? location = world.files.node? location

section Completion

variable {host : Host} {invocation : Invocation} {path : Path} {format : Bytes → Bytes}

theorem Host.Formats.recast (h : host.Formats invocation path format) {world : World}
    {location : Location} {found : Option Node}
    (hlocate : world.files.locate true world.directory path = .ok (location, found)) :
    FileSystem.Recast location world.files (host.run invocation world).2.files where
  others other hother := h.elsewhere world other fun _ hthere => by
    rw [hlocate] at hthere
    cases hthere
    exact hother rfl
  here := by
    have hnode := FileSystem.locate_node hlocate
    rw [h.there world location found hlocate, ← hnode]
    rcases found with _ | ⟨old, isExecutable⟩ | _ | _ | _
    · exact .inl rfl
    · exact .inr ⟨old, format old, isExecutable, rfl, rfl⟩
    · exact .inl rfl
    · exact .inl rfl
    · exact .inl rfl

/-- Formatting the same gives the same. -/
theorem Host.Formats.sameNodes (h : host.Formats invocation path format) {world other : World}
    (hsame : FileSystem.SameNodes world.files other.files)
    (hdirectory : other.directory = world.directory) :
    FileSystem.SameNodes (host.run invocation world).2.files
      (host.run invocation other).2.files := by
  intro location
  by_cases hthere : ∃ found, world.files.locate true world.directory path = .ok (location, found)
  · obtain ⟨found, hlocate⟩ := hthere
    rw [h.there world location found hlocate]
    rw [← hsame.locate, ← hdirectory] at hlocate
    rw [h.there other location found hlocate]
  · have helse : ∀ found, world.files.locate true world.directory path ≠ .ok (location, found) :=
      fun found hlocate => hthere ⟨found, hlocate⟩
    rw [h.elsewhere world location helse]
    rw [← hsame.locate, ← hdirectory] at helse
    rw [h.elsewhere other location helse, hsame location]

variable {toolchain : Toolchain} {config : LoadedConfig} {prepared : Prepared}
  {disk after later : Disk} {result other : Except Failure RenderedProject}

/-- Completing a project spares what lies apart from its directory. -/
theorem Completes.spares
    (hformats : host.Formats (toolchain.format (Path.join prepared.dir entryPoint))
      (Path.join prepared.dir entryPoint) format)
    (hdir : prepared.dir ≠ "") (hname : Path.IsEntry config.fileName)
    (hne : entryPoint ≠ config.fileName) (hlinks : disk.files.NoLinks)
    (h : Completes host toolchain config prepared disk result after) :
    disk.Spares prepared.dir after := by
  cases h with
  | unrendered => exact ⟨.refl hlinks, rfl⟩
  | unwritten _ hwrite =>
    exact ⟨FileSystem.spares_writeBoth hdir entryPoint_isEntry hname hlinks hwrite, rfl⟩
  | @completed _ written _ hwrite hdirectory =>
    have hwrites := FileSystem.spares_writeBoth hdir entryPoint_isEntry hname hlinks hwrite
    obtain ⟨place, hin, -, habsorbs, -⟩ :=
      FileSystem.writeBoth_entries hdir entryPoint_isEntry hname hne hlinks.noLinkIn hwrite
    have htouches := hin.touches hwrites.noLinks
    have hlocate := hin.locate habsorbs.not_link
    rw [← hdirectory] at hlocate
    exact ⟨hwrites.trans ((hformats.recast hlocate).spares hwrites.noLinks htouches),
      (hformats.directory written).trans hdirectory⟩

/-! Completing is a function of the text that the template is rendered to. -/

theorem Completes.of_render_error {fault : Template.RenderFault}
    (h : Completes host toolchain config prepared disk result after)
    (hrender : Template.render prepared.template prepared.data.toJson = .error fault) :
    result = .error (.render prepared.templatePath fault.message) ∧ after = disk := by
  cases h with
  | unrendered hother =>
    cases hother.symm.trans hrender
    exact ⟨rfl, rfl⟩
  | unwritten hother | completed hother => cases hother.symm.trans hrender

theorem Completes.of_write_error {text : String} {e : Errno} {files : FileSystem}
    (h : Completes host toolchain config prepared disk result after)
    (hrender : Template.render prepared.template prepared.data.toJson = .ok text)
    (hwrite : prepared.writeFiles config text disk = (.error (path, e), files)) :
    result = .error (.io path (.system e)) ∧ after = ⟨files, disk.directory⟩ := by
  cases h with
  | unrendered hother => cases hother.symm.trans hrender
  | unwritten hother hwrite' =>
    cases hother.symm.trans hrender
    cases hwrite'.symm.trans hwrite
    exact ⟨rfl, rfl⟩
  | completed hother hwrite' =>
    cases hother.symm.trans hrender
    cases hwrite'.symm.trans hwrite

theorem Completes.of_write_ok {text : String} {files : FileSystem}
    (h : Completes host toolchain config prepared disk result after)
    (hrender : Template.render prepared.template prepared.data.toJson = .ok text)
    (hwrite : prepared.writeFiles config text disk = (.ok (), files)) :
    result = .ok ⟨prepared.dir, Path.join prepared.dir entryPoint,
      Path.join prepared.dir config.fileName⟩ ∧
    ∃ written : World, written.files = files ∧ written.directory = disk.directory ∧
      after =
        (host.run (toolchain.format (Path.join prepared.dir entryPoint)) written).2.disk := by
  cases h with
  | unrendered hother => cases hother.symm.trans hrender
  | unwritten hother hwrite' =>
    cases hother.symm.trans hrender
    cases hwrite'.symm.trans hwrite
  | completed hother hwrite' hdirectory =>
    cases hother.symm.trans hrender
    exact ⟨rfl, _, congrArg Prod.snd (hwrite'.symm.trans hwrite), hdirectory, rfl⟩

/-- A completion is repeated on what it has left: it ends the same and changes nothing, if the
    template is rendered to the same. -/
theorem Completes.again {data : ProjectData}
    (hformats : host.Formats (toolchain.format (Path.join prepared.dir entryPoint))
      (Path.join prepared.dir entryPoint) format)
    (hdir : prepared.dir ≠ "") (hname : Path.IsEntry config.fileName)
    (hne : entryPoint ≠ config.fileName) (hlinks : disk.files.NoLinks)
    (htext : Template.render prepared.template data.toJson =
      Template.render prepared.template prepared.data.toJson)
    (h : Completes host toolchain config prepared disk result after)
    (hagain : Completes host toolchain config { prepared with data } after other later) :
    other = result ∧ FileSystem.SameNodes after.files later.files := by
  cases h with
  | unrendered hrender =>
    obtain ⟨rfl, rfl⟩ := hagain.of_render_error (htext.trans hrender)
    exact ⟨rfl, .refl _⟩
  | unwritten hrender hwrite =>
    obtain ⟨files, hrepeat, hsame⟩ := FileSystem.writeBoth_error hdir entryPoint_isEntry
      hlinks.noLinkIn hwrite
    obtain ⟨rfl, rfl⟩ := hagain.of_write_error (htext.trans hrender) hrepeat
    exact ⟨rfl, hsame⟩
  | @completed text written hrender hwrite hdirectory =>
    obtain ⟨place, hin, -, habsorbs, -⟩ :=
      FileSystem.writeBoth_entries hdir entryPoint_isEntry hname hne hlinks.noLinkIn hwrite
    have hlocate := hin.locate habsorbs.not_link
    have hformatted := hformats.directory written
    -- the same is written over the formatted source, and formatted again
    obtain ⟨files, hrepeat, hsame⟩ := FileSystem.writeBoth_ok hdir entryPoint_isEntry hname hne
      hlinks.noLinkIn hwrite ⟨_, hlocate⟩ (hformats.recast (hdirectory ▸ hlocate))
    rw [← hdirectory, ← hformatted] at hrepeat
    obtain ⟨rfl, written', rfl, hdirectory', rfl⟩ :=
      hagain.of_write_ok (htext.trans hrender) hrepeat
    exact ⟨rfl, hformats.sameNodes hsame (hdirectory'.trans hformatted)⟩

end Completion

/-! ## What is created again -/

section Creation

variable {tool : Tool} {configPath : Path} {options : CreateOptions}
  {overrides : Option Arguments} {start later : World} {format : Bytes → Bytes}

/-- The template looks up nothing at the time of creation, and not all data at once. -/
def Project.Prepared.IgnoresTime (prepared : Prepared) : Prop :=
  ∀ lookup ∈ Template.reads prepared.template prepared.data.toJson, lookup.Avoids ["create_time"]

/-- Ending the same way: with the same result or failure, but that the reason for which a directory
    cannot be made may be another one when some of those above it are there. -/
def EndsAlike {α : Type} (dir : Path) (first second : Except Failure α) : Prop :=
  second = first ∨ ∃ cause other,
    first = .error (.io dir cause) ∧ second = .error (.io dir other)

/-! A creation ends in one way on each disk. -/

section Ends

variable {plan : ResolvedPipeline × Survey} {result : Except Failure ProjectContext} {after : Disk}
  (h : tool.Makes configPath options overrides later result after)

include h

theorem Tool.Makes.of_plan_error {failure : Failure}
    (hplan : tool.planOn configPath options overrides later = .error failure) :
    result = .error failure ∧ after = later.disk := by
  cases h with
  | unplanned hother =>
    cases hother.symm.trans hplan
    exact ⟨rfl, rfl⟩
  | unseen hother | unmade hother | made hother => cases hother.symm.trans hplan

theorem Tool.Makes.of_exists_error {e : Errno}
    (hplan : tool.planOn configPath options overrides later = .ok plan)
    (hexists : later.files.exists? later.directory (dirOf tool.settings.layout options) =
      .error e) :
    result = .error (.io (dirOf tool.settings.layout options) (.system e)) ∧
      after = later.disk := by
  cases h with
  | unplanned hother => cases hother.symm.trans hplan
  | unseen _ hother =>
    cases hother.symm.trans hexists
    exact ⟨rfl, rfl⟩
  | unmade _ hother | made _ hother => cases hother.symm.trans hexists

theorem Tool.Makes.of_make_error {e : Errno}
    (hplan : tool.planOn configPath options overrides later = .ok plan)
    (hmake : (later.files.makeDirectories later.directory
      (dirOf tool.settings.layout options)).1 = .error e) :
    (∃ cause, result = .error (.io (dirOf tool.settings.layout options) cause)) ∧
      ∀ location, after.files.file? location = later.files.file? location := by
  cases h with
  | unplanned hother => cases hother.symm.trans hplan
  | unseen => exact ⟨⟨_, rfl⟩, fun _ => rfl⟩
  | unmade _ _ hother =>
    have hgains := FileSystem.makeDirectories_gains later.directory later.files
      (dirOf tool.settings.layout options)
    rw [hother] at hgains
    exact ⟨⟨_, rfl⟩, hgains.file?_eq⟩
  | made _ _ hother =>
    rw [hother] at hmake
    cases hmake

theorem Tool.Makes.of_isDirectory
    (hplan : tool.planOn configPath options overrides later = .ok plan)
    (hlinks : later.files.NoLinks)
    (hthere : later.files.isDirectory later.directory (dirOf tool.settings.layout options)) :
    ∃ rendered, result = rendered.map (fun project => ⟨plan.1, project⟩) ∧
      Completes tool.host (tool.toolchain options.workspace) plan.1.config
        (tool.preparedAt options later plan) later.disk rendered after := by
  have hexists := FileSystem.exists?_of_isDirectory hthere
  have hmake := FileSystem.makeDirectories_there hlinks hthere
  cases h with
  | unplanned hother => cases hother.symm.trans hplan
  | unseen _ hother => cases hother.symm.trans hexists
  | unmade _ _ hother => cases hother.symm.trans hmake
  | @made _ _ made _ _ hother _ hmade hdirectory _ hcompletes =>
    cases hother.symm.trans hplan
    have hfiles : made.files = later.files := congrArg Prod.snd (hmade.symm.trans hmake)
    have hdisk : made.disk = later.disk := by rw [World.disk, hfiles, hdirectory]; rfl
    exact ⟨_, rfl, hdisk ▸ hcompletes⟩

end Ends

/-- A plan names a directory for the project and a name for the copy, which is not that of the
    source file. -/
theorem Tool.planOn_names {plan : ResolvedPipeline × Survey}
    (h : tool.planOn configPath options overrides start = .ok plan) :
    dirOf tool.settings.layout options ≠ "" ∧ Path.IsEntry plan.1.config.fileName ∧
      entryPoint ≠ plan.1.config.fileName := by
  obtain ⟨pipeline, surveyed⟩ := plan
  obtain ⟨hgather, hsurvey⟩ := Tool.planOn_eq_ok_iff.1 h
  obtain ⟨hvalid, config, packages, hload, -, rfl⟩ := Tool.gatherOn_eq_ok_iff.1 hgather
  obtain ⟨hother, -⟩ := surveyOn_eq_ok_iff.1 hsurvey
  obtain ⟨-, -, hname, -⟩ := LoadedConfig.onDisk_eq_ok_iff.1 hload
  exact ⟨Path.join_ne_empty (CreateOptions.projectPath_ne_empty hvalid),
    Path.fileName?_isEntry hname, Ne.symm hother⟩

/-- What a creation has left is created again. -/
theorem Tool.Makes.again {first second : Except Failure ProjectContext} {disk after : Disk}
    (hlinks : start.files.NoLinks) (hapart : tool.ReadsApart configPath options start)
    (hformats : tool.host.Formats
      ((tool.toolchain options.workspace).format
        (Path.join (dirOf tool.settings.layout options) entryPoint))
      (Path.join (dirOf tool.settings.layout options) entryPoint) format)
    (hignores : ∀ prepared world, tool.ComesToRender configPath options overrides start prepared
      world → prepared.IgnoresTime)
    (h : tool.Makes configPath options overrides start first disk)
    (hlater : later.disk = disk)
    (hagain : tool.Makes configPath options overrides later second after) :
    EndsAlike (dirOf tool.settings.layout options) first second ∧
      ∀ location, after.files.file? location = disk.files.file? location := by
  cases h with
  | unplanned hplan =>
    rw [← Tool.planOn_of_disk_eq hlater] at hplan
    obtain ⟨rfl, rfl⟩ := hagain.of_plan_error hplan
    exact ⟨.inl rfl, fun _ => congrArg (fun disk : Disk => disk.files.file? _) hlater⟩
  | unseen hplan hexists =>
    rw [← Tool.planOn_of_disk_eq hlater] at hplan
    have hfiles : later.files = start.files := congrArg Disk.files hlater
    have hdirectory : later.directory = start.directory := congrArg Disk.directory hlater
    rw [← hfiles, ← hdirectory] at hexists
    obtain ⟨rfl, rfl⟩ := hagain.of_exists_error hplan hexists
    exact ⟨.inl rfl, fun _ => congrArg (fun disk : Disk => disk.files.file? _) hlater⟩
  | @unmade _ _ _ files hplan hexists hmake =>
    obtain rfl : later.files = files := congrArg Disk.files hlater
    have hdirectory : later.directory = start.directory := congrArg Disk.directory hlater
    have hspares : start.disk.Spares (dirOf tool.settings.layout options) later.disk :=
      .of_makeDirectories hlinks hmake hdirectory
    obtain ⟨e', hfails⟩ := FileSystem.makeDirectories_error hlinks hmake
    rw [← hdirectory] at hfails
    obtain ⟨⟨cause, rfl⟩, hsame⟩ :=
      hagain.of_make_error (Tool.planOn_again hlinks hapart hspares hplan) hfails
    exact ⟨.inr ⟨_, _, rfl, rfl⟩, hsame⟩
  | @made plan _ made _ rendered hplan hexists hmake hdirectory hcomes hcompletes =>
    obtain ⟨hdir, hname, hne⟩ := Tool.planOn_names hplan
    have hthere := FileSystem.makeDirectories_ok hlinks hdir hmake
    have hspares : start.disk.Spares (dirOf tool.settings.layout options) made.disk :=
      .of_makeDirectories hlinks hmake hdirectory
    have hmade : made.disk.files.NoLinks := hspares.files.noLinks
    have hprepared : (tool.preparedAt options start plan).dir =
        dirOf tool.settings.layout options := rfl
    rw [← hprepared] at hformats hdir
    have hwrites := hcompletes.spares hformats hdir hname hne hmade
    rw [hprepared, ← hlater] at hwrites
    -- the directory is there now, so the project is completed in it at once
    rw [← hdirectory] at hthere
    have hthereAgain : later.disk.files.isDirectory made.disk.directory
        (dirOf tool.settings.layout options) := hwrites.files.isDirectory hthere
    rw [← hwrites.directory] at hthereAgain
    obtain ⟨again, rfl, hcompletesAgain⟩ := hagain.of_isDirectory
      (Tool.planOn_again hlinks hapart (hspares.trans hwrites) hplan) hwrites.files.noLinks
      hthereAgain
    have htext : Template.render plan.2.template
        (tool.preparedAt options later plan).data.toJson =
      Template.render plan.2.template (tool.preparedAt options start plan).data.toJson :=
      Template.render_of_agreeOff (ProjectData.agreeOff_createTime _ _) (hignores _ _ hcomes)
    subst hlater
    obtain ⟨rfl, hsame⟩ := hcompletes.again hformats hdir hname hne hmade htext hcompletesAgain
    exact ⟨.inl rfl, hsame.file?_eq⟩

/-- **Idempotence.** Where nothing is a symbolic link and what is read lies apart from the directory
    of the project, a forced creation without fetching is repeated at another time on the disk that
    it has left. It succeeds just when the first one did, with the same result; it fails just as the
    first one did; and every file is what it was. Formatting may do anything to the content of the
    source file, as long as it does the same to the same content, and the template anything that
    does not look at the time. -/
theorem createProject_again (hget : options.getPackages = false)
    (hforce : options.forceWrite = true) (hlinks : start.files.NoLinks)
    (hapart : tool.ReadsApart configPath options start)
    (hformats : tool.host.Formats
      ((tool.toolchain options.workspace).format
        (Path.join (dirOf tool.settings.layout options) entryPoint))
      (Path.join (dirOf tool.settings.layout options) entryPoint) format)
    (hignores : ∀ prepared world, tool.ComesToRender configPath options overrides start prepared
      world → prepared.IgnoresTime)
    (hlater : later.disk = ((tool.createProject configPath options overrides).runOn start).2.disk) :
    let run := (tool.createProject configPath options overrides).runOn
    (∀ context, (run later).1 = .ok context ↔ (run start).1 = .ok context) ∧
      EndsAlike (dirOf tool.settings.layout options) (run start).1 (run later).1 ∧
      ∀ location, (run later).2.files.file? location = (run start).2.files.file? location := by
  intro run
  have hfirst : tool.Makes configPath options overrides start (run start).1 (run start).2.disk :=
    createProject_makes hget hforce
  have hsecond : tool.Makes configPath options overrides later (run later).1 (run later).2.disk :=
    createProject_makes hget hforce
  obtain ⟨halike, hfiles⟩ := hfirst.again hlinks hapart hformats hignores hlater hsecond
  refine ⟨fun context => ?_, halike, hfiles⟩
  rcases halike with hsame | ⟨cause, other, hstart, hother⟩
  · rw [hsame]
  · simp [hstart, hother]

end Creation

/-! The project that is there is made again, and again. -/

namespace Revisited

theorem noLinks : start.files.NoLinks := FileSystem.noLinks_of_entries (by decide +kernel)

theorem dirOf_eq : dirOf tool.settings.layout (options true) = "/w/src/p" := by decide +kernel

theorem readsApart : tool.ReadsApart "/a" (options true) start := by
  have hinputs : tool.inputs "/a" (options true) =
      ["/a", "/w/src/tpl/t/main.go", "/w/src/tpl/t/args.json", "/m"] := by decide +kernel
  intro path hpath
  rw [hinputs] at hpath
  rw [dirOf_eq]
  have hclear : ∀ path ∈ ["/a", "/w/src/tpl/t/main.go", "/w/src/tpl/t/args.json", "/m"],
      ¬ FileSystem.placeOf [] path <+: FileSystem.placeOf [] "/w/src/p" ∧
        ¬ FileSystem.placeOf [] "/w/src/p" <+: FileSystem.placeOf [] path := by decide +kernel
  obtain ⟨habove, hbelow⟩ := hclear path hpath
  exact FileSystem.clearOf_of_apart (by decide +kernel) habove hbelow

theorem run_format (toolchain : Toolchain) (path : Path) (world : World) :
    tool.host.run (toolchain.format path) world = format path world := rfl

theorem formats (toolchain : Toolchain) (path : Path) :
    tool.host.Formats (toolchain.format path) path formatted where
  directory world := by
    rw [run_format, format]
    split <;> rfl
  there world location found hlocate := by
    have hnode := FileSystem.locate_node hlocate
    rw [run_format, format, hlocate]
    rcases found with _ | ⟨content, isExecutable⟩ | _ | _ | _
    · exact hnode.symm
    · exact (FileSystem.alters_put world.files location (by simp [← hnode, Node.LeadsOn]) _).2
    · exact hnode.symm
    · exact hnode.symm
    · exact hnode.symm
  elsewhere world location hother := by
    rw [run_format, format]
    split
    · next place content isExecutable hlocate =>
      have hnode := FileSystem.locate_node hlocate
      refine (FileSystem.alters_put world.files place
        (by simp [← hnode, Node.LeadsOn]) _).1.others location ?_
      rintro rfl
      exact hother _ hlocate
    · rfl

theorem ignoresTime {other : Prepared} {world : World}
    (h : tool.ComesToRender "/a" (options true) none start other world) : other.IgnoresTime := by
  rw [prepared_eq h]
  exact avoids true (by decide)

/-- The text of the template for this project. -/
def text : String := "package main // /a\nconst depth = 3\nconst width = 8\n"

/-- The files with the source file. -/
def sourced : FileSystem :=
  start.files.put ["w", "src", "p", "main.go"] (.file (Text.Utf8.encode text) false)

/-- The files with both files of the project. -/
def written : FileSystem := sourced.put ["w", "src", "p", "a"] (.file nothing false)

/-- The files of the project when its source file is formatted. -/
def finished : FileSystem :=
  written.put ["w", "src", "p", "main.go"] (.file (formatted (Text.Utf8.encode text)) false)

/-- The files of the project are written by any paths that lead to them. -/
theorem writeBoth_start {first second : Path}
    (hsource : start.files.locate true [] first = .ok (["w", "src", "p", "main.go"], none))
    (hcopy : sourced.locate true [] second = .ok (["w", "src", "p", "a"], none))
    (hslash : ¬ Path.endsWithSlash first ∧ ¬ Path.endsWithSlash second) :
    FileSystem.writeBoth [] first (Text.Utf8.encode text) second nothing start.files =
      (.ok (), written) := by
  have hfirst : start.files.write [] first (Text.Utf8.encode text) = .ok sourced := by
    unfold FileSystem.write
    rw [hsource]
    exact if_neg hslash.1
  have hsecond : sourced.write [] second nothing = .ok written := by
    unfold FileSystem.write
    rw [hcopy]
    exact if_neg hslash.2
  unfold FileSystem.writeBoth
  rw [hfirst]
  dsimp only
  rw [hsecond]

/-- Formatting the source file of the project. -/
theorem run_written {world : World} (toolchain : Toolchain) (hfiles : world.files = written)
    (hdirectory : world.directory = []) :
    (tool.host.run (toolchain.format "/w/src/p/main.go") world).2.disk = ⟨finished, []⟩ := by
  have hlocate : written.locate true [] "/w/src/p/main.go" =
      .ok (["w", "src", "p", "main.go"], some (.file (Text.Utf8.encode text) false)) := by
    decide +kernel
  rw [run_format, format, hfiles, hdirectory, hlocate]
  rfl

theorem completes : ∃ context,
    ((tool.createProject "/a" (options true) none).runOn start).1 = .ok context ∧
    context.project = ⟨"/w/src/p", "/w/src/p/main.go", "/w/src/p/a"⟩ ∧
    ((tool.createProject "/a" (options true) none).runOn start).2.disk = ⟨finished, []⟩ := by
  obtain ⟨config, hgathers⟩ := gathers true
  have hplan : tool.planOn "/a" (options true) none start =
      .ok (⟨⟨config, "/a", "a", nothing⟩, [], []⟩, surveyed) :=
    Tool.planOn_eq_ok_iff.2 ⟨hgathers, surveys true config⟩
  have hmakes : tool.Makes "/a" (options true) none start
      ((tool.createProject "/a" (options true) none).runOn start).1
      ((tool.createProject "/a" (options true) none).runOn start).2.disk :=
    createProject_makes rfl rfl
  have hthere : start.files.isDirectory start.directory
      (dirOf tool.settings.layout (options true)) := by
    rw [dirOf_eq]
    decide +kernel
  obtain ⟨rendered, hresult, hcompletes⟩ := hmakes.of_isDirectory hplan noLinks hthere
  have htext : Template.render surveyed.template (prepared true).data.toJson = .ok text := by
    decide +kernel
  have hwrite : FileSystem.writeBoth [] "/w/src/p/main.go" (Text.Utf8.encode text) "/w/src/p/a"
      nothing start.files = (.ok (), written) :=
    writeBoth_start (by decide +kernel) (by decide +kernel) (by decide +kernel)
  have hpaths : Path.join "/w/src/p" entryPoint = "/w/src/p/main.go" ∧
      Path.join "/w/src/p" "a" = "/w/src/p/a" := by decide +kernel
  have hproject : (⟨"/w/src/p", "/w/src/p/main.go", "/w/src/p/a"⟩ : RenderedProject) =
      ⟨dirOf tool.settings.layout (options true),
        Path.join (dirOf tool.settings.layout (options true)) entryPoint,
        Path.join (dirOf tool.settings.layout (options true)) "a"⟩ := by
    rw [dirOf_eq, hpaths.1, hpaths.2]
  rw [← hpaths.1, ← hpaths.2, ← dirOf_eq] at hwrite
  obtain ⟨rfl, world, hfiles, hdirectory, hafter⟩ := hcompletes.of_write_ok htext hwrite
  have hfinished := run_written (tool.toolchain "/w") hfiles hdirectory
  rw [← hpaths.1, ← dirOf_eq] at hfinished
  exact ⟨_, hresult, hproject.symm, hafter.trans hfinished⟩

end Revisited

/-- The source file is rendered and formatted, and the next time it is rendered and formatted
    again. -/
theorem createProject_again_revisited :
    let run := (Revisited.tool.createProject "/a" (Revisited.options true) none).runOn
    let later := { (run Revisited.start).2 with clock := 1 }
    (run Revisited.start).2.disk = ⟨Revisited.finished, []⟩ ∧
      (∃ context, (run Revisited.start).1 = .ok context ∧ (run later).1 = .ok context) ∧
      ∀ location,
        (run later).2.files.file? location = (run Revisited.start).2.files.file? location := by
  intro run later
  obtain ⟨context, hcontext, -, hdisk⟩ := Revisited.completes
  have hlater : later.disk = (run Revisited.start).2.disk := rfl
  obtain ⟨hsame, -, hfiles⟩ := createProject_again rfl rfl Revisited.noLinks Revisited.readsApart
    (Revisited.formats _ _) (fun _ _ => Revisited.ignoresTime) hlater
  exact ⟨hdisk, ⟨context, hcontext, (hsame context).2 hcontext⟩, hfiles⟩

end Pipewright
