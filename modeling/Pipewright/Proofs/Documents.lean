import Pipewright.Mapping.Document
import Pipewright.Project.Options
import Pipewright.Proofs.Pipeline.Writing
import Pipewright.Proofs.Settings.Parts

set_option autoImplicit false

/-! # Documents are read back

Everything that is written as a document is read back from it: pipeline configurations, mapping
documents, the options of a project and the settings of the tool come out as they went in, and a
package comes out without its root (`read_written`). What is kept as dictionaries, the options of
actors and the pins of packages, has ascending keys; this holds of all that has been read, so
reading, writing and reading again gives what was read at first. -/

namespace Pipewright

open Json

/-! ## Mapping documents -/

theorem MappingEntry.toJson_restores (entry : MappingEntry) :
    decode.Restores entry.toJson entry := by
  have hfills : Record.Fills record.slots [("pkg", .string entry.pkg), ("urn", .string entry.urn)]
      record.empty ⟨some entry.urn, some entry.pkg⟩ :=
    .cons rfl rfl rfl (Decoder.text_restores entry.pkg) <|
    .cons rfl rfl rfl (Decoder.text_restores entry.urn) .nil
  exact hfills.restores rfl

theorem MappingDocument.toJson_restores (document : MappingDocument) :
    decode.Restores document.toJson document := by
  have hentries : (Decoder.list MappingEntry.decode).Restores
      (.array (document.entries.map MappingEntry.toJson)) document.entries :=
    Decoder.list_restores fun entry _ => entry.toJson_restores
  have hfills : Record.Fills record.slots
      [("packages", .array (document.entries.map MappingEntry.toJson))] record.empty
      (some document.entries) :=
    .cons rfl rfl rfl hentries .nil
  exact hfills.restores rfl

/-! ## Packages -/

namespace Package

/-- The package as documents know it. -/
def unrooted (package : Package) : Package := { package with sourceRoot := "" }

theorem toJson_restores (package : Package) :
    decode.Restores package.toJson package.unrooted := by
  have hfills : Record.Fills record.slots
      [("revision", .string package.revision), ("uri", .string package.uri)] record.empty
      ⟨some package.uri, some package.revision⟩ :=
    .cons rfl rfl rfl (Decoder.text_restores package.revision) <|
    .cons rfl rfl rfl (Decoder.text_restores package.uri) .nil
  exact hfills.restores rfl

theorem decode_yields : decode.Yields fun package => package.unrooted = package := by
  refine Record.decode_yields (P := fun _ => True) (fun _ _ _ _ _ _ _ _ => trivial) trivial
    fun draft _ package h => ?_
  obtain ⟨uri, -, heq⟩ := Except.bind_ok_iff.mp h
  cases heq
  rfl

end Package

/-! ## Options of a project -/

namespace CreateOptions

theorem toJson_restores {options : CreateOptions} (hpins : options.pins.IsSorted) :
    decode.Restores options.toJson options := by
  have hsources : (Decoder.list Decoder.path).Restores (.ofTexts options.sources)
      options.sources :=
    Decoder.list_restores fun path _ => Decoder.path_restores path
  have hdictionary := Decoder.dictionary_restores hpins fun pin _ =>
    Decoder.text_restores pin.2
  have hfills : Record.Fills record.slots [
      ("force_write", .bool options.forceWrite),
      ("get_packages", .bool options.getPackages),
      ("packages_revision", .object (options.pins.map fun pin => (pin.1, .string pin.2))),
      ("project_path", .string options.projectPath),
      ("sources", .ofTexts options.sources),
      ("template_name", .string options.templateName),
      ("update_packages", .bool options.updatePackages),
      ("workspace", .string options.workspace)] record.empty
      ⟨some options.workspace, some options.sources, some options.templateName,
        some options.projectPath, some options.forceWrite, some options.getPackages,
        some options.updatePackages, some options.pins⟩ :=
    .cons rfl rfl rfl (Decoder.bool_restores options.forceWrite) <|
    .cons rfl rfl rfl (Decoder.bool_restores options.getPackages) <|
    .cons rfl rfl rfl hdictionary <|
    .cons rfl rfl rfl (Decoder.path_restores options.projectPath) <|
    .cons rfl rfl rfl hsources <|
    .cons rfl rfl rfl (Decoder.text_restores options.templateName) <|
    .cons rfl rfl rfl (Decoder.bool_restores options.updatePackages) <|
    .cons rfl rfl rfl (Decoder.path_restores options.workspace) .nil
  exact hfills.restores rfl

theorem decode_yields : decode.Yields fun options => options.pins.IsSorted := by
  refine Record.decode_yields (P := fun draft => ∀ pins ∈ draft.pins, pins.IsSorted) ?_ nofun ?_
  · -- only the last slot puts pins into the draft
    have hpins : (slot "packages_revision" (·.pins) (fun a d => { d with pins := some a })
        (Decoder.dictionary Decoder.text)).Preserves fun draft =>
          ∀ pins ∈ draft.pins, pins.IsSorted := by
      refine Slot.preserves_of_yields rfl Decoder.dictionary_yields fun pins hpins _ _ => ?_
      rintro _ ⟨⟩
      exact hpins
    simp only [record, List.forall_mem_cons]
    refine ⟨?_, ?_, ?_, ?_, ?_, ?_, ?_, hpins, nofun⟩ <;>
      exact Slot.preserves rfl fun _ _ h => h
  · intro draft hdraft options h
    simp only [record, Except.bind_ok_iff] at h
    obtain ⟨_, -, _, -, _, -, _, -, _, -, _, -, _, -, pins, hpins, heq⟩ := h
    cases heq
    cases hread : draft.pins with
    | none =>
      rw [hread] at hpins
      cases hpins
    | some stated =>
      rw [hread] at hpins
      cases hpins
      exact hdraft _ hread

end CreateOptions

/-- **Documents are read back.** Every configuration, mapping document, set of options and set of
    settings is read back from the value that it is written as, and a package with no root. So
    whatever is read from any value, writing it and reading it again changes nothing. -/
theorem read_written :
    (∀ config : PipelineConfig, config.IsSorted →
      ofJson? PipelineConfig.decode config.toJson = .ok config) ∧
    (∀ document : MappingDocument,
      ofJson? MappingDocument.decode document.toJson = .ok document) ∧
    (∀ options : CreateOptions, options.pins.IsSorted →
      ofJson? CreateOptions.decode options.toJson = .ok options) ∧
    (∀ settings : ToolSettings, ofJson? ToolSettings.decode settings.toJson = .ok settings) ∧
    (∀ package : Package,
      ofJson? Package.decode package.toJson = .ok { package with sourceRoot := "" }) ∧
    (∀ json config, ofJson? PipelineConfig.decode json = .ok config →
      ofJson? PipelineConfig.decode config.toJson = .ok config) ∧
    (∀ json document, ofJson? MappingDocument.decode json = .ok document →
      ofJson? MappingDocument.decode document.toJson = .ok document) ∧
    (∀ json options, ofJson? CreateOptions.decode json = .ok options →
      ofJson? CreateOptions.decode options.toJson = .ok options) ∧
    (∀ json settings, ofJson? ToolSettings.decode json = .ok settings →
      ofJson? ToolSettings.decode settings.toJson = .ok settings) ∧
    ∀ json package, ofJson? Package.decode json = .ok package →
      ofJson? Package.decode package.toJson = .ok package := by
  refine ⟨fun config hsorted => ?_, fun document => ?_, fun options hpins => ?_,
    fun settings => ?_, fun package => ?_, fun json config h => ?_, fun json document _ => ?_,
    fun json options h => ?_, fun json settings _ => ?_, fun json package h => ?_⟩
  · exact (PipelineConfig.toJson_restores hsorted).ofJson?
  · exact document.toJson_restores.ofJson?
  · exact (CreateOptions.toJson_restores hpins).ofJson?
  · exact settings.toJson_restores.ofJson?
  · exact package.toJson_restores.ofJson?
  · exact (PipelineConfig.toJson_restores (PipelineConfig.decode_yields _ _ _ h)).ofJson?
  · exact document.toJson_restores.ofJson?
  · exact (CreateOptions.toJson_restores (CreateOptions.decode_yields _ _ _ h)).ofJson?
  · exact settings.toJson_restores.ofJson?
  · have hread := package.toJson_restores.ofJson?
    rwa [Package.decode_yields _ _ _ h] at hread

/-- A configuration with nested options, a pool with a member and a pool without. -/
def sampleConfig : PipelineConfig where
  actors role :=
    if role = .inbox then
      [⟨"", "urn:box", .null⟩,
        ⟨"again", "urn:box", .object [("a", .array [.null]), ("b", .object [("c", .null)])]⟩]
    else []
  pools
    | .reader =>
      [⟨⟨"pool", "urn:readers", .object [("urn", .bool false)]⟩, some ⟨"", "urn:reader", .null⟩⟩]
    | .writer => [⟨⟨"", "urn:writers", .null⟩, none⟩]

theorem sampleConfig_isSorted : sampleConfig.IsSorted where
  actors := by
    intro role actor hactor
    cases role <;> simp only [sampleConfig, reduceCtorEq, ↓reduceIte, List.mem_cons,
      List.not_mem_nil, or_false] at hactor
    rcases hactor with rfl | rfl
    · trivial
    · simp only [IsSorted, IsSortedMembers, IsSortedItems, Dictionary.IsSorted]
      decide
  pools := by
    intro kind pool hpool
    cases kind <;> cases List.mem_singleton.mp hpool
    · refine ⟨?_, by rintro _ ⟨⟩; trivial⟩
      simp only [IsSorted, IsSortedMembers, Dictionary.IsSorted]
      decide
    · exact ⟨trivial, by rintro _ ⟨⟩⟩

/-- Options with two pins. -/
def sampleOptions : CreateOptions :=
  { CreateOptions.empty with sources := ["a.json"], pins := [("a", "1"), ("b", "2")] }

theorem read_written_sample :
    ofJson? PipelineConfig.decode sampleConfig.toJson = .ok sampleConfig ∧
    ofJson? MappingDocument.decode (MappingDocument.mk []).toJson = .ok ⟨[]⟩ ∧
    ofJson? CreateOptions.decode sampleOptions.toJson = .ok sampleOptions ∧
    ofJson? ToolSettings.decode ToolSettings.default.toJson = .ok .default ∧
    ofJson? Package.decode (Package.mk "a" "" "").toJson = .ok ⟨"a", "", ""⟩ := by
  obtain ⟨hconfig, -, hoptions, -, -, hconfigAgain, hdocumentAgain, hoptionsAgain,
    hsettingsAgain, hpackageAgain⟩ := read_written
  have hpins : sampleOptions.pins.IsSorted := by
    unfold Dictionary.IsSorted
    decide
  have hreadConfig := hconfig sampleConfig sampleConfig_isSorted
  have hreadOptions := hoptions sampleOptions hpins
  have hreadDocument : ofJson? MappingDocument.decode (.object [("other", .null)]) = .ok ⟨[]⟩ := rfl
  have hreadSettings : ofJson? ToolSettings.decode (.object []) = .ok .default := rfl
  have hreadPackage :
    ofJson? Package.decode (.object [("uri", .string "a")]) = .ok ⟨"a", "", ""⟩ := rfl
  exact ⟨hconfigAgain _ _ hreadConfig, hdocumentAgain _ _ hreadDocument,
    hoptionsAgain _ _ hreadOptions, hsettingsAgain _ _ hreadSettings,
    hpackageAgain _ _ hreadPackage⟩

end Pipewright
