import SiteBuilder.Proofs.Template.LocalFolder
import SiteBuilder.Proofs.Template.RemoteFolder

/-!
# The same template from a disk and from a repository

A disk and a repository that hold the same tree give the same template, or fail for the same kind of reason, if
the form is named without a slash and is not hidden. A form with a slash in its path is among the files that a
disk gives and not among those that a repository gives, and only a disk follows a path that is not that of a
text among the sources.
-/

namespace SiteBuilder

open SiteBuilder.Path (IsHidden Visible ofNames)

/-- What keeps a template from being loaded, without what is said about it. -/
inductive LoadError.Kind where
  | notFound
  | malformed
  | unsupportedType
  | fetch
  deriving DecidableEq

/-- The kind of a cause. -/
def LoadError.kind : LoadError → Kind
  | .notFound _ => .notFound
  | .malformed _ => .malformed
  | .unreadableCatalog => .malformed
  | .unsupportedType _ _ => .unsupportedType
  | .fetch _ => .fetch

/-- Two loads agree if both give the same template or both fail for a cause of the same kind. -/
def TemplateContent.Agree : Except LoadError TemplateContent → Except LoadError TemplateContent → Prop
  | .ok content, .ok other => content = other
  | .error cause, .error other => cause.kind = other.kind
  | .ok _, .error _ => False
  | .error _, .ok _ => False

namespace TemplateContent

/-- Loads that agree give the same files. -/
theorem files_of_agree {load other : Except LoadError TemplateContent} (h : Agree load other) :
    (load.map (·.files)).toOption = (other.map (·.files)).toOption := by
  cases load with
  | ok content =>
    cases other with
    | ok other => rw [show content = other from h]
    | error cause => exact h.elim
  | error cause =>
    cases other with
    | ok other => exact h.elim
    | error other => rfl

/-- A form that is there and cannot be taken up is malformed. -/
theorem kind_of_ofNamedText {name text : String} {cause : LoadError}
    (h : TemplateConfig.ofNamedText name text = .error cause) : cause.kind = .malformed := by
  rw [TemplateConfig.ofNamedText] at h
  cases hread : if isYamlName name then TemplateConfig.ofYaml text else TemplateConfig.ofJson text with
  | error reason =>
    rw [hread] at h
    cases h
    rfl
  | ok config =>
    rw [hread] at h
    cases h

section

variable {configFile : String} {files sources : FileSet} {text : String}

/-- A template with its form read from a text has the files it is given. -/
theorem files_of_map {content : TemplateContent}
    (h : (TemplateConfig.ofNamedText configFile text).map (⟨·, files⟩) = .ok content) : content.files = files := by
  cases hread : TemplateConfig.ofNamedText configFile text with
  | error cause =>
    rw [hread] at h
    cases h
  | ok config =>
    rw [hread] at h
    cases h
    rfl

/-- Two templates with the same form agree exactly if their files do, unless the form is refused. -/
theorem agree_map_iff {others : FileSet} :
    Agree ((TemplateConfig.ofNamedText configFile text).map (⟨·, files⟩))
        ((TemplateConfig.ofNamedText configFile text).map (⟨·, others⟩)) ↔
      files = others ∨ ∃ cause, TemplateConfig.ofNamedText configFile text = .error cause := by
  cases TemplateConfig.ofNamedText configFile text with
  | error cause => exact iff_of_true rfl (Or.inr ⟨cause, rfl⟩)
  | ok config =>
    constructor
    · intro h
      exact Or.inl (congrArg TemplateContent.files h)
    · rintro (rfl | ⟨cause, hcause⟩)
      · rfl
      · cases hcause

/-- A form that is read from one place and is missing at the other. -/
theorem not_agree_missing {place : String} :
    ¬Agree ((TemplateConfig.ofNamedText configFile text).map (⟨·, files⟩)) (.error (.notFound place)) := by
  cases hread : TemplateConfig.ofNamedText configFile text with
  | ok config => exact id
  | error cause =>
    intro h
    cases (kind_of_ofNamedText hread).symm.trans h

/-- A source is erased only from files that are not all sources. -/
theorem eq_erase_iff (hsource : sources.get? configFile = some text) :
    (if '/' ∈ configFile.toList then sources else sources.erase configFile) = sources.erase configFile ↔
      '/' ∉ configFile.toList := by
  split
  · next hslash =>
    refine iff_of_false (fun heq => ?_) (not_not_intro hslash)
    have herased : sources.get? configFile = none := by rw [heq, NameMap.get?_erase, if_pos rfl]
    cases hsource.symm.trans herased
  · next hslash => exact iff_of_true rfl hslash

/-- What a disk and a repository make of the same sources, by the form that the disk finds. -/
theorem agree_iff_source (sources : FileSet) (configFile : String) (read : Except DiskError String)
    (unread : DiskError → String) (missing : String) :
    (∀ text, sources.get? configFile = some text → read = .ok text) →
      (Agree
          (match read with
          | .error cause => .error (.notFound (unread cause))
          | .ok text => (TemplateConfig.ofNamedText configFile text).map
              (⟨·, if '/' ∈ configFile.toList then sources else sources.erase configFile⟩))
          (match sources.get? configFile with
          | none => .error (.notFound missing)
          | some text => (TemplateConfig.ofNamedText configFile text).map (⟨·, sources.erase configFile⟩)) ↔
        ∀ text, read = .ok text → sources.get? configFile = some text ∧
          ('/' ∈ configFile.toList → ∃ cause, TemplateConfig.ofNamedText configFile text = .error cause)) := by
  intro hsource
  cases hget : sources.get? configFile with
  | none =>
    cases read with
    | error cause => exact iff_of_true rfl nofun
    | ok text => exact iff_of_false not_agree_missing fun h => nomatch (h text rfl).1
  | some text =>
    rw [hsource text hget]
    dsimp only
    rw [agree_map_iff, eq_erase_iff hget, or_iff_not_imp_left, not_not]
    constructor
    · rintro h _ ⟨⟩
      exact ⟨rfl, h⟩
    · intro h
      exact (h text rfl).2

end

variable {m : Type → Type} [Monad m] [LawfulMonad m]

/-- A folder of a regular tree, read from a disk and from a repository that hold the same:

* both come to the same exactly if the form that the disk finds is the source at its path, and its path has no slash
  unless the form is refused. That is so for every form that is named without a slash and not hidden;
* a repository leaves the form out of the files, and a disk does if its path has no slash. All other sources are
  among the files: the texts that are not hidden, each once and by its path. -/
theorem agree_iff_of_same_tree {contents : RepositoryContents m} {repository : RepositoryName} {tree : Node}
    {location : List String} {entries : List (String × Node)} {disk : Disk} {root configFile : String}
    {descriptor : Descriptor} {limit : Nat} (htree : tree.Regular)
    (hat : tree.at? location = some (.folder entries))
    (hdescriptor : RemoteFolder.trimSlashes descriptor.folder = ofNames location)
    (hdisk : disk.find (Path.join root descriptor.folder) = .ok (.folder entries))
    (hrepository : descriptor.repository? = some repository)
    (hserves : contents.Serves repository descriptor.branch tree)
    (hlimit : (Node.folder entries).folders.length < limit) :
    let sources := (Node.folder entries).sources
    let onDisk := LocalFolder.read disk root configFile [] descriptor
    ∃ inRepository, RemoteFolder.fetch contents configFile limit descriptor = pure inRepository ∧
      (Agree onDisk inRepository ↔ ∀ text,
        disk.readText (Path.join (Path.join root descriptor.folder) configFile) = .ok text →
          sources.get? configFile = some text ∧ ('/' ∈ configFile.toList →
            ∃ cause, TemplateConfig.ofNamedText configFile text = .error cause)) ∧
      ('/' ∉ configFile.toList → ¬IsHidden configFile → Agree onDisk inRepository) ∧
      (∀ content, inRepository = .ok content → content.files = sources.erase configFile) ∧
      (∀ content, onDisk = .ok content →
        content.files = if '/' ∈ configFile.toList then sources else sources.erase configFile) ∧
      ∀ path text, sources.get? path = some text ↔ ∃! names, path = ofNames names ∧ Visible names ∧
        ∃ bytes, (Node.folder entries).at? names = some (.file bytes) ∧ Text.Utf8.decodeText? bytes = some text := by
  intro sources onDisk
  have hregular := (htree.at? hat).2
  have hlocal : onDisk = _ := LocalFolder.read_eq hregular hdisk
  let configPath := Path.join (Path.join root descriptor.folder) configFile
  have hagree := agree_iff_source sources configFile (disk.readText configPath)
    (fun cause => Text.quotedPath configPath ++ ": " ++ cause.message)
    (configFile ++ " in " ++ repository.owner ++ "/" ++ repository.name ++ "/" ++ ofNames location)
    fun text => LocalFolder.readText_of_source hregular hdisk
  refine ⟨_, RemoteFolder.fetch_eq htree hat hrepository hdescriptor hserves hlimit, ?_, ?_, ?_, ?_, ?_⟩
  · rw [hlocal]
    exact hagree
  · intro hslash hvisible
    rw [hlocal]
    refine hagree.mpr fun text hread => ⟨?_, fun hmem => absurd hmem hslash⟩
    exact LocalFolder.source_of_readText hregular hdisk hslash hvisible hread
  · intro content hcontent
    split at hcontent
    · cases hcontent
    · exact files_of_map hcontent
  · intro content hcontent
    rw [hlocal] at hcontent
    dsimp only at hcontent
    split at hcontent
    · cases hcontent
    · exact files_of_map hcontent
  · intro path text
    rw [Node.get?_sources_eq_some_iff hregular]
    constructor
    · rintro ⟨names, bytes, hfile, hvisible, htext, rfl⟩
      refine ⟨names, ⟨rfl, hvisible, bytes, hfile, htext⟩, ?_⟩
      rintro others ⟨hpath, -, _, hother, -⟩
      exact ((Path.ofNames_inj (hregular.at? hfile).1 (hregular.at? hother).1).mp hpath).symm
    · rintro ⟨names, ⟨rfl, hvisible, bytes, hfile, htext⟩, -⟩
      exact ⟨names, bytes, hfile, hvisible, htext, rfl⟩

/-- The file of a form with one step. -/
def greetingForm : Node := .ofText "\x7b\"steps\":[\x7b\"title\":\"A\"\x7d]\x7d"

/-- The entries of a folder with two forms, one beside its page and one in a folder below. -/
def greeting : List (String × Node) :=
  [("config.json", greetingForm), ("form", .folder [("config.json", greetingForm)]),
    ("index.html", .ofText "Hello {name}!"), (".DS_Store", .ofText "junk"), ("logo.png", .file [0xff, 0xfe])]

/-- A tree with a template in a folder. -/
def greetings : Node := .folder [("t", .folder greeting)]

/-- Where the template is. -/
def greetingPlace : Descriptor :=
  { id := "t", name := "t", folder := "t", repositoryUrl := "https://github.com/acme/templates" }

/-- The tree has files and folders only. -/
theorem regular_greetings : greetings.Regular := by
  have hform : greetingForm.Regular := .file _
  have hforms : (Node.folder [("config.json", greetingForm)]).Regular :=
    .folder _ (by decide +kernel) (by decide +kernel) (by simpa using hform)
  have hgreeting : (Node.folder greeting).Regular := by
    refine .folder _ (by decide +kernel) (by decide +kernel) ?_
    simp only [greeting, List.forall_mem_cons]
    exact ⟨hform, hforms, .file _, .file _, .file _, nofun⟩
  exact .folder _ (by decide +kernel) (by decide +kernel) (by simpa using hgreeting)

/-- A form beside the page is left out by both, and so are what is hidden and what is no text. -/
theorem agree_on_plain_form :
    greetings.Regular ∧ greetings.at? ["t"] = some (.folder greeting) ∧
      RemoteFolder.trimSlashes greetingPlace.folder = ofNames ["t"] ∧
      (Disk.ofNode greetings).find (Path.join "." greetingPlace.folder) = .ok (.folder greeting) ∧
      greetingPlace.repository? = some ⟨"acme", "templates"⟩ ∧
      (RepositoryContents.ofTree greetings).Serves ⟨"acme", "templates"⟩ greetingPlace.branch greetings ∧
      (Node.folder greeting).folders.length < 3 ∧
      ∃ inRepository,
        RemoteFolder.fetch (RepositoryContents.ofTree greetings) "config.json" 3 greetingPlace = pure inRepository ∧
        Agree (LocalFolder.read (Disk.ofNode greetings) "." "config.json" [] greetingPlace) inRepository := by
  have hat : greetings.at? ["t"] = some (.folder greeting) := rfl
  have hfolder : RemoteFolder.trimSlashes greetingPlace.folder = ofNames ["t"] := by decide +kernel
  have hdisk : (Disk.ofNode greetings).find (Path.join "." greetingPlace.folder) = .ok (.folder greeting) :=
    Disk.find_eq_ok_iff.mpr ⟨["t"], by decide +kernel, hat⟩
  have hrepository : greetingPlace.repository? = some ⟨"acme", "templates"⟩ := by decide +kernel
  have hserves := RepositoryContents.serves_ofTree regular_greetings ⟨"acme", "templates"⟩ greetingPlace.branch
  have hlimit : (Node.folder greeting).folders.length < 3 := by decide +kernel
  refine ⟨regular_greetings, hat, hfolder, hdisk, hrepository, hserves, hlimit, ?_⟩
  have hagree : ∃ inRepository, RemoteFolder.fetch (RepositoryContents.ofTree greetings) "config.json" 3 greetingPlace =
      pure inRepository ∧ _ := agree_iff_of_same_tree regular_greetings hat hfolder hdisk hrepository hserves hlimit
  obtain ⟨inRepository, hremote, -, hplain, -⟩ := hagree
  exact ⟨inRepository, hremote, hplain (by decide +kernel) (by decide +kernel)⟩

/-- A form in a folder below is among the files that a disk gives and not among those of a repository. -/
theorem disagree_on_nested_form :
    greetings.Regular ∧
      (RepositoryContents.ofTree greetings).Serves ⟨"acme", "templates"⟩ greetingPlace.branch greetings ∧
      ¬Agree (LocalFolder.read (Disk.ofNode greetings) "." "form/config.json" [] greetingPlace)
        (RemoteFolder.fetch (RepositoryContents.ofTree greetings) "form/config.json" 3 greetingPlace).run := by
  have honDisk : ((LocalFolder.read (Disk.ofNode greetings) "." "form/config.json" [] greetingPlace).map
      (·.files)).toOption.map NameMap.names = some ["config.json", "form/config.json", "index.html"] := by
    decide +kernel
  have hinRepository : ((RemoteFolder.fetch (RepositoryContents.ofTree greetings) "form/config.json" 3
      greetingPlace).run.map (·.files)).toOption.map NameMap.names = some ["config.json", "index.html"] := by
    decide +kernel
  refine ⟨regular_greetings, RepositoryContents.serves_ofTree regular_greetings _ _, fun hagree => ?_⟩
  rw [files_of_agree hagree, hinRepository] at honDisk
  exact absurd honDisk (by decide +kernel)

end TemplateContent

end SiteBuilder
