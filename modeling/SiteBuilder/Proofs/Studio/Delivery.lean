import SiteBuilder.Proofs.Export.Remote
import SiteBuilder.Proofs.Studio.Export

/-!
# Both exports deliver the same files

An archive and a repository are filled from the same bundle. The archive lists its files by their paths; the uploads to
a repository are under way at the same time, so a host may take them in any order, and holds the same files once it
has taken all of them. What becomes of the studio is settled by the time the bundle is there, whatever a host says.
-/

namespace SiteBuilder

namespace RepositoryCall

/-- The file that a request uploads. -/
def file? : RepositoryCall → Option (String × String)
  | .upload _ _ path content _ _ => some (path, content)
  | _ => none

/-- Whether the host does what it is asked for. -/
def isAccepted : RepositoryCall → Bool
  | .create _ _ _ answer => answer.isOk
  | .user answer => answer.isOk
  | .upload _ _ _ _ _ answer => answer.isOk

end RepositoryCall

namespace RemoteExporter

variable {τ : Type} {exporter : RemoteExporter (StateM τ)} {files : FileSet}

/-- The uploads of files are of these files. -/
theorem filterMap_file?_uploads {repository : RemoteRepository} {answer : String → Except ServiceError Unit}
    {uploads : List RepositoryCall}
    (huploads : uploads.Perm (files.entries.map fun file => exporter.uploadCall repository file (answer file.1))) :
    (uploads.filterMap RepositoryCall.file?).Perm files.entries := by
  have hfiles : (files.entries.map fun file => exporter.uploadCall repository file (answer file.1)).filterMap
      RepositoryCall.file? = files.entries := by
    rw [List.filterMap_map]
    exact List.filterMap_some
  have hperm := huploads.filterMap RepositoryCall.file?
  rwa [hfiles] at hperm

/-- Someone who is signed in and names the repository uploads every file once, and succeeds, if the host accepts every
request. -/
theorem Course.delivers {name description : String} {result : Except ExportError RemoteRepository}
    {calls : List RepositoryCall} (h : exporter.Course files name description result calls)
    (hidentity : exporter.identity.isAuthenticated = true) (hname : Text.trim name ≠ "")
    (haccepted : ∀ call ∈ calls, call.isAccepted = true) :
    (∃ repository, result = .ok repository) ∧ (calls.filterMap RepositoryCall.file?).Perm files.entries := by
  cases h with
  | notSignedIn hnobody => cases hidentity.symm.trans hnobody
  | unnamed _ hunnamed => exact absurd hunnamed hname
  | notCreated _ _ cause => cases haccepted _ List.mem_cons_self
  | unknownUser _ _ created cause => cases haccepted _ (List.mem_cons_of_mem _ List.mem_cons_self)
  | uploaded _ _ repository answer uploads huploads =>
    have htaken : failed files answer = [] := by
      apply failed_eq_nil_iff.mpr
      intro path content hfile
      have hcall : exporter.uploadCall repository (path, content) (answer path) ∈ uploads :=
        huploads.mem_iff.mpr (List.mem_map.mpr ⟨_, NameMap.mem_entries_iff.mpr hfile, rfl⟩)
      have hok : (answer path).isOk = true :=
        haccepted _ (List.mem_cons_of_mem _ (List.mem_cons_of_mem _ hcall))
      cases hanswer : answer path with
      | ok done => rfl
      | error cause =>
        rw [hanswer] at hok
        cases hok
    have huploaded : (uploads.filterMap RepositoryCall.file?).Perm files.entries := filterMap_file?_uploads huploads
    exact ⟨⟨repository, if_pos htaken⟩, huploaded⟩

end RemoteExporter

namespace Archive

/-- An archive of files that were inserted one after the other lists each path once, with the content it was given last:
the order in which paths were inserted makes no difference. -/
theorem entries_ofFiles_eq_iff {inserted others : List (String × String)} {name another : String} :
    (ofFiles (.ofList inserted) name).entries = (ofFiles (.ofList others) another).entries ↔
      ∀ path, inserted.reverse.lookup path = others.reverse.lookup path := by
  rw [ofFiles, ofFiles, NameMap.entries_inj]
  simp only [NameMap.ext_iff, NameMap.get?_ofList_eq_lookup_reverse]

end Archive

namespace Studio

variable {σ τ : Type} [DraftStore σ]

/-- What an export of a studio to a repository asks a host in some state, first request first. -/
def remoteCalls (studio : Studio σ) (now : Nat) (exporter : RemoteExporter (StateM τ))
    (name description : Option String) (order : UploadOrder) (host : τ) : List RepositoryCall :=
  (((studio.exportRemote now exporter.recording name description order).run []).run host).1.2

variable {studio after : Studio σ} {now : Nat} {bundle : Bundle}

/-- An archive is packed from the bundle. -/
theorem exportArchive_of_ok (hbundle : studio.exportBundle now = (.ok bundle, after)) (name : Option String) :
    studio.exportArchive now name =
      (.ok (.ofFiles bundle.files ((name.or bundle.suggestedName).getD after.settings.export_.defaultArchiveName)),
        after) := by
  rw [exportArchive, hbundle]
  rfl

/-- An archive that is exported is packed from the files of a bundle, under some name. -/
theorem exists_ofFiles_of_exportArchive {name : Option String} {archive : Archive}
    (h : (studio.exportArchive now name).1 = .ok archive) :
    ∃ bundle suggested, studio.exportBundle now = (.ok bundle, (studio.exportBundle now).2) ∧
      archive = .ofFiles bundle.files suggested := by
  have hpacked : (studio.exportBundle now).1.map (fun bundle => Archive.ofFiles bundle.files
      ((name.or bundle.suggestedName).getD (studio.exportBundle now).2.settings.export_.defaultArchiveName)) =
        .ok archive := h
  cases hresult : (studio.exportBundle now).1 with
  | error cause =>
    rw [hresult] at hpacked
    cases hpacked
  | ok bundle =>
    rw [hresult] at hpacked
    exact ⟨bundle, _, Prod.ext hresult rfl, (Except.ok.inj hpacked).symm⟩

/-- An archive that is exported comes of a bundle. -/
theorem exists_bundle_of_exportArchive {name : Option String} {archive : Archive}
    (h : (studio.exportArchive now name).1 = .ok archive) :
    ∃ bundle, studio.exportBundle now = (.ok bundle, (studio.exportBundle now).2) ∧
      archive.entries = bundle.files.entries := by
  obtain ⟨bundle, _, hbundle, rfl⟩ := exists_ofFiles_of_exportArchive h
  exact ⟨bundle, hbundle, rfl⟩

variable (exporter : RemoteExporter (StateM τ)) (name description : Option String) (order : UploadOrder) (host : τ)

/-- Once there is a bundle, the host decides what the export comes to, and the studio is the one that is left. -/
theorem run_exportRemote_of_ok (hbundle : studio.exportBundle now = (.ok bundle, after)) :
    ((studio.exportRemote now exporter name description order).run host).1 =
      ((((exporter.run bundle.files ((name.or bundle.suggestedName).getD "")
        (description.getD (bundle.description after.settings.export_)) order).run host).1).mapError .exporting,
        after) := by
  rw [exportRemote, hbundle]
  rfl

/-- Once there is a bundle, the host is asked to take its files. -/
theorem remoteCalls_of_ok (hbundle : studio.exportBundle now = (.ok bundle, after)) :
    studio.remoteCalls now exporter name description order host =
      exporter.calls bundle.files ((name.or bundle.suggestedName).getD "")
        (description.getD (bundle.description after.settings.export_)) order host := by
  rw [remoteCalls, exportRemote, hbundle]
  rfl

/-- Whatever state a studio is in, if it exports an archive:

* the archive holds the rendered files, and a README if one is wanted and no file has its path in whatever case, and
  nothing else, listed by strictly ascending paths;
* whatever becomes of an export to a repository instead, it leaves the same studio;
* if its user is signed in and names the repository, and the host accepts every request, it succeeds, and the files it
  uploads are the entries of the archive, whatever order the host takes them in;
* of files that were inserted one after the other, an archive has the same entries as of others exactly if each path
  was given the same content last. -/
theorem same_files_of_both_exports (studio : Studio σ) (now : Nat) (name : Option String) (archive : Archive)
    (harchive : (studio.exportArchive now name).1 = .ok archive) :
    (∃ config rendered, studio.form.config = some config ∧ studio.renderedFiles? = some rendered ∧
      archive.entries.Pairwise (fun a b => a.1 < b.1) ∧
      ∀ path text, (path, text) ∈ archive.entries ↔
        rendered.get? path = some text ∨
          path = "README.md" ∧ studio.settings.export_.generateReadme = true ∧
            (∀ shipped ∈ rendered.names, Text.sameIgnoringAsciiCase shipped "README.md" = false) ∧
              text = Readme.filled studio.form.effectiveAnswers config studio.settings.export_) ∧
      (∀ {τ : Type} (exporter : RemoteExporter (StateM τ)) (repository description : Option String)
        (order : UploadOrder) (host : τ),
        let outcome := ((studio.exportRemote now exporter repository description order).run host).1
        let calls := studio.remoteCalls now exporter repository description order host
        outcome.2 = (studio.exportArchive now name).2 ∧
          (exporter.identity.isAuthenticated = true →
            Text.trim ((repository.or (suggestRepositoryName studio.form.effectiveAnswers)).getD "") ≠ "" →
            (∀ call ∈ calls, call.isAccepted = true) →
              (∃ made, outcome.1 = .ok made) ∧ (calls.filterMap RepositoryCall.file?).Perm archive.entries)) ∧
      ∀ (inserted others : List (String × String)) (first second : String),
        (Archive.ofFiles (.ofList inserted) first).entries = (Archive.ofFiles (.ofList others) second).entries ↔
          ∀ path, inserted.reverse.lookup path = others.reverse.lookup path := by
  obtain ⟨bundle, hbundle, hentries⟩ := exists_bundle_of_exportArchive harchive
  have hend := exportEnd_exportBundle studio now
  rw [hbundle] at hend
  obtain ⟨files, config, hfiles, hconfig, hfilled⟩ := hend.exists_eq
  refine ⟨⟨config, files.render studio.form.effectiveAnswers, hconfig, ?_, ?_, fun path text => ?_⟩,
    fun exporter repository description order host => ⟨?_, ?_⟩, fun _ _ _ _ => Archive.entries_ofFiles_eq_iff⟩
  · rw [renderedFiles?, hfiles]
    rfl
  · rw [hentries]
    exact NameMap.ascending _
  · rw [hentries, NameMap.mem_entries_iff, hfilled]
    exact Bundle.get?_filesOf_eq_some_iff
  · rw [run_exportRemote_of_ok exporter repository description order host hbundle, exportArchive_of_ok hbundle]
  · intro hidentity hname haccepted
    rw [remoteCalls_of_ok exporter repository description order host hbundle] at haccepted ⊢
    rw [run_exportRemote_of_ok exporter repository description order host hbundle, hentries]
    have hsuggested : suggestRepositoryName studio.form.effectiveAnswers = bundle.suggestedName := by
      rw [hfilled]
      rfl
    rw [hsuggested] at hname
    have hcourse := exporter.course_run bundle.files ((repository.or bundle.suggestedName).getD "")
      (description.getD (bundle.description (studio.exportBundle now).2.settings.export_)) order host
    obtain ⟨⟨made, hmade⟩, huploaded⟩ := hcourse.delivers hidentity hname haccepted
    refine ⟨⟨made, ?_⟩, huploaded⟩
    rw [hmade]
    rfl

/-- A site whose last edit has not been committed is delivered with it, also by a host that takes the uploads last file
first. -/
theorem same_files_of_queued_edit :
    let name : Field := ⟨"name", none, .text, some (.text "World"), none, none, [], false, .none⟩
    let site : FileSet := .ofList [("index.html", "Hi {name}"), ("a.css", "b")]
    let settings : Settings := { export_ := { generateReadme := false } }
    let start : TimedStudio MemoryDrafts := .initial .start settings .empty .empty
    let studio := (start.run [.selectTemplate "t", .contentLoaded "t" ⟨⟨none, none, [⟨"1", "", none, [name]⟩]⟩, site⟩,
      .update (.singleton "name" (.text "Ada"))]).studio
    let archive : Archive := ⟨"ada.zip", [("a.css", "b"), ("index.html", "Hi Ada")]⟩
    let host : RepositoryHost (StateM Unit) :=
      { create := fun name _ _ => return .ok ⟨name, "https://github.com/ada/" ++ name⟩
        user := return .ok "ada"
        upload := fun _ _ _ _ _ => return .ok () }
    let exporter : RemoteExporter (StateM Unit) := ⟨host, ⟨some "token", {}⟩, {}⟩
    let order : UploadOrder := ⟨List.reverse, List.reverse_perm⟩
    let calls := studio.remoteCalls 0 exporter none none order ()
    (studio.exportArchive 0 none).1 = .ok archive ∧ exporter.identity.isAuthenticated = true ∧
      Text.trim (((none : Option String).or (suggestRepositoryName studio.form.effectiveAnswers)).getD "") ≠ "" ∧
      (∀ call ∈ calls, call.isAccepted = true) ∧
      (∃ made, ((studio.exportRemote 0 exporter none none order).run ()).1.1 = .ok made) ∧
      (calls.filterMap RepositoryCall.file?).Perm archive.entries ∧
      calls.filterMap RepositoryCall.file? = [("index.html", "Hi Ada"), ("a.css", "b")] := by
  intro name site settings start studio archive host exporter order calls
  have hpacked : (studio.exportArchive 0 none).1.toOption = some archive := by decide +kernel
  have harchive : (studio.exportArchive 0 none).1 = .ok archive := ok_of_toOption hpacked
  have hname :
      Text.trim (((none : Option String).or (suggestRepositoryName studio.form.effectiveAnswers)).getD "") ≠ "" := by
    decide +kernel
  have haccepted : ∀ call ∈ calls, call.isAccepted = true := by decide +kernel
  have huploads : calls.filterMap RepositoryCall.file? = [("index.html", "Hi Ada"), ("a.css", "b")] := by
    decide +kernel
  obtain ⟨-, hboth, -⟩ := same_files_of_both_exports studio 0 none archive harchive
  obtain ⟨hmade, hfiles⟩ := (hboth exporter none none order ()).2 rfl hname haccepted
  exact ⟨harchive, rfl, hname, haccepted, hmade, hfiles, huploads⟩

end Studio

end SiteBuilder
