import SiteBuilder.Export.Remote
import SiteBuilder.Proofs.NameMap
import SiteBuilder.Proofs.Text.Cut

/-!
# What an export asks its host

A host is any machine that answers requests by its state, so every pattern of answers is that of some host. All
requests of an export are noted with the answers to them, whatever order the uploads are taken in. They decide
what the export comes to.

A repository that was made stays. An export whose uploads fail tells which one that is; an export that cannot find
out who asks for it does not.
-/

namespace SiteBuilder

/-- A request to a host of repositories with the answer to it. -/
inductive RepositoryCall where
  | create (name description : String) ( isPrivate : Bool) (answer : Except ServiceError CreatedRepository)
  | user (answer : Except ServiceError String)
  | upload (owner repository path content note : String) (answer : Except ServiceError Unit)

/-- The repository that a request has made. -/
def RepositoryCall.made? : RepositoryCall → Option CreatedRepository
  | .create _ _ _ (.ok created) => some created
  | _ => none

/-- The host with every request noted after those before it. -/
def RepositoryHost.recording {m : Type → Type} [Monad m] (host : RepositoryHost m) :
    RepositoryHost (StateT (List RepositoryCall) m) where
  create name description hidden := do
    let answer ← host.create name description hidden
    modify (· ++ [.create name description hidden answer])
    return answer
  user := do
    let answer ← host.user
    modify (· ++ [.user answer])
    return answer
  upload owner repository path content note := do
    let answer ← host.upload owner repository path content note
    modify (· ++ [.upload owner repository path content note answer])
    return answer

namespace RemoteExporter

section Recording

variable {m : Type → Type} [Monad m] (exporter : RemoteExporter m)

/-- The exporter with every request to its host noted. -/
def recording : RemoteExporter (StateT (List RepositoryCall) m) :=
  ⟨exporter.host.recording, exporter.identity, exporter.settings⟩

/-- The request to upload a file, with the answer to it. -/
def uploadCall (repository : RemoteRepository) (file : String × String) (answer : Except ServiceError Unit) :
    RepositoryCall :=
  .upload repository.owner repository.name file.1 file.2 (commitMessage exporter.settings file.1) answer

@[simp]
theorem identity_recording : exporter.recording.identity = exporter.identity := rfl

@[simp]
theorem settings_recording : exporter.recording.settings = exporter.settings := rfl

variable [LawfulMonad m]

@[simp]
theorem run_create_recording (name description : String) (hidden : Bool) (before : List RepositoryCall) :
    (exporter.recording.host.create name description hidden).run before =
      (fun answer => (answer, before ++ [.create name description hidden answer])) <$>
        exporter.host.create name description hidden := by
  simp [recording, RepositoryHost.recording]

@[simp]
theorem run_user_recording (before : List RepositoryCall) :
    exporter.recording.host.user.run before =
      (fun answer => (answer, before ++ [.user answer])) <$> exporter.host.user := by
  simp [recording, RepositoryHost.recording]

@[simp]
theorem run_upload_recording (owner repository path content note : String) (before : List RepositoryCall) :
    (exporter.recording.host.upload owner repository path content note).run before =
      (fun answer => (answer, before ++ [.upload owner repository path content note answer])) <$>
        exporter.host.upload owner repository path content note := by
  simp [recording, RepositoryHost.recording]

/-- Uploads are noted in the order they are taken in. -/
theorem run_uploadEach_recording (repository : RemoteRepository) (files : List (String × String))
    (before : List RepositoryCall) :
    (exporter.recording.uploadEach repository files).run before =
      (fun answers => (answers, before ++
        List.zipWith (fun file answer => exporter.uploadCall repository file answer.2) files answers)) <$>
        exporter.uploadEach repository files := by
  induction files generalizing before with
  | nil => simp [uploadEach]
  | cons file files ih => simp [uploadEach, ih, uploadCall]

/-- All uploads are noted, those that fail too. -/
theorem run_uploadAll_recording (repository : RemoteRepository) (files : FileSet) (order : UploadOrder)
    (before : List RepositoryCall) :
    (exporter.recording.uploadAll repository files order).run before =
      (fun answers => (failures (.ofList answers), before ++
        List.zipWith (fun file answer => exporter.uploadCall repository file answer.2)
          (order.arrange files.entries) answers)) <$>
        exporter.uploadEach repository (order.arrange files.entries) := by
  simp [uploadAll, run_uploadEach_recording]

end Recording

variable {σ : Type}

/-- What an export asks a host in some state, and what it is answered, first request first. -/
def calls (exporter : RemoteExporter (StateM σ)) (files : FileSet) (name description : String)
    (order : UploadOrder) (state : σ) : List RepositoryCall :=
  (((exporter.recording.run files name description order).run []).run state).1.2

/-! ## The answers to uploads -/

/-- The uploads of files that fail if each is answered in some way. -/
def failed (files : FileSet) (answer : String → Except ServiceError Unit) : List UploadFailure :=
  failures (files.mapWithName fun path _ => answer path)

/-- The failures are those of the files whose upload failed. -/
theorem mem_failed_iff {files : FileSet} {answer : String → Except ServiceError Unit} {failure : UploadFailure} :
    failure ∈ failed files answer ↔
      ∃ content cause, files.get? failure.path = some content ∧ answer failure.path = .error cause ∧
        failure.reason = cause.message := by
  simp only [failed, failures, NameMap.mapWithName, List.filterMap_map, List.mem_filterMap, Prod.exists,
    Function.comp_apply, NameMap.mem_entries_iff]
  constructor
  · rintro ⟨path, content, hfile, hfailure⟩
    cases hanswer : answer path with
    | ok done =>
      rw [hanswer] at hfailure
      cases hfailure
    | error cause =>
      rw [hanswer] at hfailure
      cases hfailure
      exact ⟨content, cause, hfile, hanswer, rfl⟩
  · rintro ⟨content, cause, hfile, hanswer, hreason⟩
    refine ⟨failure.path, content, hfile, ?_⟩
    rw [hanswer]
    exact congrArg (fun reason => some (UploadFailure.mk failure.path reason)) hreason.symm

/-- The failures are listed by their paths, and no path twice. -/
theorem pairwise_failed (files : FileSet) (answer : String → Except ServiceError Unit) :
    (failed files answer).Pairwise fun a b => a.path < b.path := by
  refine List.pairwise_filterMap.mpr ((NameMap.ascending _).imp ?_)
  rintro ⟨path, first⟩ ⟨later, second⟩ hlt failure hfailure next hnext
  cases first <;> cases hfailure
  cases second <;> cases hnext
  exact hlt

/-- Nothing is listed exactly if no upload failed. -/
theorem failed_eq_nil_iff {files : FileSet} {answer : String → Except ServiceError Unit} :
    failed files answer = [] ↔ ∀ path content, files.get? path = some content → answer path = .ok () := by
  rw [List.eq_nil_iff_forall_not_mem]
  constructor
  · intro h path content hfile
    cases hanswer : answer path with
    | ok done => rfl
    | error cause => exact absurd (mem_failed_iff.mpr ⟨content, cause, hfile, hanswer, rfl⟩) (h ⟨path, cause.message⟩)
  · intro h failure hmem
    obtain ⟨content, cause, hfile, hanswer, -⟩ := mem_failed_iff.mp hmem
    cases hanswer.symm.trans (h failure.path content hfile)

/-- Every upload is answered, in the order the uploads are taken in. -/
theorem paths_uploadEach (exporter : RemoteExporter (StateM σ)) (repository : RemoteRepository)
    (files : List (String × String)) (state : σ) :
    ((exporter.uploadEach repository files).run state).1.map Prod.fst = files.map Prod.fst := by
  induction files generalizing state with
  | nil => rfl
  | cons file files ih => exact congrArg (List.cons file.1) (ih _)

/-- The answers to the uploads of all files are one answer for each path. -/
theorem exists_answer {files : FileSet} {order : UploadOrder} {answers : List (String × Except ServiceError Unit)}
    (hpaths : answers.map Prod.fst = (order.arrange files.entries).map Prod.fst) :
    ∃ answer : String → Except ServiceError Unit,
      answers = (order.arrange files.entries).map (fun file => (file.1, answer file.1)) ∧
        failures (.ofList answers) = failed files answer := by
  have hnames : (answers.map Prod.fst).Nodup := by
    rw [hpaths]
    refine (List.Perm.nodup_iff ((order.perm files.entries).map Prod.fst)).mpr ?_
    exact List.pairwise_map.mpr (files.ascending.imp String.ne_of_lt)
  let answer (path : String) : Except ServiceError Unit := ((NameMap.ofList answers).get? path).getD (.ok ())
  have hown : ∀ entry ∈ answers, (entry.1, answer entry.1) = entry := by
    rintro ⟨path, found⟩ hmem
    have hget : (NameMap.ofList answers).get? path = some found := (NameMap.get?_ofList_eq_some_iff hnames).mpr hmem
    simp only [answer, hget, Option.getD_some]
  have hanswers : answers = (order.arrange files.entries).map fun file => (file.1, answer file.1) :=
    calc answers = answers.map fun entry => (entry.1, answer entry.1) := by
          rw [List.map_congr_left hown, List.map_id']
      _ = (answers.map Prod.fst).map fun path => (path, answer path) := by rw [List.map_map]; rfl
      _ = (order.arrange files.entries).map fun file => (file.1, answer file.1) := by
          rw [hpaths, List.map_map]
          rfl
  refine ⟨answer, hanswers, congrArg failures (NameMap.ext fun path => Option.ext fun found => ?_)⟩
  rw [NameMap.get?_ofList_eq_some_iff hnames, NameMap.get?_mapWithName, Option.map_eq_some_iff, hanswers, List.mem_map]
  constructor
  · rintro ⟨⟨_, content⟩, hmem, heq⟩
    cases heq
    exact ⟨content, NameMap.mem_entries_iff.mp ((order.perm files.entries).mem_iff.mp hmem), rfl⟩
  · rintro ⟨content, hfile, rfl⟩
    exact ⟨(path, content), (order.perm files.entries).mem_iff.mpr (NameMap.mem_entries_iff.mpr hfile), rfl⟩

/-! ## The course of an export -/

/-- The courses an export can take: what it comes to, with all that its host was asked. -/
inductive Course (exporter : RemoteExporter (StateM σ)) (files : FileSet) (name description : String) :
    Except ExportError RemoteRepository → List RepositoryCall → Prop where
  | notSignedIn (hidentity : exporter.identity.isAuthenticated = false) :
      Course exporter files name description (.error .authRequired) []
  | unnamed (hidentity : exporter.identity.isAuthenticated = true) (hname : Text.trim name = "") :
      Course exporter files name description (.error (.createRepository "Repository name is required")) []
  | notCreated (hidentity : exporter.identity.isAuthenticated = true) (hname : Text.trim name ≠ "")
      (cause : ServiceError) :
      Course exporter files name description (.error (creationError cause))
        [.create (Text.trim name) description exporter.settings.privateRepository (.error cause)]
  | unknownUser (hidentity : exporter.identity.isAuthenticated = true) (hname : Text.trim name ≠ "")
      (created : CreatedRepository) (cause : ServiceError) :
      Course exporter files name description (.error (.identity cause.message))
        [.create (Text.trim name) description exporter.settings.privateRepository (.ok created), .user (.error cause)]
  | uploaded (hidentity : exporter.identity.isAuthenticated = true) (hname : Text.trim name ≠ "")
      (repository : RemoteRepository) (answer : String → Except ServiceError Unit) (uploads : List RepositoryCall)
      (huploads : uploads.Perm (files.entries.map fun file => exporter.uploadCall repository file (answer file.1))) :
      Course exporter files name description
        (if failed files answer = [] then .ok repository else .error (.upload repository (failed files answer)))
        (.create (Text.trim name) description exporter.settings.privateRepository
            (.ok ⟨repository.name, repository.url⟩) ::
          .user (.ok repository.owner) :: uploads)

/-- A request is answered, and leaves its host in some state. -/
theorem exists_run {α : Type} (request : StateM σ α) (state : σ) :
    ∃ answer next, request.run state = (pure (answer, next) : Id (α × σ)) := ⟨_, _, rfl⟩

/-- All files are uploaded, each with an answer, and the failures are those of the answers. -/
theorem exists_uploads (exporter : RemoteExporter (StateM σ)) (repository : RemoteRepository) (files : FileSet)
    (order : UploadOrder) (before : List RepositoryCall) (state : σ) :
    ∃ (answer : String → Except ServiceError Unit) (uploads : List RepositoryCall) (next : σ),
      uploads.Perm (files.entries.map fun file => exporter.uploadCall repository file (answer file.1)) ∧
        (exporter.uploadAll repository files order).run state =
          (pure (failed files answer, next) : Id (List UploadFailure × σ)) ∧
        ((exporter.recording.uploadAll repository files order).run before).run state =
          (pure ((failed files answer, before ++ uploads), next) :
            Id ((List UploadFailure × List RepositoryCall) × σ)) := by
  obtain ⟨answers, next, hanswers⟩ := exists_run (exporter.uploadEach repository (order.arrange files.entries)) state
  have hpaths : answers.map Prod.fst = (order.arrange files.entries).map Prod.fst := by
    have hrun := exporter.paths_uploadEach repository (order.arrange files.entries) state
    rwa [hanswers] at hrun
  obtain ⟨answer, heach, hfailed⟩ := exists_answer hpaths
  refine ⟨answer, (order.arrange files.entries).map fun file => exporter.uploadCall repository file (answer file.1),
    next, (order.perm files.entries).map _, ?_, ?_⟩
  · simp only [uploadAll, StateT.run_bind, hanswers, pure_bind, StateT.run_pure, hfailed]
  · rw [run_uploadAll_recording, StateT.run_map, hanswers, map_pure]
    dsimp only
    rw [hfailed, heach, List.zipWith_map_right, List.zipWith_self]

/-- Every export takes one of the courses. -/
theorem course_run (exporter : RemoteExporter (StateM σ)) (files : FileSet) (name description : String)
    (order : UploadOrder) (state : σ) :
    exporter.Course files name description ((exporter.run files name description order).run state).1
      (exporter.calls files name description order state) := by
  unfold calls run
  rw [identity_recording]
  cases hidentity : exporter.identity.isAuthenticated with
  | false => exact .notSignedIn hidentity
  | true =>
    by_cases hname : Text.trim name = ""
    · simp only [Bool.not_true, Bool.false_eq_true, ↓reduceIte, hname, StateT.run_pure]
      exact .unnamed hidentity hname
    obtain ⟨creation, afterCreate, hcreate⟩ := exists_run
      (exporter.host.create (Text.trim name) description exporter.settings.privateRepository) state
    simp only [Bool.not_true, Bool.false_eq_true, ↓reduceIte, hname, StateT.run_bind, hcreate, pure_bind,
      settings_recording, run_create_recording, List.nil_append, bind_map_left]
    cases creation with
    | error cause => exact .notCreated hidentity hname cause
    | ok created =>
      obtain ⟨lookup, afterUser, huser⟩ := exists_run exporter.host.user afterCreate
      simp only [StateT.run_bind, huser, pure_bind, run_user_recording, List.cons_append, bind_map_left]
      cases lookup with
      | error cause => exact .unknownUser hidentity hname created cause
      | ok owner =>
        obtain ⟨answer, uploads, afterUploads, huploads, hrun, hrecorded⟩ := exporter.exists_uploads
          ⟨created.pageUrl, owner, created.name⟩ files order
          [.create (Text.trim name) description exporter.settings.privateRepository (.ok created), .user (.ok owner)]
          afterUser
        have hcourse : Course exporter files name description _ _ :=
          .uploaded hidentity hname ⟨created.pageUrl, owner, created.name⟩ answer uploads huploads
        simp only [StateT.run_bind, hrun, hrecorded, pure_bind, List.nil_append, List.isEmpty_iff]
        by_cases hnone : failed files answer = []
        · simp only [hnone, ↓reduceIte] at hcourse ⊢
          exact hcourse
        · simp only [hnone, ↓reduceIte] at hcourse ⊢
          exact hcourse

/-! ## What is uploaded -/

/-- Every file is uploaded once, and the answers to its uploads decide what an export comes to. -/
structure Uploads (exporter : RemoteExporter (StateM σ)) (files : FileSet) (repository : RemoteRepository)
    (answer : String → Except ServiceError Unit) (uploads : List RepositoryCall)
    (result : Except ExportError RemoteRepository) : Prop where
  once : uploads.Perm (files.entries.map fun file => exporter.uploadCall repository file (answer file.1))
  succeeds_iff : result = .ok repository ↔
    ∀ path content, files.get? path = some content → answer path = .ok ()
  of_failure : (∃ path content cause, files.get? path = some content ∧ answer path = .error cause) →
    ∃ failures, result = .error (.upload repository failures) ∧ failures.Pairwise (fun a b => a.path < b.path) ∧
      ∀ failure, failure ∈ failures ↔ ∃ content cause, files.get? failure.path = some content ∧
        answer failure.path = .error cause ∧ failure.reason = cause.message

/-- An export succeeds unless uploads fail, and then it lists those that failed. -/
theorem uploads_of_perm {exporter : RemoteExporter (StateM σ)} {files : FileSet} {repository : RemoteRepository}
    {answer : String → Except ServiceError Unit} {uploads : List RepositoryCall}
    (huploads : uploads.Perm (files.entries.map fun file => exporter.uploadCall repository file (answer file.1))) :
    exporter.Uploads files repository answer uploads
      (if failed files answer = [] then .ok repository else .error (.upload repository (failed files answer))) where
  once := huploads
  succeeds_iff := by
    rw [← failed_eq_nil_iff]
    by_cases hnone : failed files answer = [] <;> simp [hnone]
  of_failure := by
    rintro ⟨path, content, cause, hfile, hanswer⟩
    have hsome : failed files answer ≠ [] := by
      intro hnone
      cases hanswer.symm.trans (failed_eq_nil_iff.mp hnone path content hfile)
    exact ⟨failed files answer, if_neg hsome, pairwise_failed files answer, fun failure => mem_failed_iff⟩

/-- A message is noted with the path in every place that is marked for it, and is the same elsewhere. -/
theorem exists_pieces_of_commitMessage (settings : ExportSettings) :
    ∃ first others, (∀ piece ∈ first :: others, ¬pathMark.toList <:+: piece) ∧
      settings.commitMessage.toList = pathMark.toList.intercalate (first :: others) ∧
        ∀ path, (commitMessage settings path).toList = path.toList.intercalate (first :: others) := by
  have hmark : pathMark.toList ≠ [] := by decide
  obtain ⟨first, others, habsent, hwhole, hreplaced⟩ := Text.exists_pieces hmark settings.commitMessage.toList
  refine ⟨first, others, habsent, hwhole, fun path => ?_⟩
  rw [commitMessage, Text.replaceAll, String.toList_ofList, hreplaced]

/-- Whatever the host answers, and in whatever order it takes uploads:

* nobody who is not signed in, and nobody without a name for the repository, asks the host anything;
* everybody else first asks for the repository, under its name without blanks around it. If it is not made, nothing
  else is asked, and if it is not known who asks, nothing is uploaded;
* once both are known, every file is uploaded once, with its own content, to the repository that was made, whether
  or not other uploads fail. The export succeeds exactly if all uploads do, and otherwise lists those that failed, by
  their paths and each with its own reason;
* the message of an upload is the one of the settings with the path wherever it is marked. -/
theorem uploads_complete_of_run (exporter : RemoteExporter (StateM σ)) (files : FileSet) (name description : String)
    (order : UploadOrder) (state : σ) :
    let result := ((exporter.run files name description order).run state).1
    let calls := exporter.calls files name description order state
    let begins := exporter.identity.isAuthenticated = true ∧ Text.trim name ≠ ""
    (¬begins → calls = [] ∧ ∃ cause, result = .error cause) ∧
      (begins → ∃ creation, calls.head? =
          some (.create (Text.trim name) description exporter.settings.privateRepository creation) ∧
        (∀ cause, creation = .error cause → calls.tail = [] ∧ ∃ error, result = .error error) ∧
        ∀ created, creation = .ok created → ∃ lookup, calls.tail.head? = some (.user lookup) ∧
          (∀ cause, lookup = .error cause → calls.tail.tail = [] ∧ ∃ error, result = .error error) ∧
          ∀ owner, lookup = .ok owner → ∃ answer, exporter.Uploads files ⟨created.pageUrl, owner, created.name⟩ answer
            calls.tail.tail result) ∧
      ∃ first others, (∀ piece ∈ first :: others, ¬pathMark.toList <:+: piece) ∧
        exporter.settings.commitMessage.toList = pathMark.toList.intercalate (first :: others) ∧
          ∀ path, (commitMessage exporter.settings path).toList = path.toList.intercalate (first :: others) := by
  intro result calls begins
  have hcourse : exporter.Course files name description result calls :=
    exporter.course_run files name description order state
  clear_value result calls
  refine ⟨?_, ?_, exists_pieces_of_commitMessage exporter.settings⟩
  · intro hbegins
    cases hcourse with
    | notSignedIn | unnamed => exact ⟨rfl, _, rfl⟩
    | notCreated hidentity hname | unknownUser hidentity hname | uploaded hidentity hname =>
      exact absurd ⟨hidentity, hname⟩ hbegins
  · rintro ⟨hidentity, hname⟩
    cases hcourse with
    | notSignedIn hnobody => cases hidentity.symm.trans hnobody
    | unnamed _ hunnamed => exact absurd hunnamed hname
    | notCreated _ _ cause => exact ⟨.error cause, rfl, fun _ _ => ⟨rfl, _, rfl⟩, nofun⟩
    | unknownUser _ _ created cause =>
      refine ⟨.ok created, rfl, nofun, ?_⟩
      rintro _ ⟨⟩
      exact ⟨.error cause, rfl, fun _ _ => ⟨rfl, _, rfl⟩, nofun⟩
    | uploaded _ _ repository answer uploads huploads =>
      refine ⟨.ok ⟨repository.name, repository.url⟩, rfl, nofun, ?_⟩
      rintro _ ⟨⟩
      refine ⟨.ok repository.owner, rfl, nofun, ?_⟩
      rintro _ ⟨⟩
      exact ⟨answer, uploads_of_perm huploads⟩

/-! ## What is left behind -/

/-- Uploads make no repository. -/
theorem made_uploads {exporter : RemoteExporter (StateM σ)} {files : FileSet} {repository : RemoteRepository}
    {answer : String → Except ServiceError Unit} {uploads : List RepositoryCall}
    (huploads : uploads.Perm (files.entries.map fun file => exporter.uploadCall repository file (answer file.1))) :
    uploads.filterMap RepositoryCall.made? = [] := by
  refine List.filterMap_eq_nil_iff.mpr fun call hcall => ?_
  obtain ⟨file, -, rfl⟩ := List.mem_map.mp (huploads.mem_iff.mp hcall)
  rfl

/-- A repository that is not made is neither one whose uploads failed nor one of an unknown user. -/
theorem creationError_cases (cause : ServiceError) :
    (∀ repository failures, creationError cause ≠ .upload repository failures) ∧
      ∀ reason, creationError cause ≠ .identity reason := by
  cases cause <;> exact ⟨nofun, nofun⟩

/-- What an export leaves behind is told by what it comes to. -/
theorem Course.left_behind {exporter : RemoteExporter (StateM σ)} {files : FileSet} {name description : String}
    {result : Except ExportError RemoteRepository} {calls : List RepositoryCall}
    (h : exporter.Course files name description result calls) :
    (∀ repository failures, result = .error (.upload repository failures) →
        calls.filterMap RepositoryCall.made? = [⟨repository.name, repository.url⟩] ∧
          .user (.ok repository.owner) ∈ calls) ∧
      ∀ cause, result = .error cause → (∀ repository failures, cause ≠ .upload repository failures) →
        (calls.filterMap RepositoryCall.made? = [] ∧ ∀ reason, cause ≠ .identity reason) ∨
          ∃ created reason, calls.filterMap RepositoryCall.made? = [created] ∧ cause = .identity reason := by
  cases h with
  | notSignedIn hidentity =>
    refine ⟨nofun, ?_⟩
    rintro _ ⟨⟩ -
    exact Or.inl ⟨rfl, nofun⟩
  | unnamed hidentity hname =>
    refine ⟨nofun, ?_⟩
    rintro _ ⟨⟩ -
    exact Or.inl ⟨rfl, nofun⟩
  | notCreated hidentity hname cause =>
    obtain ⟨hupload, hreason⟩ := creationError_cases cause
    refine ⟨fun repository failures heq => absurd (Except.error.inj heq) (hupload repository failures), ?_⟩
    rintro _ ⟨⟩ -
    exact Or.inl ⟨rfl, hreason⟩
  | unknownUser hidentity hname created cause =>
    refine ⟨nofun, ?_⟩
    rintro _ ⟨⟩ -
    exact Or.inr ⟨created, cause.message, rfl, rfl⟩
  | uploaded hidentity hname repository answer uploads huploads =>
    have hmade := congrArg (List.cons (⟨repository.name, repository.url⟩ : CreatedRepository)) (made_uploads huploads)
    by_cases hnone : failed files answer = []
    · rw [if_pos hnone]
      exact ⟨nofun, nofun⟩
    · rw [if_neg hnone]
      constructor
      · rintro _ _ ⟨⟩
        exact ⟨hmade, List.mem_cons_of_mem _ List.mem_cons_self⟩
      · rintro _ ⟨⟩ hother
        exact absurd rfl (hother repository (failed files answer))

/-- An export that fails for another reason than its uploads has made a repository exactly if it could not find out
who asked for it, and then one. An export whose uploads fail has made one repository, the one it tells of, for the
user it tells of. -/
theorem left_behind_of_run (exporter : RemoteExporter (StateM σ)) (files : FileSet) (name description : String)
    (order : UploadOrder) (state : σ) :
    let result := ((exporter.run files name description order).run state).1
    let calls := exporter.calls files name description order state
    let made := calls.filterMap RepositoryCall.made?
    (∀ repository failures, result = .error (.upload repository failures) →
        made = [⟨repository.name, repository.url⟩] ∧ .user (.ok repository.owner) ∈ calls) ∧
      ∀ cause, result = .error cause → (∀ repository failures, cause ≠ .upload repository failures) →
        (made = [] ↔ ∀ reason, cause ≠ .identity reason) ∧
          ((∃ created, made = [created]) ↔ ∃ reason, cause = .identity reason) := by
  intro result calls made
  obtain ⟨hupload, hother⟩ := (exporter.course_run files name description order state).left_behind
  refine ⟨hupload, fun cause hcause hcauses => ?_⟩
  rcases hother cause hcause hcauses with ⟨hnone, hreason⟩ | ⟨created, reason, hone, rfl⟩
  · refine ⟨iff_of_true hnone hreason, iff_of_false ?_ fun ⟨reason, heq⟩ => hreason reason heq⟩
    rintro ⟨created, hone⟩
    cases hnone.symm.trans hone
  · refine ⟨iff_of_false ?_ fun hreason => hreason reason rfl, iff_of_true ⟨created, hone⟩ ⟨reason, rfl⟩⟩
    intro hnone
    cases hnone.symm.trans hone

/-- An export that cannot find out who asks for it leaves a repository behind that it does not tell of. -/
theorem untold_repository_of_failed_lookup :
    let host : RepositoryHost (StateM Unit) :=
      { create := fun name _ _ => return .ok ⟨name, "https://github.com/ada/" ++ name⟩
        user := return .error (.status 500 "Server Error")
        upload := fun _ _ _ _ _ => return .ok () }
    let exporter : RemoteExporter (StateM Unit) := ⟨host, ⟨some "t", {}⟩, {}⟩
    let files : FileSet := .singleton "index.html" "Hello"
    ((exporter.run files "my-site" "").run ()).1 = .error (.identity "GitHub returned 500: Server Error") ∧
      (exporter.calls files "my-site" "" .asBegun ()).filterMap RepositoryCall.made? =
        [⟨"my-site", "https://github.com/ada/my-site"⟩] := by
  exact ⟨rfl, rfl⟩

end RemoteExporter

end SiteBuilder
