import SiteBuilder.Proofs.CommandLine.Task
import SiteBuilder.Proofs.Form.Arrival
import SiteBuilder.Proofs.Form.Problems
import SiteBuilder.Proofs.Studio.Export

/-!
# The verdict on a file of answers

To check a file of answers, the program opens a studio with it. The answers are committed before the form is known, so
none of them is refused; once it is known, those that do not fit their fields are dropped and defaults take their place.
So the verdict is about the typed answers with the defaults filled in. It is the verdict on the file exactly if all of
its answers fit, and a file with one that does not may be found to be valid.
-/

namespace SiteBuilder

/-- The answer that a field is judged by: the one that is written if it fits, and else the default. -/
def Field.judged (field : Field) (answers : AnswerSet) : Answer :=
  ((answers.get? field.name).bind field.kind.stored?).getD field.defaultValue

namespace TemplateConfig

variable {config : TemplateConfig} {answers : AnswerSet}

/-- Every field passes with the answer that it is judged by. -/
def Passes (config : TemplateConfig) (answers : AnswerSet) : Prop :=
  ∀ field ∈ config.fields, field.problem? (some (field.judged answers)) .builtIn = none

/-- Every answer to a field fits the field and, once it is typed, has no problem. -/
def Upholds (config : TemplateConfig) (answers : AnswerSet) : Prop :=
  ∀ name written field, answers.get? name = some written → config.field? name = some field →
    ∃ stored, config.coerce name written = .ok stored ∧ field.problem? (some stored) .builtIn = none

/-- If every field passes, an answer to a field passes once it is typed, or else the default passes in its place. -/
theorem Passes.of_written (h : config.Passes answers) {name : String} {written : Answer} {field : Field}
    (hwritten : answers.get? name = some written) (hfield : config.field? name = some field) :
    match config.coerce name written with
    | .ok stored => field.problem? (some stored) .builtIn = none
    | .error _ => field.problem? (some field.defaultValue) .builtIn = none := by
  obtain ⟨hmem, rfl⟩ := mem_of_field? hfield
  have hpasses := h field hmem
  rw [Field.judged, hwritten, Option.bind_some] at hpasses
  rw [coerce_of_field? hfield, FieldKind.coerce]
  cases hstored : field.kind.stored? written <;> rw [hstored] at hpasses <;> exact hpasses

/-- If every field passes, all answers to fields pass, too, exactly if all fit. -/
theorem Passes.upholds_iff (h : config.Passes answers) : config.Upholds answers ↔ config.Fits answers := by
  constructor
  · intro hupholds name written hwritten
    cases hfield : config.field? name with
    | none => exact ⟨written, coerce_of_field?_none hfield written⟩
    | some field =>
      obtain ⟨stored, hstored, -⟩ := hupholds name written field hwritten hfield
      exact ⟨stored, hstored⟩
  · intro hfits name written field hwritten hfield
    obtain ⟨stored, hstored⟩ := hfits name written hwritten
    have hpasses := h.of_written hwritten hfield
    rw [hstored] at hpasses
    exact ⟨stored, hstored, hpasses⟩

/-- Once a form is taken up, a field has the answer that it is judged by. -/
theorem Accepted.get?_mergeWithDefaults (h : config.Accepted) {field : Field} (hfield : field ∈ config.fields)
    (answers : AnswerSet) :
    (mergeWithDefaults config.defaults (retype config answers)).get? field.name = some (field.judged answers) := by
  have hkind (written : Answer) : (config.coerce field.name written).toOption = field.kind.stored? written := by
    rw [coerce_of_field? (h.field?_name hfield), FieldKind.coerce]
    cases field.kind.stored? written <;> rfl
  rw [mergeWithDefaults, NameMap.get?_overlay, get?_retype, h.get?_defaults hfield, Field.judged]
  simp only [hkind]
  cases (answers.get? field.name).bind field.kind.stored? <;> rfl

end TemplateConfig

namespace FormSession

variable {σ : Type} [DraftStore σ]

/-- A form without a queue is accepted exactly if none of its fields has a problem. -/
theorem submit_ok_iff {session : FormSession σ} {config : TemplateConfig} (hconfig : session.config = some config)
    (hidle : session.queue = .idle) :
    (∃ answers, session.submit.1 = .ok answers) ↔
      ∀ field ∈ config.fields, field.problem? (session.answers.get? field.name) session.predicates = none := by
  have hproblems : session.validateAll.1 = config.problems session.answers session.predicates := by
    simp only [validateAll, hconfig, effectiveAnswers_of_idle hidle]
  rw [submit_result, hproblems]
  rw [← problemsOf_eq_empty_iff, ← TemplateConfig.problems, ← NameMap.isEmpty_iff]
  split <;> simp [*]

end FormSession

namespace CommandLine

variable {σ : Type} [DraftStore σ]

/-- A form that is filled in before its template is known takes every answer as it is. -/
theorem form_of_updateNow {studio : Studio σ} (hconfig : studio.form.config = none) (hidle : studio.form.queue = .idle)
    (answers : AnswerSet) :
    ∃ after, studio.updateNow 0 answers = (.ok (), after) ∧ after.form.templateId = studio.form.templateId ∧
      after.form.queue = .idle ∧ after.form.predicates = studio.form.predicates ∧
        after.form.answers = studio.form.answers.overlay answers := by
  let session := { studio.form with queue := .idle, errors := FormSession.withoutErrorsOf studio.form.errors answers }
  have hform : studio.form.updateNow answers = (.ok (), session.commit answers) := by
    have htyped : coerceAll studio.form.config answers = .ok answers := by
      rw [hconfig]
      rfl
    have hqueued : (studio.form.queue.task?.getD ∅).overlay answers = answers := by
      rw [hidle]
      exact NameMap.empty_overlay answers
    rw [FormSession.updateNow, htyped]
    dsimp only
    rw [hqueued]
  refine ⟨{ studio with form := session.commit answers }.answersChanged 0, ?_, ?_, ?_, ?_, ?_⟩
  · rw [Studio.updateNow, hform]
  · exact FormSession.templateId_commit session answers
  · exact FormSession.queue_commit session answers
  · exact congrArg FormSession.Progress.predicates (FormSession.progress_commit session answers)
  · exact FormSession.answers_commit session answers

/-- A studio is always opened, with the answers of the draft and those that are given, typed by the form. -/
theorem exists_openedStudio (settings : Settings) (drafts : σ) (id : String) (answers : AnswerSet)
    (content : TemplateContent) :
    ∃ studio, openedStudio settings drafts id answers content = .ok studio ∧ studio.form.config = some content.config ∧
      studio.form.queue = .idle ∧ studio.form.predicates = .builtIn ∧
      studio.form.answers = mergeWithDefaults content.config.defaults
        (retype content.config ((DraftStore.answers drafts id).overlay answers)) := by
  let selected := (Studio.start settings drafts .empty).selectTemplate id
  have hdraft : selected.form.answers = DraftStore.answers drafts id :=
    FormSession.answers_selectTemplate (.start drafts settings.form) id
  have hfilled : ∃ filled, (if answers.isEmpty then (.ok (), selected) else selected.updateNow 0 answers) =
      (.ok (), filled) ∧ filled.form.templateId = some id ∧ filled.form.queue = .idle ∧
        filled.form.predicates = .builtIn ∧ filled.form.answers = (DraftStore.answers drafts id).overlay answers := by
    by_cases hempty : answers.isEmpty = true
    · refine ⟨selected, if_pos hempty, rfl, rfl, rfl, ?_⟩
      rw [NameMap.isEmpty_iff.mp hempty, NameMap.overlay_empty, hdraft]
    · rw [if_neg hempty, ← hdraft]
      have hunknown : selected.form.config = none := rfl
      exact form_of_updateNow hunknown rfl answers
  obtain ⟨filled, hfill, htemplate, hidle, hpredicates, hanswers⟩ := hfilled
  refine ⟨(filled.contentLoaded 0 id content).2, ?_, ?_⟩
  · rw [openedStudio, hfill]
    rfl
  · rw [Studio.contentLoaded, if_pos htemplate]
    dsimp only [FormSession.applyConfig]
    rw [hidle, hanswers]
    exact ⟨rfl, rfl, hpredicates, rfl⟩

/-- The form of an opened studio is accepted exactly if every field passes with the answer that it is judged by. -/
theorem passes_of_openedStudio {settings : Settings} {drafts : σ} {id : String} {answers : AnswerSet}
    {content : TemplateContent} {studio : Studio σ} (haccepted : content.config.Accepted)
    (hopened : openedStudio settings drafts id answers content = .ok studio) :
    (∃ submitted, studio.form.submit.1 = .ok submitted) ↔
      content.config.Passes ((DraftStore.answers drafts id).overlay answers) := by
  obtain ⟨studio', hopened', hconfig, hidle, hpredicates, hanswers⟩ :=
    exists_openedStudio settings drafts id answers content
  obtain rfl : studio' = studio := Except.ok.inj (hopened'.symm.trans hopened)
  rw [FormSession.submit_ok_iff hconfig hidle, hpredicates, hanswers, TemplateConfig.Passes]
  refine forall₂_congr fun field hfield => ?_
  rw [haccepted.get?_mergeWithDefaults hfield]

section Runs

variable {τ : Type} {machine : Machine (StateM τ)} {settings : Settings} {choice : TemplateChoice} {report : Report}
  {world : τ}

/-- A studio is opened if a template is loaded and the file of answers is read. -/
theorem result_openStudio_eq_ok_iff {studio : Studio DraftPlace} :
    (openStudio machine settings choice).result report world = .ok studio ↔
      ∃ id content answers, (loadChosen machine settings choice).result report world = .ok (id, content) ∧
        readAnswers report.disk choice.answers = .ok answers ∧
          openedStudio settings (DraftPlace.ofFolder report.disk settings.drafts.folder) id answers content =
            .ok studio := by
  rw [openStudio, Task.result_bind_eq_ok_iff]
  simp only [(finds_loadChosen machine settings choice).reportAfter_eq, Task.result_disk_bind,
    Task.result_orFail_bind_eq_ok_iff, Task.result_modify_bind, Task.result_pure, Except.ok.injEq, exists_eq_right,
    Prod.exists, exists_and_left]

/-- Answers are valid if a studio is opened whose form is accepted. -/
theorem result_validate_eq_ok_iff :
    (validate machine settings choice).result report world = .ok () ↔
      ∃ studio, (openStudio machine settings choice).result report world = .ok studio ∧
        ∃ answers, studio.form.submit.1 = .ok answers := by
  rw [validate, Task.result_bind_eq_ok_iff]
  refine exists_congr fun studio => and_congr_right fun _ => ?_
  cases studio.form.submit.1 with
  | ok answers => exact ⟨fun _ => ⟨answers, rfl⟩, fun _ => rfl⟩
  | error problems =>
    refine ⟨fun h => ?_, nofun⟩
    obtain ⟨_, -, hthrown⟩ := Task.result_bind_eq_ok_iff.mp h
    cases hthrown

/-- Answers are valid exactly if a template is loaded, the file is read, and every field passes with the answer that it
is judged by, where the file is written over the draft. -/
theorem result_validate_iff_passes :
    (validate machine settings choice).result report world = .ok () ↔
      ∃ id content answers, (loadChosen machine settings choice).result report world = .ok (id, content) ∧
        readAnswers report.disk choice.answers = .ok answers ∧
          content.config.Passes
            ((DraftStore.answers (DraftPlace.ofFolder report.disk settings.drafts.folder) id).overlay answers) := by
  rw [result_validate_eq_ok_iff]
  constructor
  · rintro ⟨studio, hopen, hsubmitted⟩
    obtain ⟨id, content, answers, hload, hread, hopened⟩ := result_openStudio_eq_ok_iff.mp hopen
    have haccepted := (finds_loadChosen machine settings choice).holds report world _ hload
    exact ⟨id, content, answers, hload, hread, (passes_of_openedStudio haccepted hopened).mp hsubmitted⟩
  · rintro ⟨id, content, answers, hload, hread, hpasses⟩
    have haccepted := (finds_loadChosen machine settings choice).holds report world _ hload
    obtain ⟨studio, hopened, -⟩ := exists_openedStudio settings
      (DraftPlace.ofFolder report.disk settings.drafts.folder) id answers content
    refine ⟨studio, ?_, (passes_of_openedStudio haccepted hopened).mpr hpasses⟩
    exact result_openStudio_eq_ok_iff.mpr ⟨id, content, answers, hload, hread, hopened⟩

end Runs

section Program

variable {τ : Type}

/-- The settings of an invocation: those of its file, or the standard ones without one. -/
def settings? (disk : Disk) : Option String → Option Settings
  | none => some {}
  | some path => Settings.load? disk path

/-- An invocation has settings, the template that it chooses is loaded, and its file of answers is read. -/
structure Opens (machine : Machine (StateM τ)) (disk : Disk) (world : τ) (file : Option String)
    (choice : TemplateChoice) (settings : Settings) (id : String) (content : TemplateContent)
    (answers : AnswerSet) : Prop where
  settings_eq : settings? disk file = some settings
  loaded : (loadChosen machine settings choice).result ⟨disk, [], []⟩ world = .ok (id, content)
  read : readAnswers disk choice.answers = .ok answers

variable {machine : Machine (StateM τ)} {disk : Disk} {world : τ} {file : Option String} {choice : TemplateChoice}
  {settings settings' : Settings} {id id' : String} {content content' : TemplateContent} {answers answers' : AnswerSet}
  {arguments : List String}

/-- What is opened is decided by the disk, the world and the choice. -/
theorem Opens.unique (h : Opens machine disk world file choice settings id content answers)
    (h' : Opens machine disk world file choice settings' id' content' answers') :
    settings = settings' ∧ id = id' ∧ content = content' ∧ answers = answers' := by
  obtain rfl : settings = settings' := Option.some.inj (h.settings_eq.symm.trans h'.settings_eq)
  obtain ⟨rfl, rfl⟩ := Prod.mk.inj (Except.ok.inj (h.loaded.symm.trans h'.loaded))
  exact ⟨rfl, rfl, rfl, Except.ok.inj (h.read.symm.trans h'.read)⟩

/-- Without settings, drafts stay in memory, so none is stored when a command begins. -/
theorem Opens.no_draft (h : Opens machine disk world none choice settings id content answers) (draft : AnswerSet) :
    DraftStore.load (DraftPlace.ofFolder disk settings.drafts.folder) id ≠ .ok (some draft) := by
  obtain rfl : {} = settings := Option.some.inj h.settings_eq
  intro hload
  cases hload

/-- The program exits with zero exactly if what it is invoked for succeeds. -/
theorem status_eq_zero_iff_perform {invocation : Invocation} (hparse : parse arguments = .ok invocation) :
    ((run machine disk arguments).run world).1.status = 0 ↔
      (perform machine invocation).result ⟨disk, [], []⟩ world = .ok () := by
  rw [run, hparse, Task.result]
  dsimp only
  rw [StateT.run_bind]
  rcases ((perform machine invocation).run.run ⟨disk, [], []⟩).run world with ⟨⟨outcome, after⟩, world'⟩
  cases outcome with
  | error cause => exact ⟨nofun, nofun⟩
  | ok done => exact ⟨fun _ => rfl, fun _ => rfl⟩

/-- An invocation to check answers succeeds if it has settings and the answers are valid under them. -/
theorem result_perform_validate_eq_ok_iff :
    (perform machine ⟨file, .validate choice⟩).result ⟨disk, [], []⟩ world = .ok () ↔
      ∃ settings, settings? disk file = some settings ∧
        (validate machine settings choice).result ⟨disk, [], []⟩ world = .ok () := by
  cases file with
  | none =>
    constructor
    · intro h
      exact ⟨{}, rfl, h⟩
    · rintro ⟨_, ⟨⟩, h⟩
      exact h
  | some path =>
    rw [perform, settings?]
    dsimp only
    rw [Task.result_disk_bind]
    cases Settings.load? disk path with
    | none => exact ⟨nofun, nofun⟩
    | some settings =>
      constructor
      · intro h
        exact ⟨settings, rfl, h⟩
      · rintro ⟨_, ⟨⟩, h⟩
        exact h

/-- Without a stored draft, an invocation to check answers succeeds exactly if it opens a template and every field
passes with the answer that it is judged by. -/
theorem status_eq_zero_iff_passes (hcommand : parse arguments = .ok ⟨file, .validate choice⟩)
    (hdrafts : ∀ settings id content answers, Opens machine disk world file choice settings id content answers →
      ∀ draft, DraftStore.load (DraftPlace.ofFolder disk settings.drafts.folder) id ≠ .ok (some draft)) :
    ((run machine disk arguments).run world).1.status = 0 ↔
      ∃ settings id content answers, Opens machine disk world file choice settings id content answers ∧
        content.config.Passes answers := by
  have hseeded {settings : Settings} {id : String} {content : TemplateContent} {answers : AnswerSet}
      (hopens : Opens machine disk world file choice settings id content answers) :
      (DraftStore.answers (DraftPlace.ofFolder disk settings.drafts.folder) id).overlay answers = answers := by
    rw [DraftStore.answers_of_no_draft (hdrafts settings id content answers hopens), NameMap.empty_overlay]
  rw [status_eq_zero_iff_perform hcommand, result_perform_validate_eq_ok_iff]
  constructor
  · rintro ⟨settings, hsettings, hvalid⟩
    obtain ⟨id, content, answers, hload, hread, hpasses⟩ := result_validate_iff_passes.mp hvalid
    have hopens : Opens machine disk world file choice settings id content answers := ⟨hsettings, hload, hread⟩
    rw [hseeded hopens] at hpasses
    exact ⟨settings, id, content, answers, hopens, hpasses⟩
  · rintro ⟨settings, id, content, answers, hopens, hpasses⟩
    refine ⟨settings, hopens.settings_eq, result_validate_iff_passes.mpr ?_⟩
    refine ⟨id, content, answers, hopens.loaded, hopens.read, ?_⟩
    rwa [hseeded hopens]

/-- Without a stored draft, a check of answers succeeds exactly if there are settings, a template and answers, and every
field passes with the answer that it is judged by. If it succeeds, then

* an answer of the file to a field has no problem once it is typed, or else it does not fit the field, and the default
  passes in its place;
* all answers to fields fit and have no problem exactly if all fit. -/
theorem validate_judges_answers_that_fit (machine : Machine (StateM τ)) (disk : Disk) (world : τ)
    (arguments : List String) (file : Option String) (choice : TemplateChoice)
    (hcommand : parse arguments = .ok ⟨file, .validate choice⟩)
    (hdrafts : ∀ settings id content answers, Opens machine disk world file choice settings id content answers →
      ∀ draft, DraftStore.load (DraftPlace.ofFolder disk settings.drafts.folder) id ≠ .ok (some draft)) :
    let succeeds := ((run machine disk arguments).run world).1.status = 0
    (succeeds ↔ ∃ settings id content answers, Opens machine disk world file choice settings id content answers ∧
        content.config.Passes answers) ∧
      ∀ settings id content answers, Opens machine disk world file choice settings id content answers → succeeds →
        (∀ name written field, answers.get? name = some written → content.config.field? name = some field →
          match content.config.coerce name written with
          | .ok stored => field.problem? (some stored) .builtIn = none
          | .error _ => field.problem? (some field.defaultValue) .builtIn = none) ∧
        (content.config.Upholds answers ↔ content.config.Fits answers) := by
  intro succeeds
  have hverdict := status_eq_zero_iff_passes hcommand hdrafts
  refine ⟨hverdict, fun settings id content answers hopens hsucceeds => ?_⟩
  obtain ⟨settings', id', content', answers', hopens', hpasses⟩ := hverdict.mp hsucceeds
  obtain ⟨rfl, rfl, rfl, rfl⟩ := hopens.unique hopens'
  exact ⟨fun name written field => hpasses.of_written, hpasses.upholds_iff⟩

/-! ### A form that asks for a number -/

/-- The file of a form with one field, for a number. -/
def ageForm : Node :=
  .ofText "\x7b\"steps\":[\x7b\"title\":\"\",\"fields\":[\x7b\"name\":\"age\",\"type\":\"number\"\x7d]\x7d]\x7d"

/-- A disk with a template and a file of answers beside it. -/
def ageDisk (answers : String) : Disk :=
  .ofNode (.folder [("a.json", .ofText answers),
    ("t", .folder [("config.json", ageForm), ("index.html", .ofText "{age}")])])

/-- The template on the disk. -/
def ageTemplate : TemplateContent := ⟨.simple [("age", .number)], .ofList [("index.html", "{age}")]⟩

/-- The choice of the template and the file. -/
def ageChoice : TemplateChoice := ⟨some "t", none, none, some "a.json"⟩

/-- A machine without a network. -/
def offline : Machine (StateM Unit) := ⟨∅, fun _ => return .error "offline", ""⟩

/-- A number that fits its field is found to be valid. -/
theorem validate_judges_number_that_fits :
    let arguments := ["validate", "-t", "t", "-a", "a.json"]
    let disk := ageDisk "\x7b\"age\":\"36\"\x7d"
    let answers : AnswerSet := .ofList [("age", .text "36")]
    parse arguments = .ok ⟨none, .validate ageChoice⟩ ∧
      Opens offline disk () none ageChoice {} "t" ageTemplate answers ∧
      (∀ draft, DraftStore.load (DraftPlace.ofFolder disk none) "t" ≠ .ok (some draft)) ∧
      ((run offline disk arguments).run ()).1.status = 0 ∧ ageTemplate.config.Upholds answers := by
  intro arguments disk answers
  have hcommand : parse arguments = .ok ⟨none, .validate ageChoice⟩ := ok_of_toOption (by decide +kernel)
  have hopens : Opens offline disk () none ageChoice {} "t" ageTemplate answers :=
    ⟨rfl, ok_of_toOption (by decide +kernel), ok_of_toOption (by decide +kernel)⟩
  have hpasses : ageTemplate.config.Passes answers := by
    unfold TemplateConfig.Passes
    decide +kernel
  have hfits : ageTemplate.config.Fits answers := TemplateConfig.fits_ofList (by
    simp only [List.forall_mem_singleton]
    exact ⟨.number 36, ok_of_toOption (by decide +kernel)⟩)
  obtain ⟨hverdict, hjudged⟩ := validate_judges_answers_that_fit offline disk () arguments none ageChoice hcommand
    fun settings id content answers hother => hother.no_draft
  have hsucceeds := hverdict.mpr ⟨{}, "t", ageTemplate, answers, hopens, hpasses⟩
  obtain ⟨-, hupheld⟩ := hjudged {} "t" ageTemplate answers hopens hsucceeds
  exact ⟨hcommand, hopens, hopens.no_draft, hsucceeds, hupheld.mpr hfits⟩

/-- A text in a field for numbers is found to be valid, as the default is judged in its place. -/
theorem validate_succeeds_with_misfit :
    let arguments := ["validate", "-t", "t", "-a", "a.json"]
    let disk := ageDisk "\x7b\"age\":\"abc\"\x7d"
    let answers : AnswerSet := .ofList [("age", .text "abc")]
    parse arguments = .ok ⟨none, .validate ageChoice⟩ ∧
      Opens offline disk () none ageChoice {} "t" ageTemplate answers ∧
      (∀ draft, DraftStore.load (DraftPlace.ofFolder disk none) "t" ≠ .ok (some draft)) ∧
      ((run offline disk arguments).run ()).1.status = 0 ∧
      ageTemplate.config.coerce "age" (.text "abc") = .error ⟨"age", .number, "abc"⟩ ∧
      ¬ageTemplate.config.Upholds answers := by
  intro arguments disk answers
  have hopens : Opens offline disk () none ageChoice {} "t" ageTemplate answers :=
    ⟨rfl, ok_of_toOption (by decide +kernel), ok_of_toOption (by decide +kernel)⟩
  have hmisfit : ageTemplate.config.coerce "age" (.text "abc") = .error ⟨"age", .number, "abc"⟩ := by decide +kernel
  refine ⟨ok_of_toOption (by decide +kernel), hopens, hopens.no_draft, by decide +kernel, hmisfit, ?_⟩
  intro hupholds
  obtain ⟨stored, hstored, -⟩ := hupholds "age" (.text "abc") ⟨"age", none, .number, none, none, none, [], false, .none⟩
    (by decide +kernel) (by decide +kernel)
  rw [hmisfit] at hstored
  cases hstored

end Program

end CommandLine

end SiteBuilder
