import SiteBuilder.Proofs.Studio.Export
import SiteBuilder.Proofs.Studio.Request

/-!
# Switching templates

Selecting a template leaves nothing of what a studio did before, except for the drafts and the rules that are
registered. Two studios that have selected the same template, with whatever behind them, are alike if they have the
same draft of it: they look the same from then on and answer the same, whatever both are asked. Another template that
is selected later may show what was done before, by its draft; so its drafts have to be the same too.
-/

namespace SiteBuilder

variable {σ : Type} {m : Type → Type}

namespace StudioRequest

/-- The template that a request selects. -/
def selected? : StudioRequest σ m → Option String
  | .act (.selectTemplate id) => some id
  | .form action => action.selected?
  | _ => none

/-- A request, with the generation that it confirms counted from another studio's preview instead. -/
def renumbered (start start' : Studio σ) : StudioRequest σ m → StudioRequest σ m
  | .act (.targetLoaded generation) =>
    .act (.targetLoaded (start'.preview.generation + (generation - start.preview.generation)))
  | .preview action => .preview (action.renumbered start.preview start'.preview)
  | request => request

end StudioRequest

namespace Studio

/-! ## What is seen -/

/-- What is seen of a studio since the time of another. -/
def since (studio start : Studio σ) : Studio Unit where
  form := studio.form.since start.form
  preview := studio.preview.since start.preview
  files := studio.files
  settings := studio.settings

/-- What is seen of a studio that has done nothing but select a template, by the answers it starts with. -/
def opened (settings : Settings) (predicates : Predicates) (refusal : Option String) (id : String)
    (answers : AnswerSet) : Studio Unit where
  form := .opened settings.form predicates id answers
  preview := (Preview.Scheduler.start { Preview.Host.empty with refusal } settings.preview).open_ id
  files := none
  settings := settings

/-! ## Studios that cannot be told apart -/

variable [DraftStore σ]

/-- Two studios are alike if their forms and previews are and they have the same files and settings. -/
structure Alike (ids : List String) (start start' a b : Studio σ) : Prop where
  form : FormSession.Alike ids start.form start'.form a.form b.form
  preview : Preview.Scheduler.Alike start.preview start'.preview a.preview b.preview
  files : a.files = b.files
  settings : a.settings = b.settings

/-- Two results are alike if they answer the same and leave alike studios. -/
structure AlikeResults {α : Type} (ids : List String) (start start' : Studio σ) (result result' : α × Studio σ) :
    Prop where
  answer : result.1 = result'.1
  alike : Alike ids start start' result.2 result'.2

variable {ids : List String} {start start' a b : Studio σ}

/-- A studio that has counted on since the time of another, and whose preview has no targets from before. -/
structure Continues (studio start : Studio σ) : Prop where
  revision : start.form.revision ≤ studio.form.revision
  preview : studio.preview.Continues start.preview

/-- Alike studios have counted on since their times. -/
theorem Alike.continues (h : Alike ids start start' a b) : a.Continues start ∧ b.Continues start' := by
  obtain ⟨hcounted, hrevision⟩ := h.form.revision_eq
  have hcounted' : start'.form.revision ≤ b.form.revision := hrevision ▸ Nat.le_add_right _ _
  exact ⟨⟨hcounted, h.preview.continues⟩, hcounted', h.preview.continues'⟩

/-- Alike studios look the same. -/
theorem Alike.since_eq (h : Alike ids start start' a b) : a.since start = b.since start' := by
  rw [since, since, h.form.since_eq, h.preview.same, h.files, h.settings]

/-- Studios stay alike when their forms do. -/
theorem Alike.withForm (h : Alike ids start start' a b) {form form' : FormSession σ}
    (hform : FormSession.Alike ids start.form start'.form form form') :
    Alike ids start start' { a with form } { b with form := form' } :=
  ⟨hform, h.preview, h.files, h.settings⟩

/-- Studios stay alike when their previews do. -/
theorem Alike.withPreview (h : Alike ids start start' a b) {preview preview' : Preview.Scheduler}
    (hpreview : Preview.Scheduler.Alike start.preview start'.preview preview preview') :
    Alike ids start start' { a with preview } { b with preview := preview' } :=
  ⟨h.form, hpreview, h.files, h.settings⟩

/-- Alike studios tell their previews the same answers. -/
theorem Alike.answersChanged (h : Alike ids start start' a b) (clock : Clock) :
    Alike ids start start' (a.answersChanged clock.now) (b.answersChanged clock.now) := by
  obtain ⟨-, -, hpreview⟩ := Preview.TimedPreview.alike_step h.preview clock (.answersChanged a.form.answers)
  unfold Studio.answersChanged
  rw [← h.form.answers_eq]
  exact h.withPreview hpreview

/-- Studios stay alike when their forms do, whether or not their previews are told. -/
theorem Alike.withFormTold (h : Alike ids start start' a b) {form form' : FormSession σ}
    (hform : FormSession.Alike ids start.form start'.form form form') (clock : Clock) (told : Bool) :
    Alike ids start start' (if told then { a with form }.answersChanged clock.now else { a with form })
      (if told then { b with form := form' }.answersChanged clock.now else { b with form := form' }) := by
  cases told with
  | false => exact h.withForm hform
  | true => exact (h.withForm hform).answersChanged clock

/-- Alike studios select a template alike, if their stores have the same draft of it. -/
theorem Alike.selectTemplate (h : Alike ids start start' a b) (clock : Clock) {id : String} (hid : id ∈ ids) :
    Alike ids start start' (a.selectTemplate id) (b.selectTemplate id) := by
  obtain ⟨-, -, hpreview⟩ := Preview.TimedPreview.alike_step h.preview clock (.open_ id)
  exact ⟨h.form.selectTemplate hid, hpreview, rfl, h.settings⟩

/-- Alike studios take up content alike. -/
theorem Alike.contentLoaded (h : Alike ids start start' a b) (clock : Clock) (id : String) (content : TemplateContent) :
    AlikeResults ids start start' (a.contentLoaded clock.now id content) (b.contentLoaded clock.now id content) := by
  have htemplate : a.form.templateId = b.form.templateId := congrArg Prod.fst h.form.selection_eq
  unfold Studio.contentLoaded
  rw [← htemplate]
  split
  · have hform := h.form.applyConfig clock.now content.config
    obtain ⟨-, -, hpreview⟩ := Preview.TimedPreview.alike_step h.preview clock (.filesChanged content.files
      (a.form.applyConfig clock.now content.config).effectiveAnswers)
    dsimp only
    rw [← hform.effectiveAnswers_eq]
    exact ⟨rfl, hform, hpreview, rfl, h.settings⟩
  · exact ⟨rfl, h⟩

/-- Alike studios queue writes alike. -/
theorem Alike.update (h : Alike ids start start' a b) (now : Nat) (batch : AnswerSet) :
    AlikeResults ids start start' (a.update now batch) (b.update now batch) := by
  obtain ⟨hanswer, hform⟩ := h.form.update now batch
  exact ⟨hanswer, h.withForm hform⟩

/-- Alike studios write at once alike. -/
theorem Alike.updateNow (h : Alike ids start start' a b) (clock : Clock) (batch : AnswerSet) :
    AlikeResults ids start start' (a.updateNow clock.now batch) (b.updateNow clock.now batch) := by
  obtain ⟨hanswer, hform⟩ := h.form.updateNow batch
  unfold Studio.updateNow
  revert hanswer hform
  rcases a.form.updateNow batch with ⟨result, form⟩
  rcases b.form.updateNow batch with ⟨result', form'⟩
  rintro rfl hform
  cases result with
  | error mismatch => exact ⟨rfl, h.withForm hform⟩
  | ok => exact ⟨rfl, (h.withForm hform).answersChanged clock⟩

/-- Alike studios go back to the answers they start with alike. -/
theorem Alike.resetForm (h : Alike ids start start' a b) (clock : Clock) :
    Alike ids start start' (a.resetForm clock.now) (b.resetForm clock.now) :=
  (h.withForm h.form.resetForm).answersChanged clock

/-- Alike studios let time pass alike. -/
theorem Alike.tick (h : Alike ids start start' a b) (clock : Clock) :
    AlikeResults ids start start' (a.tick clock.now) (b.tick clock.now) := by
  obtain ⟨hanswer, hform⟩ := h.form.flushDue clock.now
  unfold Studio.tick
  revert hanswer hform
  rcases a.form.flushDue clock.now with ⟨flushed, form⟩
  rcases b.form.flushDue clock.now with ⟨flushed', form'⟩
  rintro rfl hform
  have htold := h.withFormTold hform clock flushed
  obtain ⟨hanswer, -, hpreview⟩ := Preview.TimedPreview.alike_step htold.preview clock .tick
  exact ⟨Option.some.inj hanswer, htold.withPreview hpreview⟩

/-- Alike studios know the same time until something is due. -/
theorem Alike.nextDeadline?_eq (h : Alike ids start start' a b) (now : Nat) :
    a.nextDeadline? now = b.nextDeadline? now := by
  unfold Studio.nextDeadline? FormSession.nextFlush? Preview.Scheduler.nextUpdate?
  rw [h.form.queue_eq, h.preview.updates_eq]

/-- Alike studios show the same files. -/
theorem Alike.renderedFiles?_eq (h : Alike ids start start' a b) : a.renderedFiles? = b.renderedFiles? := by
  rw [renderedFiles?, renderedFiles?, h.files, h.form.effectiveAnswers_eq]

/-! ## Exports -/

/-- Alike studios export the same bundle, or fail to for the same reason. -/
theorem Alike.exportBundle (h : Alike ids start start' a b) (clock : Clock) :
    AlikeResults ids start start' (a.exportBundle clock.now) (b.exportBundle clock.now) := by
  have htemplate : a.form.templateId = b.form.templateId := congrArg Prod.fst h.form.selection_eq
  have hconfig : a.form.config = b.form.config := congrArg Prod.snd h.form.selection_eq
  obtain ⟨hanswer, hform⟩ := h.form.submit
  have hchanged : (a.form.submit.2.revision != a.form.revision) = (b.form.submit.2.revision != b.form.revision) := by
    obtain ⟨hcounted, hrevision⟩ := h.form.revision_eq
    obtain ⟨hcounted', hrevision'⟩ := hform.revision_eq
    rw [hrevision, hrevision', Bool.eq_iff_iff, bne_iff_ne, bne_iff_ne]
    omega
  unfold Studio.exportBundle
  rw [← htemplate, ← hconfig, ← h.files]
  split
  · exact ⟨rfl, h⟩
  · cases hfiles : a.files with
    | none => exact ⟨rfl, h⟩
    | some files =>
      cases a.form.config with
      | none => exact ⟨rfl, h⟩
      | some config =>
        dsimp only
        rw [← hchanged]
        generalize (a.form.submit.2.revision != a.form.revision) = changed
        revert hanswer hform
        rcases a.form.submit with ⟨submitted, form⟩
        rcases b.form.submit with ⟨submitted', form'⟩
        rintro rfl hform
        have htold := h.withFormTold hform clock changed
        rw [← h.files, hfiles] at htold
        cases submitted with
        | error problems => exact ⟨rfl, htold⟩
        | ok answers =>
          refine ⟨?_, htold⟩
          dsimp only
          rw [htold.settings]

/-- Alike studios export the same archive, or fail to for the same reason. -/
theorem Alike.exportArchive (h : Alike ids start start' a b) (clock : Clock) (name : Option String) :
    AlikeResults ids start start' (a.exportArchive clock.now name) (b.exportArchive clock.now name) := by
  obtain ⟨hanswer, halike⟩ := h.exportBundle clock
  refine ⟨?_, halike⟩
  unfold Studio.exportArchive
  dsimp only
  rw [hanswer, halike.settings]

/-- Alike studios export to a repository in the same way, whatever its host does. -/
theorem Alike.exportRemote_eq [Monad m] [LawfulMonad m] (h : Alike ids start start' a b) (clock : Clock)
    (exporter : RemoteExporter m) (name description : Option String) (order : UploadOrder) :
    Prod.fst <$> a.exportRemote clock.now exporter name description order =
      Prod.fst <$> b.exportRemote clock.now exporter name description order := by
  obtain ⟨hanswer, halike⟩ := h.exportBundle clock
  unfold Studio.exportRemote
  revert hanswer halike
  rcases a.exportBundle clock.now with ⟨result, studio⟩
  rcases b.exportBundle clock.now with ⟨result', studio'⟩
  rintro rfl halike
  have hsettings : studio.settings = studio'.settings := halike.settings
  cases result with
  | error cause => simp only [map_pure]
  | ok bundle => simp only [map_bind, map_pure, hsettings]

end Studio

/-! ## Requests -/

namespace TimedStudio

variable [DraftStore σ] {ids : List String} {start start' : Studio σ}

/-- Alike studios with the same time answer every request alike and stay alike, if it selects none but the templates in
question and confirms the generation of its number since these times. -/
theorem alike_next [Monad m] [LawfulMonad m] {a b : TimedStudio σ} (hclock : a.clock = b.clock)
    (h : Studio.Alike ids start start' a.studio b.studio) {request : StudioRequest σ m}
    (hselected : ∀ id ∈ request.selected?, id ∈ ids) :
    let request' := request.renumbered start start'
    a.reply request = b.reply request' ∧ (a.next request).clock = (b.next request').clock ∧
      Studio.Alike ids start start' (a.next request).studio (b.next request').studio := by
  obtain ⟨clock, a⟩ := a
  obtain ⟨clock', b⟩ := b
  obtain rfl : clock = clock' := hclock
  dsimp only at h
  cases request with
  | act action =>
    cases action with
    | selectTemplate id => exact ⟨rfl, rfl, h.selectTemplate clock (hselected id rfl)⟩
    | contentLoaded id content =>
      obtain ⟨hanswer, halike⟩ := h.contentLoaded clock id content
      exact ⟨congrArg StudioReply.told hanswer, rfl, halike⟩
    | update batch =>
      obtain ⟨hanswer, halike⟩ := h.update clock.now batch
      exact ⟨congrArg StudioReply.written hanswer, rfl, halike⟩
    | updateNow batch =>
      obtain ⟨hanswer, halike⟩ := h.updateNow clock batch
      exact ⟨congrArg StudioReply.written hanswer, rfl, halike⟩
    | resetForm => exact ⟨rfl, rfl, h.resetForm clock⟩
    | tick =>
      obtain ⟨hanswer, halike⟩ := h.tick clock
      exact ⟨congrArg StudioReply.told hanswer, rfl, halike⟩
    | exportBundle =>
      obtain ⟨hanswer, halike⟩ := h.exportBundle clock
      exact ⟨congrArg StudioReply.bundled hanswer, rfl, halike⟩
    | targetLoaded generation =>
      obtain ⟨hanswer, -, hpreview⟩ := Preview.TimedPreview.alike_step h.preview clock (.targetLoaded generation)
      exact ⟨congrArg StudioReply.told (Option.some.inj hanswer), rfl, h.withPreview hpreview⟩
    | retry =>
      obtain ⟨hanswer, -, hpreview⟩ := Preview.TimedPreview.alike_step h.preview clock .retry
      exact ⟨congrArg StudioReply.told (Option.some.inj hanswer), rfl, h.withPreview hpreview⟩
    | changeRefusal refusal =>
      obtain ⟨-, -, hpreview⟩ := Preview.TimedPreview.alike_step h.preview clock (.changeRefusal refusal)
      exact ⟨rfl, rfl, h.withPreview hpreview⟩
    | advanceClock span => exact ⟨rfl, rfl, h⟩
    | changeDrafts drafts =>
      obtain ⟨-, -, hform⟩ := TimedForm.alike_step h.form clock (.changeDrafts drafts) nofun
      exact ⟨rfl, rfl, h.withForm hform⟩
  | form action =>
    obtain ⟨hanswer, hclock, hform⟩ := TimedForm.alike_step h.form clock action hselected
    exact ⟨congrArg StudioReply.form hanswer, hclock, h.withForm hform⟩
  | preview action =>
    obtain ⟨hanswer, hclock, hpreview⟩ := Preview.TimedPreview.alike_step h.preview clock action
    exact ⟨congrArg StudioReply.preview hanswer, hclock, h.withPreview hpreview⟩
  | nextDeadline => exact ⟨congrArg StudioReply.due (h.nextDeadline?_eq clock.now), rfl, h⟩
  | renderedFiles => exact ⟨congrArg StudioReply.rendered h.renderedFiles?_eq, rfl, h⟩
  | exportArchive name =>
    obtain ⟨hanswer, halike⟩ := h.exportArchive clock name
    exact ⟨congrArg StudioReply.archived hanswer, rfl, halike⟩
  | exportRemote exporter name description order =>
    obtain ⟨-, halike⟩ := h.exportBundle clock
    exact ⟨congrArg StudioReply.uploaded (h.exportRemote_eq clock exporter name description order), rfl, halike⟩

/-- Alike studios with the same time answer requests alike and stay alike. -/
theorem alike_after [Monad m] [LawfulMonad m] {a b : TimedStudio σ} (hclock : a.clock = b.clock)
    (h : Studio.Alike ids start start' a.studio b.studio) {requests : List (StudioRequest σ m)}
    (hselected : ∀ id ∈ requests.filterMap (·.selected?), id ∈ ids) :
    let requests' := requests.map (·.renumbered start start')
    a.replies requests = b.replies requests' ∧ (a.after requests).clock = (b.after requests').clock ∧
      Studio.Alike ids start start' (a.after requests).studio (b.after requests').studio := by
  induction requests generalizing a b with
  | nil => exact ⟨rfl, hclock, h⟩
  | cons request rest ih =>
    have hfirst : ∀ id ∈ request.selected?, id ∈ ids := fun id hid =>
      hselected id (List.mem_filterMap.mpr ⟨request, List.mem_cons_self, hid⟩)
    have hrest : ∀ id ∈ rest.filterMap (·.selected?), id ∈ ids := by
      intro id hid
      obtain ⟨later, hlater, hselects⟩ := List.mem_filterMap.mp hid
      exact hselected id (List.mem_filterMap.mpr ⟨later, List.mem_cons_of_mem _ hlater, hselects⟩)
    obtain ⟨hreply, hnext, halike⟩ := alike_next hclock h hfirst
    obtain ⟨hreplies, hrun⟩ := ih hnext halike hrest
    exact ⟨List.cons_eq_cons.mpr ⟨hreply, hreplies⟩, hrun⟩

/-! ## The switch -/

/-- Nothing of what was done before is seen of a sound studio once it has selected a template, except for the draft
and the rules that are registered. -/
theorem Sound.since_selectTemplate {settings : Settings} {studio : Studio σ} (h : Sound settings studio) (id : String) :
    let selected := studio.selectTemplate id
    selected.since selected = .opened settings selected.form.predicates selected.preview.host.refusal id
      (DraftStore.answers selected.form.drafts id) := by
  intro selected
  have hform := studio.form.since_selectTemplate id
  have hpreview := h.accounted.since_open id
  rw [h.form] at hform
  rw [h.preview] at hpreview
  rw [Studio.since, Studio.opened, Studio.mk.injEq]
  exact ⟨hform, hpreview, rfl, h.settings⟩

/-- Two sound studios that have selected the same template are alike from then on, if their stores have the same
drafts, their rules are the same and their hosts refuse alike. -/
theorem Sound.alike_selectTemplate {settings : Settings} {studio studio' : Studio σ} (h : Sound settings studio)
    (h' : Sound settings studio') {id : String} (hid : id ∈ ids) :
    let a := studio.selectTemplate id
    let b := studio'.selectTemplate id
    a.form.predicates = b.form.predicates → a.preview.host.refusal = b.preview.host.refusal →
    (∀ selected ∈ ids, DraftStore.SameDraft selected a.form.drafts b.form.drafts) → Studio.Alike ids a b a b := by
  intro a b hpredicates hrefusal hkept
  have hsince : a.since a = b.since b := by
    rw [h.since_selectTemplate id, h'.since_selectTemplate id, hpredicates, hrefusal, (hkept id hid).answers_eq]
  rw [Studio.since, Studio.since, Studio.mk.injEq] at hsince
  obtain ⟨hform, hpreview, hfiles, hsettings⟩ := hsince
  exact ⟨FormSession.alike_of_since_eq hform (Nat.le_refl _) (Nat.le_refl _) hkept,
    ⟨hpreview, h.accounted.continues_open id, h'.accounted.continues_open id⟩, hfiles, hsettings⟩

/-- Take two new studios with the same settings, whatever is asked of each, and then let both select the same
template. If their clocks, their registered rules and the refusals of their hosts are then the same, and so are the
drafts of this template and of those that are selected later, then

* what is seen of either right after is what is seen of a studio that has only selected the template: the answers of
  its draft, and no touched fields, problems, queued writes, form, files, targets or failures;
* both answer all later requests the same, and look the same after them. No count has fallen behind by then, and no
  target is from before.

Changes, renders and generations are counted from the selection on, and the handles of targets are numbered from
there. -/
theorem same_after_switch_of_run [Monad m] [LawfulMonad m] (settings : Settings) (clock clock' : Clock)
    (drafts drafts' : σ) (history history' : List (StudioRequest σ m)) (id : String)
    (requests : List (StudioRequest σ m)) :
    let a := ((initial clock settings drafts .empty).after history).step (.selectTemplate id)
    let b := ((initial clock' settings drafts' .empty).after history').step (.selectTemplate id)
    let requests' := requests.map (·.renumbered a.studio b.studio)
    a.clock = b.clock → a.studio.form.predicates = b.studio.form.predicates →
    a.studio.preview.host.refusal = b.studio.preview.host.refusal →
    (∀ selected ∈ id :: requests.filterMap (·.selected?),
      DraftStore.SameDraft selected a.studio.form.drafts b.studio.form.drafts) →
    a.studio.since a.studio = .opened settings a.studio.form.predicates a.studio.preview.host.refusal id
        (DraftStore.answers a.studio.form.drafts id) ∧
      a.replies requests = b.replies requests' ∧
      (a.after requests).clock = (b.after requests').clock ∧
      (a.after requests).studio.since a.studio = (b.after requests').studio.since b.studio ∧
      (a.after requests).studio.Continues a.studio ∧ (b.after requests').studio.Continues b.studio := by
  intro a b requests' hclock hpredicates hrefusal hkept
  have hsound := (sound_initial clock settings drafts).after history
  have hsound' := (sound_initial clock' settings drafts').after history'
  have halike := hsound.alike_selectTemplate hsound' List.mem_cons_self hpredicates hrefusal hkept
  have hselected : ∀ selected ∈ requests.filterMap (·.selected?), selected ∈ id :: requests.filterMap (·.selected?) :=
    fun selected => List.mem_cons_of_mem id
  obtain ⟨hreplies, hlater, hrun⟩ := alike_after hclock halike hselected
  exact ⟨hsound.since_selectTemplate id, hreplies, hlater, hrun.since_eq, hrun.continues⟩

/-- A write to one template waits, a field of it has a problem and its preview was refused, when another template is
selected; nothing of this is seen of the other one. -/
theorem same_after_switch_of_unfinished_work :
    let name : Field := ⟨"name", none, .text, some (.text "World"), none, none, [], true, .none⟩
    let content : TemplateContent := ⟨⟨none, none, [⟨"1", "", none, [name]⟩]⟩, .singleton "index.html" "Hi {name}!"⟩
    let history : List (StudioRequest MemoryDrafts Id) :=
      [.act (.selectTemplate "u"), .act (.changeRefusal (some "full")), .act (.contentLoaded "u" content),
        .act (.changeRefusal none), .act (.updateNow (.singleton "name" (.text ""))), .form .submit,
        .act (.update (.singleton "name" (.text "Ada")))]
    let requests : List (StudioRequest MemoryDrafts Id) :=
      [.act (.contentLoaded "t" content), .preview (.targetLoaded 2), .act (.advanceClock 800), .act .tick,
        .nextDeadline, .renderedFiles]
    let a := ((initial .start {} MemoryDrafts.empty .empty).after history).step (.selectTemplate "t")
    let b := (initial .start {} MemoryDrafts.empty .empty).step (.selectTemplate "t")
    let requests' := requests.map (·.renumbered a.studio b.studio)
    a.clock = b.clock ∧ a.studio.form.predicates = b.studio.form.predicates ∧
      a.studio.preview.host.refusal = b.studio.preview.host.refusal ∧
      (∀ selected ∈ "t" :: requests.filterMap (·.selected?),
        DraftStore.SameDraft selected a.studio.form.drafts b.studio.form.drafts) ∧
      a.replies requests = b.replies requests' ∧
      (a.after requests).studio.since a.studio = (b.after requests').studio.since b.studio := by
  intro name content history requests a b requests'
  have hclock : a.clock = b.clock := by decide +kernel
  have hpredicates : a.studio.form.predicates = b.studio.form.predicates := rfl
  have hrefusal : a.studio.preview.host.refusal = b.studio.preview.host.refusal := by decide +kernel
  have hkept : ∀ selected ∈ "t" :: requests.filterMap (·.selected?),
      DraftStore.SameDraft selected a.studio.form.drafts b.studio.form.drafts := by
    intro selected hselected
    obtain rfl : selected = "t" := List.mem_singleton.mp hselected
    exact MemoryDrafts.sameDraft_iff.mpr (by decide +kernel)
  have hrun := same_after_switch_of_run {} .start .start MemoryDrafts.empty MemoryDrafts.empty history [] "t" requests
  obtain ⟨-, hreplies, -, hsince, -⟩ := hrun hclock hpredicates hrefusal hkept
  exact ⟨hclock, hpredicates, hrefusal, hkept, hreplies, hsince⟩

/-- What was written to a template is seen again when it is selected after another one, though both studios had the
same draft of the other one when that was selected. -/
theorem draft_seen_after_second_switch :
    let history : List (StudioRequest MemoryDrafts Id) :=
      [.act (.selectTemplate "u"), .act (.updateNow (.singleton "name" (.text "Ada")))]
    let requests : List (StudioRequest MemoryDrafts Id) := [.act (.selectTemplate "u")]
    let a := ((initial .start {} MemoryDrafts.empty .empty).after history).step (.selectTemplate "t")
    let b := (initial .start {} MemoryDrafts.empty .empty).step (.selectTemplate "t")
    a.clock = b.clock ∧ a.studio.form.predicates = b.studio.form.predicates ∧
      a.studio.preview.host.refusal = b.studio.preview.host.refusal ∧
      DraftStore.load a.studio.form.drafts "t" = DraftStore.load b.studio.form.drafts "t" ∧
      (a.after requests).studio.form.answers = .singleton "name" (.text "Ada") ∧
      (a.after requests).studio.since a.studio ≠ (b.after requests).studio.since b.studio := by
  intro history requests a b
  have hpredicates : a.studio.form.predicates = b.studio.form.predicates := rfl
  have hwritten : (a.after requests).studio.form.answers = .singleton "name" (.text "Ada") := by decide +kernel
  have hempty : (b.after requests).studio.form.answers = ∅ := by decide +kernel
  refine ⟨by decide +kernel, hpredicates, by decide +kernel, by decide +kernel, hwritten, fun hsame => ?_⟩
  have hanswers : (a.after requests).studio.form.answers = (b.after requests).studio.form.answers :=
    congrArg (fun seen : Studio Unit => seen.form.answers) hsame
  rw [hwritten, hempty] at hanswers
  cases hanswers

end TimedStudio

end SiteBuilder
