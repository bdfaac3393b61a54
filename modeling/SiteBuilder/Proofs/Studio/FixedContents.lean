import SiteBuilder.Proofs.Studio.Freshness

/-!
# Templates with fixed contents

Content may arrive more than once, for a template that is loaded or for one that was left. As long as a
template always comes with the same content, what arrives again changes nothing, and the preview keeps up
with the form.
-/

namespace SiteBuilder

namespace TimedStudio

variable {σ : Type}

/-- The content that arrives for a template is always the same. -/
def FromContents (contents : String → TemplateContent) : StudioAction σ → Prop
  | .contentLoaded id content => content = contents id
  | _ => True

/-- The form of a studio with files is that of its template's content, and it is well typed. -/
structure Holds (contents : String → TemplateContent) (studio : Studio σ) : Prop where
  typed : studio.form.WellTyped
  loaded : studio.files ≠ none →
    ∃ id, studio.form.selection = (some id, some (contents id).config)

variable {contents : String → TemplateContent} {state : TimedStudio σ} {action : StudioAction σ}

/-- Content that is held already is harmless when it arrives again. -/
theorem Holds.harmless (h : Holds contents state.studio) (haction : FromContents contents action) :
    state.Harmless action := by
  cases action with
  | contentLoaded id content =>
    intro hselected hfiles
    obtain ⟨id', hselection⟩ := h.loaded (by simp [hfiles])
    obtain ⟨htemplate, hconfig⟩ := Prod.mk.inj hselection
    obtain rfl : id = id' := Option.some.inj (hselected.symm.trans htemplate)
    obtain rfl : content = contents id := haction
    have htyped := h.typed _ hconfig
    exact ⟨htyped.answers_applyConfig _, htyped.queued_applyConfig _⟩
  | _ => trivial

variable [DraftStore σ]

/-- While the contents of templates are fixed, a studio holds its template's content. -/
theorem holds_step (haccepted : ∀ id, (contents id).config.Accepted) (haction : FromContents contents action)
    (h : Holds contents state.studio) : Holds contents (state.step action).studio := by
  have haccepts : Accepts action := by
    cases action with
    | contentLoaded id content => exact haction ▸ haccepted id
    | _ => trivial
  refine ⟨wellTyped_form_step haccepts h.typed, ?_⟩
  by_cases hloads : Loads action
  · cases action with
    | selectTemplate id => exact fun hfiles => absurd rfl hfiles
    | contentLoaded id content =>
      simp only [step, Studio.contentLoaded]
      by_cases hselected : state.studio.form.templateId = some id
      · rw [if_pos hselected]
        obtain rfl : content = contents id := haction
        exact fun _ => ⟨id, Prod.ext hselected rfl⟩
      · rw [if_neg hselected]
        exact h.loaded
    | _ => cases hloads
  · obtain ⟨hfiles, hselection⟩ := kept_step hloads
    rw [hfiles, hselection]
    exact h.loaded

/-- While the contents of templates are fixed, every run is harmless. -/
theorem Holds.harmlessRun (haccepted : ∀ id, (contents id).config.Accepted) {actions : List (StudioAction σ)}
    (hactions : ∀ action ∈ actions, FromContents contents action) (h : Holds contents state.studio) :
    state.HarmlessRun actions := by
  induction actions generalizing state with
  | nil => trivial
  | cons action rest ih =>
    obtain ⟨haction, hrest⟩ := List.forall_mem_cons.mp hactions
    exact ⟨h.harmless haction, ih hrest (holds_step haccepted haction h)⟩

/-- While the contents of templates are fixed, every studio with files, without queued writes and with no
answers waiting has rendered its files with the answers of its form. -/
theorem latest_eq_of_fixedContents (clock : Clock) (settings : Settings) (drafts : σ) (host : Preview.Host)
    {actions : List (StudioAction σ)} (haccepted : ∀ id, (contents id).config.Accepted)
    (hactions : ∀ action ∈ actions, FromContents contents action) {files : FileSet}
    (hfiles : ((initial clock settings drafts host).run actions).studio.files = some files)
    (hqueue : ((initial clock settings drafts host).run actions).studio.form.queue = .idle)
    (hupdates : ((initial clock settings drafts host).run actions).studio.preview.updates = .idle) :
    ((initial clock settings drafts host).run actions).studio.preview.latest =
      some (files, ((initial clock settings drafts host).run actions).studio.form.answers) := by
  have hholds : Holds contents (initial clock settings drafts host).studio :=
    ⟨FormSession.wellTyped_of_config_none rfl, fun hloaded => absurd rfl hloaded⟩
  have hharmless := hholds.harmlessRun haccepted hactions
  exact latest_eq_of_harmlessRun (Studio.joined_start settings drafts host) (fun hloaded => absurd rfl hloaded)
    hharmless hfiles hqueue hupdates

end TimedStudio

end SiteBuilder
