import SiteBuilder.Proofs.Form.Accepted
import SiteBuilder.Template.Loader
import SiteBuilder.Template.LocalFolder
import SiteBuilder.Template.RemoteFolder

/-!
# Loaded forms

A source takes up a form only as the outcome of its check. So the form of a template that has been loaded is accepted,
whatever the texts on the disk or in the repository are and whatever a service answers from one request to the next.
-/

namespace SiteBuilder

namespace TemplateConfig

/-- The form of a document has been checked. -/
theorem accepted_of_ofDocument {document : Option Datum} {config : TemplateConfig}
    (h : ofDocument document = .ok config) : config.Accepted := by
  rw [ofDocument] at h
  split at h
  · next source _ => exact ⟨source, h⟩
  · cases h

/-- The form of a text has been checked, in either format. -/
theorem accepted_of_ofNamedText {name text : String} {config : TemplateConfig}
    (h : ofNamedText name text = .ok config) : config.Accepted := by
  have hread : (if isYamlName name then ofYaml text else ofJson text) = .ok config := by
    rw [ofNamedText] at h
    cases hresult : if isYamlName name then ofYaml text else ofJson text with
    | error cause =>
      rw [hresult] at h
      cases h
    | ok found =>
      rw [hresult] at h
      exact congrArg Except.ok (Except.ok.inj h)
  split at hread <;> exact accepted_of_ofDocument hread

end TemplateConfig

/-- A template in a local folder has an accepted form. -/
theorem LocalFolder.accepted_of_read {disk : Disk} {root configFile : String} {excluded : List String}
    {descriptor : Descriptor} {content : TemplateContent}
    (h : LocalFolder.read disk root configFile excluded descriptor = .ok content) : content.config.Accepted := by
  unfold LocalFolder.read at h
  dsimp only at h
  split at h
  · cases h
  · split at h
    · cases h
    · next text _ =>
      cases hconfig : TemplateConfig.ofNamedText configFile text with
      | error cause =>
        rw [hconfig] at h
        cases h
      | ok config =>
        rw [hconfig] at h
        cases h
        exact TemplateConfig.accepted_of_ofNamedText hconfig

/-! ## Requests -/

section

variable {τ ε ε' α β : Type}

/-- In whatever state a request is made, it succeeds only with values that have a property. -/
def Yields (request : StateM τ (Except ε α)) (Holds : α → Prop) : Prop :=
  ∀ state value, (request.run state).1 = .ok value → Holds value

variable {Holds : α → Prop} {Then : β → Prop}

/-- A request that fails yields nothing. -/
theorem yields_error (cause : ε) : Yields (pure (.error cause) : StateM τ (Except ε α)) Holds := nofun

/-- A value that is at hand is yielded. -/
theorem yields_ok {value : α} (h : Holds value) : Yields (pure (.ok value) : StateM τ (Except ε α)) Holds := by
  rintro - _ ⟨⟩
  exact h

/-- What follows a request is made with what the request has yielded. -/
theorem Yields.bind {request : StateM τ (Except ε α)} {next : Except ε α → StateM τ (Except ε' β)}
    (hrequest : Yields request Holds) (herror : ∀ cause, Yields (next (.error cause)) Then)
    (hok : ∀ value, Holds value → Yields (next (.ok value)) Then) : Yields (request >>= next) Then := by
  intro state value hvalue
  have hnext : ((next (request.run state).1).run (request.run state).2).1 = .ok value := hvalue
  cases hanswer : (request.run state).1 with
  | error cause =>
    rw [hanswer] at hnext
    exact herror cause _ value hnext
  | ok found =>
    rw [hanswer] at hnext
    exact hok found (hrequest state found hanswer) _ value hnext

/-- Nothing is said of a request that may yield anything. -/
theorem yields_any (request : StateM τ (Except ε α)) : Yields request fun _ => True := fun _ _ _ => trivial

end

namespace RemoteFolder

variable {τ : Type} {contents : RepositoryContents (StateM τ)} {place : Place}

/-- The form that has been found, if any, is an accepted one. -/
def Found.Accepted (found : Found) : Prop := ∀ config, found.config = some config → config.Accepted

/-- Reading the entries of a folder takes up accepted forms only. -/
theorem yields_readEntries (found : Found) (hfound : found.Accepted) (entries : List FolderEntry) :
    Yields (readEntries contents place found entries) Found.Accepted := by
  induction entries generalizing found with
  | nil => exact yields_ok hfound
  | cons entry entries ih =>
    rw [readEntries]
    split
    · exact ih found hfound
    · split
      · exact ih _ hfound
      · split
        · refine (yields_any _).bind (fun cause => yields_error _) fun bytes _ => ?_
          dsimp only
          split
          · exact ih found hfound
          · split
            · split
              · exact yields_error _
              · next config hconfig =>
                apply ih
                rintro _ ⟨⟩
                exact TemplateConfig.accepted_of_ofNamedText hconfig
            · exact ih _ hfound
        · exact ih found hfound

/-- Reading folders takes up accepted forms only. -/
theorem yields_readFolders (fuel : Nat) (found : Found) (hfound : found.Accepted) :
    Yields (readFolders contents place fuel found) Found.Accepted := by
  induction fuel generalizing found with
  | zero => exact yields_error _
  | succ fuel ih =>
    rw [readFolders]
    split
    · exact yields_ok hfound
    · refine (yields_any _).bind (fun cause => yields_error _) fun entries _ => ?_
      dsimp only
      refine (yields_readEntries _ ?_ entries).bind (fun cause => yields_error _) fun after hafter => ih after hafter
      exact hfound

/-- A template in a repository has an accepted form. -/
theorem yields_fetch (contents : RepositoryContents (StateM τ)) (configFile : String) (limit : Nat)
    (descriptor : Descriptor) :
    Yields (fetch contents configFile limit descriptor) fun content => content.config.Accepted := by
  unfold fetch
  split
  · exact yields_error _
  · refine (yields_readFolders limit _ (by rintro _ ⟨⟩)).bind (fun cause => yields_error _) fun found hfound => ?_
    dsimp only
    split
    · next config hconfig => exact yields_ok (hfound config hconfig)
    · exact yields_error _

end RemoteFolder

/-- Without a cache, a template that is loaded is one that its source has yielded. -/
theorem holds_of_loadTemplate {τ : Type} {fetch : Descriptor → StateM τ (Except LoadError TemplateContent)}
    {Holds : TemplateContent → Prop} (hfetch : ∀ descriptor, Yields (fetch descriptor) Holds) {descriptor : Descriptor}
    {state : τ} {content : TemplateContent}
    (h : ((loadTemplate fetch none descriptor).run state).1.1 = .ok content) : Holds content := by
  rw [loadTemplate] at h
  cases hsupported : descriptor.ensureSupported with
  | error cause =>
    rw [hsupported] at h
    cases h
  | ok supported =>
    have hanswer : ((fetch descriptor).run state).1 = .ok content := by
      simp only [hsupported, Option.bind_none, StateT.run_bind] at h
      cases hfetched : (fetch descriptor).run state with
      | mk answer after =>
        rw [hfetched] at h
        cases answer with
        | error cause => cases h
        | ok found => exact congrArg Except.ok (Except.ok.inj h)
    exact hfetch descriptor state content hanswer

end SiteBuilder
