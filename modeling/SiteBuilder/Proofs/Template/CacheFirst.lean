import SiteBuilder.Proofs.NameMap
import SiteBuilder.Template.Loader

/-!
# A loader with a cache

A loader with a cache asks its source for a template until that gives it one, and never again after that. The source
is any machine that answers by its state, so it may give, at different times, different templates, or none, for the
same descriptor. Templates are told apart by their identifiers alone: what is handed out for an identifier is what was
loaded for it first, whatever else the descriptors say, unless the descriptor at hand is of a kind that cannot be
rendered.
-/

namespace SiteBuilder

/-- What asking for the template of a descriptor came to. -/
structure LoadOutcome where
  descriptor : Descriptor
  result : Except LoadError TemplateContent

/-- A loader that has a cache, with its source and all it has fetched. -/
structure Loader (τ : Type) where
  /-- The state of the source. -/
  source : τ
  /-- The templates that are kept. -/
  cache : TemplateCache
  /-- All fetches, the first one first. -/
  fetches : List LoadOutcome

/-- A call of a loader. -/
inductive LoadCall where
  /-- A template is wanted. -/
  | content (descriptor : Descriptor)
  /-- Only its form is wanted. -/
  | config (descriptor : Descriptor)

/-- What a call hands back. -/
inductive LoadReply where
  | content (result : Except LoadError TemplateContent)
  | config (result : Except LoadError TemplateConfig)

namespace LoadCall

/-- The descriptor of a call. -/
def descriptor : LoadCall → Descriptor
  | .content descriptor | .config descriptor => descriptor

/-- What a call hands back of what a load comes to. -/
def reply : LoadCall → Except LoadError TemplateContent → LoadReply
  | .content _, result => .content result
  | .config _, result => .config (result.map (·.config))

end LoadCall

/-- A source with every fetch noted after those before it. -/
def recordedFetch {τ : Type} (fetch : Descriptor → StateM τ (Except LoadError TemplateContent))
    (descriptor : Descriptor) : StateT (List LoadOutcome) (StateM τ) (Except LoadError TemplateContent) := do
  let result ← fetch descriptor
  modify (· ++ [⟨descriptor, result⟩])
  return result

namespace Loader

variable {τ α : Type}

/-- Make a request with the cache of a loader. -/
def perform (loader : Loader τ)
    (request : Option TemplateCache → StateT (List LoadOutcome) (StateM τ) (α × Option TemplateCache)) : α × Loader τ :=
  let (((result, cache), fetches), source) := ((request (some loader.cache)).run loader.fetches).run loader.source
  (result, ⟨source, cache.getD loader.cache, fetches⟩)

section

variable (fetch : Descriptor → StateM τ (Except LoadError TemplateContent))

/-- Load a template. -/
def load (loader : Loader τ) (descriptor : Descriptor) : Except LoadError TemplateContent × Loader τ :=
  loader.perform fun cache => loadTemplate (recordedFetch fetch) cache descriptor

/-- Load the form of a template. -/
def loadConfig (loader : Loader τ) (descriptor : Descriptor) : Except LoadError TemplateConfig × Loader τ :=
  loader.perform fun cache => loadTemplateConfig (recordedFetch fetch) cache descriptor

/-- Answer a call. -/
def step (loader : Loader τ) : LoadCall → LoadReply × Loader τ
  | .content descriptor => (.content (loader.load fetch descriptor).1, (loader.load fetch descriptor).2)
  | .config descriptor => (.config (loader.loadConfig fetch descriptor).1, (loader.loadConfig fetch descriptor).2)

/-- Answer calls one after the other. -/
def run (loader : Loader τ) (calls : List LoadCall) : Loader τ :=
  calls.foldl (fun loader call => (loader.step fetch call).2) loader

/-- What the loads of a run come to, call by call. -/
def outcomes (loader : Loader τ) : List LoadCall → List LoadOutcome
  | [] => []
  | call :: rest =>
    ⟨call.descriptor, (loader.load fetch call.descriptor).1⟩ :: outcomes (loader.step fetch call).2 rest

end

/-- The template that was loaded first for an identifier, if one was. -/
def firstLoaded? (outcomes : List LoadOutcome) (id : String) : Option TemplateContent :=
  outcomes.findSome? fun outcome => if outcome.descriptor.id = id then outcome.result.toOption else none

/-- The templates that were fetched for an identifier. -/
def fetched (loader : Loader τ) (id : String) : List TemplateContent :=
  loader.fetches.filterMap fun outcome => if outcome.descriptor.id = id then outcome.result.toOption else none

/-- What a load comes to, and the loader after it, if a template was loaded for the identifier before, or none was. -/
inductive Loads (fetch : Descriptor → StateM τ (Except LoadError TemplateContent)) (loader : Loader τ)
    (descriptor : Descriptor) : Option TemplateContent → Except LoadError TemplateContent → Loader τ → Prop
  /-- A template that cannot be rendered is refused, whether one was loaded for its identifier or not. -/
  | refused (before : Option TemplateContent) (hkind : descriptor.kind ≠ "html") :
    Loads fetch loader descriptor before (.error (.unsupportedType descriptor.id descriptor.kind)) loader
  /-- What was loaded before is loaded again, without a fetch. -/
  | kept (content : TemplateContent) (hkind : descriptor.kind = "html") :
    Loads fetch loader descriptor (some content) (.ok content) loader
  /-- What the one fetch gives is kept. -/
  | taken (content : TemplateContent) (source : τ) (hkind : descriptor.kind = "html")
    (hfetch : (fetch descriptor).run loader.source = (.ok content, source)) :
    Loads fetch loader descriptor none (.ok content)
      ⟨source, loader.cache.insert descriptor.id content, loader.fetches ++ [⟨descriptor, .ok content⟩]⟩
  /-- If the one fetch fails, the cache is left as it is. -/
  | failed (cause : LoadError) (source : τ) (hkind : descriptor.kind = "html")
    (hfetch : (fetch descriptor).run loader.source = (.error cause, source)) :
    Loads fetch loader descriptor none (.error cause)
      ⟨source, loader.cache, loader.fetches ++ [⟨descriptor, .error cause⟩]⟩

variable {fetch : Descriptor → StateM τ (Except LoadError TemplateContent)}

/-! ## One call -/

/-- A recorded fetch is noted with what came of it. -/
theorem run_recordedFetch {descriptor : Descriptor} {fetches : List LoadOutcome} {source after : τ}
    {result : Except LoadError TemplateContent} (hfetch : (fetch descriptor).run source = (result, after)) :
    ((recordedFetch fetch descriptor).run fetches).run source =
      ((result, fetches ++ [⟨descriptor, result⟩]), after) := by
  have hrun : ((recordedFetch fetch descriptor).run fetches).run source =
      ((((fetch descriptor).run source).1, fetches ++ [⟨descriptor, ((fetch descriptor).run source).1⟩]),
        ((fetch descriptor).run source).2) := rfl
  rw [hrun, hfetch]

/-- A load goes by what the cache holds for the identifier. -/
theorem loads_load (loader : Loader τ) (descriptor : Descriptor) :
    loader.Loads fetch descriptor (loader.cache.get? descriptor.id) (loader.load fetch descriptor).1
      (loader.load fetch descriptor).2 := by
  unfold load perform loadTemplate Descriptor.ensureSupported
  by_cases hkind : descriptor.kind = Descriptor.supportedKind
  · rw [if_pos hkind]
    cases hcached : loader.cache.get? descriptor.id with
    | some content =>
      simp only [Option.bind_some, hcached]
      exact .kept content hkind
    | none =>
      cases hfetch : (fetch descriptor).run loader.source with
      | mk result source =>
        simp only [Option.bind_some, hcached, StateT.run_bind, run_recordedFetch hfetch]
        cases result with
        | ok content => exact .taken content source hkind hfetch
        | error cause => exact .failed cause source hkind hfetch
  · rw [if_neg hkind]
    exact .refused _ hkind

/-- Loading a form is loading its template. -/
theorem loadConfig_eq (loader : Loader τ) (descriptor : Descriptor) :
    loader.loadConfig fetch descriptor =
      ((loader.load fetch descriptor).1.map (·.config), (loader.load fetch descriptor).2) := rfl

/-- A call loads the template of its descriptor, and hands back what it asks for. -/
theorem step_eq (loader : Loader τ) (call : LoadCall) :
    loader.step fetch call =
      (call.reply (loader.load fetch call.descriptor).1, (loader.load fetch call.descriptor).2) := by
  cases call with
  | content descriptor => rfl
  | config descriptor =>
    rw [step, loadConfig_eq]
    rfl

/-- A call goes by what the cache holds for the identifier. -/
theorem loads_step (loader : Loader τ) (call : LoadCall) :
    loader.Loads fetch call.descriptor (loader.cache.get? call.descriptor.id)
      (loader.load fetch call.descriptor).1 (loader.step fetch call).2 := by
  rw [step_eq]
  exact loader.loads_load call.descriptor

section

variable {loader after : Loader τ} {descriptor : Descriptor} {result : Except LoadError TemplateContent}

/-- What the cache holds after a load is what it held before, or else what the load came to. -/
theorem Loads.get?_cache
    (h : loader.Loads fetch descriptor (loader.cache.get? descriptor.id) result after) (id : String) :
    after.cache.get? id = (loader.cache.get? id).or (if descriptor.id = id then result.toOption else none) := by
  generalize hheld : loader.cache.get? descriptor.id = held at h
  by_cases hid : descriptor.id = id
  · subst hid
    rw [if_pos rfl, hheld]
    cases h with
    | refused before hkind => simp [hheld, Except.toOption]
    | kept content hkind => simp [hheld]
    | taken content source hkind hfetch => simp [Except.toOption]
    | failed cause source hkind hfetch => simp [hheld, Except.toOption]
  · rw [if_neg hid, Option.or_none]
    cases h with
    | refused | kept | failed => rfl
    | taken content source hkind hfetch => rw [NameMap.get?_insert, if_neg (Ne.symm hid)]

/-- One more fetch adds what it gives for its identifier. -/
theorem fetched_append (loader : Loader τ) (source : τ) (cache : TemplateCache) (outcome : LoadOutcome) (id : String) :
    (⟨source, cache, loader.fetches ++ [outcome]⟩ : Loader τ).fetched id =
      loader.fetched id ++ (if outcome.descriptor.id = id then outcome.result.toOption else none).toList := by
  rw [fetched, List.filterMap_append]
  rfl

/-- A load keeps in the cache exactly what was fetched. -/
theorem Loads.fetched_eq (h : loader.Loads fetch descriptor (loader.cache.get? descriptor.id) result after)
    (hfetched : ∀ id, loader.fetched id = (loader.cache.get? id).toList) (id : String) :
    after.fetched id = (after.cache.get? id).toList := by
  generalize hheld : loader.cache.get? descriptor.id = held at h
  cases h with
  | refused | kept => exact hfetched id
  | taken content source hkind hfetch =>
    rw [fetched_append, hfetched, NameMap.get?_insert]
    by_cases hid : descriptor.id = id
    · subst hid
      rw [hheld, if_pos rfl, if_pos rfl]
      rfl
    · rw [if_neg hid, if_neg (Ne.symm hid), Option.toList_none, List.append_nil]
  | failed cause source hkind hfetch =>
    rw [fetched_append, hfetched]
    split <;> exact List.append_nil _

end

/-! ## Runs -/

@[simp]
theorem run_cons (loader : Loader τ) (call : LoadCall) (rest : List LoadCall) :
    loader.run fetch (call :: rest) = (loader.step fetch call).2.run fetch rest := rfl

/-- What is loaded first is loaded by the first call or by the others. -/
theorem firstLoaded?_cons (outcome : LoadOutcome) (rest : List LoadOutcome) (id : String) :
    firstLoaded? (outcome :: rest) id =
      (if outcome.descriptor.id = id then outcome.result.toOption else none).or (firstLoaded? rest id) := by
  rw [firstLoaded?, List.findSome?_cons]
  split
  · next content hcontent => rw [hcontent, Option.some_or]
  · next hnone => rw [hnone, Option.none_or]; rfl

/-- What the cache holds after a run is what it held before, or else what the run loaded first. -/
theorem get?_cache_run (loader : Loader τ) (calls : List LoadCall) (id : String) :
    (loader.run fetch calls).cache.get? id =
      (loader.cache.get? id).or (firstLoaded? (loader.outcomes fetch calls) id) := by
  induction calls generalizing loader with
  | nil => exact (Option.or_none).symm
  | cons call rest ih =>
    have hcall : (loader.step fetch call).2.cache.get? id = (loader.cache.get? id).or
        (if call.descriptor.id = id then (loader.load fetch call.descriptor).1.toOption else none) :=
      (loader.loads_step call).get?_cache id
    rw [run_cons, ih, hcall, outcomes, firstLoaded?_cons, Option.or_assoc]

/-- A run keeps in the cache exactly what was fetched. -/
theorem fetched_run {loader : Loader τ} (h : ∀ id, loader.fetched id = (loader.cache.get? id).toList)
    (calls : List LoadCall) (id : String) :
    (loader.run fetch calls).fetched id = ((loader.run fetch calls).cache.get? id).toList := by
  induction calls generalizing loader with
  | nil => exact h id
  | cons call rest ih => exact ih ((loader.loads_step call).fetched_eq h)

/-- Whatever was called for before, and whatever the source did, a call of a new loader is refused for the kind of its
descriptor, or is given what was loaded first for its identifier, or makes one fetch and keeps what that gives. So at
most one fetch for an identifier gives a template, and it is what the cache holds. -/
theorem loads_first_of_run (fetch : Descriptor → StateM τ (Except LoadError TemplateContent)) (source : τ)
    (earlier : List LoadCall) (call : LoadCall) :
    let start : Loader τ := ⟨source, ∅, []⟩
    let loader := start.run fetch earlier
    (loader.step fetch call).1 = call.reply (loader.load fetch call.descriptor).1 ∧
      loader.Loads fetch call.descriptor (firstLoaded? (start.outcomes fetch earlier) call.descriptor.id)
        (loader.load fetch call.descriptor).1 (loader.step fetch call).2 ∧
      ∀ id, (loader.fetched id).length ≤ 1 ∧ loader.fetched id = (loader.cache.get? id).toList ∧
        loader.cache.get? id = firstLoaded? (start.outcomes fetch earlier) id := by
  intro start loader
  have hcache (id : String) : loader.cache.get? id = firstLoaded? (start.outcomes fetch earlier) id :=
    start.get?_cache_run earlier id
  have hfetched (id : String) : loader.fetched id = (loader.cache.get? id).toList :=
    fetched_run (fun _ => rfl) earlier id
  refine ⟨by rw [step_eq], ?_, fun id => ⟨?_, hfetched id, hcache id⟩⟩
  · rw [← hcache]
    exact loader.loads_step call
  · rw [hfetched]
    exact Option.length_toList_le

end Loader

end SiteBuilder
