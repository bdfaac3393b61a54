import SiteBuilder.CommandLine.Run
import SiteBuilder.Proofs.Template.Loading

/-!
# Commands on their way

A command takes a report and a state of the world, and comes to a result. Some of its parts only look something up: they
leave the report as it is, whatever they come to.
-/

namespace SiteBuilder.CommandLine

namespace Task

variable {τ α β : Type} {report : Report} {world : τ}

/-- What a command comes to. -/
def result (task : Task (StateM τ) α) (report : Report) (world : τ) : Except CommandError α :=
  ((task.run.run report).run world).1.1

/-- The report that a command leaves. -/
def reportAfter (task : Task (StateM τ) α) (report : Report) (world : τ) : Report :=
  ((task.run.run report).run world).1.2

/-- The world that a command leaves. -/
def worldAfter (task : Task (StateM τ) α) (report : Report) (world : τ) : τ :=
  ((task.run.run report).run world).2

/-- Two commands one after the other succeed if the first one does and the second one does where it leaves off. -/
theorem result_bind_eq_ok_iff {first : Task (StateM τ) α} {next : α → Task (StateM τ) β} {b : β} :
    result (first >>= next) report world = .ok b ↔
      ∃ a, first.result report world = .ok a ∧
        (next a).result (first.reportAfter report world) (first.worldAfter report world) = .ok b := by
  unfold result reportAfter worldAfter
  rw [ExceptT.run_bind, StateT.run_bind, StateT.run_bind]
  rcases (first.run.run report).run world with ⟨⟨outcome, after⟩, world'⟩
  cases outcome with
  | error cause =>
    constructor
    · intro h
      cases h
    · rintro ⟨a, ha, -⟩
      cases ha
  | ok a =>
    constructor
    · intro h
      exact ⟨a, rfl, h⟩
    · rintro ⟨_, ⟨⟩, h⟩
      exact h

/-- Looking at the disk goes on with the disk of the report. -/
@[simp]
theorem result_disk_bind {next : Disk → Task (StateM τ) β} :
    result (disk >>= next) report world = (next report.disk).result report world := rfl

/-- Looking at the disk leaves the report to what goes on with it. -/
@[simp]
theorem reportAfter_disk_bind {next : Disk → Task (StateM τ) β} :
    reportAfter (disk >>= next) report world = (next report.disk).reportAfter report world := rfl

/-- A result is gone on with if it is no failure. -/
@[simp]
theorem result_orFail_bind_eq_ok_iff {ε : Type} {fault : ε → CommandError} {outcome : Except ε α}
    {next : α → Task (StateM τ) β} {b : β} :
    result (orFail fault outcome >>= next) report world = .ok b ↔
      ∃ a, outcome = .ok a ∧ (next a).result report world = .ok b := by
  cases outcome with
  | error cause => exact ⟨nofun, nofun⟩
  | ok a =>
    constructor
    · intro h
      exact ⟨a, rfl, h⟩
    · rintro ⟨_, ⟨⟩, h⟩
      exact h

/-- A change of the report cannot fail. -/
@[simp]
theorem result_modify_bind {f : Report → Report} {next : PUnit → Task (StateM τ) β} :
    result (modify f >>= next) report world = (next ()).result (f report) world := rfl

@[simp]
theorem result_pure (a : α) : result (pure a) report world = .ok a := rfl

/-- A command only looks something up: it leaves the report, and what it finds has a property. -/
structure Finds (task : Task (StateM τ) α) (P : α → Prop) : Prop where
  reportAfter_eq : ∀ report world, task.reportAfter report world = report
  holds : ∀ report world a, task.result report world = .ok a → P a

variable {P : α → Prop} {Q : β → Prop}

/-- What follows a lookup is looked up with what it has found. -/
theorem Finds.bind {first : Task (StateM τ) α} {next : α → Task (StateM τ) β} (hfirst : Finds first P)
    (hnext : ∀ a, P a → Finds (next a) Q) : Finds (first >>= next) Q := by
  constructor
  · intro report world
    have hkept := hfirst.reportAfter_eq report world
    have hfound := hfirst.holds report world
    unfold reportAfter at hkept ⊢
    unfold result at hfound
    rw [ExceptT.run_bind, StateT.run_bind, StateT.run_bind]
    rcases hrun : (first.run.run report).run world with ⟨⟨outcome, after⟩, world'⟩
    rw [hrun] at hkept hfound
    cases outcome with
    | error cause => exact hkept
    | ok a => exact ((hnext a (hfound a rfl)).reportAfter_eq after world').trans hkept
  · intro report world b hb
    obtain ⟨a, ha, hb⟩ := result_bind_eq_ok_iff.mp hb
    exact (hnext a (hfirst.holds report world a ha)).holds _ _ b hb

/-- What is at hand is found. -/
theorem finds_pure {a : α} (h : P a) : Finds (pure a : Task (StateM τ) α) P := by
  constructor
  · exact fun _ _ => rfl
  · rintro report world _ ⟨⟩
    exact h

/-- Nothing is found by failing. -/
theorem finds_throw (cause : CommandError) : Finds (throw cause : Task (StateM τ) α) P :=
  ⟨fun _ _ => rfl, nofun⟩

/-- A result is found if it is no failure. -/
theorem finds_orFail {ε : Type} {fault : ε → CommandError} {outcome : Except ε α}
    (h : ∀ a, outcome = .ok a → P a) : Finds (orFail fault outcome : Task (StateM τ) α) P := by
  cases outcome with
  | error cause => exact finds_throw (fault cause)
  | ok a => exact finds_pure (h a rfl)

/-- The disk is looked up. -/
theorem finds_disk : Finds (disk : Task (StateM τ) Disk) fun _ => True := ⟨fun _ _ => rfl, fun _ _ _ _ => trivial⟩

/-- What is asked of the world is found. -/
theorem finds_liftM {request : StateM τ α} (h : ∀ world, P (request.run world).1) :
    Finds (liftM request : Task (StateM τ) α) P := by
  constructor
  · exact fun _ _ => rfl
  · rintro report world _ ⟨⟩
    exact h world

/-- Begun with a report that meets a condition, a command comes to a result and leaves a report that together meet
another one. It may fail. -/
def Leads (before : Report → Prop) (task : Task (StateM τ) α) (after : Except CommandError α → Report → Prop) : Prop :=
  ∀ report world, before report → after (task.result report world) (task.reportAfter report world)

variable {before : Report → Prop} {middle : Except CommandError α → Report → Prop}
  {after : Except CommandError β → Report → Prop}

/-- What follows a command is led on from where that leaves off. If it fails, nothing follows. -/
theorem Leads.bind {first : Task (StateM τ) α} {next : α → Task (StateM τ) β} (hfirst : Leads before first middle)
    (hnext : ∀ a, Leads (middle (.ok a)) (next a) after)
    (hfailed : ∀ cause report, middle (.error cause) report → after (.error cause) report) :
    Leads before (first >>= next) after := by
  intro report world hbefore
  have hmiddle := hfirst report world hbefore
  unfold result reportAfter at hmiddle ⊢
  rw [ExceptT.run_bind, StateT.run_bind, StateT.run_bind]
  rcases hrun : (first.run.run report).run world with ⟨⟨outcome, left⟩, world'⟩
  rw [hrun] at hmiddle
  cases outcome with
  | error cause => exact hfailed cause left hmiddle
  | ok a => exact hnext a left world' hmiddle

/-- What is looked up leads on with its property, from the same report. -/
theorem Leads.of_finds {first : Task (StateM τ) α} {next : α → Task (StateM τ) β} (hfirst : Finds first P)
    (hnext : ∀ a, P a → Leads before (next a) after)
    (hfailed : ∀ cause report, before report → after (.error cause) report) : Leads before (first >>= next) after := by
  have hlookup : Leads before first fun found report => before report ∧ ∀ a, found = .ok a → P a := by
    intro report world hbefore
    rw [hfirst.reportAfter_eq]
    exact ⟨hbefore, hfirst.holds report world⟩
  exact hlookup.bind (fun a report world h => hnext a (h.2 a rfl) report world h.1) fun cause report h =>
    hfailed cause report h.1

/-- A disk that is known is the one that is looked up. -/
theorem Leads.of_disk {start : Disk} {next : Disk → Task (StateM τ) β}
    (hnext : Leads (fun report => report.disk = start) (next start) after) :
    Leads (fun report => report.disk = start) (disk >>= next) after := by
  rintro report world rfl
  rw [result_disk_bind, reportAfter_disk_bind]
  exact hnext report world rfl

/-- Logging leaves the disk. -/
theorem leads_log (P : Disk → Prop) (severity : Severity) (line : String) :
    Leads (fun report => P report.disk) (log severity line : Task (StateM τ) Unit) fun _ report => P report.disk :=
  fun _ _ h => h

/-- Logging problems leaves the disk. -/
theorem leads_logProblems (P : Disk → Prop) (problems : ValidationErrors) :
    Leads (fun report => P report.disk) (logProblems problems : Task (StateM τ) Unit)
      fun _ report => P report.disk := by
  unfold logProblems
  induction problems.entries with
  | nil => exact fun _ _ h => h
  | cons entry rest ih =>
    show Leads _ (log .error _ >>= fun _ => rest.forM _) _
    exact (leads_log P _ _).bind (fun _ => ih) fun _ _ h => h

/-- A change of the disk is made or fails. -/
theorem leads_change {f : Disk → Except DiskError Disk} {fault : DiskError → CommandError}
    {after : Except CommandError Unit → Report → Prop}
    (hchanged : ∀ report disk, before report → f report.disk = .ok disk → after (.ok ()) { report with disk })
    (hfailed : ∀ report cause, before report → f report.disk = .error cause → after (.error (fault cause)) report) :
    Leads before (change f fault : Task (StateM τ) Unit) after := by
  intro report world hbefore
  rw [change, result_disk_bind, reportAfter_disk_bind]
  cases hresult : f report.disk with
  | ok disk => exact hchanged report disk hbefore hresult
  | error cause => exact hfailed report cause hbefore hresult

end Task

section

variable {τ : Type} (machine : Machine (StateM τ)) (settings : Settings) (choice : TemplateChoice)

/-- A template that a source yields is loaded, and its form is an accepted one. -/
theorem finds_loadTemplate {chosen : Descriptor × (Descriptor → StateM τ (Except LoadError TemplateContent))}
    (hsource : ∀ descriptor, Yields (chosen.2 descriptor) fun content => content.config.Accepted) :
    Task.Finds
      (do
        let (result, _) ← (loadTemplate chosen.2 none chosen.1 : StateM τ _)
        let content ← orFail (fun _ => .template chosen.1.id) result
        return (chosen.1.id, content) : Task (StateM τ) (String × TemplateContent))
      fun found => found.2.config.Accepted := by
  refine Task.Finds.bind (P := fun loaded => ∀ content, loaded.1 = .ok content → content.config.Accepted) ?_ ?_
  · exact Task.finds_liftM fun world content hcontent => holds_of_loadTemplate hsource hcontent
  · rintro ⟨result, cache⟩ hresult
    exact (Task.finds_orFail hresult).bind fun content hcontent => Task.finds_pure hcontent

/-- A template that is chosen has an accepted form, be it in a folder or in a repository. -/
theorem finds_loadChosen :
    Task.Finds (loadChosen machine settings choice) fun found => found.2.config.Accepted := by
  refine Task.finds_disk.bind fun disk _ => ?_
  dsimp only
  split
  · next folder _ _ =>
    refine (Task.finds_pure ?_).bind fun chosen => finds_loadTemplate
    intro descriptor world content hcontent
    exact LocalFolder.accepted_of_read hcontent
  · refine (Task.finds_orFail fun _ _ => trivial).bind fun catalog _ => ?_
    split
    · exact (Task.finds_throw _).bind fun chosen => finds_loadTemplate
    · refine (Task.finds_pure ?_).bind fun chosen => finds_loadTemplate
      exact RemoteFolder.yields_fetch _ _ _
  · exact (Task.finds_throw _).bind fun chosen => finds_loadTemplate

end

end SiteBuilder.CommandLine
