import SiteBuilder.CommandLine.Arguments
import SiteBuilder.CommandLine.Starter
import SiteBuilder.Drafts.Place
import SiteBuilder.Repository.Client
import SiteBuilder.Studio
import SiteBuilder.Template.Loader
import SiteBuilder.Template.LocalFolder
import SiteBuilder.Template.RemoteFolder

/-!
# Commands

What each command does to a disk and what it says. A command gets the environment, something that carries
requests and a text that nobody can guess; it hands back the disk it leaves, the lines it prints, those it
logs, and the error it ends with, if any.
-/

namespace SiteBuilder.CommandLine

/-- Why a command fails. -/
inductive CommandError where
  | settings (path : String)
  | catalog
  | disk (cause : DiskError)
  | login (cause : LoginError)
  /-- No template is chosen. -/
  | noTemplate
  /-- A catalog does not list a template. -/
  | unknownTemplate (id : String)
  | template (id : String)
  /-- There is no text in the file of answers. -/
  | unreadAnswers (path : String)
  /-- The file of answers holds none. -/
  | malformedAnswers
  | mismatch (cause : Mismatch)
  /-- Some answers are not valid. -/
  | invalid (count : Nat)
  | preview (cause : Preview.Failure)
  | nothingRendered
  | write (path : String)
  | studio (cause : StudioError)

/-- The wording of a cause. -/
def CommandError.message : CommandError → String
  | .settings path => "Failed to load settings " ++ Text.quotedPath path
  | .catalog => "Failed to load catalog"
  | .disk cause => cause.message
  | .login cause => cause.message
  | .noTemplate => "Either --template or --id is required"
  | .unknownTemplate id => "Template '" ++ id ++ "' is not in the catalog"
  | .template id => "Failed to load template '" ++ id ++ "'"
  | .unreadAnswers path => "Failed to read answers " ++ Text.quotedPath path
  | .malformedAnswers => "Failed to parse answers JSON"
  | .mismatch cause => cause.message
  | .invalid count => toString count ++ " invalid field(s)"
  | .preview cause => "Preview failed: " ++ cause.message
  | .nothingRendered => "Nothing was rendered"
  | .write path => "Failed to write " ++ Text.quotedPath path
  | .studio cause => cause.message

/-- How much a line of the log matters. -/
inductive Severity where
  | error
  | warning
  | info
  deriving DecidableEq

/-- What a command has done so far. -/
structure Report where
  disk : Disk
  /-- The lines that were printed, latest first. -/
  printed : List String
  /-- The lines that were logged, latest first. -/
  logged : List (Severity × String)

/-- A command on its way. -/
abbrev Task (m : Type → Type) (α : Type) := ExceptT CommandError (StateT Report m) α

/-- What a command is given besides the disk. -/
structure Machine (m : Type → Type) where
  environment : NameMap String
  transport : Transport m
  /-- A text that nobody can guess. -/
  nonce : String

variable {m : Type → Type} [Monad m]

/-- Print a line. -/
def print (line : String) : Task m Unit := modify fun report => { report with printed := line :: report.printed }

/-- Log a line. -/
def log (severity : Severity) (line : String) : Task m Unit :=
  modify fun report => { report with logged := (severity, line) :: report.logged }

/-- The disk as it is. -/
def disk : Task m Disk := do return (← get).disk

/-- Change the disk, or fail. -/
def change (f : Disk → Except DiskError Disk) (fault : DiskError → CommandError) : Task m Unit := do
  match f (← disk) with
  | .ok disk => modify fun report => { report with disk }
  | .error cause => throw (fault cause)

/-- A result, or a failure of the command. -/
def orFail {ε α : Type} (fault : ε → CommandError) : Except ε α → Task m α
  | .ok a => pure a
  | .error cause => throw (fault cause)

/-- The settings of a file. -/
def Settings.load? (disk : Disk) (path : String) : Option Settings :=
  (disk.readText path).toOption.bind Settings.ofYaml?

/-- The answers of a file, or no answers without one. -/
def readAnswers (disk : Disk) : Option String → Except CommandError AnswerSet
  | none => .ok ∅
  | some path =>
    match disk.readText path with
    | .error _ => .error (.unreadAnswers path)
    | .ok text =>
      match AnswerSet.ofJson? text with
      | some answers => .ok answers
      | none => .error .malformedAnswers

/-- The identity of the token in the environment. -/
def Machine.identity (machine : Machine m) (settings : GitHubSettings) : Identity :=
  .ofToken (machine.environment.get? settings.tokenVariable) settings.oauth

/-- A client of the repository service. -/
def Machine.client (machine : Machine m) (settings : GitHubSettings) : RepositoryClient m :=
  ⟨machine.transport, settings.apiBase, (machine.identity settings).token⟩

/-! ## Templates and answers -/

/-- The most folders of a template that are read from a repository. -/
def maxFolders : Nat := 1000000

/-- What a local template leaves out: the file of answers, if it is inside. -/
def leftOut (disk : Disk) (folder : String) (answers : Option String) : List String :=
  (answers.bind (disk.pathWithin folder)).toList

/-- The template in a local folder. The answers it is filled in with are none of its files. -/
def loadLocal (disk : Disk) (settings : Settings) (folder : String) (answers : Option String)
    (descriptor : Descriptor) : Except LoadError TemplateContent :=
  LocalFolder.read disk folder settings.template.configFile (leftOut disk folder answers) descriptor

/-- The template that is chosen, with its identifier. -/
def loadChosen (machine : Machine m) (settings : Settings) (choice : TemplateChoice) :
    Task m (String × TemplateContent) := do
  let disk ← disk
  let (descriptor, fetch) ←
    match choice.folder, choice.id with
    | some folder, _ =>
      let descriptor := Descriptor.inFolder ((Path.fileName? folder).getD "template") ""
      pure (descriptor, fun d => (pure (loadLocal disk settings folder choice.answers d) : m _))
    | none, some id =>
      let catalog ← orFail (fun _ => .catalog) (Catalog.load disk (choice.catalog.getD ""))
      match catalog.get? id with
      | none => throw (.unknownTemplate id)
      | some descriptor =>
        let contents := (machine.client settings.github).contents
        pure (descriptor, RemoteFolder.fetch contents settings.template.configFile maxFolders)
    | none, none => throw .noTemplate
  let (result, _) ← (loadTemplate fetch none descriptor : m _)
  let content ← orFail (fun _ => .template descriptor.id) result
  return (descriptor.id, content)

/-- A studio in which a template is selected, filled in with answers over its draft, and loaded. -/
def openedStudio {σ : Type} [DraftStore σ] (settings : Settings) (drafts : σ) (id : String) (answers : AnswerSet)
    (content : TemplateContent) : Except Mismatch (Studio σ) := do
  let studio := (Studio.start settings drafts .empty).selectTemplate id
  let (result, studio) := if answers.isEmpty then (.ok (), studio) else studio.updateNow 0 answers
  let () ← result
  return (studio.contentLoaded 0 id content).2

/-- Open the studio for a template that is chosen. -/
def openStudio (machine : Machine m) (settings : Settings) (choice : TemplateChoice) :
    Task m (Studio DraftPlace) := do
  let (templateId, content) ← loadChosen machine settings choice
  let answers ← orFail id (readAnswers (← disk) choice.answers)
  let drafts := DraftPlace.ofFolder (← disk) settings.drafts.folder
  let studio ← orFail .mismatch (openedStudio settings drafts templateId answers content)
  modify fun report => { report with disk := studio.form.drafts.diskAfter report.disk }
  return studio

/-! ## Commands -/

/-- Log the problems of fields. -/
def logProblems (problems : ValidationErrors) : Task m Unit :=
  problems.entries.forM fun entry => log .error (entry.1 ++ ": " ++ entry.2)

/-- Log what is wrong with the form if that is why the studio does not export. -/
def logInvalid : StudioError → Task m Unit
  | .invalid problems => logProblems problems
  | _ => return

/-- Write the starter template into a folder. -/
def init (path : String) : Task m Unit := do
  log .info ("Initializing template at " ++ Text.quotedPath path)
  change (·.makeFolders path) .disk
  starterFiles.forM fun file => change (·.write (Path.join path file.1) (.ofText file.2)) .disk
  log .info "✓ Template initialized successfully!"
  log .info ("  Run: sitestudio preview -t " ++ path ++ " -a " ++ Path.join path "answers.json")

/-- A text with blanks up to a width. -/
def padded (width : Nat) (s : String) : String := s.pushn ' ' (width - s.length)

/-- The line of a template in a list. -/
def catalogLine (template : Descriptor) : String :=
  (if template.featured then "* " else "  ") ++ padded 20 template.id ++ " " ++ padded 24 template.name ++ " " ++
    padded 12 template.category ++ " " ++ template.kind

/-- List the templates of a catalog. -/
def listCatalog (file : String) (filter : CatalogFilter) : Task m Unit := do
  let catalog ← orFail (fun _ => .catalog) (Catalog.load (← disk) file)
  (catalog.filtered filter).forM fun template => print (catalogLine template)

/-- Check the answers of a form. -/
def validate (machine : Machine m) (settings : Settings) (choice : TemplateChoice) : Task m Unit := do
  let studio ← openStudio machine settings choice
  match studio.form.submit.1 with
  | .ok answers => log .info ("✓ All " ++ toString answers.size ++ " answers are valid")
  | .error problems => do
    logProblems problems
    throw (.invalid problems.size)

/-- The document that a preview has made. -/
def previewDocument (preview : Preview.Scheduler) : Except CommandError String :=
  match preview.stage, preview.failure with
  | .failed, some cause => .error (.preview cause)
  | _, _ =>
    match preview.waiting.bind fun target => preview.host.document? target.handle with
    | some document => .ok document
    | none => .error .nothingRendered

/-- Write the preview document. -/
def preview (machine : Machine m) (settings : Settings) (choice : TemplateChoice) (out : String) :
    Task m Unit := do
  let studio ← openStudio machine settings choice
  let document ← orFail id (previewDocument studio.preview)
  change (·.write out (.ofText document)) fun _ => .write out
  log .info ("✓ Preview written to " ++ Text.quotedPath out)

/-- The path of an archive in a folder. -/
def archivePath (out : String) (archive : Archive) : String := Path.join out archive.filename

/-- Write an archive into a folder. -/
def exportArchive (machine : Machine m) (settings : Settings) (choice : TemplateChoice) (name : Option String)
    (out : String) : Task m Unit := do
  let studio ← openStudio machine settings choice
  match (studio.exportArchive 0 name).1 with
  | .error cause => do
    logInvalid cause
    throw (.studio cause)
  | .ok archive => do
    change (·.makeFolders out) .disk
    let path := archivePath out archive
    change (·.write path (.archive archive)) fun _ => .write path
    log .info ("✓ Archive written to " ++ Text.quotedPath path)

/-- What someone who is not signed in can do about it. -/
def signInAdvice (settings : GitHubSettings) : Except LoginError Url → String
  | .ok url => "Set " ++ settings.tokenVariable ++ " to a token, or authorize at " ++ url.text ++ " and retry"
  | .error cause => "Set " ++ settings.tokenVariable ++ " to a GitHub token and retry (" ++ cause.message ++ ")"

/-- Export to a repository. -/
def exportRepository (machine : Machine m) (settings : Settings) (choice : TemplateChoice)
    (name description : Option String) : Task m Unit := do
  let studio ← openStudio machine settings choice
  let identity := machine.identity settings.github
  let exporter : RemoteExporter m := ⟨(machine.client settings.github).host, identity, settings.export_⟩
  let (result, _) ← (studio.exportRemote 0 exporter name description : m _)
  match result with
  | .ok repository => log .info ("✓ Exported to " ++ repository.url)
  | .error (.exporting .authRequired) => do
    log .warning (signInAdvice settings.github (identity.login machine.nonce))
    throw (.studio (.exporting .authRequired))
  | .error cause => do
    logInvalid cause
    throw (.studio cause)

/-- Do what an invocation says. -/
def perform (machine : Machine m) (invocation : Invocation) : Task m Unit := do
  let settings ←
    match invocation.settings with
    | none => pure {}
    | some path =>
      match Settings.load? (← disk) path with
      | some settings => pure settings
      | none => throw (.settings path)
  match invocation.command with
  | .init path => init path
  | .catalog file filter => listCatalog file filter
  | .validate choice => validate machine settings choice
  | .preview choice out => preview machine settings choice out
  | .exportArchive choice name out => exportArchive machine settings choice name out
  | .exportRepository choice name description => exportRepository machine settings choice name description
  | .login => do
    let url ← orFail .login ((machine.identity settings.github).login machine.nonce)
    print url.text

/-- What a run of the program comes to. -/
structure Outcome where
  disk : Disk
  printed : List String
  logged : List (Severity × String)
  /-- The error it ends with. -/
  error : Option CommandError
  /-- The status it exits with: 1 after an error, 2 if the arguments make no sense. -/
  status : Nat

/-- Run the program with arguments on a disk. -/
def run (machine : Machine m) (disk : Disk) (arguments : List String) : m Outcome := do
  match parse arguments with
  | .error .help => return ⟨disk, [], [], none, 0⟩
  | .error .usage => return ⟨disk, [], [], none, 2⟩
  | .ok invocation =>
    let (result, report) ← (perform machine invocation).run.run ⟨disk, [], []⟩
    let error :=
      match result with
      | .ok () => none
      | .error cause => some cause
    return ⟨report.disk, report.printed.reverse, report.logged.reverse, error, if error.isSome then 1 else 0⟩

end SiteBuilder.CommandLine
