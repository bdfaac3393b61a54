import SiteBuilder.NameMap
import SiteBuilder.Template.Catalog

/-!
# Arguments of the command line

The first word names a command, and one of them has commands of its own. An option is written with its
long name or with a letter; its value follows as the next argument, or directly after it. An option may be
given once by every command, in any place; two hyphens end the options. The option for settings belongs to
all commands, and the innermost one that gives it counts.
-/

namespace SiteBuilder.CommandLine

/-- Where a template is taken from, and the answers to fill it in with. -/
structure TemplateChoice where
  /-- A local folder. -/
  folder : Option String
  /-- The identifier of a template in a catalog. -/
  id : Option String
  /-- The catalog's file. -/
  catalog : Option String
  /-- A file of answers. -/
  answers : Option String
  deriving DecidableEq

/-- What is to be done. -/
inductive Command where
  /-- Make a folder with a template to start from. -/
  | init (path : String)
  /-- List the templates of a catalog. -/
  | catalog (file : String) (filter : CatalogFilter)
  /-- Check answers. -/
  | validate (choice : TemplateChoice)
  /-- Write the preview document. -/
  | preview (choice : TemplateChoice) (out : String)
  /-- Write an archive. -/
  | exportArchive (choice : TemplateChoice) (name : Option String) (out : String)
  /-- Make a repository. -/
  | exportRepository (choice : TemplateChoice) (name description : Option String)
  /-- Print the address to sign in at. -/
  | login
  deriving DecidableEq

/-- A command and the file of its settings. -/
structure Invocation where
  settings : Option String
  command : Command
  deriving DecidableEq

/-- Why there is nothing to do. -/
inductive Stop where
  /-- Help was asked for. -/
  | help
  /-- The arguments make no sense. -/
  | usage
  deriving DecidableEq

/-- An option that takes a value. -/
structure OptionSpec where
  name : String
  letter : Option Char
  /-- Whether the value is a path, which is not empty. -/
  isPath : Bool

/-- What the arguments of one command are read by. -/
structure Level where
  options : List OptionSpec
  /-- Whether a word is the name of a further command. -/
  hasCommands : Bool
  /-- Whether this is the program itself. -/
  isTop : Bool

/-- The options and the words of a command. -/
structure Given where
  options : NameMap String
  words : List String

/-- The kinds of arguments. -/
inductive Token where
  /-- Two hyphens alone. -/
  | ending
  /-- A long name, with a value after an equals sign. -/
  | long (name : String) (value : Option String)
  /-- A letter and what follows it directly. -/
  | short (letter : Char) (rest : List Char)
  /-- Anything else. -/
  | word
  deriving DecidableEq

/-- The kind of an argument. -/
def Token.of (argument : String) : Token :=
  match argument.toList with
  | ['-', '-'] => .ending
  | '-' :: '-' :: cs =>
    let name := cs.takeWhile (· != '=')
    match cs.dropWhile (· != '=') with
    | [] => .long (String.ofList name) none
    | _ :: value => .long (String.ofList name) (some (String.ofList value))
  | '-' :: c :: cs => .short c cs
  | _ => .word

/-- Note the value of an option. -/
def Given.put (given : Given) (spec : OptionSpec) (value : String) : Except Stop Given :=
  if given.options.contains spec.name ∨ (spec.isPath ∧ value = "") then .error .usage
  else .ok { given with options := given.options.insert spec.name value }

/-- The value that follows a letter directly, if there is one. -/
def attached : List Char → Option String
  | [] => none
  | '=' :: cs => some (String.ofList cs)
  | cs => some (String.ofList cs)

/-- Read the arguments of a command. What follows the name of a further command is left over. -/
def readArguments (level : Level) (given : Given) : List String → Except Stop (Given × List String)
  | [] => .ok (given, [])
  | argument :: rest =>
    let withValue (spec? : Option OptionSpec) (value : Option String) : Except Stop (Given × List String) :=
      match spec?, value with
      | none, _ => .error .usage
      | some spec, some value => do readArguments level (← given.put spec value) rest
      | some spec, none =>
        match rest with
        | value :: rest =>
          if Token.of value = .word then do readArguments level (← given.put spec value) rest else .error .usage
        | [] => .error .usage
    match Token.of argument with
    | .ending =>
      if level.hasCommands then if rest.isEmpty then .ok (given, []) else .error .usage
      else .ok ({ given with words := given.words ++ rest }, [])
    | .long name value =>
      if value = none ∧ (name = "help" ∨ (name = "version" ∧ level.isTop)) then .error .help
      else withValue (level.options.find? (·.name == name)) value
    | .short letter cs =>
      if letter = 'h' ∨ (letter = 'V' ∧ level.isTop) then .error .help
      else withValue (level.options.find? (·.letter == some letter)) (attached cs)
    | .word =>
      if level.hasCommands then .ok (given, argument :: rest)
      else readArguments level { given with words := given.words ++ [argument] } rest

/-! ## Commands -/

/-- The option that all commands have. -/
def settingsOption : OptionSpec := ⟨"config", some 'c', true⟩

/-- The options that choose a template. -/
def templateOptions : List OptionSpec :=
  [⟨"template", some 't', true⟩, ⟨"id", none, false⟩, ⟨"catalog", none, true⟩, ⟨"answers", some 'a', true⟩]

/-- A command without commands of its own. -/
def leaf (options : List OptionSpec) : Level := ⟨settingsOption :: options, false, false⟩

/-- The template that options choose. It is a local one or one of a catalog, not both. -/
def choiceOf (options : NameMap String) : Except Stop TemplateChoice :=
  let choice : TemplateChoice :=
    ⟨options.get? "template", options.get? "id", options.get? "catalog", options.get? "answers"⟩
  if choice.id.isSome ∧ (choice.folder.isSome ∨ choice.catalog.isNone) then .error .usage else .ok choice

/-- Read the rest of a command line by a level without commands. At most `words` words may stand there. -/
def readLeaf (settings : Option String) (level : Level) (words : Nat) (arguments : List String)
    (command : Given → Except Stop Command) : Except Stop Invocation := do
  let (given, _) ← readArguments level ⟨∅, []⟩ arguments
  if words < given.words.length ∨ given.words.contains "" then .error .usage
  return ⟨(given.options.get? "config").or settings, ← command given⟩

/-- Read the arguments of an export. -/
def readExport (settings : Option String) (arguments : List String) : Except Stop Invocation := do
  let (given, rest) ← readArguments ⟨[settingsOption], true, false⟩ ⟨∅, []⟩ arguments
  let settings := (given.options.get? "config").or settings
  match rest with
  | "zip" :: arguments =>
    let options := templateOptions ++ [⟨"name", some 'n', false⟩, ⟨"out", some 'o', true⟩]
    readLeaf settings (leaf options) 0 arguments fun given => do
      return .exportArchive (← choiceOf given.options) (given.options.get? "name")
        ((given.options.get? "out").getD ".")
  | "github" :: arguments =>
    let options := templateOptions ++ [⟨"repo", some 'r', false⟩, ⟨"description", some 'd', false⟩]
    readLeaf settings (leaf options) 0 arguments fun given => do
      return .exportRepository (← choiceOf given.options) (given.options.get? "repo")
        (given.options.get? "description")
  | "help" :: _ => .error .help
  | _ => .error .usage

/-- Read a command line. -/
def parse (arguments : List String) : Except Stop Invocation := do
  let (given, rest) ← readArguments ⟨[settingsOption], true, true⟩ ⟨∅, []⟩ arguments
  let settings := given.options.get? "config"
  match rest with
  | "init" :: arguments =>
    readLeaf settings (leaf []) 1 arguments fun given => return .init (given.words.headD ".")
  | "catalog" :: arguments =>
    let options := [⟨"file", some 'f', true⟩, ⟨"category", none, false⟩, ⟨"type", none, false⟩]
    readLeaf settings (leaf options) 0 arguments fun given =>
      match given.options.get? "file" with
      | none => .error .usage
      | some file =>
        return .catalog file ⟨(given.options.get? "category").getD "all", (given.options.get? "type").getD "all"⟩
  | "validate" :: arguments =>
    readLeaf settings (leaf templateOptions) 0 arguments fun given => do
      return .validate (← choiceOf given.options)
  | "preview" :: arguments =>
    let options := templateOptions ++ [⟨"out", some 'o', true⟩]
    readLeaf settings (leaf options) 0 arguments fun given => do
      return .preview (← choiceOf given.options) ((given.options.get? "out").getD "preview.html")
  | "export" :: arguments => readExport settings arguments
  | "login" :: arguments => readLeaf settings (leaf []) 0 arguments fun _ => return .login
  | "help" :: _ => .error .help
  | _ => .error .usage

end SiteBuilder.CommandLine
