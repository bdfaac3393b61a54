import SiteBuilder.CommandLine.Arguments
import SiteBuilder.Disk.Path
import SiteBuilder.Settings

/-!
# What a command looks at

The paths on a disk that a command may look at or write to. Whoever runs a command on a part of a disk
takes these paths with their folders.
-/

namespace SiteBuilder.CommandLine

/-- A path, and how many levels of folders below it matter. -/
structure Lookup where
  path : String
  depth : Nat
  deriving DecidableEq

/-- The levels of folders of a template that are looked at. -/
def templateDepth : Nat := 256

/-- What the choice of a template looks at. -/
def TemplateChoice.lookups (settings : Settings) (choice : TemplateChoice) : List Lookup :=
  let template (folder : String) : List Lookup :=
    [⟨folder, templateDepth⟩, ⟨Path.join folder settings.template.configFile, 0⟩]
  choice.folder.elim [] template ++ choice.catalog.toList.map (⟨·, 0⟩) ++ choice.answers.toList.map (⟨·, 0⟩) ++
    settings.drafts.folder.toList.map (⟨·, 1⟩)

/-- What a command looks at. -/
def Command.lookups (settings : Settings) : Command → List Lookup
  | .init path => [⟨path, 0⟩]
  | .catalog file _ => [⟨file, 0⟩]
  | .validate choice => choice.lookups settings
  | .preview choice out => choice.lookups settings ++ [⟨out, 0⟩]
  | .exportArchive choice _ out => choice.lookups settings ++ [⟨out, 0⟩]
  | .exportRepository choice _ _ => choice.lookups settings
  | .login => []

end SiteBuilder.CommandLine
