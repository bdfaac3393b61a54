import SiteBuilder.Site.Placeholder

/-!
# Preview documents

A site is shown as one document: its entry file with the answers put in and all style sheets and
scripts written into it. Style sheets go before the end of the head, scripts before the end of the
body.
-/

namespace SiteBuilder

/-- A document could not be composed: there is no entry file. -/
structure EntryMissing where
  /-- The name that was looked for. -/
  entry : String
  deriving DecidableEq

/-- The wording of a missing entry file. -/
def EntryMissing.message (e : EntryMissing) : String := "No " ++ e.entry ++ " found in template"

namespace Document

/-- The entry file of a site that names no other. -/
def defaultEntry : String := "index.html"

/-- The end of the head. -/
def headEnd : List Char := "</head>".toList

/-- The end of the body. -/
def bodyEnd : List Char := "</body>".toList

/-- An element that holds the text of a file and tells where it is from. -/
def element (tag path text : String) : List Char :=
  ("<" ++ tag ++ " data-source=\"" ++ path ++ "\">\n" ++ text ++ "\n</" ++ tag ++ ">\n").toList

/-- The elements of all files with an extension. -/
def elements (tag extension : String) (files : FileSet) (answers : AnswerSet) : List Char :=
  (files.entries.filter (FileSet.hasExtension ·.1 extension)).flatMap fun file =>
    element tag file.1 (render file.2 answers)

/-- Put a text before the first occurrence of a mark, if there is one. -/
def insertBefore? (mark injected document : List Char) : Option (List Char) :=
  (Text.cutAt? mark document).map fun (before, after) => before ++ injected ++ mark ++ after

/-- Put style sheets at the end of the head, or else of the body, or else at the start. -/
def withStyles (styles document : List Char) : List Char :=
  match insertBefore? headEnd styles document with
  | some result => result
  | none => (insertBefore? bodyEnd styles document).getD (styles ++ document)

/-- Put scripts at the end of the body, or else at the end. -/
def withScripts (scripts document : List Char) : List Char :=
  (insertBefore? bodyEnd scripts document).getD (document ++ scripts)

/-- The document of a site. -/
def compose (files : FileSet) (answers : AnswerSet) (entry : String) : Except EntryMissing String :=
  match files.find? entry with
  | none => .error ⟨entry⟩
  | some file =>
    let main := (render file.2 answers).toList
    .ok (String.ofList (withScripts (elements "script" "js" files answers)
      (withStyles (elements "style" "css" files answers) main)))

end Document

end SiteBuilder
