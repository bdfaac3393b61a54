import SiteBuilder.Export.Readme
import SiteBuilder.Proofs.Page.Printing

/-!
# What the README says

The page template of the README is fixed, so it can be read once and for all: it has no fault, and everything
that it names is there, whatever the answers are. So the README of a site can always be filled in, and what it
says can be written down without the template language.
-/

namespace SiteBuilder

namespace Readme

open Page

/-- What the page template says about one field. -/
def detailStatements : List Statement :=
  [.text "- **".toList, .print 8 (.entry 8 (.variable "item") "label"), .text ":** ".toList,
    .print 8 (.entry 8 (.variable "item") "value"), .text "\n".toList]

/-- The statements of the page template. -/
def statements : List Statement :=
  [.text "# ".toList, .print 1 (.variable "title"), .text "\n\n".toList, .print 3 (.variable "summary"),
    .text "\n".toList,
    .branch 4 (.variable "details")
      [.text "\n## Details\n\n".toList, .loop 7 ["item"] (.variable "details") none detailStatements []] [],
    .text "\nBuilt from the ".toList, .print 11 (.filter 11 (.variable "template") "titlecase" []),
    .text " template with ".toList, .print 11 (.variable "tool"), .text ".".toList]

/-- The parts of the page template. -/
def parts : List Part :=
  [.text "# ".toList, .print [⟨.word "title", 1⟩], .text "\n\n".toList, .print [⟨.word "summary", 3⟩],
    .text "\n".toList, .tag [⟨.word "if", 4⟩, ⟨.word "details", 4⟩], .text "\n## Details\n\n".toList,
    .tag [⟨.word "for", 7⟩, ⟨.word "item", 7⟩, ⟨.word "in", 7⟩, ⟨.word "details", 7⟩], .text "- **".toList,
    .print [⟨.word "item", 8⟩, ⟨.mark ".", 8⟩, ⟨.word "label", 8⟩], .text ":** ".toList,
    .print [⟨.word "item", 8⟩, ⟨.mark ".", 8⟩, ⟨.word "value", 8⟩], .text "\n".toList,
    .tag [⟨.word "endfor", 9⟩], .tag [⟨.word "endif", 10⟩], .text "\nBuilt from the ".toList,
    .print [⟨.word "template", 11⟩, ⟨.mark "|", 11⟩, ⟨.word "titlecase", 11⟩], .text " template with ".toList,
    .print [⟨.word "tool", 11⟩], .text ".".toList]

/-- The page template, line by line. -/
theorem toList_template : template.toList =
    "# \x7b\x7b title \x7d\x7d\n\n\x7b\x7b summary \x7d\x7d\n\x7b% if details %\x7d\n## Details\n\n".toList ++
      "\x7b% for item in details -%\x7d\n- **\x7b\x7b item.label \x7d\x7d:** \x7b\x7b item.value \x7d\x7d\n".toList ++
      "\x7b% endfor -%\x7d\n\x7b% endif %\x7d\n".toList ++
      "Built from the \x7b\x7b template | titlecase \x7d\x7d template with \x7b\x7b tool \x7d\x7d.\n".toList := by
  have happend (a b c d : String) : (a ++ b ++ c ++ d).toList = a.toList ++ b.toList ++ c.toList ++ d.toList := by
    simp only [String.toList_append]
  exact happend _ _ _ _

/-- The page template is cut into its parts. -/
theorem read_parts : Part.read template = .ok parts := by
  have hread : (Part.read template).toOption = some parts := by
    rw [Part.read, ← String.length_toList, toList_template]
    decide +kernel
  cases h : Part.read template with
  | error kind =>
    rw [h] at hread
    cases hread
  | ok found =>
    rw [h] at hread
    rw [Option.some.inj hread]

/-- The page template has no fault. -/
theorem read_template : Statement.read template = .ok statements := by
  have hblock : Statement.readBlock (3 * parts.length + 3) [""] parts = some ⟨statements, [], []⟩ := rfl
  rw [Statement.read, read_parts]
  dsimp only [bind, Except.bind]
  rw [hblock]

/-- The line about one field. -/
def detailLine (entry : String × String) : String := "- **" ++ entry.1 ++ ":** " ++ entry.2 ++ "\n"

/-- The lines about the fields that are filled in, with a heading, if there are any. -/
def detailSection (listed : List (String × String)) : String :=
  if listed.isEmpty then "" else "\n## Details\n\n" ++ String.join (listed.map detailLine)

/-- What the README says. -/
def filled (answers : AnswerSet) (config : TemplateConfig) (settings : ExportSettings) : String :=
  String.join ["# ", title answers config, "\n\n", siteDescription answers settings, "\n",
    detailSection (details answers config), "\nBuilt from the ", Text.titleCase (templateName config),
    " template with ", tool, "."]

/-- The value that the page template is given for a field. -/
def detailValue (entry : String × String) : Value := .record [("label", .text entry.1), ("value", .text entry.2)]

/-- The statements about a field print its line. -/
theorem run_detailStatements (depth : Nat) (scope : Scope) (entry : String × String)
    (hitem : scope.value "item" = detailValue entry) :
    runAll depth scope detailStatements = .ok ((detailLine entry).toList, scope) := by
  have hlabel : (Expr.entry 8 (.variable "item") "label").value scope = .ok (.text entry.1) := by
    simp only [Expr.value, hitem, bind, Except.bind]
    rfl
  have hvalue : (Expr.entry 8 (.variable "item") "value").value scope = .ok (.text entry.2) := by
    simp only [Expr.value, hitem, bind, Except.bind]
    rfl
  have hrun : runAll depth scope detailStatements = .ok (_, scope) :=
    runAll_cons (run_text _) <| runAll_cons (run_print 8 hlabel) <| runAll_cons (run_text _) <|
      runAll_cons (run_print 8 hvalue) <| runAll_cons (run_text _) (by rw [runAll])
  rw [hrun]
  simp [detailLine]

/-- What is printed for the value of a field. -/
def printedDetail (value : Value) : List Char :=
  (detailLine ((value.entry "label").shown, (value.entry "value").shown)).toList

/-- The statements about a field print the line of its value. -/
theorem run_printedDetail (depth : Nat) (listed : List (String × String)) :
    ∀ item ∈ listed.map detailValue, ∀ inner : Scope, inner.value "item" = item →
      runAll depth inner detailStatements = .ok (printedDetail item, inner) := by
  intro item hmem inner hitem
  obtain ⟨entry, -, rfl⟩ := List.mem_map.mp hmem
  exact run_detailStatements depth inner entry hitem

/-- The lines about the fields are printed if there are any. -/
theorem run_details (scope : Scope) (listed : List (String × String))
    (hdetails : scope.value "details" = .list (listed.map detailValue)) :
    (Statement.branch 4 (.variable "details")
        [.text "\n## Details\n\n".toList, .loop 7 ["item"] (.variable "details") none detailStatements []] []).run 0
        scope =
      .ok ((detailSection listed).toList, scope) := by
  have hvalue : (Expr.variable "details").value scope = .ok (.list (listed.map detailValue)) := by
    rw [Expr.value, hdetails]
  cases hempty : listed.isEmpty with
  | true =>
    have hholds : (Value.list (listed.map detailValue)).holds = false := by simpa [Value.holds] using hempty
    rw [run_branch_of_not_holds 4 hvalue rfl hholds, runAll, detailSection, if_pos hempty]
    rfl
  | false =>
    have hholds : (Value.list (listed.map detailValue)).holds = true := by simpa [Value.holds] using hempty
    have hitems : (listed.map detailValue).isEmpty = false := by simpa using hempty
    have hloop : (Statement.loop 7 ["item"] (.variable "details") none detailStatements []).run 0 scope =
        .ok ((listed.map detailValue).flatMap printedDetail, scope) :=
      run_loop 7 hvalue hitems printedDetail (run_printedDetail 1 listed)
    rw [run_branch_of_holds 4 hvalue rfl hholds, runAll_cons (run_text _) (runAll_cons hloop (by rw [runAll]))]
    have hlines : (listed.map detailValue).flatMap printedDetail = (String.join (listed.map detailLine)).toList := by
      simp only [List.flatMap_map, String.toList_join]
      rfl
    rw [detailSection, if_neg (by simp [hempty]), String.toList_append, hlines, List.append_nil]

/-- The README of a site can always be filled in. -/
theorem text_eq (answers : AnswerSet) (config : TemplateConfig) (settings : ExportSettings) :
    text answers config settings = .ok (filled answers config settings) := by
  let scope : Scope := ⟨[], context answers config settings ++ [("tool", .text tool)]⟩
  have htitle : (Expr.variable "title").value scope = .ok (.text (title answers config)) := rfl
  have hsummary : (Expr.variable "summary").value scope = .ok (.text (siteDescription answers settings)) := rfl
  have htemplate : (Expr.filter 11 (.variable "template") "titlecase" []).value scope =
      .ok (.text (Text.titleCase (templateName config))) := rfl
  have htool : (Expr.variable "tool").value scope = .ok (.text tool) := rfl
  have hdetails : scope.value "details" = .list ((details answers config).map detailValue) := rfl
  have hrun : runAll 0 scope statements = .ok (_, scope) :=
    runAll_cons (run_text _) <| runAll_cons (run_print 1 htitle) <| runAll_cons (run_text _) <|
      runAll_cons (run_print 3 hsummary) <| runAll_cons (run_text _) <|
      runAll_cons (run_details scope _ hdetails) <| runAll_cons (run_text _) <|
      runAll_cons (run_print 11 htemplate) <| runAll_cons (run_text _) <|
      runAll_cons (run_print 11 htool) <| runAll_cons (run_text _) (by rw [runAll])
  have hprinted : runAll 0 scope statements = .ok ((filled answers config settings).toList, scope) := by
    rw [hrun, filled, String.toList_join]
    rfl
  have hscope : (⟨[], context answers config settings ++ [("tool", .text tool)]⟩ : Scope) = scope := rfl
  rw [text, Page.render, read_template]
  dsimp only
  rw [hscope, hprinted]
  dsimp only
  rw [String.ofList_toList]

end Readme

end SiteBuilder
