import SiteBuilder.Form.Config
import SiteBuilder.Form.Format
import SiteBuilder.Pattern.Search

/-!
# Validation

`Field.problem?` gives the wording of the first rule that an answer breaks. A blank answer breaks at
most the rule that the field must be filled in. The other rules come in this order: the kind, the
bounds of a number, the length, the pattern, the named predicate. A message of the field's own
replaces every wording.
-/

namespace SiteBuilder

/-- A rule for answers. -/
abbrev Predicate := Answer → Bool

/-- Rules that fields refer to by name. -/
abbrev Predicates := NameMap Predicate

namespace Predicates

/-- The rules that are there from the start. They look at the text of an answer. -/
def builtIn : Predicates :=
  .ofList [("email", fun a => Format.isEmail a.display), ("url", fun a => Format.isWebUrl a.display),
    ("hex_color", fun a => Format.isHexColor a.display), ("slug", fun a => Format.isSlug a.display)]

end Predicates

/-- The wording of what is wrong, by the names of the fields. -/
abbrev ValidationErrors := NameMap String

namespace Field

/-- The wording of the rule of a field's kind, if the answer breaks it. The text of an answer is
taken without the blanks around it for email addresses, colors and addresses of pages. -/
def kindProblem? (field : Field) (answer : Answer) : Option String :=
  let label := field.shownLabel
  match field.kind with
  | .number =>
    match answer.number? with
    | none => some (label ++ " must be a number")
    | some n =>
      if field.validation.min.any (n < ·) then
        some (label ++ " must be at least " ++ Decimal.Layout.shown.text (field.validation.min.getD 0))
      else if field.validation.max.any (· < n) then
        some (label ++ " must be at most " ++ Decimal.Layout.shown.text (field.validation.max.getD 0))
      else none
  | .url => if Format.isWebUrl answer.display then none else some (label ++ " must be a valid URL")
  | .email =>
    if Format.isEmail (Text.trim answer.display) then none
    else some (label ++ " must be a valid email address")
  | .color =>
    if Format.isHexColor (Text.trim answer.display) then none
    else some (label ++ " must be a hex color like #1a2b3c")
  | .boolean =>
    match answer with
    | .bool _ => none
    | _ => some (label ++ " must be true or false")
  | .select =>
    if field.options.isEmpty || field.options.any (·.value == answer.display) then none
    else some (label ++ " must be one of: " ++ ", ".intercalate (field.options.map (·.value)))
  | .text | .textarea => none

/-- The wording of the bound on the number of characters that a text breaks. -/
def lengthProblem? (field : Field) (text : String) : Option String :=
  if field.validation.minLength.any (text.length < ·) then
    some (field.shownLabel ++ " must be at least " ++
      String.ofList (Decimal.digitsOf (field.validation.minLength.getD 0)) ++ " characters")
  else if field.validation.maxLength.any (· < text.length) then
    some (field.shownLabel ++ " must be at most " ++
      String.ofList (Decimal.digitsOf (field.validation.maxLength.getD 0)) ++ " characters")
  else none

/-- Whether a text matches the field's pattern. A pattern that cannot be read asks for nothing. -/
def matchesPattern (field : Field) (text : String) : Bool :=
  field.validation.pattern.all fun p => (Pattern.parse? p).all (·.occursIn text)

/-- Whether the field's named predicate accepts an answer. One that is not registered asks for
nothing. -/
def passesPredicate (field : Field) (predicates : Predicates) (answer : Answer) : Bool :=
  field.validation.custom.all fun name => (predicates.get? name).all (· answer)

/-- The wording of the first rule that an answer which is not blank breaks. -/
def filledProblem? (field : Field) (predicates : Predicates) (answer : Answer) : Option String :=
  match field.kindProblem? answer with
  | some problem => some problem
  | none =>
    match field.lengthProblem? answer.display with
    | some problem => some problem
    | none =>
      if !field.matchesPattern answer.display then some (field.shownLabel ++ " has an invalid format")
      else if !field.passesPredicate predicates answer then some (field.shownLabel ++ " is invalid")
      else none

/-- What is wrong with the value of a field. -/
def problem? (field : Field) (value : Option Answer) (predicates : Predicates) : Option String :=
  let problem :=
    match value.filter (!·.isBlank) with
    | some answer => field.filledProblem? predicates answer
    | none => if field.isRequired then some (field.shownLabel ++ " is required") else none
  problem.map (field.validation.message.getD ·)

end Field

/-- What is wrong with the answers of a list of fields. -/
def problemsOf (fields : List Field) (answers : AnswerSet) (predicates : Predicates) : ValidationErrors :=
  .ofList (fields.filterMap fun field =>
    (field.problem? (answers.get? field.name) predicates).map (field.name, ·))

/-- What is wrong with the answers of a step. -/
def Step.problems (step : Step) (answers : AnswerSet) (predicates : Predicates) : ValidationErrors :=
  problemsOf step.fields answers predicates

/-- What is wrong with the answers of a form. -/
def TemplateConfig.problems (config : TemplateConfig) (answers : AnswerSet) (predicates : Predicates) :
    ValidationErrors :=
  problemsOf config.fields answers predicates

end SiteBuilder
