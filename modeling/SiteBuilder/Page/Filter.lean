import SiteBuilder.Decimal.Reading
import SiteBuilder.Page.Fault
import SiteBuilder.Page.Value
import SiteBuilder.Text.Case
import SiteBuilder.Text.Casing

/-!
# Filters, tests and functions

What a template may apply to a value by name. The casings join words in different ways; the other
filters look at texts, numbers and lists.
-/

namespace SiteBuilder.Page

/-- A filter that makes a text of the text of a value. It takes no arguments. -/
def textFilter (f : String → String) (value : Value) (arguments : List Value) : Except FaultKind Value :=
  if arguments.isEmpty then .ok (.text (f value.shown)) else .error .tooManyArguments

/-- A text in capital letters. -/
def upperText (s : String) : String := String.ofList (s.toList.flatMap Text.upper)

/-- A text in small letters. -/
def lowerText (s : String) : String := String.ofList (s.toList.flatMap Text.lower)

/-- A text with a capital at its start and small letters after it. -/
def capitalText (s : String) : String :=
  match s.toList with
  | [] => ""
  | c :: cs => String.ofList (Text.upper c ++ cs.flatMap Text.lower)

/-- A text in which every word starts with a capital. `atStart` tells whether a word starts here. -/
def titleFrom (atStart : Bool) : List Char → List Char
  | [] => []
  | c :: cs =>
    (if atStart then Text.upper c else Text.lower c) ++
      titleFrom (Text.isBlank c || (c.toNat < 128 && !c.isAlphanum)) cs

/-- The characters that mean something in markup, written so that they do not. -/
def escapedMarkup (c : Char) : List Char :=
  match c with
  | '<' => "&lt;".toList
  | '>' => "&gt;".toList
  | '&' => "&amp;".toList
  | '"' => "&quot;".toList
  | '\'' => "&#x27;".toList
  | '/' => "&#x2f;".toList
  | c => [c]

/-- The items of a value. -/
def itemsOf (value : Value) : Except FaultKind (List Value) :=
  match value.items? with
  | some items => .ok items
  | none => .error .invalidOperation

/-- Put an item into its place among items in order, after equal ones. -/
def insertSorted (item : Value) : List Value → List Value
  | [] => [item]
  | head :: rest => if item.before head then item :: head :: rest else head :: insertSorted item rest

/-- Items in order; equal ones keep theirs. -/
def sortedItems (items : List Value) : List Value := items.foldl (fun acc item => insertSorted item acc) []

/-- The whole number of a value. -/
def wholeOf (value : Value) : Except FaultKind Int :=
  match value with
  | .undefined => .ok 0
  | .none => .ok 0
  | .text s =>
    match s.toInt? with
    | some n => .ok n
    | none => .error .invalidOperation
  | value =>
    match value.number? with
    | some (.whole n) => .ok n
    | some (.real x) => .ok (if x < 0 then -Int.ofNat (-x).toUInt64.toNat else Int.ofNat x.toUInt64.toNat)
    | none => .error .invalidOperation

/-- The texts of a value's items in one text. A separator stands before an item only if there is a
text before it. What is not there has no items. -/
def joined (value : Value) (separator : String) : Except FaultKind Value :=
  match value with
  | .undefined => .ok (.text "")
  | .none => .ok (.text "")
  | value =>
    (itemsOf value).map fun items =>
      .text (items.foldl (fun text item =>
        if text.isEmpty then item.shown else text ++ separator ++ item.shown) "")

/-- The value a filter makes of a value. -/
def applyFilter (name : String) (value : Value) (arguments : List Value) : Except FaultKind Value :=
  match name, arguments with
  | "camelcase", arguments => textFilter Text.camelCase value arguments
  | "pascalcase", arguments => textFilter Text.pascalCase value arguments
  | "snakecase", arguments => textFilter Text.snakeCase value arguments
  | "kebabcase", arguments => textFilter Text.kebabCase value arguments
  | "titlecase", arguments => textFilter Text.titleCase value arguments
  | "upper", arguments => textFilter upperText value arguments
  | "lower", arguments => textFilter lowerText value arguments
  | "capitalize", arguments => textFilter capitalText value arguments
  | "title", arguments => textFilter (fun s => String.ofList (titleFrom true s.toList)) value arguments
  | "trim", [] => .ok (.text (Text.trim value.shown))
  | "trim", [chars] => .ok (.text (String.ofList (Text.trimBy chars.shown.toList.contains value.shown.toList)))
  | "escape", [] => .ok (.text (String.ofList (value.shown.toList.flatMap escapedMarkup)))
  | "e", [] => .ok (.text (String.ofList (value.shown.toList.flatMap escapedMarkup)))
  | "safe", [] => .ok (.text value.shown)
  | "string", [] => .ok (.text value.shown)
  | "replace", [target, replacement] =>
    .ok (.text (Text.replaceAll target.shown replacement.shown value.shown))
  | "default", [] => .ok (match value with | .undefined => .text "" | value => value)
  | "default", [other] => .ok (match value with | .undefined => other | value => value)
  | "default", [other, .bool true] => .ok (if value.holds then value else other)
  | "default", [other, .bool false] => .ok (match value with | .undefined => other | value => value)
  | "d", [] => .ok (match value with | .undefined => .text "" | value => value)
  | "d", [other] => .ok (match value with | .undefined => other | value => value)
  | "length", [] => lengthOf value
  | "count", [] => lengthOf value
  | "first", [] => (itemsOf value).map fun items => items.head?.getD .undefined
  | "last", [] => (itemsOf value).map fun items => items.getLast?.getD .undefined
  | "list", [] => (itemsOf value).map .list
  | "reverse", [] =>
    match value with
    | .text s => .ok (.text (String.ofList s.toList.reverse))
    | value => (itemsOf value).map fun items => .list items.reverse
  | "sort", [] => (itemsOf value).map fun items => .list (sortedItems items)
  | "unique", [] => (itemsOf value).map fun items =>
    .list (items.foldl (fun acc item => if acc.any (item.same ·) then acc else acc ++ [item]) [])
  | "min", [] => (itemsOf value).map fun items => (sortedItems items).head?.getD .undefined
  | "max", [] => (itemsOf value).map fun items => (sortedItems items).getLast?.getD .undefined
  | "join", [] => joined value ""
  | "join", [separator] => joined value separator.shown
  | "items", [] =>
    match value with
    | .record entries => .ok (.list (entries.map fun (name, value) => .list [.text name, value]))
    | _ => .error .invalidOperation
  | "dictsort", [] =>
    match value with
    | .record entries => .ok (.list (entries.map fun (name, value) => .list [.text name, value]))
    | _ => .error .invalidOperation
  | "bool", [] => .ok (.bool value.holds)
  | "int", [] => (wholeOf value).map .int
  | "float", [] =>
    match value.number? with
    | some n => .ok (.float n.asReal)
    | none =>
      match Decimal.readFloat value.shown.toList with
      | some x => .ok (.float x)
      | none => .error .invalidOperation
  | "abs", [] =>
    match value.number? with
    | some (.whole n) => .ok (.int n.natAbs)
    | some (.real x) => .ok (.float x.abs)
    | none => .error .invalidOperation
  | "round", [] =>
    match value.number? with
    | some (.whole n) => .ok (.int n)
    | some (.real x) => .ok (.float x.round)
    | none => .error .invalidOperation
  | name, _ =>
    if ["trim", "escape", "e", "safe", "string", "replace", "default", "d", "length", "count", "first",
      "last", "list", "reverse", "sort", "unique", "min", "max", "join", "items", "dictsort", "bool", "int",
      "float", "abs", "round"].contains name then .error .tooManyArguments
    else .error .unknownFilter
where
  /-- The number of items of a value. -/
  lengthOf (value : Value) : Except FaultKind Value :=
    match value.length? with
    | some n => .ok (.int n)
    | none => .error .invalidOperation

/-- Whether a value is a text. -/
def isTextValue : Value → Bool
  | .text _ => true
  | _ => false

/-- The verdict of a test on a value. -/
def applyTest (name : String) (value : Value) (arguments : List Value) : Except FaultKind Bool :=
  match name, arguments with
  | "defined", [] => .ok (match value with | .undefined => false | _ => true)
  | "undefined", [] => .ok (match value with | .undefined => true | _ => false)
  | "none", [] => .ok (match value with | .none => true | _ => false)
  | "true", [] => .ok (match value with | .bool true => true | _ => false)
  | "false", [] => .ok (match value with | .bool false => true | _ => false)
  | "boolean", [] => .ok (match value with | .bool _ => true | _ => false)
  | "number", [] => .ok (match value with | .int _ => true | .float _ => true | _ => false)
  | "integer", [] => .ok (match value with | .int _ => true | _ => false)
  | "float", [] => .ok (match value with | .float _ => true | _ => false)
  | "string", [] => .ok (isTextValue value)
  | "sequence", [] => .ok (match value with | .list _ => true | _ => false)
  | "mapping", [] => .ok (match value with | .record _ => true | _ => false)
  | "iterable", [] => .ok value.items?.isSome
  | "odd", [] => .ok (match value with | .int n => n % 2 == 1 | _ => false)
  | "even", [] => .ok (match value with | .int n => n % 2 == 0 | _ => false)
  | "divisibleby", [.int n] => .ok (match value with | .int m => n != 0 && m % n == 0 | _ => false)
  | "eq", [other] => .ok (value.same other)
  | "equalto", [other] => .ok (value.same other)
  | "ne", [other] => .ok (!value.same other)
  | "lt", [other] => .ok (value.before other)
  | "gt", [other] => .ok (other.before value)
  | "startingwith", [start] => .ok (value.shown.startsWith start.shown)
  | "endingwith", [finish] => .ok (value.shown.endsWith finish.shown)
  | _, _ => .error .unknownTest

/-- The value of a function. -/
def applyFunction (name : String) (arguments : List Value) : Except FaultKind Value :=
  let upTo (first last : Int) : Value :=
    .list ((List.range (last - first).toNat).map fun (i : Nat) => .int (first + i))
  match name, arguments with
  | "range", [.int last] => .ok (upTo 0 last)
  | "range", [.int first, .int last] => .ok (upTo first last)
  | "range", _ => .error .invalidOperation
  | "dict", [] => .ok (.record [])
  | _, _ => .error .unknownFunction

end SiteBuilder.Page
