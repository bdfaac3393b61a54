import SiteBuilder.Page.Filter
import SiteBuilder.Page.Statement

/-!
# Filling in templates

A template is filled in with a context: a record of values by their names. Names that the template
sets itself come first, then those of the context, then global ones. A value that nothing defines may
be named and tested for; printing it, going through it or looking into it is a fault.

Evaluation follows the structure of expressions and statements, so it always ends.
-/

namespace SiteBuilder.Page

/-- The values that names have. -/
structure Scope where
  /-- Names set by the template, innermost first. -/
  frames : List (List (String × Value))
  /-- The context, and after it the global names. -/
  context : List (String × Value)

namespace Scope

/-- The value of a name. -/
def value (scope : Scope) (name : String) : Value :=
  match scope.frames.findSome? (·.lookup name) with
  | some value => value
  | none => (scope.context.lookup name).getD .undefined

/-- Set a name in the innermost frame. -/
def set (scope : Scope) (name : String) (value : Value) : Scope :=
  match scope.frames with
  | [] => { scope with frames := [[(name, value)]] }
  | frame :: frames => { scope with frames := ((name, value) :: frame) :: frames }

/-- Open a frame. -/
def push (scope : Scope) : Scope := { scope with frames := [] :: scope.frames }

/-- Close the innermost frame. -/
def pop (scope : Scope) : Scope := { scope with frames := scope.frames.drop 1 }

/-- Give names to a value: one name stands for all of it, more stand for its items. -/
def assign (scope : Scope) (names : List String) (value : Value) : Except FaultKind Scope :=
  match names with
  | [name] => .ok (scope.set name value)
  | names =>
    match value.items? with
    | some items =>
      if items.length = names.length then
        .ok ((names.zip items).foldl (fun scope entry => scope.set entry.1 entry.2) scope)
      else .error .cannotUnpack
    | none => .error .cannotUnpack

end Scope

/-- A result, or a fault on a line. -/
def onLine {α : Type} (line : Nat) (result : Except FaultKind α) : Except Fault α :=
  result.mapError (⟨·, line⟩)

/-- A value that something defines. -/
def defined (line : Nat) (value : Value) : Except Fault Value :=
  match value with
  | .undefined => .error ⟨.undefinedValue, line⟩
  | value => .ok value

/-- An operation on two numbers, on whole ones if both are. -/
def arithmetic (whole : Int → Int → Except FaultKind Value) (real : Float → Float → Float) (a b : Value) :
    Except FaultKind Value :=
  match a.number?, b.number? with
  | some (.whole m), some (.whole n) => whole m n
  | some m, some n => .ok (.float (real m.asReal n.asReal))
  | _, _ => .error .invalidOperation

/-- The remainder of a division that goes toward zero. -/
def floatRemainder (a b : Float) : Float := a - b * (if a / b < 0 then (a / b).ceil else (a / b).floor)

/-- Whether an item is in a value: a piece of a text, an item of a list or a name of a record. -/
def contains (container item : Value) : Except FaultKind Bool :=
  match container with
  | .text s =>
    match item with
    | .text piece => .ok (Text.cutAt? piece.toList s.toList).isSome
    | item => .ok (Text.cutAt? item.shown.toList s.toList).isSome
  | .list items => .ok (items.any (·.same item))
  | .record entries =>
    match item with
    | .text name => .ok (entries.lookup name).isSome
    | _ => .ok false
  | _ => .error .invalidOperation

/-- The value of an operator on two values. -/
def applyBinary (op : BinaryOp) (a b : Value) : Except FaultKind Value :=
  match op with
  | .add =>
    match a, b with
    | .text s, .text t => .ok (.text (s ++ t))
    | .list s, .list t => .ok (.list (s ++ t))
    | a, b => arithmetic (fun m n => .ok (.int (m + n))) (· + ·) a b
  | .subtract => arithmetic (fun m n => .ok (.int (m - n))) (· - ·) a b
  | .multiply => arithmetic (fun m n => .ok (.int (m * n))) (· * ·) a b
  | .divide => arithmetic (fun m n => .ok (.float (Value.toReal m / Value.toReal n))) (· / ·) a b
  | .floorDivide =>
    arithmetic (fun m n => if n = 0 then .error .invalidOperation else .ok (.int (m / n)))
      (fun x y => (x / y).floor) a b
  | .remainder =>
    arithmetic (fun m n => if n = 0 then .error .invalidOperation else .ok (.int (m % n))) floatRemainder a b
  | .power =>
    arithmetic (fun m n =>
      if n < 0 ∨ 1024 < n then .error .invalidOperation else .ok (.int (Int.pow m n.toNat))) Float.pow a b
  | .join => .ok (.text (a.shown ++ b.shown))
  | .equal => .ok (.bool (a.same b))
  | .unequal => .ok (.bool (!a.same b))
  | .less => .ok (.bool (a.before b))
  | .lessEqual => .ok (.bool (a.before b || a.same b))
  | .greater => .ok (.bool (b.before a))
  | .greaterEqual => .ok (.bool (b.before a || a.same b))
  | .contained =>
    match b with
    | .undefined => .error .undefinedValue
    | b => (contains b a).map .bool
  | .notContained =>
    match b with
    | .undefined => .error .undefinedValue
    | b => (contains b a).map fun found => .bool (!found)

mutual

/-- The value of an expression. -/
def Expr.value (scope : Scope) : Expr → Except Fault Value
  | .literal value => .ok value
  | .variable name => .ok (scope.value name)
  | .entry line base name => do return (← defined line (← base.value scope)).entry name
  | .item line base index => do
    let base ← base.value scope
    let index ← index.value scope
    return (← defined line base).item index
  | .filter line base name arguments => do
    let base ← base.value scope
    onLine line (applyFilter name base (← Expr.values scope arguments))
  | .test line base name arguments negated => do
    let base ← base.value scope
    let verdict ← onLine line (applyTest name base (← Expr.values scope arguments))
    return .bool (verdict != negated)
  | .call line name arguments => do
    let arguments ← Expr.values scope arguments
    onLine line (applyFunction name arguments)
  | .method line base _ arguments => do
    let _ ← defined line (← base.value scope)
    let _ ← Expr.values scope arguments
    .error ⟨.unknownMethod, line⟩
  | .negate line operand => do
    match (← operand.value scope).number? with
    | some (.whole n) => .ok (.int (-n))
    | some (.real x) => .ok (.float (-x))
    | none => .error ⟨.invalidOperation, line⟩
  | .not line operand => do return .bool !(← defined line (← operand.value scope)).holds
  | .both line left right => do
    let left ← left.value scope
    if (← defined line left).holds then right.value scope else .ok left
  | .either line left right => do
    let left ← left.value scope
    if (← defined line left).holds then .ok left else right.value scope
  | .choose line condition whenTrue whenFalse => do
    if (← defined line (← condition.value scope)).holds then whenTrue.value scope else whenFalse.value scope
  | .binary line op left right => do
    let left ← left.value scope
    let right ← right.value scope
    onLine line (applyBinary op left right)
  | .list items => do return .list (← Expr.values scope items)
  | .record line entries => do
    let entries ← Expr.entries scope line entries
    return .record (NameMap.ofList entries).entries

/-- The values of expressions. -/
def Expr.values (scope : Scope) : List Expr → Except Fault (List Value)
  | [] => .ok []
  | expr :: exprs => do
    let value ← expr.value scope
    return value :: (← Expr.values scope exprs)

/-- The entries that pairs of expressions make up; a name has to be a text. -/
def Expr.entries (scope : Scope) (line : Nat) : List (Expr × Expr) → Except Fault (List (String × Value))
  | [] => .ok []
  | (key, value) :: entries => do
    match ← key.value scope with
    | .text name =>
      let value ← value.value scope
      return (name, value) :: (← Expr.entries scope line entries)
    | _ => .error ⟨.invalidOperation, line⟩

end

/-- The record that a loop keeps about the place it is at. -/
def loopRecord (items : List Value) (index : Nat) (depth : Nat) : Value :=
  .record [("depth", .int depth), ("depth0", .int (depth - 1 : Nat)), ("first", .bool (index == 0)),
    ("index", .int (index + 1 : Nat)), ("index0", .int index), ("last", .bool (index + 1 == items.length)),
    ("length", .int items.length), ("nextitem", (items[index + 1]?).getD .undefined),
    ("previtem", (if index = 0 then none else items[index - 1]?).getD .undefined),
    ("revindex", .int (items.length - index : Nat)), ("revindex0", .int (items.length - index - 1 : Nat))]

/-- The bindings of a scope, each seeing the ones before it. -/
def Scope.bind (line : Nat) (scope : Scope) : List (List String × Expr) → Except Fault Scope
  | [] => .ok scope
  | (names, value) :: bindings => do
    let value ← value.value scope
    let scope ← onLine line (scope.assign names value)
    scope.bind line bindings

/-- The items that satisfy the filter of a loop. -/
def filteredItems (line : Nat) (scope : Scope) (names : List String) (filter : Option Expr) (items : List Value) :
    Except Fault (List Value) :=
  match filter with
  | none => .ok items
  | some filter => items.filterM fun item => do
    let scope ← onLine line (scope.push.assign names item)
    return (← defined line (← filter.value scope)).holds

mutual

/-- What a statement prints, and the names after it. `depth` is the number of loops around it. -/
def Statement.run (depth : Nat) (scope : Scope) : Statement → Except Fault (List Char × Scope)
  | .text s => .ok (s, scope)
  | .print line value => do
    let value ← defined line (← value.value scope)
    return (value.shown.toList, scope)
  | .branch line condition whenTrue whenFalse => do
    if (← defined line (← condition.value scope)).holds then runAll depth scope whenTrue
    else runAll depth scope whenFalse
  | .loop line names source filter body whenNone => do
    let source ← defined line (← source.value scope)
    let items ← onLine line (itemsOf source)
    let items ← filteredItems line scope names filter items
    if items.isEmpty then runAll depth scope whenNone
    else
      let (printed, inner) ← items.zipIdx.foldlM (fun (printed, inner) (item, index) => do
        let inner := inner.set "loop" (loopRecord items index (depth + 1))
        let inner ← onLine line (inner.assign names item)
        let (more, inner) ← runAll (depth + 1) inner body
        return (printed ++ more, inner)) (([], scope.push) : List Char × Scope)
      return (printed, inner.pop)
  | .assign line names value => do
    let value ← value.value scope
    return ([], ← onLine line (scope.assign names value))
  | .capture name body => do
    let (printed, inner) ← runAll depth scope.push body
    return ([], inner.pop.set name (.text (String.ofList printed)))
  | .scope line bindings body => do
    let inner ← scope.push.bind line bindings
    let (printed, inner) ← runAll depth inner body
    return (printed, inner.pop)

/-- What statements print one after the other, and the names after them. -/
def runAll (depth : Nat) (scope : Scope) : List Statement → Except Fault (List Char × Scope)
  | [] => .ok ([], scope)
  | statement :: statements => do
    let (printed, scope) ← statement.run depth scope
    let (more, scope) ← runAll depth scope statements
    return (printed ++ more, scope)

end

/-- Why a template could not be filled in: what is wrong, and the text of the line it was met on. A
template that cannot be read has no such line. -/
structure RenderFault where
  kind : FaultKind
  lineText : Option String
  deriving DecidableEq

/-- The text of a line of a template. -/
def lineText (template : String) (line : Nat) : String :=
  let cs := ((Text.splitBy (· == '\n') template.toList)[line - 1]?).getD []
  String.ofList (if cs.getLast? = some '\r' then cs.dropLast else cs)

/-- Fill in a template with the values of a context and of global names. -/
def render (template : String) (context globals : List (String × Value)) : Except RenderFault String :=
  match Statement.read template with
  | .error kind => .error ⟨kind, none⟩
  | .ok statements =>
    match runAll 0 ⟨[], context ++ globals⟩ statements with
    | .ok (printed, _) => .ok (String.ofList printed)
    | .error fault => .error ⟨fault.kind, some (lineText template fault.line)⟩

end SiteBuilder.Page
