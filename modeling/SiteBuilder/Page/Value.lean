import SiteBuilder.Datum.Basic
import SiteBuilder.Decimal.Layout
import SiteBuilder.Json.Printer
import SiteBuilder.NameMap
import SiteBuilder.Text.Quoted

/-!
# Template values

What the expressions of a page template stand for. A name that nothing defines has the value
`undefined`, which can be tested for but not printed.
-/

namespace SiteBuilder.Page

/-- A value of a template expression. -/
inductive Value where
  /-- Nothing defines it. -/
  | undefined
  /-- There is no value. -/
  | none
  | bool (b : Bool)
  | int (n : Int)
  | float (x : Float)
  | text (s : String)
  | list (items : List Value)
  | record (entries : List (String × Value))
  deriving Inhabited

namespace Value

mutual

/-- The template value of a document value. Entries are listed by their names. -/
def ofDatum : Datum → Value
  | .null => .none
  | .bool b => .bool b
  | .int n => .int n
  | .float x => .float x
  | .text s => .text s
  | .plain s => .text s
  | .list items => .list (ofItems items)
  | .sequence items => .list (ofItems items)
  | .record entries => .record (NameMap.ofList (ofEntries entries)).entries
  | .tagged _ value => ofDatum value
  | .unreadable => .undefined

/-- The template values of a list. -/
def ofItems : List Datum → List Value
  | [] => []
  | item :: items => ofDatum item :: ofItems items

/-- The template values of a record. -/
def ofEntries : List (String × Datum) → List (String × Value)
  | [] => []
  | (name, value) :: entries => (name, ofDatum value) :: ofEntries entries

end

mutual

/-- The text of a value inside a list or a record. -/
def nestedText : Value → String
  | .undefined => "undefined"
  | .none => "none"
  | .bool b => if b then "true" else "false"
  | .int n => Json.intText n
  | .float x => Decimal.Layout.nested.text x
  | .text s => Text.quoted s
  | .list items => "[" ++ ", ".intercalate (nestedItems items) ++ "]"
  | .record entries => "\x7b" ++ ", ".intercalate (nestedEntries entries) ++ "\x7d"

/-- The texts of the items of a list. -/
def nestedItems : List Value → List String
  | [] => []
  | item :: items => nestedText item :: nestedItems items

/-- The texts of the entries of a record. -/
def nestedEntries : List (String × Value) → List String
  | [] => []
  | (name, value) :: entries => (Text.quoted name ++ ": " ++ nestedText value) :: nestedEntries entries

end

/-- The text a value is printed as. -/
def shown : Value → String
  | .undefined => ""
  | .float x => Decimal.Layout.printed.text x
  | .text s => s
  | value => value.nestedText

/-- Whether a condition on a value holds. -/
def holds : Value → Bool
  | .undefined => false
  | .none => false
  | .bool b => b
  | .int n => n != 0
  | .float x => x != 0.0
  | .text s => s != ""
  | .list items => !items.isEmpty
  | .record entries => !entries.isEmpty

/-- The number a value stands for in arithmetic, whole or not. -/
inductive Number where
  | whole (n : Int)
  | real (x : Float)

/-- The float nearest to a whole number. -/
def toReal (n : Int) : Float :=
  let size := (Float.ofNat n.natAbs)
  if n < 0 then -size else size

/-- The number of a value; truth values count as zero and one. -/
def number? : Value → Option Number
  | .bool b => some (.whole (if b then 1 else 0))
  | .int n => some (.whole n)
  | .float x => some (.real x)
  | _ => Option.none

/-- The float of a number. -/
def Number.asReal : Number → Float
  | .whole n => toReal n
  | .real x => x

mutual

/-- Whether two values are equal. Whole and other numbers are compared by what they stand for. -/
def same : Value → Value → Bool
  | .undefined, .undefined => true
  | .none, .none => true
  | .text a, .text b => a == b
  | .list a, .list b => sameItems a b
  | .record a, .record b => sameEntries a b
  | a, b =>
    match a.number?, b.number? with
    | some (.whole m), some (.whole n) => m == n
    | some m, some n => m.asReal == n.asReal
    | _, _ => false

/-- Whether two lists have equal items. -/
def sameItems : List Value → List Value → Bool
  | [], [] => true
  | a :: as, b :: bs => same a b && sameItems as bs
  | _, _ => false

/-- Whether two records have equal entries. -/
def sameEntries : List (String × Value) → List (String × Value) → Bool
  | [], [] => true
  | (m, a) :: as, (n, b) :: bs => m == n && same a b && sameEntries as bs
  | _, _ => false

end

/-- The place of a value among values of other kinds. -/
def rank : Value → Nat
  | .undefined => 0
  | .none => 1
  | .bool _ => 2
  | .int _ => 3
  | .float _ => 3
  | .text _ => 4
  | .list _ => 5
  | .record _ => 6

/-- Whether a value comes before another one. -/
def before (a b : Value) : Bool :=
  match a, b with
  | .text a, .text b => a < b
  | a, b =>
    match a.number?, b.number? with
    | some (.whole m), some (.whole n) => m < n
    | some m, some n => m.asReal < n.asReal
    | _, _ => a.rank < b.rank

/-- The values that a loop over a value goes through, if it can be gone through. -/
def items? : Value → Option (List Value)
  | .list items => some items
  | .record entries => some (entries.map fun entry => .text entry.1)
  | .text s => some (s.toList.map fun c => .text (String.singleton c))
  | .none => some []
  | .undefined => some []
  | _ => Option.none

/-- The number of items of a value, if it has any. -/
def length? : Value → Option Nat
  | .list items => some items.length
  | .record entries => some entries.length
  | .text s => some s.length
  | _ => Option.none

/-- The entry of a record with a name. -/
def entry (value : Value) (name : String) : Value :=
  match value with
  | .record entries => (entries.lookup name).getD .undefined
  | _ => .undefined

/-- The item at a place; a negative place counts from the end. -/
def itemAt {α : Type} (items : List α) (place : Int) : Option α :=
  if 0 ≤ place then items[place.toNat]?
  else if place.natAbs ≤ items.length then items[items.length - place.natAbs]?
  else Option.none

/-- The item of a list at a place, or the entry of a record with a name. -/
def item (value index : Value) : Value :=
  match value, index with
  | .record _, .text name => value.entry name
  | .list items, .int place => (itemAt items place).getD .undefined
  | .text s, .int place => ((itemAt s.toList place).map fun c => .text (String.singleton c)).getD .undefined
  | _, _ => .undefined

end Value

end SiteBuilder.Page
