import SiteBuilder.Datum.Plain
import SiteBuilder.NameMap

/-!
# Reading values as what is expected

A document is given its types from the top: each reader asks a value for a text, a number, a list
or the fields of a record, and fails where the value is none. Fields that nobody asks for are passed
over, whatever they hold.
-/

namespace SiteBuilder.Datum

/-- A text; a plain scalar is its own text. -/
def text? : Datum → Option String
  | .text s => some s
  | .plain s => some s
  | .tagged _ value => value.text?
  | _ => none

/-- A truth value. -/
def bool? : Datum → Option Bool
  | .bool b => some b
  | .plain s => Plain.bool? s
  | .tagged _ value => value.bool?
  | _ => none

/-- A number. -/
def float? : Datum → Option Float
  | .float x => some x
  | .int n =>
    let size := Decimal.nearestFloat n.natAbs 0
    some (if n < 0 then -size else size)
  | .plain s => Plain.float? s
  | .tagged _ value => value.float?
  | _ => none

/-- A whole number of 64 bits without a sign. -/
def size? : Datum → Option Nat
  | .int n => if 0 ≤ n ∧ n < (Nat.pow 2 64 : Int) then some n.toNat else none
  | .plain s =>
    if s.toList.head? = some '-' then none
    else (Plain.int? s).bind fun n => if n < (Nat.pow 2 64 : Int) then some n.toNat else none
  | .tagged _ value => value.size?
  | _ => none

/-- A value that may be absent. -/
def optional? {α : Type} (f : Datum → Option α) : Datum → Option (Option α)
  | .null => some none
  | .plain s => if s = "" ∨ Plain.isNull s then some none else (f (.plain s)).map some
  | .tagged tag (.plain s) =>
    if tag = .null then if Plain.isNull s then some none else none
    else if s = "" then some none
    else (f (.tagged tag (.plain s))).map some
  | value => (f value).map some

/-- A list; an empty plain scalar is an empty one. -/
def items? {α : Type} (f : Datum → Option α) : Datum → Option (List α)
  | .list items => items.mapM f
  | .sequence items => items.mapM f
  | .plain s => if s = "" then some [] else none
  | .tagged _ value => value.items? f
  | _ => none

/-- The fields of a record that are declared. Each may be given once. A list gives them in the order
of their declaration, and an empty plain scalar gives none. -/
def fields? (declared : List String) : Datum → Option (NameMap Datum)
  | .record entries =>
    let known := entries.filter fun entry => declared.contains entry.1
    if (known.map (·.1)).Nodup then some (NameMap.ofList known) else none
  | .list items => if items.length ≤ declared.length then some (NameMap.ofList (declared.zip items)) else none
  | .plain s => if s = "" then some NameMap.empty else none
  | .tagged _ value => value.fields? declared
  | _ => none

/-- A field that must be given. -/
def required? {α : Type} (fields : NameMap Datum) (name : String) (f : Datum → Option α) : Option α :=
  (fields.get? name).bind f

/-- A field that may be left out or hold no value. -/
def absent? {α : Type} (fields : NameMap Datum) (name : String) (f : Datum → Option α) :
    Option (Option α) :=
  match fields.get? name with
  | none => some none
  | some value => value.optional? f

/-- A field that may be left out. -/
def defaulted? {α : Type} (fields : NameMap Datum) (name : String) (default : α)
    (f : Datum → Option α) : Option α :=
  match fields.get? name with
  | none => some default
  | some value => f value

/-- The value of a plain or tagged one where any value may stand; other values stay. -/
def resolved : Datum → Datum
  | .plain s => Plain.value s
  | .tagged (.named _) _ => .unreadable
  | .tagged tag (.plain s) => Plain.taggedValue s tag
  | .tagged tag (.text s) => Plain.taggedValue s tag
  | .tagged _ value => value
  | value => value

/-- Whether there is a value at all. -/
def hasValue : Datum → Bool
  | .unreadable => false
  | _ => true

mutual

/-- Whether the value and all values in it can be read. -/
def isReadable : Datum → Bool
  | .unreadable => false
  | .plain s => (Plain.value s).hasValue
  | .tagged (.named _) _ => false
  | .tagged tag (.plain s) => (Plain.taggedValue s tag).hasValue
  | .tagged tag (.text s) => (Plain.taggedValue s tag).hasValue
  | .tagged _ value => value.isReadable
  | .list items => areReadable items
  | .sequence items => areReadable items
  | .record entries => entriesAreReadable entries
  | _ => true

/-- Whether all values of a list can be read. -/
def areReadable : List Datum → Bool
  | [] => true
  | item :: items => item.isReadable && areReadable items

/-- Whether all values of a record can be read. -/
def entriesAreReadable : List (String × Datum) → Bool
  | [] => true
  | (_, value) :: entries => value.isReadable && entriesAreReadable entries

end

end SiteBuilder.Datum
