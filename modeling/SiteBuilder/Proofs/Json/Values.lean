import SiteBuilder.Json.Reader
import SiteBuilder.Proofs.Decimal.Finite
import SiteBuilder.Proofs.Json.Number

/-!
# What JSON texts hold

A JSON text holds no plain and no tagged values, its whole numbers have at most 64 bits, and its other numbers are
finite: a number that would be above all floats is unreadable. So a value that a document gives is never infinite and
never no number, however many digits it was written with.
-/

namespace SiteBuilder

open Decimal

/-- The value is one that a JSON text can hold. -/
inductive Datum.IsJson : Datum → Prop
  | null : Datum.null.IsJson
  | bool (b : Bool) : (Datum.bool b).IsJson
  | int {n : Int} (h : n.natAbs < 2 ^ 64) : (Datum.int n).IsJson
  | float {x : Float} (h : x.isFinite = true) : (Datum.float x).IsJson
  | text (s : String) : (Datum.text s).IsJson
  | list {items : List Datum} (h : ∀ item ∈ items, item.IsJson) : (Datum.list items).IsJson
  | record {entries : List (String × Datum)} (h : ∀ entry ∈ entries, entry.2.IsJson) : (Datum.record entries).IsJson
  | unreadable : Datum.unreadable.IsJson

namespace Json

/-! ## Numbers -/

/-- Digits are added to a number only while it fits 64 bits. -/
theorem accumulate_lt {n : Nat} (hn : n < 2 ^ 64) (cs : List Char) : (accumulate n cs).1 < 2 ^ 64 := by
  induction cs generalizing n with
  | nil => exact hn
  | cons c cs ih =>
    rw [accumulate]
    split
    · next hfits => exact ih hfits
    · exact hn

/-- A finite float is scaled to a finite float, or refused. -/
theorem isFinite_scaleFloat {steps : Nat} {x y : Float} {exponent : Int} (hx : x.isFinite = true)
    (h : scaleFloat steps x exponent = some y) : y.isFinite = true := by
  induction steps generalizing x exponent with
  | zero =>
    cases h
    exact hx
  | succ steps ih =>
    rw [scaleFloat] at h
    split at h
    · next hsteps =>
      dsimp only at h
      split at h
      · split at h
        · cases h
        · next hinf =>
          cases h
          exact isFinite_mul hx (isFinite_nearestFloat_power hsteps) (Bool.eq_false_iff.mpr hinf)
      · next hnegative =>
        cases h
        exact isFinite_div hx (atLeastTwo_nearestFloat_power (by omega) hsteps)
    · split at h
      · cases h
        exact hx
      · split at h
        · cases h
        · generalize hpower : nearestFloat 1 308 = power at h
          have hlarge : AtLeastTwo power.toModel.unpack := by
            rw [← hpower]
            decide +kernel
          exact ih (isFinite_div hx hlarge) h

/-- The parts of a number give a finite float, or nothing that can be read. -/
theorem isJson_numberValue (negative : Bool) (whole fraction : List Char) (exponent : Int) :
    (numberValue negative whole fraction exponent).IsJson := by
  have hwhole : (accumulate 0 whole).1 < 2 ^ 64 := accumulate_lt (by decide) whole
  have hsignificand := accumulate_lt hwhole fraction
  unfold numberValue
  dsimp only
  split
  · next x hscaled =>
    have hx : x.isFinite = true := isFinite_scaleFloat (isFinite_nearestFloat hsignificand) hscaled
    cases negative with
    | false => exact .float hx
    | true => exact .float (isFinite_neg hx)
  · exact .unreadable

/-- A whole number has 64 bits, or it is a float. -/
theorem isJson_wholeValue (negative : Bool) (whole : List Char) : (wholeValue negative whole).IsJson := by
  have hbits : Nat.pow 2 63 < 2 ^ 64 := by decide
  unfold wholeValue
  dsimp only
  split
  · split
    · next hfits => exact .int (by rw [Int.natAbs_neg, Int.natAbs_natCast]; omega)
    · exact isJson_numberValue ..
  · split
    · next hfits => exact .int (by rwa [Int.natAbs_natCast])
    · exact isJson_numberValue ..

/-- The parts of a number are put together to a value that JSON can hold. -/
theorem isJson_ofNumberParts {negative : Bool} {whole rest rest' : List Char} {fraction : Option (List Char)}
    {exponent : Option (Bool × List Char)} {value : Datum}
    (h : ofNumberParts negative whole fraction exponent rest = some (value, rest')) : value.IsJson := by
  unfold ofNumberParts at h
  split at h
  · cases h
  · split at h
    · cases h
    · cases h
      exact isJson_numberValue ..
    · split at h <;> cases h
      · exact isJson_numberValue ..
      · exact isJson_wholeValue ..

/-- A number that is read is one that JSON can hold. -/
theorem isJson_readNumber {cs rest : List Char} {value : Datum} (h : readNumber cs = some (value, rest)) :
    value.IsJson := by
  rw [readNumber_eq] at h
  dsimp only at h
  split at h
  · cases h
  · exact isJson_ofNumberParts h

/-! ## Values -/

/-- A list or a record that is nested too deeply is unreadable. -/
theorem isJson_atDepth {value : Datum} (h : value.IsJson) (depth : Nat) :
    (if depth < maxDepth then value else .unreadable).IsJson := by
  split
  · exact h
  · exact .unreadable

/-- With the fuel, what is read of a text is a value, a list of values or the entries of a record that JSON can
hold. -/
structure ReadsJson (fuel : Nat) : Prop where
  value {depth : Nat} {cs rest : List Char} {found : Datum} :
    readValue fuel depth cs = some (found, rest) → found.IsJson
  items {depth : Nat} {cs rest : List Char} {found : List Datum} :
    readItems fuel depth cs = some (found, rest) → ∀ item ∈ found, item.IsJson
  entries {depth : Nat} {cs rest : List Char} {found : List (String × Datum)} :
    readEntries fuel depth cs = some (some found, rest) → ∀ entry ∈ found, entry.2.IsJson

namespace ReadsJson

variable {fuel depth : Nat} {cs rest : List Char}

/-- A value is one that JSON can hold if its parts are. -/
theorem value_succ (h : ReadsJson fuel) {found : Datum} (hread : readValue (fuel + 1) depth cs = some (found, rest)) :
    found.IsJson := by
  rw [readValue] at hread
  split at hread
  case h_1 =>
    split at hread
    · cases hread
      exact isJson_atDepth (.record (List.forall_mem_nil _)) depth
    · obtain ⟨⟨entries, rest⟩, hentries, heq⟩ := Option.map_eq_some_iff.mp hread
      cases heq
      cases entries with
      | none => exact .unreadable
      | some entries => exact isJson_atDepth (.record (h.entries hentries)) depth
  case h_2 =>
    split at hread
    · cases hread
      exact isJson_atDepth (.list (List.forall_mem_nil _)) depth
    · obtain ⟨⟨items, rest⟩, hitems, heq⟩ := Option.map_eq_some_iff.mp hread
      cases heq
      exact isJson_atDepth (.list (h.items hitems)) depth
  case h_3 =>
    obtain ⟨⟨s, rest⟩, -, heq⟩ := Option.map_eq_some_iff.mp hread
    cases heq
    cases s with
    | none => exact .unreadable
    | some s => exact .text s
  case h_4 | h_5 =>
    cases hread
    exact .bool _
  case h_6 =>
    cases hread
    exact .null
  case h_7 => exact isJson_readNumber hread

/-- The items of a list are values that JSON can hold. -/
theorem items_succ (h : ReadsJson fuel) {found : List Datum}
    (hread : readItems (fuel + 1) depth cs = some (found, rest)) : ∀ item ∈ found, item.IsJson := by
  rw [readItems] at hread
  split at hread
  · cases hread
  · next item rest hitem =>
    split at hread
    · cases hread
      exact List.forall_mem_singleton.mpr (h.value hitem)
    · obtain ⟨⟨others, rest⟩, hothers, heq⟩ := Option.map_eq_some_iff.mp hread
      cases heq
      exact List.forall_mem_cons.mpr ⟨h.value hitem, h.items hothers⟩
    · cases hread

/-- The entries of a record are values that JSON can hold. -/
theorem entries_succ (h : ReadsJson fuel) {found : List (String × Datum)}
    (hread : readEntries (fuel + 1) depth cs = some (some found, rest)) : ∀ entry ∈ found, entry.2.IsJson := by
  rw [readEntries] at hread
  split at hread
  case h_2 => cases hread
  split at hread
  · cases hread
  · next key rest _ =>
    split at hread
    case h_2 => cases hread
    split at hread
    · cases hread
    · next value rest hvalue =>
      -- An unreadable key leaves the record without entries.
      cases key with
      | none =>
        split at hread
        · cases hread
        · obtain ⟨⟨others, rest⟩, -, heq⟩ := Option.map_eq_some_iff.mp hread
          cases heq
        · cases hread
      | some key =>
        split at hread
        · cases hread
          exact List.forall_mem_singleton.mpr (h.value hvalue)
        · obtain ⟨⟨others, rest⟩, hothers, heq⟩ := Option.map_eq_some_iff.mp hread
          cases others with
          | none => cases heq
          | some others =>
            cases heq
            exact List.forall_mem_cons.mpr ⟨h.value hvalue, h.entries hothers⟩
        · cases hread

end ReadsJson

/-- Whatever the fuel, what is read is what JSON can hold. -/
theorem readsJson (fuel : Nat) : ReadsJson fuel := by
  induction fuel with
  | zero => exact ⟨nofun, nofun, nofun⟩
  | succ fuel ih => exact ⟨ih.value_succ, ih.items_succ, ih.entries_succ⟩

/-- The value of a JSON text is one that JSON can hold. -/
theorem isJson_of_read {text : String} {value : Datum} (h : read text = some value) : value.IsJson := by
  simp only [read] at h
  split at h
  · next found rest hread =>
    split at h
    · cases h
      exact (readsJson _).value hread
    · cases h
  · cases h

end Json

end SiteBuilder
