import Mathlib.Data.List.Infix
import SiteBuilder.Text.Blank

/-!
# First occurrences

A text is cut at the first place where another one stands in it. The place of a cut in two texts joined
together is that in the first text, or else that in the second, as long as no occurrence reaches from one
into the other. Two conditions rule that out for a mark whose first character is not repeated in it.

Replacing every occurrence keeps the pieces between the occurrences.
-/

namespace SiteBuilder.Text

/-- The first position at which `target` stands in a text. -/
def firstAt? (target text : List Char) : Option Nat := text.tails.findIdx? (target.isPrefixOf ·)

/-- What follows a start is what the start is put before. -/
theorem afterStart?_eq_some_iff {start text rest : List Char} :
    afterStart? start text = some rest ↔ text = start ++ rest := by
  induction start generalizing text with
  | nil => simp [afterStart?]
  | cons p start ih =>
    cases text with
    | nil => simp [afterStart?]
    | cons c text =>
      by_cases hc : p = c
      · simp [afterStart?, hc, ih]
      · simp [afterStart?, hc, Ne.symm hc]

/-- Nothing follows a start that a text does not have. -/
theorem afterStart?_eq_none_iff {start text : List Char} : afterStart? start text = none ↔ ¬start <+: text := by
  rw [Option.eq_none_iff_forall_ne_some]
  simp only [ne_eq, afterStart?_eq_some_iff]
  constructor
  · rintro h ⟨rest, hrest⟩
    exact h rest hrest.symm
  · rintro h rest rfl
    exact h (List.prefix_append start rest)

section

variable {target text before after : List Char}

/-- The parts of a cut are those of the text. -/
theorem append_of_cutAt? (h : cutAt? target text = some (before, after)) : text = before ++ (target ++ after) := by
  induction text generalizing before with
  | nil =>
    rw [cutAt?] at h
    split at h
    · next hempty =>
      cases h
      rw [List.isEmpty_iff.mp hempty]
      rfl
    · cases h
  | cons c text ih =>
    rw [cutAt?] at h
    split at h
    · next rest hstart =>
      cases h
      rw [List.nil_append]
      exact afterStart?_eq_some_iff.mp hstart
    · obtain ⟨⟨before', after'⟩, hcut, hparts⟩ := Option.map_eq_some_iff.mp h
      cases hparts
      exact congrArg (List.cons c) (ih hcut)

/-- A text is cut at the first position of the target. -/
theorem firstAt?_eq (hne : target ≠ []) : firstAt? target text = (cutAt? target text).map (·.1.length) := by
  induction text with
  | nil => simp [firstAt?, cutAt?, hne]
  | cons c text ih =>
    rw [firstAt?, List.tails_cons, List.findIdx?_cons, cutAt?]
    cases hstart : afterStart? target (c :: text) with
    | some rest =>
      have hprefix : target.isPrefixOf (c :: text) = true := by
        rw [List.isPrefixOf_iff_prefix, afterStart?_eq_some_iff.mp hstart]
        exact List.prefix_append target rest
      rw [if_pos hprefix]
      rfl
    | none =>
      have hprefix : ¬target.isPrefixOf (c :: text) = true := by
        rw [List.isPrefixOf_iff_prefix]
        exact afterStart?_eq_none_iff.mp hstart
      rw [if_neg hprefix]
      change (firstAt? target text).map (· + 1) = _
      rw [ih, Option.map_map, Option.map_map]
      rfl

/-- A text is not cut exactly if the target does not stand in it. -/
theorem cutAt?_eq_none_iff (hne : target ≠ []) : cutAt? target text = none ↔ ¬target <:+: text := by
  induction text with
  | nil => simp [cutAt?, hne]
  | cons c text ih =>
    rw [cutAt?, List.infix_cons_iff, not_or, ← ih, ← afterStart?_eq_none_iff]
    cases afterStart? target (c :: text) <;> simp

end

/-! ## Two texts in a row -/

/-- No occurrence of `target` begins in `left` and ends in `right`. -/
def Apart (target left right : List Char) : Prop :=
  ∀ inside, inside <:+ left → inside ≠ [] → target <+: inside ++ right → target <+: inside

variable {target left right : List Char}

/-- What begins with the first character of a mark is apart from what stands before it, if the mark does not
repeat that character. -/
theorem apart_of_head {first : Char} {marks : List Char} (hfirst : first ∉ marks) (right : List Char) :
    Apart (first :: marks) left (first :: right) := by
  intro inside _ hinside hprefix
  obtain ⟨rest, hrest⟩ := hprefix
  rcases List.append_eq_append_iff.mp hrest with ⟨tail, hwhole, -⟩ | ⟨tail, hmark, htail⟩
  · exact ⟨tail, hwhole.symm⟩
  · cases tail with
    | nil => exact ⟨[], by rw [hmark, List.append_nil, List.append_nil]⟩
    | cons c tail =>
      obtain ⟨rfl, -⟩ := List.cons.inj htail
      cases inside with
      | nil => exact absurd rfl hinside
      | cons c' inside =>
        obtain ⟨-, rfl⟩ := List.cons.inj hmark
        exact absurd (List.mem_append_right inside List.mem_cons_self) hfirst

/-- What ends with a character that a mark does not have is apart from what follows it. -/
theorem apart_of_last {last : Char} (hlast : last ∉ target) (left right : List Char) :
    Apart target (left ++ [last]) right := by
  intro inside hsuffix hinside hprefix
  have hmem : last ∈ inside := by
    obtain ⟨front, hfront⟩ := hsuffix
    have hend := congrArg List.getLast? hfront
    rw [List.getLast?_append_of_ne_nil _ hinside, List.getLast?_concat] at hend
    exact List.mem_of_getLast? hend
  obtain ⟨rest, hrest⟩ := hprefix
  rcases List.append_eq_append_iff.mp hrest with ⟨tail, hwhole, -⟩ | ⟨tail, hmark, -⟩
  · exact ⟨tail, hwhole.symm⟩
  · exact absurd (hmark ▸ List.mem_append_left tail hmem) hlast

/-- Two texts that are apart are cut in the first, or else in the second. -/
theorem cutAt?_append (hne : target ≠ []) (h : Apart target left right) :
    cutAt? target (left ++ right) =
      ((cutAt? target left).map fun (before, after) => (before, after ++ right)).or
        ((cutAt? target right).map fun (before, after) => (left ++ before, after)) := by
  induction left with
  | nil => simp [cutAt?, hne]
  | cons c left ih =>
    have hleft : Apart target left right :=
      fun inside hsuffix => h inside (hsuffix.trans (List.suffix_cons c left))
    rw [List.cons_append, cutAt?, cutAt?, ih hleft]
    cases hstart : afterStart? target (c :: left) with
    | some rest =>
      have hjoined : afterStart? target (c :: (left ++ right)) = some (rest ++ right) := by
        rw [afterStart?_eq_some_iff, ← List.append_assoc, ← afterStart?_eq_some_iff.mp hstart]
        rfl
      rw [hjoined]
      rfl
    | none =>
      have hjoined : afterStart? target (c :: (left ++ right)) = none := by
        rw [afterStart?_eq_none_iff] at hstart ⊢
        exact fun hprefix => hstart (h (c :: left) List.suffix_rfl (List.cons_ne_nil c left) hprefix)
      rw [hjoined]
      cases cutAt? target left with
      | some cut => rfl
      | none => cases cutAt? target right <;> rfl

/-! ## Every occurrence -/

/-- Characters that are passed over are dropped. -/
theorem replaceFrom_skip (target replacement : List Char) (skip : Nat) (text : List Char) :
    replaceFrom target replacement skip text = replaceFrom target replacement 0 (text.drop skip) := by
  induction skip generalizing text with
  | zero => rfl
  | succ skip ih =>
    cases text with
    | nil => rfl
    | cons c text => exact ih text

/-- A character that is replaced wherever it stands. -/
theorem replaceFrom_singleton (target replacement : Char) (text : List Char) :
    replaceFrom [target] [replacement] 0 text = text.map fun c => if target = c then replacement else c := by
  induction text with
  | nil => rfl
  | cons c rest ih =>
    rw [replaceFrom, List.map_cons, ← ih]
    by_cases h : target = c <;> simp [h, afterStart?]

/-- What precedes the first piece precedes the whole. -/
theorem intercalate_append_cons (separator start piece : List Char) (pieces : List (List Char)) :
    separator.intercalate ((start ++ piece) :: pieces) = start ++ separator.intercalate (piece :: pieces) := by
  cases pieces <;> simp [List.intercalate]

/-- A text is the pieces between the occurrences of a target, none of which contains the target, and replacing the
target puts something else between them. -/
theorem exists_pieces (hne : target ≠ []) (text : List Char) :
    ∃ first others, (∀ piece ∈ first :: others, ¬target <:+: piece) ∧
      text = target.intercalate (first :: others) ∧
        ∀ replacement, replaceFrom target replacement 0 text = replacement.intercalate (first :: others) := by
  induction hlength : text.length using Nat.strong_induction_on generalizing text with
  | _ length ih =>
    subst hlength
    cases text with
    | nil => exact ⟨[], [], by simp [hne], rfl, fun _ => rfl⟩
    | cons c rest =>
      cases hstart : afterStart? target (c :: rest) with
      | some after =>
        have happend := afterStart?_eq_some_iff.mp hstart
        obtain ⟨n, hn⟩ := Nat.exists_eq_add_one.mpr (List.length_pos_iff.mpr hne)
        have hafter : rest.drop (target.length - 1) = after := by
          have hdrop := congrArg (List.drop target.length) happend
          rwa [List.drop_left, hn, List.drop_succ_cons, ← Nat.add_sub_cancel n 1, ← hn] at hdrop
        have hshorter : after.length < (c :: rest).length := by
          rw [happend, List.length_append]
          omega
        obtain ⟨first, others, habsent, hwhole, hreplaced⟩ := ih after.length hshorter after rfl
        refine ⟨[], first :: others, ?_, ?_, fun replacement => ?_⟩
        · rintro piece (_ | ⟨_, hpiece⟩)
          · rwa [List.infix_nil]
          · exact habsent piece hpiece
        · rw [happend, hwhole]
          rfl
        · rw [replaceFrom, hstart, Option.isSome_some, if_pos rfl, replaceFrom_skip, hafter, hreplaced]
          rfl
      | none =>
        obtain ⟨first, others, habsent, hwhole, hreplaced⟩ := ih rest.length (Nat.lt_succ_self _) rest rfl
        have hjoined (separator : List Char) :
            separator.intercalate ((c :: first) :: others) = c :: separator.intercalate (first :: others) :=
          intercalate_append_cons separator [c] first others
        refine ⟨c :: first, others, ?_, ?_, fun replacement => ?_⟩
        · rintro piece (_ | ⟨_, hpiece⟩)
          · rw [List.infix_cons_iff, not_or]
            refine ⟨fun hprefix => afterStart?_eq_none_iff.mp hstart ?_, habsent first List.mem_cons_self⟩
            have hfirst := intercalate_append_cons target first [] others
            rw [List.append_nil, ← hwhole] at hfirst
            rw [hfirst]
            exact hprefix.trans (List.prefix_append (c :: first) _)
          · exact habsent piece (List.mem_cons_of_mem _ hpiece)
        · rw [hjoined, ← hwhole]
        · rw [replaceFrom, hstart, Option.isSome_none, if_neg Bool.false_ne_true, hreplaced, hjoined]

end SiteBuilder.Text
