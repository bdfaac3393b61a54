import Mathlib.Data.List.DropRight
import SiteBuilder.Site.Archive

/-!
# Names of archives

The name of an archive holds neither blanks nor separators of paths and has no hyphen at either end. Sanitizing makes
such a name of every text, and texts that are such names are exactly those that it leaves as they are: so sanitizing
twice is sanitizing once.

Characters that no file can have in its name are not removed. They are the disk's to refuse.
-/

namespace SiteBuilder

namespace Text

variable {p : Char → Bool} {cs : List Char}

/-- A list is trimmed at its front and then at its end. -/
theorem trimBy_eq (p : Char → Bool) (cs : List Char) : trimBy p cs = (cs.dropWhile p).rdropWhile p := rfl

/-- What is left of a list without its ends was in the list. -/
theorem mem_of_mem_trimBy {c : Char} (h : c ∈ trimBy p cs) : c ∈ cs :=
  (List.dropWhile_sublist p).subset ((List.rdropWhile_prefix p _).subset h)

/-- What is left starts with nothing that was to be dropped. -/
theorem head?_trimBy {c : Char} (h : (trimBy p cs).head? = some c) : p c = false := by
  rw [trimBy_eq] at h
  obtain ⟨rest, hrest⟩ := List.head?_eq_some_iff.mp h
  obtain ⟨dropped, hdropped⟩ := List.rdropWhile_prefix p (cs.dropWhile p)
  have hfront := List.head?_dropWhile_not p cs
  rw [← hdropped, hrest, List.cons_append, List.head?_cons] at hfront
  simpa using hfront

/-- What is left ends with nothing that was to be dropped. -/
theorem getLast?_trimBy {c : Char} (h : (trimBy p cs).getLast? = some c) : p c = false := by
  rw [trimBy_eq] at h
  obtain ⟨front, hfront⟩ := List.getLast?_eq_some_iff.mp h
  have hne : (cs.dropWhile p).rdropWhile p ≠ [] := by simp [hfront]
  have hlast := List.rdropWhile_last_not p (cs.dropWhile p) hne
  simpa [hfront] using hlast

/-- A list that has nothing to drop at either end is left as it is. -/
theorem trimBy_eq_self (hhead : ∀ c, cs.head? = some c → p c = false)
    (hlast : ∀ c, cs.getLast? = some c → p c = false) : trimBy p cs = cs := by
  have hfront : cs.dropWhile p = cs := by
    cases cs with
    | nil => rfl
    | cons c rest => exact List.dropWhile_cons_of_neg (by simp [hhead c rfl])
  rw [trimBy_eq, hfront, List.rdropWhile_eq_self_iff]
  intro hne
  simp [hlast _ (List.getLast?_eq_some_getLast hne)]

end Text

namespace Archive

/-- A name that an archive can be offered under. -/
structure IsArchiveName (name : String) : Prop where
  nonempty : name ≠ ""
  no_blank : ∀ c ∈ name.toList, Text.isBlank c = false
  no_slash : '/' ∉ name.toList
  no_backslash : '\\' ∉ name.toList
  head : name.toList.head? ≠ some '-'
  last : name.toList.getLast? ≠ some '-'

/-- No character of a list is a separator exactly if none is blank, a slash or a backslash. -/
theorem forall_isSeparator_iff {cs : List Char} :
    (∀ c ∈ cs, isSeparator c = false) ↔ (∀ c ∈ cs, Text.isBlank c = false) ∧ '/' ∉ cs ∧ '\\' ∉ cs := by
  simp only [isSeparator, Bool.or_eq_false_iff, beq_eq_false_iff_ne]
  constructor
  · intro h
    exact ⟨fun c hc => (h c hc).1.1, fun hslash => (h _ hslash).1.2 rfl, fun hslash => (h _ hslash).2 rfl⟩
  · rintro ⟨hblank, hslash, hbackslash⟩ c hc
    exact ⟨⟨hblank c hc, ne_of_mem_of_not_mem hc hslash⟩, ne_of_mem_of_not_mem hc hbackslash⟩

/-- Runs that are joined leave no separator. -/
theorem isSeparator_of_mem_joinRuns {inRun : Bool} {cs : List Char} :
    ∀ c ∈ joinRuns inRun cs, isSeparator c = false := by
  induction cs generalizing inRun with
  | nil => exact fun c hc => nomatch hc
  | cons first rest ih =>
    rw [joinRuns]
    split
    · split
      · exact ih
      · exact List.forall_mem_cons.mpr ⟨by decide, ih⟩
    · next hfirst => exact List.forall_mem_cons.mpr ⟨by simpa using hfirst, ih⟩

/-- Without separators there are no runs to join. -/
theorem joinRuns_eq_self {inRun : Bool} {cs : List Char} (h : ∀ c ∈ cs, isSeparator c = false) :
    joinRuns inRun cs = cs := by
  induction cs generalizing inRun with
  | nil => rfl
  | cons first rest ih =>
    obtain ⟨hfirst, hrest⟩ := List.forall_mem_cons.mp h
    rw [joinRuns, if_neg (by simp [hfirst]), ih hrest]

/-- The name in place of one that has nothing left is a name for an archive. -/
theorem isArchiveName_defaultName : IsArchiveName defaultName := by
  have hclean : defaultName.toList.all (fun c => !isSeparator c) = true := by decide +kernel
  obtain ⟨hblank, hslash, hbackslash⟩ := forall_isSeparator_iff.mp fun c hc => by
    simpa using List.all_eq_true.mp hclean c hc
  exact ⟨by decide, hblank, hslash, hbackslash, by decide, by decide⟩

/-- Sanitizing makes a name for an archive of every text. -/
theorem isArchiveName_sanitizeName (suggested : String) : IsArchiveName (sanitizeName suggested) := by
  rw [sanitizeName]
  generalize hjoined : joinRuns false (Text.trimBy Text.isBlank suggested.toList) = joined
  have hclean : ∀ c ∈ joined, isSeparator c = false := hjoined ▸ isSeparator_of_mem_joinRuns
  split
  · exact isArchiveName_defaultName
  · next hne =>
    obtain ⟨hblank, hslash, hbackslash⟩ := forall_isSeparator_iff.mp fun c hc => hclean c (Text.mem_of_mem_trimBy hc)
    constructor
    · simpa using hne
    · rwa [String.toList_ofList]
    · rwa [String.toList_ofList]
    · rwa [String.toList_ofList]
    · rw [String.toList_ofList]
      exact fun hhead => absurd (Text.head?_trimBy hhead) (by decide)
    · rw [String.toList_ofList]
      exact fun hlast => absurd (Text.getLast?_trimBy hlast) (by decide)

/-- The texts that sanitizing leaves as they are are the names for archives. -/
theorem sanitizeName_eq_self_iff {name : String} : sanitizeName name = name ↔ IsArchiveName name := by
  constructor
  · intro h
    exact h ▸ isArchiveName_sanitizeName name
  · intro h
    have hblank : Text.trimBy Text.isBlank name.toList = name.toList :=
      Text.trimBy_eq_self (fun c hc => h.no_blank c (List.mem_of_mem_head? hc))
        fun c hc => h.no_blank c (List.mem_of_mem_getLast? hc)
    have hhyphen : Text.trimBy (· == '-') name.toList = name.toList := by
      refine Text.trimBy_eq_self (fun c hc => ?_) fun c hc => ?_
      · exact beq_eq_false_iff_ne.mpr fun heq => h.head (heq ▸ hc)
      · exact beq_eq_false_iff_ne.mpr fun heq => h.last (heq ▸ hc)
    rw [sanitizeName, hblank, joinRuns_eq_self (forall_isSeparator_iff.mpr ⟨h.no_blank, h.no_slash, h.no_backslash⟩),
      hhyphen, if_neg (by simpa using h.nonempty), String.ofList_toList]

end Archive

end SiteBuilder
