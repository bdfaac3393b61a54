import SiteBuilder.Form.Format

/-!
# What the formats ask for

The tests of email addresses, colors and addresses of pages accept the texts of these forms and no others.
How an address is read is left to the reading of addresses.
-/

namespace SiteBuilder

namespace Text

variable {separator : Char}

/-- Splitting a list at some of its characters is the splitting of the library. -/
theorem splitBy_eq_splitOnP (p : Char → Bool) (cs : List Char) : splitBy p cs = cs.splitOnP p := by
  induction cs with
  | nil => rfl
  | cons c rest ih =>
    rw [splitBy, List.splitOnP_cons_eq_if_modifyHead, ih]
    cases hpieces : rest.splitOnP p with
    | nil => exact absurd hpieces (List.splitOnP_ne_nil p rest)
    | cons piece pieces => rfl

/-- No piece contains the separator. -/
theorem not_mem_of_mem_splitBy {cs piece : List Char} (h : piece ∈ splitBy (· == separator) cs) :
    separator ∉ piece := by
  induction cs generalizing piece with
  | nil =>
    rw [List.mem_singleton.mp h]
    exact List.not_mem_nil
  | cons c rest ih =>
    rw [splitBy] at h
    split at h
    · rcases List.mem_cons.mp h with rfl | hlater
      · exact List.not_mem_nil
      · exact ih hlater
    · next hne =>
      have hother : separator ≠ c := fun heq => hne (beq_iff_eq.mpr heq.symm)
      split at h
      · rw [List.mem_singleton.mp h]
        exact fun hmem => hother (List.mem_singleton.mp hmem)
      · next first pieces hpieces =>
        rcases List.mem_cons.mp h with rfl | hlater
        · intro hmem
          have hfirst : separator ∉ first := ih (hpieces ▸ List.mem_cons_self)
          exact hfirst ((List.mem_cons.mp hmem).resolve_left hother)
        · exact ih (hpieces ▸ List.mem_cons_of_mem _ hlater)

/-- The pieces are the lists without the separator that make up the whole with a separator between each two. -/
theorem splitBy_eq_iff {cs : List Char} {pieces : List (List Char)} (hpieces : pieces ≠ []) :
    splitBy (· == separator) cs = pieces ↔
      cs = [separator].intercalate pieces ∧ ∀ piece ∈ pieces, separator ∉ piece := by
  have hsplit (cs : List Char) : splitBy (· == separator) cs = cs.splitOn separator := by
    rw [splitBy_eq_splitOnP, List.splitOn_eq_splitOnP]
  constructor
  · rintro rfl
    refine ⟨?_, fun piece => not_mem_of_mem_splitBy⟩
    rw [hsplit, List.intercalate_splitOn]
  · rintro ⟨rfl, habsent⟩
    rw [hsplit, List.splitOn_intercalate separator habsent hpieces]

end Text

namespace Format

open SiteBuilder.Text

/-- An email address: a user, a host and a domain, none of which is empty or has a blank or an `@`. -/
def EmailAddress (s : String) : Prop :=
  ∃ user host domain : List Char,
    s.toList = user ++ '@' :: (host ++ '.' :: domain) ∧ user ≠ [] ∧ host ≠ [] ∧ domain ≠ [] ∧
      ∀ c ∈ user ++ host ++ domain, c ≠ '@' ∧ isBlank c = false

/-- A color: a number sign and three or six hexadecimal digits. -/
def Color (s : String) : Prop :=
  ∃ digits : List Char, s.toList = '#' :: digits ∧ (digits.length = 3 ∨ digits.length = 6) ∧
    ∀ c ∈ digits, isHexDigit c = true

/-- The address of a page: one that can be read, of one of the two schemes of pages, with a host. -/
def PageAddress (s : String) : Prop :=
  ∃ url, Url.parse (trim s) = .ok url ∧ (url.scheme = "http" ∨ url.scheme = "https") ∧
    ∃ authority, url.authority = some authority

/-- A dot that is neither first nor last has something on both sides. -/
theorem contains_inner_dot_iff (cs : List Char) :
    (cs.drop 1).dropLast.contains '.' = true ↔
      ∃ host domain : List Char, cs = host ++ '.' :: domain ∧ host ≠ [] ∧ domain ≠ [] := by
  rw [List.contains_iff_mem]
  constructor
  · intro hmem
    cases cs with
    | nil => cases hmem
    | cons first rest =>
      have hinner : '.' ∈ rest.dropLast := hmem
      rcases List.eq_nil_or_concat rest with rfl | ⟨inner, last, rfl⟩
      · cases hinner
      · rw [List.concat_eq_append, List.dropLast_concat] at hinner
        obtain ⟨before, after, rfl⟩ := List.append_of_mem hinner
        exact ⟨first :: before, after ++ [last], by simp, List.cons_ne_nil _ _, by simp⟩
  · rintro ⟨host, domain, rfl, hhost, hdomain⟩
    obtain ⟨first, rest, rfl⟩ := List.exists_cons_of_ne_nil hhost
    rw [List.cons_append, List.drop_one, List.tail_cons, List.dropLast_append_of_ne_nil (List.cons_ne_nil _ _),
      List.dropLast_cons_of_ne_nil hdomain]
    exact List.mem_append_right _ List.mem_cons_self

/-- The test of email addresses is exact. -/
theorem isEmail_iff (s : String) : isEmail s = true ↔ EmailAddress s := by
  have hpair (user rest : List Char) : ['@'].intercalate [user, rest] = user ++ '@' :: rest := by
    simp [List.intercalate]
  unfold isEmail EmailAddress
  constructor
  · intro htest
    split at htest
    · next user rest hsplit =>
      obtain ⟨htext, hat⟩ := (splitBy_eq_iff (List.cons_ne_nil _ _)).mp hsplit
      simp only [Bool.and_eq_true] at htest
      obtain ⟨⟨huser, hblank⟩, hdot⟩ := htest
      obtain ⟨host, domain, rfl, hhost, hdomain⟩ := (contains_inner_dot_iff rest).mp hdot
      refine ⟨user, host, domain, htext.trans (hpair _ _), by simpa using huser, hhost, hdomain, ?_⟩
      intro c hc
      have hwhere : c ∈ user ∨ c ∈ host ++ '.' :: domain := by
        simp only [List.mem_append, List.mem_cons] at hc ⊢
        grind
      constructor
      · rintro rfl
        rcases hwhere with huser | hrest
        · exact hat user List.mem_cons_self huser
        · exact hat _ (List.mem_cons_of_mem _ List.mem_cons_self) hrest
      · simpa using List.all_eq_true.mp hblank c (List.mem_append.mpr hwhere)
    · cases htest
  · rintro ⟨user, host, domain, htext, huser, hhost, hdomain, hplain⟩
    have hrest : ∀ c ∈ user ++ (host ++ '.' :: domain), c ≠ '@' ∧ isBlank c = false := by
      intro c hc
      by_cases hdot : c = '.'
      · rw [hdot]
        decide
      · refine hplain c ?_
        simp only [List.mem_append, List.mem_cons] at hc ⊢
        grind
    have hsplit : splitBy (· == '@') s.toList = [user, host ++ '.' :: domain] := by
      refine (splitBy_eq_iff (List.cons_ne_nil _ _)).mpr ⟨htext.trans (hpair _ _).symm, ?_⟩
      intro piece hpiece hat
      have hmem : '@' ∈ user ++ (host ++ '.' :: domain) := by
        rcases List.mem_cons.mp hpiece with rfl | hpiece
        · exact List.mem_append_left _ hat
        · exact List.mem_append_right _ (List.mem_singleton.mp hpiece ▸ hat)
      exact (hrest _ hmem).1 rfl
    rw [hsplit]
    simp only [Bool.and_eq_true]
    refine ⟨⟨by simpa using huser, ?_⟩, (contains_inner_dot_iff _).mpr ⟨host, domain, rfl, hhost, hdomain⟩⟩
    exact List.all_eq_true.mpr fun c hc => by simpa using (hrest c hc).2

/-- The test of colors is exact. -/
theorem isHexColor_iff (s : String) : isHexColor s = true ↔ Color s := by
  unfold isHexColor Color
  split
  · next digits hdigits =>
    simp [hdigits]
  · next hother =>
    constructor
    · nofun
    · rintro ⟨digits, hdigits, -⟩
      exact absurd hdigits (hother digits)

/-- The test of addresses of pages is exact. -/
theorem isWebUrl_iff (s : String) : isWebUrl s = true ↔ PageAddress s := by
  unfold isWebUrl PageAddress
  cases Url.parse (trim s) with
  | error fault => simp
  | ok url => simp [Url.isWeb, Option.isSome_iff_exists]

end Format

end SiteBuilder
