import SiteBuilder.Proofs.NameMap
import SiteBuilder.Proofs.Text.Cut
import SiteBuilder.Site.Document

/-!
# Where style sheets and scripts stand

The entry file of a site decides where its style sheets and scripts belong: `stylesAt` and `scriptsAt` look
at nothing else. A document is composed accordingly as long as the style sheets do not close the body
themselves. If they do, ahead of the end of the body, the scripts are put into them.
-/

namespace SiteBuilder

namespace FileSet

/-- The file an entry denotes: the one at that path or, if there is none, the first in the order of paths that
has it as its file name. -/
structure EntryFile (files : FileSet) (entry : String) (file : String × String) : Prop where
  mem : file ∈ files.entries
  named : file.1 = entry ∨
    (∀ other ∈ files.entries, other.1 ≠ entry) ∧ fileName file.1 = entry ∧
      ∀ other ∈ files.entries, other.1 < file.1 → fileName other.1 ≠ entry

variable {files : FileSet} {entry : String}

/-- No file is at a path that is not looked up. -/
theorem get?_eq_none_iff : files.get? entry = none ↔ ∀ file ∈ files.entries, file.1 ≠ entry := by
  constructor
  · rintro hnone ⟨path, content⟩ hfile rfl
    cases hnone.symm.trans (NameMap.mem_entries_iff.mp hfile)
  · intro hpaths
    rw [Option.eq_none_iff_forall_ne_some]
    intro content hcontent
    exact hpaths (entry, content) (NameMap.mem_entries_iff.mpr hcontent) rfl

/-- The file that is found for an entry is the one it denotes. -/
theorem entryFile_of_find? {file : String × String} (h : files.find? entry = some file) :
    files.EntryFile entry file := by
  unfold find? at h
  split at h
  · next content hcontent =>
    cases h
    exact ⟨NameMap.mem_entries_iff.mpr hcontent, Or.inl rfl⟩
  · next hpath =>
    obtain ⟨hname, earlier, later, hentries, hearlier⟩ := List.find?_eq_some_iff_append.mp h
    have hmem : file ∈ files.entries := by
      rw [hentries]
      exact List.mem_append_right earlier List.mem_cons_self
    refine ⟨hmem, Or.inr ⟨get?_eq_none_iff.mp hpath, by simpa using hname, ?_⟩⟩
    intro other hother hlt hsame
    have hascending := files.ascending
    rw [hentries] at hother hascending
    rcases List.mem_append.mp hother with hother | hother
    · simpa [hsame] using hearlier other hother
    · rcases List.mem_cons.mp hother with rfl | hother
      · exact String.lt_irrefl _ hlt
      · have hafter := List.rel_of_pairwise_cons (List.pairwise_append.mp hascending).2.1 hother
        exact String.lt_irrefl _ (String.lt_trans hlt hafter)

/-- An entry denotes no file exactly if it is neither a path nor a file name. -/
theorem find?_eq_none_iff :
    files.find? entry = none ↔ ∀ file ∈ files.entries, file.1 ≠ entry ∧ fileName file.1 ≠ entry := by
  unfold find?
  split
  · next content hcontent =>
    have hmem := NameMap.mem_entries_iff.mpr hcontent
    simp only [reduceCtorEq, false_iff]
    exact fun hnone => (hnone _ hmem).1 rfl
  · next hpath =>
    rw [List.find?_eq_none]
    have hpaths := get?_eq_none_iff.mp hpath
    constructor
    · exact fun hnames file hfile => ⟨hpaths file hfile, by simpa using hnames file hfile⟩
    · exact fun hnone file hfile => by simpa using (hnone file hfile).2

end FileSet

namespace Document

open Text

/-! ## Positions -/

/-- The position of the style sheets in a document: before its head ends, or else before its body ends, or
else at the start. -/
def stylesAt (document : List Char) : Nat :=
  (firstAt? headEnd document).getD ((firstAt? bodyEnd document).getD 0)

/-- The position of the scripts in a document: before its body ends, or else at the end. -/
def scriptsAt (document : List Char) : Nat := (firstAt? bodyEnd document).getD document.length

/-- Style sheets and scripts stand in a document at their positions, the style sheets first where these are the
same. -/
inductive Placed (document styles scripts : List Char) : List Char → Prop
  | stylesFirst (first second third : List Char) (hdocument : document = first ++ second ++ third)
      (hstyles : first.length = stylesAt document) (hscripts : (first ++ second).length = scriptsAt document) :
      Placed document styles scripts (first ++ styles ++ second ++ scripts ++ third)
  | scriptsFirst (first second third : List Char) (hdocument : document = first ++ second ++ third)
      (hscripts : first.length = scriptsAt document) (hstyles : (first ++ second).length = stylesAt document)
      (hsecond : second ≠ []) :
      Placed document styles scripts (first ++ scripts ++ second ++ styles ++ third)

/-- Nothing but the document decides where the scripts go: there are none, or the style sheets do not end the
body, or the body ends before the style sheets. -/
def Undisturbed (document styles scripts : List Char) : Prop :=
  scripts = [] ∨ ¬bodyEnd <:+: styles ∨ scriptsAt document < stylesAt document

instance (document styles scripts : List Char) : Decidable (Undisturbed document styles scripts) :=
  inferInstanceAs (Decidable (_ ∨ ¬_ ∨ _))

theorem headEnd_ne_nil : headEnd ≠ [] := by decide

theorem bodyEnd_ne_nil : bodyEnd ≠ [] := by decide

/-- An end of the body that begins with the text behind it is apart from what stands before. -/
theorem apart_bodyEnd (left right : List Char) : Apart bodyEnd left ('<' :: right) := by
  have hfirst : '<' ∉ "/body>".toList := by decide
  exact apart_of_head hfirst right

/-! ## Elements -/

/-- An element begins with its tag and ends with a line. -/
theorem element_eq (tag path text : String) :
    ∃ middle, element tag path text = '<' :: (tag.toList ++ (middle ++ ['\n'])) := by
  refine ⟨" data-source=\"".toList ++ path.toList ++ "\">\n".toList ++ text.toList ++ "\n</".toList ++
    tag.toList ++ ">".toList, ?_⟩
  simp [element, String.toList_append]

/-- Elements begin with a tag and end with a line, unless there are none. -/
theorem elements_eq (tag extension : String) (files : FileSet) (answers : AnswerSet) :
    elements tag extension files answers = [] ∨
      ∃ middle, elements tag extension files answers = '<' :: (tag.toList ++ (middle ++ ['\n'])) := by
  unfold elements
  induction files.entries.filter (FileSet.hasExtension ·.1 extension) with
  | nil => exact Or.inl rfl
  | cons file rest ih =>
    right
    obtain ⟨middle, helement⟩ := element_eq tag file.1 (render file.2 answers)
    rw [List.flatMap_cons, helement]
    rcases ih with hrest | ⟨later, hrest⟩
    · exact ⟨middle, by rw [hrest]; simp⟩
    · exact ⟨middle ++ '\n' :: '<' :: (tag.toList ++ later), by rw [hrest]; simp⟩

/-- Elements are apart from the document on both sides of them, where this goes on with a mark. -/
theorem apart_elements {styles first second : List Char}
    (hstyles : styles = [] ∨ ∃ middle, styles = '<' :: (middle ++ ['\n']))
    (hsecond : first = [] ∨ ∃ rest, second = '<' :: rest) :
    Apart bodyEnd first second ∧ Apart bodyEnd first (styles ++ second) ∧ Apart bodyEnd styles second := by
  have hnil (right : List Char) : Apart bodyEnd [] right :=
    fun inside hsuffix hinside => absurd (List.suffix_nil.mp hsuffix) hinside
  refine ⟨?_, ?_, ?_⟩
  · rcases hsecond with rfl | ⟨rest, rfl⟩
    · exact hnil _
    · exact apart_bodyEnd first rest
  · rcases hsecond with rfl | ⟨rest, rfl⟩
    · exact hnil _
    · rcases hstyles with rfl | ⟨middle, rfl⟩
      · exact apart_bodyEnd first rest
      · exact apart_bodyEnd first _
  · rcases hstyles with rfl | ⟨middle, rfl⟩
    · exact hnil _
    · rw [← List.cons_append]
      exact apart_of_last (by decide) _ second

/-! ## Composing -/

/-- Style sheets are put at their position, and what follows them there begins with a mark. -/
theorem withStyles_eq (styles document : List Char) :
    ∃ first second, document = first ++ second ∧ first.length = stylesAt document ∧
      (first = [] ∨ ∃ rest, second = '<' :: rest) ∧
      withStyles styles document = first ++ (styles ++ second) := by
  unfold withStyles stylesAt insertBefore?
  rw [firstAt?_eq headEnd_ne_nil, firstAt?_eq bodyEnd_ne_nil]
  cases hhead : cutAt? headEnd document with
  | some cut =>
    obtain ⟨before, after⟩ := cut
    refine ⟨before, headEnd ++ after, append_of_cutAt? hhead, rfl, Or.inr ⟨_, rfl⟩, ?_⟩
    simp
  | none =>
    cases hbody : cutAt? bodyEnd document with
    | some cut =>
      obtain ⟨before, after⟩ := cut
      refine ⟨before, bodyEnd ++ after, append_of_cutAt? hbody, rfl, Or.inr ⟨_, rfl⟩, ?_⟩
      simp
    | none => exact ⟨[], document, rfl, rfl, Or.inl rfl, rfl⟩

section

variable {first second before after : List Char} (scripts : List Char)

/-- Where the body ends in what stands in front, the scripts go, whatever follows. -/
theorem withScripts_of_cutAt?_some (hapart : Apart bodyEnd first second)
    (hcut : cutAt? bodyEnd first = some (before, after)) :
    withScripts scripts (first ++ second) = before ++ scripts ++ bodyEnd ++ (after ++ second) := by
  rw [withScripts, insertBefore?, cutAt?_append bodyEnd_ne_nil hapart, hcut]
  rfl

/-- Where the body ends in what stands in front, the scripts belong, whatever follows. -/
theorem scriptsAt_of_cutAt?_some (hapart : Apart bodyEnd first second)
    (hcut : cutAt? bodyEnd first = some (before, after)) : scriptsAt (first ++ second) = before.length := by
  rw [scriptsAt, firstAt?_eq bodyEnd_ne_nil, cutAt?_append bodyEnd_ne_nil hapart, hcut]
  rfl

/-- Where the body does not end in what stands in front, the scripts go behind it. -/
theorem withScripts_of_cutAt?_none (hapart : Apart bodyEnd first second) (hcut : cutAt? bodyEnd first = none) :
    withScripts scripts (first ++ second) = first ++ withScripts scripts second := by
  rw [withScripts, withScripts, insertBefore?, insertBefore?, cutAt?_append bodyEnd_ne_nil hapart, hcut]
  cases cutAt? bodyEnd second <;> simp

/-- Where the body does not end in what stands in front, the scripts belong behind it. -/
theorem scriptsAt_of_cutAt?_none (hapart : Apart bodyEnd first second) (hcut : cutAt? bodyEnd first = none) :
    scriptsAt (first ++ second) = first.length + scriptsAt second := by
  rw [scriptsAt, scriptsAt, firstAt?_eq bodyEnd_ne_nil, firstAt?_eq bodyEnd_ne_nil,
    cutAt?_append bodyEnd_ne_nil hapart, hcut]
  cases cutAt? bodyEnd second <;> simp

/-- Scripts are put at their position. -/
theorem withScripts_eq (document : List Char) :
    ∃ before after, document = before ++ after ∧ before.length = scriptsAt document ∧
      withScripts scripts document = before ++ (scripts ++ after) := by
  rw [withScripts, insertBefore?, scriptsAt, firstAt?_eq bodyEnd_ne_nil]
  cases hcut : cutAt? bodyEnd document with
  | some cut =>
    obtain ⟨before, after⟩ := cut
    exact ⟨before, bodyEnd ++ after, append_of_cutAt? hcut, rfl, by simp⟩
  | none => exact ⟨document, [], by simp, rfl, by simp⟩

end

section

variable {styles : List Char} (document scripts : List Char)

/-- Style sheets and scripts are put at their positions if these are undisturbed. Otherwise the scripts stand
within the style sheets. -/
theorem withScripts_withStyles_cases (hstyles : styles = [] ∨ ∃ middle, styles = '<' :: (middle ++ ['\n'])) :
    Undisturbed document styles scripts ∧
        Placed document styles scripts (withScripts scripts (withStyles styles document)) ∨
      ¬Undisturbed document styles scripts ∧
        ∃ before after first second, styles = before ++ (bodyEnd ++ after) ∧
          firstAt? bodyEnd styles = some before.length ∧ document = first ++ second ∧
          first.length = stylesAt document ∧ withScripts scripts (withStyles styles document) =
            first ++ (before ++ (scripts ++ (bodyEnd ++ (after ++ second)))) := by
  obtain ⟨first, second, rfl, hlength, hsecond, hwith⟩ := withStyles_eq styles document
  obtain ⟨happart, hjoined, hbehind⟩ := apart_elements hstyles hsecond
  rw [hwith]
  cases hfirst : cutAt? bodyEnd first with
  | some cut =>
    -- The body ends before the style sheets.
    obtain ⟨before, after⟩ := cut
    have hscripts := scriptsAt_of_cutAt?_some happart hfirst
    have hparts := append_of_cutAt? hfirst
    have hlt : scriptsAt (first ++ second) < stylesAt (first ++ second) := by
      rw [hscripts, ← hlength, hparts, List.length_append, List.length_append]
      have hmark : bodyEnd.length = 7 := rfl
      omega
    have hplaced : Placed (first ++ second) styles scripts
        (before ++ scripts ++ (bodyEnd ++ after) ++ styles ++ second) :=
      .scriptsFirst before (bodyEnd ++ after) second (by rw [hparts]) hscripts.symm (by rw [← hparts, hlength])
        (by simp [bodyEnd_ne_nil])
    refine Or.inl ⟨Or.inr (Or.inr hlt), ?_⟩
    rw [withScripts_of_cutAt?_some scripts hjoined hfirst]
    simpa using hplaced
  | none =>
    obtain ⟨middle, last, rfl, hmiddle, hlast⟩ := withScripts_eq scripts second
    have hscripts := scriptsAt_of_cutAt?_none happart hfirst
    have hplaced : Placed (first ++ (middle ++ last)) styles scripts
        (first ++ styles ++ middle ++ scripts ++ last) :=
      .stylesFirst first middle last (List.append_assoc first middle last).symm hlength
        (by rw [hscripts, ← hmiddle, List.length_append])
    rw [withScripts_of_cutAt?_none scripts hjoined hfirst]
    cases hclosed : cutAt? bodyEnd styles with
    | none =>
      refine Or.inl ⟨Or.inr (Or.inl ((cutAt?_eq_none_iff bodyEnd_ne_nil).mp hclosed)), ?_⟩
      rw [withScripts_of_cutAt?_none scripts hbehind hclosed, hlast]
      simpa using hplaced
    | some cut =>
      obtain ⟨before, after⟩ := cut
      have hstyled := append_of_cutAt? hclosed
      rw [withScripts_of_cutAt?_some scripts hbehind hclosed]
      by_cases hempty : scripts = []
      · refine Or.inl ⟨Or.inl hempty, ?_⟩
        rw [hempty, hstyled] at hplaced ⊢
        simpa using hplaced
      · have hfirstAt : firstAt? bodyEnd styles = some before.length := by
          rw [firstAt?_eq bodyEnd_ne_nil, hclosed]
          rfl
        refine Or.inr ⟨?_, before, after, first, middle ++ last, hstyled, hfirstAt, rfl, hlength, by simp⟩
        rintro (hnone | hopen | hlt)
        · exact hempty hnone
        · rw [← cutAt?_eq_none_iff bodyEnd_ne_nil, hclosed] at hopen
          cases hopen
        · rw [hscripts, ← hlength] at hlt
          exact absurd hlt (Nat.not_lt.mpr (Nat.le_add_right _ _))

/-- Style sheets and scripts stand at their positions exactly if these are undisturbed. -/
theorem placed_iff_undisturbed (hstyles : styles = [] ∨ ∃ middle, styles = '<' :: (middle ++ ['\n']))
    (hscripts : scripts = [] ∨ ∃ rest, scripts = '<' :: 's' :: rest) :
    Placed document styles scripts (withScripts scripts (withStyles styles document)) ↔
      Undisturbed document styles scripts := by
  rcases withScripts_withStyles_cases document scripts hstyles with
    ⟨hundisturbed, hplaced⟩ | ⟨hdisturbed, hwithin⟩
  · exact iff_of_true hplaced hundisturbed
  · obtain ⟨before, after, first, second, hstyled, -, hdocument, hlength, hresult⟩ := hwithin
    refine iff_of_false (fun hplaced => ?_) hdisturbed
    obtain ⟨rest, hscripts⟩ := hscripts.resolve_left fun hempty => hdisturbed (Or.inl hempty)
    generalize withScripts scripts (withStyles styles document) = result at hplaced hresult
    cases hplaced with
    | stylesFirst first' middle last hdocument' hlength' _ =>
      -- Behind the first part of the style sheets, one result goes on with a script, the other with the mark.
      have hfirst : first' = first := by
        rw [hdocument, List.append_assoc] at hdocument'
        exact (List.append_inj_left hdocument' (hlength.trans hlength'.symm)).symm
      rw [hfirst, hstyled, hscripts] at hresult
      have hmark : bodyEnd = '<' :: '/' :: "body>".toList := rfl
      simp [hmark] at hresult
    | scriptsFirst first' middle last hdocument' hbefore hbehind hmiddle =>
      refine hdisturbed (Or.inr (Or.inr ?_))
      rw [← hbefore, ← hbehind, List.length_append]
      exact Nat.lt_add_of_pos_right (List.length_pos_iff.mpr hmiddle)

end

/-- A document is composed unless no file has the entry as its path or its file name. The document is that of
the file the entry denotes, with the answers put in; all style sheets and scripts stand in it at the positions
that it has for them if these are undisturbed, and otherwise the scripts stand within the style sheets, before
the first end of the body there. -/
theorem compose_places_elements (files : FileSet) (answers : AnswerSet) (entry : String) :
    let styles := elements "style" "css" files answers
    let scripts := elements "script" "js" files answers
    (compose files answers entry = .error ⟨entry⟩ ∧
        ∀ file ∈ files.entries, file.1 ≠ entry ∧ FileSet.fileName file.1 ≠ entry) ∨
      ∃ file document, files.EntryFile entry file ∧ compose files answers entry = .ok document ∧
        let main := (render file.2 answers).toList
        (Placed main styles scripts document.toList ↔ Undisturbed main styles scripts) ∧
          (¬Undisturbed main styles scripts →
            ∃ before after first second, styles = before ++ (bodyEnd ++ after) ∧
              firstAt? bodyEnd styles = some before.length ∧ main = first ++ second ∧
              first.length = stylesAt main ∧
              document.toList = first ++ (before ++ (scripts ++ (bodyEnd ++ (after ++ second))))) := by
  intro styles scripts
  unfold compose
  cases hfound : files.find? entry with
  | none => exact Or.inl ⟨rfl, FileSet.find?_eq_none_iff.mp hfound⟩
  | some file =>
    have hstyles : styles = [] ∨ ∃ middle, styles = '<' :: (middle ++ ['\n']) := by
      rcases elements_eq "style" "css" files answers with hempty | ⟨middle, hmiddle⟩
      · exact Or.inl hempty
      · exact Or.inr ⟨"style".toList ++ middle, hmiddle.trans (by rw [List.append_assoc])⟩
    have hscripts : scripts = [] ∨ ∃ rest, scripts = '<' :: 's' :: rest := by
      rcases elements_eq "script" "js" files answers with hempty | ⟨middle, hmiddle⟩
      · exact Or.inl hempty
      · exact Or.inr ⟨_, hmiddle⟩
    refine Or.inr ⟨file, _, FileSet.entryFile_of_find? hfound, rfl, ?_⟩
    intro main
    rw [String.toList_ofList]
    refine ⟨placed_iff_undisturbed main scripts hstyles hscripts, fun hdisturbed => ?_⟩
    rcases withScripts_withStyles_cases main scripts hstyles with ⟨hundisturbed, -⟩ | ⟨-, hwithin⟩
    · exact absurd hundisturbed hdisturbed
    · exact hwithin

/-- A style sheet that has the end of a body in a comment takes in the scripts, although the document has an end
of the body of its own. -/
theorem not_placed_of_style_sheet_with_bodyEnd :
    let files : FileSet :=
      .ofList [("a.css", "/* </body> */"), ("b.js", "x()"), ("index.html", "<head></head><body>Hi</body>")]
    let main := (render "<head></head><body>Hi</body>" ∅).toList
    let styles := elements "style" "css" files ∅
    let scripts := elements "script" "js" files ∅
    files.EntryFile "index.html" ("index.html", "<head></head><body>Hi</body>") ∧
      ∃ document, compose files ∅ "index.html" = .ok document ∧
        ¬Placed main styles scripts document.toList ∧
        document = "<head><style data-source=\"a.css\">\n/* <script data-source=\"b.js\">\nx()\n</script>\n" ++
          "</body> */\n</style>\n</head><body>Hi</body>" := by
  intro files main styles scripts
  have hstyles : styles = '<' :: ("style data-source=\"a.css\">\n/* </body> */\n</style>".toList ++ ['\n']) := by
    decide +kernel
  have hscripts : scripts = '<' :: 's' :: "cript data-source=\"b.js\">\nx()\n</script>\n".toList := by
    decide +kernel
  have hdisturbed : ¬Undisturbed main styles scripts := by decide +kernel
  refine ⟨⟨by decide +kernel, Or.inl rfl⟩, _, rfl, ?_, by decide +kernel⟩
  rw [String.toList_ofList]
  rw [placed_iff_undisturbed main scripts (Or.inr ⟨_, hstyles⟩) (Or.inr ⟨_, hscripts⟩)]
  exact hdisturbed

end Document

end SiteBuilder
