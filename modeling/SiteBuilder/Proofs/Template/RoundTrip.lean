import SiteBuilder.Template.Content
import SiteBuilder.Proofs.Form.RoundTrip

/-!
# Templates that are written and read again

A template is written as its form and its files, each file with its path and its text. Reading it back checks nothing,
so it is the form in the document that has to be complete: it is, for a form that was accepted. A path is written
twice, as the name of a file and in it, and it is the one in the file that counts when files are read.
-/

namespace SiteBuilder

open Json

namespace TemplateContent

/-! ## Reading what was written -/

/-- The form of a template is read from its value, without a check. -/
theorem configOfDatum?_toDatum {config : TemplateConfig} (h : ∀ field ∈ config.fields, field.InRange) :
    configOfDatum? config.toDatum = some config := by
  unfold configOfDatum? TemplateConfig.toDatum
  refine Datum.bind_fields?_record [] rfl (by decide) fun fields hget => ?_
  simp only [Datum.required?, Datum.absent?, hget, List.lookup_cons, String.reduceBEq, beq_self_eq_true,
    Datum.optional?_ofOption_text, Option.bind_some, TemplateConfig.items?_steps h]
  rfl

/-- A file is read from the record of its path and its text. -/
theorem fileOfDatum?_record (file : String × String) :
    fileOfDatum? (.record [("path", .text file.1), ("content", .text file.2)]) = some file := by
  unfold fileOfDatum?
  refine Datum.bind_fields?_record [] rfl (by decide) fun fields hget => ?_
  simp only [Datum.required?, hget, List.lookup_cons, String.reduceBEq, beq_self_eq_true]
  rfl

/-- Files are read from their value. -/
theorem filesOfDatum?_filesToDatum (files : FileSet) : filesOfDatum? (filesToDatum files) = some files := by
  have hentries : (files.entries.map fun file =>
      (file.1, Datum.record [("path", .text file.1), ("content", .text file.2)])).mapM
        (fun entry : String × Datum => fileOfDatum? entry.2) = some files.entries :=
    Datum.mapM_map_eq_some fun file _ => fileOfDatum?_record file
  unfold filesOfDatum? filesToDatum
  refine Datum.bind_fields?_record [] rfl (by decide) fun fields hget => ?_
  simp only [hget, List.lookup_cons, beq_self_eq_true, hentries, Option.map_some, NameMap.ofList_entries]

/-- A template is read from its value. -/
theorem ofDatum?_toDatum {content : TemplateContent} (h : ∀ field ∈ content.config.fields, field.InRange) :
    ofDatum? content.toDatum = some content := by
  unfold ofDatum? toDatum
  refine Datum.bind_fields?_record [] rfl (by decide) fun fields hget => ?_
  simp only [Datum.required?, hget, List.lookup_cons, String.reduceBEq, beq_self_eq_true, Option.bind_some,
    configOfDatum?_toDatum h, filesOfDatum?_filesToDatum]
  rfl

/-! ## Documents that are read back -/

/-- The value of files is read back. -/
theorem readsBack_filesToDatum (files : FileSet) : ReadsBack 3 (filesToDatum files) := by
  have hfile (file : String × String) :
      ReadsBack 1 (.record [("path", .text file.1), ("content", .text file.2)]) := by
    refine readsBack_record 0 ?_
    simp only [List.forall_mem_cons]
    exact ⟨readsBack_text file.1, readsBack_text file.2, List.forall_mem_nil _⟩
  have hfiles : ReadsBack 2 (.record (files.entries.map fun file =>
      (file.1, .record [("path", .text file.1), ("content", .text file.2)]))) := by
    refine readsBack_record 1 fun entry hentry => ?_
    obtain ⟨file, -, rfl⟩ := List.mem_map.mp hentry
    exact hfile file
  refine readsBack_record 2 ?_
  simp only [List.forall_mem_cons]
  exact ⟨hfiles, List.forall_mem_nil _⟩

/-- The value of a template is read back if the numbers of its form are. -/
theorem readsBack_toDatum {content : TemplateContent} (hrange : ∀ field ∈ content.config.fields, field.InRange)
    (hnumbers : ∀ x ∈ content.config.numbers, (Answer.number x).IsReadBack) : ReadsBack 8 content.toDatum := by
  refine readsBack_record 7 ?_
  simp only [List.forall_mem_cons]
  exact ⟨TemplateConfig.readsBack_toDatum hrange hnumbers,
    (readsBack_filesToDatum content.files).mono (by decide), List.forall_mem_nil _⟩

/-- The form of a JSON text is read, and accepted, from the JSON that is written for it, and so is the template of
this form and any files, provided that JSON reads each number of the form as what it writes for it. Nothing is assumed
of texts, of lengths, or of numbers that might not be finite: a JSON text holds none. -/
theorem read_of_written (text : String) (config : TemplateConfig) (h : TemplateConfig.ofJson text = .ok config)
    (hnumbers : ∀ x ∈ config.numbers, (Answer.number x).IsReadBack) (files : FileSet) :
    TemplateConfig.ofJson (compact config.toDatum) = .ok config ∧
      ofJson? (toJson ⟨config, files⟩) = some ⟨config, files⟩ := by
  have hrange : ∀ field ∈ config.fields, field.InRange := TemplateConfig.inRange_of_ofJson h
  have hread : Json.read (toJson ⟨config, files⟩) = some (toDatum ⟨config, files⟩) :=
    read_compact ((readsBack_toDatum hrange hnumbers).mono (by decide))
  refine ⟨TemplateConfig.ofJson_compact_toDatum h hnumbers, ?_⟩
  rw [ofJson?, hread, Option.bind_some]
  exact ofDatum?_toDatum hrange

/-- A form whose steps stand elsewhere in its document, with a number and nothing as identifiers, is read as it was
from what is written for it. One field has a bound given as a whole number, and one has options of both sorts. -/
theorem read_of_written_nested_steps :
    let width := Datum.record [("name", .text "width"), ("type", .text "number"), ("default", .float 36.5),
      ("validation", .record [("required", .bool true), ("pattern", .text "^.+$"), ("min", .int 1)])]
    let tone := Datum.record [("name", .text "tone"), ("type", .text "select"), ("default", .text "7"),
      ("options", .list [.text "7", .record [("value", .text "\"loud\"\n"), ("label", .text "Loud")]])]
    let news := Datum.record [("name", .text "news"), ("type", .text "checkbox"), ("default", .bool true)]
    let size := Datum.record [("id", .int 7), ("title", .text "Size"), ("fields", .list [width, tone])]
    let more := Datum.record [("title", .text "More"), ("fields", .list [news])]
    let source := Datum.record [("name", .text "Site"), ("formConfig", .record [("steps", .list [size, more])])]
    let config : TemplateConfig := ⟨some "Site", none, [
      ⟨"7", "Size", none, [
        ⟨"width", none, .number, some (.number 36.5), none, none, [], false,
          { ValidationRules.none with required := true, pattern := some "^.+$", min := some 1.0 }⟩,
        ⟨"tone", none, .select, some (.text "7"), none, none, [.plain "7", .labeled "\"loud\"\n" (some "Loud")], false,
          .none⟩]⟩,
      ⟨"2", "More", none, [⟨"news", none, .boolean, some (.bool true), none, none, [], false, .none⟩]⟩]⟩
    let files : FileSet := .ofList [("index.html", "<p>\"quoted\"\tpart</p>"), ("css/a.css", "")]
    TemplateConfig.ofJson (compact source) = .ok config ∧ (∀ x ∈ config.numbers, (Answer.number x).IsReadBack) ∧
      TemplateConfig.ofJson (compact config.toDatum) = .ok config ∧
      ofJson? (toJson ⟨config, files⟩) = some ⟨config, files⟩ := by
  intro width tone news size more source config files
  have hone {height : Nat} : ReadsBack height (.int 1) := readsBack_int (n := 1) (by decide)
  have hseven {height : Nat} : ReadsBack height (.int 7) := readsBack_int (n := 7) (by decide)
  have hdefault {height : Nat} : ReadsBack height (.float 36.5) := readsBack_float (by decide +kernel) fun _ => rfl
  have hsource : ReadsBack 9 source := by
    -- along the shape of the document, from its records and lists down to its scalars
    simp only [source, size, more, width, tone, news]
    with_reducible
      repeat' first
        | exact readsBack_text _
        | exact readsBack_bool _
        | exact hone
        | exact hseven
        | exact hdefault
        | exact List.forall_mem_nil _
        | refine List.forall_mem_cons.mpr ⟨?_, ?_⟩
        | refine readsBack_record _ ?_
        | refine readsBack_list ?_
  have hread : TemplateConfig.ofJson (compact source) = .ok config := by
    rw [TemplateConfig.ofJson, read_compact (hsource.mono (by decide))]
    decide +kernel
  have hnumbers : ∀ x ∈ config.numbers, (Answer.number x).IsReadBack := by
    have hlist : config.numbers = [36.5, 1.0] := rfl
    rw [hlist]
    simp only [List.forall_mem_cons]
    exact ⟨fun _ => rfl, fun _ => rfl, nofun⟩
  exact ⟨hread, hnumbers, read_of_written (compact source) config hread hnumbers files⟩

end TemplateContent

end SiteBuilder
