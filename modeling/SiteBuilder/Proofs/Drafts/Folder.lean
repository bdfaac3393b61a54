import SiteBuilder.Drafts.Folder
import SiteBuilder.Proofs.Disk.MakeFolders
import SiteBuilder.Proofs.Drafts.SameDraft
import SiteBuilder.Proofs.Form.Document
import SiteBuilder.Proofs.Form.Run
import SiteBuilder.Proofs.Text.Utf8

/-!
# Drafts as files

Every draft is a file of its own as far as the names of the files tell the templates apart. They do not where
identifiers differ in characters only for which an underscore stands: such templates share one draft.

The answers of a draft are read back as they were written, value by value, if all numbers among them are finite.
Otherwise the document says nothing of some number, and then it counts as no draft at all.
-/

namespace SiteBuilder

/-- The identifier of the template whose draft a call may change. -/
def DraftCall.id : DraftCall → String
  | .save id _ => id
  | .clear id => id

namespace FolderDrafts

variable {store after : FolderDrafts} {id other : String}

/-- The name of the file of a template's draft. -/
def fileName (id : String) : String := id.map safeChar ++ ".json"

/-- The name of a draft's file is a single name in a path. -/
theorem isPlain_fileName (id : String) : Path.IsPlain (fileName id) := by
  have hsafe (c : Char) : safeChar c ≠ '/' ∧ safeChar c ≠ Char.ofNat 0 := by
    unfold safeChar
    split
    · next h => constructor <;> (rintro rfl; revert h; decide)
    · decide
  have hlast : (fileName id).toList.getLast? = some 'n' := by simp [fileName]
  constructor
  · exact fun h => by simp [h] at hlast
  · exact fun h => by simp [h] at hlast
  · exact fun h => by simp [h] at hlast
  · simp [fileName, String.toList_map, (hsafe _).1]
  · simp [fileName, String.toList_map, (hsafe _).2]

/-- Two templates have the same file if their identifiers differ only in characters that an underscore stands for. -/
theorem fileName_inj : fileName id = fileName other ↔ id.map safeChar = other.map safeChar := by
  rw [fileName, fileName, ← String.toList_inj, ← String.toList_inj, String.toList_append, String.toList_append]
  exact List.append_left_inj _

/-! ## Which draft is loaded -/

/-- The draft that is loaded depends on the file alone. -/
theorem load_congr
    (h : ∀ node, after.disk.find (after.pathOf other) = .ok node ↔ store.disk.find (store.pathOf id) = .ok node) :
    after.load other = store.load id := by
  cases hfind : store.disk.find (store.pathOf id) with
  | ok node => simp [load, Disk.exists?, Disk.readText, hfind, (h node).mpr hfind]
  | error cause =>
    cases hfind' : after.disk.find (after.pathOf other) with
    | ok node =>
      rw [(h node).mp hfind'] at hfind
      cases hfind
    | error cause => simp [load, Disk.exists?, hfind, hfind', Except.toOption]

/-- Drafts can be kept apart in a folder that is there, or whose path does not lead up. -/
def IsSteady (store : FolderDrafts) : Prop :=
  store.disk.isFolder store.folder = true ∨ ".." ∉ Text.pieces '/' store.folder

/-- A store has the same folder after something happened to it, and the same is found under all names but one. -/
structure Spares (store : FolderDrafts) (name : String) (after : FolderDrafts) : Prop where
  folder : after.folder = store.folder
  steady : after.IsSteady
  others : ∀ other, Path.IsPlain other → other ≠ name → ∀ node,
    after.disk.find (Path.join store.folder other) = .ok node ↔
      store.disk.find (Path.join store.folder other) = .ok node

variable {name : String} {later : FolderDrafts}

/-- Nothing happened. -/
theorem Spares.refl (h : store.IsSteady) (name : String) : store.Spares name store := ⟨rfl, h, fun _ _ _ _ => Iff.rfl⟩

/-- What is spared twice is spared. -/
theorem Spares.trans (h : store.Spares name after) (hlater : after.Spares name later) : store.Spares name later := by
  refine ⟨hlater.folder.trans h.folder, hlater.steady, fun other hother hne node => ?_⟩
  have hothers := hlater.others other hother hne node
  rw [h.folder] at hothers
  exact hothers.trans (h.others other hother hne node)

/-- Making the folder spares every file. -/
theorem spares_of_makeFolders (h : store.IsSteady) {disk : Disk}
    (hmake : store.disk.makeFolders store.folder = .ok disk) (name : String) :
    store.Spares name { store with disk } := by
  refine ⟨rfl, h.imp_left fun hthere => ?_, fun other hother _ node => Disk.find_of_makeFolders h hother hmake⟩
  rw [Disk.makeFolders_of_isFolder hthere] at hmake
  cases hmake
  exact hthere

/-- Putting a file where a draft is, or taking it away, spares the other files. -/
theorem spares_of_put (h : store.IsSteady) {place : Disk.Place}
    (hplace : store.disk.place (store.pathOf id) = .ok place)
    (hfile : (store.disk.at? place).any Node.isFolder = false) (node : Option Node) :
    store.Spares (fileName id) { store with disk := store.disk.put place node } := by
  obtain ⟨hname, entries, hopen⟩ := Disk.openFolder_of_place (isPlain_fileName id) hplace
  refine ⟨rfl, h.imp_left (Disk.foldersStay_put hfile node).isFolder, fun other hother hne found => ?_⟩
  exact Disk.find_put_of_ne hopen hfile node hother (hname ▸ hne)

/-- A call spares every file but the one of its template. -/
theorem spares_after (h : store.IsSteady) (call : DraftCall) :
    store.Spares (fileName call.id) (DraftStore.after store call) := by
  cases call with
  | save id answers =>
    show store.Spares (fileName id) (store.save id answers).2
    unfold save
    cases hmake : store.disk.makeFolders store.folder with
    | error cause => exact .refl h _
    | ok disk =>
      have hmade := spares_of_makeFolders h hmake (fileName id)
      dsimp only
      cases hwrite : disk.write (store.pathOf id) (document answers) with
      | error cause => exact hmade
      | ok disk' =>
        obtain ⟨place, hplace, -, hfile, rfl⟩ := Disk.put_of_write hwrite
        have hput := spares_of_put hmade.steady hplace hfile (some (document answers))
        exact hmade.trans hput
  | clear id =>
    show store.Spares (fileName id) (store.clear id).2
    unfold clear
    split
    · cases hremove : store.disk.remove (store.pathOf id) with
      | error cause => exact .refl h _
      | ok disk =>
        obtain ⟨place, hplace, hfile, rfl⟩ := Disk.put_of_remove hremove
        exact spares_of_put h hplace hfile none
    · exact .refl h _

/-- A call for another file leaves the draft of a template. -/
theorem load_after (h : store.IsSteady) {call : DraftCall} (hcall : call.id.map safeChar ≠ other.map safeChar) :
    (DraftStore.after store call).load other = store.load other := by
  have hspares := spares_after h call
  have hne : fileName other ≠ fileName call.id := fun hsame => hcall (fileName_inj.mp hsame).symm
  refine load_congr fun node => ?_
  have hpath : (DraftStore.after store call).pathOf other = store.pathOf other :=
    congrArg (Path.join · (fileName other)) hspares.folder
  rw [hpath]
  exact hspares.others (fileName other) (isPlain_fileName other) hne node

/-- A folder stays fit for drafts whatever is called. -/
theorem isSteady_foldl (h : store.IsSteady) (calls : List DraftCall) :
    (calls.foldl DraftStore.after store).IsSteady := by
  induction calls generalizing store with
  | nil => exact h
  | cons call rest ih => exact ih (spares_after h call).steady

/-- Calls for other files leave the draft of a template. -/
theorem load_foldl (h : store.IsSteady) {calls : List DraftCall}
    (hcalls : ∀ call ∈ calls, call.id.map safeChar ≠ other.map safeChar) :
    (calls.foldl DraftStore.after store).load other = store.load other := by
  induction calls generalizing store with
  | nil => rfl
  | cons call rest ih =>
    have hrest : ∀ later ∈ rest, later.id.map safeChar ≠ other.map safeChar := fun later hlater =>
      hcalls later (List.mem_cons_of_mem _ hlater)
    rw [List.foldl_cons, ih (spares_after h call).steady hrest]
    exact load_after h (hcalls call List.mem_cons_self)

/-- In a folder that nobody else touches, and that is there or has a path that does not lead up: at every point of a
sequence of calls, the draft of a template is not changed by further calls for templates that stay apart from it when
an underscore stands for everything but letters, digits, hyphens and underscores. Templates that do not stay apart
have the same draft. -/
theorem load_of_calls_for_others (store : FolderDrafts)
    (hfolder : store.disk.isFolder store.folder = true ∨ ".." ∉ Text.pieces '/' store.folder)
    (earlier later : List DraftCall) (other : String) :
    let state := earlier.foldl DraftStore.after store
    ((∀ call ∈ later, call.id.map safeChar ≠ other.map safeChar) →
        DraftStore.load (later.foldl DraftStore.after state) other = DraftStore.load state other) ∧
      ∀ id : String, id.map safeChar = other.map safeChar → DraftStore.load state id = DraftStore.load state other := by
  intro state
  refine ⟨load_foldl (isSteady_foldl hfolder earlier), fun id hid => load_congr fun node => ?_⟩
  have hpath : state.pathOf other = state.pathOf id := congrArg (Path.join state.folder) (fileName_inj.mpr hid.symm)
  rw [hpath]

/-- A folder is made for the first draft; a draft for another template and clearing a third one leave it. -/
theorem load_of_three_calls :
    let store : FolderDrafts := ⟨.ofNode (.folder []), "site/drafts"⟩
    let earlier : List DraftCall := [.save "a/b" (.singleton "name" (.text "Ada"))]
    let later : List DraftCall := [.save "a-b" (.singleton "name" (.text "Grace")), .clear "a_b.json"]
    let state := earlier.foldl DraftStore.after store
    ".." ∉ Text.pieces '/' store.folder ∧
      (∀ call ∈ later, call.id.map safeChar ≠ String.map safeChar "a/b") ∧
      DraftStore.load (later.foldl DraftStore.after state) "a/b" = DraftStore.load state "a/b" := by
  intro store earlier later state
  have hfolder : ".." ∉ Text.pieces '/' store.folder := by decide
  have hlater : ∀ call ∈ later, call.id.map safeChar ≠ String.map safeChar "a/b" := by decide +kernel
  exact ⟨hfolder, hlater, (load_of_calls_for_others store (Or.inr hfolder) earlier later "a/b").1 hlater⟩

/-- The draft of one template replaces that of another one. -/
theorem draft_replaced_of_same_file :
    let store : FolderDrafts := ⟨.ofNode (.folder []), "site/drafts"⟩
    let ada : AnswerSet := .singleton "name" (.text "Ada")
    let grace : AnswerSet := .singleton "name" (.text "Grace")
    let saved := (DraftStore.save store "a/b" ada).2
    "a_b" ≠ "a/b" ∧ DraftStore.load saved "a/b" = .ok (some ada) ∧
      DraftStore.load (DraftStore.save saved "a_b" grace).2 "a/b" = .ok (some grace) ∧
      DraftStore.load (DraftStore.clear saved "a_b").2 "a/b" = .ok none := by
  decide +kernel

/-! ## What is read back -/

/-- A text is read from its file. -/
theorem text?_ofText (s : String) : (Node.ofText s).text? = some s := Text.Utf8.decodeText?_encodeText s

/-- Saving leaves the document of the answers in the folder. -/
theorem find_of_save {saved : FolderDrafts} {answers : AnswerSet} (h : store.save id answers = (.ok (), saved)) :
    saved.folder = store.folder ∧ saved.disk.find (saved.pathOf id) = .ok (document answers) := by
  unfold save at h
  cases hmake : store.disk.makeFolders store.folder with
  | error cause =>
    rw [hmake] at h
    cases h
  | ok disk =>
    rw [hmake] at h
    dsimp only at h
    cases hwrite : disk.write (store.pathOf id) (document answers) with
    | error cause =>
      rw [hwrite] at h
      cases h
    | ok written =>
      rw [hwrite] at h
      cases h
      exact ⟨rfl, Disk.find_of_write (isPlain_fileName id) hwrite⟩

/-- The answers of a draft are those that JSON reads in its document. -/
theorem load_of_find {answers : AnswerSet} (h : store.disk.find (store.pathOf id) = .ok (document answers)) :
    store.load id = .ok (AnswerSet.ofJson? (Json.pretty answers.toDatum)) := by
  have htext : store.disk.readText (store.pathOf id) = .ok (Json.pretty answers.toDatum) :=
    Disk.readText_eq_ok_iff.mpr ⟨_, h, text?_ofText _⟩
  have hexists : store.disk.exists? (store.pathOf id) = true := by
    rw [Disk.exists?, h]
    rfl
  rw [load, if_pos hexists, htext]

/-- If a draft was saved, a new store for the same folder loads exactly the answers that were saved, provided that all
numbers among them are finite and that JSON reads each of these as what it writes for it. The texts may be any, also
those of numbers, truth values and no value. With a number that is not finite, there is no draft. -/
theorem load_of_saved_answers (store saved : FolderDrafts) (id : String) (answers : AnswerSet)
    (hsave : DraftStore.save store id answers = (.ok (), saved)) (hread : answers.IsReadBack) :
    DraftStore.load (⟨saved.disk, store.folder⟩ : FolderDrafts) id =
      .ok (if answers.IsFinite then some answers else none) := by
  obtain ⟨hfolder, hfind⟩ := find_of_save hsave
  have hload := load_of_find hfind
  rw [AnswerSet.ofJson?_pretty hread] at hload
  rw [← hfolder]
  exact hload

/-- A number, a truth value and texts that look like others are loaded as they were saved. -/
theorem load_of_saved_number_and_texts :
    let store : FolderDrafts := ⟨.ofNode (.folder []), "site/drafts"⟩
    let answers : AnswerSet :=
      .ofList [("age", .number 36.5), ("bio", .text "null"), ("hire", .bool true), ("name", .text "\"Ada\"\n 1e9")]
    let saved := (DraftStore.save store "a/b" answers).2
    (DraftStore.save store "a/b" answers).1 = .ok () ∧ answers.IsReadBack ∧ answers.IsFinite ∧
      DraftStore.load (⟨saved.disk, store.folder⟩ : FolderDrafts) "a/b" = .ok (some answers) := by
  intro store answers saved
  have hsaved : (DraftStore.save store "a/b" answers).1 = .ok () := by decide +kernel
  have hread : answers.IsReadBack := by
    have hentries : answers.entries = [("age", .number 36.5), ("bio", .text "null"), ("hire", .bool true),
        ("name", .text "\"Ada\"\n 1e9")] := rfl
    rw [AnswerSet.IsReadBack, hentries]
    simp only [List.forall_mem_cons]
    exact ⟨fun _ => rfl, trivial, trivial, trivial, nofun⟩
  have hfinite : answers.IsFinite := by decide +kernel
  have hload := load_of_saved_answers store saved "a/b" answers (Prod.ext hsaved rfl) hread
  rw [if_pos hfinite] at hload
  exact ⟨hsaved, hread, hfinite, hload⟩

/-- A number field takes the text of infinity as a number. The form commits it, but the draft with it is none. -/
theorem draft_lost_of_infinite_number :
    let form := TemplateConfig.simple [("age", .number), ("name", .text)]
    let start : TimedForm FolderDrafts := ⟨.start, .start ⟨.ofNode (.folder []), "site/drafts"⟩ {}⟩
    let writes : AnswerSet := .ofList [("age", .text "inf"), ("name", .text "Ada")]
    let session := (start.run [.selectTemplate "t", .applyConfig form, .updateNow writes]).session
    let saved := DraftStore.save session.drafts "t" session.answers
    session.answers = .ofList [("age", .number (1.0 / 0.0)), ("name", .text "Ada")] ∧ session.answers.IsReadBack ∧
      saved.1 = .ok () ∧ DraftStore.load (⟨saved.2.disk, saved.2.folder⟩ : FolderDrafts) "t" = .ok none := by
  intro form start writes session saved
  have hanswers : session.answers = .ofList [("age", .number (1.0 / 0.0)), ("name", .text "Ada")] := by decide +kernel
  have hinfinite : ¬(Answer.number (1.0 / 0.0)).IsFinite := by decide +kernel
  have hread : session.answers.IsReadBack := by
    rw [hanswers]
    have hentries : (NameMap.ofList [("age", Answer.number (1.0 / 0.0)), ("name", .text "Ada")]).entries =
        [("age", .number (1.0 / 0.0)), ("name", .text "Ada")] := rfl
    rw [AnswerSet.IsReadBack, hentries]
    simp only [List.forall_mem_cons]
    exact ⟨fun hfinite => absurd hfinite hinfinite, trivial, nofun⟩
  have hlost : saved.1 = .ok () ∧ DraftStore.load (⟨saved.2.disk, saved.2.folder⟩ : FolderDrafts) "t" = .ok none := by
    decide +kernel
  exact ⟨hanswers, hread, hlost⟩

end FolderDrafts

end SiteBuilder
