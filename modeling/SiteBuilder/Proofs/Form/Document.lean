import SiteBuilder.Form.Document
import SiteBuilder.Proofs.Json.ReadBack
import SiteBuilder.Proofs.NameMap

/-!
# Answers in documents

Answers are written as bare values. A text and a truth value are read as what they were, whatever the text looks like,
and a finite number is read as JSON reads the number alone. A number that is not finite has no value in JSON, and a
document with such an answer has no answers at all.
-/

namespace SiteBuilder

namespace Answer

/-- The answer is a finite number, a text or a truth value. -/
def IsFinite : Answer → Prop
  | .number x => x.isNaN = false ∧ x.isInf = false
  | _ => True

instance : DecidablePred IsFinite := fun answer =>
  match answer with
  | .number x => inferInstanceAs (Decidable (x.isNaN = false ∧ x.isInf = false))
  | .bool _ | .text _ => .isTrue trivial

/-- If the answer is a finite number, JSON reads what it writes for it. -/
def IsReadBack : Answer → Prop
  | .number x => (Answer.number x).IsFinite → Json.read (Json.pretty (.float x)) = some (.float x)
  | _ => True

end Answer

/-- What JSON makes of a value that is not a list or a record. -/
def Datum.inJson : Datum → Datum
  | .float x => if (Answer.number x).IsFinite then .float x else .null
  | value => value

namespace Answer

/-- An answer is read as what JSON makes of it. -/
theorem readAs_prettyAt (level : Nat) {answer : Answer} (h : answer.IsReadBack) :
    Json.ReadAs (Json.prettyAt level answer.toDatum) answer.toDatum.inJson := by
  cases answer with
  | bool b => exact Json.readAs_bool b
  | text s => exact Json.readAs_quote s
  | number x =>
    by_cases hfinite : (Answer.number x).IsFinite
    · rw [toDatum, Datum.inJson, if_pos hfinite]
      exact Json.readAs_of_read (h hfinite)
    · have hnull : Json.prettyAt level (toDatum (.number x)) = "null" := by
        show Decimal.Layout.json.text x = "null"
        rw [Decimal.Layout.text]
        by_cases hnan : x.isNaN = true
        · rw [if_pos hnan]
          rfl
        · have hinf : x.isInf = true := by
            by_contra hinf
            exact hfinite ⟨Bool.eq_false_iff.mpr hnan, Bool.eq_false_iff.mpr hinf⟩
          simp only [if_neg hnan, if_pos hinf]
          split <;> rfl
      rw [hnull, toDatum, Datum.inJson, if_neg hfinite]
      exact Json.readAs_null

/-- An answer is found in what JSON makes of it unless it is a number that is not finite. -/
theorem ofDatum?_inJson (answer : Answer) :
    ofDatum? answer.toDatum.inJson = if answer.IsFinite then some answer else none := by
  cases answer with
  | bool b => rfl
  | text s => rfl
  | number x =>
    rw [toDatum, Datum.inJson]
    split <;> rfl

end Answer

namespace AnswerSet

/-- No answer is a number that is not finite. -/
def IsFinite (answers : AnswerSet) : Prop := ∀ entry ∈ answers.entries, entry.2.IsFinite

instance : DecidablePred IsFinite := fun answers =>
  inferInstanceAs (Decidable (∀ entry ∈ answers.entries, entry.2.IsFinite))

/-- JSON reads what it writes for every finite number among the answers. -/
def IsReadBack (answers : AnswerSet) : Prop := ∀ entry ∈ answers.entries, entry.2.IsReadBack

/-- Answers are found in the record of what JSON makes of them if no number among them is not finite. -/
theorem mapM_ofDatum?_inJson (entries : List (String × Answer)) :
    (entries.map fun entry => (entry.1, entry.2.toDatum.inJson)).mapM
        (fun entry : String × Datum => (Answer.ofDatum? entry.2).map (entry.1, ·)) =
      if ∀ entry ∈ entries, entry.2.IsFinite then some entries else none := by
  induction entries with
  | nil => rfl
  | cons entry rest ih =>
    rw [List.map_cons, List.mapM_cons, ih, Answer.ofDatum?_inJson]
    by_cases hfirst : entry.2.IsFinite
    · by_cases hrest : ∀ entry ∈ rest, entry.2.IsFinite
      · have hall : ∀ other ∈ entry :: rest, other.2.IsFinite := List.forall_mem_cons.mpr ⟨hfirst, hrest⟩
        rw [if_pos hfirst, if_pos hrest, if_pos hall]
        rfl
      · have hall : ¬∀ other ∈ entry :: rest, other.2.IsFinite := fun hall => hrest (List.forall_mem_cons.mp hall).2
        rw [if_pos hfirst, if_neg hrest, if_neg hall]
        rfl
    · have hall : ¬∀ other ∈ entry :: rest, other.2.IsFinite := fun hall => hfirst (List.forall_mem_cons.mp hall).1
      rw [if_neg hfirst, if_neg hall]
      rfl

/-- The answers that are read from the document of answers are these, if no number among them is not finite. -/
theorem ofJson?_pretty {answers : AnswerSet} (h : answers.IsReadBack) :
    ofJson? (Json.pretty answers.toDatum) = if answers.IsFinite then some answers else none := by
  have hentries : ∀ entry ∈ answers.entries.map fun written => (written.1, written.2.toDatum),
      Json.ReadAs (Json.prettyAt 1 entry.2) entry.2.inJson := by
    intro entry hentry
    obtain ⟨written, hwritten, rfl⟩ := List.mem_map.mp hentry
    exact Answer.readAs_prettyAt 1 (h written hwritten)
  rw [ofJson?, toDatum, Json.read_pretty_record Datum.inJson hentries, Option.bind_some, ofDatum?, List.map_map]
  have hread := congrArg (Option.map NameMap.ofList) (mapM_ofDatum?_inJson answers.entries)
  refine hread.trans ?_
  rw [apply_ite (Option.map NameMap.ofList), Option.map_some, Option.map_none, NameMap.ofList_entries]
  rfl

end AnswerSet

end SiteBuilder
