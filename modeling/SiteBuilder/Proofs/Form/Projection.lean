import SiteBuilder.Proofs.Form.Shape

/-!
# Typing is a projection

Typing keeps an answer exactly if it is the empty text or has the shape of the kind of its field already, and whatever
it gives is such an answer. So nothing drifts when answers of the queue, of a draft or of a form's defaults are typed
again. Textual kinds type every answer and keep its text. A number field does not keep the text that a number was read
from: blanks around it and zeros at its end are gone.
-/

namespace SiteBuilder.FieldKind

/-- An answer has the shape of its own that the fields of a kind have: it is a number, a truth value or a text. -/
def HasShape (kind : FieldKind) (answer : Answer) : Prop :=
  match kind with
  | .number => ∃ x, answer = .number x
  | .boolean => ∃ b, answer = .bool b
  | .text | .textarea | .color | .url | .email | .select => ∃ s, answer = .text s

variable {kind : FieldKind} {answer : Answer}

/-- The fields of a kind hold the answers of their shape and the empty text. -/
theorem holds_iff_hasShape : kind.Holds answer ↔ answer = .text "" ∨ kind.HasShape answer := by
  cases answer with
  | bool b => cases kind <;> simp [Holds, HasShape]
  | number x => cases kind <;> simp [Holds, HasShape]
  | text s => cases kind <;> simp [Holds, HasShape, isTextual]

/-- The answers that typing keeps are those that the fields of the kind hold. -/
theorem coerce_eq_self_iff {name : String} : kind.coerce name answer = .ok answer ↔ kind.Holds answer := by
  rw [coerce_eq_ok_iff]
  exact ⟨holds_of_stored?, stored?_of_holds⟩

/-- A textual kind types every answer as its text. -/
theorem coerce_of_isTextual (hkind : kind.isTextual = true) (name : String) (answer : Answer) :
    kind.coerce name answer = .ok (.text answer.display) :=
  coerce_eq_ok_iff.mpr (stored?_of_isTextual hkind answer)

/-- For every kind, field name and answer:

* what typing gives is the empty text or has the shape of the kind, it is kept when it is typed again, whatever the
  name of the field, and for a textual kind it shows the same text as the answer;
* a textual kind types every answer;
* an answer is kept exactly if it is the empty text or has the shape of the kind;
* the default of a field is kept, whatever its form declares. -/
theorem coerce_projects (kind : FieldKind) (name : String) (answer : Answer) :
    (∀ stored, kind.coerce name answer = .ok stored →
      (stored = .text "" ∨ kind.HasShape stored) ∧ (∀ other, kind.coerce other stored = .ok stored) ∧
        (kind.isTextual = true → stored.display = answer.display)) ∧
      (kind.isTextual = true → ∃ stored, kind.coerce name answer = .ok stored) ∧
      (kind.coerce name answer = .ok answer ↔ answer = .text "" ∨ kind.HasShape answer) ∧
      ∀ field : Field, (field.defaultValue = .text "" ∨ field.kind.HasShape field.defaultValue) ∧
        field.kind.coerce field.name field.defaultValue = .ok field.defaultValue := by
  refine ⟨fun stored hstored => ⟨?_, fun other => ?_, fun hkind => ?_⟩, fun hkind => ?_, ?_, fun field => ⟨?_, ?_⟩⟩
  · exact holds_iff_hasShape.mp (holds_of_stored? (coerce_eq_ok_iff.mp hstored))
  · exact coerce_eq_self_iff.mpr (holds_of_stored? (coerce_eq_ok_iff.mp hstored))
  · rw [coerce_of_isTextual hkind] at hstored
    cases hstored
    rfl
  · exact ⟨_, coerce_of_isTextual hkind name answer⟩
  · rw [coerce_eq_self_iff, holds_iff_hasShape]
  · exact holds_iff_hasShape.mp field.holds_defaultValue
  · exact coerce_eq_self_iff.mpr field.holds_defaultValue

/-- A number that is written with blanks around it is read once and then kept, and a text field keeps the text of a
number. -/
theorem coerce_projects_written_number :
    number.coerce "age" (.text " 4.50 ") = .ok (.number 4.5) ∧
      (∀ other, number.coerce other (.number 4.5) = .ok (.number 4.5)) ∧
      isTextual .select = true ∧ select.coerce "size" (.number 4.5) = .ok (.text "4.5") ∧
      (Answer.text "4.5").display = (Answer.number 4.5).display := by
  have hread : number.coerce "age" (.text " 4.50 ") = .ok (.number 4.5) :=
    coerce_eq_ok_iff.mpr (by decide +kernel)
  have hselect : select.coerce "size" (.number 4.5) = .ok (.text "4.5") := coerce_eq_ok_iff.mpr (by decide +kernel)
  obtain ⟨hnumber, -⟩ := coerce_projects .number "age" (.text " 4.50 ")
  obtain ⟨htext, -⟩ := coerce_projects .select "size" (.number 4.5)
  exact ⟨hread, (hnumber _ hread).2.1, rfl, hselect, (htext _ hselect).2.2 rfl⟩

end SiteBuilder.FieldKind
