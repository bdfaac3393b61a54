import SiteBuilder.Form.Config

/-!
# The shapes that fields hold

Number fields hold numbers, boolean fields truth values and all others texts; the empty text fits every
field. Typing an answer puts it into the shape of its field and leaves one that has the shape unchanged,
so typing twice is typing once. The default of a field has the shape whatever its form declares.
-/

namespace SiteBuilder

namespace FieldKind

/-- Whether the fields of a kind hold texts. -/
def isTextual : FieldKind → Bool
  | .number | .boolean => false
  | .text | .textarea | .color | .url | .email | .select => true

/-- Whether the fields of a kind hold an answer. -/
def Holds (kind : FieldKind) : Answer → Prop
  | .text s => s = "" ∨ kind.isTextual = true
  | .number _ => kind = .number
  | .bool _ => kind = .boolean

instance (kind : FieldKind) : DecidablePred kind.Holds
  | .text s => inferInstanceAs (Decidable (s = "" ∨ _))
  | .number _ => inferInstanceAs (Decidable (kind = _))
  | .bool _ => inferInstanceAs (Decidable (kind = _))

/-- A textual kind stores the text of every answer. -/
theorem stored?_of_isTextual {kind : FieldKind} (hkind : kind.isTextual = true) (answer : Answer) :
    kind.stored? answer = some (.text answer.display) := by
  unfold stored?
  split
  next hempty => rw [hempty]; rfl
  next =>
    cases kind with
    | number | boolean => cases hkind
    | _ => rfl

/-- The stored form of an answer has the shape of the kind. -/
theorem holds_of_stored? {kind : FieldKind} {answer stored : Answer}
    (h : kind.stored? answer = some stored) : kind.Holds stored := by
  unfold stored? at h
  by_cases hempty : answer = .text ""
  · rw [if_pos hempty] at h
    cases h
    exact hempty ▸ Or.inl rfl
  · rw [if_neg hempty] at h
    cases kind
    case number =>
      cases answer with
      | bool b => cases h
      | number x => cases h; rfl
      | text s =>
        obtain ⟨x, -, rfl⟩ := Option.map_eq_some_iff.mp h
        rfl
    case boolean =>
      cases answer with
      | bool b => cases h; rfl
      | number x => cases h
      | text s =>
        dsimp only at h
        split at h
        · cases h; rfl
        · split at h <;> cases h
          rfl
    all_goals
      cases h
      exact Or.inr rfl

/-- An answer that has the shape of the kind is stored as it is. -/
theorem stored?_of_holds {kind : FieldKind} {answer : Answer} (h : kind.Holds answer) :
    kind.stored? answer = some answer := by
  cases answer with
  | bool b =>
    cases (h : kind = .boolean)
    rfl
  | number x =>
    cases (h : kind = .number)
    rfl
  | text s =>
    rcases h with rfl | hkind
    · rfl
    · exact stored?_of_isTextual hkind _

/-- The zero of a kind has its shape. -/
theorem holds_zero (kind : FieldKind) : kind.Holds kind.zero := by
  cases kind with
  | number | boolean => rfl
  | _ => exact Or.inl rfl

/-- Typing succeeds with the stored form. -/
theorem coerce_eq_ok_iff {kind : FieldKind} {field : String} {answer stored : Answer} :
    kind.coerce field answer = .ok stored ↔ kind.stored? answer = some stored := by
  unfold coerce
  split
  next heq => simp [heq]
  next heq => simp [heq]

end FieldKind

/-- The default of a field has the shape of the field. -/
theorem Field.holds_defaultValue (field : Field) : field.kind.Holds field.defaultValue := by
  unfold Field.defaultValue
  cases h : field.default.bind field.kind.stored? with
  | none => exact field.kind.holds_zero
  | some stored =>
    obtain ⟨answer, -, hstored⟩ := Option.bind_eq_some_iff.mp h
    exact FieldKind.holds_of_stored? hstored

end SiteBuilder
