import SiteBuilder.Page.Evaluation

/-!
# What statements print

Filling in a template that does not fault needs no look at the evaluation of its statements as a whole: each kind
of statement has its own condition for printing what is expected, and lists of statements print one after the
other. A loop is described by what its body prints for one item.
-/

namespace SiteBuilder.Page

section Printing

variable {depth : Nat} {scope next last : Scope} {statement : Statement} {rest : List Statement}
  {printed more : List Char}

/-- A name that has just been set has the value it was set to. -/
theorem Scope.value_set (scope : Scope) (name : String) (value : Value) :
    (scope.set name value).value name = value := by
  unfold Scope.set Scope.value
  cases scope.frames with
  | nil => simp [List.findSome?]
  | cons frame frames => simp [List.findSome?]

/-- Statements print one after the other. -/
theorem runAll_cons (hfirst : statement.run depth scope = .ok (printed, next))
    (hrest : runAll depth next rest = .ok (more, last)) :
    runAll depth scope (statement :: rest) = .ok (printed ++ more, last) := by
  rw [runAll, hfirst]
  simp only [bind, Except.bind, hrest, pure, Except.pure]

/-- Text is printed as it is. -/
theorem run_text (text : List Char) : (Statement.text text).run depth scope = .ok (text, scope) := by
  rw [Statement.run]

/-- An expression for a text prints the text. -/
theorem run_print {value : Expr} {text : String} (line : Nat) (hvalue : value.value scope = .ok (.text text)) :
    (Statement.print line value).run depth scope = .ok (text.toList, scope) := by
  rw [Statement.run, hvalue]
  rfl

/-- A condition that holds has the statements for it run. -/
theorem run_branch_of_holds {condition : Expr} {value : Value} {whenTrue whenFalse : List Statement} (line : Nat)
    (hcondition : condition.value scope = .ok value) (hdefined : defined line value = .ok value)
    (hholds : value.holds = true) :
    (Statement.branch line condition whenTrue whenFalse).run depth scope = runAll depth scope whenTrue := by
  rw [Statement.run, hcondition]
  simp only [bind, Except.bind, hdefined, hholds, ↓reduceIte]

/-- A condition that does not hold has the statements for its contrary run. -/
theorem run_branch_of_not_holds {condition : Expr} {value : Value} {whenTrue whenFalse : List Statement}
    (line : Nat) (hcondition : condition.value scope = .ok value) (hdefined : defined line value = .ok value)
    (hholds : value.holds = false) :
    (Statement.branch line condition whenTrue whenFalse).run depth scope = runAll depth scope whenFalse := by
  rw [Statement.run, hcondition]
  simp only [bind, Except.bind, hdefined, hholds, Bool.false_eq_true, ↓reduceIte]

/-- A scope with one more frame. -/
def Scope.within (scope : Scope) (frame : List (String × Value)) : Scope :=
  { scope with frames := frame :: scope.frames }

/-- Going through the rest of a list prints the body for every item that is left, and sets names of the innermost
frame only. -/
theorem foldlM_loop (scope : Scope) {name : String} {items : List Value} {body : List Statement} (line : Nat)
    (text : Value → List Char)
    (hbody : ∀ item ∈ items, ∀ inner : Scope, inner.value name = item →
      runAll (depth + 1) inner body = .ok (text item, inner))
    {left : List Value} (hleft : ∀ item ∈ left, item ∈ items) (index : Nat) (before : List Char)
    (frame : List (String × Value)) :
    ∃ after, (left.zipIdx index).foldlM (fun (printed, inner) (item, index) => do
        let inner := inner.set "loop" (loopRecord items index (depth + 1))
        let inner ← onLine line (inner.assign [name] item)
        let (more, inner) ← runAll (depth + 1) inner body
        return (printed ++ more, inner)) (before, scope.within frame) =
      (.ok (before ++ left.flatMap text, scope.within after) : Except Fault (List Char × Scope)) := by
  induction left generalizing index before frame with
  | nil => exact ⟨frame, by simp [pure, Except.pure]⟩
  | cons item rest ih =>
    let entered : List (String × Value) := (name, item) :: ("loop", loopRecord items index (depth + 1)) :: frame
    have hassigned : onLine line (((scope.within frame).set "loop" (loopRecord items index (depth + 1))).assign
        [name] item) = .ok (scope.within entered) := rfl
    have hitem : (scope.within entered).value name = item :=
      (((scope.within frame).set "loop" (loopRecord items index (depth + 1))).value_set name item)
    have hprinted := hbody item (hleft item List.mem_cons_self) (scope.within entered) hitem
    obtain ⟨after, hrest⟩ := ih (fun other hother => hleft other (List.mem_cons_of_mem _ hother)) (index + 1)
      (before ++ text item) entered
    refine ⟨after, ?_⟩
    rw [List.zipIdx_cons, List.foldlM_cons]
    simp only [hassigned, bind, Except.bind, hprinted, pure, Except.pure] at hrest ⊢
    rw [hrest, List.flatMap_cons, List.append_assoc]

/-- A loop over a list prints its body for every item, if the body prints what is expected of the item wherever
the name stands for it. -/
theorem run_loop {name : String} {source : Expr} {items : List Value} {body whenNone : List Statement} (line : Nat)
    (hsource : source.value scope = .ok (.list items)) (hitems : items.isEmpty = false) (text : Value → List Char)
    (hbody : ∀ item ∈ items, ∀ inner : Scope, inner.value name = item →
      runAll (depth + 1) inner body = .ok (text item, inner)) :
    (Statement.loop line [name] source none body whenNone).run depth scope = .ok (items.flatMap text, scope) := by
  obtain ⟨after, hloop⟩ := foldlM_loop scope line text hbody (fun _ hitem => hitem) 0 [] []
  rw [Statement.run, hsource]
  have hlisted : onLine line (itemsOf (.list items)) = .ok items := rfl
  simp only [bind, Except.bind, defined, hlisted, filteredItems, hitems, Bool.false_eq_true, ↓reduceIte] at hloop ⊢
  rw [show scope.push = scope.within [] from rfl, hloop]
  rfl

end Printing

end SiteBuilder.Page
