import Mathlib.Data.List.Nodup
import SiteBuilder.Preview.Host

/-!
# The ledger of a host

A host remembers its calls, latest first. Read as a ledger, they say which targets are live: those it
took in and was not given back. An orderly ledger takes in no target twice and gives back live targets
only. The numbers of the documents that a host shows have to agree with its ledger.
-/

namespace SiteBuilder.Preview

namespace HostCall

/-- The templates and generations of the targets that were taken in and not given back, latest first. -/
def live : List HostCall → List (String × Nat)
  | [] => []
  | .mount template generation :: earlier => (template, generation) :: live earlier
  | .refuse _ _ :: earlier => live earlier
  | .release template generation :: earlier => (live earlier).erase (template, generation)

/-- No target is taken in twice, and only live targets are given back. -/
def Orderly : List HostCall → Prop
  | [] => True
  | .mount template generation :: earlier => .mount template generation ∉ earlier ∧ Orderly earlier
  | .refuse _ _ :: earlier => Orderly earlier
  | .release template generation :: earlier => (template, generation) ∈ live earlier ∧ Orderly earlier

variable {calls : List HostCall} {template : String} {generation : Nat}

/-- What is live was taken in. -/
theorem mount_mem_of_mem_live (h : (template, generation) ∈ live calls) :
    .mount template generation ∈ calls := by
  induction calls with
  | nil => cases h
  | cons call earlier ih =>
    cases call with
    | mount template' generation' =>
      rcases List.mem_cons.mp h with heq | hearlier
      · cases heq
        exact List.mem_cons_self
      · exact List.mem_cons_of_mem _ (ih hearlier)
    | refuse template' generation' => exact List.mem_cons_of_mem _ (ih h)
    | release template' generation' => exact List.mem_cons_of_mem _ (ih (List.mem_of_mem_erase h))

/-- The end of an orderly ledger is orderly. -/
theorem Orderly.of_append {later earlier : List HostCall} (h : Orderly (later ++ earlier)) :
    Orderly earlier := by
  induction later with
  | nil => exact h
  | cons call later ih =>
    cases call with
    | mount template generation => exact ih h.2
    | refuse template generation => exact ih h
    | release template generation => exact ih h.2

/-- A target is given back after it was taken in. -/
theorem Orderly.mount_mem_of_release {later earlier : List HostCall}
    (h : Orderly (later ++ .release template generation :: earlier)) : .mount template generation ∈ earlier :=
  mount_mem_of_mem_live h.of_append.1

/-- What was given back was taken in. -/
theorem Orderly.mount_mem (h : Orderly calls) (hrelease : .release template generation ∈ calls) :
    .mount template generation ∈ calls := by
  obtain ⟨later, earlier, rfl⟩ := List.append_of_mem hrelease
  exact List.mem_append_right _ (List.mem_cons_of_mem _ h.mount_mem_of_release)

/-- In an orderly ledger no target is live twice. -/
theorem Orderly.nodup_live (h : Orderly calls) : (live calls).Nodup := by
  induction calls with
  | nil => exact List.nodup_nil
  | cons call earlier ih =>
    cases call with
    | mount template generation =>
      exact List.nodup_cons.mpr ⟨fun hlive => h.1 (mount_mem_of_mem_live hlive), ih h.2⟩
    | refuse template generation => exact ih h
    | release template generation => exact (ih h.2).erase _

/-- In an orderly ledger the live targets are those that were taken in and not given back. -/
theorem Orderly.mem_live_iff (h : Orderly calls) :
    (template, generation) ∈ live calls ↔
      .mount template generation ∈ calls ∧ .release template generation ∉ calls := by
  induction calls with
  | nil => simp [live]
  | cons call earlier ih =>
    cases call with
    | mount template' generation' =>
      have hfresh : .release template' generation' ∉ earlier := fun hrelease => h.1 (h.2.mount_mem hrelease)
      simp only [live, List.mem_cons, ih h.2, Prod.mk.injEq, mount.injEq, reduceCtorEq, false_or]
      constructor
      · rintro (⟨rfl, rfl⟩ | ⟨hmount, hrelease⟩)
        · exact ⟨Or.inl ⟨rfl, rfl⟩, hfresh⟩
        · exact ⟨Or.inr hmount, hrelease⟩
      · rintro ⟨heq | hmount, hrelease⟩
        · exact Or.inl heq
        · exact Or.inr ⟨hmount, hrelease⟩
    | refuse template' generation' =>
      simpa only [live, List.mem_cons, reduceCtorEq, false_or] using ih h
    | release template' generation' =>
      simp only [live, h.2.nodup_live.mem_erase_iff, ih h.2, List.mem_cons, reduceCtorEq, false_or,
        release.injEq, not_or, ne_eq, Prod.mk.injEq]
      tauto

/-- In an orderly ledger every target is taken in at most once. -/
theorem Orderly.count_mount_le_one (h : Orderly calls) : calls.count (.mount template generation) ≤ 1 := by
  induction calls with
  | nil => exact Nat.zero_le 1
  | cons call earlier ih =>
    cases call with
    | mount template' generation' =>
      rw [List.count_cons]
      by_cases hsame : mount template' generation' = mount template generation
      · rw [← hsame, List.count_eq_zero_of_not_mem h.1]
        simp
      · simpa [hsame] using ih h.2
    | refuse template' generation' => simpa using ih h
    | release template' generation' => simpa using ih h.2

/-- In an orderly ledger every target is given back at most once. -/
theorem Orderly.count_release_le_one (h : Orderly calls) :
    calls.count (.release template generation) ≤ 1 := by
  induction calls with
  | nil => exact Nat.zero_le 1
  | cons call earlier ih =>
    cases call with
    | mount template' generation' => simpa using ih h.2
    | refuse template' generation' => simpa using ih h
    | release template' generation' =>
      rw [List.count_cons]
      by_cases hsame : release template' generation' = release template generation
      · have hlive := (h.2.mem_live_iff.mp h.1).2
        rw [← hsame, List.count_eq_zero_of_not_mem hlive]
        simp
      · simpa [hsame] using ih h.2

end HostCall

namespace Host

/-- The live targets of a host are the given ones, latest first: it shows a document for each of them
and for nothing else, and its ledger and its counts agree with that. -/
structure Shows (host : Host) (targets : List Target) : Prop where
  documents : host.documents.map (fun entry => Handle.issued entry.1) = targets.map Target.handle
  numbered : ∀ entry ∈ host.documents, entry.1 < host.mounted
  distinct : (targets.map Target.handle).Nodup
  orderly : HostCall.Orderly host.calls
  live : HostCall.live host.calls = targets.map fun target => (target.template, target.generation)
  counted : host.mounted = host.released + targets.length

variable {host : Host} {targets : List Target}

/-- A new host shows nothing. -/
theorem shows_empty : empty.Shows [] where
  documents := rfl
  numbered := by simp [empty]
  distinct := List.nodup_nil
  orderly := trivial
  live := rfl
  counted := rfl

/-- Whether a host refuses documents is no part of what it shows. -/
theorem Shows.withRefusal (h : host.Shows targets) (refusal : Option String) :
    { host with refusal }.Shows targets :=
  ⟨h.documents, h.numbered, h.distinct, h.orderly, h.live, h.counted⟩

/-- A host has documents for the handles of its live targets and for no others. -/
theorem Shows.document?_isSome_iff (h : host.Shows targets) {handle : Handle} :
    (host.document? handle).isSome ↔ ∃ target ∈ targets, target.handle = handle := by
  have hhandles : (∃ target ∈ targets, target.handle = handle) ↔
      ∃ entry ∈ host.documents, Handle.issued entry.1 = handle := by
    rw [← List.mem_map, ← h.documents, List.mem_map]
  rw [hhandles]
  cases handle with
  | issued serial => simp [document?, List.lookup_isSome_iff]
  | unknown text => simp [document?]

/-- The live targets are the ones that were taken in and not given back. -/
theorem Shows.mem_iff (h : host.Shows targets) {template : String} {generation : Nat} :
    (∃ target ∈ targets, target.template = template ∧ target.generation = generation) ↔
      .mount template generation ∈ host.calls ∧ .release template generation ∉ host.calls := by
  rw [← h.orderly.mem_live_iff, h.live, List.mem_map]
  simp only [Prod.mk.injEq]

/-- A refused document changes nothing but the ledger. -/
theorem Shows.refuse (h : host.Shows targets) (template : String) (generation : Nat) :
    { host with calls := .refuse template generation :: host.calls }.Shows targets :=
  ⟨h.documents, h.numbered, h.distinct, h.orderly, h.live, h.counted⟩

/-- No live target has the handle that the host hands out next. -/
theorem Shows.handle_ne_issued (h : host.Shows targets) {target : Target} (htarget : target ∈ targets) :
    target.handle ≠ .issued host.mounted := by
  intro hsame
  have hmem : target.handle ∈ host.documents.map fun entry => Handle.issued entry.1 :=
    h.documents ▸ List.mem_map_of_mem htarget
  obtain ⟨entry, hentry, hnumber⟩ := List.mem_map.mp hmem
  have hlt := h.numbered entry hentry
  rw [Handle.issued.inj (hnumber.trans hsame)] at hlt
  exact Nat.lt_irrefl _ hlt

/-- A document of a new generation becomes the latest live target. -/
theorem Shows.mount (h : host.Shows targets) {template : String} {generation : Nat}
    (hfresh : .mount template generation ∉ host.calls) (document : String) :
    { host with
      documents := (host.mounted, document) :: host.documents
      mounted := host.mounted + 1
      calls := .mount template generation :: host.calls }.Shows
      (⟨.issued host.mounted, template, generation⟩ :: targets) where
  documents := by rw [List.map_cons, List.map_cons, h.documents]
  numbered := by
    intro entry hentry
    rcases List.mem_cons.mp hentry with rfl | hentry
    · exact Nat.lt_succ_self host.mounted
    · exact Nat.lt_succ_of_lt (h.numbered entry hentry)
  distinct := by
    refine List.nodup_cons.mpr ⟨fun hmem => ?_, h.distinct⟩
    obtain ⟨target, htarget, hsame⟩ := List.mem_map.mp hmem
    exact h.handle_ne_issued htarget hsame
  orderly := ⟨hfresh, h.orderly⟩
  live := by rw [HostCall.live, h.live, List.map_cons]
  counted := by rw [h.counted, List.length_cons, Nat.add_assoc]

/-- A live target that is given back is live no more, and all others still are. -/
theorem Shows.release {first second : List Target} {target : Target}
    (h : host.Shows (first ++ target :: second)) : (host.release target).Shows (first ++ second) := by
  have hdistinct := h.distinct
  have hlive := h.live
  have hnodup := h.orderly.nodup_live
  rw [List.map_append, List.map_cons] at hdistinct hlive
  rw [hlive] at hnodup
  obtain ⟨hhandle, hothers⟩ := List.nodup_cons.mp (List.nodup_middle.mp hdistinct)
  obtain ⟨hentry, -⟩ := List.nodup_cons.mp (List.nodup_middle.mp hnodup)
  refine ⟨?_, ?_, ?_, ⟨?_, h.orderly⟩, ?_, ?_⟩
  · have hkept : ∀ handle ∈ first.map Target.handle ++ second.map Target.handle,
        (handle != target.handle) = true :=
      fun handle hmem => bne_iff_ne.mpr fun hsame => hhandle (hsame ▸ hmem)
    calc (host.release target).documents.map (fun entry => Handle.issued entry.1)
        = (host.documents.map fun entry => Handle.issued entry.1).filter (· != target.handle) := by
          rw [List.filter_map]
          rfl
      _ = (first.map Target.handle ++ target.handle :: second.map Target.handle).filter
            (· != target.handle) := by
          rw [h.documents, List.map_append, List.map_cons]
      _ = (first ++ second).map Target.handle := by
          rw [List.filter_append, List.filter_cons_of_neg (by simp), ← List.filter_append,
            List.filter_eq_self.mpr hkept, List.map_append]
  · intro entry hmem
    exact h.numbered entry (List.mem_of_mem_filter hmem)
  · rw [List.map_append]
    exact hothers
  · rw [hlive]
    exact List.mem_append_right _ List.mem_cons_self
  · have hfirst := fun hmem => hentry (List.mem_append_left _ hmem)
    rw [Host.release, HostCall.live, hlive, List.erase_append_right _ hfirst, List.erase_cons_head,
      List.map_append]
  · have hcounted := h.counted
    simp only [Host.release, List.length_append, List.length_cons] at hcounted ⊢
    omega

/-- Giving back the target of a place, if there is one, leaves the others live. -/
theorem Shows.releaseAll (first second : List Target) {place : Option Target}
    (h : host.Shows (first ++ place.toList ++ second)) :
    (host.releaseAll place).Shows (first ++ second) := by
  cases place with
  | none => simpa [Host.releaseAll] using h
  | some target => exact Shows.release (by simpa using h)

end Host

end SiteBuilder.Preview
