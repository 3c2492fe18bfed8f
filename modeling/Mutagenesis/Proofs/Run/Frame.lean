import Mutagenesis.Proofs.Run.Recording

/-!
# What a run leaves alone

In its output folder a run touches the files of its mutants and its summary and the folder of its
records. Everything else there is as it was, unless a query of the model has changed it.
-/
namespace Mutagenesis

open Files (Address Entry World Route isName)
open Artifacts (promptsAt)

namespace Artifacts

variable {w w' : World} {folder : Path} {r : Route} {a : Address} {name : Bytes} {v : Json}

/-- Whether an address in the output folder is none of those that a run writes to. -/
structure IsOther (r : Route) (a : Address) : Prop where
  inside : ∃ b, b ≠ [] ∧ a = b ++ r.address
  notMutants : a ≠ Text.bytes mutantsName :: r.address
  notSummary : a ≠ Text.bytes summaryName :: r.address
  notPrompts : ¬ promptsAt r <:+ a

/-- The folders on the way to the records are no other addresses. -/
theorem IsOther.ne_front (h : IsOther r a) {front : List Bytes}
    (hfront : front <+: (r.into (Text.bytes promptsName)).names) : a ≠ front.reverse ++ r.base := by
  rintro rfl
  obtain rfl | before := List.prefix_concat_iff.1 hfront
  · exact h.notPrompts (by simp [promptsAt, Route.address])
  · obtain ⟨b, some_below, same⟩ := h.inside
    have short := before.length_le
    have long := congrArg List.length same
    have := List.length_pos_iff.2 some_below
    simp only [Route.address, List.length_append, List.length_reverse] at long
    omega

/-- Writing a value changes nothing but the file and the folders on the way to it. -/
theorem keeps_of_writeJson {avoided : Address} {p : Path} (hname : isName name = true)
    (takes : w.Takes avoided p r) (h : writeJson w (p.join ⟨name⟩) v = (.ok (), w')) :
    World.Keeps avoided w w' ∧ ∀ a, (∀ front, front <+: r.names → a ≠ front.reverse ++ r.base) →
      a ≠ name :: r.address → w'.get? a = w.get? a := by
  obtain ⟨w₁, ⟨kept, same⟩, -, -, -, noFolder, rfl⟩ := writeJson_eq_ok
    (I := World.Paves avoided r w) hname (fun h => takes.keeps h.keeps) World.Paves.put
    (.refl avoided r w) h
  have below := (takes.keeps kept).below [name]
  refine ⟨kept.trans (World.keeps_put noFolder below (by simp)), fun a outside other => ?_⟩
  rw [World.get?_put _ _ _ (List.cons_ne_nil _ _), if_neg other, same a outside]

theorem get?_of_removeIfPresent (takes : w.Takes (promptsAt r) folder r)
    (hname : isName name = true) (other : a ≠ name :: r.address)
    (h : removeIfPresent w (folder.join ⟨name⟩) = .ok w') : w'.get? a = w.get? a := by
  obtain ⟨b, located, -, rfl⟩ | ⟨rfl, -⟩ := removeIfPresent_cases h
  · obtain rfl := ((takes.locate_join_eq_ok hname).1 located).2.2.2
    rw [World.erase, World.get?_remove, if_neg fun h => other (by simpa using h.2)]
  · rfl

theorem get?_of_removeRecords (takes : w.Takes (promptsAt r) folder r)
    (other : ¬ promptsAt r <:+ a) (h : removeRecords w folder = .ok w') :
    w'.get? a = w.get? a := by
  obtain rfl | ⟨rfl, -⟩ := removeRecords_cases takes h
  · rw [World.eraseTree, World.get?_remove, if_neg]
    rintro ⟨-, within⟩
    exact other (List.isSuffixOf_iff_suffix.1 within)
  · rfl

/-- Clearing the output folder leaves the other addresses there as they are. -/
theorem get?_of_clear (tree : w.IsTree) (takes : w.Takes (promptsAt r) folder r)
    (other : IsOther r a) (h : clear w folder = (.ok (), w')) : w'.get? a = w.get? a := by
  obtain ⟨w₁, w₂, records, mutants, summary⟩ := clear_eq_ok h
  obtain ⟨takes₁, none_left⟩ := removeRecords_eq_ok (tree.isSupported _) takes records
  obtain ⟨takes₂, -⟩ := removeIfPresent_eq_ok isName_mutantsName takes₁ none_left mutants
  calc w'.get? a = w₂.get? a :=
        get?_of_removeIfPresent takes₂ isName_summaryName other.notSummary summary
    _ = w₁.get? a := get?_of_removeIfPresent takes₁ isName_mutantsName other.notMutants mutants
    _ = w.get? a := get?_of_removeRecords takes other.notPrompts records

/-- Writing a record leaves the other addresses as they are. -/
theorem get?_of_saveRecord {x : PromptRecord} (takes : w.Takes (promptsAt r) folder r)
    (h : saveRecord w folder x = (.ok (), w')) :
    w'.Takes (promptsAt r) folder r ∧ ∀ a, IsOther r a → w'.get? a = w.get? a := by
  obtain ⟨kept, same⟩ :=
    keeps_of_writeJson (isName_recordName x.id) (takes.join isName_promptsName) h
  refine ⟨takes.keeps kept, fun a other => same a (fun _ => other.ne_front) ?_⟩
  rintro rfl
  refine other.notPrompts ?_
  rw [Route.address_into]
  exact List.suffix_cons _ _

/-- So does writing a file into the output folder, unless it is that address. -/
theorem get?_of_writeJson (hname : isName name = true) (takes : w.Takes (promptsAt r) folder r)
    (h : writeJson w (folder.join ⟨name⟩) v = (.ok (), w')) :
    w'.Takes (promptsAt r) folder r ∧
      ∀ a, IsOther r a → a ≠ name :: r.address → w'.get? a = w.get? a := by
  obtain ⟨kept, same⟩ := keeps_of_writeJson hname takes h
  refine ⟨takes.keeps kept, fun a other => same a fun front hfront => ?_⟩
  exact other.ne_front (hfront.trans (List.prefix_append _ _))

end Artifacts

namespace Job

variable {σ : Type} {j : Job} {m : Model σ} {folder : Path} {r : Route} {a : Address}

/-- On its way a run leaves the other addresses as the queries do. -/
theorem Visits.get?_eq (output : j.output = some folder) (other : Artifacts.IsOther r a)
    {specs : List (SourceFile × PromptSpec)} {p p' : Progress} {s s' : World × σ} {ts : List Turn}
    (way : Visits j m specs p s ts p' s')
    (spared : ∀ t ∈ ts, Artifacts.Spared folder r t.before t.after)
    (same : ∀ t ∈ ts, t.after.get? a = t.before.get? a)
    (takes : s.1.Takes (promptsAt r) folder r) :
    s'.1.Takes (promptsAt r) folder r ∧ s'.1.get? a = s.1.get? a := by
  induction way with
  | done => exact ⟨takes, rfl⟩
  | full => exact ⟨takes, rfl⟩
  | unfit _ _ _ ih => exact ih spared same takes
  | filtered _ _ _ _ ih => exact ih spared same takes
  | @asked file spec more p s ts p' s' code outcome s₁ w₂ _ _ _ _ saved _ ih =>
      rw [List.forall_mem_cons] at spared same
      have takes₁ := spared.1.takes takes
      obtain ⟨takes₂, same₂⟩ : w₂.Takes (promptsAt r) folder r ∧ w₂.get? a = s₁.1.get? a := by
        unfold save at saved
        cases hrecord : recordOf? ⟨p.prompts.nextId, render j.template code spec, spec⟩ outcome with
        | none =>
            simp only [output, hrecord, Prod.mk.injEq, true_and] at saved
            subst saved
            exact ⟨takes₁, rfl⟩
        | some x =>
            simp only [output, hrecord] at saved
            obtain ⟨takes₂, same₂⟩ := Artifacts.get?_of_saveRecord takes₁ saved
            exact ⟨takes₂, same₂ a other⟩
      obtain ⟨takes', same'⟩ := ih spared.2 same.2 takes₂
      exact ⟨takes', same'.trans (same₂.trans same.1)⟩

/-- A run that comes to its end leaves the other addresses of its output folder as the queries
do. -/
theorem get?_of_generate {files : List SourceFile} {s s' : World × σ} {result : RunResult}
    (output : j.output = some folder) (tree : s.1.IsTree)
    (takes : s.1.Takes (promptsAt r) folder r)
    (spared : ∀ q ∈ j.log m files s, Artifacts.Spared folder r q.before q.after)
    (h : j.generate m files s = (.ok result, s')) (other : Artifacts.IsOther r a)
    (same : ∀ q ∈ j.log m files s, q.after.get? a = q.before.get? a) :
    s'.1.get? a = s.1.get? a := by
  obtain ⟨w₁, p, w₂, s₂, cleared, way, -, saved, -⟩ := generate_eq_ok h
  have cleared : Artifacts.clear s.1 folder = (.ok (), w₁) := by simpa [clear, output] using cleared
  have same₁ := Artifacts.get?_of_clear tree takes other cleared
  have takes₁ := (Artifacts.recorded_of_clear (tree.isSupported _) takes cleared).takes
  rw [log_eq_turns, List.forall_mem_map] at spared same
  obtain ⟨takes₂, same₂⟩ := way.get?_eq output other spared same takes₁
  obtain ⟨w₃, mutants, summary⟩ := saveResult_eq_ok output saved
  obtain ⟨takes₃, same₃⟩ :=
    Artifacts.get?_of_writeJson Artifacts.isName_mutantsName takes₂ mutants
  obtain ⟨-, same₄⟩ := Artifacts.get?_of_writeJson Artifacts.isName_summaryName takes₃ summary
  calc s'.1.get? a = w₃.get? a := same₄ a other other.notSummary
    _ = w₂.get? a := same₃ a other other.notMutants
    _ = w₁.get? a := same₂
    _ = s.1.get? a := same₁

end Job

end Mutagenesis
