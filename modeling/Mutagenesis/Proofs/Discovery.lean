import Mutagenesis.Discovery
import Mutagenesis.Proofs.Location

/-!
# Discovered specifications

What discovery promises of each specification: its location lies in the file that was searched, no
two specifications have the same location, and a specification whose location fits the source holds
the text that stands there. Of those found, the first of each location is kept if it is short
enough.
-/
namespace Mutagenesis

open Syntax (Node)

namespace Syntax.Node

variable {file : String} {source : List Char} {target : Node × String} {spec : PromptSpec}

theorem spec?_eq_some (h : spec? file source target = some spec) :
    ∃ start stop, positionOf source target.1.start = some start ∧
      positionOf source target.1.stop = some stop ∧
      spec.location = .between file start stop ∧
      target.1.text? source = some spec.orig := by
  simp only [spec?, location?, Option.bind_eq_bind, Option.pure_def, Option.bind_eq_some_iff,
    Option.some.injEq] at h
  obtain ⟨location, ⟨start, hstart, stop, hstop, rfl⟩, orig, htext, rfl⟩ := h
  exact ⟨start, stop, hstart, hstop, rfl, htext⟩

/-- Where a location fits the source it was made for, it holds the text of its node. -/
theorem fragment_of_spec? {source : String}
    (h : spec? file source.toList target = some spec) (fits : spec.location.fits source = true) :
    fragment source spec.location = some spec.orig := by
  obtain ⟨start, stop, hstart, hstop, hlocation, htext⟩ := spec?_eq_some h
  have hstart : byteOffset source.toList start.1 start.2 = some target.1.start :=
    byteOffset_of_positionOf hstart
  have hstop : byteOffset source.toList stop.1 stop.2 = some target.1.stop :=
    byteOffset_of_positionOf hstop
  have range : spec.location.byteRange source.toList =
      if target.1.start ≤ target.1.stop then some (target.1.start, target.1.stop) else none := by
    simp [hlocation, Location.byteRange, Location.between, hstart, hstop]
  have hle : target.1.start ≤ target.1.stop := by
    apply Decidable.byContradiction
    intro hlt
    simp [Location.fits, range, hlt] at fits
  rw [if_pos hle] at range
  simp only [text?, Option.bind_eq_bind, Option.pure_def, Option.bind_eq_some_iff,
    Option.some.injEq] at htext
  obtain ⟨⟨before, rest⟩, hbefore, ⟨own, after⟩, hown, horig⟩ := htext
  simp [fragment, Location.parts, range, hbefore, hown, ← horig]

end Syntax.Node

namespace PromptSpec

variable {maxLines : Nat} {spec x : PromptSpec} {found specs : List PromptSpec}

/-- A specification is added when it is short enough and the first of its location. -/
def Joins (maxLines : Nat) (specs : List PromptSpec) (spec : PromptSpec) : Prop :=
  spec.location.nrLines ≤ maxLines ∧ ∀ s ∈ specs, s.location ≠ spec.location

theorem mem_addTo_iff :
    x ∈ addTo maxLines specs spec ↔ x ∈ specs ∨ x = spec ∧ Joins maxLines specs spec := by
  unfold addTo Joins
  split
  next long =>
    have long : ¬spec.location.nrLines ≤ maxLines := by omega
    simp [long]
  next short =>
    have short : spec.location.nrLines ≤ maxLines := by omega
    split
    next seen =>
      obtain ⟨s, hs, same⟩ : ∃ s ∈ specs, s.location = spec.location := by simpa using seen
      have stale : ¬∀ s ∈ specs, s.location ≠ spec.location := fun fresh => fresh s hs same
      simp only [stale, and_false, or_false]
    next fresh =>
      have fresh : ∀ s ∈ specs, s.location ≠ spec.location := by simpa using fresh
      simp only [List.mem_append, List.mem_singleton, short, true_and]
      exact or_congr_right (iff_self_and.2 fun _ => fresh)

/-- Of those found, the ones are kept that are the first of their location and short enough. -/
theorem mem_foldl_addTo_iff :
    x ∈ found.foldl (addTo maxLines) specs ↔ x ∈ specs ∨
      Joins maxLines specs x ∧ (found.find? fun s => s.location = x.location) = some x := by
  induction found generalizing specs with
  | nil => simp
  | cons spec found ih =>
      rw [List.foldl_cons, ih, mem_addTo_iff, or_assoc]
      refine or_congr_right ?_
      by_cases same : spec.location = x.location
      · -- later ones of this location are not the first
        have joins : Joins maxLines specs spec ↔ Joins maxLines specs x := by
          simp only [Joins, same]
        have full : ¬Joins maxLines (addTo maxLines specs spec) x := by
          rintro ⟨short, fresh⟩
          have hspec : Joins maxLines specs spec := joins.2
            ⟨short, fun s hs => fresh s (mem_addTo_iff.2 (.inl hs))⟩
          exact fresh spec (mem_addTo_iff.2 (.inr ⟨rfl, hspec⟩)) same
        simp only [full, false_and, or_false, joins, List.find?_cons, same, decide_true,
          Option.some.injEq]
        exact ⟨fun h => ⟨h.2, h.1.symm⟩, fun h => ⟨h.2.symm, h.1⟩⟩
      · have other : x ≠ spec := fun h => same (h ▸ rfl)
        have joins : Joins maxLines (addTo maxLines specs spec) x ↔ Joins maxLines specs x := by
          refine and_congr_right fun _ => ⟨fun fresh s hs => ?_, fun fresh s hs => ?_⟩
          · exact fresh s (mem_addTo_iff.2 (.inl hs))
          · obtain hs | ⟨rfl, -⟩ := mem_addTo_iff.1 hs
            · exact fresh s hs
            · exact same
        simp only [other, false_and, false_or, joins, List.find?_cons, same, decide_false]

/-- No location is added twice. -/
theorem nodup_addTo {maxLines : Nat} {specs : List PromptSpec}
    (h : (specs.map (·.location)).Nodup) (spec : PromptSpec) :
    ((addTo maxLines specs spec).map (·.location)).Nodup := by
  unfold addTo
  split
  next => exact h
  next =>
    split
    next => exact h
    next fresh =>
      have absent : ∀ x ∈ specs, x.location ≠ spec.location := by simpa using fresh
      rw [List.map_append, List.nodup_append]
      refine ⟨h, by simp, ?_⟩
      intro a ha b hb
      obtain ⟨x, hx, rfl⟩ := List.mem_map.1 ha
      obtain rfl : b = spec.location := by simpa using hb
      exact absent x hx

theorem nodup_foldl_addTo {maxLines : Nat} (found : List PromptSpec) {specs : List PromptSpec}
    (h : (specs.map (·.location)).Nodup) :
    ((found.foldl (addTo maxLines) specs).map (·.location)).Nodup := by
  induction found generalizing specs with
  | nil => exact h
  | cons spec found ih => exact ih (nodup_addTo h spec)

end PromptSpec

variable {file source : String} {language : Language} {maxLines : Nat}

/-- Every specification is that of some target. -/
theorem exists_spec?_of_mem_discover {spec : PromptSpec}
    (h : spec ∈ discover file source language maxLines) :
    ∃ target, Node.spec? file source.toList target = some spec := by
  unfold discover at h
  split at h
  next => simp at h
  next tree _ =>
    have hfold := (List.mergeSort_perm _ PromptSpec.positionLe).mem_iff.1 h
    obtain hnil | ⟨-, hfirst⟩ := PromptSpec.mem_foldl_addTo_iff.1 hfold
    · simp at hnil
    · obtain ⟨target, -, htarget⟩ := List.mem_filterMap.1 (List.mem_of_find?_eq_some hfirst)
      exact ⟨target, htarget⟩

theorem file_of_mem_discover {spec : PromptSpec}
    (h : spec ∈ discover file source language maxLines) : spec.location.file = file := by
  obtain ⟨target, htarget⟩ := exists_spec?_of_mem_discover h
  obtain ⟨start, stop, -, -, hlocation, -⟩ := Node.spec?_eq_some htarget
  rw [hlocation]
  rfl

/-- A specification holds the text at its location. -/
theorem fragment_of_mem_discover {spec : PromptSpec}
    (h : spec ∈ discover file source language maxLines) (fits : spec.location.fits source = true) :
    fragment source spec.location = some spec.orig := by
  obtain ⟨target, htarget⟩ := exists_spec?_of_mem_discover h
  exact Node.fragment_of_spec? htarget fits

theorem nodup_specsOfTree (file : String) (source : List Char) (tree : Node) (maxLines : Nat) :
    ((specsOfTree file source tree maxLines).map (·.location)).Nodup :=
  ((List.mergeSort_perm _ PromptSpec.positionLe).map _).nodup_iff.2
    (PromptSpec.nodup_foldl_addTo _ List.nodup_nil)

/-- No two specifications of a source have the same location. -/
theorem nodup_discover (file source : String) (language : Language) (maxLines : Nat) :
    ((discover file source language maxLines).map (·.location)).Nodup := by
  unfold discover
  split
  next => exact List.nodup_nil
  next tree _ => exact nodup_specsOfTree file source.toList tree maxLines

end Mutagenesis
