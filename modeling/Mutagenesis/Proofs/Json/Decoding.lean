import Mathlib.Data.List.ReduceOption
import Mutagenesis.Proofs.Json.Texts

/-!
# Decoding written values

`Written d v x` says that the decoder `d` makes `x` of the value `v` and of its text. Numbers, texts
and lists are written so, and a record is when it has a row for each of its fields that is not left
to its fallback; the rows may stand in any order.
-/
namespace Mutagenesis.Json

open Text (Place)

/-- A value that reads back: its text holds it, and the decoder makes `x` of whatever holds it. -/
structure Written {α : Type} (d : Decoder α) (v : Json) (x : α) : Prop where
  writable : Writable v
  reads : ∀ {found : Found}, Holds found v → d found = .ok x

section Values

variable {α : Type} {d : Decoder α} {v : Json} {x : α}

/-- What is written is decoded from its text. -/
theorem Written.decode_page (h : Written d v x) : decode d v.page = .ok x := by
  obtain ⟨found, holds, same⟩ := exists_decode ((isTextOf_wide 0 v).readable h.writable) .none .none
    v.page (by simp [page, Blanks.none]) d
  rw [same, h.reads holds]

theorem written_string (s : String) : Written string (.str s) s := by
  refine ⟨trivial, ?_⟩
  intro found holds
  cases holds
  rfl

theorem written_boolean (b : Bool) : Written boolean (.bool b) b := by
  refine ⟨trivial, ?_⟩
  intro found holds
  cases holds
  rfl

theorem writable_nat {n : Nat} (h : n ≤ 0xFFFFFFFFFFFFFFFF) : Writable (.nat n) := by
  simp only [Json.nat, Writable]
  omega

theorem reads_natural {n most : Nat} (h : n ≤ most) (expected : String) {found : Found}
    (holds : Holds found (.nat n)) : natural most expected found = .ok n := by
  generalize hv : Json.nat n = v at holds
  cases holds with
  | @nat k stop =>
      simp only [Json.nat, Json.int.injEq] at hv
      obtain rfl : n = k := by omega
      simp [natural, h]
  | _ => simp [Json.nat] at hv

theorem written_count {n : Nat} (h : n ≤ 0xFFFFFFFFFFFFFFFF) : Written count (.nat n) n :=
  ⟨writable_nat h, reads_natural h _⟩

theorem written_u64 {n : Nat} (h : n ≤ 0xFFFFFFFFFFFFFFFF) : Written u64 (.nat n) n :=
  ⟨writable_nat h, reads_natural h _⟩

theorem written_u32 {n : Nat} (h : n ≤ 0xFFFFFFFF) : Written u32 (.nat n) n :=
  ⟨writable_nat (by omega), reads_natural h _⟩

theorem written_double {x y : Binary64} (h : ReadsAs x y) : Written double (.float x) y := by
  refine ⟨⟨y, h⟩, ?_⟩
  intro found holds
  cases holds with
  | float reads value =>
      obtain rfl := Except.ok.inj (h.symm.trans reads)
      exact value _

theorem written_nullable (h : Written d v x) (hv : v ≠ .null) :
    Written (nullable d) v (some x) := by
  refine ⟨h.writable, ?_⟩
  intro found holds
  have reads := h.reads holds
  cases holds with
  | null => exact absurd rfl hv
  | _ => simp [nullable, reads, Except.map]

/-- A list is written item by item. -/
theorem written_listOf {write : α → Json} {xs : List α} (h : ∀ x ∈ xs, Written d (write x) x) :
    Written (listOf d) (.arr (xs.map write)) xs := by
  have each : WritableAll (xs.map write) ∧
      ∀ {items}, HoldsAll items (xs.map write) → decodeAll d items = .ok xs := by
    induction xs with
    | nil =>
        refine ⟨trivial, ?_⟩
        intro items holds
        cases holds
        rfl
    | cons x xs ih =>
        obtain ⟨writable, reads⟩ := ih fun y hy => h y (List.mem_cons_of_mem x hy)
        have hx := h x List.mem_cons_self
        refine ⟨⟨hx.writable, writable⟩, ?_⟩
        intro items holds
        cases holds with
        | cons first others =>
            simp [decodeAll, hx.reads first, reads others, bind, Except.bind, pure, Except.pure]
  refine ⟨each.1, ?_⟩
  intro found holds
  cases holds with
  | arr items =>
      simp only [listOf, each.2 items]
      rfl

end Values

/-! ## Records -/

namespace Shape

variable {s : Shape}

/-- A field of a record with its value and how it is written. -/
structure Row (s : Shape) where
  field : s.Field
  value : s.Value field
  json : Json

/-- The member that a row is written as. -/
def Row.member (r : s.Row) : String × Json := (s.name r.field, r.json)

/-- Whether a member that was found is that of a row, of whose decoding something holds, or one of
an unknown name that does no harm. -/
def Tells (P : (r : s.Row) → Except Fault (s.Value r.field) → Prop) :
    Option s.Row → Key × Found → Prop
  | some r, (key, v) => (∃ stop, key = .name (s.name r.field) stop) ∧ P r (s.decoder r.field v)
  | none, (key, v) => (∃ name stop, key = .name name stop ∧ s.field? name = none) ∧ v.pass = .ok ()

/-- The fields that members tell of. -/
def told (rows : List (Option s.Row)) : List s.Field := rows.reduceOption.map (·.field)

@[simp] theorem told_nil : told ([] : List (Option s.Row)) = [] := rfl

@[simp] theorem told_some (r : s.Row) (rows : List (Option s.Row)) :
    told (some r :: rows) = r.field :: told rows := rfl

@[simp] theorem told_none (rows : List (Option s.Row)) : told (none :: rows) = told rows := rfl

theorem mem_told {r : s.Row} {rows : List (Option s.Row)} (h : some r ∈ rows) :
    r.field ∈ told rows :=
  List.mem_map_of_mem (List.reduceOption_mem_iff.2 h)

/-- What reading members adds to a draft when no field is told of twice. -/
theorem readMembers_told {rows : List (Option s.Row)} {found : List (Key × Found)} {d : s.Draft}
    (named : ∀ f, s.field? (s.name f) = some f)
    (tells : List.Forall₂ (s.Tells fun r out => out = .ok r.value) rows found)
    (distinct : (told rows).Nodup) (new : ∀ f ∈ told rows, d f = none) :
    ∃ d', s.readMembers d found = .ok d' ∧ (∀ r, some r ∈ rows → d' r.field = some r.value) ∧
      ∀ f, f ∉ told rows → d' f = d f := by
  induction tells generalizing d with
  | nil => exact ⟨d, rfl, by simp, fun _ _ => rfl⟩
  | @cons row entry rows found first _ ih =>
      obtain ⟨key, v⟩ := entry
      cases row with
      | none =>
          obtain ⟨⟨name, stop, rfl, unknown⟩, passes⟩ := first
          obtain ⟨d', read, values, same⟩ := ih distinct new
          refine ⟨d', ?_, by simpa using values, same⟩
          simp [readMembers, readMember, unknown, passes, Except.map, Except.bind, read]
      | some r =>
          obtain ⟨⟨stop, rfl⟩, decoded⟩ := first
          rw [told_some, List.nodup_cons] at distinct
          rw [told_some, List.forall_mem_cons] at new
          have others : ∀ f ∈ told rows, (d.set r.field r.value) f = none := by
            intro f hf
            have differ : r.field ≠ f := fun same => distinct.1 (same ▸ hf)
            rw [Draft.set_other d r.value differ]
            exact new.2 f hf
          obtain ⟨d', read, values, same⟩ := ih distinct.2 others
          refine ⟨d', ?_, ?_, ?_⟩
          · simp [readMembers, readMember, named, new.1, decoded, Except.map, Except.bind, read]
          · intro r' hr'
            obtain hr' | hr' := List.mem_cons.1 hr'
            · obtain rfl := Option.some.inj hr'
              rw [same _ distinct.1, Draft.set_same]
            · exact values r' hr'
          · intro f hf
            simp only [told_some, List.mem_cons, not_or] at hf
            rw [same f hf.2, Draft.set_other d r.value (Ne.symm hf.1)]

/-- A record is what comes of a draft that has the values of the rows that its members tell of in
their fields and the fallbacks in the others. -/
theorem decoder_told {α : Type} {d : Decoder α} {x : α} {rows : List (Option s.Row)}
    {found : List (Key × Found)} (named : ∀ f, s.field? (s.name f) = some f)
    (tells : List.Forall₂ (s.Tells fun r out => out = .ok r.value) rows found)
    (distinct : (told rows).Nodup)
    (made : ∀ found draft, s.draft found = .ok draft →
      (∀ r, some r ∈ rows → s.need draft r.field = .ok r.value) →
      (∀ f, f ∉ told rows → ∀ y, s.fallback f = some y → s.need draft f = .ok y) →
      d found = .ok x) (start stop : Nat) : d (.obj start found (.ok stop)) = .ok x := by
  obtain ⟨draft, read, values, same⟩ := readMembers_told (d := Draft.empty s) named tells distinct
    (fun _ _ => rfl)
  refine made _ (draft, stop) ?_ ?_ ?_
  · simp [Shape.draft, read, bind, Except.bind, pure, Except.pure]
  · intro r hr
    simp [need, values r hr]
  · intro f hf y hy
    have missing : draft f = none := same f hf
    simp [need, missing, hy]

theorem writableMembers_rows {rows : List s.Row}
    (written : ∀ r ∈ rows, Written (s.decoder r.field) r.json r.value) :
    WritableMembers (rows.map Row.member) := by
  induction rows with
  | nil => trivial
  | cons r rows ih =>
      exact ⟨(written r List.mem_cons_self).writable,
        ih fun r' hr' => written r' (List.mem_cons_of_mem r hr')⟩

theorem tells_of_holds {rows : List s.Row} {found : List (Key × Found)}
    (written : ∀ r ∈ rows, Written (s.decoder r.field) r.json r.value)
    (holds : HoldsMembers found (rows.map Row.member)) :
    List.Forall₂ (s.Tells fun r out => out = .ok r.value) (rows.map some) found := by
  induction rows generalizing found with
  | nil =>
      cases holds
      exact .nil
  | cons r rows ih =>
      cases holds with
      | @cons _ stop _ _ _ _ first others =>
          exact .cons ⟨⟨stop, rfl⟩, (written r List.mem_cons_self).reads first⟩
            (ih (fun r' hr' => written r' (List.mem_cons_of_mem r hr')) others)

theorem told_map_some (rows : List s.Row) : told (rows.map some) = rows.map (·.field) := by
  induction rows with
  | nil => rfl
  | cons r rows ih => rw [List.map_cons, told_some, ih, List.map_cons]

/-- A record is written in rows when it is what comes of a draft that has the values of the rows in
their fields and the fallbacks in the others. -/
theorem written_rows {α : Type} {d : Decoder α} {x : α} (rows : List s.Row)
    (named : ∀ f, s.field? (s.name f) = some f)
    (written : ∀ r ∈ rows, Written (s.decoder r.field) r.json r.value)
    (distinct : (rows.map (·.field)).Nodup)
    (made : ∀ found draft, s.draft found = .ok draft →
      (∀ r ∈ rows, s.need draft r.field = .ok r.value) →
      (∀ f, f ∉ rows.map (·.field) → ∀ y, s.fallback f = some y → s.need draft f = .ok y) →
      d found = .ok x) :
    Written d (.obj (rows.map Row.member)) x := by
  refine ⟨writableMembers_rows written, ?_⟩
  intro found holds
  cases holds with
  | @obj start members stop _ each =>
      rw [← told_map_some] at distinct made
      exact decoder_told named (tells_of_holds written each) distinct
        (fun found draft hdraft values => made found draft hdraft fun r hr =>
          values r (List.mem_map_of_mem hr)) start stop

section Fields

variable (value : (f : s.Field) → s.Value f) (json? : s.Field → Option Json)

/-- The rows of the fields for which something is written. -/
def rowsOf : List s.Row := s.fields.filterMap fun f => (json? f).map fun v => ⟨f, value f, v⟩

variable {value json?}

theorem mem_rowsOf {r : s.Row} :
    r ∈ rowsOf value json? ↔
      r.field ∈ s.fields ∧ json? r.field = some r.json ∧ r.value = value r.field := by
  constructor
  · intro h
    obtain ⟨f, hf, made⟩ := List.mem_filterMap.1 h
    obtain ⟨v, given, rfl⟩ := Option.map_eq_some_iff.1 made
    exact ⟨hf, given, rfl⟩
  · rintro ⟨hf, given, same⟩
    obtain ⟨f, x, v⟩ := r
    obtain rfl : x = value f := same
    exact List.mem_filterMap.2 ⟨f, hf, Option.map_eq_some_iff.2 ⟨v, given, rfl⟩⟩

variable (value json?)

theorem map_member_rowsOf :
    (rowsOf value json?).map Row.member =
      s.fields.filterMap fun f => (json? f).map fun v => (s.name f, v) := by
  rw [rowsOf, List.map_filterMap]
  congr 1
  funext f
  simp [Row.member, Function.comp_def]

theorem map_field_rowsOf :
    (rowsOf value json?).map (·.field) = s.fields.filter fun f => (json? f).isSome := by
  rw [rowsOf, List.map_filterMap, ← List.filterMap_eq_filter]
  congr 1
  funext f
  cases h : json? f <;> simp [Option.guard, h]

end Fields

/-- A record is written by its fields when the fields that are left out have their fallbacks. -/
theorem written_fields {α : Type} {d : Decoder α} {x : α} (value : (f : s.Field) → s.Value f)
    (json? : s.Field → Option Json) (named : ∀ f, s.field? (s.name f) = some f)
    (distinct : s.fields.Nodup)
    (written : ∀ f v, json? f = some v → Written (s.decoder f) v (value f))
    (left : ∀ f, json? f = none → s.fallback f = some (value f))
    (made : ∀ found draft, s.draft found = .ok draft →
      (∀ f ∈ s.fields, s.need draft f = .ok (value f)) → d found = .ok x) :
    Written d (.obj (s.fields.filterMap fun f => (json? f).map fun v => (s.name f, v))) x := by
  rw [← map_member_rowsOf value]
  refine written_rows _ named ?_ (map_field_rowsOf value json? ▸ distinct.filter _) ?_
  · intro r hr
    obtain ⟨-, given, same⟩ := mem_rowsOf.1 hr
    exact same ▸ written r.field r.json given
  · intro found draft hdraft values fallbacks
    refine made found draft hdraft fun f hf => ?_
    cases h : json? f with
    | some v => exact values ⟨f, value f, v⟩ (mem_rowsOf.2 ⟨hf, h, rfl⟩)
    | none => exact fallbacks f (by simp [map_field_rowsOf, h]) _ (left f h)

end Shape

end Mutagenesis.Json
