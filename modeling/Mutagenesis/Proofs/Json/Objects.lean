import Mathlib.Data.List.Nodup
import Mathlib.Data.List.Perm.Basic
import Mutagenesis.Proofs.Json.Decoding

/-!
# Objects in any order

A record may be written by others than the program: its members in another order, members of unknown
names among them, and some left out whose values are the fallbacks anyway. `Shape.IsVersion` says
this of a text, and such a text is read as the same record. A text in which a member stands twice is
none, and the reader refuses it.
-/
namespace Mutagenesis.Json

/-- Whether an outcome is the fault of a repeated member. -/
def IsRepeat {α : Type} (r : Except Fault α) : Prop :=
  ∃ name offset, r = .error ⟨.repeated name, offset⟩

theorem IsRepeat.bind {α β : Type} {r : Except Fault α} (h : IsRepeat r) (f : α → Except Fault β) :
    IsRepeat (r >>= f) := by
  obtain ⟨name, offset, rfl⟩ := h
  exact ⟨name, offset, rfl⟩

namespace Shape

variable {s : Shape} {textOf : String × Json → List Char → Prop} {text : List Char}

/-! ## Versions -/

/-- Whether a member of a text is one of the given name, with a text of its value. -/
def Writes (textOf : String × Json → List Char → Prop) (m : String × Json) (t : MemberText) :
    Prop :=
  Spells t.key m.1.toList ∧ textOf m t.value

/-- Whether a member of a text has a name that the record does not know, and any value. -/
def IsUnknown (s : Shape) (t : MemberText) : Prop :=
  (∃ name, name ∉ s.fields.map s.name ∧ Spells t.key name.toList) ∧ IsText t.value

/-- The objects of the given members and any unknown ones, in any order. -/
inductive IsObjectOf (s : Shape) (textOf : String × Json → List Char → Prop)
    (kept : List (String × Json)) : List Char → Prop
  | object {known others members : List MemberText} (gap : Blanks)
      (writes : List.Forall₂ (Writes textOf) kept known) (unknown : ∀ t ∈ others, s.IsUnknown t)
      (order : members.Perm (known ++ others)) : IsObjectOf s textOf kept (objectText members gap)

/-- The objects of all the given members but some of those that may be left out. -/
def IsVersion (s : Shape) (textOf : String × Json → List Char → Prop)
    (written optional : List (String × Json)) (text : List Char) : Prop :=
  ∃ kept dropped, written.Perm (kept ++ dropped) ∧ (∀ m ∈ dropped, m ∈ optional) ∧
    s.IsObjectOf textOf kept text

/-- The objects of some of the given members of which one stands twice. -/
def IsDoubled (s : Shape) (textOf : String × Json → List Char → Prop)
    (written : List (String × Json)) (text : List Char) : Prop :=
  ∃ kept, (∀ m ∈ kept, m ∈ written) ∧ ¬kept.Nodup ∧ s.IsObjectOf textOf kept text

/-- The object that has the given members with the given texts, besides unknown ones. -/
theorem isObjectOf_map {kept : List (String × Json)} (depth : Nat)
    (value : String × Json → List Char) (texts : ∀ m ∈ kept, textOf m (value m))
    {others members : List MemberText} (gap : Blanks) (unknown : ∀ t ∈ others, s.IsUnknown t)
    (order : members.Perm
      (kept.map (fun m => { MemberText.wide depth m with value := value m }) ++ others)) :
    s.IsObjectOf textOf kept (objectText members gap) := by
  refine .object gap ?_ unknown order
  refine List.forall₂_map_right_iff.2 (List.forall₂_same.2 fun m hm => ?_)
  exact ⟨spells_flatMap_escaped m.1.toList, texts m hm⟩

/-- What the program writes is a version of itself. -/
theorem isVersion_wide {written : List (String × Json)} (optional : List (String × Json))
    (depth : Nat) (texts : ∀ m ∈ written, textOf m (m.2.wide (depth + 1))) :
    s.IsVersion textOf written optional ((obj written).wide depth) := by
  obtain ⟨gap, same⟩ := exists_objectText_wide depth written
  rw [same]
  refine ⟨written, [], by simp, by simp, ?_⟩
  exact isObjectOf_map (depth + 1) (fun m => m.2.wide (depth + 1)) texts gap
    (List.forall_mem_nil _) (.of_eq (List.append_nil _).symm)

/-! ## Reading objects -/

section Reading

variable {rows : List s.Row} {kept : List (String × Json)}
  {P : (r : s.Row) → Except Fault (s.Value r.field) → Prop}

theorem field?_eq_none {name : String} (h : name ∉ s.fields.map s.name) : s.field? name = none := by
  refine List.find?_eq_none.2 fun f hf same => h ?_
  exact of_decide_eq_true same ▸ List.mem_map_of_mem hf

theorem IsUnknown.reads {t : MemberText} (h : s.IsUnknown t) : t.Reads (s.Tells P none) := by
  obtain ⟨⟨name, unknown, spelled⟩, isText⟩ := h
  exact ⟨_, _, spelled.readsKey, isText.readable, fun _ _ ⟨stop, isName⟩ passes =>
    ⟨⟨name, stop, isName, field?_eq_none unknown⟩, passes⟩⟩

/-- The members that are written of rows are read as those of the rows. -/
theorem exists_rows {known : List MemberText}
    (reads : ∀ r ∈ rows, ∀ text, textOf r.member text →
      Readable text fun found => P r (s.decoder r.field found))
    (source : ∀ m ∈ kept, m ∈ rows.map Row.member)
    (writes : List.Forall₂ (Writes textOf) kept known) :
    ∃ chosen : List s.Row, chosen.map Row.member = kept ∧ (∀ r ∈ chosen, r ∈ rows) ∧
      List.Forall₂ (fun r t => t.Reads (s.Tells P r)) (chosen.map some) known := by
  induction writes with
  | nil => exact ⟨[], rfl, by simp, .nil⟩
  | @cons m t kept known first _ ih =>
      rw [List.forall_mem_cons] at source
      obtain ⟨chosen, same, among, each⟩ := ih source.2
      obtain ⟨r, hr, rfl⟩ := List.mem_map.1 source.1
      refine ⟨r :: chosen, by rw [List.map_cons, same], List.forall_mem_cons.2 ⟨hr, among⟩,
        .cons ?_ each⟩
      exact ⟨_, _, first.1.readsKey, reads r hr _ first.2, fun _ _ isName holds => ⟨isName, holds⟩⟩

/-- An object of members that are written of rows is read through as members that tell of these
rows. -/
theorem IsObjectOf.readable
    (reads : ∀ r ∈ rows, ∀ text, textOf r.member text →
      Readable text fun found => P r (s.decoder r.field found))
    (source : ∀ m ∈ kept, m ∈ rows.map Row.member) (h : s.IsObjectOf textOf kept text) :
    ∃ (chosen : List s.Row) (tags : List (Option s.Row)), chosen.map Row.member = kept ∧
      (∀ r ∈ chosen, r ∈ rows) ∧ tags.reduceOption.Perm chosen ∧
      Readable text fun found => ∃ start members stop, found = .obj start members (.ok stop) ∧
        List.Forall₂ (s.Tells P) tags members := by
  obtain @⟨known, others, members, gap, writes, unknown, order⟩ := h
  obtain ⟨chosen, same, among, each⟩ := exists_rows reads source writes
  have passed : List.Forall₂ (fun r t => t.Reads (s.Tells P r)) (others.map fun _ => none) others :=
    List.forall₂_map_left_iff.2 (List.forall₂_same.2 fun t ht => (unknown t ht).reads)
  obtain ⟨tags, tells, arranged⟩ := List.perm_comp_forall₂ order (List.rel_append each passed).flip
  refine ⟨chosen, tags, same, among, ?_, readable_object tells.flip gap⟩
  refine (arranged.filterMap id).trans (.of_eq ?_)
  simp [List.filterMap_append]

/-- What reading members comes to when the only faults in them are repeated members: it is refused
for one, or no field is told of twice and each is decoded. -/
theorem readMembers_repeat (named : ∀ f, s.field? (s.name f) = some f)
    (sound : ∀ r out, P r out → (∃ x, out = .ok x) ∨ IsRepeat out)
    {tags : List (Option s.Row)} {found : List (Key × Found)}
    (tells : List.Forall₂ (s.Tells P) tags found) (d : s.Draft) :
    IsRepeat (s.readMembers d found) ∨
      ((told tags).Nodup ∧ (∀ f ∈ told tags, d f = none) ∧
        ∀ r, some r ∈ tags → ∃ x, P r (.ok x)) := by
  induction tells generalizing d with
  | nil => exact .inr ⟨.nil, by simp, by simp⟩
  | @cons tag entry tags found first _ ih =>
      obtain ⟨key, v⟩ := entry
      cases tag with
      | none =>
          obtain ⟨⟨name, stop, rfl, unknown⟩, passes⟩ := first
          have step : s.readMembers d ((.name name stop, v) :: found) = s.readMembers d found := by
            simp [readMembers, readMember, unknown, passes, Except.map, Except.bind]
          rw [step]
          simpa using ih d
      | some r =>
          obtain ⟨⟨stop, rfl⟩, holds⟩ := first
          by_cases given : (d r.field).isSome = true
          · left
            refine ⟨s.name r.field, stop, ?_⟩
            simp [readMembers, readMember, named, given, Except.bind]
          · have new : d r.field = none := by simpa using given
            obtain ⟨x, decoded⟩ | ⟨name, offset, refused⟩ := sound r _ holds
            · have step : s.readMembers d ((.name (s.name r.field) stop, v) :: found) =
                  s.readMembers (d.set r.field x) found := by
                simp [readMembers, readMember, named, new, decoded, Except.map, Except.bind]
              rw [step]
              refine (ih _).imp_right ?_
              rintro ⟨distinct, others, each⟩
              have apart : r.field ∉ told tags := fun again => by simpa using others _ again
              refine ⟨List.nodup_cons.2 ⟨apart, distinct⟩, ?_, ?_⟩
              · refine List.forall_mem_cons.2 ⟨new, fun f hf => ?_⟩
                have differ : r.field ≠ f := fun same => apart (same ▸ hf)
                rw [← Draft.set_other d x differ]
                exact others f hf
              · intro r' hr'
                obtain hr' | hr' := List.mem_cons.1 hr'
                · obtain rfl := Option.some.inj hr'
                  exact ⟨x, decoded ▸ holds⟩
                · exact each r' hr'
            · left
              refine ⟨name, offset, ?_⟩
              simp [readMembers, readMember, named, new, refused, Except.map, Except.bind]

end Reading

/-! ## Reading versions -/

section Fields

variable {value : (f : s.Field) → s.Value f} {json? : s.Field → Option Json}
  {written optional : List (String × Json)}
  {P : (r : s.Row) → Except Fault (s.Value r.field) → Prop}

/-- Rows that are written as the same member are the same. -/
theorem eq_of_member_eq (named : ∀ f, s.field? (s.name f) = some f) {r r' : s.Row}
    (h : r ∈ rowsOf value json?) (h' : r' ∈ rowsOf value json?) (same : r.member = r'.member) :
    r = r' := by
  obtain ⟨f, x, v⟩ := r
  obtain ⟨f', x', v'⟩ := r'
  obtain ⟨names, rfl⟩ := Prod.mk.inj same
  have fields : some f = some f' := by rw [← named f, ← named f']; exact congrArg s.field? names
  obtain rfl := Option.some.inj fields
  obtain rfl : x = value f := (mem_rowsOf.1 h).2.2
  obtain rfl : x' = value f := (mem_rowsOf.1 h').2.2
  rfl

theorem nodup_rowsOf (distinct : s.fields.Nodup) : (rowsOf value json?).Nodup := by
  refine List.Nodup.of_map (fun r : s.Row => r.field) ?_
  rw [map_field_rowsOf]
  exact distinct.filter _

/-- Rows of which none is chosen twice tell of no field twice. -/
theorem nodup_told (distinct : s.fields.Nodup) {chosen : List s.Row} {tags : List (Option s.Row)}
    (among : ∀ r ∈ chosen, r ∈ rowsOf value json?) (arranged : tags.reduceOption.Perm chosen) :
    (told tags).Nodup ↔ chosen.Nodup := by
  have fields : ((rowsOf value json?).map (·.field)).Nodup := by
    rw [map_field_rowsOf]
    exact distinct.filter _
  rw [told, (arranged.map _).nodup_iff]
  refine ⟨List.Nodup.of_map _, List.Nodup.map_on fun r hr r' hr' same => ?_⟩
  exact List.inj_on_of_nodup_map fields (among r hr) (among r' hr') same

/-- A version of what is written of a record is read as the record. -/
theorem IsVersion.readable {α : Type} {d : Decoder α} {x : α}
    (named : ∀ f, s.field? (s.name f) = some f) (distinct : s.fields.Nodup)
    (reads : ∀ f v, json? f = some v → ∀ text, textOf (s.name f, v) text →
      Readable text fun found => s.decoder f found = .ok (value f))
    (left : ∀ f, json? f = none → s.fallback f = some (value f))
    (dropped : ∀ f v, json? f = some v → (s.name f, v) ∈ optional → s.fallback f = some (value f))
    (made : ∀ found draft, s.draft found = .ok draft →
      (∀ f ∈ s.fields, s.need draft f = .ok (value f)) → d found = .ok x)
    (h : s.IsVersion textOf ((rowsOf value json?).map Row.member) optional text) :
    Readable text fun found => d found = .ok x := by
  obtain ⟨kept, others, whole, mayDrop, object⟩ := h
  have source : ∀ m ∈ kept, m ∈ (rowsOf value json?).map Row.member := fun m hm =>
    whole.mem_iff.2 (List.mem_append_left _ hm)
  obtain ⟨chosen, tags, rfl, among, arranged, readable⟩ := object.readable (s := s)
    (P := fun r out => out = .ok r.value) (fun r (hr : r ∈ rowsOf value json?) text ht => by
      obtain ⟨-, given, same⟩ := mem_rowsOf.1 hr
      exact same ▸ reads r.field r.json given text ht) source
  have chosenOnce : chosen.Nodup := by
    have all : ((rowsOf value json?).map Row.member).Nodup :=
      List.Nodup.map_on (fun r hr r' hr' => eq_of_member_eq named hr hr') (nodup_rowsOf distinct)
    exact List.Nodup.of_map _ (List.Nodup.of_append_left (whole.nodup_iff.1 all))
  refine readable.imp ?_
  rintro _ ⟨start, members, stop, rfl, tells⟩
  refine decoder_told named tells ((nodup_told distinct among arranged).2 chosenOnce) ?_ start stop
  intro found draft hdraft values fallbacks
  refine made found draft hdraft fun f hf => ?_
  by_cases given : f ∈ told tags
  · obtain ⟨r, hr, rfl⟩ := List.mem_map.1 given
    obtain ⟨-, -, same⟩ := mem_rowsOf.1 (among r (arranged.mem_iff.1 hr))
    exact same ▸ values r (List.reduceOption_mem_iff.1 hr)
  · refine fallbacks f given _ ?_
    cases hv : json? f with
    | none => exact left f hv
    | some v =>
        have row : (⟨f, value f, v⟩ : s.Row) ∈ rowsOf value json? := mem_rowsOf.2 ⟨hf, hv, rfl⟩
        obtain hm | hm := List.mem_append.1 (whole.mem_iff.1 (List.mem_map_of_mem row))
        · obtain ⟨r, hr, same⟩ := List.mem_map.1 hm
          obtain rfl := eq_of_member_eq named (among r hr) row same
          exact absurd (mem_told (List.reduceOption_mem_iff.1 (arranged.mem_iff.2 hr))) given
        · exact dropped f v hv (mayDrop _ hm)

/-- An object is refused that has one of its members twice, or one that is itself refused for that
reason. -/
theorem IsObjectOf.refused {kept : List (String × Json)}
    (named : ∀ f, s.field? (s.name f) = some f) (distinct : s.fields.Nodup)
    (sound : ∀ r out, P r out → (∃ x, out = .ok x) ∨ IsRepeat out)
    (reads : ∀ r ∈ rowsOf value json?, ∀ text, textOf r.member text →
      Readable text fun found => P r (s.decoder r.field found))
    (source : ∀ m ∈ kept, m ∈ (rowsOf value json?).map Row.member)
    (twice : ¬kept.Nodup ∨
      ∃ r ∈ rowsOf value json?, r.member ∈ kept ∧ ∀ x, ¬P r (.ok x))
    (h : s.IsObjectOf textOf kept text) : Readable text fun found => IsRepeat (s.draft found) := by
  obtain ⟨chosen, tags, rfl, among, arranged, readable⟩ := h.readable reads source
  refine readable.imp ?_
  rintro _ ⟨start, members, stop, rfl, tells⟩
  obtain again | ⟨once, -, each⟩ := readMembers_repeat named sound tells (Draft.empty s)
  · exact again.bind _
  · exfalso
    obtain again | ⟨r, hr, kept, never⟩ := twice
    · refine again (List.Nodup.map_on (fun r hr r' hr' => ?_)
        ((nodup_told distinct among arranged).1 once))
      exact eq_of_member_eq named (among r hr) (among r' hr')
    · obtain ⟨r', hr', same⟩ := List.mem_map.1 kept
      obtain rfl := eq_of_member_eq named (among r' hr') hr same
      obtain ⟨x, ok⟩ := each r' (List.reduceOption_mem_iff.1 (arranged.mem_iff.2 hr'))
      exact never x ok

end Fields

end Shape

end Mutagenesis.Json
