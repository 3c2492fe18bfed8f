import Mathlib.Data.List.Nodup
import Mutagenesis.Proofs.Discovery
import Mutagenesis.Proofs.Syntax.Spans
import Mutagenesis.Proofs.Text

/-!
# Exactly the placeholders of a tree

Discovery walks a tree, keeps the first target of each location, leaves out what spans too many
lines and sorts. Which specifications remain is said here without the walk: those whose location is
that of some target and short enough, each with what the first target there says of it, in the
strict order of their positions. Since equal locations span equally many lines, a smaller bound
takes specifications away and changes no other one.
-/
namespace Mutagenesis

open Syntax (Node Conditional)

/-- The order by the first difference of two lists of numbers. -/
theorem lexicalLe_ble_iff (as bs : List Nat) :
    lexicalLe Nat.ble as bs = true ↔ as = bs ∨ List.Lex (· < ·) as bs := by
  refine lexicalLe_iff (fun a b differ => ?_) Nat.lt_irrefl as bs
  rw [Nat.ble_eq]
  omega

namespace Syntax.Node

/-- A node asks for a replacement of another one, which prompts call by the feature. -/
inductive Offers (n : Node) : Node → String → Prop where
  | condition {c : Conditional} {e t : Node} (hn : n.kind = .conditional c)
      (he : n.child? .condition = some e) (ht : e.unwrapCondition = some t) : Offers n t c.feature
  | callee {f : Node} (hn : n.kind = .call) (hf : n.child? .callee = some f) : Offers n f "callee"
  | receiver {f r : Node} (hn : n.kind = .call) (hf : n.child? .callee = some f)
      (hmember : f.kind = .member) (hr : f.child? .receiver = some r) : Offers n r "call receiver"
  | arguments {a : Node} (hn : n.kind = .call) (ha : n.child? .arguments = some a) :
      Offers n a "call arguments"

theorem mem_targets_iff {n t : Node} {feature : String} :
    (t, feature) ∈ n.targets ↔ n.Offers t feature := by
  constructor
  · intro h
    unfold targets at h
    split at h
    next c hn =>
      simp only [Option.mem_toList, Option.map_eq_some_iff, Option.bind_eq_some_iff,
        Prod.mk.injEq] at h
      obtain ⟨t, ⟨e, he, ht⟩, rfl, rfl⟩ := h
      exact .condition hn he ht
    next hn =>
      simp only [List.mem_append, List.mem_map, List.mem_flatMap, Option.mem_toList,
        List.mem_ite_nil_right, Prod.mk.injEq] at h
      obtain (⟨f, hf, rfl, rfl⟩ | ⟨r, ⟨f, hf, hmember, hr⟩, rfl, rfl⟩) | ⟨a, ha, rfl, rfl⟩ := h
      · exact .callee hn hf
      · exact .receiver hn hf hmember hr
      · exact .arguments hn ha
    next => simp at h
  · intro h
    cases h with
    | condition hn he ht => simp [targets, hn, he, ht]
    | callee hn hf => simp [targets, hn, hf]
    | receiver hn hf hmember hr => simp [targets, hn, hf, hmember, hr]
    | arguments hn ha => simp [targets, hn, ha]

/-- The targets of a tree: in pre-order over its nodes, and of one node in turn. -/
def placeholders (tree : Node) : List (Node × String) := tree.preorder.flatMap targets

theorem mem_placeholders_iff {tree t : Node} {feature : String} :
    (t, feature) ∈ tree.placeholders ↔ ∃ n ∈ tree.preorder, n.Offers t feature := by
  simp [placeholders, mem_targets_iff]

theorem mem_preorder_of_child? {n c : Node} {role : Role} (h : n.child? role = some c) :
    c ∈ n.preorder := mem_preorder_of_mem_children (List.mem_of_find?_eq_some h)

theorem mem_preorder_of_unwrapCondition {e t : Node} (h : e.unwrapCondition = some t) :
    t ∈ e.preorder := by
  unfold unwrapCondition at h
  split at h
  next => exact mem_preorder_of_mem_children (List.mem_of_head? h)
  next => exact mem_preorder_of_mem_children (List.mem_of_head? h)
  next => simp at h
  next =>
    obtain rfl := Option.some.inj h
    exact e.self_mem_preorder

/-- What a node offers stands below it. -/
theorem Offers.mem_preorder {n t : Node} {feature : String} (h : n.Offers t feature) :
    t ∈ n.preorder := by
  cases h with
  | condition _ he ht =>
      exact preorder_trans (mem_preorder_of_child? he) (mem_preorder_of_unwrapCondition ht)
  | callee _ hf => exact mem_preorder_of_child? hf
  | receiver _ hf _ hr =>
      exact preorder_trans (mem_preorder_of_child? hf) (mem_preorder_of_child? hr)
  | arguments _ ha => exact mem_preorder_of_child? ha

theorem mem_preorder_of_mem_placeholders {tree : Node} {target : Node × String}
    (h : target ∈ tree.placeholders) : target.1 ∈ tree.preorder := by
  obtain ⟨n, hn, hoffers⟩ := mem_placeholders_iff.1 h
  exact preorder_trans hn hoffers.mem_preorder

/-! ## Locations of nodes -/

variable {file : String} {source : List Char} {n : Node}

/-- A node that covers a piece of the source has a location, and the location leads back to it. -/
theorem location?_of_liesIn (file : String) (h : n.LiesIn source) :
    ∃ l, n.location? file source = some l ∧ l.file = file ∧ l.lineNr = l.startLine ∧
      l.byteRange source = some (n.start, n.stop) := by
  obtain ⟨before, own, after, hsource, hstart, hstop⟩ := h
  have first : positionOf source n.start = some (Text.positionAfter before) := by
    rw [positionOf, hsource, hstart, List.append_assoc, Text.cut_append]
    rfl
  have last : positionOf source n.stop = some (Text.positionAfter (before ++ own)) := by
    rw [positionOf, hsource, hstop, ← Text.byteSize_append, Text.cut_append]
    rfl
  have start : byteOffset source (Text.positionAfter before).1 (Text.positionAfter before).2 =
      some n.start := byteOffset_of_positionOf first
  have stop : byteOffset source (Text.positionAfter (before ++ own)).1
      (Text.positionAfter (before ++ own)).2 = some n.stop := byteOffset_of_positionOf last
  have hle : n.start ≤ n.stop := by omega
  refine ⟨.between file (Text.positionAfter before) (Text.positionAfter (before ++ own)), ?_, rfl,
    rfl, ?_⟩
  · simp [location?, first, last]
  · simp [Location.byteRange, Location.between, start, stop, hle]

/-- A node that has a location has a text. -/
theorem isSome_text?_of_location? {l : Location} (h : n.location? file source = some l) :
    (n.text? source).isSome := by
  simp only [location?, Option.bind_eq_bind, Option.pure_def, Option.bind_eq_some_iff] at h
  obtain ⟨_, hstart, _, hstop, -⟩ := h
  obtain ⟨⟨before, rest⟩, hcut, -⟩ := Option.map_eq_some_iff.1 hstart
  obtain ⟨⟨before', rest'⟩, hcut', -⟩ := Option.map_eq_some_iff.1 hstop
  obtain ⟨hsource, hbefore⟩ := Text.cut_eq_some hcut
  obtain ⟨hsource', hbefore'⟩ := Text.cut_eq_some hcut'
  by_cases hle : n.start ≤ n.stop
  · obtain ⟨own, rfl, rfl⟩ := Text.exists_append_of_byteSize_le (hsource.symm.trans hsource')
      (by omega)
    have hown : n.stop - n.start = Text.byteSize own := by
      simp only [Text.byteSize_append] at hbefore'
      omega
    simp [text?, hcut, hown, Text.cut_append]
  · have hown : n.stop - n.start = 0 := by omega
    simp [text?, hcut, hown, Text.cut]

/-- A target has a specification where it has a location, and the specification names it. -/
theorem map_location_spec? (file : String) (source : List Char) (target : Node × String) :
    (spec? file source target).map (·.location) = target.1.location? file source := by
  cases hlocation : target.1.location? file source with
  | none => simp [spec?, hlocation]
  | some l =>
      obtain ⟨orig, horig⟩ := Option.isSome_iff_exists.1 (isSome_text?_of_location? hlocation)
      simp [spec?, hlocation, horig]

theorem feature_of_spec? {target : Node × String} {spec : PromptSpec}
    (h : spec? file source target = some spec) : spec.feature = target.2 := by
  simp only [spec?, Option.bind_eq_bind, Option.pure_def, Option.bind_eq_some_iff,
    Option.some.injEq] at h
  obtain ⟨l, -, orig, -, rfl⟩ := h
  rfl

end Syntax.Node

namespace PromptSpec

/-- What specifications are sorted by. -/
def position (spec : PromptSpec) : List Nat :=
  [spec.location.startLine, spec.location.startColumn, spec.location.endLine,
    spec.location.endColumn]

/-- The one stands before the other: by start, then by end, lines before columns. -/
def Before (a b : PromptSpec) : Prop := List.Lex (· < ·) a.position b.position

theorem Before.irrefl (a : PromptSpec) : ¬a.Before a := List.lex_irrefl Nat.lt_irrefl _

theorem Before.trans {a b c : PromptSpec} (hab : a.Before b) (hbc : b.Before c) : a.Before c :=
  List.lex_trans Nat.lt_trans hab hbc

theorem positionLe_iff (a b : PromptSpec) :
    positionLe a b = true ↔ a.position = b.position ∨ a.Before b := lexicalLe_ble_iff ..

theorem positionLe_trans (a b c : PromptSpec) (hab : positionLe a b = true)
    (hbc : positionLe b c = true) : positionLe a c = true := by
  rw [positionLe_iff] at *
  obtain same | hab := hab
  · simpa [Before, same] using hbc
  · obtain same | hbc := hbc
    · exact .inr (by simpa [Before, same] using hab)
    · exact .inr (hab.trans hbc)

theorem positionLe_total (a b : PromptSpec) : (positionLe a b || positionLe b a) = true := by
  rw [Bool.or_eq_true, positionLe_iff, positionLe_iff]
  by_cases hab : a.Before b
  · exact .inl (.inr hab)
  · by_cases hba : b.Before a
    · exact .inr (.inr hba)
    · exact .inl (.inl (List.lex_trichotomous (fun _ _ h h' => by omega) hba hab))

variable {maxLines : Nat} {spec x : PromptSpec} {found specs : List PromptSpec}

/-- Sorting changes no members. -/
theorem mem_specsOfTree_iff {file : String} {source : List Char} {tree : Node} :
    spec ∈ specsOfTree file source tree maxLines ↔ spec.location.nrLines ≤ maxLines ∧
      ((tree.placeholders.find? fun target =>
        target.1.location? file source = some spec.location).bind (Node.spec? file source)) =
        some spec := by
  have named (target : Node × String) :
      (Node.spec? file source target).any (fun s => s.location = spec.location) =
        decide (target.1.location? file source = some spec.location) := by
    rw [← Node.map_location_spec? file source target]
    cases Node.spec? file source target <;> simp
  rw [specsOfTree, (List.mergeSort_perm _ _).mem_iff, mem_foldl_addTo_iff, List.find?_filterMap]
  simp [Joins, named, Node.placeholders]

end PromptSpec

/-- The specifications of a source, for each bound on the lines, are those of the placeholders of
its tree. -/
structure Discovers (file : String) (source : String) (tree : Node)
    (specs : Nat → List PromptSpec) : Prop where
  /-- The placeholders are what the nodes of the tree offer. -/
  offered : ∀ t feature, (t, feature) ∈ tree.placeholders ↔
    ∃ n ∈ tree.preorder, n.Offers t feature
  /-- Each of them has a location, which is that of its bytes. -/
  located : ∀ target ∈ tree.placeholders, ∃ l : Location,
    target.1.location? file source.toList = some l ∧ l.file = file ∧ l.lineNr = l.startLine ∧
      l.byteRange source.toList = some (target.1.start, target.1.stop)
  /-- These locations are specified, except those that span too many lines. -/
  locations : ∀ maxLines l, l ∈ (specs maxLines).map (·.location) ↔ l.nrLines ≤ maxLines ∧
    ∃ target ∈ tree.placeholders, target.1.location? file source.toList = some l
  /-- The feature is that of the first placeholder at the location. -/
  feature : ∀ maxLines, ∀ spec ∈ specs maxLines, ∃ target,
    (tree.placeholders.find? fun target =>
      target.1.location? file source.toList = some spec.location) = some target ∧
    spec.feature = target.2
  orig : ∀ maxLines, ∀ spec ∈ specs maxLines, fragment source spec.location = some spec.orig
  /-- Each specification stands before all that follow, so no two share a location. -/
  increasing : ∀ maxLines, (specs maxLines).Pairwise PromptSpec.Before
  fewer : ∀ fewer maxLines, fewer ≤ maxLines →
    specs fewer = (specs maxLines).filter fun spec => spec.location.nrLines ≤ fewer

variable {file source : String} {tree : Node} {maxLines : Nat} {spec : PromptSpec}

theorem exists_target_of_mem_specsOfTree
    (h : spec ∈ specsOfTree file source.toList tree maxLines) :
    ∃ target ∈ tree.placeholders,
      (tree.placeholders.find? fun target =>
        target.1.location? file source.toList = some spec.location) = some target ∧
      target.1.location? file source.toList = some spec.location ∧
      Node.spec? file source.toList target = some spec := by
  obtain ⟨-, hfirst⟩ := PromptSpec.mem_specsOfTree_iff.1 h
  obtain ⟨target, hfind, hspec⟩ := Option.bind_eq_some_iff.1 hfirst
  have located : target.1.location? file source.toList = some spec.location := by
    simpa using List.find?_some hfind
  exact ⟨target, List.mem_of_find?_eq_some hfind, hfind, located, hspec⟩

/-- Two specifications at the same position have the same location. -/
theorem location_eq_of_position_eq {a b : PromptSpec}
    (ha : a ∈ specsOfTree file source.toList tree maxLines)
    (hb : b ∈ specsOfTree file source.toList tree maxLines) (h : a.position = b.position) :
    a.location = b.location := by
  obtain ⟨_, -, -, -, ha⟩ := exists_target_of_mem_specsOfTree ha
  obtain ⟨_, -, -, -, hb⟩ := exists_target_of_mem_specsOfTree hb
  obtain ⟨start, stop, -, -, hstart, -⟩ := Node.spec?_eq_some ha
  obtain ⟨start', stop', -, -, hstart', -⟩ := Node.spec?_eq_some hb
  simp only [PromptSpec.position, hstart, hstart', Location.between, List.cons.injEq, and_true] at h
  obtain ⟨hline, hcolumn, hline', hcolumn'⟩ := h
  rw [hstart, hstart', Prod.ext hline hcolumn, Prod.ext hline' hcolumn']

theorem increasing_specsOfTree (file source : String) (tree : Node) (maxLines : Nat) :
    (specsOfTree file source.toList tree maxLines).Pairwise PromptSpec.Before := by
  have sorted : (specsOfTree file source.toList tree maxLines).Pairwise
      fun a b => PromptSpec.positionLe a b = true :=
    List.pairwise_mergeSort PromptSpec.positionLe_trans PromptSpec.positionLe_total _
  have distinct := nodup_specsOfTree file source.toList tree maxLines
  rw [List.Nodup, List.pairwise_map] at distinct
  refine (sorted.and distinct).imp_of_mem ?_
  intro a b ha hb h
  obtain same | before := (PromptSpec.positionLe_iff a b).1 h.1
  · exact absurd (location_eq_of_position_eq ha hb same) h.2
  · exact before

theorem specsOfTree_filter (file source : String) (tree : Node) {fewer maxLines : Nat}
    (h : fewer ≤ maxLines) :
    specsOfTree file source.toList tree fewer =
      (specsOfTree file source.toList tree maxLines).filter
        fun spec => spec.location.nrLines ≤ fewer := by
  have increasing := increasing_specsOfTree file source tree fewer
  have increasing' := (increasing_specsOfTree file source tree maxLines).filter
    fun spec => spec.location.nrLines ≤ fewer
  have distinct {a b : PromptSpec} (hab : a.Before b) : a ≠ b :=
    fun same => PromptSpec.Before.irrefl b (same ▸ hab)
  have same : List.Perm (specsOfTree file source.toList tree fewer)
      ((specsOfTree file source.toList tree maxLines).filter
        fun spec => spec.location.nrLines ≤ fewer) := by
    rw [List.perm_ext_iff_of_nodup (increasing.imp distinct) (increasing'.imp distinct)]
    intro spec
    simp only [List.mem_filter, PromptSpec.mem_specsOfTree_iff, decide_eq_true_eq]
    constructor
    · rintro ⟨short, hfirst⟩
      exact ⟨⟨Nat.le_trans short h, hfirst⟩, short⟩
    · rintro ⟨⟨-, hfirst⟩, short⟩
      exact ⟨short, hfirst⟩
  refine same.eq_of_pairwise ?_ increasing increasing'
  intro a b _ _ hab hba
  exact absurd (hab.trans hba) (PromptSpec.Before.irrefl a)

theorem mem_locations_specsOfTree {l : Location} :
    l ∈ (specsOfTree file source.toList tree maxLines).map (·.location) ↔ l.nrLines ≤ maxLines ∧
      ∃ target ∈ tree.placeholders, target.1.location? file source.toList = some l := by
  rw [List.mem_map]
  constructor
  · rintro ⟨spec, hspec, rfl⟩
    obtain ⟨target, htarget, -, hlocation, -⟩ := exists_target_of_mem_specsOfTree hspec
    exact ⟨(PromptSpec.mem_specsOfTree_iff.1 hspec).1, target, htarget, hlocation⟩
  · rintro ⟨short, target, htarget, hlocation⟩
    have found : (tree.placeholders.find? fun target =>
        target.1.location? file source.toList = some l).isSome :=
      List.find?_isSome.2 ⟨target, htarget, decide_eq_true hlocation⟩
    obtain ⟨first, hfirst⟩ := Option.isSome_iff_exists.1 found
    have same : first.1.location? file source.toList = some l := by
      simpa using List.find?_some hfirst
    rw [← Node.map_location_spec? file source.toList first] at same
    obtain ⟨spec, hspec, rfl⟩ := Option.map_eq_some_iff.1 same
    exact ⟨spec, PromptSpec.mem_specsOfTree_iff.2 ⟨short, by rw [hfirst]; exact hspec⟩, rfl⟩

/-- What discovery makes of a tree whose nodes cover pieces of the source. -/
theorem discovers_specsOfTree (file : String) (lies : tree.TreeLiesIn source.toList) :
    Discovers file source tree (specsOfTree file source.toList tree) where
  offered _ _ := Node.mem_placeholders_iff
  located target htarget :=
    Node.location?_of_liesIn file (lies target.1 (Node.mem_preorder_of_mem_placeholders htarget))
  locations _ _ := mem_locations_specsOfTree
  feature maxLines spec hspec := by
    obtain ⟨target, -, hfirst, -, hspec⟩ := exists_target_of_mem_specsOfTree hspec
    exact ⟨target, hfirst, Node.feature_of_spec? hspec⟩
  orig maxLines spec hspec := by
    obtain ⟨target, htarget, -, hlocation, hspec⟩ := exists_target_of_mem_specsOfTree hspec
    have hlies := lies target.1 (Node.mem_preorder_of_mem_placeholders htarget)
    obtain ⟨l, hlocation', -, -, hrange⟩ := Node.location?_of_liesIn file hlies
    obtain rfl : l = spec.location := Option.some.inj (hlocation'.symm.trans hlocation)
    exact Node.fragment_of_spec? hspec (by simp [Location.fits, hrange])
  increasing := increasing_specsOfTree file source tree
  fewer _ _ := specsOfTree_filter file source tree

/-- And what it makes of a source that parses. -/
theorem discovers_of_parse (file : String) {language : Language}
    (parsed : language.parse source = some tree) :
    Discovers file source tree (discover file source language) := by
  have same : discover file source language = specsOfTree file source.toList tree := by
    funext maxLines
    simp [discover, parsed]
  rw [same]
  exact discovers_specsOfTree file (Language.treeLiesIn_of_parse parsed)

end Mutagenesis
