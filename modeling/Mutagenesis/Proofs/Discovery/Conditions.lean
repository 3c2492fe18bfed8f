import Mutagenesis.Proofs.Discovery.Placeholders
import Mutagenesis.Proofs.Syntax.Grammars

/-!
# The placeholder of a condition

What a statement tests is its condition, or what stands in the parentheses around it. Discovery
takes the first child of the parentheses, and that is the condition unless a comment stands before
it; then the comment is offered in the place of the condition.
-/
namespace Mutagenesis

open Syntax (Node Conditional)

namespace Syntax.Node

/-- The node puts something of the statement around a condition. -/
def Wraps (e : Node) : Prop := e.kind = .parenthesized ∨ e.kind = .expressionStatement

instance (e : Node) : Decidable e.Wraps :=
  inferInstanceAs (Decidable (e.kind = .parenthesized ∨ e.kind = .expressionStatement))

/-- The condition without what belongs to the statement: what the parentheses or the semicolon
contain besides comments, and nothing for a lone semicolon. -/
def contained? (e : Node) : Option Node :=
  if e.Wraps then e.children.find? fun c => c.kind ≠ .comment
  else if e.kind = .emptyStatement then none
  else some e

/-- What a statement tests. -/
def tested? (n : Node) : Option Node := (n.child? .condition).bind contained?

/-- Whether a comment stands before what the statement tests, within the parentheses. -/
def testsAfterComment (n : Node) : Bool :=
  (n.child? .condition).any fun e => e.Wraps ∧ (e.children.head?.any fun c => c.kind = .comment)

variable {e n t : Node}

theorem unwrapCondition_eq (e : Node) :
    e.unwrapCondition = if e.Wraps then e.children.head?
      else if e.kind = .emptyStatement then none else some e := by
  unfold unwrapCondition Wraps
  split <;> simp_all

theorem contained?_of_wraps (h : e.Wraps) :
    e.contained? = e.children.find? fun c => c.kind ≠ .comment := if_pos h

/-- Only a lone semicolon contains nothing. -/
theorem Shaped.kind_of_contained? (shaped : e.Shaped) (h : e.contained? = none) :
    e.kind = .emptyStatement := by
  by_cases wraps : e.Wraps
  · obtain ⟨c, hc, hkind⟩ := shaped.wrapped wraps
    rw [contained?_of_wraps wraps, List.find?_eq_none] at h
    exact absurd hkind (by simpa using h c hc)
  · apply Decidable.byContradiction
    intro solid
    simp [contained?, wraps, solid] at h

theorem contained?_ne_comment (he : e.kind ≠ .comment) (h : e.contained? = some t) :
    t.kind ≠ .comment := by
  by_cases wraps : e.Wraps
  · rw [contained?_of_wraps wraps] at h
    simpa using List.find?_some h
  · unfold contained? at h
    rw [if_neg wraps] at h
    split at h
    next => simp at h
    next => exact Option.some.inj h ▸ he

theorem mem_preorder_of_contained? (h : e.contained? = some t) : t ∈ e.preorder := by
  by_cases wraps : e.Wraps
  · rw [contained?_of_wraps wraps] at h
    exact mem_preorder_of_mem_children (List.mem_of_find?_eq_some h)
  · unfold contained? at h
    rw [if_neg wraps] at h
    split at h
    next => simp at h
    next => exact Option.some.inj h ▸ e.self_mem_preorder

/-- Where something is contained, unwrapping takes the comment that stands before it, and if there
is none what is contained. -/
theorem unwrapCondition_of_contained? (h : e.contained? = some t) :
    ∃ t', e.unwrapCondition = some t' ∧
      if e.Wraps ∧ (e.children.head?.any fun c => c.kind = .comment) then t'.kind = .comment
      else t' = t := by
  by_cases wraps : e.Wraps
  · rw [contained?_of_wraps wraps] at h
    rw [unwrapCondition_eq, if_pos wraps]
    cases hchildren : e.children with
    | nil => simp [hchildren] at h
    | cons first others =>
        refine ⟨first, rfl, ?_⟩
        by_cases hfirst : first.kind = .comment
        · simp [wraps, hfirst]
        · simpa [wraps, hfirst, hchildren] using h
  · have own : e.unwrapCondition = some t := by
      simpa [unwrapCondition_eq, contained?, wraps] using h
    exact ⟨t, own, by simp [wraps]⟩

variable {c : Conditional}

/-- A statement with a condition has one, which is no comment. -/
theorem Shaped.exists_condition (shaped : n.Shaped) (all : ∀ m ∈ n.children, m.Shaped)
    (hn : n.kind = .conditional c) :
    ∃ e, n.child? .condition = some e ∧ e ∈ n.children ∧ e.kind ≠ .comment ∧
      (e.kind = .emptyStatement → c = .forLoop) := by
  obtain ⟨e, he, hrole⟩ := shaped.condition c hn
  have found : (n.children.find? fun m => m.role = .condition).isSome :=
    List.find?_isSome.2 ⟨e, he, decide_eq_true hrole⟩
  obtain ⟨first, hfirst⟩ := Option.isSome_iff_exists.1 found
  have hmem : first ∈ n.children := List.mem_of_find?_eq_some hfirst
  have hcondition : first.role = .condition := by simpa using List.find?_some hfirst
  refine ⟨first, hfirst, hmem, fun hcomment => ?_, shaped.void c hn first hmem hcondition⟩
  have := (all first hmem).comment hcomment
  simp [hcondition] at this

/-- The only target of a statement with a condition is its unwrapped condition. -/
theorem targets_of_conditional (hn : n.kind = .conditional c) (he : n.child? .condition = some e) :
    n.targets = (e.unwrapCondition.map fun t => (t, c.feature)).toList := by
  simp [targets, hn, he]

end Syntax.Node

/-- What discovery offers for a statement with a condition: what the statement tests, unless a
comment stands before it in parentheses; then it offers a comment in its place. -/
structure OffersCondition (file source : String) (n : Node) (c : Conditional)
    (specs : Nat → List PromptSpec) : Prop where
  /-- Only a loop header may go without a condition, and then nothing is offered. -/
  missing : n.tested? = none → c = .forLoop ∧ n.targets = []
  solid : ∀ e, n.tested? = some e → e.kind ≠ .comment
  own : ∀ e, n.tested? = some e → (n.targets = [(e, c.feature)] ↔ n.testsAfterComment = false)
  comment : ∀ e, n.tested? = some e → n.testsAfterComment = true →
    ∃ t, n.targets = [(t, c.feature)] ∧ t.kind = .comment
  /-- What is tested has a location, and unless it spans too many lines or a comment takes its place
  it is specified. -/
  specified : ∀ e, n.tested? = some e → ∃ l, e.location? file source.toList = some l ∧
    ∀ maxLines, n.testsAfterComment = false → l.nrLines ≤ maxLines →
      ∃ spec ∈ specs maxLines, spec.location = l ∧ fragment source l = some spec.orig

variable {file source : String} {language : Language} {tree n : Node} {c : Conditional}
  {specs : Nat → List PromptSpec}

theorem offersCondition_of_discovers (shaped : ∀ m ∈ tree.preorder, m.Shaped)
    (lies : tree.TreeLiesIn source.toList) (discovers : Discovers file source tree specs)
    (hn : n ∈ tree.preorder) (hc : n.kind = .conditional c) :
    OffersCondition file source n c specs := by
  have inside {m : Node} (hm : m ∈ n.children) : m ∈ tree.preorder :=
    Node.preorder_trans hn (Node.mem_preorder_of_mem_children hm)
  obtain ⟨e, he, hmem, hcomment, hvoid⟩ :=
    (shaped n hn).exists_condition (fun m hm => shaped m (inside hm)) hc
  have targets := Node.targets_of_conditional hc he
  have tested : n.tested? = e.contained? := by simp [Node.tested?, he]
  have after : n.testsAfterComment =
      decide (e.Wraps ∧ (e.children.head?.any fun c => c.kind = .comment)) := by
    simp [Node.testsAfterComment, he]
  constructor <;> rw [tested]
  case missing =>
    intro none
    have void := (shaped e (inside hmem)).kind_of_contained? none
    exact ⟨hvoid void, by simp [targets, Node.unwrapCondition, void]⟩
  case solid => exact fun t some => Node.contained?_ne_comment hcomment some
  case own =>
    intro t some
    have solid := Node.contained?_ne_comment hcomment some
    obtain ⟨t', ht', which⟩ := Node.unwrapCondition_of_contained? some
    rw [targets, after, ht']
    by_cases late : e.Wraps ∧ (e.children.head?.any fun c => c.kind = .comment)
    · rw [if_pos late] at which
      have other : t' ≠ t := fun same => solid (same ▸ which)
      simp [late, other]
    · rw [if_neg late] at which
      simp [late, which]
  case comment =>
    intro t some late
    obtain ⟨t', ht', which⟩ := Node.unwrapCondition_of_contained? some
    rw [after, decide_eq_true_eq] at late
    rw [if_pos late] at which
    exact ⟨t', by simp [targets, ht'], which⟩
  case specified =>
    intro t some
    obtain ⟨l, hl, -⟩ := Node.location?_of_liesIn file
      (lies t (Node.preorder_trans (inside hmem) (Node.mem_preorder_of_contained? some)))
    refine ⟨l, hl, fun maxLines early short => ?_⟩
    obtain ⟨t', ht', which⟩ := Node.unwrapCondition_of_contained? some
    rw [after, decide_eq_false_iff_not] at early
    rw [if_neg early] at which
    subst which
    have offered : (t', c.feature) ∈ tree.placeholders :=
      Node.mem_placeholders_iff.2 ⟨n, hn, .condition hc he ht'⟩
    have located := (discovers.locations maxLines l).2 ⟨short, _, offered, hl⟩
    obtain ⟨spec, hspec, rfl⟩ := List.mem_map.1 located
    exact ⟨spec, hspec, rfl, discovers.orig maxLines spec hspec⟩

/-- Discovery offers what a statement tests, unless a comment stands before it in parentheses: for
every tree of statements that have their conditions and whose nodes cover pieces of the source, and
so for every source that parses. -/
theorem condition_placeholder (file source : String) :
    (∀ tree : Node, (∀ m ∈ tree.preorder, m.Shaped) → tree.TreeLiesIn source.toList →
      ∀ n ∈ tree.preorder, ∀ c, n.kind = .conditional c →
        OffersCondition file source n c (specsOfTree file source.toList tree)) ∧
    ∀ (language : Language) (tree : Node), language.parse source = some tree →
      ∀ n ∈ tree.preorder, ∀ c, n.kind = .conditional c →
        OffersCondition file source n c (discover file source language) := by
  constructor
  · intro tree shaped lies n hn c hc
    exact offersCondition_of_discovers shaped lies (discovers_specsOfTree file lies) hn hc
  · intro language tree parsed n hn c hc
    exact offersCondition_of_discovers (Language.shaped_of_parse parsed)
      (Language.treeLiesIn_of_parse parsed) (discovers_of_parse file parsed) hn hc

/-- A comment after the condition is left out, in the tree and in the source. -/
theorem condition_placeholder_before_comment :
    ∃ tree n e, Language.parse .javascript "while (a /* c */) {}\n" = some tree ∧
      n ∈ tree.preorder ∧ n.tested? = some e ∧
      e.text? "while (a /* c */) {}\n".toList = some "a" ∧
      n.targets = [(e, "while condition")] ∧
      OffersCondition "a.js" "while (a /* c */) {}\n" n .whileLoop
        (specsOfTree "a.js" "while (a /* c */) {}\n".toList tree) ∧
      OffersCondition "a.js" "while (a /* c */) {}\n" n .whileLoop
        (discover "a.js" "while (a /* c */) {}\n" .javascript) := by
  have shown : ((Language.parse .javascript "while (a /* c */) {}\n").any fun tree =>
      tree.preorder.any fun n => n.kind = .conditional .whileLoop ∧
        n.testsAfterComment = false ∧ (n.tested?.any fun e =>
          e.text? "while (a /* c */) {}\n".toList = some "a")) = true := by
    decide +kernel
  obtain ⟨tree, parsed, some⟩ := (Option.any_eq_true _ _).1 shown
  obtain ⟨n, hn, own⟩ := List.any_eq_true.1 some
  obtain ⟨kind, before, tested⟩ := of_decide_eq_true own
  obtain ⟨e, he, text⟩ := (Option.any_eq_true _ _).1 tested
  obtain ⟨ofTree, ofSource⟩ := condition_placeholder "a.js" "while (a /* c */) {}\n"
  have offered := ofTree tree (Language.shaped_of_parse parsed)
    (Language.treeLiesIn_of_parse parsed) n hn .whileLoop kind
  exact ⟨tree, n, e, parsed, hn, he, of_decide_eq_true text, (offered.own e he).2 before, offered,
    ofSource .javascript tree parsed n hn .whileLoop kind⟩

/-- A comment before the condition takes its place. -/
theorem comment_for_condition :
    (discover "a.js" "if (/* c */ a > b) {}\n" .javascript 1).map (fun spec =>
      (spec.orig, spec.feature)) = [("/* c */", "if condition")] ∧
    (Language.parse .javascript "if (/* c */ a > b) {}\n").map (fun tree =>
      (tree.preorder.filter fun n => n.kind = .conditional .ifThen).map fun n =>
        n.tested?.bind (·.text? "if (/* c */ a > b) {}\n".toList)) =
      some [some "a > b"] := by
  decide +kernel

end Mutagenesis
