import Mutagenesis.Proofs.Location
import Mutagenesis.Proofs.Syntax.Reading
import Mutagenesis.Proofs.Syntax.Tree
import Mutagenesis.Syntax.Language

/-!
# Spans of nodes

Reading moves forward only, and a node stands between two places that were reached. So every node of
the tree of a source spans a piece of that source, from one character boundary to a later one.
-/
namespace Mutagenesis

open Text (byteSize Place)

namespace Syntax.Node

/-- The node covers a piece of the source. -/
def LiesIn (source : List Char) (n : Node) : Prop :=
  ∃ before own after, source = before ++ own ++ after ∧
    n.start = byteSize before ∧ n.stop = byteSize before + byteSize own

/-- The node and all below it cover pieces of the source. -/
def TreeLiesIn (source : List Char) (tree : Node) : Prop := ∀ n ∈ tree.preorder, n.LiesIn source

end Syntax.Node

namespace Text.Place

/-- Going on from the first place leads to the second one. -/
def Reaches (p q : Place) : Prop :=
  ∃ passed, p.rest = passed ++ q.rest ∧ q.offset = p.offset + byteSize passed

variable {p q r : Place}

theorem Reaches.refl (p : Place) : p.Reaches p := ⟨[], by simp, by simp⟩

theorem Reaches.trans (h : p.Reaches q) (h' : q.Reaches r) : p.Reaches r := by
  obtain ⟨passed, hrest, hoffset⟩ := h
  obtain ⟨passed', hrest', hoffset'⟩ := h'
  refine ⟨passed ++ passed', by simp [hrest, hrest'], ?_⟩
  rw [hoffset', hoffset, byteSize_append, Nat.add_assoc]

theorem reaches_advance (p : Place) (n : Nat) : p.Reaches (p.advance n) :=
  ⟨p.rest.take n, by simp [advance], by simp [advance]⟩

end Text.Place

namespace Syntax

variable {ε σ : Type} {g : Grammar ε σ} {rule : Rule ε σ} {context : ε} {p q : Place}
  {nodes : List Node}

/-- The node covers what stands between two places after this one. -/
def Node.LiesAfter (p : Place) (n : Node) : Prop :=
  ∃ a b : Place, p.Reaches a ∧ a.Reaches b ∧ n.start = a.offset ∧ n.stop = b.offset

theorem Node.LiesAfter.of_reaches {n : Node} (hpq : p.Reaches q) (h : n.LiesAfter q) :
    n.LiesAfter p := by
  obtain ⟨a, b, ha, hab, hspan⟩ := h
  exact ⟨a, b, hpq.trans ha, hab, hspan⟩

/-- What lies after a place lies after each place before it. -/
theorem Node.AllOf.of_reaches (hpq : p.Reaches q) (h : AllOf (LiesAfter q) nodes) :
    AllOf (LiesAfter p) nodes := h.mono fun _ => LiesAfter.of_reaches hpq

theorem Node.AllOf.liesAfter_withRole (role : Role) (h : AllOf (LiesAfter p) nodes) :
    AllOf (LiesAfter p) (nodes.map (·.withRole role)) :=
  h.map_withRole fun n hn => by simpa [LiesAfter] using hn

theorem reaches_passGaps (gaps : List Gap) (p : Place) : p.Reaches (passGaps gaps p).1 := by
  induction gaps generalizing p with
  | nil => exact .refl p
  | cons gap gaps ih => exact (p.reaches_advance gap.length).trans (ih _)

/-- Comments stand where the gaps are passed over. -/
theorem allLieAfter_passGaps (gaps : List Gap) (p : Place) :
    Node.AllOf (Node.LiesAfter p) (passGaps gaps p).2 := by
  induction gaps generalizing p with
  | nil => exact .nil
  | cons gap gaps ih =>
      have hpass := p.reaches_advance gap.length
      have later : Node.AllOf (Node.LiesAfter p) (passGaps gaps (p.advance gap.length)).2 :=
        (ih (p.advance gap.length)).of_reaches hpass
      cases hcomment : gap.isComment with
      | false => simpa [passGaps, hcomment] using later
      | true =>
          have own : Node.AllOf (Node.LiesAfter p)
              [.mk .comment .part p.offset (p.advance gap.length).offset []] :=
            .singleton ⟨p, p.advance gap.length, .refl p, hpass, rfl, rfl⟩ .nil
          simpa [passGaps, hcomment] using Node.AllOf.append_iff.2 ⟨own, later⟩

theorem Grammar.reaches_skip (g : Grammar ε σ) (context : ε) (p : Place) :
    p.Reaches (g.skip context p).1 := reaches_passGaps _ p

theorem Grammar.allLieAfter_skip (g : Grammar ε σ) (context : ε) (p : Place) :
    Node.AllOf (Node.LiesAfter p) (g.skip context p).2 := allLieAfter_passGaps _ p

/-- A rule reads on. A growing rule also reads on from its first token, where the nodes start that
its steps make. -/
theorem Reads.reaches_and (h : Reads g rule context p q nodes) :
    p.Reaches q ∧ ∀ base steps, rule = .grow base steps → (g.skip context p).1.Reaches q := by
  induction h with
  | empty | done | ahead | notAhead => exact ⟨.refl _, by simp⟩
  | take => exact ⟨Place.reaches_advance .., by simp⟩
  | skip => exact ⟨g.reaches_skip .., by simp⟩
  | seq _ _ ih ih' | more _ _ ih ih' => exact ⟨ih.1.trans ih'.1, by simp⟩
  | first _ ih | other _ ih | sub _ ih | within _ _ ih | label _ ih | ending _ _ ih =>
      exact ⟨ih.1, by simp⟩
  | node _ ih => exact ⟨(g.reaches_skip ..).trans ih.1, by simp⟩
  | once _ _ _ _ ih ih' => exact ⟨(g.reaches_skip ..).trans (ih.1.trans ih'.1), by simp⟩
  | base _ ih => exact ⟨(g.reaches_skip ..).trans ih.1, fun _ _ _ => ih.1⟩
  | step _ _ _ _ ih ih' =>
      have start := (ih.2 _ _ rfl).trans ih'.1
      exact ⟨(g.reaches_skip ..).trans start, fun _ _ _ => start⟩

theorem Reads.reaches (h : Reads g rule context p q nodes) : p.Reaches q := h.reaches_and.1

/-- The nodes of a rule stand after the place where it begins. -/
theorem Reads.allLieAfter (h : Reads g rule context p q nodes) :
    Node.AllOf (Node.LiesAfter p) nodes := by
  induction h with
  | empty | take | done | ahead | notAhead => exact .nil
  | skip => exact g.allLieAfter_skip _ _
  | seq h _ ih ih' | more h _ ih ih' =>
      exact Node.AllOf.append_iff.2 ⟨ih, ih'.of_reaches h.reaches⟩
  | first _ ih | other _ ih | sub _ ih | within _ _ ih | ending _ _ ih => exact ih
  | label _ ih => exact ih.liesAfter_withRole _
  | @node kind rule context p q nodes h ih =>
      have start := g.reaches_skip context p
      exact Node.AllOf.append_iff.2 ⟨g.allLieAfter_skip _ _, .singleton
        ⟨_, q, start, h.reaches, rfl, rfl⟩ (ih.of_reaches start)⟩
  | @once base steps accepts kind role rule context p q q' nodes nodes' h _ _ h' ih ih' =>
      have start := g.reaches_skip context p
      have parts := Node.AllOf.append_iff.2
        ⟨(ih.of_reaches start).liesAfter_withRole role, ih'.of_reaches (start.trans h.reaches)⟩
      exact Node.AllOf.append_iff.2 ⟨g.allLieAfter_skip _ _, .singleton
        ⟨_, q', start, h.reaches.trans h'.reaches, rfl, rfl⟩ parts⟩
  | base _ ih =>
      exact Node.AllOf.append_iff.2
        ⟨g.allLieAfter_skip _ _, ih.of_reaches (g.reaches_skip ..)⟩
  | @step base steps accepts kind role rule context p q q' nodes nodes' h _ _ h' ih ih' =>
      have start := g.reaches_skip context p
      have grown := h.reaches_and.2 _ _ rfl
      have parts := Node.AllOf.append_iff.2
        ⟨(Node.AllOf.append_iff.1 ih).2.liesAfter_withRole role, ih'.of_reaches h.reaches⟩
      exact Node.AllOf.append_iff.2 ⟨g.allLieAfter_skip _ _, .singleton
        ⟨_, q', start, grown.trans h'.reaches, rfl, rfl⟩ parts⟩

/-- What lies after the head of a source covers a piece of it. -/
theorem Node.LiesAfter.liesIn {source : List Char} {n : Node} (h : n.LiesAfter (.head source)) :
    n.LiesIn source := by
  obtain ⟨a, b, ⟨before, hrest, ha⟩, ⟨own, hown, hb⟩, hstart, hstop⟩ := h
  have hsource : source = before ++ own ++ b.rest := by
    rw [List.append_assoc, ← hown, ← hrest]
    rfl
  refine ⟨before, own, b.rest, hsource, ?_, ?_⟩
  · simp [hstart, ha, Place.head]
  · simp [hstop, hb, ha, Place.head]

/-- Every node of a tree that a grammar reads covers a piece of the source. -/
theorem Grammar.treeLiesIn_of_read {source : List Char} {tree : Node}
    (h : g.read source = some tree) : tree.TreeLiesIn source := by
  obtain ⟨last, nodes, hreads, -, rfl⟩ := g.reads_of_read h
  have whole : Node.LiesAfter (.head source) (.mk .other .part 0 last.offset nodes) :=
    ⟨.head source, last, .refl _, hreads.reaches, rfl, rfl⟩
  have all : Node.AllOf (Node.LiesAfter (.head source)) [.mk .other .part 0 last.offset nodes] :=
    .singleton whole hreads.allLieAfter
  intro n hn
  exact (all _ List.mem_cons_self n hn).liesIn

end Syntax

/-- Every node of the tree of a source covers a piece of the source. -/
theorem Language.treeLiesIn_of_parse {language : Language} {source : String} {tree : Syntax.Node}
    (h : language.parse source = some tree) : tree.TreeLiesIn source.toList := by
  cases language with
  | python | rust | javascript | typescript | tsx => exact Syntax.Grammar.treeLiesIn_of_read h

end Mutagenesis
