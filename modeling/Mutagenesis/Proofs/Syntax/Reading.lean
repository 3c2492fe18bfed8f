import Mutagenesis.Syntax.Reading

/-!
# What a rule reads

`Reads` relates a rule and a place to the place after what the rule reads and to the nodes of it. It
leaves out how deep rules may nest and which alternative goes first, so more readings are in it than
the one that `follow` takes; what holds of all of them is shown by one induction on the reading.
-/
namespace Mutagenesis.Syntax

open Text (Place)

variable {ε σ : Type}

/-- A step is one of the steps. -/
inductive Steps.Has (accepts : Kind → Bool) (kind : Kind) (role : Role) (rule : Rule ε σ) :
    Steps ε σ → Prop where
  | here {more : Steps ε σ} : Has accepts kind role rule (.or accepts kind role rule more)
  | later {accepts' : Kind → Bool} {kind' : Kind} {role' : Role} {rule' : Rule ε σ}
      {more : Steps ε σ} (h : Has accepts kind role rule more) :
      Has accepts kind role rule (.or accepts' kind' role' rule' more)

/-- The node that a step makes of what was read and what it reads itself. -/
def Node.joined (kind : Kind) (role : Role) (start stop : Place) (nodes nodes' : List Node) :
    Node :=
  .mk kind .part start.offset stop.offset (nodes.map (·.withRole role) ++ nodes')

/-- A rule reads from one place to another one, and makes the nodes. -/
inductive Reads (g : Grammar ε σ) : Rule ε σ → ε → Place → Place → List Node → Prop where
  | empty {context p} : Reads g .empty context p p []
  | take {length context p n} (h : length context p.rest = some n) :
      Reads g (.take length) context p (p.advance n) []
  | skip {context p} : Reads g .skip context p (g.skip context p).1 (g.skip context p).2
  | seq {first next context p q q' nodes nodes'} (h : Reads g first context p q nodes)
      (h' : Reads g next context q q' nodes') :
      Reads g (.seq first next) context p q' (nodes ++ nodes')
  | first {first other context p q nodes} (h : Reads g first context p q nodes) :
      Reads g (.alt first other) context p q nodes
  | other {first other context p q nodes} (h : Reads g other context p q nodes) :
      Reads g (.alt first other) context p q nodes
  | done {item context p} : Reads g (.many item) context p p []
  | more {item context p q q' nodes nodes'} (h : Reads g item context p q nodes)
      (h' : Reads g (.many item) context q q' nodes') :
      Reads g (.many item) context p q' (nodes ++ nodes')
  | ahead {rule context p} : Reads g (.ahead rule) context p p []
  | notAhead {rule context p} : Reads g (.notAhead rule) context p p []
  | sub {symbol context p q nodes} (h : Reads g (g.rule symbol) context p q nodes) :
      Reads g (.sub symbol) context p q nodes
  | within {change inner rule context p q nodes} (hinner : change context p.rest = some inner)
      (h : Reads g rule inner p q nodes) : Reads g (.within change rule) context p q nodes
  | node {kind rule context p q nodes} (h : Reads g rule context (g.skip context p).1 q nodes) :
      Reads g (.node kind rule) context p q
        ((g.skip context p).2 ++ [.mk kind .part (g.skip context p).1.offset q.offset nodes])
  | label {role rule context p q nodes} (h : Reads g rule context p q nodes) :
      Reads g (.label role rule) context p q (nodes.map (·.withRole role))
  | ending {accepts rule context p q nodes} (h : Reads g rule context p q nodes)
      (hends : endsIn accepts nodes = true) : Reads g (.ending accepts rule) context p q nodes
  | once {base steps accepts kind role rule context p q q' nodes nodes'}
      (h : Reads g base context (g.skip context p).1 q nodes)
      (hstep : steps.Has accepts kind role rule) (hends : endsIn accepts nodes = true)
      (h' : Reads g rule context q q' nodes') :
      Reads g (.once base steps) context p q'
        ((g.skip context p).2 ++ [.joined kind role (g.skip context p).1 q' nodes nodes'])
  | base {base steps context p q nodes} (h : Reads g base context (g.skip context p).1 q nodes) :
      Reads g (.grow base steps) context p q ((g.skip context p).2 ++ nodes)
  | step {base steps accepts kind role rule context p q q' nodes nodes'}
      (h : Reads g (.grow base steps) context p q ((g.skip context p).2 ++ nodes))
      (hstep : steps.Has accepts kind role rule) (hends : endsIn accepts nodes = true)
      (h' : Reads g rule context q q' nodes') :
      Reads g (.grow base steps) context p q'
        ((g.skip context p).2 ++ [.joined kind role (g.skip context p).1 q' nodes nodes'])

namespace Grammar

variable {g : Grammar ε σ} {depth : Nat}

/-- Up to a depth, what `follow` answers is a reading. -/
def Faithful (g : Grammar ε σ) (depth : Nat) : Prop :=
  ∀ {rule context p q nodes},
    g.follow depth rule context p = some (q, nodes) → Reads g rule context p q nodes

/-- Up to a depth, what `step` answers is what some step makes of the nodes so far. -/
def StepsFaithfully (g : Grammar ε σ) (depth : Nat) : Prop :=
  ∀ {steps context start p nodes q found},
    g.step depth steps context start p nodes = some (q, found) →
      ∃ accepts kind role rule nodes', steps.Has accepts kind role rule ∧
        endsIn accepts nodes = true ∧ Reads g rule context p q nodes' ∧
        found = [.joined kind role start q nodes nodes']

/-- Up to a depth, what `extend` answers goes on from a reading. -/
def ExtendsFaithfully (g : Grammar ε σ) (depth : Nat) : Prop :=
  ∀ {base steps context p q nodes q' found},
    Reads g (.grow base steps) context p q ((g.skip context p).2 ++ nodes) →
    g.extend depth steps context (g.skip context p).1 q nodes = some (q', found) →
      Reads g (.grow base steps) context p q' ((g.skip context p).2 ++ found)

theorem stepsFaithfully_succ (hfollow : g.Faithful depth) (hstep : g.StepsFaithfully depth) :
    g.StepsFaithfully (depth + 1) := by
  intro steps context start p nodes q found h
  cases steps with
  | done => simp [step] at h
  | or accepts kind role rule more =>
      have further : g.step depth more context start p nodes = some (q, found) →
          ∃ accepts' kind' role' rule' nodes',
            Steps.Has accepts' kind' role' rule' (.or accepts kind role rule more) ∧
            endsIn accepts' nodes = true ∧ Reads g rule' context p q nodes' ∧
            found = [.joined kind' role' start q nodes nodes'] := by
        intro hmore
        obtain ⟨accepts', kind', role', rule', nodes', hhas, rest⟩ := hstep hmore
        exact ⟨accepts', kind', role', rule', nodes', .later hhas, rest⟩
      simp only [step] at h
      split at h
      next found' hhere =>
        obtain rfl := Option.some.inj h
        split at hhere
        next hends =>
          split at hhere
          next => simp at hhere
          next q' nodes' hread =>
            split at hhere
            next => simp at hhere
            next =>
              simp only [Option.some.injEq, Prod.mk.injEq] at hhere
              obtain ⟨rfl, rfl⟩ := hhere
              exact ⟨accepts, kind, role, rule, nodes', .here, hends, hfollow hread, rfl⟩
        next => simp at hhere
      next => exact further h

theorem extendsFaithfully_succ (hstep : g.StepsFaithfully depth)
    (hextend : g.ExtendsFaithfully depth) : g.ExtendsFaithfully (depth + 1) := by
  intro base steps context p q nodes q' found hread h
  simp only [extend] at h
  split at h
  next =>
    simp only [Option.some.injEq, Prod.mk.injEq] at h
    obtain ⟨rfl, rfl⟩ := h
    exact hread
  next q₁ nodes₁ hone =>
    obtain ⟨accepts, kind, role, rule, nodes', hhas, hends, hrule, rfl⟩ := hstep hone
    exact hextend (.step hread hhas hends hrule) h

theorem faithful_succ (hfollow : g.Faithful depth) (hstep : g.StepsFaithfully depth)
    (hextend : g.ExtendsFaithfully depth) : g.Faithful (depth + 1) := by
  intro rule context p q nodes h
  cases rule with
  | empty =>
      simp only [follow, Option.some.injEq, Prod.mk.injEq] at h
      obtain ⟨rfl, rfl⟩ := h
      exact .empty
  | fail => simp [follow] at h
  | take length =>
      obtain ⟨n, hn, heq⟩ := Option.map_eq_some_iff.1 (by simpa only [follow] using h)
      simp only [Prod.mk.injEq] at heq
      obtain ⟨rfl, rfl⟩ := heq
      exact .take hn
  | skip =>
      simp only [follow, Option.some.injEq] at h
      have hread : Reads g .skip context p (g.skip context p).1 (g.skip context p).2 := .skip
      rwa [h] at hread
  | seq first next =>
      simp only [follow] at h
      split at h
      next => simp at h
      next hfirst =>
        split at h
        next => simp at h
        next hnext =>
          simp only [Option.some.injEq, Prod.mk.injEq] at h
          obtain ⟨rfl, rfl⟩ := h
          exact .seq (hfollow hfirst) (hfollow hnext)
  | alt first other =>
      simp only [follow] at h
      split at h
      next hfirst => exact .first (hfollow (hfirst.trans h))
      next => exact .other (hfollow h)
  | many item =>
      simp only [follow] at h
      split at h
      next =>
        simp only [Option.some.injEq, Prod.mk.injEq] at h
        obtain ⟨rfl, rfl⟩ := h
        exact .done
      next hitem =>
        split at h
        next =>
          simp only [Option.some.injEq, Prod.mk.injEq] at h
          obtain ⟨rfl, rfl⟩ := h
          exact .done
        next =>
          split at h
          next => simp at h
          next hmore =>
            simp only [Option.some.injEq, Prod.mk.injEq] at h
            obtain ⟨rfl, rfl⟩ := h
            exact .more (hfollow hitem) (hfollow hmore)
  | ahead rule =>
      obtain ⟨_, -, heq⟩ := Option.map_eq_some_iff.1 (by simpa only [follow] using h)
      simp only [Prod.mk.injEq] at heq
      obtain ⟨rfl, rfl⟩ := heq
      exact .ahead
  | notAhead rule =>
      simp only [follow] at h
      split at h
      next => simp at h
      next =>
        simp only [Option.some.injEq, Prod.mk.injEq] at h
        obtain ⟨rfl, rfl⟩ := h
        exact .notAhead
  | sub symbol => exact .sub (hfollow (by simpa only [follow] using h))
  | within change rule =>
      simp only [follow] at h
      split at h
      next => simp at h
      next hinner => exact .within hinner (hfollow h)
  | node kind rule =>
      simp only [follow] at h
      split at h
      next => simp at h
      next hrule =>
        simp only [Option.some.injEq, Prod.mk.injEq] at h
        obtain ⟨rfl, rfl⟩ := h
        exact .node (hfollow hrule)
  | label role rule =>
      obtain ⟨⟨q₁, nodes₁⟩, hrule, heq⟩ :=
        Option.map_eq_some_iff.1 (by simpa only [follow] using h)
      simp only [Prod.mk.injEq] at heq
      obtain ⟨rfl, rfl⟩ := heq
      exact .label (hfollow hrule)
  | ending accepts rule =>
      simp only [follow] at h
      split at h
      next => simp at h
      next hrule =>
        split at h
        next hends =>
          simp only [Option.some.injEq, Prod.mk.injEq] at h
          obtain ⟨rfl, rfl⟩ := h
          exact .ending (hfollow hrule) hends
        next => simp at h
  | once base steps =>
      simp only [follow] at h
      split at h
      next => simp at h
      next hbase =>
        obtain ⟨⟨q₁, found⟩, hone, heq⟩ := Option.map_eq_some_iff.1 h
        simp only [Prod.mk.injEq] at heq
        obtain ⟨rfl, rfl⟩ := heq
        obtain ⟨accepts, kind, role, rule, nodes', hhas, hends, hrule, rfl⟩ := hstep hone
        exact .once (hfollow hbase) hhas hends hrule
  | grow base steps =>
      simp only [follow] at h
      split at h
      next => simp at h
      next hbase =>
        obtain ⟨⟨q₁, found⟩, hmore, heq⟩ := Option.map_eq_some_iff.1 h
        simp only [Prod.mk.injEq] at heq
        obtain ⟨rfl, rfl⟩ := heq
        exact hextend (.base (hfollow hbase)) hmore

/-- The three readers go by the relation, each one level deeper by what the others do below it. -/
theorem faithful_at (g : Grammar ε σ) (depth : Nat) :
    g.Faithful depth ∧ g.StepsFaithfully depth ∧ g.ExtendsFaithfully depth := by
  induction depth with
  | zero =>
      refine ⟨?_, ?_, ?_⟩
      · intro rule context p q nodes h
        simp [follow] at h
      · intro steps context start p nodes q found h
        simp [step] at h
      · intro base steps context p q nodes q' found _ h
        simp [extend] at h
  | succ depth ih =>
      obtain ⟨hfollow, hstep, hextend⟩ := ih
      exact ⟨faithful_succ hfollow hstep hextend, stepsFaithfully_succ hfollow hstep,
        extendsFaithfully_succ hstep hextend⟩

/-- A tree of a source holds what the grammar reads from the head of it to its end. -/
theorem reads_of_read {source : List Char} {tree : Node} (h : g.read source = some tree) :
    ∃ last nodes, Reads g (.seq (.sub g.start) .skip) g.context (.head source) last nodes ∧
      last.rest = [] ∧ tree = .mk .other .part 0 last.offset nodes := by
  simp only [read] at h
  split at h
  next => simp at h
  next last nodes hfollow =>
    split at h
    next hrest =>
      obtain rfl := Option.some.inj h
      exact ⟨last, nodes, (faithful_at g _).1 hfollow, by simpa using hrest, rfl⟩
    next => simp at h

end Grammar

end Mutagenesis.Syntax
