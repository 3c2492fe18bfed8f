import Mutagenesis.Proofs.Syntax.Counts

/-!
# Shapes of nodes

Every node of a tree is a comment or was made by some rule of the grammar, so what the rules allow
its children to be can be checked on the grammar. The check asked for here is about conditions: a
statement with a condition has one, a lone semicolon stands for it in a loop header only, and there
is something in parentheses.
-/
namespace Mutagenesis.Syntax

open Text (Place)

variable {ε σ : Type}

mutual

/-- Whether each way in which the rule makes a node is fine: a kind, and a rule for the children. -/
def Rule.every (fine : Kind → Rule ε σ → Bool) : Rule ε σ → Bool
  | .empty | .fail | .take _ | .skip | .sub _ | .ahead _ | .notAhead _ => true
  | .seq first next => first.every fine && next.every fine
  | .alt first other => first.every fine && other.every fine
  | .many rule | .within _ rule | .label _ rule | .ending _ rule => rule.every fine
  | .node kind rule => fine kind rule && rule.every fine
  | .once base steps => base.every fine && steps.every fine base
  | .grow base steps => base.every fine && steps.every fine (.grow base steps)

/-- The same of steps, which put what was read before among the children. -/
def Steps.every (fine : Kind → Rule ε σ → Bool) (before : Rule ε σ) : Steps ε σ → Bool
  | .done => true
  | .or _ kind role rule more =>
      fine kind (.seq (.label role before) rule) && rule.every fine && more.every fine before

end

/-- The node is a comment, or what was counted among its children are the nodes that some rule reads
which its kind is fine with. -/
def Node.Made (g : Grammar ε σ) (fine : Kind → Rule ε σ → Bool) (n : Node) : Prop :=
  n.kind = .comment ∧ n.role = .part ∨
    ∃ rule context p q nodes, fine n.kind rule = true ∧ Reads g rule context p q nodes ∧
      ∀ a : Ask, a.number n.children = a.number nodes

variable {g : Grammar ε σ} {fine : Kind → Rule ε σ → Bool} {rule : Rule ε σ} {context : ε}
  {p q : Place} {nodes : List Node}

theorem Steps.Has.every {steps : Steps ε σ} {accepts : Kind → Bool} {kind : Kind} {role : Role}
    {step before : Rule ε σ} (h : steps.Has accepts kind role step)
    (hevery : steps.every fine before = true) :
    fine kind (.seq (.label role before) step) = true ∧ step.every fine = true := by
  induction h with
  | here =>
      simp only [Steps.every, Bool.and_eq_true] at hevery
      exact hevery.1
  | later _ ih =>
      simp only [Steps.every, Bool.and_eq_true] at hevery
      exact ih hevery.2

theorem Node.Made.withRole {n : Node} (role : Role) (h : n.Made g fine) :
    (n.withRole role).Made g fine := by
  obtain ⟨hkind, hrole⟩ | ⟨rule, context, p, q, nodes, hfine, hreads, hnumber⟩ := h
  · exact .inl ⟨by simpa using hkind, by simp [role_withRole, hkind, hrole]⟩
  · exact .inr ⟨rule, context, p, q, nodes, by simpa using hfine, hreads, by simpa using hnumber⟩

theorem Node.AllOf.made_withRole (role : Role) (h : AllOf (Made g fine) nodes) :
    AllOf (Made g fine) (nodes.map (·.withRole role)) := h.map_withRole fun _ hn => hn.withRole role

theorem allMade_passGaps (gaps : List Gap) (p : Place) :
    Node.AllOf (Node.Made g fine) (passGaps gaps p).2 := by
  induction gaps generalizing p with
  | nil => exact .nil
  | cons gap gaps ih =>
      have later := ih (p.advance gap.length)
      cases h : gap.isComment with
      | false => simpa [passGaps, h] using later
      | true =>
          simp only [passGaps, h, if_true]
          rw [← List.singleton_append]
          exact Node.AllOf.append_iff.2 ⟨.singleton (.inl ⟨rfl, rfl⟩) .nil, later⟩

/-- The nodes of a rule were made so, if each rule of the grammar makes nodes so. -/
theorem Reads.allMade (every : ∀ symbol, (g.rule symbol).every fine = true)
    (h : Reads g rule context p q nodes) (hrule : rule.every fine = true) :
    Node.AllOf (Node.Made g fine) nodes := by
  induction h with
  | empty | take | done | ahead | notAhead => exact .nil
  | skip => exact allMade_passGaps _ _
  | seq _ _ ih ih' =>
      simp only [Rule.every, Bool.and_eq_true] at hrule
      exact Node.AllOf.append_iff.2 ⟨ih hrule.1, ih' hrule.2⟩
  | first _ ih =>
      simp only [Rule.every, Bool.and_eq_true] at hrule
      exact ih hrule.1
  | other _ ih =>
      simp only [Rule.every, Bool.and_eq_true] at hrule
      exact ih hrule.2
  | more _ _ ih ih' => exact Node.AllOf.append_iff.2 ⟨ih hrule, ih' hrule⟩
  | sub _ ih => exact ih (every _)
  | within _ _ ih | ending _ _ ih => exact ih hrule
  | label _ ih => exact (ih hrule).made_withRole _
  | node h ih =>
      simp only [Rule.every, Bool.and_eq_true] at hrule
      exact Node.AllOf.append_iff.2 ⟨allMade_passGaps _ _, .singleton
        (.inr ⟨_, _, _, _, _, hrule.1, h, fun _ => rfl⟩) (ih hrule.2)⟩
  | once h hstep _ h' ih ih' =>
      simp only [Rule.every, Bool.and_eq_true] at hrule
      obtain ⟨hfine, hown⟩ := hstep.every hrule.2
      exact Node.AllOf.append_iff.2 ⟨allMade_passGaps _ _, .singleton
        (.inr ⟨_, _, _, _, _, hfine, .seq (.label h) h', fun _ => rfl⟩)
        (Node.AllOf.append_iff.2 ⟨(ih hrule.1).made_withRole _, ih' hown⟩)⟩
  | base _ ih =>
      simp only [Rule.every, Bool.and_eq_true] at hrule
      exact Node.AllOf.append_iff.2 ⟨allMade_passGaps _ _, ih hrule.1⟩
  | step h hstep _ h' ih ih' =>
      have hsteps := hrule
      simp only [Rule.every, Bool.and_eq_true] at hsteps
      obtain ⟨hfine, hown⟩ := hstep.every hsteps.2
      have earlier := (Node.AllOf.append_iff.1 (ih hrule)).2
      -- the comments before the first token are not among the children, and do not count
      refine Node.AllOf.append_iff.2 ⟨allMade_passGaps _ _, .singleton
        (.inr ⟨_, _, _, _, _, hfine, .seq (.label h) h', fun a => ?_⟩)
        (Node.AllOf.append_iff.2 ⟨earlier.made_withRole _, ih' hown⟩)⟩
      simp [Node.joined, Node.children, Ask.number_map_withRole]

/-! ## Conditions -/

variable {table : Ask → σ → Count} {n : Node}

/-- What the children of a node must be by the rule that reads them. -/
def isShaped (table : Ask → σ → Count) : Kind → Rule ε σ → Bool
  | .conditional c, rule =>
      rule.count table .condition = .single ∧
        (c = .forLoop ∨ rule.count table .voidCondition = .nothing)
  | .parenthesized, rule | .expressionStatement, rule => !(rule.count table .solid).zero
  | .comment, _ => false
  | _, _ => true

/-- The table counts the nodes of each symbol, and by it all nodes of the grammar are shaped. -/
structure Grammar.Shapes (g : Grammar ε σ) (table : Ask → σ → Count) : Prop where
  respects : g.Respects table
  every : ∀ symbol, (g.rule symbol).every (isShaped table) = true

/-- A comment is no condition; a statement with a condition has one, which is no comment and is
missing in a loop header only; and there is something in parentheses. -/
structure Node.Shaped (n : Node) : Prop where
  comment : n.kind = .comment → n.role = .part
  condition : ∀ c, n.kind = .conditional c → ∃ e ∈ n.children, e.role = .condition
  void : ∀ c, n.kind = .conditional c → ∀ e ∈ n.children, e.role = .condition →
    e.kind = .emptyStatement → c = .forLoop
  wrapped : n.kind = .parenthesized ∨ n.kind = .expressionStatement →
    ∃ e ∈ n.children, e.kind ≠ .comment

theorem Ask.exists_of_number {a : Ask} (h : a.number nodes ≠ 0) :
    ∃ n ∈ nodes, a.counts n.kind n.role = true := List.countP_pos_iff.1 (Nat.pos_of_ne_zero h)

theorem Ask.counts_of_number {a : Ask} (h : a.number nodes = 0) {n : Node} (hn : n ∈ nodes) :
    a.counts n.kind n.role = false := by
  simpa using List.countP_eq_zero.1 h n hn

theorem Node.Made.shaped (respects : g.Respects table) (h : n.Made g (isShaped table)) :
    n.Shaped := by
  obtain ⟨hkind, hrole⟩ | ⟨rule, context, p, q, nodes, hfine, hreads, hnumber⟩ := h
  · exact ⟨fun _ => hrole, by simp [hkind], by simp [hkind], by simp [hkind]⟩
  · have has (a : Ask) : (rule.count table a).Has (a.number n.children) := by
      rw [hnumber a]
      exact hreads.has_count respects a
    refine ⟨fun hkind => ?_, fun c hkind => ?_, fun c hkind e he hrole hvoid => ?_, fun hkind => ?_⟩
    · simp [hkind, isShaped] at hfine
    · simp only [hkind, isShaped, Bool.decide_and, Bool.and_eq_true, decide_eq_true_eq] at hfine
      have one : Ask.condition.number n.children = 1 := by
        simpa [hfine.1, Count.has_single] using has .condition
      have some : Ask.condition.number n.children ≠ 0 := by omega
      obtain ⟨e, he, hcounts⟩ := Ask.exists_of_number some
      exact ⟨e, he, by simp_all [Ask.counts]⟩
    · simp only [hkind, isShaped, Bool.decide_and, Bool.and_eq_true, decide_eq_true_eq] at hfine
      refine hfine.2.resolve_right fun none => ?_
      have none : Ask.voidCondition.number n.children = 0 := by
        simpa [none, Count.has_nothing] using has .voidCondition
      simpa [Ask.counts, hvoid, hrole] using Ask.counts_of_number none he
    · have positive : (rule.count table .solid).zero = false := by
        obtain hkind | hkind := hkind <;> simpa [hkind, isShaped] using hfine
      have some : Ask.solid.number n.children ≠ 0 := by
        intro none
        have zero := has .solid
        rw [none, Count.has_zero, positive] at zero
        cases zero
      obtain ⟨e, he, hcounts⟩ := Ask.exists_of_number some
      exact ⟨e, he, by simpa [Ask.counts] using hcounts⟩

/-- The nodes of a tree that the grammar reads are shaped. -/
theorem Grammar.shaped_of_read {source : List Char} {tree : Node} (shapes : g.Shapes table)
    (h : g.read source = some tree) : ∀ n ∈ tree.preorder, n.Shaped := by
  obtain ⟨last, nodes, hreads, -, rfl⟩ := g.reads_of_read h
  have whole : (Rule.seq (.sub g.start) .skip : Rule ε σ).every (isShaped table) = true := rfl
  have all : Node.AllOf (Node.Made g (isShaped table)) [.mk .other .part 0 last.offset nodes] :=
    .singleton (.inr ⟨_, _, _, _, _, rfl, hreads, fun _ => rfl⟩)
      (hreads.allMade shapes.every whole)
  intro n hn
  exact (all _ List.mem_cons_self n hn).shaped shapes.respects

end Mutagenesis.Syntax
