import Mutagenesis.Proofs.Syntax.Reading
import Mutagenesis.Proofs.Syntax.Tree

/-!
# How many nodes a rule makes

How many nodes of a sort a rule makes can be told from the rule, up to a table for the symbols:
none, one, or more. A comment may turn up among the nodes of any rule and is never counted. Since
the table is checked against the rules of the symbols, what `Rule.count` answers holds of every
reading.
-/
namespace Mutagenesis.Syntax

open Text (Place)

/-- Which numbers are possible: zero, one, and two or more. -/
structure Count where
  zero : Bool
  one : Bool
  more : Bool
  deriving DecidableEq

namespace Count

/-- A number is possible. -/
def Has (c : Count) (n : Nat) : Prop :=
  n = 0 ∧ c.zero = true ∨ n = 1 ∧ c.one = true ∨ 2 ≤ n ∧ c.more = true

def never : Count := ⟨false, false, false⟩

def nothing : Count := ⟨true, false, false⟩

def single : Count := ⟨false, true, false⟩

def any : Count := ⟨true, true, true⟩

def possible (c : Count) : Bool := c.zero || c.one || c.more

/-- The numbers of either. -/
def join (a b : Count) : Count := ⟨a.zero || b.zero, a.one || b.one, a.more || b.more⟩

/-- The sums of a number of each. -/
def add (a b : Count) : Count where
  zero := a.zero && b.zero
  one := a.zero && b.one || a.one && b.zero
  more := a.more && b.possible || a.possible && b.more || a.one && b.one

/-- The sums of any number of summands. -/
def star (c : Count) : Count := if c.one || c.more then any else nothing

/-- Whether each number of the first is one of the second. -/
def le (a b : Count) : Bool := (!a.zero || b.zero) && (!a.one || b.one) && (!a.more || b.more)

variable {a b c : Count} {m n : Nat}

theorem has_zero : c.Has 0 ↔ c.zero = true := by simp [Has]

theorem has_nothing : nothing.Has n ↔ n = 0 := by simp [Has, nothing]

theorem has_single : single.Has n ↔ n = 1 := by simp [Has, single]

theorem has_any (n : Nat) : any.Has n := by
  simp only [Has, any, and_true]
  omega

theorem Has.join_left (h : a.Has n) : (a.join b).Has n := by
  obtain ⟨hn, h⟩ | ⟨hn, h⟩ | ⟨hn, h⟩ := h <;> simp [Has, join, hn, h]

theorem Has.join_right (h : b.Has n) : (a.join b).Has n := by
  obtain ⟨hn, h⟩ | ⟨hn, h⟩ | ⟨hn, h⟩ := h <;> simp [Has, join, hn, h]

theorem Has.possible (h : a.Has n) : a.possible = true := by
  obtain ⟨-, h⟩ | ⟨-, h⟩ | ⟨-, h⟩ := h <;> simp [Count.possible, h]

theorem Has.of_le (h : a.Has n) (hle : a.le b = true) : b.Has n := by
  simp only [le, Bool.and_eq_true, Bool.or_eq_true, Bool.not_eq_true'] at hle
  obtain ⟨hn, h⟩ | ⟨hn, h⟩ | ⟨hn, h⟩ := h <;> simp_all [Has]

theorem Has.add (ha : a.Has m) (hb : b.Has n) : (a.add b).Has (m + n) := by
  have pa := ha.possible
  have pb := hb.possible
  obtain ⟨rfl, ha⟩ | ⟨rfl, ha⟩ | ⟨hm, ha⟩ := ha
  · obtain ⟨rfl, hb⟩ | ⟨rfl, hb⟩ | ⟨hn, hb⟩ := hb
    · exact .inl (by simp [Count.add, ha, hb])
    · exact .inr (.inl (by simp [Count.add, ha, hb]))
    · exact .inr (.inr ⟨by omega, by simp [Count.add, pa, hb]⟩)
  · obtain ⟨rfl, hb⟩ | ⟨rfl, hb⟩ | ⟨hn, hb⟩ := hb
    · exact .inr (.inl (by simp [Count.add, ha, hb]))
    · exact .inr (.inr (by simp [Count.add, ha, hb]))
    · exact .inr (.inr ⟨by omega, by simp [Count.add, pa, hb]⟩)
  · exact .inr (.inr ⟨by omega, by simp [Count.add, ha, pb]⟩)

theorem star_zero (c : Count) : c.star.Has 0 := by
  unfold star
  split
  next => exact has_any 0
  next => exact has_nothing.2 rfl

theorem Has.star (h : c.Has m) (h' : c.star.Has n) : c.star.Has (m + n) := by
  unfold Count.star at *
  split
  next => exact has_any _
  next none =>
    rw [if_neg none, has_nothing] at h'
    simp only [Bool.or_eq_true, not_or] at none
    obtain ⟨rfl, -⟩ | ⟨-, hone⟩ | ⟨-, hmore⟩ := h
    · exact has_nothing.2 (by omega)
    · exact absurd hone none.1
    · exact absurd hmore none.2

end Count

/-- The sorts of nodes that are counted. -/
inductive Ask where
  /-- All but comments. -/
  | solid
  /-- Lone semicolons. -/
  | void
  /-- Those that are the condition of their parent. -/
  | condition
  /-- Lone semicolons in the place of a condition. -/
  | voidCondition
  | nothing
  deriving DecidableEq

namespace Ask

/-- Whether a node of the kind and role is counted. -/
def counts : Ask → Kind → Role → Bool
  | solid, kind, _ => kind ≠ .comment
  | void, kind, _ => kind = .emptyStatement
  | condition, kind, role => kind ≠ .comment ∧ role = .condition
  | voidCondition, kind, role => kind = .emptyStatement ∧ role = .condition
  | nothing, _, _ => false

/-- What to count before the nodes get the role. -/
def under (role : Role) : Ask → Ask
  | solid => solid
  | void => void
  | condition => if role = .condition then solid else nothing
  | voidCondition => if role = .condition then void else nothing
  | nothing => nothing

/-- How many of the nodes are counted. -/
def number (a : Ask) (nodes : List Node) : Nat := nodes.countP fun n => a.counts n.kind n.role

variable {a : Ask} {nodes nodes' : List Node}

@[simp] theorem counts_comment (a : Ask) (role : Role) : a.counts .comment role = false := by
  cases a <;> simp [counts]

theorem counts_under {kind : Kind} (h : kind ≠ .comment) (role role' : Role) :
    (a.under role).counts kind role' = a.counts kind role := by
  cases a with
  | solid | void | nothing => rfl
  | condition | voidCondition =>
      by_cases hrole : role = .condition <;> simp [under, counts, h, hrole]

@[simp] theorem number_nil (a : Ask) : a.number [] = 0 := rfl

@[simp] theorem number_append (a : Ask) (nodes nodes' : List Node) :
    a.number (nodes ++ nodes') = a.number nodes + a.number nodes' := List.countP_append

theorem number_singleton (a : Ask) (n : Node) :
    a.number [n] = if a.counts n.kind n.role then 1 else 0 := List.countP_singleton

/-- Counting after the nodes got a role. -/
theorem number_map_withRole (a : Ask) (role : Role) (nodes : List Node) :
    a.number (nodes.map (·.withRole role)) = (a.under role).number nodes := by
  rw [number, List.countP_map, number]
  refine List.countP_congr fun n _ => ?_
  by_cases h : n.kind = .comment
  · simp [h]
  · simp [Node.role_withRole, h, counts_under]

theorem number_passGaps (a : Ask) (gaps : List Gap) (p : Place) :
    a.number (passGaps gaps p).2 = 0 := by
  induction gaps generalizing p with
  | nil => rfl
  | cons gap gaps ih =>
      have later := ih (p.advance gap.length)
      cases h : gap.isComment with
      | false => simpa [passGaps, h] using later
      | true =>
          have own (n : Node) (hn : n.kind = .comment) : a.number [n] = 0 := by
            simp [number_singleton, hn]
          simp only [passGaps, h, if_true]
          rw [← List.singleton_append, number_append, later, own _ rfl]

end Ask

variable {ε σ : Type}

/-- The number of nodes of a kind that stands alone. -/
def Count.ofKind (a : Ask) (kind : Kind) : Count :=
  if a.counts kind .part then single else nothing

/-- How many nodes a step makes. -/
def Steps.count (a : Ask) : Steps ε σ → Count
  | .done => .never
  | .or _ kind _ _ more => (Count.ofKind a kind).join (more.count a)

/-- How many nodes a rule makes, when symbols make as many as the table says. -/
def Rule.count (table : Ask → σ → Count) (a : Ask) : Rule ε σ → Count
  | .fail => .never
  | .empty | .take _ | .skip | .ahead _ | .notAhead _ => .nothing
  | .seq first next => (first.count table a).add (next.count table a)
  | .alt first other => (first.count table a).join (other.count table a)
  | .many item => (item.count table a).star
  | .sub symbol => table a symbol
  | .within _ rule | .ending _ rule => rule.count table a
  | .node kind _ => Count.ofKind a kind
  | .label role rule => rule.count table (a.under role)
  | .once _ steps => steps.count a
  | .grow base steps => (base.count table a).join (steps.count a)

variable {g : Grammar ε σ} {table : Ask → σ → Count} {rule : Rule ε σ} {context : ε}
  {p q : Place} {nodes : List Node} {a : Ask}

@[simp] theorem Ask.number_skip (a : Ask) (g : Grammar ε σ) (context : ε) (p : Place) :
    a.number (g.skip context p).2 = 0 := a.number_passGaps _ p

theorem Count.has_ofKind (a : Ask) (kind : Kind) (start stop : Nat) (children : List Node) :
    (Count.ofKind a kind).Has (a.number [.mk kind .part start stop children]) := by
  rw [Ask.number_singleton, Count.ofKind]
  change (if a.counts kind .part then single else nothing).Has
    (if a.counts kind .part then 1 else 0)
  split
  next => exact has_single.2 rfl
  next => exact has_nothing.2 rfl

/-- A step makes one of the nodes that the steps make. -/
theorem Steps.Has.has_count {steps : Steps ε σ} {accepts : Kind → Bool} {kind : Kind} {role : Role}
    {step : Rule ε σ} (h : steps.Has accepts kind role step) (a : Ask) (start stop : Place)
    (nodes nodes' : List Node) :
    (steps.count a).Has (a.number [.joined kind role start stop nodes nodes']) := by
  induction h with
  | here => exact (Count.has_ofKind a ..).join_left
  | later _ ih => exact ih.join_right

/-- The table says of each symbol at least what its rule makes. -/
def Grammar.Respects (g : Grammar ε σ) (table : Ask → σ → Count) : Prop :=
  ∀ a symbol, ((g.rule symbol).count table a).le (table a symbol) = true

/-- A rule makes as many nodes as is told from it. -/
theorem Reads.has_count (respects : g.Respects table) (h : Reads g rule context p q nodes)
    (a : Ask) : (rule.count table a).Has (a.number nodes) := by
  induction h generalizing a with
  | empty | take | ahead | notAhead => exact Count.has_nothing.2 rfl
  | skip => exact Count.has_nothing.2 (a.number_skip ..)
  | seq _ _ ih ih' => simpa [Rule.count] using (ih a).add (ih' a)
  | first _ ih => exact (ih a).join_left
  | other _ ih => exact (ih a).join_right
  | done => exact Count.star_zero _
  | more _ _ ih ih' => simpa [Rule.count] using (ih a).star (ih' a)
  | @sub symbol _ _ _ _ _ ih => exact (ih a).of_le (respects a symbol)
  | within _ _ ih | ending _ _ ih => exact ih a
  | node => simpa [Rule.count] using Count.has_ofKind a ..
  | label _ ih => simpa [Rule.count, Ask.number_map_withRole] using ih (a.under _)
  | once _ hstep => simpa [Rule.count] using hstep.has_count a ..
  | base _ ih => simpa [Rule.count] using (ih a).join_left
  | step _ hstep => simpa [Rule.count] using (hstep.has_count a ..).join_right

end Mutagenesis.Syntax
