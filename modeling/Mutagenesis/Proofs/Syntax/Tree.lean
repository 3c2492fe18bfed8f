import Mutagenesis.Syntax.Tree

/-!
# Nodes of a tree

The nodes of a tree are its root and the nodes of its children; a node that gets another role keeps
everything else. `AllOf` says something of all nodes of several trees.
-/
namespace Mutagenesis.Syntax.Node

variable {n m : Node}

@[simp] theorem kind_withRole (role : Role) (n : Node) : (n.withRole role).kind = n.kind := by
  cases n
  rfl

@[simp] theorem start_withRole (role : Role) (n : Node) : (n.withRole role).start = n.start := by
  cases n
  rfl

@[simp] theorem stop_withRole (role : Role) (n : Node) : (n.withRole role).stop = n.stop := by
  cases n
  rfl

@[simp] theorem children_withRole (role : Role) (n : Node) :
    (n.withRole role).children = n.children := by
  cases n
  rfl

theorem role_withRole (role : Role) (n : Node) :
    (n.withRole role).role = if n.kind = .comment then n.role else role := by
  cases n
  rfl

theorem mem_preorderAll {nodes : List Node} :
    m ∈ preorderAll nodes ↔ ∃ n ∈ nodes, m ∈ n.preorder := by
  induction nodes with
  | nil => simp [preorderAll]
  | cons n nodes ih => simp [preorderAll, ih]

/-- The nodes of a tree are its root and those of the trees below it. -/
theorem mem_preorder : m ∈ n.preorder ↔ m = n ∨ ∃ c ∈ n.children, m ∈ c.preorder := by
  cases n
  simp [preorder, mem_preorderAll, children]

theorem self_mem_preorder (n : Node) : n ∈ n.preorder := mem_preorder.2 (.inl rfl)

theorem preorder_trans {k : Node} (hm : m ∈ n.preorder) (hk : k ∈ m.preorder) :
    k ∈ n.preorder := by
  induction n using preorder.induct (motive_2 := fun nodes =>
      (∃ n ∈ nodes, m ∈ n.preorder) → ∃ n ∈ nodes, k ∈ n.preorder) with
  | case1 kind role start stop children ih =>
      obtain rfl | below := mem_preorder.1 hm
      · exact hk
      · exact mem_preorder.2 (.inr (ih below))
  | case2 => simp at *
  | case3 n nodes ih ihs below =>
      obtain ⟨n', hn', hm'⟩ := below
      obtain rfl | hn' := List.mem_cons.1 hn'
      · exact ⟨n', List.mem_cons_self, ih hm'⟩
      · obtain ⟨n'', hn'', hk'⟩ := ihs ⟨n', hn', hm'⟩
        exact ⟨n'', List.mem_cons_of_mem n hn'', hk'⟩

/-- All nodes of the trees have the property. -/
def AllOf (P : Node → Prop) (nodes : List Node) : Prop := ∀ n ∈ nodes, ∀ m ∈ n.preorder, P m

namespace AllOf

variable {P Q : Node → Prop} {nodes nodes' : List Node}

theorem nil : AllOf P [] := by simp [AllOf]

theorem append_iff : AllOf P (nodes ++ nodes') ↔ AllOf P nodes ∧ AllOf P nodes' := by
  simp only [AllOf, List.mem_append]
  constructor
  · intro h
    exact ⟨fun n hn => h n (.inl hn), fun n hn => h n (.inr hn)⟩
  · rintro ⟨h, h'⟩ n (hn | hn)
    · exact h n hn
    · exact h' n hn

theorem mono (hPQ : ∀ n, P n → Q n) (h : AllOf P nodes) : AllOf Q nodes :=
  fun n hn m hm => hPQ m (h n hn m hm)

/-- A tree is its root and the trees below it. -/
theorem singleton (hn : P n) (h : AllOf P n.children) : AllOf P [n] := by
  intro n' hn' m hm
  obtain rfl := List.mem_singleton.1 hn'
  obtain rfl | ⟨c, hc, hmc⟩ := mem_preorder.1 hm
  · exact hn
  · exact h c hc m hmc

theorem map_withRole {role : Role} (kept : ∀ n, P n → P (n.withRole role)) (h : AllOf P nodes) :
    AllOf P (nodes.map (·.withRole role)) := by
  intro n hn m hm
  obtain ⟨n', hn', rfl⟩ := List.mem_map.1 hn
  obtain rfl | ⟨c, hc, hmc⟩ := mem_preorder.1 hm
  · exact kept n' (h n' hn' n' n'.self_mem_preorder)
  · exact h n' hn' m (mem_preorder.2 (.inr ⟨c, by simpa using hc, hmc⟩))

end AllOf

theorem mem_preorder_of_mem_children {c : Node} (hc : c ∈ n.children) : c ∈ n.preorder :=
  mem_preorder.2 (.inr ⟨c, hc, c.self_mem_preorder⟩)

end Mutagenesis.Syntax.Node
