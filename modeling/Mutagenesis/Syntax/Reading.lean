import Mutagenesis.Syntax.Rule
import Mutagenesis.Text.Characters

/-!
# Reading a source with a grammar

`Grammar.read` follows the rules through a source and answers the tree of a source that the
grammar generates to its end, else `none`. Reading moves a `Place` forward. The number given to the readers bounds the depth to
which rules may nest; `Grammar.read` computes it from the length of the source.
-/
namespace Mutagenesis.Syntax

open Text (Place)

/-- The place after the gaps, with a node for each comment among them. -/
def passGaps : List Gap → Place → Place × List Node
  | [], p => (p, [])
  | gap :: gaps, p =>
      let q := p.advance gap.length
      let (last, nodes) := passGaps gaps q
      (last, if gap.isComment then .mk .comment .part p.offset q.offset [] :: nodes else nodes)

/-- Whether there is a last node and its kind is accepted. -/
def endsIn (accepts : Kind → Bool) (nodes : List Node) : Bool :=
  match nodes.getLast? with
  | some n => accepts n.kind
  | none => false

variable {ε σ : Type}

namespace Grammar

/-- Passes over the blanks and comments at a place. -/
def skip (g : Grammar ε σ) (context : ε) (p : Place) : Place × List Node :=
  passGaps (g.gaps context p.rest) p

mutual

/-- Follows a rule from a place; answers the place after what it read and the nodes of it. -/
def follow (g : Grammar ε σ) : Nat → Rule ε σ → ε → Place → Option (Place × List Node)
  | 0, _, _, _ => none
  | depth + 1, rule, context, p =>
      match rule with
      | .empty => some (p, [])
      | .fail => none
      | .take length => (length context p.rest).map fun n => (p.advance n, [])
      | .skip => some (g.skip context p)
      | .seq first next =>
          match follow g depth first context p with
          | none => none
          | some (q, nodes) =>
              match follow g depth next context q with
              | none => none
              | some (q', nodes') => some (q', nodes ++ nodes')
      | .alt first other =>
          match follow g depth first context p with
          | some found => some found
          | none => follow g depth other context p
      | .many item =>
          match follow g depth item context p with
          | none => some (p, [])
          | some (q, nodes) =>
              if q.offset ≤ p.offset then some (p, [])
              else match follow g depth (.many item) context q with
                | none => none
                | some (q', nodes') => some (q', nodes ++ nodes')
      | .ahead rule => (follow g depth rule context p).map fun _ => (p, [])
      | .notAhead rule =>
          match follow g depth rule context p with
          | some _ => none
          | none => some (p, [])
      | .sub symbol => follow g depth (g.rule symbol) context p
      | .within change rule =>
          match change context p.rest with
          | none => none
          | some inner => follow g depth rule inner p
      | .node kind rule =>
          let (start, comments) := g.skip context p
          match follow g depth rule context start with
          | none => none
          | some (q, nodes) =>
              some (q, comments ++ [.mk kind .part start.offset q.offset nodes])
      | .label role rule =>
          (follow g depth rule context p).map fun (q, nodes) => (q, nodes.map (·.withRole role))
      | .ending accepts rule =>
          match follow g depth rule context p with
          | none => none
          | some (q, nodes) => if endsIn accepts nodes then some (q, nodes) else none
      | .once base steps =>
          let (start, comments) := g.skip context p
          match follow g depth base context start with
          | none => none
          | some (q, nodes) =>
              (step g depth steps context start q nodes).map fun (q', nodes') =>
                (q', comments ++ nodes')
      | .grow base steps =>
          let (start, comments) := g.skip context p
          match follow g depth base context start with
          | none => none
          | some (q, nodes) =>
              (extend g depth steps context start q nodes).map fun (q', nodes') =>
                (q', comments ++ nodes')

/-- Takes steps from the nodes read so far, which begin at `start`, as long as one matches. -/
def extend (g : Grammar ε σ) :
    Nat → Steps ε σ → ε → Place → Place → List Node → Option (Place × List Node)
  | 0, _, _, _, _, _ => none
  | depth + 1, steps, context, start, p, nodes =>
      match step g depth steps context start p nodes with
      | none => some (p, nodes)
      | some (q, nodes') => extend g depth steps context start q nodes'

/-- Takes the first step that matches and moves on. -/
def step (g : Grammar ε σ) :
    Nat → Steps ε σ → ε → Place → Place → List Node → Option (Place × List Node)
  | 0, _, _, _, _, _ => none
  | depth + 1, steps, context, start, p, nodes =>
      match steps with
      | .done => none
      | .or accepts kind role rule more =>
          let here :=
            if endsIn accepts nodes then
              match follow g depth rule context p with
              | none => none
              | some (q, nodes') =>
                  if q.offset ≤ p.offset then none
                  else some (q, [Node.mk kind .part start.offset q.offset
                    (nodes.map (·.withRole role) ++ nodes')])
            else none
          match here with
          | some found => some found
          | none => step g depth more context start p nodes

end

/-- The depth that suffices for a source: rules nest to a bounded depth around each character. -/
def depthFor (source : List Char) : Nat := 1000 * (source.length + 10)

/-- The tree of a source that the grammar generates, its root spanning the whole source. -/
def read (g : Grammar ε σ) (source : List Char) : Option Node :=
  match g.follow (depthFor source) (.seq (.sub g.start) .skip) g.context (.head source) with
  | none => none
  | some (last, nodes) =>
      if last.rest.isEmpty then some (.mk .other .part 0 last.offset nodes) else none

end Grammar

end Mutagenesis.Syntax
