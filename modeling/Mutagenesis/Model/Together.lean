import Mutagenesis.Model.Flight

/-!
# Queries made together

Several queries of one cached model, taken up in turn, each until it has to wait: for the lock of
its slot, or for the inner model, which answers when the query is taken up again.
-/
namespace Mutagenesis.Flight

open Files (World)

variable {σ : Type}

/-- The step that a query takes next by itself. -/
def Stage.next? : Stage → Option Move
  | .arriving => some .take
  | .waiting _ => some .lock
  | .holding _ => some .lookUp
  | .asking _ => none
  | .storing .. => some .store
  | .finishing .. => some .unlock
  | .leaving .. => some .leave
  | .done _ => none

/-- Lets a query take its steps, at most so many, until it has to wait. -/
def advance (p : Profile) (folder : Path) (i : Nat) : Nat → State → State
  | 0, s => s
  | n + 1, s =>
      match s.queries[i]?.bind (·.stage.next?) with
      | none => s
      | some move =>
          match s.move? p folder i move with
          | none => s
          | some s => advance p folder i n s

/-- The most steps that a query takes. -/
def stepLimit : Nat := 7

/-- Takes a query up: the inner model answers if it has been asked, and the query goes on. -/
def takeUp (m : Model σ) (folder : Path) (i : Nat) (s : State × σ) : State × σ :=
  let (state, inner) := s
  let (state, inner) := match state.queries[i]? with
    | some ⟨prompt, options, .asking _⟩ =>
        let (outcome, world, inner) := m.query prompt options (state.world, inner)
        let state := { state with world := world }
        ((state.move? m.profile folder i (.reply outcome)).getD state, inner)
    | _ => (state, inner)
  (advance m.profile folder i stepLimit state, inner)

/-- Takes the queries up in turn, so many times. -/
def rounds (m : Model σ) (folder : Path) : Nat → State × σ → State × σ
  | 0, s => s
  | n + 1, s =>
      rounds m folder n
        ((List.range s.1.queries.length).foldl (fun s i => takeUp m folder i s) s)

/-- Makes queries together; what came of each, in order, and the state after all of them. -/
def together (m : Model σ) (folder : Path) (queries : List (String × Options))
    (s : World × σ) : List (Except Failure Answer) × World × σ :=
  let (state, inner) :=
    rounds m folder (queries.length + 1) (State.start s.1 queries, s.2)
  (state.outcomes.filterMap id, state.world, inner)

end Mutagenesis.Flight
