import Mutagenesis.Proofs.Flight.Alone

/-!
# Single flight

Cached models on a plain folder ask the inner model for one answer to each fingerprint and give it
to every query, in whatever order the queries take their steps. A failure of the inner model goes to
the query that has asked and to no other.
-/
namespace Mutagenesis.Flight

open Files (Address Route World)

/-! ## What runs keep to -/

section Runs

variable {avoided : Address} {folder : Path} {r : Route} {w₀ w : World} {log : List Note}
  {model : Nat} {p : Profile} {s s' : State} {i : Nat} {q : Query} {move : Move}
  {given : String → List Answer} {failure : Failure}

/-- Changes of other files are no matter to the answers. -/
theorem Settled.inWorld (h : Settled avoided folder r given p s)
    (plain : Cache.IsPlain w avoided folder r)
    (same : ∀ key, Cache.IsKey key →
      w.get? (Cache.entryAt r key) = s.world.get? (Cache.entryAt r key)) :
    Settled avoided folder r given p { s with world := w } := by
  have lookups : ∀ key, Cache.IsKey key →
      Cache.lookup w folder key = Cache.lookup s.world folder key := fun key hkey =>
    Cache.lookup_congr h.plain plain hkey (same key hkey)
  refine ⟨plain, h.slotted.inWorld w, h.fits, ?_, ?_⟩
  · intro i q hq
    rw [lookups _ (isKey q p)]
    exact h.agrees i q hq
  · intro key hkey
    rw [lookups key hkey]
    exact h.found key hkey

/-- In every state of a run at most one answer to a fingerprint is known, and it is the one that is
found or about to be stored. -/
theorem Reaches.settled (plain : Cache.IsPlain w₀ avoided folder r)
    (run : Reaches avoided folder r w₀ log model p s) :
    Settled avoided folder r (known w₀ folder log) p s := by
  induction run with
  | opened fit => exact .start plain fit fun key _ => List.append_nil _
  | @moved log model p s s' i move run step admits ih =>
      obtain ⟨q, hq, steps⟩ := steps_of_move? step
      have after := ih.step hq steps admits model
      rwa [← funext (known_append w₀ folder log _)] at after
  | changed run plain same ih => exact ih.inWorld plain same
  | reopened run idle fit ih =>
      refine .start ih.plain fit fun key hkey => ?_
      obtain found | ⟨i, q, slot, answer, hq, -, stage⟩ := ih.found key hkey
      · exact found
      · have left := idle q (List.mem_of_getElem? hq)
        simp [stage, Stage.slot?] at left

/-! ## Failures -/

/-- What a query is about to return or has returned. -/
def Stage.outcome? : Stage → Option (Except Failure Answer)
  | finishing _ outcome | leaving _ outcome | done outcome => some outcome
  | _ => none

/-- A query comes to a failure when the inner model replies with it, and keeps it. -/
theorem Stage.Turns.outcome {before after : Stage} (turns : before.Turns move after)
    (failed : after.outcome? = some (.error failure)) :
    before.outcome? = some (.error failure) ∨ move = .reply (.error failure) := by
  cases turns with
  | unlock | leave => exact .inl failed
  | failed => exact .inr (by simpa [outcome?] using failed)
  | take | lock | found | missed | answered | store => simp [outcome?] at failed

/-- A query that comes to a failure is noted to have been told so by the inner model. -/
theorem Reaches.failed (run : Reaches avoided folder r w₀ log model p s)
    (hq : s.queries[i]? = some q) (failed : q.stage.outcome? = some (.error failure)) :
    ⟨model, i, q.fingerprint p, .replied (.error failure)⟩ ∈ log := by
  induction run generalizing i q with
  | opened | reopened =>
      obtain ⟨x, -, rfl⟩ := State.query_of_start (List.mem_of_getElem? hq)
      simp [Stage.outcome?] at failed
  | changed _ _ _ ih => exact ih hq failed
  | @moved log model p s s' j move run step admits ih =>
      obtain ⟨q', hq', steps⟩ := steps_of_move? step
      obtain ⟨stage, turns, queries⟩ := steps.turns
      obtain ⟨rfl, rfl⟩ | ⟨-, hq⟩ := State.query_of_setStage hq' (queries ▸ hq)
      · obtain before | rfl := turns.outcome failed
        · have noted := ih hq' before
          exact List.mem_append_left _ noted
        · exact List.mem_append_right _ (by simp [notes_eq hq' queries, act?])
      · exact List.mem_append_left _ (ih hq failed)

/-! ## Notes -/

/-- Whether a note agrees with what the folder held and with the other notes. -/
def Note.Agrees (folder : Path) (w₀ : World) (log : List Note) (n : Note) : Prop :=
  match n.act with
  | .asked => Cache.lookup w₀ folder n.key = none
  | .replied _ => True
  | .returned (.ok answer) => answer ∈ known w₀ folder log n.key
  | .returned (.error failure) => ⟨n.model, n.query, n.key, .replied (.error failure)⟩ ∈ log

/-- Further notes are no matter. -/
theorem Note.Agrees.append {n : Note} (h : n.Agrees folder w₀ log) (more : List Note) :
    n.Agrees folder w₀ (log ++ more) := by
  unfold Note.Agrees at h ⊢
  split at h
  next => exact h
  next => trivial
  next =>
    rw [known_append]
    exact List.mem_append_left _ h
  next => exact List.mem_append_left _ h

/-- What a step notes agrees with what is known after it. -/
theorem Reaches.agrees_moved (plain : Cache.IsPlain w₀ avoided folder r)
    (run : Reaches avoided folder r w₀ log model p s) (step : s.move? p folder i move = some s')
    (admits : Admits p folder s i move) : ∀ n ∈ notes model p s' i move, Cache.IsKey n.key ∧
      n.Agrees folder w₀ (log ++ notes model p s' i move) := by
  obtain ⟨q, hq, steps⟩ := steps_of_move? step
  obtain ⟨stage, turns, queries⟩ := steps.turns
  have run' := run.moved step admits
  have settled := run'.settled plain
  have hq' : s'.queries[i]? = some { q with stage := stage } := by
    rw [queries, State.getElem?_setStage hq, if_pos rfl]
  have agrees := settled.agrees i _ hq'
  have hkey := Settled.isKey q p
  intro n hn
  have came := hn
  rw [notes_eq hq queries, Option.mem_toList, Option.map_eq_some_iff] at came
  obtain ⟨act, came, rfl⟩ := came
  refine ⟨hkey, ?_⟩
  generalize q.stage = before at turns
  cases turns with
  | take | lock | found | store | unlock => simp [act?] at came
  | missed =>
      obtain rfl := Option.some.inj came
      have none_known := List.append_eq_nil_iff.1 agrees.2
      exact Option.toList_eq_nil_iff.1 none_known.1
  | answered | failed =>
      obtain rfl := Option.some.inj came
      trivial
  | @leave slot outcome =>
      obtain rfl := Option.some.inj came
      cases outcome with
      | error failure =>
          have noted := run'.failed hq' rfl
          exact noted
      | ok answer =>
          have only := settled.known_of_found hkey agrees
          have among : answer ∈ known w₀ folder (log ++ notes model p s' i .leave)
              (q.fingerprint p) := by
            rw [only]
            exact List.mem_singleton_self answer
          exact among

theorem Reaches.agrees (plain : Cache.IsPlain w₀ avoided folder r)
    (run : Reaches avoided folder r w₀ log model p s) :
    ∀ n ∈ log, Cache.IsKey n.key ∧ n.Agrees folder w₀ log := by
  induction run with
  | opened => simp
  | changed _ _ _ ih | reopened _ _ _ ih => exact ih
  | moved run step admits ih =>
      rw [List.forall_mem_append]
      exact ⟨fun n hn => ⟨(ih n hn).1, (ih n hn).2.append _⟩, run.agrees_moved plain step admits⟩

/-- The one answer that is known to a key is that of the folder, or that of the inner model when the
folder held none. -/
theorem held_or_given {key : String} {answer : Answer}
    (few : (known w₀ folder log key).length ≤ 1) (among : answer ∈ known w₀ folder log key) :
    Cache.Holds w₀ folder key answer ∨
      (∀ other, ¬ Cache.Holds w₀ folder key other) ∧ answers log key = [answer] := by
  obtain ⟨only, hknown⟩ := List.length_eq_one_iff.1
    (Nat.le_antisymm few (List.length_pos_of_mem among))
  obtain rfl : answer = only := by simpa [hknown] using among
  cases found : Cache.lookup w₀ folder key with
  | some held =>
      obtain ⟨rfl, -⟩ : held = answer ∧ answers log key = [] := by
        simpa [known, found] using hknown
      exact .inl (Cache.lookup_eq_some_iff.1 found)
  | none =>
      refine .inr ⟨fun other held => ?_, by simpa [known, found] using hknown⟩
      simp [Cache.lookup_eq_some_iff.2 held] at found

end Runs

/-! ## Single flight -/

/-- What is promised of the states of a run and of its log. -/
structure IsSingle (folder : Path) (w₀ : World) (log : List Note) (p : Profile) (s : State) :
    Prop where
  /-- At most one query of a fingerprint asks the inner model at a time. -/
  one : ∀ (i j : Nat) (q q' : Query) (slot slot' : Nat), s.queries[i]? = some q →
    s.queries[j]? = some q' → q.stage = .asking slot → q'.stage = .asking slot' →
      q'.fingerprint p = q.fingerprint p → i = j
  /-- The inner models give at most one answer to a fingerprint. -/
  once : ∀ key, (answers log key).length ≤ 1
  /-- They are not asked for an answer that the folder held. -/
  spared : ∀ n ∈ log, n.act = .asked → ∀ answer, ¬ Cache.Holds w₀ folder n.key answer
  /-- An answer that is returned is that of the folder, or that of the inner model. -/
  same : ∀ n ∈ log, ∀ answer, n.act = .returned (.ok answer) →
    Cache.Holds w₀ folder n.key answer ∨
      (∀ other, ¬ Cache.Holds w₀ folder n.key other) ∧ answers log n.key = [answer]
  /-- A failure is returned to the query to which the inner model has replied with it. -/
  own : ∀ n ∈ log, ∀ failure, n.act = .returned (.error failure) →
    ⟨n.model, n.query, n.key, .replied (.error failure)⟩ ∈ log

/-- Cached models on a plain folder keep to single flight. -/
theorem single_flight {avoided : Address} {folder : Path} {r : Route} {w₀ : World}
    {log : List Note} {model : Nat} {p : Profile} {s : State}
    (plain : Cache.IsPlain w₀ avoided folder r)
    (run : Reaches avoided folder r w₀ log model p s) : IsSingle folder w₀ log p s := by
  have settled := run.settled plain
  have isKey : ∀ n ∈ log, Cache.IsKey n.key := fun n hn => (run.agrees plain n hn).1
  have agrees : ∀ n ∈ log, n.Agrees folder w₀ log := fun n hn => (run.agrees plain n hn).2
  refine ⟨?_, ?_, ?_, ?_, ?_⟩
  · intro i j q q' slot slot' hq hq' asking asking' same
    exact settled.slotted.eq_of_locked hq hq' (by simp [asking, Stage.locked?])
      (by simp [asking', Stage.locked?]) same
  · intro key
    by_cases hkey : Cache.IsKey key
    · have few := settled.length_known_le hkey
      rw [known, List.length_append] at few
      omega
    · have none_given : answers log key = [] := by
        rw [answers, List.filterMap_eq_nil_iff]
        intro n hn
        have differ : n.key ≠ key := by
          rintro rfl
          exact hkey (isKey n hn)
        simp [differ]
      simp [none_given]
  · intro n hn hact answer held
    have missing := agrees n hn
    simp [Note.Agrees, hact, Cache.lookup_eq_some_iff.2 held] at missing
  · intro n hn answer hact
    have among := agrees n hn
    simp only [Note.Agrees, hact] at among
    exact held_or_given (settled.length_known_le (isKey n hn)) among
  · intro n hn failure hact
    have told := agrees n hn
    simpa only [Note.Agrees, hact] using told

/-! ## A small model -/

section Small

/-- A model whose keys are worked out. -/
def small : Profile := ⟨"m", .zero, 10, ""⟩

def keyOne : String := "e9377a98d774b97827e2c8fe6ef3cc41d358d9c7e713da961449b6d268c8e5f9"

def keyTwo : String := "b87384f400c495e85fdb628efcf69cce88def4a36b97f4580fa6caff9c6ba186"

theorem fingerprint_one : fingerprint small "1" .none = keyOne := by decide +kernel

theorem fingerprint_two : fingerprint small "2" .none = keyTwo := by decide +kernel

theorem keyOne_ne_keyTwo : keyOne ≠ keyTwo := by decide

theorem fits_none : Options.none.Fits := by constructor <;> simp [Options.none]

theorem fits_zero : Usage.zero.Fits := by constructor <;> decide

/-- Of two queries that ask for the same, the second one waits for the answer to the first one, and
the model that is opened next finds it. -/
theorem single_flight_of_reopened :
    let w : World := ⟨[], []⟩
    let folder : Path := .ofString "c"
    let r : Route := ⟨0, [], [Text.bytes "c"]⟩
    let key := fingerprint small "1" .none
    let answer : Answer := ⟨["x"], ⟨3, 4, 7⟩⟩
    let log : List Note := [⟨0, 0, key, .asked⟩, ⟨0, 0, key, .replied (.ok answer)⟩,
      ⟨0, 0, key, .returned (.ok answer)⟩, ⟨0, 1, key, .returned (.ok answer)⟩,
      ⟨1, 0, key, .returned (.ok answer)⟩]
    Cache.IsPlain w [[]] folder r ∧ ∃ s, Reaches [[]] folder r w log 1 small s ∧
      IsSingle folder w log small s := by
  intro w folder r key answer log
  have tree : w.IsTree := by constructor <;> decide
  have plain : Cache.IsPlain w [[]] folder r :=
    ⟨tree, .of_names (by decide) tree rfl (by decide) (by decide)⟩
  refine ⟨plain, ?_⟩
  have hkey : Cache.IsKey key := Cache.isKey_fingerprint small "1" .none
  have missing : Cache.lookup w folder key = none := by
    rw [show key = keyOne from fingerprint_one]
    decide +kernel
  have usage : answer.usage.Fits := by constructor <;> decide
  obtain ⟨w', stored⟩ : ∃ w', Cache.store w folder (Cache.entryOf small "1" .none answer) =
      (.ok (), w') := by
    refine ⟨_, Prod.ext (?_ : _ = Except.ok ()) rfl⟩
    simp only [Cache.entryOf, fingerprint_one]
    decide +kernel
  have found : Cache.lookup w' folder key = some answer :=
    (plain.stores hkey stored).lookup_self hkey fits_none usage
  -- the tokens that the second query asks for are those of the profile
  let x : String × Options := ("1", .none)
  let y : String × Options := ("1", ⟨some 10, none, none, none⟩)
  have fit : x.2.Fits ∧ y.2.Fits := ⟨fits_none, by constructor <;> simp [y]⟩
  have both : Reaches [[]] folder r w _ 0 small _ :=
    Reaches.pair_answered (x := x) (y := y) fit rfl missing usage stored found
  have reopened : Reaches [[]] folder r w _ 1 small (.start w' [x]) :=
    both.reopened (by simp [pair, Stage.slot?]) (by simpa using fits_none)
  have last := reopened.alone_found (State.isIdle_start _ _) (i := 0) rfl rfl found
  exact ⟨_, last, single_flight plain last⟩

/-! ### Two prompts, of which the folder holds an answer to the second one -/

def twoPrompts : List (String × Options) := [("2", .none), ("1", .none)]

theorem fits_twoPrompts : ∀ x ∈ twoPrompts, x.2.Fits := by
  simp only [twoPrompts, List.forall_mem_cons]
  exact ⟨fits_none, fits_none, by simp⟩

/-- The entry of an answer of the model. -/
def smallEntry (prompt text : String) : CacheEntry :=
  Cache.entryOf small prompt .none ⟨[text], .zero⟩

def smallContent (prompt text : String) : Bytes := Text.bytes (smallEntry prompt text).toJson.page

section

variable {w : World} {folder : Path} {content : Bytes} {entry : CacheEntry}
  {key prompt text : String}

theorem lookup_small (read : w.read (Cache.entryPath folder key) = .ok (smallContent prompt text)) :
    Cache.lookup w folder key =
      if fingerprint small prompt .none = key then some ⟨[text], .zero⟩ else none := by
  have options : (smallEntry prompt text).options.Fits := fits_none
  exact Cache.lookup_of_read options fits_zero read

/-- The first of the two prompts is asked, and its answer is stored. -/
theorem reaches_past_first {w w' : World} (r : Route)
    (missing : Cache.lookup w folder (fingerprint small "2" .none) = none)
    (stored : Cache.store w folder (smallEntry "2" "y") = (.ok (), w')) :
    Reaches [[]] folder r w [⟨0, 0, fingerprint small "2" .none, .asked⟩,
        ⟨0, 0, fingerprint small "2" .none, .replied (.ok ⟨["y"], .zero⟩)⟩,
        ⟨0, 0, fingerprint small "2" .none, .returned (.ok ⟨["y"], .zero⟩)⟩]
      0 small ((State.start w twoPrompts).past w' 0 (.ok ⟨["y"], .zero⟩)) := by
  have opened : Reaches [[]] folder r w [] 0 small (.start w twoPrompts) := .opened fits_twoPrompts
  have idle := State.isIdle_start w twoPrompts
  exact (opened.alone_asks idle (i := 0) rfl rfl missing).alone_answered idle rfl fits_zero stored

/-- A folder in which one file stands under both keys, by a link. -/
def linked (content : Bytes) : World :=
  let folder : Address := [Text.bytes "c"]
  ⟨[(Cache.entryAt ⟨0, [], folder⟩ keyTwo, .file content), (folder, .folder),
    (Cache.shardName keyOne :: folder, .folder), (Cache.shardName keyTwo :: folder, .folder),
    (Cache.entryAt ⟨0, [], folder⟩ keyOne,
      .link (Cache.entryPath (.ofString "..") keyTwo))], []⟩

theorem read_linked_one : (linked content).read (Cache.entryPath (.ofString "c") keyOne) =
    .ok content := by
  rfl

theorem read_linked_two : (linked content).read (Cache.entryPath (.ofString "c") keyTwo) =
    .ok content := by
  rfl

theorem store_linked (content : Bytes) (h : entry.fingerprint = keyTwo) :
    Cache.store (linked content) (.ofString "c") entry =
      (.ok (), linked (Text.bytes entry.toJson.page)) := by
  rw [Cache.store, h]
  generalize Text.bytes _ = content'
  rfl

/-- The answer to the second prompt takes the place of the one that the folder holds. -/
theorem linked_not_isSingle (r : Route) : ∃ log s,
    Reaches [[]] (.ofString "c") r (linked (smallContent "1" "x")) log 0 small s ∧
      ¬ IsSingle (.ofString "c") (linked (smallContent "1" "x")) log small s := by
  have held : Cache.lookup (linked (smallContent "1" "x")) (.ofString "c")
      (fingerprint small "1" .none) = some ⟨["x"], .zero⟩ := by
    rw [fingerprint_one, lookup_small read_linked_one, fingerprint_one, if_pos rfl]
  have missing : Cache.lookup (linked (smallContent "1" "x")) (.ofString "c")
      (fingerprint small "2" .none) = none := by
    rw [fingerprint_two, lookup_small read_linked_two, fingerprint_one, if_neg keyOne_ne_keyTwo]
  have spoilt : Cache.lookup (linked (smallContent "2" "y")) (.ofString "c")
      (fingerprint small "1" .none) = none := by
    rw [fingerprint_one, lookup_small read_linked_one, fingerprint_two,
      if_neg keyOne_ne_keyTwo.symm]
  have second : (smallEntry "2" "y").fingerprint = keyTwo := fingerprint_two
  have stored := store_linked (smallContent "1" "x") second
  have again := (reaches_past_first r missing stored).alone_asks
    (State.isIdle_past (State.isIdle_start _ _)) (i := 1) rfl rfl spoilt
  refine ⟨_, _, again, fun h => ?_⟩
  exact h.spared ⟨0, 1, fingerprint small "1" .none, .asked⟩
    (List.mem_append_right _ List.mem_cons_self) rfl _ (Cache.lookup_eq_some_iff.1 held)

/-- A folder that holds one file. -/
def single (content : Bytes) : World :=
  let folder : Address := [Text.bytes "c"]
  ⟨[(folder, .folder), (Cache.shardName keyOne :: folder, .folder),
    (Cache.entryAt ⟨0, [], folder⟩ keyOne, .file content)], []⟩

/-- There is no way up from a folder that is missing. -/
theorem lookup_single (content : Bytes) (h : key = keyOne ∨ key = keyTwo) :
    Cache.lookup (single content) (.ofString "a/../c") key = none := by
  have read : (single content).read (Cache.entryPath (.ofString "a/../c") key) =
      .error .missing := by
    obtain rfl | rfl := h <;> rfl
  simp [Cache.lookup_eq, read, Except.toOption]

/-- Storing an entry makes the folder that was missing. -/
theorem store_single (content : Bytes) (h : entry.fingerprint = keyTwo) :
    ∃ w, Cache.store (single content) (.ofString "a/../c") entry = (.ok (), w) ∧
      w.read (Cache.entryPath (.ofString "a/../c") keyOne) = .ok content := by
  rw [Cache.store, h]
  generalize Text.bytes _ = content'
  refine ⟨_, Prod.ext (?_ : _ = Except.ok ()) rfl, ?_⟩ <;> rfl

/-- The answer that comes into sight was neither held by the folder nor asked for. -/
theorem single_not_isSingle (r : Route) : ∃ log s,
    Reaches [[]] (.ofString "a/../c") r (single (smallContent "1" "x")) log 0 small s ∧
      ¬ IsSingle (.ofString "a/../c") (single (smallContent "1" "x")) log small s := by
  have missing := lookup_single (smallContent "1" "x") (.inr fingerprint_two)
  have second : (smallEntry "2" "y").fingerprint = keyTwo := fingerprint_two
  obtain ⟨w, stored, read⟩ := store_single (smallContent "1" "x") second
  have found : Cache.lookup w (.ofString "a/../c") (fingerprint small "1" .none) =
      some ⟨["x"], .zero⟩ := by
    rw [fingerprint_one, lookup_small read, fingerprint_one, if_pos rfl]
  have again := (reaches_past_first r missing stored).alone_found
    (State.isIdle_past (State.isIdle_start _ _)) (i := 1) rfl rfl found
  refine ⟨_, _, again, fun h => ?_⟩
  obtain held | ⟨-, given⟩ := h.same
    ⟨0, 1, fingerprint small "1" .none, .returned (.ok ⟨["x"], .zero⟩)⟩
    (List.mem_append_right _ List.mem_cons_self) _ rfl
  · have looked := Cache.lookup_eq_some_iff.2 held
    rw [fingerprint_one, lookup_single _ (.inl rfl)] at looked
    cases looked
  · simp [answers, Act.answer?, fingerprint_one, fingerprint_two, keyOne_ne_keyTwo.symm] at given

end

/-- What single flight relies on: a link can let one file stand under two keys, and a path that goes
up from a folder that is not there yet leads to the entries only once an answer has been stored. -/
theorem not_single_of_link_or_parent :
    let content := smallContent "1" "x"
    let r : Route := ⟨0, [], [Text.bytes "c"]⟩
    ((linked content).IsTree ∧ ∃ log s,
      Reaches [[]] (.ofString "c") r (linked content) log 0 small s ∧
        ¬ IsSingle (.ofString "c") (linked content) log small s) ∧
    ((single content).IsTree ∧ ∃ log s,
      Reaches [[]] (.ofString "a/../c") r (single content) log 0 small s ∧
        ¬ IsSingle (.ofString "a/../c") (single content) log small s) := by
  intro content r
  have linked_tree : (linked content).IsTree := by constructor <;> decide +kernel
  have single_tree : (single content).IsTree := by constructor <;> decide +kernel
  exact ⟨⟨linked_tree, linked_not_isSingle r⟩, single_tree, single_not_isSingle r⟩

end Small

end Mutagenesis.Flight
