import Mutagenesis.Proofs.Flight.Slots
import Mutagenesis.Proofs.Model.Cache

/-!
# Runs of cached models

Cached models are opened on one folder, one after the other. The queries of each take their steps in
any order, and between two steps others may change files, but no entries. What the queries do that
the inner model or their callers can see is noted in a log.

An answer to a fingerprint is known when the folder held it from the start or the inner model has
given it. Of each fingerprint at most one answer is known, and that is the one that is found, except
while a query is about to store it.
-/
namespace Mutagenesis.Flight

open Files (Address Route World)

/-! ## Logs -/

/-- What is noted of a query. -/
inductive Act where
  | asked
  | replied (outcome : Except Failure Answer)
  | returned (outcome : Except Failure Answer)

namespace Act

/-- The answer that the inner model gives. -/
def answer? : Act → Option Answer
  | replied (.ok answer) => some answer
  | _ => none

end Act

/-- What a query of one of the cached models does, with its fingerprint. -/
structure Note where
  model : Nat
  query : Nat
  key : String
  act : Act

/-- What is noted of a step that brings a query to a stage. -/
def act? : Move → Stage → Option Act
  | .lookUp, .asking _ => some .asked
  | .reply outcome, _ => some (.replied outcome)
  | .leave, .done outcome => some (.returned outcome)
  | _, _ => none

/-- What is noted of a step of a query, which makes the state `s`. -/
def notes (model : Nat) (p : Profile) (s : State) (i : Nat) (move : Move) : List Note :=
  match s.queries[i]? with
  | some q => ((act? move q.stage).map fun act => ⟨model, i, q.fingerprint p, act⟩).toList
  | none => []

/-- A query that comes to a stage is noted as it gets there. -/
theorem notes_eq {s s' : State} {i : Nat} {q : Query} {stage : Stage} (hq : s.queries[i]? = some q)
    (queries : s'.queries = (s.setStage i stage).queries) (model : Nat) (p : Profile)
    (move : Move) : notes model p s' i move =
      ((act? move stage).map fun act => ⟨model, i, q.fingerprint p, act⟩).toList := by
  simp [notes, queries, State.getElem?_setStage hq]

/-- The answers that the inner models have given for a fingerprint. -/
def answers (log : List Note) (key : String) : List Answer :=
  log.filterMap fun n => if n.key = key then n.act.answer? else none

theorem answers_append (log more : List Note) (key : String) :
    answers (log ++ more) key = answers log key ++ answers more key :=
  List.filterMap_append

/-! ## Runs -/

/-- The entry that a query is about to store. -/
def Query.pending? (q : Query) (p : Profile) : Option CacheEntry :=
  match q.stage with
  | .storing _ answer => some (Cache.entryOf p q.prompt q.options answer)
  | _ => none

/-- Whether a step goes as it does when answers can be stored: the inner model gives answers whose
counts fit their words, and storing succeeds. -/
def Admits (p : Profile) (folder : Path) (s : State) (i : Nat) : Move → Prop
  | .reply (.ok answer) => answer.usage.Fits
  | .store => ∀ entry ∈ s.queries[i]?.bind (·.pending? p),
      (Cache.store s.world folder entry).1 = .ok ()
  | _ => True

/-- The states that cached models on a folder come to from a world, with what has been noted until
then and the number of the model that is open. -/
inductive Reaches (avoided : Address) (folder : Path) (r : Route) (w₀ : World) :
    List Note → Nat → Profile → State → Prop
  | opened {p : Profile} {queries : List (String × Options)} (fit : ∀ x ∈ queries, x.2.Fits) :
      Reaches avoided folder r w₀ [] 0 p (.start w₀ queries)
  | moved {log : List Note} {model : Nat} {p : Profile} {s s' : State} {i : Nat} {move : Move}
      (run : Reaches avoided folder r w₀ log model p s)
      (step : s.move? p folder i move = some s') (admits : Admits p folder s i move) :
      Reaches avoided folder r w₀ (log ++ notes model p s' i move) model p s'
  /-- Others change files, but no entries. -/
  | changed {log : List Note} {model : Nat} {p : Profile} {s : State} {w : World}
      (run : Reaches avoided folder r w₀ log model p s) (plain : Cache.IsPlain w avoided folder r)
      (same : ∀ key, Cache.IsKey key →
        w.get? (Cache.entryAt r key) = s.world.get? (Cache.entryAt r key)) :
      Reaches avoided folder r w₀ log model p { s with world := w }
  /-- The next model is opened when no query of the one before is on its way. -/
  | reopened {log : List Note} {model : Nat} {p next : Profile} {s : State}
      {queries : List (String × Options)} (run : Reaches avoided folder r w₀ log model p s)
      (idle : ∀ q ∈ s.queries, q.stage.slot? = none) (fit : ∀ x ∈ queries, x.2.Fits) :
      Reaches avoided folder r w₀ log (model + 1) next (.start s.world queries)

/-! ## Known answers -/

/-- The answers to a fingerprint that the folder held from the start or an inner model has given. -/
def known (w₀ : World) (folder : Path) (log : List Note) (key : String) : List Answer :=
  (Cache.lookup w₀ folder key).toList ++ answers log key

theorem known_append (w₀ : World) (folder : Path) (log more : List Note) (key : String) :
    known w₀ folder (log ++ more) key = known w₀ folder log key ++ answers more key := by
  simp [known, answers_append]

/-- Whether a stage agrees with the answer that is found for the fingerprint of a query and the
answers that are known. -/
def Stage.Agrees (found : Option Answer) (known : List Answer) : Stage → Prop
  | .asking _ => found = none ∧ known = []
  | .storing _ answer => found = none ∧ known = [answer] ∧ answer.usage.Fits
  | .finishing _ (.ok answer) | .leaving _ (.ok answer) | .done (.ok answer) => found = some answer
  | _ => True

section

variable {found : Option Answer} {some_known : List Answer} {slot : Nat}
  {outcome : Except Failure Answer}

/-- A query keeps its outcome when it gives its lock back. -/
theorem Stage.Agrees.unlocked (h : (Stage.finishing slot outcome).Agrees found some_known) :
    (Stage.leaving slot outcome).Agrees found some_known := by
  cases outcome with
  | error => trivial
  | ok => exact h

/-- So it does when it leaves its slot. -/
theorem Stage.Agrees.left (h : (Stage.leaving slot outcome).Agrees found some_known) :
    (Stage.done outcome).Agrees found some_known := by
  cases outcome with
  | error => trivial
  | ok => exact h

end

/-- Of a fingerprint for which nothing is found, queries without a lock have no answer. -/
theorem Stage.Agrees.of_unlocked {stage : Stage} {some_known : List Answer}
    (h : stage.Agrees none some_known) (unlocked : stage.locked? = none) (found : Option Answer)
    (known : List Answer) : stage.Agrees found known := by
  cases stage with
  | arriving | waiting => trivial
  | holding | asking | storing | finishing => simp [locked?] at unlocked
  | leaving _ outcome | done outcome =>
      cases outcome with
      | error => trivial
      | ok => simp [Agrees] at h

/-- What holds of the answers in every state of a run. -/
structure Settled (avoided : Address) (folder : Path) (r : Route) (known : String → List Answer)
    (p : Profile) (s : State) : Prop where
  plain : Cache.IsPlain s.world avoided folder r
  slotted : Slotted p s
  fits : ∀ (i : Nat) (q : Query), s.queries[i]? = some q → q.options.Fits
  agrees : ∀ (i : Nat) (q : Query), s.queries[i]? = some q →
    q.stage.Agrees (Cache.lookup s.world folder (q.fingerprint p)) (known (q.fingerprint p))
  found : ∀ key, Cache.IsKey key → known key = (Cache.lookup s.world folder key).toList ∨
    ∃ (i : Nat) (q : Query) (slot : Nat) (answer : Answer), s.queries[i]? = some q ∧
      q.fingerprint p = key ∧ q.stage = .storing slot answer

namespace Settled

variable {avoided : Address} {folder : Path} {r : Route} {known known' : String → List Answer}
  {p : Profile} {s s' : State} {i j : Nat} {q q' : Query} {stage : Stage} {move : Move} {slot : Nat}
  {answer : Answer}

theorem isKey (q : Query) (p : Profile) : Cache.IsKey (q.fingerprint p) :=
  Cache.isKey_fingerprint p q.prompt q.options

theorem start {w : World} (plain : Cache.IsPlain w avoided folder r)
    {queries : List (String × Options)} (fit : ∀ x ∈ queries, x.2.Fits)
    (found : ∀ key, Cache.IsKey key → known key = (Cache.lookup w folder key).toList) :
    Settled avoided folder r known p (.start w queries) := by
  refine ⟨plain, .start p w queries, ?_, ?_, fun key hkey => .inl (found key hkey)⟩
  · intro i q hq
    obtain ⟨x, hx, rfl⟩ := State.query_of_start (List.mem_of_getElem? hq)
    exact fit x hx
  · intro i q hq
    obtain ⟨x, -, rfl⟩ := State.query_of_start (List.mem_of_getElem? hq)
    trivial

/-- At most one answer is known. -/
theorem length_known_le (h : Settled avoided folder r known p s) {key : String}
    (hkey : Cache.IsKey key) : (known key).length ≤ 1 := by
  obtain found | ⟨i, q, slot, answer, hq, rfl, stage⟩ := h.found key hkey
  · rw [found]
    cases Cache.lookup s.world folder key <;> simp
  · have agrees := h.agrees i q hq
    rw [stage] at agrees
    simp [agrees.2.1]

/-- No answer is known to a query that holds the lock and finds none. -/
theorem known_of_missed (h : Settled avoided folder r known p s) (hq : s.queries[i]? = some q)
    (stage : q.stage = .holding slot)
    (missing : Cache.lookup s.world folder (q.fingerprint p) = none) :
    known (q.fingerprint p) = [] := by
  obtain found | ⟨j, q', slot', answer, hq', same, stage'⟩ := h.found _ (isKey q p)
  · simp [found, missing]
  · obtain rfl := h.slotted.eq_of_locked hq hq' (by simp [stage, Stage.locked?])
      (by simp [stage', Stage.locked?]) same
    rw [hq, Option.some.injEq] at hq'
    simp [← hq', stage] at stage'

/-- An answer that is found is known. -/
theorem known_of_found (h : Settled avoided folder r known p s) {key : String}
    (hkey : Cache.IsKey key) (found : Cache.lookup s.world folder key = some answer) :
    known key = [answer] := by
  obtain settled | ⟨i, q, slot, answer', hq, rfl, stage⟩ := h.found key hkey
  · simp [settled, found]
  · have agrees := h.agrees i q hq
    rw [stage, found] at agrees
    simp [Stage.Agrees] at agrees

/-- While a query asks or stores, the others of its fingerprint agree with whatever comes of it. -/
theorem others_agree (h : Settled avoided folder r known p s) (hq : s.queries[i]? = some q)
    (locked : q.stage.locked?.isSome = true)
    (missing : Cache.lookup s.world folder (q.fingerprint p) = none) (other : j ≠ i)
    (hq' : s.queries[j]? = some q') (same : q'.fingerprint p = q.fingerprint p)
    (found : Option Answer) (some_known : List Answer) : q'.stage.Agrees found some_known := by
  have agrees := h.agrees j q' hq'
  rw [same, missing] at agrees
  refine agrees.of_unlocked ?_ found some_known
  apply Option.not_isSome_iff_eq_none.1
  intro locked'
  exact other (h.slotted.eq_of_locked hq hq' locked locked' same).symm

/-- What is known of a fingerprint is still found or about to be stored when a query takes a step,
if it is not that query that stores an answer to it. -/
theorem found_after (h : Settled avoided folder r known p s) (hq : s.queries[i]? = some q)
    (stage : Stage) {key : String} (hkey : Cache.IsKey key)
    (other : q.fingerprint p = key → ∀ slot answer, q.stage ≠ .storing slot answer) :
    known key = (Cache.lookup s.world folder key).toList ∨
      ∃ (j : Nat) (q' : Query) (slot : Nat) (answer : Answer),
        (s.setStage i stage).queries[j]? = some q' ∧ q'.fingerprint p = key ∧
          q'.stage = .storing slot answer := by
  refine (h.found key hkey).imp id ?_
  rintro ⟨j, q', slot, answer, hq', same, storing⟩
  have differ : j ≠ i := by
    rintro rfl
    obtain rfl := Option.some.inj (hq.symm.trans hq')
    exact other same slot answer storing
  refine ⟨j, q', slot, answer, ?_, same, storing⟩
  rw [State.getElem?_setStage hq, if_neg differ, hq']

/-- A step that changes neither files nor what is known. -/
theorem calm (h : Settled avoided folder r known p s) (hq : s.queries[i]? = some q)
    (slotted : Slotted p s') (queries : s'.queries = (s.setStage i stage).queries)
    (world : s'.world = s.world) (notStoring : ∀ slot answer, q.stage ≠ .storing slot answer)
    (agrees : stage.Agrees (Cache.lookup s.world folder (q.fingerprint p))
      (known (q.fingerprint p))) : Settled avoided folder r known p s' := by
  refine ⟨world ▸ h.plain, slotted, ?_, ?_, ?_⟩
  · intro j q' hq'
    obtain ⟨-, rfl⟩ | ⟨-, hq'⟩ := State.query_of_setStage hq (queries ▸ hq')
    · exact h.fits i q hq
    · exact h.fits j q' hq'
  · intro j q' hq'
    rw [world]
    obtain ⟨-, rfl⟩ | ⟨-, hq'⟩ := State.query_of_setStage hq (queries ▸ hq')
    · exact agrees
    · exact h.agrees j q' hq'
  · intro key hkey
    rw [world, queries]
    exact h.found_after hq stage hkey fun _ => notStoring

/-- The inner model gives an answer. -/
theorem answered (h : Settled avoided folder r known p s) (hq : s.queries[i]? = some q)
    (asking : q.stage = .asking slot) (fits : answer.usage.Fits)
    (mine : known' (q.fingerprint p) = known (q.fingerprint p) ++ [answer])
    (others : ∀ key, key ≠ q.fingerprint p → known' key = known key) :
    Settled avoided folder r known' p (s.setStage i (.storing slot answer)) := by
  have agrees := h.agrees i q hq
  rw [asking] at agrees
  obtain ⟨missing, none_known⟩ := agrees
  have locked : q.stage.locked?.isSome = true := by simp [asking, Stage.locked?]
  refine ⟨h.plain, ?_, ?_, ?_, ?_⟩
  · exact h.slotted.goOn hq (by simp [asking, Stage.slot?]) (by simp [asking, Stage.locked?])
  · intro j q' hq'
    obtain ⟨-, rfl⟩ | ⟨-, hq'⟩ := State.query_of_setStage hq hq'
    · exact h.fits i q hq
    · exact h.fits j q' hq'
  · intro j q' hq'
    obtain ⟨-, rfl⟩ | ⟨other, hq'⟩ := State.query_of_setStage hq hq'
    · exact ⟨missing, by simpa [none_known] using mine, fits⟩
    · by_cases same : q'.fingerprint p = q.fingerprint p
      · exact h.others_agree hq locked missing other hq' same _ _
      · rw [others _ same]
        exact h.agrees j q' hq'
  · intro key hkey
    by_cases same : key = q.fingerprint p
    · exact .inr ⟨i, { q with stage := .storing slot answer }, slot, answer,
        by rw [State.getElem?_setStage hq, if_pos rfl], same.symm, rfl⟩
    · rw [others key same]
      exact h.found_after hq _ hkey fun mine => absurd mine.symm same

/-- The answer is stored. -/
theorem stored (h : Settled avoided folder r known p s) (hq : s.queries[i]? = some q)
    (storing : q.stage = .storing slot answer) {w : World}
    (stored : Cache.store s.world folder (Cache.entryOf p q.prompt q.options answer) =
      (.ok (), w)) :
    Settled avoided folder r known p
      ({ s with world := w }.setStage i (.finishing slot (.ok answer))) := by
  have agrees := h.agrees i q hq
  rw [storing] at agrees
  obtain ⟨missing, one_known, fits⟩ := agrees
  have locked : q.stage.locked?.isSome = true := by simp [storing, Stage.locked?]
  have stores := h.plain.stores (isKey q p) stored
  have mine : Cache.lookup w folder (q.fingerprint p) = some answer :=
    stores.lookup_self (isKey q p) (h.fits i q hq) fits
  have others : ∀ key, Cache.IsKey key → key ≠ q.fingerprint p →
      Cache.lookup w folder key = Cache.lookup s.world folder key := fun key hkey differ =>
    stores.lookup_other h.plain hkey differ
  have hq₀ : ({ s with world := w } : State).queries[i]? = some q := hq
  refine ⟨stores.plain, ?_, ?_, ?_, ?_⟩
  · exact (h.slotted.inWorld w).goOn hq₀ (by simp [storing, Stage.slot?])
      (by simp [storing, Stage.locked?])
  · intro j q' hq'
    obtain ⟨-, rfl⟩ | ⟨-, hq'⟩ := State.query_of_setStage hq₀ hq'
    · exact h.fits i q hq
    · exact h.fits j q' hq'
  · intro j q' hq'
    obtain ⟨-, rfl⟩ | ⟨other, hq'⟩ := State.query_of_setStage hq₀ hq'
    · exact mine
    · by_cases same : q'.fingerprint p = q.fingerprint p
      · exact h.others_agree hq locked missing other hq' same _ _
      · rw [State.world_setStage, others _ (isKey q' p) same]
        exact h.agrees j q' hq'
  · intro key hkey
    rw [State.world_setStage]
    by_cases same : key = q.fingerprint p
    · exact .inl (by simp [same, one_known, mine])
    · rw [others key hkey same]
      exact h.found_after hq _ hkey fun mine => absurd mine.symm same

/-- A step keeps to it, with what its notes make known. -/
theorem step (h : Settled avoided folder r known p s) (hq : s.queries[i]? = some q)
    (steps : Steps p folder s i q move s') (admits : Admits p folder s i move) (model : Nat) :
    Settled avoided folder r (fun key => known key ++ answers (notes model p s' i move) key) p
      s' := by
  have slotted := h.slotted.step hq steps
  have agrees := h.agrees i q hq
  -- a step whose note holds no answer makes nothing known
  have quiet : ∀ {stage : Stage}, s'.queries = (s.setStage i stage).queries →
      (act? move stage).bind Act.answer? = none →
        (fun key => known key ++ answers (notes model p s' i move) key) = known := by
    intro stage queries silent
    funext key
    rw [notes_eq hq queries]
    cases hact : act? move stage with
    | none => simp [answers]
    | some act =>
        have silent : act.answer? = none := by simpa [hact] using silent
        simp [answers, silent]
  cases steps with
  | take stage =>
      have queries : ((s.slotFor (q.fingerprint p)).2.setStage i
          (.waiting (s.slotFor (q.fingerprint p)).1)).queries =
            (s.setStage i (.waiting (s.slotFor (q.fingerprint p)).1)).queries := by
        simp [State.setStage]
      rw [quiet queries rfl]
      exact h.calm hq slotted queries (by simp) (by simp [stage]) trivial
  | lock stage =>
      rw [quiet rfl rfl]
      exact h.calm hq slotted rfl rfl (by simp [stage]) trivial
  | found stage found =>
      rw [quiet rfl rfl]
      exact h.calm hq slotted rfl rfl (by simp [stage]) found
  | missed stage missing =>
      rw [quiet rfl rfl]
      exact h.calm hq slotted rfl rfl (by simp [stage])
        ⟨missing, h.known_of_missed hq stage missing⟩
  | @answered slot answer stage =>
      refine h.answered hq stage admits ?_ ?_
      · simp [notes_eq hq rfl, act?, answers, Act.answer?]
      · intro key differ
        simp [notes_eq hq rfl, act?, answers, Ne.symm differ]
  | failed stage =>
      rw [quiet rfl rfl]
      exact h.calm hq slotted rfl rfl (by simp [stage]) trivial
  | @store slot answer result w stage stored =>
      have succeeds := admits (Cache.entryOf p q.prompt q.options answer)
        (by simp [hq, Query.pending?, stage])
      rw [stored] at succeeds
      obtain rfl : result = .ok () := succeeds
      rw [quiet rfl rfl]
      exact h.stored hq stage stored
  | @unlock slot outcome stage =>
      rw [quiet rfl rfl]
      rw [stage] at agrees
      exact h.calm hq slotted rfl rfl (by simp [stage]) agrees.unlocked
  | @leave slot outcome stage =>
      have queries : ((s.setStage i (.done outcome)).dropSlot (q.fingerprint p) slot).queries =
          (s.setStage i (.done outcome)).queries := by simp
      rw [quiet queries rfl]
      rw [stage] at agrees
      exact h.calm hq slotted queries (by simp) (by simp [stage]) agrees.left

end Settled

end Mutagenesis.Flight
