import Mutagenesis.Proofs.Run.Gaps

/-!
# Replays in the order of the records

A replay keeps a queue for each text: its records with this text, in the order of their numbers. A
query takes the first record out of the queue of its text and touches no other queue, so what it is
answered is a matter of how many queries of the same text came before it.
-/
namespace Mutagenesis

open Files (Address Entry World Route)
open Artifacts (promptsAt promptsPath)

/-! ## Queues -/

namespace Recording

variable {text other : String} {records rest : List PromptRecord}

/-- The records of a text, in their order. -/
def queue (records : List PromptRecord) (text : String) : List PromptRecord :=
  records.filter fun x => decide (x.text = text)

/-- What a query is answered from the record that it takes, and without one. -/
def answerOf (text : String) : Option PromptRecord → Except Failure Answer
  | some x => x.outcome.replay
  | none => .error (.unrecorded (String.ofList (text.toList.take 60)))

/-- The record that is taken comes first in the queue of its text, and the other queues stay as
they are. -/
theorem queue_of_take?_eq_some {o : Outcome} (h : take? text records = some (o, rest)) :
    (∃ x, x.outcome = o ∧ queue records text = x :: queue rest text) ∧
      ∀ other, other ≠ text → queue rest other = queue records other := by
  obtain ⟨before, x, after, rfl, others, ofText, outcome, rfl⟩ := split_of_take?_eq_some h
  refine ⟨⟨x, outcome, ?_⟩, fun other differs => ?_⟩
  · have free : before.filter (fun y => decide (y.text = text)) = [] := by simpa using others
    simp [queue, free, ofText]
  · have his : x.text ≠ other := ofText ▸ differs.symm
    simp [queue, his]

/-- A query is answered from the first record of its queue, and takes no other one. -/
theorem answer_eq (text : String) (records : List PromptRecord) :
    ∃ rest, answer text records = (answerOf text (queue records text)[0]?, rest) ∧
      ∀ other, queue rest other =
        if other = text then (queue records other).tail else queue records other := by
  cases taken : take? text records with
  | none =>
      have empty : queue records text = [] := by
        simpa [queue] using take?_eq_none_iff.1 taken
      refine ⟨records, by simp [answer, taken, empty, answerOf, headLength], fun other => ?_⟩
      split
      next same => simp [same, empty]
      next => rfl
  | some found =>
      obtain ⟨o, rest⟩ := found
      obtain ⟨⟨x, rfl, first⟩, others⟩ := queue_of_take?_eq_some taken
      refine ⟨rest, ?_, fun other => ?_⟩
      · rw [answer, taken, first, List.getElem?_cons_zero, answerOf]
        cases x.outcome <;> rfl
      · split
        next same => rw [same, first, List.tail_cons]
        next differs => exact others other differs

end Recording

/-! ## Queries one after another -/

/-- A query, and the files as they are when it is made. -/
structure Asking where
  text : String
  options : Options
  world : World

/-- What a model answers to queries that are made one after another. -/
def Model.answers {σ : Type} (m : Model σ) : List Asking → σ → List (Except Failure Answer)
  | [], _ => []
  | q :: qs, s =>
      let (outcome, _, s) := m.query q.text q.options (q.world, s)
      outcome :: m.answers qs s

theorem Model.length_answers {σ : Type} (m : Model σ) (qs : List Asking) (s : σ) :
    (m.answers qs s).length = qs.length := by
  induction qs generalizing s with
  | nil => rfl
  | cons q qs ih => exact congrArg (· + 1) (ih _)

namespace Recording

/-- The record that the query with the given index takes: in the queue of its text it comes after
those that earlier queries of the text have taken. -/
def given? (records : List PromptRecord) (qs : List Asking) (i : Nat) : Option PromptRecord := do
  let q ← qs[i]?
  (queue records q.text)[(qs.take i).countP fun q' => decide (q'.text = q.text)]?

theorem given?_of_getElem? {records : List PromptRecord} {qs : List Asking} {i : Nat} {q : Asking}
    (h : qs[i]? = some q) : given? records qs i =
      (queue records q.text)[(qs.take i).countP fun q' => decide (q'.text = q.text)]? := by
  simp [given?, h]

/-- Each query is answered from the record that it takes. -/
theorem answers_replay_eq (c : Config) (qs : List Asking) (records : List PromptRecord) (i : Nat) :
    ((Model.replay c).answers qs records)[i]? =
      qs[i]?.map fun q => answerOf q.text (given? records qs i) := by
  induction qs generalizing records i with
  | nil => simp [Model.answers]
  | cons q qs ih =>
      obtain ⟨rest, said, queues⟩ := answer_eq q.text records
      have first : (Model.replay c).answers (q :: qs) records =
          answerOf q.text (queue records q.text)[0]? :: (Model.replay c).answers qs rest := by
        simp only [Model.answers, Model.replay, said]
      rw [first]
      cases i with
      | zero => simp [given?]
      | succ i =>
          rw [List.getElem?_cons_succ, List.getElem?_cons_succ, ih]
          cases asked : qs[i]? with
          | none => rfl
          | some q' =>
              have later : given? records (q :: qs) (i + 1) = given? rest qs i := by
                rw [given?_of_getElem? (List.getElem?_cons_succ.trans asked),
                  given?_of_getElem? asked, queues, List.take_succ_cons, List.countP_cons]
                by_cases same : q'.text = q.text
                · simp [same]
                · simp [same, Ne.symm same]
              rw [later]

/-- A record that is taken is of the text of the query, which is asked for more often afterwards. -/
theorem exists_of_given? {records : List PromptRecord} {qs : List Asking} {i : Nat}
    {x : PromptRecord} (h : given? records qs i = some x) :
    (queue records x.text)[(qs.take i).countP fun q => decide (q.text = x.text)]? = some x ∧
      ∀ j, i < j → (qs.take i).countP (fun q => decide (q.text = x.text)) <
        (qs.take j).countP fun q => decide (q.text = x.text) := by
  cases asked : qs[i]? with
  | none => simp [given?, asked] at h
  | some q =>
      rw [given?_of_getElem? asked] at h
      have ofText : x.text = q.text := by
        simpa using (List.mem_filter.1 (List.mem_of_getElem? h)).2
      refine ⟨by rwa [ofText], fun j later => ?_⟩
      have next : (qs.take (i + 1)).countP (fun q => decide (q.text = x.text)) =
          (qs.take i).countP (fun q => decide (q.text = x.text)) + 1 := by
        simp [List.take_add_one, asked, ofText]
      have grows : (qs.take (i + 1)).countP (fun q => decide (q.text = x.text)) ≤
          (qs.take j).countP fun q => decide (q.text = x.text) :=
        (List.take_sublist_take_left later).countP_le
      omega

/-- No record is taken twice. -/
theorem given?_inj {records : List PromptRecord} (nodup : records.Nodup) {qs : List Asking}
    {i j : Nat} {x : PromptRecord} (hi : given? records qs i = some x)
    (hj : given? records qs j = some x) : i = j := by
  obtain ⟨here, later⟩ := exists_of_given? hi
  obtain ⟨there, later'⟩ := exists_of_given? hj
  have bound := (List.getElem?_eq_some_iff.1 here).1
  have place := (List.getElem?_inj bound (nodup.sublist List.filter_sublist)).1
    (here.trans there.symm)
  obtain before | same | after := Nat.lt_trichotomy i j
  · exact absurd place (Nat.ne_of_lt (later j before))
  · exact same
  · exact absurd place.symm (Nat.ne_of_lt (later' i after))

/-- A replay answers each query from a queue of its text that holds the records of the folder with
the text in the order of their numbers, wherever in the folder they are listed: the first query of a
text from the first of them, the next one from the next, and with the head of the text when none is
left. Queries of other texts make no difference, and no record is taken twice. -/
theorem replay_first_in_first_out {w : World} {folder : Path} {recording : Recording}
    (loaded : load w folder = .ok recording)
    (distinct : (recording.records.map (·.id)).Nodup) :
    recording.records.Pairwise (·.id < ·.id) ∧
      (∀ x, x ∈ recording.records ↔ ∃ names, w.list (promptsPath folder) = .ok names ∧
        ∃ name ∈ names, Artifacts.isRecordName name = true ∧
          Artifacts.readJson w ((promptsPath folder).join ⟨name⟩) PromptRecord.decoder = .ok x) ∧
      ∀ qs : List Asking,
        let said := (Model.replay recording.config).answers qs recording.records
        said.length = qs.length ∧
          (∀ i q, qs[i]? = some q →
            given? recording.records qs i =
              (recording.records.filter fun x => decide (x.text = q.text))[
                (qs.take i).countP fun q' => decide (q'.text = q.text)]? ∧
            said[i]? = some (match given? recording.records qs i with
              | some x => x.outcome.replay
              | none => .error (.unrecorded (String.ofList (q.text.toList.take 60))))) ∧
          ∀ i j x, given? recording.records qs i = some x →
            given? recording.records qs j = some x → i = j := by
  obtain ⟨-, -, -, -, records, -⟩ := Artifacts.exists_of_load loaded
  have increasing := Artifacts.increasing_of_loadRecords records distinct
  refine ⟨increasing, Artifacts.mem_of_loadRecords records, fun qs => ⟨?_, ?_, ?_⟩⟩
  · exact Model.length_answers _ qs recording.records
  · intro i q asked
    refine ⟨given?_of_getElem? asked, ?_⟩
    rw [answers_replay_eq, asked]
    cases given? recording.records qs i <;> rfl
  · intro i j x
    exact given?_inj (List.Nodup.of_map _ distinct)

/-- The file of the tenth prompt is listed before that of the second one; a query of the same text
is answered from the second prompt, the next one from the tenth and the next one from none, and a
query of another text between them makes no difference. -/
theorem replay_first_in_first_out_of_two :
    let r : Route := ⟨0, [], [Text.bytes "r"]⟩
    let second : PromptRecord := ⟨2, "t", .between "a.py" (1, 0) (1, 1), .failed⟩
    let tenth : PromptRecord :=
      ⟨10, "t", .between "b.py" (1, 0) (1, 1), .completed ⟨["g"], .zero⟩⟩
    let file (name : String) (x : PromptRecord) : Address × Entry :=
      (Text.bytes name :: promptsAt r, .file (Text.bytes x.toJson.page))
    let w : World := ⟨[(r.address, .folder), (promptsAt r, .folder),
      (Text.bytes Artifacts.summaryName :: r.address,
        Artifacts.summaryFile (RunSummary.start Config.standard)),
      file "prompt10.json" tenth, file "prompt2.json" second], []⟩
    let ask (text : String) : Asking := ⟨text, .none, w⟩
    let qs := [ask "t", ask "u", ask "t", ask "t"]
    let said := (Model.replay Config.standard).answers qs [second, tenth]
    load w (.ofString "r") = .ok ⟨Config.standard, [second, tenth]⟩ ∧
      ([second, tenth].map (·.id)).Nodup ∧ [second, tenth].Pairwise (·.id < ·.id) ∧
      said[0]? = some (.error .recorded) ∧ said[1]? = some (.error (.unrecorded "u")) ∧
      said[2]? = some (.ok ⟨["g"], .zero⟩) ∧ said[3]? = some (.error (.unrecorded "t")) := by
  intro r second tenth file w ask qs said
  have distinct : ([second, tenth].map (·.id)).Nodup := by decide
  have loaded : load w (.ofString "r") = .ok ⟨Config.standard, [second, tenth]⟩ := by
    have listed : w.list (promptsPath (.ofString "r")) =
        .ok [Text.bytes "prompt10.json", Text.bytes "prompt2.json"] := by rfl
    have all : [Text.bytes "prompt10.json", Text.bytes "prompt2.json"].filter
        Artifacts.isRecordName = [Text.bytes "prompt10.json", Text.bytes "prompt2.json"] := by
      decide
    have fits : ∀ x ∈ [second, tenth], x.Fits := by
      simp only [List.forall_mem_cons, List.not_mem_nil, false_implies, implies_true, and_true]
      refine ⟨⟨by decide, ?_, trivial⟩, by decide, ?_, ?_⟩ <;> constructor <;> decide
    have read : w.read (Artifacts.summaryPath (.ofString "r")) =
        .ok (Text.bytes (RunSummary.start Config.standard).toJson.page) := by rfl
    have records : Artifacts.loadRecords w (.ofString "r") =
        .ok ([tenth, second].mergeSort fun x y => decide (x.id ≤ y.id)) := by
      refine Artifacts.loadRecords_of_list listed ?_
      rw [all]
      refine .cons ?_ (.cons ?_ .nil)
      · exact Artifacts.readJson_of_read (by rfl) (PromptRecord.written (fits _ (by simp)))
      · exact Artifacts.readJson_of_read (by rfl) (PromptRecord.written (fits _ (by simp)))
    have sorted : ([tenth, second].mergeSort fun x y => decide (x.id ≤ y.id)) = [second, tenth] :=
      Artifacts.Finished.mergeSort_reverse (show [second, tenth].Pairwise (·.id < ·.id) by decide)
    exact load_of_read (RunSummary.fits_of_counts rfl (by decide) (by decide)) read
      (records.trans (congrArg Except.ok sorted))
  obtain ⟨increasing, -, queries⟩ := replay_first_in_first_out loaded distinct
  obtain ⟨-, each, -⟩ := queries qs
  refine ⟨loaded, distinct, increasing, ?_, ?_, ?_, ?_⟩
  · exact (each 0 _ rfl).2
  · exact (each 1 _ rfl).2.trans (by decide +kernel)
  · exact (each 2 _ rfl).2
  · exact (each 3 _ rfl).2.trans (by decide +kernel)

end Recording

end Mutagenesis
