import Mutagenesis.Proofs.Files.Replacing
import Mutagenesis.Proofs.Flight.Single
import Mutagenesis.Proofs.Run.Turns

/-!
# Queries of a cached model

A cache neither fails nor changes a query: an answer that it holds is returned without asking, and
any other query is that of the inner model, also when its answer cannot be stored. Storing an answer
touches no file but the one to which the path of the entry leads. The next query of the key finds
the answer there, unless the path led through a link in that very place.
-/
namespace Mutagenesis

open Files (Address World)

/-! ## What storing does to files -/

namespace Cache

variable {w w' : World} {folder : Path} {entry : CacheEntry} {fault : Files.Fault} {a : Address}

/-- The files once the folders of an entry have been made, as far as they can be. -/
def prepared (w : World) (folder : Path) (key : String) : World :=
  (w.makeFolders ((entryPath folder key).parent?.getD folder)).2

theorem spares_prepared (w : World) (folder : Path) (key : String) :
    World.SparesAllBut [] w (prepared w folder key) :=
  World.sparesAllBut_makeFolders w _

/-- When an answer cannot be stored, folders have been made at the most. -/
theorem eq_of_store_error (h : store w folder entry = (.error fault, w')) :
    w' = prepared w folder entry.fingerprint := by
  simp only [store] at h
  rw [prepared]
  split at h
  next makes =>
    rw [makes]
    exact (Prod.mk.inj h).2.symm
  next makes =>
    rw [makes]
    exact World.eq_of_replace_error h

/-- When it can, its entry is put where the path leads once the folders are made. -/
theorem store_eq_ok (h : store w folder entry = (.ok (), w')) :
    ∃ a, (prepared w folder entry.fingerprint).locate false (entryPath folder entry.fingerprint) =
        .ok a ∧
      (prepared w folder entry.fingerprint).get? a ≠ some .folder ∧
      w' = (prepared w folder entry.fingerprint).put a (.file (Text.bytes entry.toJson.page)) := by
  simp only [store] at h
  rw [prepared]
  split at h
  next => simp at h
  next makes =>
    rw [makes]
    exact World.replace_eq_ok h

/-- What becomes of files when an answer is to be stored. -/
inductive Keeps (folder : Path) (entry : CacheEntry) (w w' : World) : Prop
  /-- When it cannot be stored, no file changes. -/
  | failed (fault : Files.Fault) (store : store w folder entry = (.error fault, w'))
      (spares : World.SparesAllBut [] w w')
  /-- When it is stored, the file to which the path of the entry leads holds the entry, and no other
  file changes. -/
  | stored (a : Address) (store : store w folder entry = (.ok (), w'))
      (leads : (prepared w folder entry.fingerprint).locate false
        (entryPath folder entry.fingerprint) = .ok a)
      (file : w'.get? a = some (.file (Text.bytes entry.toJson.page)))
      (spares : World.SparesAllBut [a] w w')

theorem keeps_store (w : World) (folder : Path) (entry : CacheEntry) :
    Keeps folder entry w (store w folder entry).2 := by
  rcases stored : store w folder entry with ⟨fault | ⟨⟩, w'⟩
  · refine .failed fault stored ?_
    rw [eq_of_store_error stored]
    exact spares_prepared w folder _
  · obtain ⟨a, located, noFolder, rfl⟩ := store_eq_ok stored
    have nonempty := World.ne_nil_of_get? noFolder
    refine .stored a stored located ?_ ((spares_prepared w folder _).put nonempty)
    rw [World.get?_put _ _ _ nonempty, if_pos rfl]

/-- Whether storing an entry leads past a link in its own place, if there is one: the path of the
entry leads there without it. -/
def IsDirect (w : World) (folder : Path) (key : String) : Prop :=
  ∀ a, (prepared w folder key).locate false (entryPath folder key) = .ok a →
    (prepared w folder key).LeadsPast (entryPath folder key) a

/-- What has been stored is found. -/
theorem holds_of_store (entry : CacheEntry) (tree : w.IsTree) (hkey : IsKey entry.fingerprint)
    (direct : IsDirect w folder entry.fingerprint) (options : entry.options.Fits)
    (usage : entry.answer.usage.Fits) (h : (store w folder entry).1 = .ok ()) :
    Holds (store w folder entry).2 folder entry.fingerprint entry.answer := by
  rcases stored : store w folder entry with ⟨outcome, w'⟩
  obtain rfl : outcome = .ok () := by rwa [stored] at h
  replace h := stored
  obtain ⟨a, located, noFolder, rfl⟩ := store_eq_ok h
  let content := Text.bytes entry.toJson.page
  have read : ((prepared w folder entry.fingerprint).put a (.file content)).read
      (entryPath folder entry.fingerprint) = .ok content :=
    World.read_of_put (tree.makeFolders _) (Path.isFirm_pieces_join hkey.isName_file _) located
      noFolder (direct a located)
  rw [← lookup_eq_some_iff, lookup_of_read options usage read, if_pos rfl]

end Cache

/-! ## Queries -/

namespace Model

section

variable {σ : Type} {m : Model σ} {folder : Path} {prompt : String} {options : Options}
  {answer : Answer} {failure : Failure} {w w' : World} {s s' : σ} {log : List Said}

/-- An answer that the files hold is returned, and the inner model is not asked. -/
theorem cached_query_of_holds
    (holds : Cache.Holds w folder (fingerprint m.profile prompt options) answer) :
    (m.watched.cached folder).query prompt options (w, s, log) = (.ok answer, w, s, log) := by
  have found := Cache.lookup_eq_some_iff.2 holds
  simp only [cached, watched, found]

theorem lookup_of_not_holds
    (missing : ∀ answer, ¬ Cache.Holds w folder (fingerprint m.profile prompt options) answer) :
    Cache.lookup w folder (fingerprint m.profile prompt options) = none := by
  cases found : Cache.lookup w folder (fingerprint m.profile prompt options) with
  | none => rfl
  | some answer => exact absurd (Cache.lookup_eq_some_iff.1 found) (missing answer)

/-- A failure of the inner model is returned, and no file changes on its account. -/
theorem cached_query_of_error
    (missing : ∀ answer, ¬ Cache.Holds w folder (fingerprint m.profile prompt options) answer)
    (said : m.query prompt options (w, s) = (.error failure, w', s')) :
    (m.watched.cached folder).query prompt options (w, s, log) =
      (.error failure, w', s', log ++ [⟨prompt, options, .error failure, w, w'⟩]) := by
  have absent := lookup_of_not_holds missing
  simp only [cached, watched, absent, said]

/-- So is an answer, whatever comes of storing it. -/
theorem cached_query_of_ok (log : List Said)
    (missing : ∀ answer, ¬ Cache.Holds w folder (fingerprint m.profile prompt options) answer)
    (said : m.query prompt options (w, s) = (.ok answer, w', s')) :
    (m.watched.cached folder).query prompt options (w, s, log) =
      (.ok answer, (Cache.store w' folder (Cache.entryOf m.profile prompt options answer)).2, s',
        log ++ [⟨prompt, options, .ok answer, w, w'⟩]) := by
  have absent := lookup_of_not_holds missing
  simp only [cached, watched, absent, said]

end

/-- A cache neither fails nor changes a query. An answer that the files hold is returned, and the
inner model is not asked. Otherwise it is asked once, and what it says is returned; after a failure
the files are as it has left them, and after an answer no file has changed but that of the entry, if
it could be written. Then the next query of the key finds the answer. -/
theorem cached_query_is_safe {σ : Type} (m : Model σ) (folder : Path) (prompt : String)
    (options : Options) (fits : options.Fits) (w : World) (s : σ) (log : List Said) :
    (∀ answer, Cache.Holds w folder (fingerprint m.profile prompt options) answer →
      (m.watched.cached folder).query prompt options (w, s, log) = (.ok answer, w, s, log)) ∧
    ((∀ answer, ¬ Cache.Holds w folder (fingerprint m.profile prompt options) answer) →
      ∃ outcome w₁ s₁ w₂, m.query prompt options (w, s) = (outcome, w₁, s₁) ∧
        (m.watched.cached folder).query prompt options (w, s, log) =
          (outcome, w₂, s₁, log ++ [⟨prompt, options, outcome, w, w₁⟩]) ∧
        match outcome with
        | .error _ => w₂ = w₁
        | .ok answer =>
            let entry := Cache.entryOf m.profile prompt options answer
            Cache.Keeps folder entry w₁ w₂ ∧
            ((Cache.store w₁ folder entry).1 = .ok () → w₁.IsTree → answer.usage.Fits →
              Cache.IsDirect w₁ folder entry.fingerprint → ∀ prompt' options' s' log',
                fingerprint m.profile prompt' options' = entry.fingerprint →
                (m.watched.cached folder).query prompt' options' (w₂, s', log') =
                  (.ok answer, w₂, s', log'))) := by
  refine ⟨fun answer holds => cached_query_of_holds holds, fun missing => ?_⟩
  rcases said : m.query prompt options (w, s) with ⟨failure | answer, w₁, s₁⟩
  · exact ⟨.error failure, w₁, s₁, w₁, rfl, cached_query_of_error missing said, rfl⟩
  · let entry := Cache.entryOf m.profile prompt options answer
    refine ⟨.ok answer, w₁, s₁, (Cache.store w₁ folder entry).2, rfl,
      cached_query_of_ok log missing said, Cache.keeps_store w₁ folder entry, ?_⟩
    intro stored tree usage direct prompt' options' s' log' same
    have hkey : Cache.IsKey entry.fingerprint := Cache.isKey_fingerprint m.profile prompt options
    have holds := Cache.holds_of_store entry tree hkey direct fits usage stored
    rw [← same] at holds
    exact cached_query_of_holds holds

/-! ### An answer in the place of another one -/

section Small

open Flight (small single smallContent fingerprint_one fingerprint_two keyOne keyTwo)

variable {entry : CacheEntry} {content : Bytes}

/-- The entry of the key can take the place of the file that is there. -/
theorem store_single_one (h : entry.fingerprint = keyOne) :
    (Cache.store (single content) (.ofString "c") entry).1 = .ok () := by
  rw [Cache.store, h]
  generalize Text.bytes _ = content'
  rfl

theorem isDirect_single : Cache.IsDirect (single content) (.ofString "c") keyOne := by
  have noLinks : (Cache.prepared (single content) (.ofString "c") keyOne).hasNoLinks = true := rfl
  intro a _ target found
  exact absurd found (World.get?_ne_link noLinks a target)

/-- The file of a key holds the entry of another one: the model is asked, its answer takes the place
of the entry, and the next query finds it. -/
theorem cached_query_is_safe_over_other :
    let w := single (smallContent "2" "x")
    let folder : Path := .ofString "c"
    let m := Model.scripted small
    let answer : Answer := ⟨["y"], .zero⟩
    ∃ w' log, (m.watched.cached folder).query "1" .none (w, [.ok answer], []) =
        (.ok answer, w', [], log) ∧
      log = [⟨"1", .none, .ok answer, w, w⟩] ∧
      Cache.Keeps folder (Cache.entryOf small "1" .none answer) w w' ∧
      (m.watched.cached folder).query "1" .none (w', [], log) = (.ok answer, w', [], log) := by
  intro w folder m answer
  have tree : w.IsTree := by constructor <;> decide +kernel
  have missing : ∀ other, ¬ Cache.Holds w folder (fingerprint small "1" .none) other := by
    intro other holds
    have found := Cache.lookup_eq_some_iff.2 holds
    have read : w.read (Cache.entryPath folder keyOne) = .ok (smallContent "2" "x") := rfl
    rw [fingerprint_one, Flight.lookup_small read, fingerprint_two,
      if_neg Flight.keyOne_ne_keyTwo.symm] at found
    cases found
  obtain ⟨-, asked⟩ := cached_query_is_safe m folder "1" .none Flight.fits_none w [.ok answer] []
  obtain ⟨outcome, w₁, s₁, w₂, said, query, rest⟩ := asked missing
  obtain ⟨rfl, rfl, rfl⟩ : outcome = .ok answer ∧ w₁ = w ∧ s₁ = [] := by
    simpa [m, Model.scripted, eq_comm] using said
  obtain ⟨keeps, next⟩ := rest
  have direct : Cache.IsDirect w folder (fingerprint small "1" .none) := by
    rw [fingerprint_one]
    exact isDirect_single
  exact ⟨w₂, _, query, rfl, keeps, next (store_single_one fingerprint_one) tree Flight.fits_zero
    direct "1" .none [] _ rfl⟩

/-! ### A link in the place of an entry -/

/-- A folder in which a link to the shard stands in the place of an entry. -/
def looped : World :=
  let folder : Address := [Text.bytes "c"]
  ⟨[(folder, .folder), (Cache.shardName keyOne :: folder, .folder),
    (Cache.entryAt ⟨0, [], folder⟩ keyOne, .link (.ofString "."))], []⟩

/-- A path to the folder that passes through the link. -/
def throughEntry : Path := .ofString ("c/e9/" ++ keyOne ++ ".json/..")

set_option maxRecDepth 4000 in
/-- The entry takes the place of the link, and then the path leads nowhere. -/
theorem store_looped (h : entry.fingerprint = keyOne) :
    ∃ w, Cache.store looped throughEntry entry = (.ok (), w) ∧
      w.read (Cache.entryPath throughEntry keyOne) = .error .notFolder := by
  rw [Cache.store, h]
  generalize Text.bytes _ = content
  refine ⟨_, Prod.ext (?_ : _ = Except.ok ()) rfl, ?_⟩ <;> rfl

/-- Nothing is found where a file cannot be read. -/
theorem not_holds_of_error {w : World} {folder : Path} {fault : Files.Fault}
    (unread : w.read (Cache.entryPath folder keyOne) = .error fault) (answer : Answer) :
    ¬ Cache.Holds w folder (fingerprint small "1" .none) answer := by
  intro holds
  have found := Cache.lookup_eq_some_iff.2 holds
  simp [fingerprint_one, Cache.lookup_eq, unread, Except.toOption] at found

/-- When the path to the cache passes through a link in the place of an entry, storing the entry
takes the link away, and the next query of the key asks again. -/
theorem asks_again_past_own_link :
    let m := Model.scripted small
    let y : Answer := ⟨["y"], .zero⟩
    let z : Answer := ⟨["z"], .zero⟩
    looped.IsTree ∧ ∃ w' w'' log log',
      (m.watched.cached throughEntry).query "1" .none (looped, [.ok y, .ok z], []) =
        (.ok y, w', [.ok z], log) ∧
      (Cache.store looped throughEntry (Cache.entryOf small "1" .none y)).1 = .ok () ∧
      (m.watched.cached throughEntry).query "1" .none (w', [.ok z], log) =
        (.ok z, w'', [], log') ∧ log'.length = 2 := by
  intro m y z
  have unread : looped.read (Cache.entryPath throughEntry keyOne) = .error .isFolder := by
    decide +kernel
  obtain ⟨w', stored, unread'⟩ := store_looped
    (show (Cache.entryOf small "1" .none y).fingerprint = keyOne from fingerprint_one)
  have first := cached_query_of_ok (m := m) [] (not_holds_of_error unread)
    (show m.query "1" .none (looped, [.ok y, .ok z]) = (.ok y, looped, [.ok z]) from rfl)
  have second := cached_query_of_ok (m := m) [⟨"1", .none, .ok y, looped, looped⟩]
    (not_holds_of_error unread')
    (show m.query "1" .none (w', [.ok z]) = (.ok z, w', []) from rfl)
  have kept : (Cache.store looped throughEntry (Cache.entryOf m.profile "1" .none y)).2 = w' :=
    congrArg Prod.snd stored
  rw [kept] at first
  exact ⟨by constructor <;> decide +kernel, w', _, _, _, first, congrArg Prod.fst stored, second,
    rfl⟩

end Small

end Model

end Mutagenesis
