import Mutagenesis.Proofs.Files.Courses
import Mutagenesis.Proofs.Files.Ends
import Mutagenesis.Proofs.Model.Cache
import Mutagenesis.Proofs.Run.Confined

/-!
# Answers that stay stored

An answer that a cache finds is found as long as its entry and the way to it stay. What a run writes
into its output folder has other names than the entries of a cache, so writing it keeps them,
wherever the cache is. Clearing the output folder keeps them unless the cache is among the records
there.
-/
namespace Mutagenesis

open Files (Address Entry World Route isName)
open Artifacts (promptsAt)

/-! ## Clearing -/

namespace Artifacts

variable {w : World} {folder : Path} {r : Route}

/-- Nothing is cleared where paths lead nowhere. -/
theorem clear_of_nowhere (nowhere : ∀ name follow a, isName name = true →
    w.locate follow (folder.join ⟨name⟩) ≠ .ok a) : (clear w folder).2 = w := by
  have absent : ∀ name, isName name = true → removeIfPresent w (folder.join ⟨name⟩) = .ok w := by
    intro name hname
    have missing : w.isPresent (folder.join ⟨name⟩) = false := by
      cases located : w.locate true (folder.join ⟨name⟩) with
      | error fault => simp [World.isPresent, World.entryAt?, located, Except.toOption]
      | ok a => exact absurd located (nowhere name true a hname)
    simp [removeIfPresent, missing]
  have mutants : removeIfPresent w (mutantsPath folder) = .ok w := absent _ isName_mutantsName
  have summary : removeIfPresent w (summaryPath folder) = .ok w := absent _ isName_summaryName
  cases located : w.locate false (promptsPath folder) with
  | ok a => exact absurd located (nowhere _ false a isName_promptsName)
  | error fault =>
      have removed : w.removeTree (promptsPath folder) = .error fault := by
        simp [World.removeTree, located, bind, Except.bind]
      unfold clear removeRecords
      rw [removed]
      cases fault <;> simp [mutants, summary]

/-- Clearing an output folder is confined to it and keeps a tree, also where its path cannot be
followed yet. -/
theorem confined_clear_of_aims (tree : w.IsTree) (aims : w.Aims (promptsAt r) folder r)
    (home : ¬ promptsAt r <:+ w.home) :
    Confined r w (clear w folder).2 ∧ (clear w folder).2.IsTree := by
  obtain takes | nowhere := aims.takes_or_nowhere tree
  · exact ⟨confined_clear takes, isTree_clear tree takes home⟩
  · rw [clear_of_nowhere nowhere]
    exact ⟨.refl r w, tree⟩

end Artifacts

/-! ## Names of entries -/

namespace Cache

variable {w w' w'' : World} {avoided : Address} {folder : Path} {r ro : Route} {key : String}
  {answer : Answer}

/-- The names of an entry begin with a digit, as nothing in an output folder does. -/
theorem IsKey.name_ne (h : IsKey key) {text : String} {c : Char}
    (first : text.toList.head? = some c) (noDigit : ¬ Text.IsHex c) :
    fileName key ≠ Text.bytes text ∧ shardName key ≠ Text.bytes text := by
  have isHex := h.isHex
  have shards := h.shard_eq
  obtain ⟨d, rest, hkey⟩ : ∃ d rest, key.toList = d :: rest :=
    List.exists_cons_of_length_pos (by simp [h.length])
  rw [hkey, List.forall_mem_cons] at isHex
  have other : text.toList.head? ≠ some d := by
    intro same
    obtain rfl := Option.some.inj (first.symm.trans same)
    exact noDigit isHex.1
  constructor
  all_goals
    intro same
    refine other ?_
    rw [← Text.bytes_injective same]
  · simp [hkey]
  · simp [shards, hkey]

theorem IsKey.fileName_ne_recordName (h : IsKey key) (id : Nat) :
    fileName key ≠ Artifacts.recordName id :=
  (h.name_ne (c := 'p') (by simp) (by simp only [Text.IsHex]; decide)).1

theorem IsKey.fileName_ne_mutantsName (h : IsKey key) :
    fileName key ≠ Text.bytes Artifacts.mutantsName :=
  (h.name_ne (c := 'm') rfl (by simp only [Text.IsHex]; decide)).1

theorem IsKey.fileName_ne_summaryName (h : IsKey key) :
    fileName key ≠ Text.bytes Artifacts.summaryName :=
  (h.name_ne (c := 's') rfl (by simp only [Text.IsHex]; decide)).1

theorem IsKey.ne_promptsName (h : IsKey key) :
    fileName key ≠ Text.bytes Artifacts.promptsName ∧
      shardName key ≠ Text.bytes Artifacts.promptsName :=
  h.name_ne (c := 'p') rfl (by simp only [Text.IsHex]; decide)

/-- Entries are among the records of an output folder only if their cache is. -/
theorem IsKey.not_promptsAt_suffix (h : IsKey key) (outside : ¬ promptsAt ro <:+ r.address) :
    ¬ promptsAt ro <:+ shardName key :: r.address := by
  intro within
  obtain same | within := List.suffix_cons_iff.1 within
  · exact h.ne_promptsName.2 (List.cons.inj same).1.symm
  · exact outside within

/-! ## Entries that stay -/

/-- Whether a change leaves the entries of a cache and the ways to them as they are. -/
structure Leaves (avoided : Address) (r : Route) (w w' : World) : Prop where
  keeps : World.Keeps avoided w w'
  entries : ∀ {key e}, IsKey key → w.get? (entryAt r key) = some e →
    w'.get? (entryAt r key) = some e

namespace Leaves

theorem refl (avoided : Address) (r : Route) (w : World) : Leaves avoided r w w :=
  ⟨.refl avoided w, fun _ found => found⟩

theorem trans (h : Leaves avoided r w w') (h' : Leaves avoided r w' w'') :
    Leaves avoided r w w'' :=
  ⟨h.keeps.trans h'.keeps, fun hkey found => h'.entries hkey (h.entries hkey found)⟩

/-- An answer that is found is found after a change that leaves it and the way to it. -/
theorem lookup (h : Leaves avoided r w w') (tree : w.IsTree) (aims : w.Aims avoided folder r)
    (hkey : IsKey key) (outside : ¬ avoided <:+ shardName key :: r.address)
    (found : Cache.lookup w folder key = some answer) :
    Cache.lookup w' folder key = some answer := by
  have end_outside : ¬ avoided <:+ (r.into (shardName key)).address := by
    rwa [Route.address_into]
  rw [lookup_eq] at found
  cases read : w.read (entryPath folder key) with
  | error fault => simp [read, Except.toOption] at found
  | ok content =>
      obtain ⟨_, located, -⟩ := World.read_eq_ok read
      have way := (aims.join hkey.isName_shard).takes_of_join tree hkey.isName_file located
      obtain ⟨usable, passes, short, file⟩ := (way.read_join_eq_ok hkey.isName_file).1 read
      rw [Route.address_into] at file
      have again : w'.read (entryPath folder key) = .ok content := by
        refine ((way.keeps h.keeps).read_join_eq_ok hkey.isName_file).2
          ⟨usable, passes.keeps h.keeps end_outside, short, ?_⟩
        rw [Route.address_into]
        exact h.entries hkey file
      rw [lookup_eq, again, ← found, read]

/-- A run into a folder leaves the entries of a cache that is not among its records. -/
theorem of_confined (h : Artifacts.Confined ro w w') (outside : ¬ promptsAt ro <:+ r.address) :
    Leaves (promptsAt ro) r w w' := by
  refine ⟨h.keeps, fun hkey found => h.kept ?_ found⟩
  constructor
  case notMutants => exact fun same => hkey.fileName_ne_mutantsName (List.cons.inj same).1
  case notSummary => exact fun same => hkey.fileName_ne_summaryName (List.cons.inj same).1
  case notPrompts =>
    intro within
    obtain same | within := List.suffix_cons_iff.1 within
    · exact hkey.ne_promptsName.1 (List.cons.inj same).1.symm
    · exact hkey.not_promptsAt_suffix outside within

/-- Writing a value to a file of another name leaves the entries. -/
theorem of_writeJson {p : Path} {q : Route} {other : Address} {name : Bytes}
    (hname : isName name = true) (tree : w.IsTree) (aims : w.Aims other p q)
    (differ : ∀ {key}, IsKey key → fileName key ≠ name) (v : Json) :
    Leaves avoided r w (Artifacts.writeJson w (p.join ⟨name⟩) v).2 := by
  have made : Leaves avoided r w (w.makeFolders ((p.join ⟨name⟩).parent?.getD ⟨[]⟩)).2 :=
    ⟨World.keeps_makeFolders w _, fun _ found => World.get?_makeFolders _ found⟩
  have aims' := aims.keeps (World.keeps_makeFolders w
    ((p.join ⟨name⟩).parent?.getD ⟨[]⟩))
  have tree' := tree.makeFolders ((p.join ⟨name⟩).parent?.getD ⟨[]⟩)
  obtain ⟨_, failed⟩ | ⟨w', written, wrote⟩ := Artifacts.writeJson_cases w (p.join ⟨name⟩) v
  · exact failed ▸ made
  · obtain ⟨b, located, noFolder, rfl⟩ := World.write_eq_ok written
    have way := aims'.takes_of_join tree' hname located
    obtain rfl := ((way.locate_join_eq_ok hname).1 located).2.2.2
    refine wrote ▸ made.trans
      ⟨World.keeps_put noFolder (way.below [name]) (by simp), fun hkey found => ?_⟩
    rw [World.get?_put _ _ _ (List.cons_ne_nil _ _), if_neg, found]
    exact fun same => differ hkey (List.cons.inj same).1

end Leaves

/-! ## Storing -/

/-- What storing an answer comes to when it succeeds, also where folders were missing on the way to
the cache: the way is there, the answer is found, and those that were found before are found. -/
structure Settles (avoided : Address) (folder : Path) (r : Route) (key : String) (answer : Answer)
    (w w' : World) : Prop where
  plain : IsPlain w' avoided folder r
  keeps : ∀ other, World.Keeps other w w'
  found : lookup w' folder key = some answer
  others : ∀ {key' answer'}, IsKey key' → key' ≠ key → lookup w folder key' = some answer' →
    lookup w' folder key' = some answer'

theorem settles_of_store (tree : w.IsTree) (aims : w.Aims avoided folder r)
    (outside : ∀ {key}, IsKey key → ¬ avoided <:+ shardName key :: r.address) {entry : CacheEntry}
    (hkey : IsKey entry.fingerprint) (options : entry.options.Fits)
    (usage : entry.answer.usage.Fits) (stored : store w folder entry = (.ok (), w')) :
    Settles avoided folder r entry.fingerprint entry.answer w w' := by
  let above := (entryPath folder entry.fingerprint).parent?.getD folder
  have made : ∀ other, Leaves other r w (w.makeFolders above).2 := fun _ =>
    ⟨World.keeps_makeFolders w _, fun _ found => World.get?_makeFolders _ found⟩
  have tree₁ := tree.makeFolders above
  unfold store at stored
  rcases makes : w.makeFolders above with ⟨_ | ⟨⟩, w₁⟩
  · simp [above, makes] at stored
  · rw [makes] at made tree₁
    simp only [above] at makes
    simp only [makes] at stored
    obtain ⟨_, located, noFolder, same⟩ := World.replace_eq_ok stored
    have plain : IsPlain w₁ avoided folder r :=
      ⟨tree₁, (aims.keeps (made avoided).keeps).takes_of_join_join tree₁ hkey.isName_shard
        hkey.isName_file located⟩
    have stores := plain.replaces hkey stored
    obtain rfl := ((plain.locate_eq_ok hkey).1 located).2.2
    have noLink : ∀ target, w₁.get? (entryAt r entry.fingerprint) ≠ some (.link target) :=
      plain.takes.below [fileName entry.fingerprint, shardName entry.fingerprint]
    refine ⟨stores.plain, fun other => (made other).keeps.trans ?_,
      stores.lookup_self hkey options usage, fun hother differ found => ?_⟩
    · exact same ▸ World.keeps_put noFolder noLink (by simp)
    · rw [stores.lookup_other plain hother differ]
      exact (made avoided).lookup tree aims hother (outside hother) found

end Cache

/-! ## Runs -/

namespace Job

variable {j : Job} {w : World} {r ro : Route} {other : Address} (avoided : Address)
  (tree : w.IsTree) (aims : ∀ out, j.output = some out → w.Aims other out ro)
include tree aims

/-- Recording a prompt leaves the entries of a cache, wherever it is. -/
theorem leaves_save (prompt : Prompt) (outcome : Except Failure Answer) :
    Cache.Leaves avoided r w (j.save prompt outcome w).2 := by
  unfold save
  split
  next out x output _ =>
    exact .of_writeJson (Artifacts.isName_recordName x.id) tree
      ((aims out output).join Artifacts.isName_promptsName)
      (fun hkey => hkey.fileName_ne_recordName x.id) _
  next => exact .refl avoided r w

/-- So does writing what the run comes to. -/
theorem leaves_saveResult (result : RunResult) :
    Cache.Leaves avoided r w (j.saveResult result w).2 := by
  unfold saveResult
  split
  next => exact .refl avoided r w
  next out output =>
    have mutants : ∀ avoided,
        Cache.Leaves avoided r w (Artifacts.saveMutants w out result.mutants).2 := fun _ =>
      .of_writeJson Artifacts.isName_mutantsName tree (aims out output)
        (fun hkey => hkey.fileName_ne_mutantsName) _
    have tree' : (Artifacts.saveMutants w out result.mutants).2.IsTree :=
      Artifacts.isTree_writeJson tree _ _
    rcases saved : Artifacts.saveMutants w out result.mutants with ⟨_ | ⟨⟩, w₁⟩
    all_goals rw [saved] at mutants tree'
    · exact mutants avoided
    · exact (mutants avoided).trans (.of_writeJson Artifacts.isName_summaryName tree'
        ((aims out output).keeps (mutants other).keeps)
        (fun hkey => hkey.fileName_ne_summaryName) _)

end Job

end Mutagenesis
