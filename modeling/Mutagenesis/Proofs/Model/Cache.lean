import Mutagenesis.Proofs.Files.Growth
import Mutagenesis.Proofs.Model.Entries
import Mutagenesis.Proofs.Model.Sha256

/-!
# Cached answers in a plain folder

In a folder without links each key has an address of its own. Looking a key up reads what stands
there and nothing else, and storing an answer puts its entry there and leaves the other entries as
they are.
-/
namespace Mutagenesis.Cache

open Files (Address Entry World Route IsUsable isName)

variable {w w' : World} {avoided : Address} {folder : Path} {r : Route} {key other : String}
  {content : Bytes}

/-! ## Keys -/

/-- Whether a text is a key, which is what a digest is. -/
def IsKey (key : String) : Prop := ∃ message, key = Sha256.digest message

theorem isKey_fingerprint (p : Profile) (prompt : String) (options : Options) :
    IsKey (fingerprint p prompt options) :=
  ⟨_, rfl⟩

def shardName (key : String) : Bytes := Text.bytes (shard key)

def fileName (key : String) : Bytes := Text.bytes (key ++ ".json")

theorem entryPath_eq (folder : Path) (key : String) :
    entryPath folder key = (folder.join ⟨shardName key⟩).join ⟨fileName key⟩ := rfl

namespace IsKey

theorem isHex (h : IsKey key) : ∀ c ∈ key.toList, Text.IsHex c := by
  obtain ⟨message, rfl⟩ := h
  exact fun c => Sha256.isHex_of_mem_digest

theorem length (h : IsKey key) : key.toList.length = 64 := by
  obtain ⟨message, rfl⟩ := h
  exact Sha256.length_digest message

/-- The shard of a key is made of its first two digits. -/
theorem shard_eq (h : IsKey key) : shard key = String.ofList (key.toList.take 2) := by
  have isHex := h.isHex
  have length := h.length
  match hkey : key.toList with
  | c :: d :: rest =>
      rw [hkey, List.forall_mem_cons, List.forall_mem_cons] at isHex
      have size : ∀ {c : Char}, Text.IsHex c → c.utf8Size = 1 := fun hc =>
        (String.length_utf8EncodeChar _).symm.trans hc.encoded.1
      simp [shard, Text.cut, hkey, size isHex.1, size isHex.2.1]
  | [] | [_] => simp [hkey] at length

theorem isName_shard (h : IsKey key) : isName (shardName key) = true := by
  have nonempty : key.toList.take 2 ≠ [] := by
    rw [← List.length_pos_iff, List.length_take, h.length]
    decide
  have named : isName (Text.bytes (String.ofList (key.toList.take 2)) ++ []) = true :=
    Text.IsHex.isName_append (fun c hc => h.isHex c (List.mem_of_mem_take hc)) nonempty (by simp)
  rwa [List.append_nil, ← h.shard_eq] at named

theorem isName_file (h : IsKey key) : isName (fileName key) = true := by
  have nonempty : key.toList ≠ [] := by
    rw [← List.length_pos_iff, h.length]
    decide
  have named : isName (Text.bytes (String.ofList key.toList) ++ Text.bytes ".json") = true :=
    Text.IsHex.isName_append h.isHex nonempty (by decide)
  rwa [String.ofList_toList, ← Text.bytes_append] at named

theorem length_shard (h : IsKey key) : (shardName key).length = 2 := by
  have isHex : ∀ c ∈ key.toList.take 2, Text.IsHex c := fun c hc =>
    h.isHex c (List.mem_of_mem_take hc)
  have length := Text.IsHex.length_bytes isHex
  rwa [← h.shard_eq, List.length_take, h.length] at length

theorem short_shard (h : IsKey key) : (shardName key).length ≤ Files.nameLimit := by
  rw [h.length_shard]
  decide

theorem length_file (h : IsKey key) : (fileName key).length = 69 := by
  have length := Text.IsHex.length_bytes h.isHex
  rw [String.ofList_toList, h.length] at length
  rw [fileName, Text.bytes_append, List.length_append, length]
  decide

theorem short_file (h : IsKey key) : (fileName key).length ≤ Files.nameLimit := by
  rw [h.length_file]
  decide

end IsKey

theorem fileName_injective (h : fileName key = fileName other) : key = other :=
  (String.append_left_inj _).1 (Text.bytes_injective h)

/-! ## Addresses -/

/-- The address of the entry of a key in the folder at the end of a route. -/
def entryAt (r : Route) (key : String) : Address := fileName key :: shardName key :: r.address

theorem entryAt_ne_nil (key : String) : entryAt r key ≠ [] := List.cons_ne_nil _ _

/-- Whether nothing but the folders is missing for the path of an entry to be followed. -/
structure IsInReach (folder : Path) (r : Route) (key : String) : Prop where
  usable : IsUsable (entryPath folder key)
  short : ∀ name ∈ r.names, name.length ≤ Files.nameLimit

/-- Whether a path takes a route to a folder without links in a tree. -/
structure IsPlain (w : World) (avoided : Address) (folder : Path) (r : Route) : Prop where
  tree : w.IsTree
  takes : w.Takes avoided folder r

namespace IsPlain

/-- The path of an entry leads to its address. -/
theorem locate_eq_ok (h : IsPlain w avoided folder r) (hkey : IsKey key) {follow : Bool}
    {a : Address} : w.locate follow (entryPath folder key) = .ok a ↔
      IsUsable (entryPath folder key) ∧ w.Passes r.base (r.names ++ [shardName key]) ∧
        a = entryAt r key := by
  rw [entryPath_eq, (h.takes.join hkey.isName_shard).locate_join_eq_ok hkey.isName_file,
    Route.address_into]
  simp only [hkey.short_file, true_and]
  exact Iff.rfl

/-- A file is read when it stands at the address of the entry. -/
theorem read_eq_ok (h : IsPlain w avoided folder r) (hkey : IsKey key) :
    w.read (entryPath folder key) = .ok content ↔
      IsInReach folder r key ∧ w.get? (entryAt r key) = some (.file content) := by
  constructor
  · intro read
    cases located : w.locate true (entryPath folder key) with
    | error fault => simp [World.read, located, bind, Except.bind] at read
    | ok a =>
        obtain ⟨usable, passes, rfl⟩ := (h.locate_eq_ok hkey).1 located
        simp only [World.read, located, bind, Except.bind] at read
        split at read
        next found =>
          obtain rfl := Except.ok.inj read
          refine ⟨⟨usable, fun name hname => ?_⟩, found⟩
          exact passes.short name (List.mem_append_left _ hname)
        all_goals simp [throw, throwThe, MonadExceptOf.throw] at read
  · rintro ⟨reach, found⟩
    have there : w.get? ((r.names ++ [shardName key]).reverse ++ r.base) = some .folder := by
      have stands : w.get? (entryAt r key) ≠ none := by simp [found]
      have above : w.get? (shardName key :: r.address) = some .folder := h.tree.get?_tail stands
      simpa [Route.address] using above
    have passes : w.Passes r.base (r.names ++ [shardName key]) := by
      refine h.tree.passes there fun name hname => ?_
      obtain hname | hname := List.mem_append.1 hname
      · exact reach.short name hname
      · obtain rfl := List.mem_singleton.1 hname
        exact hkey.short_shard
    have located : w.locate true (entryPath folder key) = .ok (entryAt r key) :=
      (h.locate_eq_ok hkey).2 ⟨reach.usable, passes, rfl⟩
    simp [World.read, located, found, bind, Except.bind, pure, Except.pure]

end IsPlain

/-! ## Looking up -/

/-- The answer in the content of an entry of a key. -/
def answerIn (key : String) (content : Bytes) : Option Answer :=
  (Text.ofBytes? content).bind fun text =>
    match Json.decode CacheEntry.decoder text with
    | .ok entry => if entry.fingerprint = key then some entry.answer else none
    | .error _ => none

/-- What is looked up is the answer in the file to which the path of the entry leads. -/
theorem lookup_eq (w : World) (folder : Path) (key : String) :
    lookup w folder key = (w.read (entryPath folder key)).toOption.bind (answerIn key) := by
  unfold lookup World.readText answerIn
  cases w.read (entryPath folder key) with
  | error fault => rfl
  | ok content =>
      simp only [bind, Except.bind, Except.toOption, Option.bind]
      cases Text.ofBytes? content <;> rfl

/-- A written entry is found by its fingerprint alone. -/
theorem lookup_of_read {entry : CacheEntry} (options : entry.options.Fits)
    (usage : entry.answer.usage.Fits)
    (read : w.read (entryPath folder key) = .ok (Text.bytes entry.toJson.page)) :
    lookup w folder key = if entry.fingerprint = key then some entry.answer else none := by
  have decoded := (CacheEntry.written options usage).decode_page
  simp [lookup_eq, read, Except.toOption, answerIn, decoded]

/-- Whether the file of a key holds an entry that carries the key, with the given answer. -/
def Holds (w : World) (folder : Path) (key : String) (answer : Answer) : Prop :=
  ∃ text entry, w.readText (entryPath folder key) = .ok text ∧
    Json.decode CacheEntry.decoder text = .ok entry ∧ entry.fingerprint = key ∧
      entry.answer = answer

theorem lookup_eq_some_iff {answer : Answer} :
    lookup w folder key = some answer ↔ Holds w folder key answer := by
  constructor
  · intro found
    unfold lookup at found
    split at found
    next => simp at found
    next text read =>
      split at found
      next entry decoded =>
        obtain ⟨same, rfl⟩ := by simpa using found
        exact ⟨text, entry, read, decoded, same, rfl⟩
      next => simp at found
  · rintro ⟨text, entry, read, decoded, same, rfl⟩
    simp [lookup, read, decoded, same]

/-- The answer to a key depends on nothing but what stands at the address of its entry. -/
theorem lookup_congr (h : IsPlain w avoided folder r) (h' : IsPlain w' avoided folder r)
    (hkey : IsKey key) (same : w'.get? (entryAt r key) = w.get? (entryAt r key)) :
    lookup w' folder key = lookup w folder key := by
  have reads : ∀ content, w'.read (entryPath folder key) = .ok content ↔
      w.read (entryPath folder key) = .ok content := by
    intro content
    rw [h.read_eq_ok hkey, h'.read_eq_ok hkey, same]
  have read : (w'.read (entryPath folder key)).toOption =
      (w.read (entryPath folder key)).toOption := by
    ext content
    cases hread : w.read (entryPath folder key) <;>
      cases hread' : w'.read (entryPath folder key) <;> simp_all [Except.toOption]
  rw [lookup_eq, lookup_eq, read]

/-! ## Storing -/

theorem entryAt_ne_front {front : List Bytes} (key : String)
    (hfront : front <+: r.names ++ [shardName other]) :
    entryAt r key ≠ front.reverse ++ r.base := by
  intro same
  have short := hfront.length_le
  have long := congrArg List.length same
  simp only [entryAt, Route.address, List.length_cons, List.length_append,
    List.length_reverse] at long
  simp only [List.length_append, List.length_singleton] at short
  omega

theorem IsPlain.makeFolders (h : IsPlain w avoided folder r) (hkey : IsKey key) :
    World.Paves avoided (r.into (shardName key)) w
      (w.makeFolders ((entryPath folder key).parent?.getD folder)).2 := by
  have above := Path.leadsAlong_parent (folder.join ⟨shardName key⟩) hkey.isName_file
  have steps : (entryPath folder key).steps ≠ [] := by
    rw [entryPath_eq, Path.steps_join_name hkey.isName_file]
    simp
  obtain ⟨parent, hparent⟩ := Option.isSome_iff_exists.1 (Path.isSome_parent? steps)
  rw [← entryPath_eq, hparent, Option.getD_some] at above
  rw [hparent, Option.getD_some]
  exact (h.takes.join hkey.isName_shard).paves above

/-- What storing an entry does when it succeeds. -/
structure Stores (avoided : Address) (folder : Path) (r : Route) (key : String) (content : Bytes)
    (w w' : World) : Prop where
  plain : IsPlain w' avoided folder r
  reach : IsInReach folder r key
  entry : w'.get? (entryAt r key) = some (.file content)
  others : ∀ other, other ≠ key → w'.get? (entryAt r other) = w.get? (entryAt r other)

/-- What is put at the path of an entry stands at its address. -/
theorem IsPlain.replaces (h : IsPlain w avoided folder r) (hkey : IsKey key)
    (replaced : w.replace (entryPath folder key) content = (.ok (), w')) :
    Stores avoided folder r key content w w' := by
  have tree := h.tree.replace replaced
  obtain ⟨a, located, noFolder, rfl⟩ := World.replace_eq_ok replaced
  obtain ⟨usable, passes, rfl⟩ := (h.locate_eq_ok hkey).1 located
  have noLink : ∀ target, w.get? (entryAt r key) ≠ some (.link target) :=
    h.takes.below [fileName key, shardName key]
  have kept : World.Keeps avoided w (w.put (entryAt r key) (.file content)) :=
    World.keeps_put noFolder noLink (by simp)
  refine ⟨⟨tree, h.takes.keeps kept⟩, ⟨usable, fun name hname => ?_⟩, ?_, ?_⟩
  · exact passes.short name (List.mem_append_left _ hname)
  · rw [World.get?_put _ _ _ (entryAt_ne_nil _), if_pos rfl]
  · intro other hother
    have differ : entryAt r other ≠ entryAt r key := fun same =>
      hother (fileName_injective (List.cons.inj same).1)
    rw [World.get?_put _ _ _ (entryAt_ne_nil _), if_neg differ]

theorem IsPlain.stores (h : IsPlain w avoided folder r) {entry : CacheEntry}
    (hkey : IsKey entry.fingerprint) (stored : store w folder entry = (.ok (), w')) :
    Stores avoided folder r entry.fingerprint (Text.bytes entry.toJson.page) w w' := by
  have paves := h.makeFolders hkey
  have grown := h.tree.makeFolders ((entryPath folder entry.fingerprint).parent?.getD folder)
  unfold store at stored
  rcases made : w.makeFolders ((entryPath folder entry.fingerprint).parent?.getD folder) with
    ⟨_ | ⟨⟩, w₁⟩
  · simp [made] at stored
  · rw [made] at paves grown
    simp only [made] at stored
    have plain : IsPlain w₁ avoided folder r := ⟨grown, h.takes.keeps paves.keeps⟩
    obtain ⟨plain', reach, found, others⟩ := plain.replaces hkey stored
    refine ⟨plain', reach, found, fun other hother => ?_⟩
    rw [others other hother]
    exact paves.same _ fun front => entryAt_ne_front other

namespace Stores

/-- The answer that was stored is found. -/
theorem lookup_self {entry : CacheEntry} (h : Stores avoided folder r entry.fingerprint
      (Text.bytes entry.toJson.page) w w') (hkey : IsKey entry.fingerprint)
    (options : entry.options.Fits) (usage : entry.answer.usage.Fits) :
    lookup w' folder entry.fingerprint = some entry.answer := by
  have read := (h.plain.read_eq_ok hkey).2 ⟨h.reach, h.entry⟩
  rw [lookup_of_read options usage read, if_pos rfl]

/-- The other answers are found as before. -/
theorem lookup_other (h : Stores avoided folder r key content w w')
    (plain : IsPlain w avoided folder r) (hother : IsKey other) (differ : other ≠ key) :
    lookup w' folder other = lookup w folder other :=
  lookup_congr plain h.plain hother (h.others other differ)

end Stores

end Mutagenesis.Cache
