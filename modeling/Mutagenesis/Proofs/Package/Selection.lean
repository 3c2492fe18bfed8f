import Mathlib.Data.List.Induction
import Mutagenesis.Proofs.Files.Lasting
import Mutagenesis.Proofs.Glob.Matching
import Mutagenesis.Proofs.Package

/-!
# The files that are selected

The names that lead through folders to a file are listed when none of them is skipped, and selected
when the globs say so. They come in the order of their names, so nothing depends on the order in
which a folder lists its entries.
-/
namespace Mutagenesis

namespace Package

open Files (Address World)

variable {w : World} {top : Address} {root : Path} {c : Config} {names : List Bytes}

/-- The order in which files are listed: that of the first names that differ, and of two such names
the first bytes that differ. -/
def namesLe : List Bytes → List Bytes → Bool := lexicalLe (lexicalLe fun a b => decide (a ≤ b))

theorem bytesLe_iff (a b : Bytes) :
    lexicalLe (fun a b : UInt8 => decide (a ≤ b)) a b = true ↔ a = b ∨ a < b := by
  refine lexicalLe_iff (fun a b differ => ?_) (fun a => ?_) a b
  · rw [decide_eq_true_iff, UInt8.le_iff_toNat_le, UInt8.lt_iff_toNat_lt]
    have : a.toNat ≠ b.toNat := fun same => differ (UInt8.toNat_inj.1 same)
    omega
  · exact UInt8.lt_irrefl a

theorem bytes_lt_irrefl (a : Bytes) : ¬a < a := List.lex_irrefl UInt8.lt_irrefl a

theorem bytes_lt_trans {a b c : Bytes} (hab : a < b) (hbc : b < c) : a < c :=
  List.lex_trans UInt8.lt_trans hab hbc

theorem bytes_eq_of_not_lt {a b : Bytes} (hab : ¬a < b) (hba : ¬b < a) : a = b := by
  refine List.lex_trichotomous (fun x y hxy hyx => ?_) hba hab
  exact UInt8.le_antisymm (UInt8.not_lt.1 hyx) (UInt8.not_lt.1 hxy)

theorem namesLe_iff (as bs : List Bytes) : namesLe as bs = true ↔ as = bs ∨ as < bs := by
  refine lexicalLe_iff (fun a b differ => ?_) bytes_lt_irrefl as bs
  rw [bytesLe_iff]
  simp [differ]

theorem names_lt_trans {as bs cs : List Bytes} (hab : as < bs) (hbc : bs < cs) : as < cs :=
  List.lex_trans bytes_lt_trans hab hbc

theorem namesLe_trans (as bs cs : List Bytes) (hab : namesLe as bs = true)
    (hbc : namesLe bs cs = true) : namesLe as cs = true := by
  rw [namesLe_iff] at *
  obtain rfl | hab := hab
  · exact hbc
  · obtain rfl | hbc := hbc
    · exact .inr hab
    · exact .inr (names_lt_trans hab hbc)

theorem namesLe_total (as bs : List Bytes) : (namesLe as bs || namesLe bs as) = true := by
  rw [Bool.or_eq_true, namesLe_iff, namesLe_iff]
  by_cases hab : as < bs
  · exact .inl (.inr hab)
  · by_cases hba : bs < as
    · exact .inr (.inr hba)
    · exact .inl (.inl (List.lex_trichotomous (fun _ _ => bytes_eq_of_not_lt) hba hab))

/-- The files below a folder come in the order of their names. -/
theorem pairwise_filesBelow (tree : w.IsTree) : (filesBelow w top).Pairwise (· < ·) := by
  have sorted : (filesBelow w top).Pairwise fun as bs => namesLe as bs = true :=
    List.pairwise_mergeSort namesLe_trans namesLe_total _
  refine sorted.imp₂ (fun as bs le differ => ?_) (nodup_filesBelow top tree)
  obtain rfl | lt := (namesLe_iff as bs).1 le
  · exact absurd rfl differ
  · exact lt

/-! ## The files below a folder -/

/-- Whether names lead from a folder through folders to a file. -/
inductive LeadsToFile (w : World) : Address → List Bytes → Prop where
  | file {folder : Address} {name content : Bytes}
      (found : w.get? (name :: folder) = some (.file content)) : LeadsToFile w folder [name]
  | folder {folder : Address} {name : Bytes} {rest : List Bytes}
      (found : w.get? (name :: folder) = some .folder)
      (more : LeadsToFile w (name :: folder) rest) : LeadsToFile w folder (name :: rest)

theorem LeadsToFile.get? (leads : LeadsToFile w top names) :
    ∃ content, w.get? (names.reverse ++ top) = some (.file content) := by
  induction leads with
  | @file folder name content found => exact ⟨content, found⟩
  | @folder folder name rest _ _ ih => simpa using ih

theorem leadsToFile_of_get? {content : Bytes} (tree : w.IsTree) (folder : w.get? top = some .folder)
    (found : w.get? (names.reverse ++ top) = some (.file content)) : LeadsToFile w top names := by
  induction names generalizing top with
  | nil => simp [folder] at found
  | cons name rest ih =>
      rw [List.reverse_cons, List.append_assoc, List.singleton_append] at found
      cases rest using List.reverseRecOn with
      | nil => exact .file found
      | append_singleton before last =>
          have inside : w.get? (name :: top) = some .folder := by
            rw [List.reverse_concat, List.cons_append] at found
            have above : w.get? (before.reverse ++ name :: top) = some .folder :=
              tree.get?_tail (by rw [found]; simp)
            exact tree.get?_of_append above
          exact .folder inside (ih inside found)

theorem namesFrom?_eq_some_iff {a : Address} :
    namesFrom? top a = some names ↔ a = names.reverse ++ top := by
  refine ⟨eq_append_of_namesFrom?, ?_⟩
  rintro rfl
  simp [namesFrom?, World.isWithin]

theorem fileBelow?_eq_some_iff {a : Address} {e : Files.Entry} :
    fileBelow? top (a, e) = some names ↔ (∃ content, e = .file content) ∧
      a = names.reverse ++ top ∧ ∀ name ∈ names, isSkippedName name = false := by
  cases e <;> simp [fileBelow?, Option.filter_eq_some_iff, namesFrom?_eq_some_iff]

theorem mem_filesBelow_iff (tree : w.IsTree) (folder : w.get? top = some .folder) :
    names ∈ filesBelow w top ↔
      LeadsToFile w top names ∧ ∀ name ∈ names, isSkippedName name = false := by
  rw [filesBelow, (List.mergeSort_perm ..).mem_iff, List.mem_filterMap]
  constructor
  · rintro ⟨⟨a, e⟩, listed, below⟩
    obtain ⟨⟨content, rfl⟩, rfl, kept⟩ := fileBelow?_eq_some_iff.1 below
    have found := (World.get?_eq_some_iff tree.distinct (tree.rooted _ listed)).2 listed
    exact ⟨leadsToFile_of_get? tree folder found, kept⟩
  · rintro ⟨leads, kept⟩
    obtain ⟨content, found⟩ := leads.get?
    have nonempty := World.ne_nil_of_get? (show w.get? (names.reverse ++ top) ≠ some .folder by
      simp [found])
    exact ⟨_, (World.get?_eq_some_iff tree.distinct nonempty).1 found,
      fileBelow?_eq_some_iff.2 ⟨⟨content, rfl⟩, rfl, kept⟩⟩

/-! ## The paths that the globs select -/

theorem isSkippedName_eq_false_iff {name : Bytes} :
    isSkippedName name = false ↔ name ∉ skippedNames.map Text.bytes := by
  simp [isSkippedName]

/-- Whether names lead from a folder to a file that a package counts as its own: no name is skipped,
and the path is a text that the first glob matches and the second does not. -/
structure IsWanted (w : World) (top : Address) (c : Config) (names : List Bytes) : Prop where
  leads : LeadsToFile w top names
  kept : ∀ name ∈ names, name ∉ skippedNames.map Text.bytes
  asked : ∃ text, Text.bytes text = Files.joined names ∧
    Glob.Matches (Text.trim c.mutate.toList) text ∧ ¬Glob.Matches (Text.trim c.ignore.toList) text

theorem isSelected_iff {mutate ignore : List Glob.Pattern} {bytes : Bytes}
    (hmutate : Glob.compile c.mutate = .ok mutate) (hignore : Glob.compile c.ignore = .ok ignore)
    (nonempty : bytes ≠ []) :
    isSelected mutate ignore ⟨bytes⟩ = true ↔ ∃ text, Text.bytes text = bytes ∧
      Glob.Matches (Text.trim c.mutate.toList) text ∧
      ¬Glob.Matches (Text.trim c.ignore.toList) text := by
  have selects (text : String) (same : Text.bytes text = bytes) :
      (Glob.selects mutate text && !Glob.selects ignore text) = true ↔
        Glob.Matches (Text.trim c.mutate.toList) text ∧
        ¬Glob.Matches (Text.trim c.ignore.toList) text := by
    have named : text ≠ "" := by
      rintro rfl
      exact nonempty same.symm
    rw [Bool.and_eq_true, Bool.not_eq_true', ← Bool.not_eq_true,
      Glob.selects_iff_matches hmutate named, Glob.selects_iff_matches hignore named]
  unfold isSelected Path.text?
  split
  next text found =>
    have same := Text.bytes_of_ofBytes? found
    rw [selects text same]
    constructor
    · exact fun asked => ⟨text, same, asked⟩
    · rintro ⟨text', same', asked⟩
      rwa [← Text.bytes_injective (same'.trans same.symm)]
  next noText =>
    constructor
    · simp
    · rintro ⟨text, rfl, -⟩
      simp at noText

theorem LeadsToFile.joined_ne_nil (tree : w.IsTree) (leads : LeadsToFile w top names) :
    Files.joined names ≠ [] := by
  intro empty
  have named : ∀ name ∈ names, Files.isName name = true := by
    obtain ⟨content, found⟩ := leads.get?
    intro name hname
    exact tree.named_of_get? (a := names.reverse ++ top) (by simp [found]) name (by simp [hname])
  obtain rfl : names = [] := Files.joined_injective named (by simp) empty
  cases leads

/-- The files that a package counts as its own. -/
def wanted (w : World) (top : Address) (mutate ignore : List Glob.Pattern) : List (List Bytes) :=
  (filesBelow w top).filter fun names => isSelected mutate ignore ⟨Files.joined names⟩

theorem mem_wanted_iff (tree : w.IsTree) (folder : w.get? top = some .folder)
    {mutate ignore : List Glob.Pattern} (hmutate : Glob.compile c.mutate = .ok mutate)
    (hignore : Glob.compile c.ignore = .ok ignore) :
    names ∈ wanted w top mutate ignore ↔ IsWanted w top c names := by
  rw [wanted, List.mem_filter, mem_filesBelow_iff tree folder]
  simp only [isSkippedName_eq_false_iff]
  constructor
  · rintro ⟨⟨leads, kept⟩, selected⟩
    exact ⟨leads, kept, (isSelected_iff hmutate hignore (leads.joined_ne_nil tree)).1 selected⟩
  · rintro ⟨leads, kept, asked⟩
    exact ⟨⟨leads, kept⟩, (isSelected_iff hmutate hignore (leads.joined_ne_nil tree)).2 asked⟩

theorem selectFiles_eq {mutate ignore : List Glob.Pattern}
    (hmutate : Glob.compile c.mutate = .ok mutate) (hignore : Glob.compile c.ignore = .ok ignore)
    (leads : w.locate true root = .ok top) (folder : w.get? top = some .folder) :
    selectFiles w root c =
      .ok ((wanted w top mutate ignore).map fun names => ⟨Files.joined names⟩) := by
  have top_eq : folderOf w root = .ok top := by
    simp [folderOf, World.list, leads, folder, bind, Except.bind, pure, Except.pure,
      Except.mapError]
  simp [selectFiles, Config.compileGlob, hmutate, hignore, top_eq, wanted, bind, Except.bind, pure,
    Except.pure, Except.mapError, List.filter_map, Function.comp_def]

/-! ## Orders of entries -/

theorem names_lt_irrefl (as : List Bytes) : ¬as < as := List.lex_irrefl bytes_lt_irrefl as

/-- In whichever order the entries of a tree are listed, the files below a folder are the same. -/
theorem filesBelow_relists {w' : World} (tree : w.IsTree) (relists : w.Relists w') :
    filesBelow w' top = filesBelow w top := by
  have same : (filesBelow w' top).Perm (filesBelow w top) :=
    (List.mergeSort_perm ..).trans
      ((relists.entries.filterMap _).trans (List.mergeSort_perm ..).symm)
  exact same.eq_of_pairwise
    (fun _ _ _ _ hab hba => absurd (names_lt_trans hab hba) (names_lt_irrefl _))
    (pairwise_filesBelow (relists.isTree tree)) (pairwise_filesBelow tree)

theorem selectFiles_relists {w' : World} (tree : w.IsTree) (relists : w.Relists w') (root : Path)
    (c : Config) : selectFiles w' root c = selectFiles w root c := by
  have same := relists.get?_eq tree
  have top_eq : folderOf w' root = folderOf w root := by
    simp only [folderOf, World.list, World.locate_congr same relists.home, same]
    cases w.locate true root with
    | error fault => rfl
    | ok a => cases found : w.get? a with
      | none => simp [found, bind, Except.bind, throw, throwThe, MonadExceptOf.throw]
      | some e => cases e <;> simp [found, bind, Except.bind, throw, throwThe, MonadExceptOf.throw,
          pure, Except.pure]
  simp only [selectFiles, top_eq, filesBelow_relists tree relists]

theorem load_relists {w' : World} (tree : w.IsTree) (relists : w.Relists w') (root : Path)
    (c : Config) : load w' root c = load w root c := by
  have read : readSource? w' root c = readSource? w root c := by
    funext p
    simp only [readSource?, World.readText_congr (relists.get?_eq tree) relists.home]
  simp only [load, read, selectFiles_relists tree relists]

/-! ## The files of a package -/

theorem lookup_extensions_iff {ending : String} {language : Language} :
    Language.extensions.lookup ending = some language ↔
      (ending, language) ∈ Language.extensions := by
  constructor
  · intro found
    obtain ⟨before, after, split, -⟩ := List.lookup_eq_some_iff.1 found
    rw [split]
    simp
  · intro listed
    simp only [Language.extensions, List.mem_cons, Prod.mk.injEq, List.not_mem_nil, or_false]
      at listed
    rcases listed with h | h | h | h | h | h | h | h | h | h
    all_goals
      obtain ⟨rfl, rfl⟩ := h
      rfl

/-- Whether the extension of the file to which names lead is one of a language. -/
def HasLanguage (names : List Bytes) (language : Language) : Prop :=
  ∃ ending, (⟨Files.joined names⟩ : Path).extension? = some (Text.bytes ending) ∧
    (ending, language) ∈ Language.extensions

theorem ofPath?_eq_some_iff {language : Language} :
    Language.ofPath? ⟨Files.joined names⟩ = some language ↔ HasLanguage names language := by
  simp only [Language.ofPath?, Option.bind_eq_some_iff, HasLanguage, lookup_extensions_iff]
  constructor
  · rintro ⟨ending, ⟨bytes, ext, found⟩, listed⟩
    exact ⟨ending, by rw [ext, Text.bytes_of_ofBytes? found], listed⟩
  · rintro ⟨ending, ext, listed⟩
    exact ⟨ending, ⟨_, ext, Text.ofBytes?_bytes ending⟩, listed⟩

/-- Whether a source file is what is read where names lead. -/
structure IsRead (w : World) (root : Path) (names : List Bytes) (file : SourceFile) : Prop where
  path : Text.bytes file.path = Files.joined names
  language : HasLanguage names file.language
  text : w.readText (root.join ⟨Files.joined names⟩) = .ok file.text

theorem readSource?_eq_some {file : SourceFile}
    (h : readSource? w root c ⟨Files.joined names⟩ = .ok (some file)) :
    IsRead w root names file := by
  unfold readSource? at h
  split at h
  next language name hlanguage hname =>
    split at h
    next text htext =>
      obtain rfl := Option.some.inj (Except.ok.inj h)
      exact ⟨Text.bytes_of_ofBytes? hname, ofPath?_eq_some_iff.1 hlanguage, htext⟩
    next => simp at h
  next => simp at h

/-- A file is read unless its extension is that of a language and it holds no text. -/
theorem exists_readSource?_iff {path : String} (named : Text.bytes path = Files.joined names) :
    (∃ read, readSource? w root c ⟨Files.joined names⟩ = .ok read) ↔
      ∀ language, HasLanguage names language →
        ∃ text, w.readText (root.join ⟨Files.joined names⟩) = .ok text := by
  have path_eq : (⟨Files.joined names⟩ : Path).text? = some path := by
    rw [Path.text?, ← named, Text.ofBytes?_bytes]
  simp only [← ofPath?_eq_some_iff, readSource?, path_eq]
  cases Language.ofPath? ⟨Files.joined names⟩ with
  | none => simp
  | some language => cases w.readText (root.join ⟨Files.joined names⟩) <;> simp

theorem not_hasLanguage_of_readSource? {path : String}
    (named : Text.bytes path = Files.joined names)
    (h : readSource? w root c ⟨Files.joined names⟩ = .ok none) (language : Language) :
    ¬HasLanguage names language := by
  have path_eq : (⟨Files.joined names⟩ : Path).text? = some path := by
    rw [Path.text?, ← named, Text.ofBytes?_bytes]
  rw [← ofPath?_eq_some_iff]
  intro found
  simp only [readSource?, path_eq, found] at h
  split at h <;> simp at h

/-- The files of a list whose extension is that of a language. -/
def supported (found : List (List Bytes)) : List (List Bytes) :=
  found.filter fun names => (Language.ofPath? ⟨Files.joined names⟩).isSome

theorem mem_supported_iff {found : List (List Bytes)} :
    names ∈ supported found ↔ names ∈ found ∧ ∃ language, HasLanguage names language := by
  simp only [supported, List.mem_filter, Option.isSome_iff_exists, ofPath?_eq_some_iff]

/-- Of the files that are read, those in a language are kept, in their order. -/
theorem forall₂_supported {found : List (List Bytes)} {read : List (Option SourceFile)}
    (named : ∀ names ∈ found, ∃ path, Text.bytes path = Files.joined names)
    (each : List.Forall₂ (fun names file => readSource? w root c ⟨Files.joined names⟩ = .ok file)
      found read) :
    List.Forall₂ (IsRead w root) (supported found) (read.filterMap id) := by
  induction each with
  | nil => exact .nil
  | @cons names file found read this _ ih =>
      rw [List.forall_mem_cons] at named
      obtain ⟨⟨path, hpath⟩, rest⟩ := named
      cases file with
      | none =>
          have noLanguage : Language.ofPath? ⟨Files.joined names⟩ = none := by
            rw [Option.eq_none_iff_forall_ne_some]
            exact fun language found =>
              not_hasLanguage_of_readSource? hpath this language (ofPath?_eq_some_iff.1 found)
          simpa [supported, noLanguage] using ih rest
      | some file =>
          have isRead := readSource?_eq_some this
          have language := ofPath?_eq_some_iff.2 isRead.language
          have first : supported (names :: found) = names :: supported found := by
            simp [supported, language]
          rw [first]
          exact .cons isRead (ih rest)

/-- The files of a package are those of the selected ones that are in a language, each read where
its names lead; there is nothing else that can go wrong. -/
theorem load_of_selectFiles {found : List (List Bytes)}
    (selected : selectFiles w root c = .ok (found.map fun names => ⟨Files.joined names⟩))
    (named : ∀ names ∈ found, ∃ path, Text.bytes path = Files.joined names) :
    ((∃ files, load w root c = .ok files) ↔ ∀ names ∈ supported found,
        ∃ text, w.readText (root.join ⟨Files.joined names⟩) = .ok text) ∧
      ∀ files, load w root c = .ok files →
        List.Forall₂ (IsRead w root) (supported found) files := by
  have loads : load w root c = (((found.map fun names => (⟨Files.joined names⟩ : Path)).mapM
      (readSource? w root c)).map fun files => files.filterMap id) := by
    rw [load, selected]
    simp only [bind, Except.bind, pure, Except.pure]
    cases (found.map fun names => (⟨Files.joined names⟩ : Path)).mapM (readSource? w root c) <;> rfl
  rw [loads]
  constructor
  · constructor
    · rintro ⟨files, h⟩ names hnames
      obtain ⟨read, hread, -⟩ := exists_of_map_eq_ok h
      rw [mapM_eq_ok, List.forall₂_map_left_iff] at hread
      obtain ⟨names_mem, language, hlanguage⟩ := mem_supported_iff.1 hnames
      obtain ⟨path, hpath⟩ := named names names_mem
      obtain ⟨file, -, hfile⟩ := exists_of_forall₂ hread.flip names_mem
      exact (exists_readSource?_iff hpath).1 ⟨file, hfile⟩ language hlanguage
    · intro readable
      have each : ∀ names ∈ found, ∃ read,
          readSource? w root c ⟨Files.joined names⟩ = .ok read := by
        intro names hnames
        obtain ⟨path, hpath⟩ := named names hnames
        exact (exists_readSource?_iff hpath).2 fun language hlanguage =>
          readable names (mem_supported_iff.2 ⟨hnames, language, hlanguage⟩)
      obtain ⟨read, hread⟩ := exists_forall₂ each
      rw [mapM_eq_ok.2 (List.forall₂_map_left_iff.2 hread)]
      exact ⟨_, rfl⟩
  · intro files h
    obtain ⟨read, hread, rfl⟩ := exists_of_map_eq_ok h
    rw [mapM_eq_ok, List.forall₂_map_left_iff] at hread
    exact forall₂_supported named hread

/-- The files of a package are exactly those that lead through folders to a file, under names that
are not skipped, and whose path the first glob matches and the second does not, blanks around a glob
apart. They come once each, in the order of their paths, and in whichever order folders list their
entries. Those in a language are then read, in that order. -/
theorem selection_exact {mutate ignore : List Glob.Pattern} (tree : w.IsTree)
    (leads : w.locate true root = .ok top) (folder : w.get? top = some .folder)
    (hmutate : Glob.compile c.mutate = .ok mutate) (hignore : Glob.compile c.ignore = .ok ignore) :
    ∃ found : List (List Bytes),
      selectFiles w root c = .ok (found.map fun names => ⟨Files.joined names⟩) ∧
      found.Pairwise (· < ·) ∧ (found.map Files.joined).Nodup ∧
      (∀ names, names ∈ found ↔ IsWanted w top c names) ∧
      (∀ w', w.Relists w' →
        selectFiles w' root c = selectFiles w root c ∧ load w' root c = load w root c) ∧
      ∃ inLanguage : List (List Bytes), inLanguage.Sublist found ∧
        (∀ names ∈ found, names ∈ inLanguage ↔ ∃ language, HasLanguage names language) ∧
        ((∃ files, load w root c = .ok files) ↔ ∀ names ∈ inLanguage,
          ∃ text, w.readText (root.join ⟨Files.joined names⟩) = .ok text) ∧
        ∀ files, load w root c = .ok files → List.Forall₂ (IsRead w root) inLanguage files := by
  have selected := selectFiles_eq hmutate hignore leads folder
  have members (names : List Bytes) :
      names ∈ wanted w top mutate ignore ↔ IsWanted w top c names :=
    mem_wanted_iff tree folder hmutate hignore
  have sorted : (wanted w top mutate ignore).Pairwise (· < ·) :=
    (pairwise_filesBelow tree).filter _
  have named : ∀ names ∈ wanted w top mutate ignore,
      ∃ path, Text.bytes path = Files.joined names := by
    intro names hnames
    obtain ⟨path, hpath, -⟩ := ((members names).1 hnames).asked
    exact ⟨path, hpath⟩
  refine ⟨wanted w top mutate ignore, selected, sorted, ?_, members, ?_,
    supported (wanted w top mutate ignore), List.filter_sublist, ?_,
    load_of_selectFiles selected named⟩
  · refine List.Nodup.map_on ?_ ((nodup_filesBelow top tree).filter _)
    intro names hnames names' hnames' same
    exact Files.joined_injective (isName_of_mem_filesBelow tree (List.mem_of_mem_filter hnames))
      (isName_of_mem_filesBelow tree (List.mem_of_mem_filter hnames')) same
  · exact fun w' relists =>
      ⟨selectFiles_relists tree relists root c, load_relists tree relists root c⟩
  · intro names hnames
    rw [mem_supported_iff]
    exact and_iff_right hnames

/-- A folder with two files, a third one below a folder that is skipped, and a link to the first. -/
def mixed : World where
  entries := [([Text.bytes "b.js"], .file []), ([Text.bytes "notes.txt"], .file []),
    ([Text.bytes "dist"], .folder), ([Text.bytes "c.js", Text.bytes "dist"], .file []),
    ([Text.bytes "a.js"], .link (.ofString "b.js"))]
  home := []

def mixedConfig (mutate : String) : Config := { Config.standard with mutate := mutate }

theorem selection_exact_of_mixed :
    ∃ found : List (List Bytes),
      selectFiles mixed (.ofString "/") (mixedConfig "\x7b*.txt,**/*.js\x7d") =
        .ok (found.map fun names => ⟨Files.joined names⟩) ∧ found.Pairwise (· < ·) ∧
      ∀ names, names ∈ found ↔
        IsWanted mixed [] (mixedConfig "\x7b*.txt,**/*.js\x7d") names := by
  obtain ⟨found, selected, sorted, -, members, -⟩ :=
    @selection_exact mixed [] (.ofString "/") (mixedConfig "\x7b*.txt,**/*.js\x7d")
      [⟨"*.txt", [.star, .char '.', .char 't', .char 'x', .char 't']⟩,
        ⟨"**/*.js", [.names, .star, .char '.', .char 'j', .char 's']⟩,
        ⟨"*.js", [.star, .char '.', .char 'j', .char 's']⟩] []
      (by decide +kernel) (by decide +kernel) rfl (by decide +kernel) rfl
  exact ⟨found, selected, sorted, members⟩

/-- The blanks around a glob are left out before it is matched: with a blank before its name a file
is selected which the glob as it is written does not match. -/
theorem selectFiles_of_blank :
    selectFiles mixed (.ofString "/") (mixedConfig " b.js") = .ok [.ofString "b.js"] ∧
      ¬Glob.Matches " b.js".toList "b.js" := by
  constructor
  · have below : filesBelow mixed [] = [[Text.bytes "b.js"], [Text.bytes "notes.txt"]] :=
      List.mergeSort_of_pairwise (by decide +kernel)
    have compiled : Glob.compile " b.js" = .ok [⟨"b.js", [.char 'b', .char '.', .char 'j',
      .char 's']⟩] := by decide +kernel
    have selected := @selectFiles_eq mixed [] (.ofString "/") (mixedConfig " b.js") _ [] compiled
      rfl rfl rfl
    rw [selected, wanted, below]
    decide +kernel
  rintro ⟨text, text_mem, p, compiled, accepted⟩
  have itself : Glob.expandBraces " b.js".toList = [" b.js".toList] := by decide +kernel
  have tokens : Glob.Pattern.compile " b.js" =
      .ok ⟨" b.js", [.char ' ', .char 'b', .char '.', .char 'j', .char 's']⟩ := by decide +kernel
  rw [itself, List.mem_singleton] at text_mem
  subst text_mem
  obtain rfl := Except.ok.inj (tokens.symm.trans compiled)
  revert accepted
  decide

end Package

end Mutagenesis
