import Mutagenesis.Proofs.Files.Growth

/-!
# Where paths keep leading

Where a path leads depends on nothing but what stands at each address. Without links it keeps
leading there while folders stay: it passes through folders alone, whatever comes to stand at its
end.
-/
namespace Mutagenesis

/-- A path that goes on by a name has the name as its last piece. -/
theorem Path.exists_pieces_join {name : Bytes} (h : Files.isName name = true) (p : Path) :
    ∃ front, Files.pieces (p.join ⟨name⟩).bytes = front ++ [name] := by
  rw [join_eq p (isAbsolute_of_isName h)]
  obtain ⟨hopened, -⟩ | ⟨bs, hopened, -⟩ := p.opened_eq
  · exact ⟨[], by simp [hopened, pieces_of_isName h]⟩
  · refine ⟨Files.pieces bs, ?_⟩
    rw [hopened, List.append_assoc, List.singleton_append, Files.pieces_append_slash,
      pieces_of_isName h]

namespace Files.World

variable {w w' : World} {follow : Bool} {at' a : Address} {ps : List Bytes} {p : Path}
  {content : Bytes}

/-! ## Worlds with the same entries -/

theorem walk_congr (same : ∀ a, w'.get? a = w.get? a)
    (onLink : Address → Path → List Bytes → Except Fault Address) (at' : Address)
    (ps : List Bytes) : w'.walk follow onLink at' ps = w.walk follow onLink at' ps := by
  induction ps generalizing at' with
  | nil => rfl
  | cons piece rest ih => simp only [walk, same, ih]

theorem throughLink_congr (same : ∀ a, w'.get? a = w.get? a) (n : Nat) :
    w'.throughLink follow n = w.throughLink follow n := by
  induction n with
  | zero => rfl
  | succ n ih =>
      funext at' target rest
      rw [throughLink, throughLink, ih, walk_congr same]

theorem locate_congr (same : ∀ a, w'.get? a = w.get? a) (home : w'.home = w.home) (follow : Bool)
    (p : Path) : w'.locate follow p = w.locate follow p := by
  simp only [locate, home, throughLink_congr same, walk_congr same]

theorem readText_congr (same : ∀ a, w'.get? a = w.get? a) (home : w'.home = w.home) (p : Path) :
    w'.readText p = w.readText p := by
  simp only [readText, World.read, locate_congr same home, same]

/-! ## Worlds without links -/

/-- Whether no link stands anywhere. -/
def LinkFree (w : World) : Prop := ∀ a target, w.get? a ≠ some (.link target)

theorem linkFree_of_hasNoLinks (h : w.hasNoLinks = true) : w.LinkFree := get?_ne_link h

namespace LinkFree

theorem put {e : Entry} (h : w.LinkFree) (nonempty : a ≠ []) (he : ∀ target, e ≠ .link target) :
    (w.put a e).LinkFree := by
  intro b target
  rw [get?_put w e b nonempty]
  split
  next => exact fun same => he target (Option.some.inj same)
  next => exact h b target

theorem remove (h : w.LinkFree) (gone : Address → Bool) : (w.remove gone).LinkFree :=
  fun b target found => h b target (get?_remove_eq_some found)

theorem makeFolders (h : w.LinkFree) (p : Path) : (w.makeFolders p).2.LinkFree := by
  refine makeFirst_induction (fun {w₁ _ _} _ _ kept made => ?_) h
  obtain ⟨b, -, free, rfl⟩ := makeFolder_eq_ok made
  have noFolder : w₁.get? b ≠ some .folder := by simp [free]
  exact kept.put (ne_nil_of_get? noFolder) (by simp)

theorem write (h : w.LinkFree) (written : w.write p content = .ok w') : w'.LinkFree := by
  obtain ⟨b, -, noFolder, rfl⟩ := write_eq_ok written
  exact h.put (ne_nil_of_get? noFolder) (by simp)

theorem removeFile (h : w.LinkFree) (removed : w.removeFile p = .ok w') : w'.LinkFree := by
  obtain ⟨b, -, -, rfl⟩ := removeFile_eq_ok removed
  exact h.remove _

theorem removeTree (h : w.LinkFree) (removed : w.removeTree p = .ok w') : w'.LinkFree := by
  cases located : w.locate false p with
  | error fault => simp [World.removeTree, located, bind, Except.bind] at removed
  | ok b =>
      simp only [World.removeTree, located, bind, Except.bind] at removed
      split at removed
      next => exact Except.ok.inj removed ▸ h.remove _
      next => simp at removed
      next => exact Except.ok.inj removed ▸ h.remove _
      next => simp at removed

end LinkFree

/-- A name at the end is arrived at whatever stands there, for it is no link. -/
theorem walk_last (linkFree : w.LinkFree)
    {onLink : Address → Path → List Bytes → Except Fault Address} {piece : Bytes}
    (idle : isIdle piece = false) (up : isUp piece = false) (short : piece.length ≤ nameLimit)
    (at' : Address) : w.walk follow onLink at' [piece] = .ok (piece :: at') := by
  rw [walk]
  simp only [idle, up, Nat.not_lt.2 short, Bool.false_eq_true, if_false]
  cases found : w.get? (piece :: at') with
  | none => rfl
  | some e =>
      cases e with
      | link target => exact absurd found (linkFree _ target)
      | _ => rfl

/-- A walk to a name ends at an address with this name. -/
theorem walk_concat_eq_ok (linkFree : w.LinkFree)
    {onLink : Address → Path → List Bytes → Except Fault Address} {name : Bytes}
    (hname : isName name = true) (walked : w.walk follow onLink at' (ps ++ [name]) = .ok a) :
    ∃ above, a = name :: above := by
  induction ps generalizing at' with
  | nil =>
      by_cases short : nameLimit < name.length
      · simp [walk, isIdle_of_isName hname, isUp_of_isName hname, short] at walked
      rw [List.nil_append, walk_last linkFree (isIdle_of_isName hname) (isUp_of_isName hname)
        (Nat.not_lt.1 short)] at walked
      exact ⟨at', (Except.ok.inj walked).symm⟩
  | cons piece rest ih =>
      have more : (rest ++ [name]).isEmpty = false := by simp
      have some_step : (rest ++ [name]).all (·.isEmpty) = false := by
        simp [ne_nil_of_isName hname]
      rw [List.cons_append, walk] at walked
      split at walked
      next => exact ih walked
      next =>
        split at walked
        next => exact ih walked
        next =>
          split at walked
          next => simp at walked
          next =>
            split at walked
            next => simp [some_step] at walked
            next => exact ih walked
            next => simp [more] at walked
            next target found => exact absurd found (linkFree _ target)

/-- A path that goes on by a name leads to an address with this name. -/
theorem locate_join_eq_ok (linkFree : w.LinkFree) {name : Bytes} (hname : isName name = true)
    (located : w.locate follow (p.join ⟨name⟩) = .ok a) : ∃ above, a = name :: above := by
  have nonempty := bytes_join_ne_nil p hname
  have usable := isUsable_of_locate nonempty located (by simp) (by simp)
  obtain ⟨front, ends⟩ := Path.exists_pieces_join hname p
  rw [locate_eq follow usable nonempty, ends] at located
  exact walk_concat_eq_ok linkFree hname located

/-! ## Worlds whose folders stay -/

/-- Whether a world has the folders of another one, and neither has a link. -/
structure Lasts (w w' : World) : Prop where
  home : w'.home = w.home
  folders : ∀ b, w.get? b = some .folder → w'.get? b = some .folder
  linkFree : w.LinkFree
  linkFree' : w'.LinkFree

theorem Lasts.trans {w'' : World} (h : Lasts w w') (h' : Lasts w' w'') : Lasts w w'' :=
  ⟨h'.home.trans h.home, fun b found => h'.folders b (h.folders b found), h.linkFree, h'.linkFree'⟩

namespace Lasts

/-- Making folders takes none away. -/
theorem makeFolders (linkFree : w.LinkFree) (p : Path) : Lasts w (w.makeFolders p).2 :=
  ⟨(@keeps_makeFolders [] w p).home, fun _ found => get?_makeFolders p found, linkFree,
    linkFree.makeFolders p⟩

/-- A file that takes no place of a folder takes none away. -/
theorem put (linkFree : w.LinkFree) (noFolder : w.get? a ≠ some .folder) :
    Lasts w (w.put a (.file content)) := by
  have nonempty := ne_nil_of_get? noFolder
  exact ⟨rfl, fun b found => get?_put_folder nonempty (absurd · noFolder) found, linkFree,
    linkFree.put nonempty (by simp)⟩

/-- A walk ends where it did if its last piece is a step. -/
theorem walk_eq_ok (h : Lasts w w')
    {onLink onLink' : Address → Path → List Bytes → Except Fault Address}
    (firm : ps = [] ∨ isFirm ps = true) (walked : w.walk follow onLink at' ps = .ok a) :
    w'.walk follow onLink' at' ps = .ok a := by
  induction ps generalizing at' with
  | nil => exact walked
  | cons piece rest ih =>
      have firm := isFirm_of_cons (firm.resolve_left (List.cons_ne_nil piece rest))
      cases idle : isIdle piece with
      | true =>
          simp only [walk, idle, if_true] at walked ⊢
          exact ih firm walked
      | false =>
          cases up : isUp piece with
          | true =>
              simp only [walk, idle, up, if_true] at walked ⊢
              exact ih firm walked
          | false =>
              by_cases short : nameLimit < piece.length
              · simp [walk, idle, up, short] at walked
              obtain rfl | firm := firm
              · rw [walk_last h.linkFree idle up (Nat.not_lt.1 short)] at walked
                rw [walk_last h.linkFree' idle up (Nat.not_lt.1 short), walked]
              · -- more is to come, so the walk goes on through a folder
                have more := List.isEmpty_eq_false_iff.2 (ne_nil_of_isFirm firm)
                cases found : w.get? (piece :: at') with
                | none =>
                    simp [walk, idle, up, short, found, all_isEmpty_eq_false firm] at walked
                | some e =>
                    cases e with
                    | file content => simp [walk, idle, up, short, found, more] at walked
                    | link target => exact absurd found (h.linkFree _ target)
                    | folder =>
                        simp only [walk, idle, up, short, found, h.folders _ found,
                          Bool.false_eq_true, if_false] at walked ⊢
                        exact ih (.inr firm) walked

theorem locate_eq_ok (h : Lasts w w') (firm : isFirm (pieces p.bytes) = true)
    (located : w.locate follow p = .ok a) : w'.locate follow p = .ok a := by
  have nonempty : p.bytes ≠ [] := by
    intro empty
    simp [empty, pieces, isFirm, isIdle] at firm
  have usable := isUsable_of_locate nonempty located (by simp) (by simp)
  rw [locate_eq follow usable nonempty] at located ⊢
  rw [h.home]
  exact h.walk_eq_ok (.inr firm) located

/-- What a path led to is read later from what stands there then. -/
theorem read_eq_ok (h : Lasts w w') (firm : isFirm (pieces p.bytes) = true)
    (located : w.locate true p = .ok a) (found : w'.get? a = some (.file content)) :
    w'.read p = .ok content := by
  simp [World.read, h.locate_eq_ok firm located, found, bind, Except.bind, pure, Except.pure]

end Lasts

end Files.World

end Mutagenesis
