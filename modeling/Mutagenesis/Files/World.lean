import Mutagenesis.Files.Path

/-!
# Worlds of files

A world is everything that files hold at one time: a finite table from addresses to entries. An
address lists the names that lead to an entry, the last name first, so that the folder of an entry
is the tail of its address. The root is the empty address and always a folder. `get?` is the view
of a world, and each operation says what it does to that view.
-/
namespace Mutagenesis.Files

/-- The names that lead from the root to an entry, the last one first. -/
abbrev Address := List Bytes

/-- What stands at an address. -/
inductive Entry where
  | file (content : Bytes)
  /-- A symbolic link. -/
  | link (target : Path)
  | folder
  deriving DecidableEq, Repr

/-- The files at one time. -/
structure World where
  entries : List (Address × Entry)
  /-- The folder at which relative paths start. -/
  home : Address
  deriving DecidableEq, Repr

namespace World

/-- What stands at an address. -/
def get? (w : World) (a : Address) : Option Entry :=
  if a = [] then some .folder else w.entries.lookup a

/-- The world with another entry at an address. -/
def put (w : World) (a : Address) (e : Entry) : World :=
  { w with entries := (a, e) :: w.entries.filter fun x => x.1 ≠ a }

/-- The world without the entries of the addresses that the test accepts. -/
def remove (w : World) (gone : Address → Bool) : World :=
  { w with entries := w.entries.filter fun x => !gone x.1 }

/-- The world without the entry at an address. -/
def erase (w : World) (a : Address) : World := w.remove (· = a)

/-- Whether an address is the given one or lies below it. -/
def isWithin (top a : Address) : Bool := top.isSuffixOf a

/-- The world without an entry and all that lies below it. -/
def eraseTree (w : World) (a : Address) : World := w.remove (isWithin a)

/-- The name of an address in a folder, if it is one. -/
def nameIn? (folder : Address) : Address → Option Bytes
  | [] => none
  | name :: above => if above = folder then some name else none

/-- The names in a folder. -/
def names (w : World) (folder : Address) : List Bytes :=
  w.entries.filterMap fun x => nameIn? folder x.1

/-- Looking up a key in a table of which entries were left out. -/
theorem lookup_filter {α β : Type} [BEq α] [LawfulBEq α] (entries : List (α × β))
    (keep : α → Bool) (a : α) :
    (entries.filter fun x => keep x.1).lookup a =
      if keep a then entries.lookup a else none := by
  induction entries with
  | nil => simp
  | cons x entries ih =>
      obtain ⟨b, e⟩ := x
      simp only [List.filter_cons]
      by_cases same : a = b
      · subst same
        cases kept : keep a
        · simp only [kept] at ih
          simpa using ih
        · simp
      · have differs : (a == b) = false := by simpa using same
        cases kept : keep b
        · simp only [List.lookup_cons, differs]
          simpa using ih
        · simp only [List.lookup_cons, differs, if_true]
          exact ih

theorem get?_put (w : World) {a : Address} (e : Entry) (b : Address) (ha : a ≠ []) :
    (w.put a e).get? b = if b = a then some e else w.get? b := by
  unfold get? put
  by_cases hb : b = []
  · subst hb
    simp [Ne.symm ha]
  · by_cases hba : b = a
    · subst hba
      simp [hb]
    · have hne : (b == a) = false := by simpa using hba
      have := lookup_filter w.entries (fun x => decide (x ≠ a)) b
      simp only [hb, if_false, List.lookup_cons, hne, hba]
      simpa [hba] using this

theorem get?_remove (w : World) (gone : Address → Bool) (b : Address) :
    (w.remove gone).get? b = if b ≠ [] ∧ gone b then none else w.get? b := by
  unfold get? remove
  by_cases hb : b = []
  · simp [hb]
  · have := lookup_filter w.entries (fun x => !gone x) b
    simp only [hb, if_false, ne_eq, not_false_eq_true, true_and]
    rw [this]
    cases gone b <;> simp

@[simp] theorem home_put (w : World) (a : Address) (e : Entry) : (w.put a e).home = w.home := rfl

@[simp] theorem home_remove (w : World) (gone : Address → Bool) :
    (w.remove gone).home = w.home := rfl

end World

end Mutagenesis.Files
