import Mutagenesis.Glob.Pattern
import Mutagenesis.Text.Characters

/-!
# Compiled globs

A glob may hold alternatives in braces, `{a,b}`. It stands for the patterns without braces that come
of choosing one alternative from each pair: the choices of the first pair vary slowest. A brace
without its partner is an ordinary character.

A glob selects the paths that one of its patterns accepts. Blanks around it do not count, and a
blank glob selects nothing. A pattern that begins with any names is compiled a second time without
them.
-/
namespace Mutagenesis.Glob

open Text (splitOn)

/-- The text before, within and after the first pair of braces: the first opening one and the
first closing one behind it. -/
def firstBraces? (pattern : List Char) : Option (List Char × List Char × List Char) :=
  match pattern.dropWhile (· ≠ '\x7b') with
  | [] => none
  | _ :: rest =>
      match rest.dropWhile (· ≠ '\x7d') with
      | [] => none
      | _ :: after => some (pattern.takeWhile (· ≠ '\x7b'), rest.takeWhile (· ≠ '\x7d'), after)

theorem firstBraces?_eq_some {pattern before inside after : List Char}
    (h : firstBraces? pattern = some (before, inside, after)) :
    pattern = before ++ '\x7b' :: inside ++ '\x7d' :: after ∧ '\x7d' ∉ inside := by
  unfold firstBraces? at h
  split at h
  · simp at h
  · rename_i x rest hrest
    split at h
    · simp at h
    · rename_i y after' hafter
      simp only [Option.some.injEq, Prod.mk.injEq] at h
      obtain ⟨rfl, rfl, rfl⟩ := h
      have hx : x = '\x7b' := by
        have := List.head?_dropWhile_not (fun c : Char => decide (c ≠ '\x7b')) pattern
        rw [hrest] at this
        simpa using this
      have hy : y = '\x7d' := by
        have := List.head?_dropWhile_not (fun c : Char => decide (c ≠ '\x7d')) rest
        rw [hafter] at this
        simpa using this
      subst hx hy
      constructor
      · have h1 := (List.takeWhile_append_dropWhile (p := (fun c : Char => decide (c ≠ '\x7b')))
          (l := pattern)).symm
        have h2 := (List.takeWhile_append_dropWhile (p := (fun c : Char => decide (c ≠ '\x7d')))
          (l := rest)).symm
        rw [hrest] at h1
        rw [hafter] at h2
        rw [h2] at h1
        simpa using h1
      · intro hmem
        have := List.all_takeWhile (p := (fun c : Char => decide (c ≠ '\x7d'))) (l := rest)
        rw [List.all_eq_true] at this
        simpa using this _ hmem

/-- A piece holds only characters of the text that was split. -/
theorem mem_of_mem_splitOn {sep : Char} {cs piece : List Char} (h : piece ∈ splitOn sep cs)
    {c : Char} (hc : c ∈ piece) : c ∈ cs := by
  induction cs generalizing piece with
  | nil =>
      simp only [splitOn, List.mem_singleton] at h
      simp [h] at hc
  | cons d ds ih =>
      simp only [splitOn] at h
      split at h
      · rcases List.mem_cons.1 h with rfl | h
        · simp at hc
        · exact List.mem_cons_of_mem _ (ih h hc)
      · split at h
        · rename_i hs
          exact absurd hs (Text.splitOn_ne_nil _ _)
        · rename_i first more hs
          rcases List.mem_cons.1 h with rfl | h
          · rcases List.mem_cons.1 hc with rfl | hc
            · exact List.mem_cons_self
            · exact List.mem_cons_of_mem _ (ih (hs ▸ List.mem_cons_self) hc)
          · exact List.mem_cons_of_mem _ (ih (hs ▸ List.mem_cons_of_mem _ h) hc)

/-- The patterns without braces that a glob stands for. Each step removes a closing brace, for an
alternative holds none. -/
def expandBraces (pattern : List Char) : List (List Char) :=
  match _h : firstBraces? pattern with
  | none => [pattern]
  | some (before, inside, after) =>
      (splitOn ',' inside).attach.flatMap fun alternative =>
        expandBraces (before ++ alternative.1 ++ after)
termination_by pattern.count '\x7d'
decreasing_by
  obtain ⟨rfl, hin⟩ := firstBraces?_eq_some _h
  have halt : '\x7d' ∉ alternative.1 := fun hc => hin (mem_of_mem_splitOn alternative.2 hc)
  simp [List.count_append, List.count_eq_zero_of_not_mem halt]
  omega

/-- What begins a pattern that starts with any names. -/
def anyNames : List Char := ['*', '*', '/']

/-- The texts to compile for a pattern without braces. -/
def variants (pattern : List Char) : List (List Char) :=
  pattern :: (Text.dropPrefix? anyNames pattern).toList

/-- The patterns of a glob, or the fault of the first that is none. -/
def compile (glob : String) : Except PatternFault (List Pattern) :=
  let trimmed := Text.trim glob.toList
  if trimmed.isEmpty then .ok []
  else ((expandBraces trimmed).flatMap variants).mapM fun text =>
    Pattern.compile (String.ofList text)

/-- Whether one of the patterns accepts the path. -/
def selects (patterns : List Pattern) (path : String) : Bool := patterns.any (·.accepts path)

end Mutagenesis.Glob
