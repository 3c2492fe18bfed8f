import Mutagenesis.Glob.Compile
import Mutagenesis.Proofs.Results

/-!
# What globs select

A glob selects a path when one of the patterns that it stands for accepts it. A pattern that begins
with any names is compiled a second time without them; that selects nothing more, for no names are
any names as well.
-/
namespace Mutagenesis.Glob

variable {glob path : String} {cs : List Char} {ts : List Token} {patterns : List Pattern}
  {fills : Bool}

/-- Whether a glob without blanks around it matches a path: one of the patterns that it stands for
does. -/
def Matches (glob : List Char) (path : String) : Prop :=
  ∃ text ∈ expandBraces glob, ∃ p, Pattern.compile (String.ofList text) = .ok p ∧
    p.accepts path = true

/-! ## Where a pattern begins -/

theorem starsToken_eq_ok {i : Nat} (j : Nat) {count : Nat} {rest : List Char} {x : Token × Nat}
    (h : starsToken i fills count rest = .ok x) : starsToken j fills count rest = .ok x := by
  unfold starsToken at h ⊢
  by_cases many : 2 < count
  · rw [if_pos many] at h
    cases h
  rw [if_neg many] at h ⊢
  by_cases one : count < 2
  · rwa [if_pos one] at h ⊢
  rw [if_neg one] at h ⊢
  cases fills with
  | false => cases h
  | true =>
      cases rest with
      | nil => exact h
      | cons c cs =>
          by_cases slash : c = '/'
          · simpa [slash] using h
          · simp [slash] at h

/-- The tokens of a text do not depend on how many characters stand before it. -/
theorem tokensFrom_eq_ok {i : Nat} (j : Nat) (h : tokensFrom i fills cs = .ok ts) :
    tokensFrom j fills cs = .ok ts := by
  fun_induction tokensFrom i fills cs generalizing j ts with
  | case1 => simpa [tokensFrom] using h
  | case2 index fills rest ih =>
      obtain ⟨more, tokens, rfl⟩ := exists_of_map_eq_ok h
      simp [tokensFrom, ih (j + 1) tokens, Except.map]
  | case3 => simp at h
  | case4 index fills rest count token taken stars =>
      rename_i ih
      obtain ⟨more, tokens, rfl⟩ := exists_of_map_eq_ok h
      have stars' := starsToken_eq_ok j stars
      have tokens' := ih (j + taken) tokens
      simp only [count] at stars' tokens'
      rw [tokensFrom]
      simp only [stars', tokens', Except.map]
  | case5 => simp at h
  | case6 index fills rest inside after body ih =>
      obtain ⟨more, tokens, rfl⟩ := exists_of_map_eq_ok h
      rw [tokensFrom]
      split
      · simp_all
      · rename_i body'
        obtain ⟨rfl, rfl⟩ : inside = _ ∧ after = _ := by simpa [body] using body'
        simp only [ih _ tokens, Except.map]
  | case7 => simp at h
  | case8 index fills rest unnegated inside after body ih =>
      obtain ⟨more, tokens, rfl⟩ := exists_of_map_eq_ok h
      rw [tokensFrom]
      · split
        · simp_all
        · rename_i body'
          obtain ⟨rfl, rfl⟩ : inside = _ ∧ after = _ := by simpa [body] using body'
          simp only [ih _ tokens, Except.map]
      · exact unnegated
  | case9 index fills c rest noQuestion noStar noNegation noClass ih =>
      obtain ⟨more, tokens, rfl⟩ := exists_of_map_eq_ok h
      rw [tokensFrom, ih _ tokens, Except.map]
      all_goals assumption

/-! ## Patterns that begin with any names -/

theorem tokensFrom_anyNames {rest : List Char} (h : tokensFrom 0 true (anyNames ++ rest) = .ok ts) :
    ∃ more, tokensFrom 0 true rest = .ok more ∧ ts = .names :: more := by
  have unfolded : tokensFrom 0 true (anyNames ++ rest) =
      (tokensFrom 3 true rest).map (.names :: ·) := by
    change tokensFrom 0 true ('*' :: '*' :: '/' :: rest) = _
    rw [tokensFrom]
    simp [starsToken]
  rw [unfolded] at h
  obtain ⟨more, tokens, rfl⟩ := exists_of_map_eq_ok h
  exact ⟨more, tokensFrom_eq_ok 0 tokens, rfl⟩

/-- Without the names that a pattern begins with, it accepts nothing that it does not accept with
them. -/
theorem accepts_of_anyNames {rest : List Char} {p q : Pattern}
    (whole : Pattern.compile (String.ofList (anyNames ++ rest)) = .ok p)
    (part : Pattern.compile (String.ofList rest) = .ok q) (accepted : q.accepts path = true) :
    p.accepts path = true := by
  obtain ⟨ts, wholeTokens, rfl⟩ := exists_of_map_eq_ok whole
  obtain ⟨us, partTokens, rfl⟩ := exists_of_map_eq_ok part
  rw [String.toList_ofList] at wholeTokens partTokens
  obtain ⟨more, moreTokens, rfl⟩ := tokensFrom_anyNames wholeTokens
  obtain rfl : us = more := Except.ok.inj (partTokens.symm.trans moreTokens)
  have rest : matchesAll us path.toList = true := accepted
  simp [Pattern.accepts, matchesAll, rest]

theorem mem_variants {text pattern : List Char} (h : text ∈ variants pattern) :
    text = pattern ∨ pattern = anyNames ++ text := by
  rcases List.mem_cons.1 h with rfl | h
  · exact .inl rfl
  · exact .inr (Text.dropPrefix?_eq_some_iff.1 (Option.mem_toList.1 h))

/-! ## Compiled globs -/

theorem exists_compiled_of_mem {texts : List (List Char)} {text : List Char}
    (compiled : texts.mapM (fun text => Pattern.compile (String.ofList text)) = .ok patterns)
    (text_mem : text ∈ texts) :
    ∃ p ∈ patterns, Pattern.compile (String.ofList text) = .ok p := by
  obtain ⟨p, p_mem, hp⟩ := exists_of_forall₂ (mapM_eq_ok.1 compiled).flip text_mem
  exact ⟨p, p_mem, hp⟩

theorem not_matches_nil (named : path ≠ "") : ¬Matches [] path := by
  rintro ⟨text, text_mem, p, compiled, accepted⟩
  obtain rfl : text = [] := by simpa [expandBraces, firstBraces?] using text_mem
  obtain ⟨ts, tokens, rfl⟩ := exists_of_map_eq_ok compiled
  obtain rfl : ts = [] := by simpa [tokensFrom, eq_comm] using tokens
  exact named (by simpa [Pattern.accepts, matchesAll] using accepted)

/-- A compiled glob selects the paths that one of the patterns it stands for accepts, the blanks
around the glob apart. -/
theorem selects_iff_matches (compiled : compile glob = .ok patterns) (named : path ≠ "") :
    selects patterns path = true ↔ Matches (Text.trim glob.toList) path := by
  simp only [compile] at compiled
  split at compiled
  · rename_i blank
    obtain rfl := Except.ok.inj compiled
    rw [List.isEmpty_iff.1 blank]
    simp [selects, not_matches_nil named]
  simp only [selects, List.any_eq_true]
  constructor
  · rintro ⟨p, p_mem, accepted⟩
    obtain ⟨text, text_mem, hp⟩ := exists_of_forall₂ (mapM_eq_ok.1 compiled) p_mem
    obtain ⟨pattern, pattern_mem, variant⟩ := List.mem_flatMap.1 text_mem
    rcases mem_variants variant with rfl | rfl
    · exact ⟨text, pattern_mem, p, hp, accepted⟩
    · have itself : anyNames ++ text ∈ variants (anyNames ++ text) := List.mem_cons_self
      obtain ⟨q, -, hq⟩ := exists_compiled_of_mem compiled
        (List.mem_flatMap.2 ⟨_, pattern_mem, itself⟩)
      exact ⟨_, pattern_mem, q, hq, accepts_of_anyNames hq hp accepted⟩
  · rintro ⟨text, text_mem, p, hp, accepted⟩
    obtain ⟨q, q_mem, hq⟩ := exists_compiled_of_mem compiled
      (List.mem_flatMap.2 ⟨text, text_mem, List.mem_cons_self⟩)
    obtain rfl : p = q := Except.ok.inj (hp.symm.trans hq)
    exact ⟨p, q_mem, accepted⟩

end Mutagenesis.Glob
