import Mathlib.Data.List.TakeWhile
import Mutagenesis.Proofs.Files.Tree

/-!
# Steps of a path

The steps of a path are its pieces without the idle ones. Joining a relative path adds its steps,
and the paths above a path take the first of its steps from the same start.
-/
namespace Mutagenesis

open Files

namespace Files

/-- The pieces that make a difference. -/
def stepsOf (ps : List Bytes) : List Bytes := ps.filter (!isIdle ·)

/-- Whether the last piece makes a difference, so that no slash or single dot closes the path. -/
def isFirm (ps : List Bytes) : Bool := ps.getLast?.any (!isIdle ·)

theorem isFirm_append (ps : List Bytes) {qs : List Bytes} (h : qs ≠ []) :
    isFirm (ps ++ qs) = isFirm qs := by
  obtain ⟨front, last, rfl⟩ := List.eq_nil_or_concat qs |>.resolve_left h
  simp [isFirm, ← List.append_assoc]

theorem isFirm_cons_cons (p q : Bytes) (ps : List Bytes) :
    isFirm (p :: q :: ps) = isFirm (q :: ps) :=
  isFirm_append [p] (List.cons_ne_nil q ps)

/-- What a firm path ends in is among its steps. -/
theorem isFirm_stepsOf {ps : List Bytes} (h : isFirm ps = true) : isFirm (stepsOf ps) = true := by
  obtain rfl | ⟨front, last, rfl⟩ := List.eq_nil_or_concat ps
  · exact h
  · have firm : isIdle last = false := by simpa [isFirm] using h
    simp [stepsOf, isFirm, firm]

theorem joined_append {ps qs : List Bytes} (hp : ps ≠ []) (hq : qs ≠ []) :
    joined (ps ++ qs) = joined ps ++ slash :: joined qs := by
  induction ps with
  | nil => exact absurd rfl hp
  | cons p ps ih =>
      cases ps with
      | nil =>
          obtain ⟨q, qs, rfl⟩ := List.exists_cons_of_ne_nil hq
          rfl
      | cons p' ps => simpa [joined] using ih (List.cons_ne_nil p' ps)

end Files

namespace Path

/-- The pieces of a path that make a difference. -/
def steps (p : Path) : List Bytes := stepsOf (pieces p.bytes)

theorem steps_append_slash (before after : Bytes) :
    steps ⟨before ++ slash :: after⟩ = steps ⟨before⟩ ++ steps ⟨after⟩ := by
  simp [steps, stepsOf, pieces_append_slash]

/-! ## Joined paths -/

/-- The bytes of a path up to where a relative path is joined to it. -/
def opened (p : Path) : Bytes :=
  if p.bytes = [] || p.bytes.getLast? = some slash then p.bytes else p.bytes ++ [slash]

variable {p q : Path}

theorem join_eq (p : Path) (h : q.isAbsolute = false) : p.join q = ⟨p.opened ++ q.bytes⟩ := by
  unfold join opened
  by_cases empty : p.bytes = []
  · simp [empty]
  · by_cases closed : p.bytes.getLast? = some slash <;> simp [h, empty, closed]

theorem opened_eq (p : Path) :
    (p.opened = [] ∧ p.bytes = []) ∨
      ∃ bs, p.opened = bs ++ [slash] ∧ (p.bytes = bs ++ [slash] ∨ p.bytes = bs ∧ bs ≠ []) := by
  unfold opened
  by_cases empty : p.bytes = []
  · simp [empty]
  · by_cases closed : p.bytes.getLast? = some slash
    · obtain ⟨bs, hbs⟩ := List.getLast?_eq_some_iff.1 closed
      exact .inr ⟨bs, by simp [hbs], .inl hbs⟩
    · exact .inr ⟨p.bytes, by simp [empty, closed], .inr ⟨rfl, empty⟩⟩

/-- Joining a relative path adds its steps. -/
theorem steps_join (p : Path) (h : q.isAbsolute = false) :
    (p.join q).steps = p.steps ++ q.steps := by
  rw [join_eq p h]
  obtain ⟨hopened, hp⟩ | ⟨bs, hopened, hp⟩ := p.opened_eq
  · have none_before : p.steps = [] := by
      simp [steps, hp, pieces, stepsOf, isIdle]
    simp [hopened, none_before]
  · have same : p.steps = steps ⟨bs⟩ := by
      obtain hp | ⟨hp, -⟩ := hp <;> simp [steps, hp, pieces_append_slash, stepsOf, pieces, isIdle]
    rw [hopened, List.append_assoc, List.singleton_append, steps_append_slash, same]

theorem isAbsolute_join (p : Path) (h : q.isAbsolute = false) :
    (p.join q).isAbsolute = p.isAbsolute := by
  rw [join_eq p h]
  obtain ⟨hopened, hp⟩ | ⟨bs, hopened, hp | ⟨hp, nonempty⟩⟩ := p.opened_eq
  · simpa [isAbsolute, hopened, hp] using h
  · simp [isAbsolute, hopened, hp]
  · obtain ⟨b, bs, rfl⟩ := List.exists_cons_of_ne_nil nonempty
    simp [isAbsolute, hopened, hp]

section Names

variable {name : Bytes} (h : isName name = true)
include h

theorem pieces_of_isName : pieces name = [name] := pieces_of_notMem (slash_notMem_of_isName h)

theorem isAbsolute_of_isName : isAbsolute ⟨name⟩ = false := by
  simp only [isAbsolute, decide_eq_false_iff_not]
  exact fun first => slash_notMem_of_isName h (List.mem_of_head? first)

theorem steps_join_name (p : Path) : (p.join ⟨name⟩).steps = p.steps ++ [name] := by
  rw [steps_join p (isAbsolute_of_isName h)]
  simp [steps, pieces_of_isName h, stepsOf, isIdle_of_isName h]

/-- A path that ends in a name does so firmly. -/
theorem isFirm_pieces_join (p : Path) : isFirm (pieces (p.join ⟨name⟩).bytes) = true := by
  rw [join_eq p (isAbsolute_of_isName h)]
  obtain ⟨hopened, -⟩ | ⟨bs, hopened, -⟩ := p.opened_eq
  · simp [hopened, pieces_of_isName h, isFirm, isIdle_of_isName h]
  · rw [hopened, List.append_assoc, List.singleton_append, pieces_append_slash,
      isFirm_append _ (pieces_ne_nil _), pieces_of_isName h]
    simp [isFirm, isIdle_of_isName h]

end Names

/-! ## Paths above a path -/

theorem trimIdle_append_idle (ps : List Bytes) :
    ∃ idles, ps = trimIdle ps ++ idles ∧ stepsOf idles = [] ∧
      (trimIdle ps = [] ∨ isFirm (trimIdle ps) = true) := by
  refine ⟨(ps.reverse.takeWhile isIdle).reverse, ?_, ?_, ?_⟩
  · rw [trimIdle, ← List.reverse_append, List.takeWhile_append_dropWhile, List.reverse_reverse]
  · have idle : ∀ piece ∈ ps.reverse.takeWhile isIdle, isIdle piece = true :=
      fun _ => List.mem_takeWhile_imp
    simpa [stepsOf, List.filter_eq_nil_iff] using idle
  · cases h : ps.reverse.dropWhile isIdle with
    | nil => exact .inl (by simp [trimIdle, h])
    | cons last front =>
        have firm : isIdle last = false := by
          have := List.head?_dropWhile_not isIdle ps.reverse
          simpa [h] using this
        exact .inr (by simp [trimIdle, h, isFirm, firm])

/-- A path begins with a slash, with a single dot or with a name. -/
theorem lead_cases (p : Path) :
    (p.lead = [] ∧ p.body = pieces p.bytes) ∨
      (p.lead = [slash] ∧ ∃ rest, p.bytes = slash :: rest ∧ p.body = pieces rest) ∨
      (p.lead = [dot] ∧ p.bytes = [dot] ∧ p.body = [[]]) ∨
      (p.lead = [dot] ∧ ∃ rest, p.bytes = dot :: slash :: rest ∧ p.body = [] :: pieces rest) := by
  obtain ⟨bytes⟩ := p
  cases bytes with
  | nil => exact .inl ⟨rfl, rfl⟩
  | cons b rest =>
      by_cases absolute : b = slash
      · subst absolute
        exact .inr (.inl ⟨by simp [lead], rest, rfl, by simp [body, lead]⟩)
      by_cases here : b = dot ∧ (rest = [] ∨ rest.head? = some slash)
      · obtain ⟨rfl, rfl | first⟩ := here
        · exact .inr (.inr (.inl ⟨rfl, rfl, rfl⟩))
        · obtain ⟨rest, rfl⟩ := List.head?_eq_some_iff.1 first
          exact .inr (.inr (.inr ⟨rfl, rest, rfl, by simp [body, lead, dot, slash, pieces]⟩))
      · have none_before : lead ⟨b :: rest⟩ = [] := by
          simp only [lead, absolute, if_false]
          simpa using here
        exact .inl ⟨none_before, by simp [body, none_before]⟩

/-- A path that leads from a start along the first of the given steps. -/
structure LeadsAlong (q : Path) (absolute : Bool) (steps : List Bytes) : Prop where
  steps : q.steps <+: steps
  start : q.bytes = [] ∨ q.isAbsolute = absolute
  firm : q.steps = [] ∨ isFirm (pieces q.bytes) = true

/-- A path that is cut off after its lead has no steps. -/
theorem steps_lead (p : Path) : steps ⟨p.lead⟩ = [] := by
  obtain ⟨hlead, -⟩ | ⟨hlead, -⟩ | ⟨hlead, -⟩ | ⟨hlead, -⟩ := p.lead_cases <;>
    simp [hlead, steps, stepsOf, pieces, isIdle, dot, slash]

theorem lead_isPrefix (p : Path) : p.lead <+: p.bytes := by
  obtain ⟨hlead, -⟩ | ⟨hlead, rest, hbytes, -⟩ | ⟨hlead, hbytes, -⟩ | ⟨hlead, rest, hbytes, -⟩ :=
    p.lead_cases
  all_goals simp [*]

/-- The pieces that are left when the end of a path is cut off. -/
theorem exists_pieces_of_body {kept more : List Bytes} (hbody : p.body = kept ++ more)
    (hmore : more ≠ []) (hkept : kept ≠ []) (firm : isFirm kept = true) :
    ∃ ks, pieces p.bytes = ks ++ more ∧ p.lead ++ joined kept = joined ks ∧ ks ≠ [] ∧
      isFirm ks = true := by
  obtain ⟨k, ks, rfl⟩ := List.exists_cons_of_ne_nil hkept
  obtain ⟨hlead, hpieces⟩ | ⟨hlead, rest, hbytes, hpieces⟩ | ⟨-, -, hpieces⟩ |
    ⟨hlead, rest, hbytes, hpieces⟩ := p.lead_cases
  all_goals rw [hpieces] at hbody
  · exact ⟨k :: ks, hbody, by simp [hlead], hkept, firm⟩
  · refine ⟨[] :: k :: ks, ?_, by simp [hlead, joined], by simp, ?_⟩
    · rw [hbytes, pieces_cons_slash, hbody]
      rfl
    · rwa [isFirm_cons_cons]
  · have short := congrArg List.length hbody
    have := List.length_pos_iff.2 hmore
    simp only [List.length_cons, List.length_nil, List.length_append] at short
    omega
  · obtain ⟨rfl, hrest⟩ := List.cons.inj hbody
    cases ks with
    | nil => simp [isFirm, isIdle] at firm
    | cons k ks =>
        refine ⟨[dot] :: k :: ks, ?_, by simp [hlead, joined], by simp, ?_⟩
        · rw [hbytes, ← List.singleton_append, pieces_append_slash, hrest]
          rfl
        · rwa [isFirm_cons_cons] at firm ⊢

/-- The pieces after the lead make up all steps of a path. -/
theorem steps_eq_body (p : Path) : p.steps = stepsOf p.body := by
  obtain ⟨-, hbody⟩ | ⟨-, rest, hbytes, hbody⟩ | ⟨-, hbytes, hbody⟩ | ⟨-, rest, hbytes, hbody⟩ :=
    p.lead_cases
  all_goals simp_all [steps, stepsOf, pieces, isIdle, dot, slash]

/-- Cutting off the end of a path cuts off the steps there. -/
theorem cut_of_body {kept more : List Bytes} (hbody : p.body = kept ++ more)
    (some_step : stepsOf more ≠ []) (firm : kept = [] ∨ isFirm kept = true) :
    p.steps = steps ⟨p.lead ++ joined kept⟩ ++ stepsOf more ∧
      p.lead ++ joined kept <+: p.bytes ∧
      (steps ⟨p.lead ++ joined kept⟩ = [] ∨ isFirm (pieces (p.lead ++ joined kept)) = true) := by
  have hmore : more ≠ [] := by
    rintro rfl
    exact some_step rfl
  obtain rfl | firm := firm
  · rw [joined, List.append_nil, p.steps_lead, steps_eq_body, hbody]
    exact ⟨rfl, p.lead_isPrefix, .inl rfl⟩
  · have hkept : kept ≠ [] := by
      rintro rfl
      simp [isFirm] at firm
    obtain ⟨ks, hpieces, hq, hks, firm⟩ := exists_pieces_of_body hbody hmore hkept firm
    have hbytes : p.bytes = joined ks ++ slash :: joined more := by
      rw [← joined_append hks hmore, ← hpieces, joined_pieces]
    have back : pieces (joined ks) = ks :=
      pieces_joined hks fun piece hmem =>
        slash_notMem_of_mem_pieces (hpieces ▸ List.mem_append_left more hmem)
    rw [hq]
    refine ⟨?_, hbytes ▸ List.prefix_append _ _, .inr (back.symm ▸ firm)⟩
    rw [Path.steps, hpieces, Path.steps, back, stepsOf, List.filter_append, stepsOf, stepsOf]

/-- The path above a path is what is left when the last step is cut off. -/
theorem body_of_parent? (h : p.parent? = some q) :
    (q = ⟨[]⟩ ∧ p.steps = []) ∨ ∃ kept more last, p.body = kept ++ more ∧ stepsOf more = [last] ∧
      (kept = [] ∨ isFirm kept = true) ∧ q = ⟨p.lead ++ joined kept⟩ := by
  obtain ⟨idles, hbody, idle, firm⟩ := trimIdle_append_idle p.body
  unfold parent? at h
  cases htrim : (trimIdle p.body).reverse with
  | nil =>
      have none_left : p.steps = [] := by
        rw [steps_eq_body, hbody, List.reverse_eq_nil_iff.1 htrim, List.nil_append, idle]
      simp only [htrim] at h
      split at h
      next => exact .inl ⟨(Option.some.inj h).symm, none_left⟩
      next => simp at h
  | cons last before =>
      rw [htrim] at h
      obtain rfl := Option.some.inj h
      obtain ⟨between, hfront, idleFront, firmFront⟩ := trimIdle_append_idle before.reverse
      have hlast : trimIdle p.body = before.reverse ++ [last] := by
        rw [← List.reverse_reverse (trimIdle p.body), htrim, List.reverse_cons]
      have step : isIdle last = false := by
        simpa [hlast, isFirm] using firm
      have steps : stepsOf (between ++ [last] ++ idles) = [last] := by
        have own : stepsOf [last] = [last] := by simp [stepsOf, step]
        unfold stepsOf at idle idleFront own ⊢
        rw [List.filter_append, List.filter_append, idle, idleFront, own]
        rfl
      refine .inr ⟨_, _, last, ?_, steps, firmFront, rfl⟩
      calc p.body = before.reverse ++ [last] ++ idles := by rw [← hlast]; exact hbody
        _ = trimIdle before.reverse ++ between ++ [last] ++ idles := by rw [← hfront]
        _ = trimIdle before.reverse ++ (between ++ [last] ++ idles) := by simp

/-- The path above a path leads along the first of its steps. -/
theorem leadsAlong_self_parent? (h : p.parent? = some q) : q.LeadsAlong p.isAbsolute p.steps := by
  obtain ⟨rfl, none_left⟩ | ⟨kept, more, last, hbody, steps, firm, rfl⟩ := body_of_parent? h
  · exact ⟨List.nil_prefix, .inl rfl, .inl rfl⟩
  · obtain ⟨cut, ⟨rest, hrest⟩, firm⟩ := cut_of_body hbody (by simp [steps]) firm
    refine ⟨⟨stepsOf more, cut.symm⟩, ?_, firm⟩
    cases hq : p.lead ++ joined kept with
    | nil => exact .inl rfl
    | cons b bs => exact .inr (by simp [isAbsolute, ← hrest, hq])

/-- The path above a path has its steps but for the last one, and is a beginning of it. -/
theorem steps_of_parent? (h : p.parent? = some q) (some_step : p.steps ≠ []) :
    (∃ last, p.steps = q.steps ++ [last]) ∧ q.bytes <+: p.bytes := by
  obtain ⟨-, none_left⟩ | ⟨kept, more, last, hbody, steps, firm, rfl⟩ := body_of_parent? h
  · exact absurd none_left some_step
  · obtain ⟨cut, within, -⟩ := cut_of_body hbody (by simp [steps]) firm
    exact ⟨⟨last, steps ▸ cut⟩, within⟩

/-- A path with steps has a path above it. -/
theorem isSome_parent? (h : p.steps ≠ []) : p.parent?.isSome = true := by
  unfold parent?
  split
  next => rfl
  next trimmed =>
    refine absurd ?_ h
    have idle : ∀ piece ∈ p.body, isIdle piece = true := by
      simpa [trimIdle, List.dropWhile_eq_nil_iff] using trimmed
    rw [steps_eq_body, stepsOf, List.filter_eq_nil_iff]
    simpa using idle

theorem leadsAlong_parent? {absolute : Bool} {ss : List Bytes} (h : p.LeadsAlong absolute ss)
    (hq : p.parent? = some q) : q.LeadsAlong absolute ss := by
  obtain ⟨steps, start, firm⟩ := leadsAlong_self_parent? hq
  refine ⟨steps.trans h.steps, ?_, firm⟩
  obtain start | start := start
  · exact .inl start
  · obtain empty | start' := h.start
    · obtain ⟨bytes⟩ := p
      subst empty
      simp [parent?, body, lead, pieces, trimIdle, isIdle] at hq
    · exact .inr (start.trans start')

theorem leadsAlong_of_mem_ancestorsUpTo {absolute : Bool} {ss : List Bytes} {n : Nat}
    (h : p.LeadsAlong absolute ss) (hq : q ∈ p.ancestorsUpTo n) : q.LeadsAlong absolute ss := by
  induction n generalizing p with
  | zero => simp [ancestorsUpTo] at hq
  | succ n ih =>
      simp only [ancestorsUpTo, List.mem_cons] at hq
      obtain rfl | hq := hq
      · exact h
      · cases hparent : p.parent? with
        | none => simp [hparent] at hq
        | some parent =>
            rw [hparent] at hq
            exact ih (leadsAlong_parent? h hparent) hq

theorem leadsAlong_of_mem_ancestors {absolute : Bool} {ss : List Bytes}
    (h : p.LeadsAlong absolute ss) (hq : q ∈ p.ancestors) : q.LeadsAlong absolute ss :=
  leadsAlong_of_mem_ancestorsUpTo h hq

/-- The folder of a file has the steps before its name, and is a beginning of its path. -/
theorem steps_parent (p : Path) {name : Bytes} (h : isName name = true) :
    ((p.join ⟨name⟩).parent?.getD ⟨[]⟩).steps = p.steps ∧
      ((p.join ⟨name⟩).parent?.getD ⟨[]⟩).bytes <+: (p.join ⟨name⟩).bytes := by
  have steps := steps_join_name h p
  have some_step : (p.join ⟨name⟩).steps ≠ [] := by simp [steps]
  obtain ⟨q, parent⟩ := Option.isSome_iff_exists.1 (isSome_parent? some_step)
  obtain ⟨⟨last, cut⟩, within⟩ := steps_of_parent? parent some_step
  rw [steps] at cut
  rw [parent, Option.getD_some]
  exact ⟨(List.append_inj' cut rfl).1.symm, within⟩

/-- It leads along them. -/
theorem leadsAlong_parent (p : Path) {name : Bytes} (h : isName name = true) :
    ((p.join ⟨name⟩).parent?.getD ⟨[]⟩).LeadsAlong p.isAbsolute p.steps := by
  have steps := (steps_parent p h).1
  have along : ((p.join ⟨name⟩).parent?.getD ⟨[]⟩).LeadsAlong (p.join ⟨name⟩).isAbsolute
      (p.join ⟨name⟩).steps := by
    cases parent : (p.join ⟨name⟩).parent? with
    | none => exact ⟨List.nil_prefix, .inl rfl, .inl rfl⟩
    | some q => exact leadsAlong_self_parent? parent
  rw [isAbsolute_join p (isAbsolute_of_isName h)] at along
  exact ⟨steps ▸ List.prefix_rfl, along.start, along.firm⟩

/-! ## Names of files -/

/-- A name is the file name of the path it makes. -/
theorem fileName?_of_isName {name : Bytes} (h : isName name = true) :
    fileName? ⟨name⟩ = some name := by
  have noSlash := slash_notMem_of_isName h
  have idle := isIdle_of_isName h
  obtain ⟨hlead, hbody⟩ | ⟨-, rest, rfl, -⟩ | ⟨-, rfl, -⟩ | ⟨-, rest, rfl, -⟩ :=
    lead_cases ⟨name⟩
  · simp [fileName?, components, hlead, hbody, pieces_of_isName h, idle, isUp_of_isName h]
  · simp at noSlash
  · simp [isIdle] at idle
  · simp at noSlash

end Path

/-- The extension of a name is what follows its last dot. -/
theorem Files.splitExtension?_append {stem ending : Bytes} (hstem : stem ≠ [])
    (h : dot ∉ ending) : splitExtension? (stem ++ dot :: ending) = some (stem, ending) := by
  have last : (stem ++ dot :: ending).reverse.takeWhile (· ≠ dot) = ending.reverse := by
    rw [List.reverse_append, List.reverse_cons, List.append_assoc,
      List.takeWhile_append_of_pos (by simpa using fun b hb => ne_of_mem_of_not_mem hb h)]
    simp
  have length : (stem ++ dot :: ending).length - ending.length - 1 = stem.length := by
    simp only [List.length_append, List.length_cons]
    omega
  unfold splitExtension?
  simp only [last, List.reverse_reverse, length, List.take_left, if_neg hstem]

end Mutagenesis
