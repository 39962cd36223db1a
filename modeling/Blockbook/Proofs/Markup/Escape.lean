import Blockbook.Markup.Escape
import Blockbook.Proofs.Search

/-!
# Escaped text is read back

Escaping replaces the characters of a text one at a time, although it is defined as one replacement
after the other: no entity holds a character that is replaced after it. So escaped text is `Escaped`,
which is all that a page asks of the text in it, and `unescape` gives back what was escaped.

* `substituteAll_eq_flatMap`: when replacements one after the other are one substitution.
* `escape_cons`: escaping takes each character on its own.
* `unescape_escape`: reading entities undoes escaping.
* `escaped_escape`: in escaped text no character means markup.
-/

namespace Blockbook.Markup

open Text

/-- The entities of a page, and the character that each of them stands for. -/
def meanings : List (Text × Char) :=
  [("&amp;", '&'), ("&lt;", '<'), ("&gt;", '>'), ("&quot;", '"'), ("&#39;", '\'')]

/-- The entity at the front of a text: the character it stands for, and what follows. -/
def entity? (s : Text) : Option (Char × Text) :=
  meanings.findSome? fun (entity, c) => (after? entity s).map fun rest => (c, rest)

theorem length_of_entity? {s rest : Text} {c : Char} (h : entity? s = some (c, rest)) :
    rest.length < s.length := by
  obtain ⟨⟨entity, d⟩, hmem, hafter⟩ := List.exists_of_findSome?_eq_some h
  obtain ⟨rest', hrest, heq⟩ := Option.map_eq_some_iff.1 hafter
  obtain ⟨rfl, rfl⟩ := Prod.mk.inj heq
  have hlen : ∀ m ∈ meanings, 0 < m.1.length := by decide
  rw [after?_eq_some_iff.1 hrest, List.length_append]
  exact Nat.lt_add_of_pos_left (hlen _ hmem)

/-- Text with each entity replaced by the character it stands for. -/
def unescape (s : Text) : Text :=
  match s with
  | [] => []
  | c :: cs =>
    match _h : entity? (c :: cs) with
    | some (d, rest) => d :: unescape rest
    | none => c :: unescape cs
termination_by s.length
decreasing_by
  · exact length_of_entity? ‹_›
  · simp

/-- Every ampersand of a text starts an entity. -/
def AllEntities (t : Text) : Prop := ∀ r, '&' :: r <:+ t → ∃ m ∈ meanings, m.1 <+: '&' :: r

/-- Text that may stand in a page: the characters of markup do not stand for themselves in it, and
every ampersand starts an entity. -/
structure Escaped (t : Text) : Prop where
  inert : ∀ c ∈ ['<', '>', '"', '\''], c ∉ t
  allEntities : AllEntities t

/-! ## One substitution -/

/-- One replacement after the other. -/
def substituteAll (es : List (Char × Text)) (s : Text) : Text :=
  es.foldl (fun t e => substitute e.1 e.2 t) s

/-- What a character becomes when all replacements are made at once. -/
def replaceIn (es : List (Char × Text)) (c : Char) : Text :=
  match es.find? (·.1 = c) with
  | some e => e.2
  | none => [c]

theorem replaceIn_of_not_mem {es : List (Char × Text)} {c : Char} (h : ∀ e ∈ es, e.1 ≠ c) :
    replaceIn es c = [c] := by
  have hfind : es.find? (·.1 = c) = none := List.find?_eq_none.2 fun e he => by simp [h e he]
  rw [replaceIn, hfind]

/-- Replacements one after the other are one substitution, if none of them writes a character that a
later one replaces. -/
theorem substituteAll_eq_flatMap {es : List (Char × Text)}
    (h : es.Pairwise fun e later => later.1 ∉ e.2) (s : Text) :
    substituteAll es s = s.flatMap (replaceIn es) := by
  induction es generalizing s with
  | nil => exact (List.flatMap_singleton' s).symm
  | cons e es ih =>
    obtain ⟨hlater, hes⟩ := List.pairwise_cons.1 h
    -- The later replacements pass over what the first one writes.
    have hwritten : e.2.flatMap (replaceIn es) = e.2 := by
      have hkept : ∀ c ∈ e.2, replaceIn es c = [c] := fun c hc =>
        replaceIn_of_not_mem fun later hmem heq => hlater later hmem (heq ▸ hc)
      rw [List.flatMap_congr hkept, List.flatMap_singleton']
    have hchar (c : Char) :
        (if c = e.1 then e.2 else [c]).flatMap (replaceIn es) = replaceIn (e :: es) c := by
      by_cases hc : c = e.1
      · simp [hc, hwritten, replaceIn]
      · simp [hc, replaceIn, Ne.symm hc]
    rw [substituteAll, List.foldl_cons, ← substituteAll, ih hes, substitute, List.flatMap_assoc]
    exact List.flatMap_congr fun c _ => hchar c

/-- What stands for a character in escaped text: an entity for each character of markup, and any
other character itself. -/
def entityOf (c : Char) : Text :=
  match c with
  | '&' => "&amp;"
  | '<' => "&lt;"
  | '>' => "&gt;"
  | '"' => "&quot;"
  | '\'' => "&#39;"
  | c => [c]

theorem replaceIn_entities (c : Char) : replaceIn entities c = entityOf c := by
  unfold entityOf
  split
  · rfl
  · rfl
  · rfl
  · rfl
  · rfl
  · next hamp hlt hgt hquote hapostrophe =>
    refine replaceIn_of_not_mem ?_
    simp only [entities, List.forall_mem_cons]
    exact ⟨Ne.symm hamp, Ne.symm hlt, Ne.symm hgt, Ne.symm hquote, Ne.symm hapostrophe,
      List.forall_mem_nil _⟩

/-- Escaping is one substitution: the ampersand, which every entity holds, is replaced first. -/
theorem escape_eq_flatMap (s : Text) : escape s = s.flatMap entityOf := by
  have horder : entities.Pairwise fun e later => later.1 ∉ e.2 := by decide
  have hentity : replaceIn entities = entityOf := funext replaceIn_entities
  rw [← hentity]
  exact substituteAll_eq_flatMap horder s

theorem escape_append (s t : Text) : escape (s ++ t) = escape s ++ escape t := by
  rw [escape_eq_flatMap, escape_eq_flatMap, escape_eq_flatMap, List.flatMap_append]

/-- Escaping takes each character on its own. -/
theorem escape_cons (c : Char) (s : Text) : escape (c :: s) = escape [c] ++ escape s :=
  escape_append [c] s

theorem escape_of_mem {e : Char × Text} (h : e ∈ entities) : escape [e.1] = e.2 := by
  have hall : ∀ e ∈ entities, escape [e.1] = e.2 := by decide
  exact hall e h

theorem escape_of_not_mem {c : Char} (h : c ∉ entities.map Prod.fst) : escape [c] = [c] := by
  rw [escape_eq_flatMap, List.flatMap_singleton, ← replaceIn_entities]
  exact replaceIn_of_not_mem fun e he heq => h (heq ▸ List.mem_map_of_mem he)

/-! ## Reading entities -/

theorem entity?_append {e : Char × Text} (h : e ∈ entities) (r : Text) :
    entity? (e.2 ++ r) = some (e.1, r) := by
  simp only [entities, List.mem_cons, List.not_mem_nil, or_false] at h
  rcases h with rfl | rfl | rfl | rfl | rfl <;> rfl

theorem entity?_of_ne {c : Char} (h : c ≠ '&') (s : Text) : entity? (c :: s) = none := by
  rw [entity?, List.findSome?_eq_none_iff]
  intro m hmem
  have hfirst : ∀ m ∈ meanings, m.1.head? = some '&' := by decide
  rw [Option.map_eq_none_iff, after?_eq_none_iff]
  rintro ⟨r, hr⟩
  obtain ⟨entity, hentity⟩ := List.head?_eq_some_iff.1 (hfirst m hmem)
  rw [hentity, List.cons_append] at hr
  exact h (List.cons.inj hr).1.symm

theorem unescape_of_entity {s rest : Text} {c : Char} (h : entity? s = some (c, rest)) :
    unescape s = c :: unescape rest := by
  cases s with
  | nil => cases h
  | cons d ds =>
    rw [unescape]
    split
    · next h' =>
      rw [h] at h'
      cases h'
      rfl
    · next h' =>
      rw [h] at h'
      cases h'

theorem unescape_of_none {c : Char} {s : Text} (h : entity? (c :: s) = none) :
    unescape (c :: s) = c :: unescape s := by
  rw [unescape]
  split
  · next h' =>
    rw [h] at h'
    cases h'
  · rfl

/-- Reading entities undoes escaping. -/
theorem unescape_escape (s : Text) : unescape (escape s) = s := by
  induction s with
  | nil =>
    have hnil : escape [] = [] := rfl
    rw [hnil, unescape]
  | cons c s ih =>
    rw [escape_cons]
    by_cases hc : c ∈ entities.map Prod.fst
    · obtain ⟨e, hmem, rfl⟩ := List.mem_map.1 hc
      rw [escape_of_mem hmem, unescape_of_entity (entity?_append hmem _), ih]
    · have hne : c ≠ '&' := by
        rintro rfl
        exact hc (by decide)
      rw [escape_of_not_mem hc, List.singleton_append, unescape_of_none (entity?_of_ne hne _), ih]

theorem escape_injective {s t : Text} (h : escape s = escape t) : s = t := by
  rw [← unescape_escape s, h, unescape_escape]

/-- The five replacements are one substitution: every character that means markup is written as its
entity and every other one stays. So reading the entities gives back what was escaped, and the parts
of a text may be escaped one by one. -/
theorem escape_at_once (s t : Text) :
    escape s = s.flatMap entityOf ∧ unescape (escape s) = s ∧
      escape (s ++ t) = escape s ++ escape t :=
  ⟨escape_eq_flatMap s, unescape_escape s, escape_append s t⟩

/-! ## Nothing but text -/

theorem allEntities_of_not_mem {t : Text} (h : '&' ∉ t) : AllEntities t :=
  fun _ hr => absurd (hr.subset (List.mem_cons_self ..)) h

theorem AllEntities.append {s t : Text} (hs : AllEntities s) (ht : AllEntities t) :
    AllEntities (s ++ t) := by
  rintro r ⟨front, hfront⟩
  obtain ⟨a, rfl, hr⟩ | ⟨a, -, rfl⟩ := List.append_eq_append_iff.1 hfront
  · cases a with
    | nil => exact ht r ⟨[], hr⟩
    | cons c a =>
      -- The ampersand stands in `s`, and so does the whole entity.
      obtain ⟨rfl, rfl⟩ := List.cons.inj hr
      obtain ⟨m, hmem, hp⟩ := hs a (List.suffix_append ..)
      exact ⟨m, hmem, hp.trans (List.prefix_append ('&' :: a) t)⟩
  · exact ht r (List.suffix_append ..)

theorem allEntities_entity {e : Char × Text} (h : e ∈ entities) : AllEntities e.2 := by
  have hfirst : ∀ e ∈ entities, '&' ∉ e.2.tail := by decide
  have hmeaning : ∀ e ∈ entities, (e.2, e.1) ∈ meanings := by decide
  rintro r ⟨front, hfront⟩
  cases front with
  | nil =>
    rw [List.nil_append] at hfront
    exact ⟨_, hmeaning e h, hfront ▸ List.prefix_refl _⟩
  | cons c front =>
    refine absurd ?_ (hfirst e h)
    rw [← hfront]
    simp

theorem allEntities_escape (s : Text) : AllEntities (escape s) := by
  induction s with
  | nil => exact allEntities_of_not_mem List.not_mem_nil
  | cons c s ih =>
    rw [escape_cons]
    refine AllEntities.append ?_ ih
    by_cases hc : c ∈ entities.map Prod.fst
    · obtain ⟨e, hmem, rfl⟩ := List.mem_map.1 hc
      rw [escape_of_mem hmem]
      exact allEntities_entity hmem
    · rw [escape_of_not_mem hc]
      refine allEntities_of_not_mem fun hmem => hc ?_
      rw [← List.mem_singleton.1 hmem]
      decide

theorem inert_escape (s : Text) : ∀ c ∈ ['<', '>', '"', '\''], c ∉ escape s := by
  have hentity : ∀ e ∈ entities, ['<', '>', '"', '\''].all (· ∉ e.2) := by decide
  have hreplaced : entities.map Prod.fst = '&' :: ['<', '>', '"', '\''] := rfl
  intro c hc hmem
  induction s with
  | nil => cases hmem
  | cons d s ih =>
    rw [escape_cons] at hmem
    obtain hmem | hmem := List.mem_append.1 hmem
    · by_cases hd : d ∈ entities.map Prod.fst
      · obtain ⟨e, he, rfl⟩ := List.mem_map.1 hd
        rw [escape_of_mem he] at hmem
        exact of_decide_eq_true (List.all_eq_true.1 (hentity e he) c hc) hmem
      · rw [escape_of_not_mem hd, List.mem_singleton] at hmem
        rw [← hmem, hreplaced] at hd
        exact hd (List.mem_cons_of_mem _ hc)
    · exact ih hmem

/-- In escaped text no character means markup. -/
theorem escaped_escape (s : Text) : Escaped (escape s) := ⟨inert_escape s, allEntities_escape s⟩

end Blockbook.Markup
