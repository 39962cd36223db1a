import Blockbook.Fragment
import Blockbook.Proofs.Template.Cut
import Mathlib.Data.Finset.Card

/-!
# A registry and its history

A registry that starts empty is asked to register and to extract templates, to find them, to remove
them and to drop them all. What it holds in the end can be read off the requests: under each key the
template of the latest request that filed one, unless the key was dropped later.

* `get?_serve`: what one request does to what a registry holds.
* `latest_concat`: what one more request does to the latest templates.
* `after_holds_latest`: a registry holds the latest templates of its history, and nothing else.
-/

namespace Blockbook.Registry

open Template (Grammar Key ParseError)

/-- What a registry is asked for. A template that is extracted is filed under a key that is given
with the request. -/
inductive Request where
  | register (g : Grammar) (key : Key) (source : Text)
  | extract (g : Grammar) (key : Key) (source : Text)
  | get (key : Key)
  | contains (key : Key)
  | remove (key : Key)
  | clear

/-- The registry after a request. A template that cannot be read is not filed. -/
def serve (r : Registry) : Request → Registry
  | .register g key source =>
    match Template.read g key source with
    | .ok t => r.register t
    | .error _ => r
  | .extract g key source =>
    match r.extract g key source with
    | .ok (found, _) => found
    | .error _ => r
  | .get _ | .contains _ => r
  | .remove key => r.erase key
  | .clear => .empty

/-- The registry after a history of requests. -/
def after (history : List Request) : Registry := history.foldl serve .empty

namespace Request

/-- A request that files a template under a key. -/
inductive Files (key : Key) (t : Template) : Request → Prop where
  | register {g : Grammar} {source : Text} : Template.read g key source = .ok t →
      Files key t (.register g key source)
  | extract {g : Grammar} {source : Text} : Template.read g key source = .ok t →
      Files key t (.extract g key source)

/-- A request that leaves nothing under a key. -/
inductive Drops (key : Key) : Request → Prop where
  | remove : Drops key (.remove key)
  | clear : Drops key .clear

/-- A request for a template that cannot be read. -/
inductive Fails : Request → Prop where
  | register {g : Grammar} {key : Key} {source : Text} {e : ParseError} :
      Template.read g key source = .error e → Fails (.register g key source)
  | extract {g : Grammar} {key : Key} {source : Text} {e : ParseError} :
      Template.read g key source = .error e → Fails (.extract g key source)

/-- A request that changes nothing under a key. -/
structure Keeps (key : Key) (request : Request) : Prop where
  files : ∀ t, ¬request.Files key t
  drops : ¬request.Drops key

end Request

/-- The template that the latest request filed under a key, where all later ones keep it. -/
def Latest (history : List Request) (key : Key) (t : Template) : Prop :=
  ∃ before request later, history = before ++ request :: later ∧ request.Files key t ∧
    ∀ r ∈ later, r.Keeps key

variable {r : Registry} {request : Request} {history : List Request} {key : Key} {t : Template}

/-! ## One request -/

theorem key_of_read {g : Grammar} {source : Text} (h : Template.read g key source = .ok t) :
    t.key = key := by
  obtain ⟨nodes, -, rfl⟩ := Template.map_eq_ok_iff.1 h
  rfl

theorem serve_of_files (h : request.Files key t) :
    r.serve request = r.register t ∧ t.key = key := by
  cases h with
  | register hread => exact ⟨by rw [serve, hread], key_of_read hread⟩
  | extract hread => exact ⟨by rw [serve, extract, hread]; rfl, key_of_read hread⟩

theorem serve_of_fails (h : request.Fails) : r.serve request = r := by
  cases h with
  | register hread => rw [serve, hread]
  | extract hread => rw [serve, extract, hread]; rfl

theorem get?_serve_of_files (h : request.Files key t) : (r.serve request).get? key = some t := by
  obtain ⟨hserve, hkey⟩ := serve_of_files (r := r) h
  rw [hserve, get?_register, if_pos hkey]

theorem get?_serve_of_drops (h : request.Drops key) : (r.serve request).get? key = none := by
  cases h with
  | remove => rw [serve, get?_erase, if_pos rfl]
  | clear => exact get?_empty key

/-- A request to read a template files it, or fails. -/
theorem files_or_fails (g : Grammar) (key : Key) (source : Text) :
    (∃ t, (Request.register g key source).Files key t ∧
        (Request.extract g key source).Files key t) ∨
      (Request.register g key source).Fails ∧ (Request.extract g key source).Fails := by
  cases hread : Template.read g key source with
  | ok t => exact .inl ⟨t, .register hread, .extract hread⟩
  | error e => exact .inr ⟨.register hread, .extract hread⟩

theorem get?_serve_of_keeps (h : request.Keeps key) :
    (r.serve request).get? key = r.get? key := by
  have hother {k : Key} {u : Template} (hfiles : request.Files k u) :
      (r.serve request).get? key = r.get? key := by
    obtain ⟨hserve, hkey⟩ := serve_of_files (r := r) hfiles
    have hne : u.key ≠ key := by
      rintro rfl
      exact h.files u (hkey ▸ hfiles)
    rw [hserve, get?_register, if_neg hne]
  cases request with
  | register g k source =>
    obtain ⟨u, hfiles, -⟩ | ⟨hfails, -⟩ := files_or_fails g k source
    · exact hother hfiles
    · rw [serve_of_fails hfails]
  | extract g k source =>
    obtain ⟨u, -, hfiles⟩ | ⟨-, hfails⟩ := files_or_fails g k source
    · exact hother hfiles
    · rw [serve_of_fails hfails]
  | get k => rfl
  | contains k => rfl
  | remove k =>
    have hne : k ≠ key := by
      rintro rfl
      exact h.drops .remove
    rw [serve, get?_erase, if_neg hne]
  | clear => exact absurd .clear h.drops

/-- What one request does to what a registry holds. -/
theorem get?_serve :
    (r.serve request).get? key = some t ↔
      request.Files key t ∨ request.Keeps key ∧ r.get? key = some t := by
  constructor
  · intro h
    by_cases hfiles : ∃ u, request.Files key u
    · obtain ⟨u, hu⟩ := hfiles
      rw [get?_serve_of_files hu] at h
      exact .inl (Option.some.inj h ▸ hu)
    · by_cases hdrops : request.Drops key
      · rw [get?_serve_of_drops hdrops] at h
        cases h
      · have hkeeps : request.Keeps key := ⟨not_exists.1 hfiles, hdrops⟩
        exact .inr ⟨hkeeps, get?_serve_of_keeps hkeeps ▸ h⟩
  · rintro (hfiles | ⟨hkeeps, h⟩)
    · exact get?_serve_of_files hfiles
    · rw [get?_serve_of_keeps hkeeps, h]

/-! ## A history of requests -/

theorem not_latest_nil : ¬Latest [] key t := by
  rintro ⟨before, request, later, h, -⟩
  exact List.append_ne_nil_of_right_ne_nil before (List.cons_ne_nil request later) h.symm

/-- What one more request does to the latest templates. -/
theorem latest_concat :
    Latest (history ++ [request]) key t ↔
      request.Files key t ∨ request.Keeps key ∧ Latest history key t := by
  constructor
  · rintro ⟨before, first, later, hsplit, hfiles, hkeeps⟩
    obtain rfl | ⟨later, last, rfl⟩ := later.eq_nil_or_concat'
    · obtain ⟨-, hlast⟩ := List.append_inj' hsplit rfl
      obtain rfl := List.singleton_inj.1 hlast
      exact .inl hfiles
    · rw [← List.cons_append, ← List.append_assoc] at hsplit
      obtain ⟨hhistory, hlast⟩ := List.append_inj' hsplit rfl
      obtain rfl := List.singleton_inj.1 hlast
      obtain ⟨hlater, hlast⟩ := List.forall_mem_append.1 hkeeps
      exact .inr ⟨hlast _ List.mem_cons_self, before, first, later, hhistory, hfiles, hlater⟩
  · rintro (hfiles | ⟨hkeeps, before, first, later, rfl, hfiles, hlater⟩)
    · exact ⟨history, request, [], rfl, hfiles, List.forall_mem_nil _⟩
    · refine ⟨before, first, later ++ [request], by simp, hfiles, ?_⟩
      exact List.forall_mem_append.2 ⟨hlater, List.forall_mem_singleton.2 hkeeps⟩

theorem after_concat (history : List Request) (request : Request) :
    after (history ++ [request]) = (after history).serve request := by
  rw [after, List.foldl_append]
  rfl

/-- What a registry holds is what was filed last. -/
theorem get?_after : (after history).get? key = some t ↔ Latest history key t := by
  induction history using List.reverseRecOn with
  | nil => exact iff_of_false (by rw [after]; simp) not_latest_nil
  | append_singleton history request ih => rw [after_concat, get?_serve, latest_concat, ih]

/-- The size of a registry is the number of keys under which it holds a template. -/
theorem exists_keys (r : Registry) :
    ∃ keys : Finset Key, (∀ key, key ∈ keys ↔ ∃ t, r.get? key = some t) ∧ r.size = keys.card := by
  refine ⟨r.templates.keys.toFinset, fun key => ?_, ?_⟩
  · rw [List.mem_toFinset, Std.HashMap.mem_keys, ← Option.isSome_iff_exists,
      ← contains_eq_isSome_get?]
    exact Std.HashMap.mem_iff_contains
  · rw [List.toFinset_card_of_nodup Std.HashMap.nodup_keys, Std.HashMap.length_keys]
    rfl

/-- A registry holds under each key the template that was filed last, if the key was not dropped
later, and no other template. Its size is the number of those keys, and a request that fails changes
nothing. -/
theorem after_holds_latest (history : List Request) :
    (∀ key t, (after history).get? key = some t ↔ Latest history key t) ∧
      (∀ key, (after history).get? key = none ↔ ¬∃ t, Latest history key t) ∧
      (∀ key, (after history).contains key = ((after history).get? key).isSome) ∧
      (∃ keys : Finset Key, (∀ key, key ∈ keys ↔ ∃ t, Latest history key t) ∧
        (after history).size = keys.card) ∧
      ((after history).isEmpty = true ↔ (after history).size = 0) ∧
      ∀ request : Request, request.Fails → after (history ++ [request]) = after history := by
  refine ⟨fun key t => get?_after, fun key => ?_, contains_eq_isSome_get? _, ?_, ?_,
    fun request hfails => ?_⟩
  · simp only [← get?_after, Option.eq_none_iff_forall_ne_some, not_exists, ne_eq]
  · simp only [← get?_after]
    exact exists_keys _
  · rw [isEmpty, decide_eq_true_eq]
  · rw [after_concat, serve_of_fails hfails]

/-- A template stays where it is when another one that cannot be read is registered in its place. -/
theorem after_holds_latest_unclosed :
    (Request.register .structural ⟨"a"⟩ ['{', '%']).Fails ∧
      (after [.register .structural ⟨"a"⟩ "x", .register .structural ⟨"a"⟩ ['{', '%']]).get? ⟨"a"⟩ =
        some ⟨⟨"a"⟩, [.text "x"]⟩ := by
  have hscan : Template.Token.scan .structural "x".toList = .ok [.text "x" ⟨0, 1, 1, 1⟩] := by
    decide +kernel
  have hread : Template.read .structural ⟨"a"⟩ "x" = .ok ⟨⟨"a"⟩, [.text "x"]⟩ := by
    rw [Template.read, Template.parse, hscan]
    rfl
  have hunclosed : Template.Token.scan .structural ['{', '%'] =
      .error ⟨.unclosedToken (.logic .keep), ⟨0, 2, 1, 1⟩⟩ := by
    decide +kernel
  have hfails : (Request.register .structural ⟨"a"⟩ ['{', '%']).Fails := by
    refine .register (e := ⟨.unclosedToken (.logic .keep), ⟨0, 2, 1, 1⟩⟩) ?_
    rw [Template.read, Template.parse, hunclosed]
    rfl
  obtain ⟨hlatest, -, -, -, -, hkept⟩ :=
    after_holds_latest [.register .structural ⟨"a"⟩ "x"]
  have hfound := (hlatest ⟨"a"⟩ ⟨⟨"a"⟩, [.text "x"]⟩).2
    ⟨[], _, [], rfl, .register hread, List.forall_mem_nil _⟩
  exact ⟨hfails, hkept _ hfails ▸ hfound⟩

end Blockbook.Registry
