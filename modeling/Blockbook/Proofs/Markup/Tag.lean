import Blockbook.Markup.Layout
import Blockbook.Proofs.Blank

/-!
# Quotes and blanks in tags

A tag ends at its first `>` outside quotes, and its blanks outside quotes are reduced when it is
shown. Both follow the same quotes, so where a tag ends depends on its solid characters only.

* `splitTag?_eq_some_iff`, `splitTag?_eq_none_iff`: the search for the end of a tag.
* `unclosed_solid`: the search does not see blanks.
* `normalizeTag_eq`: a shown tag is its front with reduced blanks, and `>`.
-/

namespace Blockbook.Markup

open Text

/-- The quote that is open after one more character. -/
def nextQuote (quote : Option Char) (c : Char) : Option Char :=
  match quote with
  | some q => if c = q then none else some q
  | none => if c = '"' || c = '\'' then some c else none

/-- The quote that is open after more text. -/
def quoteAfter (quote : Option Char) (s : Text) : Option Char := s.foldl nextQuote quote

/-- No `>` of the text stands outside quotes. -/
def Unclosed (quote : Option Char) : Text → Prop
  | [] => True
  | c :: cs => ¬(quote = none ∧ c = '>') ∧ Unclosed (nextQuote quote c) cs

/-- No blank counts as a quote. -/
def SolidQuote (quote : Option Char) : Prop := ∀ q, quote = some q → isBlank q = false

theorem splitTag?_cons (quote : Option Char) (c : Char) (cs : Text) :
    splitTag? quote (c :: cs) =
      if quote = none && c = '>' then some ([c], cs)
      else (splitTag? (nextQuote quote c) cs).map fun (tag, rest) => (c :: tag, rest) := by
  cases quote <;> rfl

theorem squeeze_cons_of_blank {c : Char} (h : isBlank c = true) (pending : Bool) (cs : Text) :
    squeeze none pending (c :: cs) = squeeze none true cs := by
  simp [squeeze, h]

theorem squeeze_cons {quote : Option Char} {c : Char} (h : ¬(quote = none ∧ isBlank c = true))
    (pending : Bool) (cs : Text) :
    squeeze quote pending (c :: cs) =
      (if pending then [' '] else []) ++ c :: squeeze (nextQuote quote c) false cs := by
  have h' : ¬((decide (quote = none) && isBlank c) = true) := by simpa using h
  simp only [squeeze]
  rw [if_neg h']
  cases quote <;> cases pending <;> rfl

theorem solidQuote_none : SolidQuote none := by
  intro q hq
  cases hq

theorem SolidQuote.next {quote : Option Char} (h : SolidQuote quote) (c : Char) :
    SolidQuote (nextQuote quote c) := by
  intro q hq
  cases quote with
  | none =>
    simp only [nextQuote] at hq
    split at hq
    · next hc =>
      obtain rfl : c = q := by simpa using hq
      rcases (by simpa using hc : c = '"' ∨ c = '\'') with rfl | rfl <;> rfl
    · cases hq
  | some open' =>
    simp only [nextQuote] at hq
    split at hq
    · cases hq
    · exact h q hq

/-- A blank neither opens nor closes a quote. -/
theorem nextQuote_of_blank {quote : Option Char} (h : SolidQuote quote) {c : Char}
    (hc : isBlank c = true) : nextQuote quote c = quote := by
  cases quote with
  | none =>
    have h₁ : c ≠ '"' := by rintro rfl; exact absurd hc (by decide)
    have h₂ : c ≠ '\'' := by rintro rfl; exact absurd hc (by decide)
    simp [nextQuote, h₁, h₂]
  | some q =>
    have hq : c ≠ q := by
      rintro rfl
      rw [h c rfl] at hc
      cases hc
    simp [nextQuote, hq]

theorem quoteAfter_cons (quote : Option Char) (c : Char) (cs : Text) :
    quoteAfter quote (c :: cs) = quoteAfter (nextQuote quote c) cs := rfl

/-! ## The end of a tag -/

/-- A tag ends at the first `>` outside quotes. -/
theorem splitTag?_eq_some_iff {quote : Option Char} {s tag rest : Text} :
    splitTag? quote s = some (tag, rest) ↔
      ∃ front, tag = front ++ ['>'] ∧ s = front ++ '>' :: rest ∧ Unclosed quote front ∧
        quoteAfter quote front = none := by
  induction s generalizing quote tag with
  | nil => simp [splitTag?]
  | cons c cs ih =>
    rw [splitTag?_cons]
    by_cases hc : quote = none ∧ c = '>'
    · obtain ⟨rfl, rfl⟩ := hc
      simp only [decide_true, Bool.and_self, ↓reduceIte, Option.some.injEq, Prod.mk.injEq]
      constructor
      · rintro ⟨rfl, rfl⟩
        exact ⟨[], rfl, rfl, trivial, rfl⟩
      · rintro ⟨front, rfl, hs, hu, -⟩
        cases front with
        | nil =>
          obtain rfl : cs = rest := by simpa using hs
          exact ⟨rfl, rfl⟩
        | cons d front =>
          obtain ⟨rfl, -⟩ : '>' = d ∧ _ := by simpa using hs
          exact absurd ⟨rfl, rfl⟩ hu.1
    · rw [if_neg (by simpa using hc), Option.map_eq_some_iff]
      constructor
      · rintro ⟨⟨tag', rest'⟩, hs, he⟩
        obtain ⟨rfl, rfl⟩ : c :: tag' = tag ∧ rest' = rest := by simpa using he
        obtain ⟨front, rfl, rfl, hu, hq⟩ := ih.1 hs
        exact ⟨c :: front, rfl, rfl, ⟨hc, hu⟩, hq⟩
      · rintro ⟨front, rfl, hs, hu, hq⟩
        cases front with
        | nil =>
          obtain ⟨rfl, -⟩ : c = '>' ∧ _ := by simpa using hs
          exact absurd ⟨hq, rfl⟩ hc
        | cons d front =>
          obtain ⟨rfl, rfl⟩ : c = d ∧ cs = front ++ '>' :: rest := by simpa using hs
          exact ⟨(front ++ ['>'], rest), ih.2 ⟨front, rfl, rfl, hu.2, hq⟩, rfl⟩

theorem splitTag?_eq_none_iff {quote : Option Char} {s : Text} :
    splitTag? quote s = none ↔ Unclosed quote s := by
  induction s generalizing quote with
  | nil => simp [splitTag?, Unclosed]
  | cons c cs ih =>
    rw [splitTag?_cons, Unclosed]
    by_cases hc : quote = none ∧ c = '>'
    · obtain ⟨rfl, rfl⟩ := hc
      simp
    · rw [if_neg (by simpa using hc), Option.map_eq_none_iff, ih]
      simp only [hc, not_false_eq_true, true_and]

/-- Blanks do not matter to the search for the end of a tag. -/
theorem unclosed_solid {quote : Option Char} (h : SolidQuote quote) (s : Text) :
    Unclosed quote (solid s) ↔ Unclosed quote s := by
  induction s generalizing quote with
  | nil => rfl
  | cons c cs ih =>
    by_cases hc : isBlank c = true
    · have hgt : c ≠ '>' := by rintro rfl; exact absurd hc (by decide)
      rw [solid_cons_of_blank hc, Unclosed, nextQuote_of_blank h hc, ih h]
      simp [hgt]
    · rw [solid_cons_of_not_blank (by simpa using hc), Unclosed, Unclosed, ih (h.next c)]

theorem quoteAfter_solid {quote : Option Char} (h : SolidQuote quote) (s : Text) :
    quoteAfter quote (solid s) = quoteAfter quote s := by
  induction s generalizing quote with
  | nil => rfl
  | cons c cs ih =>
    by_cases hc : isBlank c = true
    · rw [solid_cons_of_blank hc, quoteAfter_cons, nextQuote_of_blank h hc, ih h]
    · rw [solid_cons_of_not_blank (by simpa using hc), quoteAfter_cons, quoteAfter_cons,
        ih (h.next c)]

/-! ## Reduced blanks -/

@[simp]
theorem solid_squeeze (quote : Option Char) (pending : Bool) (s : Text) :
    solid (squeeze quote pending s) = solid s := by
  induction s generalizing quote pending with
  | nil => rfl
  | cons c cs ih =>
    by_cases hc : quote = none ∧ isBlank c = true
    · obtain ⟨rfl, hc⟩ := hc
      rw [squeeze_cons_of_blank hc, ih, solid_cons_of_blank hc]
    · have hspace : solid (if pending then [' '] else []) = [] := by cases pending <;> rfl
      rw [squeeze_cons hc, solid_append, hspace, List.nil_append, ← List.singleton_append,
        solid_append, ih, ← solid_append, List.singleton_append]

theorem squeeze_squeeze {quote : Option Char} (h : SolidQuote quote) (pending : Bool) (s : Text) :
    squeeze quote false (squeeze quote pending s) = squeeze quote pending s := by
  induction s generalizing quote pending with
  | nil => rfl
  | cons c cs ih =>
    by_cases hc : quote = none ∧ isBlank c = true
    · obtain ⟨rfl, hc⟩ := hc
      rw [squeeze_cons_of_blank hc, ih h]
    · rw [squeeze_cons hc]
      cases pending with
      | false => simp [squeeze_cons hc, ih (h.next c)]
      | true =>
        have hspace : isBlank ' ' = true := rfl
        cases quote with
        | none =>
          simp only [↓reduceIte, List.singleton_append]
          rw [squeeze_cons_of_blank hspace, squeeze_cons hc, ih (h.next c)]
          rfl
        | some q =>
          simp only [↓reduceIte, List.singleton_append]
          rw [squeeze_cons (by simp), nextQuote_of_blank h hspace, squeeze_cons hc,
            ih (h.next c)]
          rfl

/-- Reduced text outside quotes does not end in a blank. -/
theorem squeeze_last {quote : Option Char} (h : SolidQuote quote) {pending : Bool} {s : Text}
    (hq : quoteAfter quote s = none) {c : Char}
    (hc : (squeeze quote pending s).getLast? = some c) : isBlank c = false := by
  induction s generalizing quote pending with
  | nil => simp [squeeze] at hc
  | cons d cs ih =>
    rw [quoteAfter_cons] at hq
    by_cases hd : quote = none ∧ isBlank d = true
    · obtain ⟨rfl, hd⟩ := hd
      rw [squeeze_cons_of_blank hd] at hc
      rw [nextQuote_of_blank h hd] at hq
      exact ih h hq hc
    · rw [squeeze_cons hd] at hc
      by_cases hnil : squeeze (nextQuote quote d) false cs = []
      · obtain rfl : d = c := by simpa [hnil] using hc
        cases quote with
        | none => simpa using hd
        | some q =>
          -- A blank inside quotes would leave them open up to the end of the text.
          by_contra hblank
          rw [nextQuote_of_blank h (by simpa using hblank)] at hnil hq
          cases cs with
          | nil => cases hq
          | cons e cs => simp [squeeze_cons] at hnil
      · obtain ⟨e, he⟩ := Option.isSome_iff_exists.1 (List.getLast?_isSome.2 hnil)
        rw [List.getLast?_append, List.getLast?_cons_of_ne_nil hnil, he, Option.some_or] at hc
        exact ih (h.next d) hq (he.trans hc)

/-- The `>` that ends a tag comes after the reduced text before it and at most one space. -/
theorem squeeze_append_close {quote : Option Char} (h : SolidQuote quote) (pending : Bool)
    {s : Text} (hq : quoteAfter quote s = none) :
    ∃ gap, (gap = [] ∨ gap = [' ']) ∧
      squeeze quote pending (s ++ ['>']) = squeeze quote pending s ++ gap ++ ['>'] := by
  induction s generalizing quote pending with
  | nil =>
    obtain rfl : quote = none := hq
    cases pending with
    | false => exact ⟨[], .inl rfl, rfl⟩
    | true => exact ⟨[' '], .inr rfl, rfl⟩
  | cons c cs ih =>
    rw [quoteAfter_cons] at hq
    by_cases hc : quote = none ∧ isBlank c = true
    · obtain ⟨rfl, hc⟩ := hc
      rw [nextQuote_of_blank h hc] at hq
      rw [List.cons_append, squeeze_cons_of_blank hc, squeeze_cons_of_blank hc]
      exact ih h true hq
    · obtain ⟨gap, hgap, hs⟩ := ih (h.next c) false hq
      refine ⟨gap, hgap, ?_⟩
      rw [List.cons_append, squeeze_cons hc, squeeze_cons hc, hs]
      simp

theorem dropLastSpace_of_space (s : Text) : dropLastSpace (s ++ [' '] ++ ['>']) = s ++ ['>'] := by
  simp [dropLastSpace]

theorem dropLastSpace_of_no_space {s : Text} (h : s.getLast? ≠ some ' ') :
    dropLastSpace (s ++ ['>']) = s ++ ['>'] := by
  rw [dropLastSpace]
  split
  · next front hs =>
    exfalso
    apply h
    have hs' : s.reverse = ' ' :: front := by simpa using hs
    rw [List.getLast?_eq_head?_reverse, hs']
    rfl
  · rfl

/-- A tag is shown as its front with reduced blanks, and `>`. -/
theorem normalizeTag_eq {front : Text} (hq : quoteAfter none front = none) :
    normalizeTag ('<' :: (front ++ ['>'])) = '<' :: (squeeze none false front ++ ['>']) := by
  obtain ⟨gap, hgap, hs⟩ := squeeze_append_close solidQuote_none false hq
  have hlast : ('<' :: squeeze none false front).getLast? ≠ some ' ' := by
    intro h
    by_cases hnil : squeeze none false front = []
    · simp [hnil] at h
    · rw [List.getLast?_cons_of_ne_nil hnil] at h
      exact absurd (squeeze_last solidQuote_none hq h) (by decide)
  have hlt : squeeze none false ('<' :: (front ++ ['>'])) =
      '<' :: squeeze none false front ++ gap ++ ['>'] := by
    rw [squeeze_cons (by decide), show nextQuote none '<' = none from rfl, hs]
    simp
  rw [normalizeTag, hlt]
  rcases hgap with rfl | rfl
  · rw [List.append_nil, dropLastSpace_of_no_space hlast]
    rfl
  · rw [dropLastSpace_of_space]
    rfl

end Blockbook.Markup
