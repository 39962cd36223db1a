import Blockbook.Proofs.Markup.Tag
import Blockbook.Proofs.Search

/-!
# Constructs are read back as they are shown

Whether a construct starts at a `<` depends on the characters right after it and on whether a `>`
outside quotes follows. A construct that is shown is read as the same construct, whatever follows
it; a `<` that starts nothing goes on starting nothing while the solid characters after it and the
word right after it stay the same.

* `construct?_cases`: what a construct can be.
* `construct?_inRun`: a shown construct is read back.
* `construct?_eq_none_of_solid`: a stray `<` stays stray.
-/

namespace Blockbook.Markup

open Text

/-- What follows the `<` of a comment. -/
def commentMark : Text := ['!', '-', '-']

/-- Whether a tag or a declaration may start with these characters after its `<`. -/
def opensTag : Text → Bool
  | '!' :: _ => true
  | '/' :: c :: _ => isAsciiLetter c
  | c :: _ => isAsciiLetter c
  | [] => false

/-- The token of a tag or declaration, given without its `<`. -/
def tagToken (tag : Text) : Token :=
  let shown := normalizeTag ('<' :: tag)
  match tag with
  | '!' :: _ => .verbatim shown
  | '/' :: name => .closing (elementName name) shown
  | name => .opening (elementName name) shown (['/', '>'].isSuffixOf shown)

/-- The characters of a comment. -/
def comment (inner : Text) : Text := ['<', '!', '-', '-'] ++ inner ++ ['-', '-', '>']

/-! ## Characters -/

theorem isBlank_of_isNameChar {c : Char} (h : isNameChar c = true) : isBlank c = false := by
  by_contra hb
  have hlow : ¬(0x2D ≤ c.toNat ∧ c.toNat ≤ 0x7A) := by
    rintro ⟨h₁, h₂⟩
    simp only [isBlank, blankRanges, CodeRanges.contains, Bool.not_eq_false] at hb
    grind
  have hle {a b : Char} : a ≤ b ↔ a.toNat ≤ b.toNat := Iff.rfl
  apply hlow
  simp only [isNameChar, isAsciiLetter, Bool.or_eq_true, Bool.and_eq_true, decide_eq_true_eq, hle,
    show 'a'.toNat = 97 from rfl, show 'z'.toNat = 122 from rfl, show 'A'.toNat = 65 from rfl,
    show 'Z'.toNat = 90 from rfl, show '0'.toNat = 48 from rfl, show '9'.toNat = 57 from rfl] at h
  rcases h with ((((h | h) | rfl) | rfl) | rfl) | rfl
  · omega
  · omega
  all_goals decide

theorem isBlank_of_isAsciiLetter {c : Char} (h : isAsciiLetter c = true) : isBlank c = false :=
  isBlank_of_isNameChar (by simp [isNameChar, h])

theorem nextQuote_of_isNameChar {c : Char} (h : isNameChar c = true) : nextQuote none c = none := by
  have h₁ : c ≠ '"' := by rintro rfl; exact absurd h (by decide)
  have h₂ : c ≠ '\'' := by rintro rfl; exact absurd h (by decide)
  simp [nextQuote, h₁, h₂]

/-! ## The front of a tag -/

theorem elementName_append_close (front x : Text) :
    elementName (front ++ '>' :: x) = elementName front := by
  rw [elementName, elementName]
  congr 1
  induction front with
  | nil => rfl
  | cons c cs ih => rw [List.cons_append, List.takeWhile_cons, List.takeWhile_cons, ih]

theorem elementName_squeeze (front : Text) :
    elementName (squeeze none false front) = elementName front := by
  rw [elementName, elementName]
  congr 1
  induction front with
  | nil => rfl
  | cons c cs ih =>
    by_cases hc : isBlank c = true
    · have hname : isNameChar c = false := by
        by_contra h
        rw [isBlank_of_isNameChar (by simpa using h)] at hc
        cases hc
      have hsq (s : Text) : (squeeze none true s).takeWhile isNameChar = [] := by
        induction s with
        | nil => rfl
        | cons d ds ih =>
          by_cases hd : isBlank d = true
          · rw [squeeze_cons_of_blank hd, ih]
          · rw [squeeze_cons (by simpa using hd)]
            rfl
      rw [squeeze_cons_of_blank hc, hsq, List.takeWhile_cons, hname]
      rfl
    · rw [squeeze_cons (by simpa using hc)]
      by_cases hname : isNameChar c = true
      · simp [hname, nextQuote_of_isNameChar hname, ih]
      · simp [hname]

theorem opensTag_cons {c : Char} (h₁ : c ≠ '!') (h₂ : c ≠ '/') (s : Text) :
    opensTag (c :: s) = isAsciiLetter c := by
  unfold opensTag
  split <;> simp_all

/-- A construct starts with one or two characters at most. -/
theorem opensTag_iff {r : Text} :
    opensTag r = true ↔
      ['!'] <+: r ∨ ∃ c, isAsciiLetter c = true ∧ ([c] <+: r ∨ ['/', c] <+: r) := by
  cases r with
  | nil => simp [opensTag]
  | cons c cs =>
    by_cases h₁ : c = '!'
    · subst h₁
      simp [opensTag]
    by_cases h₂ : c = '/'
    · subst h₂
      cases cs with
      | nil => simp [opensTag, isAsciiLetter]
      | cons d ds =>
        have hslash : isAsciiLetter '/' = false := rfl
        simp only [opensTag, List.cons_prefix_cons, List.nil_prefix, and_true]
        grind
    · rw [opensTag_cons h₁ h₂]
      simp [Ne.symm h₁, Ne.symm h₂]

theorem prefix_append_close {mark front : Text} (h : '>' ∉ mark) (x : Text) :
    mark <+: front ++ '>' :: x ↔ mark <+: front := by
  induction mark generalizing front with
  | nil => simp
  | cons m ms ih =>
    obtain ⟨hm, hms⟩ : '>' ≠ m ∧ '>' ∉ ms := by simpa using h
    cases front with
    | nil => simp [Ne.symm hm]
    | cons c cs => rw [List.cons_append, List.cons_prefix_cons, List.cons_prefix_cons, ih hms]

theorem opensTag_append_close (front x : Text) :
    opensTag (front ++ '>' :: x) = opensTag front := by
  rw [Bool.eq_iff_iff, opensTag_iff, opensTag_iff, prefix_append_close (by decide)]
  refine or_congr Iff.rfl (exists_congr fun c => and_congr_right fun hc => ?_)
  have hgt : '>' ≠ c := by rintro rfl; cases hc
  rw [prefix_append_close (by simpa using hgt), prefix_append_close (by simpa using hgt)]

theorem commentMark_append_close (front x : Text) :
    commentMark <+: front ++ '>' :: x ↔ commentMark <+: front :=
  prefix_append_close (by decide) x

/-- Reduced blanks leave the first characters of a tag as they are. -/
theorem squeeze_eq_cons {front x y : Text} {c : Char} (hc : c ≠ ' ') (hgt : c ≠ '>')
    (h : squeeze none false front ++ '>' :: x = c :: y) :
    ∃ front', front = c :: front' ∧ y = squeeze (nextQuote none c) false front' ++ '>' :: x := by
  cases front with
  | nil =>
    obtain ⟨rfl, -⟩ : '>' = c ∧ _ := by simpa [squeeze] using h
    exact absurd rfl hgt
  | cons d ds =>
    by_cases hd : isBlank d = true
    · exfalso
      rw [squeeze_cons_of_blank hd] at h
      clear hd
      induction ds with
      | nil =>
        obtain ⟨rfl, -⟩ : '>' = c ∧ _ := by simpa [squeeze] using h
        exact hgt rfl
      | cons e es ih =>
        by_cases he : isBlank e = true
        · rw [squeeze_cons_of_blank he] at h
          exact ih h
        · rw [squeeze_cons (by simpa using he)] at h
          obtain ⟨rfl, -⟩ : ' ' = c ∧ _ := by simpa using h
          exact hc rfl
    · rw [squeeze_cons (by simpa using hd)] at h
      obtain ⟨rfl, rfl⟩ : d = c ∧ _ = y := by simpa using h
      exact ⟨ds, rfl, rfl⟩

theorem commentMark_squeeze {front x : Text}
    (h : commentMark <+: squeeze none false front ++ '>' :: x) : commentMark <+: front := by
  obtain ⟨y, hy⟩ := h
  obtain ⟨f₁, rfl, h₁⟩ := squeeze_eq_cons (by decide) (by decide) hy.symm
  obtain ⟨f₂, rfl, h₂⟩ := squeeze_eq_cons (by decide) (by decide) h₁.symm
  obtain ⟨f₃, rfl, -⟩ := squeeze_eq_cons (by decide) (by decide) h₂.symm
  exact ⟨f₃, rfl⟩

theorem opensTag_squeeze {front : Text} (h : opensTag front = true) (x : Text) :
    opensTag (squeeze none false front ++ x) = true := by
  cases front with
  | nil => cases h
  | cons c cs =>
    by_cases h₁ : c = '!'
    · subst h₁
      rfl
    by_cases h₂ : c = '/'
    · subst h₂
      cases cs with
      | nil => cases h
      | cons d ds =>
        have hd : isAsciiLetter d = true := h
        have hblank := isBlank_of_isAsciiLetter hd
        rw [squeeze_cons (by decide), show nextQuote none '/' = none from rfl,
          squeeze_cons (by simp [hblank])]
        exact hd
    · rw [opensTag_cons h₁ h₂] at h
      have hblank := isBlank_of_isAsciiLetter h
      rw [squeeze_cons (by simp [hblank])]
      exact (opensTag_cons h₁ h₂ _).trans h

/-! ## Reading a construct -/

theorem construct?_of_ne {c : Char} (h : c ≠ '<') (s : Text) : construct? (c :: s) = none := by
  unfold construct?
  split <;> simp_all

/-- Two readings of a tag agree if they agree on what stands up to a `>`. -/
theorem map_splitTag?_congr {r : Text} {f g : Text → Token}
    (h : ∀ front rest, r = front ++ '>' :: rest → f (front ++ ['>']) = g (front ++ ['>'])) :
    (splitTag? none r).map (fun (tag, rest) => (f tag, rest)) =
      (splitTag? none r).map fun (tag, rest) => (g tag, rest) := by
  cases hs : splitTag? none r with
  | none => rfl
  | some found =>
    obtain ⟨tag, rest⟩ := found
    obtain ⟨front, rfl, hr, -, -⟩ := splitTag?_eq_some_iff.1 hs
    simp [h front rest hr]

theorem construct?_declaration {r : Text} (h : ¬commentMark <+: '!' :: r) :
    construct? ('<' :: '!' :: r) =
      (splitTag? none ('!' :: r)).map fun (tag, rest) => (tagToken tag, rest) := by
  rw [construct?.eq_2 r fun r' hr => h ⟨r', by rw [hr]; rfl⟩]
  refine map_splitTag?_congr (f := fun tag => .verbatim (normalizeTag ('<' :: tag))) ?_
  intro front rest hr
  cases front with
  | nil => cases hr
  | cons c front =>
    obtain ⟨rfl, -⟩ : '!' = c ∧ _ := by simpa using hr
    rfl

theorem construct?_closing {c : Char} (hc : isAsciiLetter c = true) (r : Text) :
    construct? ('<' :: '/' :: c :: r) =
      (splitTag? none ('/' :: c :: r)).map fun (tag, rest) => (tagToken tag, rest) := by
  rw [construct?.eq_3, if_pos hc]
  refine map_splitTag?_congr
    (f := fun tag => .closing (elementName (c :: r)) (normalizeTag ('<' :: tag))) ?_
  intro front rest hr
  cases front with
  | nil => cases hr
  | cons d front =>
    obtain ⟨rfl, hr'⟩ : '/' = d ∧ c :: r = front ++ '>' :: rest := by simpa using hr
    have hname : elementName (c :: r) = elementName (front ++ ['>']) := by
      rw [hr', elementName_append_close, elementName_append_close]
    rw [hname]
    rfl

theorem construct?_opening {c : Char} (h₁ : c ≠ '!') (h₂ : c ≠ '/') (hc : isAsciiLetter c = true)
    (r : Text) :
    construct? ('<' :: c :: r) =
      (splitTag? none (c :: r)).map fun (tag, rest) => (tagToken tag, rest) := by
  rw [construct?.eq_4 c r (fun _ h => absurd h h₁) h₁ (fun _ _ h => absurd h h₂), if_pos hc]
  refine map_splitTag?_congr (f := fun tag => .opening (elementName (c :: r))
    (normalizeTag ('<' :: tag)) (['/', '>'].isSuffixOf (normalizeTag ('<' :: tag)))) ?_
  intro front rest hr
  have hname : elementName (c :: r) = elementName (front ++ ['>']) := by
    rw [hr, elementName_append_close, elementName_append_close]
  rw [hname]
  cases front with
  | nil =>
    obtain ⟨rfl, -⟩ : c = '>' ∧ _ := by simpa using hr
    cases hc
  | cons d front =>
    obtain ⟨rfl, -⟩ : c = d ∧ _ := by simpa using hr
    rw [List.cons_append, tagToken.eq_3 _ (fun _ h => h₁ (List.cons.inj h).1)
      (fun _ h => h₂ (List.cons.inj h).1)]

/-- A construct other than a comment is what stands up to the first `>` outside quotes. -/
theorem construct?_of_not_comment {r : Text} (h : ¬commentMark <+: r) :
    construct? ('<' :: r) =
      if opensTag r then (splitTag? none r).map fun (tag, rest) => (tagToken tag, rest)
      else none := by
  cases r with
  | nil => rfl
  | cons c cs =>
    by_cases h₁ : c = '!'
    · subst h₁
      rw [construct?_declaration h]
      rfl
    by_cases h₂ : c = '/'
    · subst h₂
      cases cs with
      | nil => rfl
      | cons d ds =>
        rw [show opensTag ('/' :: d :: ds) = isAsciiLetter d from rfl]
        by_cases hd : isAsciiLetter d = true
        · rw [construct?_closing hd, if_pos hd]
        · rw [construct?.eq_3, if_neg hd, if_neg hd]
    · rw [opensTag_cons h₁ h₂]
      by_cases hc : isAsciiLetter c = true
      · rw [construct?_opening h₁ h₂ hc, if_pos hc]
      · rw [construct?.eq_4 c cs (fun _ h => absurd h h₁) h₁ (fun _ _ h => absurd h h₂), if_neg hc,
          if_neg hc]

/-- What a construct can be: a comment, or a tag or declaration up to its `>`. -/
theorem construct?_cases {s rest : Text} {token : Token}
    (h : construct? s = some (token, rest)) :
    (∃ inner, s = comment inner ++ rest ∧ token = .verbatim (comment inner) ∧
      breakOn? ['-', '-', '>'] (inner ++ (['-', '-', '>'] ++ rest)) = some (inner, rest)) ∨
    ∃ front, s = '<' :: (front ++ '>' :: rest) ∧ token = tagToken (front ++ ['>']) ∧
      opensTag front = true ∧ ¬commentMark <+: front ∧ Unclosed none front ∧
      quoteAfter none front = none := by
  cases s with
  | nil => cases h
  | cons c r =>
    by_cases hc : c = '<'
    · subst hc
      by_cases hr : commentMark <+: r
      · obtain ⟨r, rfl⟩ := hr
        obtain ⟨⟨inner, rest'⟩, hb, he⟩ := Option.map_eq_some_iff.1
          (show (breakOn? ['-', '-', '>'] r).map (fun (inner, rest) =>
            (Token.verbatim (['<', '!', '-', '-'] ++ inner ++ ['-', '-', '>']), rest)) =
              some (token, rest) from h)
        obtain ⟨rfl, rfl⟩ : _ = token ∧ rest' = rest := by simpa using he
        refine .inl ⟨inner, ?_, rfl, breakOn?_append hb rest'⟩
        rw [eq_of_breakOn? hb]
        simp [commentMark, comment]
      · rw [construct?_of_not_comment hr] at h
        split at h
        · next hopens =>
          obtain ⟨⟨tag, rest'⟩, hs, he⟩ := Option.map_eq_some_iff.1 h
          obtain ⟨rfl, rfl⟩ : tagToken tag = token ∧ rest' = rest := by simpa using he
          obtain ⟨front, rfl, rfl, hu, hq⟩ := splitTag?_eq_some_iff.1 hs
          rw [opensTag_append_close] at hopens
          rw [commentMark_append_close] at hr
          exact .inr ⟨front, rfl, rfl, hopens, hr, hu, hq⟩
        · cases h
    · rw [construct?_of_ne hc] at h
      cases h

theorem suffix_of_construct? {s rest : Text} {token : Token}
    (h : construct? s = some (token, rest)) : rest <:+ s := by
  obtain ⟨inner, rfl, -, -⟩ | ⟨front, rfl, -, -⟩ := construct?_cases h
  · exact List.suffix_append ..
  · exact ⟨'<' :: (front ++ ['>']), by simp⟩

/-! ## Shown constructs -/

theorem construct?_tag {front : Text} (hopens : opensTag front = true)
    (hmark : ¬commentMark <+: front) (hu : Unclosed none front) (hq : quoteAfter none front = none)
    (x : Text) :
    construct? ('<' :: (front ++ '>' :: x)) = some (tagToken (front ++ ['>']), x) := by
  rw [construct?_of_not_comment (by rwa [commentMark_append_close]), opensTag_append_close,
    if_pos hopens, splitTag?_eq_some_iff.2 ⟨front, rfl, rfl, hu, hq⟩]
  rfl

theorem construct?_comment {inner rest : Text}
    (h : breakOn? ['-', '-', '>'] (inner ++ (['-', '-', '>'] ++ rest)) = some (inner, rest))
    (x : Text) : construct? (comment inner ++ x) = some (.verbatim (comment inner), x) := by
  have hx := breakOn?_append h x
  have hs : comment inner ++ x = '<' :: '!' :: '-' :: '-' :: (inner ++ (['-', '-', '>'] ++ x)) := by
    simp [comment]
  rw [hs, construct?.eq_1, hx]
  rfl

theorem inRun_tagToken {front : Text} (hq : quoteAfter none front = none) :
    (tagToken (front ++ ['>'])).inRun = '<' :: (squeeze none false front ++ ['>']) := by
  rw [← normalizeTag_eq hq]
  simp only [tagToken]
  split <;> rfl

/-- A tag means the same after its blanks are reduced. -/
theorem tagToken_squeeze {front : Text} (hopens : opensTag front = true)
    (hq : quoteAfter none front = none) :
    tagToken (squeeze none false front ++ ['>']) = tagToken (front ++ ['>']) := by
  have hq' : quoteAfter none (squeeze none false front) = none := by
    rw [← quoteAfter_solid solidQuote_none, solid_squeeze, quoteAfter_solid solidQuote_none, hq]
  have hshown : normalizeTag ('<' :: (squeeze none false front ++ ['>'])) =
      normalizeTag ('<' :: (front ++ ['>'])) := by
    rw [normalizeTag_eq hq', normalizeTag_eq hq, squeeze_squeeze solidQuote_none]
  cases front with
  | nil => rfl
  | cons c cs =>
    by_cases h₁ : c = '!'
    · subst h₁
      exact congrArg Token.verbatim hshown
    by_cases h₂ : c = '/'
    · subst h₂
      have hname : elementName (squeeze none false cs ++ ['>']) = elementName (cs ++ ['>']) := by
        rw [elementName_append_close, elementName_append_close, elementName_squeeze]
      exact congrArg₂ Token.closing hname hshown
    · rw [opensTag_cons h₁ h₂] at hopens
      have hname : elementName (squeeze none false (c :: cs) ++ ['>']) =
          elementName (c :: cs ++ ['>']) := by
        rw [elementName_append_close, elementName_append_close, elementName_squeeze]
      have hcons : squeeze none false (c :: cs) = c :: squeeze (nextQuote none c) false cs := by
        rw [squeeze_cons (by simp [isBlank_of_isAsciiLetter hopens])]
        rfl
      rw [hcons] at hname hshown ⊢
      rw [List.cons_append, List.cons_append] at *
      rw [tagToken.eq_3 _ (fun _ h => h₁ (List.cons.inj h).1) (fun _ h => h₂ (List.cons.inj h).1),
        tagToken.eq_3 _ (fun _ h => h₁ (List.cons.inj h).1) (fun _ h => h₂ (List.cons.inj h).1),
        hname, hshown]

/-- A shown construct is read back, whatever follows it. -/
theorem construct?_inRun {s rest : Text} {token : Token}
    (h : construct? s = some (token, rest)) (x : Text) :
    construct? (token.inRun ++ x) = some (token, x) := by
  obtain ⟨inner, -, rfl, hb⟩ | ⟨front, -, rfl, hopens, hmark, hu, hq⟩ := construct?_cases h
  · exact construct?_comment hb x
  · have hopens' := opensTag_squeeze hopens ('>' :: [])
    rw [opensTag_append_close] at hopens'
    have hmark' : ¬commentMark <+: squeeze none false front := fun h' =>
      hmark (commentMark_squeeze (x := []) (h'.trans (List.prefix_append ..)))
    have hu' : Unclosed none (squeeze none false front) := by
      rwa [← unclosed_solid solidQuote_none, solid_squeeze, unclosed_solid solidQuote_none]
    have hq' : quoteAfter none (squeeze none false front) = none := by
      rw [← quoteAfter_solid solidQuote_none, solid_squeeze, quoteAfter_solid solidQuote_none, hq]
    rw [inRun_tagToken hq, List.cons_append, List.append_assoc, List.singleton_append,
      construct?_tag hopens' hmark' hu' hq', tagToken_squeeze hopens hq]

/-- A shown construct has the solid characters it was read from. -/
theorem solid_of_construct? {s rest : Text} {token : Token}
    (h : construct? s = some (token, rest)) : solid s = solid token.inRun ++ solid rest := by
  obtain ⟨inner, rfl, rfl, -⟩ | ⟨front, rfl, rfl, -, -, -, hq⟩ := construct?_cases h
  · exact solid_append ..
  · rw [inRun_tagToken hq, ← solid_append, List.cons_append, List.append_assoc,
      List.singleton_append, solid_cons_of_not_blank rfl, solid_cons_of_not_blank rfl,
      solid_append, solid_append, solid_squeeze]

/-- A shown construct starts with `<` and ends with `>`. -/
theorem inRun_of_construct? {s rest : Text} {token : Token}
    (h : construct? s = some (token, rest)) : ∃ inner, token.inRun = '<' :: (inner ++ ['>']) := by
  obtain ⟨inner, -, rfl, -⟩ | ⟨front, -, rfl, -, -, -, hq⟩ := construct?_cases h
  · exact ⟨['!', '-', '-'] ++ inner ++ ['-', '-'], by simp [Token.inRun, comment]⟩
  · exact ⟨_, inRun_tagToken hq⟩

/-! ## Stray marks -/

/-- Text that ends here or goes on with a `<`. -/
def StartsMarkup (x : Text) : Prop := x = [] ∨ ∃ y, x = '<' :: y

/-- Whether a mark holds neither a blank nor a `<`. -/
def isUnbroken (mark : Text) : Bool := mark.all fun c => !isBlank c && c != '<'

theorem prefix_firstWord {mark v x : Text} (hmark : isUnbroken mark = true)
    (hx : StartsMarkup x) : mark <+: v ++ x ↔ mark <+: firstWord v := by
  induction mark generalizing v with
  | nil => simp
  | cons m ms ih =>
    obtain ⟨⟨hm, hlt⟩, hms⟩ : (isBlank m = false ∧ m ≠ '<') ∧ isUnbroken ms = true := by
      simpa [isUnbroken] using hmark
    cases v with
    | nil =>
      obtain rfl | ⟨y, rfl⟩ := hx
      · rfl
      · simp [firstWord, hlt]
    | cons c cs =>
      have ih' := ih (v := cs) hms
      have hword : firstWord (c :: cs) = if !isBlank c then c :: firstWord cs else [] :=
        List.takeWhile_cons
      rw [List.cons_append, List.cons_prefix_cons, ih', hword]
      split
      · rw [List.cons_prefix_cons]
      · next hc =>
        have hmc : m ≠ c := by
          rintro rfl
          simp [hm] at hc
        simp [hmc]

theorem opensTag_firstWord {v x : Text} (hx : StartsMarkup x) :
    opensTag (v ++ x) = opensTag (firstWord v) := by
  rw [Bool.eq_iff_iff, opensTag_iff, opensTag_iff, prefix_firstWord (by rfl) hx]
  refine or_congr Iff.rfl (exists_congr fun c => and_congr_right fun hc => ?_)
  have hlt : c ≠ '<' := by rintro rfl; cases hc
  have hword : isUnbroken [c] = true := by
    simp [isUnbroken, isBlank_of_isAsciiLetter hc, hlt]
  have hclosing : isUnbroken ['/', c] = true := hword
  rw [prefix_firstWord hword hx, prefix_firstWord hclosing hx]

theorem construct?_eq_none_iff {r : Text} (h : ¬commentMark <+: r) :
    construct? ('<' :: r) = none ↔ (opensTag r = true → Unclosed none r) := by
  rw [construct?_of_not_comment h]
  split
  · next hopens => simp [hopens, splitTag?_eq_none_iff]
  · next hopens => simp [hopens]

/-- A stray `<` stays stray if the word right after it and the solid characters that follow are the
same. -/
theorem construct?_eq_none_of_solid {v v' x x' : Text} (hx : StartsMarkup x)
    (hx' : StartsMarkup x') (hmark : ¬commentMark <+: v) (hword : firstWord v = firstWord v')
    (hv : solid v = solid v') (hsolid : solid x = solid x')
    (h : construct? ('<' :: (v ++ x)) = none) : construct? ('<' :: (v' ++ x')) = none := by
  have hm : ¬commentMark <+: v ++ x := by
    rw [prefix_firstWord (by rfl) hx]
    intro h'
    exact hmark (h'.trans (List.takeWhile_prefix _))
  have hm' : ¬commentMark <+: v' ++ x' := by
    rwa [prefix_firstWord (by rfl) hx', ← hword, ← prefix_firstWord (by rfl) hx]
  rw [construct?_eq_none_iff hm, opensTag_firstWord hx] at h
  rw [construct?_eq_none_iff hm', opensTag_firstWord hx', ← hword]
  intro hopens
  have hu := h hopens
  rwa [← unclosed_solid solidQuote_none, solid_append, hv, hsolid, ← solid_append,
    unclosed_solid solidQuote_none] at hu

end Blockbook.Markup
