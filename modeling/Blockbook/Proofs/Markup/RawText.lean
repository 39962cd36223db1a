import Blockbook.Proofs.Markup.Scan

/-!
# Raw text elements

The content of a raw text element ends at the first place where its closing tag stands: the name in
any case, then the end of a word, and a complete tag. A shown raw text element is read back, because
each place in its content is passed over for the same reason as before.

* `rawContent_read`: content and closing tag are found again before the same solid characters.
* `closing_of_rawContent`: the closing tag that is found has the name of the element.
-/

namespace Blockbook.Markup

open Text

/-- Whether a name ends where this text follows it. -/
def endsName : Text → Bool
  | c :: _ => c = '>' || c = '/' || isBlank c
  | [] => false

/-- A text starts like the closing tag of an element. -/
def AtRawClose (name s : Text) : Prop :=
  ∃ word more, s = '<' :: '/' :: (word ++ more) ∧ word.map lowerAscii = name ∧
    endsName more = true

/-- A name of letters only. -/
def LetterName (name : Text) : Prop := ∀ c ∈ name, isAsciiLetter c = true

theorem letterName_of_rawName? {token : Token} {name : Text} (h : token.rawName? = some name) :
    LetterName name := by
  have hall : (rawTextElements.all fun n => n.all isAsciiLetter) = true := rfl
  unfold Token.rawName? at h
  split at h
  · split at h
    · next hraw =>
      obtain rfl := Option.some.inj h
      exact List.all_eq_true.1 (List.all_eq_true.1 hall _ (List.contains_iff_mem.1 hraw))
    · cases h
  · cases h

theorem isAsciiLetter_of_lowerAscii {c : Char} (h : isAsciiLetter (lowerAscii c) = true) :
    isAsciiLetter c = true := by
  unfold lowerAscii at h
  split at h
  · next hc => simp [isAsciiLetter, hc.1, hc.2]
  · exact h

theorem eq_of_lowerAscii {c d : Char} (h : lowerAscii c = d) (hd : isAsciiLetter d = false) :
    c = d := by
  unfold lowerAscii at h
  split at h
  · next hc =>
    have hsmall : ∀ n : Fin 26, isAsciiLetter (Char.ofNat (n.val + 65 + 32)) = true := by decide
    have hlow : 65 ≤ c.toNat := hc.1
    have hhigh : c.toNat ≤ 90 := hc.2
    have hn := hsmall ⟨c.toNat - 65, by omega⟩
    rw [show c.toNat - 65 + 65 = c.toNat by omega, h, hd] at hn
    cases hn
  · exact h

theorem LetterName.of_map {name word : Text} (h : LetterName name)
    (hw : word.map lowerAscii = name) : LetterName word := by
  intro c hc
  apply isAsciiLetter_of_lowerAscii
  apply h
  rw [← hw]
  exact List.mem_map_of_mem hc

/-! ## Where a raw text element may end -/

theorem rawClose?_of_at {name s : Text} (h : AtRawClose name s) :
    rawClose? name s = construct? s := by
  obtain ⟨word, more, rfl, rfl, hends⟩ := h
  have htake : (('<' :: '/' :: (word ++ more)).take ('<' :: '/' :: word.map lowerAscii).length) =
      '<' :: '/' :: word := by
    simp
  have hdrop : (('<' :: '/' :: (word ++ more)).drop ('<' :: '/' :: word.map lowerAscii).length) =
      more := by
    simp
  have hmark : ('<' :: '/' :: word).map lowerAscii = '<' :: '/' :: word.map lowerAscii := rfl
  simp only [rawClose?]
  rw [htake, hdrop, if_pos hmark]
  cases more with
  | nil => cases hends
  | cons c more => exact if_pos hends

theorem rawClose?_of_not_at {name s : Text} (h : ¬AtRawClose name s) : rawClose? name s = none := by
  simp only [rawClose?]
  split
  · next hmark =>
    have hs := List.take_append_drop ('<' :: '/' :: name).length s
    obtain ⟨a, front, hfront, ha, hmark⟩ := List.map_eq_cons_iff.1 hmark
    obtain ⟨b, word, rfl, hb, hword⟩ := List.map_eq_cons_iff.1 hmark
    obtain rfl := eq_of_lowerAscii ha rfl
    obtain rfl := eq_of_lowerAscii hb rfl
    split
    · next c more hdrop =>
      split
      · next hc =>
        rw [hfront, hdrop] at hs
        exact absurd ⟨word, c :: more, hs.symm, hword, hc⟩ h
      · rfl
    · rfl
  · rfl

theorem AtRawClose.append {name v : Text} (h : AtRawClose name v) (x : Text) :
    AtRawClose name (v ++ x) := by
  obtain ⟨word, more, rfl, hword, hends⟩ := h
  cases more with
  | nil => cases hends
  | cons c more => exact ⟨word, c :: (more ++ x), by simp, hword, hends⟩

/-- What looks like a closing tag does not reach into markup that follows. -/
theorem AtRawClose.of_append {name v y : Text} (hname : LetterName name) (hv : v ≠ [])
    (h : AtRawClose name (v ++ '<' :: y)) : AtRawClose name v := by
  obtain ⟨word, more, hs, hword, hends⟩ := h
  match v, hv with
  | [c], _ => simp at hs
  | c :: d :: v, _ =>
    obtain ⟨rfl, rfl, hv⟩ : c = '<' ∧ d = '/' ∧ v ++ '<' :: y = word ++ more := by simpa using hs
    obtain ⟨a, rfl, ha⟩ | ⟨a, rfl, rfl⟩ := List.append_eq_append_iff.1 hv
    · cases a with
      | nil =>
        obtain rfl : '<' :: y = more := by simpa using ha
        cases hends
      | cons b a =>
        obtain ⟨rfl, -⟩ : '<' = b ∧ _ := by simpa using ha
        have := hname.of_map hword '<' (by simp)
        cases this
    · cases a with
      | nil => cases hends
      | cons b a => exact ⟨word, b :: a, rfl, hword, hends⟩

/-! ## The closing tag -/

theorem squeeze_append_letters {word : Text} (h : LetterName word) (g : Text) :
    squeeze none false (word ++ g) = word ++ squeeze none false g := by
  induction word with
  | nil => rfl
  | cons c cs ih =>
    have hc : isAsciiLetter c = true := h c (by simp)
    have hname : isNameChar c = true := by simp [isNameChar, hc]
    rw [List.cons_append, squeeze_cons (by simp [isBlank_of_isAsciiLetter hc]),
      nextQuote_of_isNameChar hname, ih fun d hd => h d (by simp [hd])]
    rfl

theorem endsName_squeeze {g x : Text} (h : endsName (g ++ '>' :: x) = true) (y : Text) :
    endsName (squeeze none false g ++ '>' :: y) = true := by
  cases g with
  | nil => rfl
  | cons c cs =>
    by_cases hc : isBlank c = true
    · rw [squeeze_cons_of_blank hc]
      clear hc h
      induction cs with
      | nil => rfl
      | cons d ds ih =>
        by_cases hd : isBlank d = true
        · rw [squeeze_cons_of_blank hd, ih]
        · rw [squeeze_cons (by simpa using hd)]
          rfl
    · rw [squeeze_cons (by simpa using hc)]
      exact h

/-- The closing tag of a raw text element, taken apart. -/
theorem atRawClose_cases {name s rest : Text} {close : Token} (hname : LetterName name)
    (hat : AtRawClose name s) (h : construct? s = some (close, rest)) :
    ∃ word g, LetterName word ∧ word.map lowerAscii = name ∧ endsName (g ++ '>' :: rest) = true ∧
      close = tagToken ('/' :: (word ++ g) ++ ['>']) ∧
      quoteAfter none ('/' :: (word ++ g)) = none := by
  obtain ⟨word, more, rfl, hword, hends⟩ := hat
  have hletters := hname.of_map hword
  obtain ⟨inner, hs, -, -⟩ | ⟨front, hs, rfl, hopens, -, -, hq⟩ := construct?_cases h
  · simp [comment] at hs
  · cases front with
    | nil => cases hopens
    | cons c f =>
      obtain ⟨rfl, hf⟩ : '/' = c ∧ word ++ more = f ++ '>' :: rest := by simpa using hs
      obtain ⟨a, rfl, rfl⟩ | ⟨a, rfl, ha⟩ := List.append_eq_append_iff.1 hf
      · exact ⟨word, a, hletters, hword, hends, rfl, hq⟩
      · cases a with
        | nil =>
          obtain rfl : '>' :: rest = more := by simpa using ha
          exact ⟨f, [], by simpa using hletters, by simpa using hword, rfl, by simp,
            by simpa using hq⟩
        | cons b a =>
          obtain ⟨rfl, -⟩ : '>' = b ∧ _ := by simpa using ha
          have := hletters '>' (by simp)
          cases this

theorem atRawClose_inRun {name s rest : Text} {close : Token} (hname : LetterName name)
    (hat : AtRawClose name s) (h : construct? s = some (close, rest)) (x : Text) :
    AtRawClose name (close.inRun ++ x) := by
  obtain ⟨word, g, hletters, hword, hends, rfl, hq⟩ := atRawClose_cases hname hat h
  refine ⟨word, squeeze none false g ++ '>' :: x, ?_, hword, endsName_squeeze hends x⟩
  rw [inRun_tagToken hq, squeeze_cons (by decide), show nextQuote none '/' = none from rfl,
    squeeze_append_letters hletters]
  simp

/-- The closing tag that is found has the name of the element. -/
theorem closing_of_atRawClose {name s rest : Text} {close : Token} (hname : LetterName name)
    (hat : AtRawClose name s) (h : construct? s = some (close, rest)) :
    ∃ tag, close = .closing name tag := by
  obtain ⟨word, g, hletters, hword, hends, rfl, hq⟩ := atRawClose_cases hname hat h
  refine ⟨normalizeTag ('<' :: ('/' :: (word ++ g) ++ ['>'])), ?_⟩
  have hstop : (g ++ ['>']).takeWhile isNameChar = [] := by
    cases g with
    | nil => rfl
    | cons c g =>
      have hc : isNameChar c = false := by
        by_contra hn
        have hn' : isNameChar c = true := by simpa using hn
        have hblank := isBlank_of_isNameChar hn'
        rcases (by simpa [endsName, hblank] using hends : c = '>' ∨ c = '/') with rfl | rfl <;>
          cases hn'
      simp [hc]
  have htake : (word ++ (g ++ ['>'])).takeWhile isNameChar = word := by
    rw [List.takeWhile_append_of_pos fun c hc => by simp [isNameChar, hletters c hc], hstop,
      List.append_nil]
  have hel : elementName (word ++ g ++ ['>']) = name := by
    rw [elementName, List.append_assoc, htake, hword]
  exact congrArg (Token.closing · _) hel

/-! ## The content -/

theorem rawContent_of_close {name s : Text} {found : Token × Text}
    (h : rawClose? name s = some found) : rawContent name s = ([], some found) := by
  unfold rawContent
  rw [h]

theorem rawContent_of_none {name : Text} {c : Char} {cs : Text}
    (h : rawClose? name (c :: cs) = none) :
    rawContent name (c :: cs) = (c :: (rawContent name cs).1, (rawContent name cs).2) := by
  conv => lhs; unfold rawContent
  rw [h]

/-- The content goes up to the first place where the closing tag stands. -/
theorem rawContent_closed {name s content rest : Text} {close : Token}
    (h : rawContent name s = (content, some (close, rest))) :
    ∃ t, s = content ++ t ∧ rawClose? name t = some (close, rest) ∧
      ∀ v, v ≠ [] → v <:+ content → rawClose? name (v ++ t) = none := by
  induction s generalizing content with
  | nil =>
    unfold rawContent at h
    split at h
    · next hf =>
      obtain ⟨rfl, hfound⟩ := Prod.mk.inj h
      refine ⟨[], rfl, hf.trans hfound, ?_⟩
      intro v hv hsuffix
      exact absurd (List.suffix_nil.1 hsuffix) hv
    · cases h
  | cons c cs ih =>
    cases hc : rawClose? name (c :: cs) with
    | some found =>
      rw [rawContent_of_close hc] at h
      obtain ⟨rfl, hf⟩ := Prod.mk.inj h
      refine ⟨c :: cs, rfl, hc.trans hf, ?_⟩
      intro v hv hsuffix
      exact absurd (List.suffix_nil.1 hsuffix) hv
    | none =>
      rw [rawContent_of_none hc] at h
      obtain ⟨rfl, hf⟩ := Prod.mk.inj h
      obtain ⟨t, hs, ht, hnone⟩ := ih (Prod.ext rfl hf)
      refine ⟨t, congrArg (c :: ·) hs, ht, ?_⟩
      intro v hv hsuffix
      obtain rfl | hsuffix := List.suffix_cons_iff.1 hsuffix
      · rwa [List.cons_append, ← hs]
      · exact hnone v hv hsuffix

theorem rawContent_append {name content t : Text} {found : Token × Text}
    (ht : rawClose? name t = some found)
    (h : ∀ v, v ≠ [] → v <:+ content → rawClose? name (v ++ t) = none) :
    rawContent name (content ++ t) = (content, some found) := by
  induction content with
  | nil => exact rawContent_of_close ht
  | cons c cs ih =>
    have hcs := ih fun v hv hsuffix => h v hv (hsuffix.trans (List.suffix_cons ..))
    have hfront : rawClose? name (c :: (cs ++ t)) = none :=
      h (c :: cs) (by simp) (List.suffix_refl _)
    rw [List.cons_append, rawContent_of_none hfront, hcs]

/-- A raw text element that does not end takes all there is. -/
theorem rawContent_open {name s content : Text} (h : rawContent name s = (content, none)) :
    content = s := by
  induction s generalizing content with
  | nil =>
    unfold rawContent at h
    split at h
    · cases h
    · exact (Prod.mk.inj h).1.symm
  | cons c cs ih =>
    cases hc : rawClose? name (c :: cs) with
    | some found =>
      rw [rawContent_of_close hc] at h
      cases h
    | none =>
      rw [rawContent_of_none hc] at h
      obtain ⟨rfl, hf⟩ := Prod.mk.inj h
      exact congrArg (c :: ·) (ih (Prod.ext rfl hf))

theorem construct?_of_rawClose? {name s : Text} {found : Token × Text}
    (h : rawClose? name s = some found) : AtRawClose name s ∧ construct? s = some found := by
  by_cases hat : AtRawClose name s
  · rw [rawClose?_of_at hat] at h
    exact ⟨hat, h⟩
  · rw [rawClose?_of_not_at hat] at h
    cases h

/-- The closing tag that is found has the name of the element. -/
theorem closing_of_rawContent {name s content rest : Text} {close : Token}
    (hname : LetterName name) (h : rawContent name s = (content, some (close, rest))) :
    ∃ tag, close = .closing name tag := by
  obtain ⟨t, -, ht, -⟩ := rawContent_closed h
  obtain ⟨hat, hc⟩ := construct?_of_rawClose? ht
  exact closing_of_atRawClose hname hat hc

theorem suffix_of_rawContent {name s content rest : Text} {close : Token}
    (h : rawContent name s = (content, some (close, rest))) : rest <:+ s := by
  obtain ⟨t, rfl, ht, -⟩ := rawContent_closed h
  exact (suffix_of_construct? (construct?_of_rawClose? ht).2).trans (List.suffix_append ..)

theorem solid_of_rawContent {name s content rest : Text} {close : Token}
    (h : rawContent name s = (content, some (close, rest))) :
    solid s = solid content ++ solid close.inRun ++ solid rest := by
  obtain ⟨t, rfl, ht, -⟩ := rawContent_closed h
  rw [solid_append, solid_of_construct? (construct?_of_rawClose? ht).2, List.append_assoc]

/-- Content and closing tag are found again before the same solid characters. -/
theorem rawContent_read {name s content rest x : Text} {close : Token} (hname : LetterName name)
    (h : rawContent name s = (content, some (close, rest))) (hx : solid x = solid rest) :
    rawContent name (content ++ (close.inRun ++ x)) = (content, some (close, x)) := by
  obtain ⟨t, rfl, ht, hnone⟩ := rawContent_closed h
  obtain ⟨hat, hc⟩ := construct?_of_rawClose? ht
  obtain ⟨inner, hinner⟩ := inRun_of_construct? hc
  have hshown : close.inRun ++ x = '<' :: (inner ++ ['>'] ++ x) := by
    rw [hinner]
    rfl
  have hclose : rawClose? name (close.inRun ++ x) = some (close, x) := by
    rw [rawClose?_of_at (atRawClose_inRun hname hat hc x), construct?_inRun hc]
  refine rawContent_append hclose ?_
  intro v hv hsuffix
  -- A place in the content that looks like the closing tag looked like it before, and was passed
  -- over because no tag ends after it. That is still so.
  by_cases hv' : AtRawClose name v
  · have hbefore := hnone v hv hsuffix
    rw [rawClose?_of_at (hv'.append _)] at hbefore ⊢
    obtain ⟨word, more, rfl, -, -⟩ := hv'
    obtain ⟨tword, tmore, rfl, -, -⟩ := hat
    refine construct?_eq_none_of_solid (.inr ⟨_, rfl⟩) (.inr ⟨_, hshown⟩) ?_ rfl rfl ?_ hbefore
    · simp [commentMark]
    · rw [solid_of_construct? hc, solid_append, hx]
  · rw [rawClose?_of_not_at]
    rw [hshown]
    exact fun hat' => hv' (hat'.of_append hname hv)

end Blockbook.Markup
