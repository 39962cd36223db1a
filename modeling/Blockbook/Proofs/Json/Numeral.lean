import Blockbook.Json.Parser
import Blockbook.Proofs.Decimal.Shortest

/-!
# Numbers as they are written

Every number is written as a numeral that is read again, whatever its size: one or more digits
without a zero in front, a fraction that has a digit, an exponent that has one. What the numeral
stands for may differ from the number when that is a double; an integer of 64 bits and the negative
zero come back as they are.

* `numeral?_text`: a numeral is read as far as it is written.
* `Number.write_eq`: a number is written as its numeral.
* `Number.ofNumeral_numeral`: the numeral of a whole number stands for the number.
-/

namespace Blockbook.Json

/-! ## Digits -/

/-- One or more digits. -/
structure IsDigits (ds : Text) : Prop where
  ne_nil : ds ≠ []
  all : ∀ c ∈ ds, isDigit c = true

/-- What may follow a number: the end of the text, of the item or of the member. -/
def EndsValue (rest : Text) : Prop := ∀ c ∈ rest.head?, c = ',' ∨ c = ']' ∨ c = '}'

theorem digits?_append {ds rest : Text} (hds : IsDigits ds)
    (hrest : ∀ c ∈ rest.head?, isDigit c = false) : digits? (ds ++ rest) = some (ds, rest) := by
  have hnone : rest.takeWhile isDigit = [] ∧ rest.dropWhile isDigit = rest := by
    cases rest with
    | nil => exact ⟨rfl, rfl⟩
    | cons c cs => simp [hrest c rfl]
  rw [digits?, List.takeWhile_append_of_pos hds.all, List.dropWhile_append_of_pos hds.all, hnone.1,
    hnone.2, List.append_nil]
  obtain ⟨c, cs, rfl⟩ := List.exists_cons_of_ne_nil hds.ne_nil
  rfl

theorem isDigit_eq (c : Char) : isDigit c = c.isDigit := by
  simp only [isDigit, Char.isDigit, Char.le_def]

theorem isDigits_ofNat (n : Nat) : IsDigits (Text.ofNat n) where
  ne_nil := Nat.toDigits_ne_nil
  all c hc := by
    rw [isDigit_eq]
    exact Nat.isDigit_of_mem_toDigits (by decide) (by decide) hc

theorem IsDigits.append {ds es : Text} (hds : IsDigits ds) (hes : ∀ c ∈ es, isDigit c = true) :
    IsDigits (ds ++ es) where
  ne_nil := by simp [hds.ne_nil]
  all c hc := (List.mem_append.1 hc).elim (hds.all c) (hes c)

theorem IsDigits.head?_append {ds : Text} (hds : IsDigits ds) (es : Text) :
    (ds ++ es).head? = ds.head? := by
  obtain ⟨c, cs, rfl⟩ := List.exists_cons_of_ne_nil hds.ne_nil
  rfl

theorem IsDigits.take {ds : Text} (hds : IsDigits ds) (k : Nat) : IsDigits (ds.take (k + 1)) where
  ne_nil := by simp [hds.ne_nil]
  all c hc := hds.all c (List.mem_of_mem_take hc)

theorem IsDigits.drop {ds : Text} (hds : IsDigits ds) {k : Nat} (hk : k < ds.length) :
    IsDigits (ds.drop k) where
  ne_nil := by simpa using hk
  all c hc := hds.all c (List.mem_of_mem_drop hc)

theorem isDigit_of_mem_replicate {n : Nat} {c : Char} (h : c ∈ List.replicate n '0') :
    isDigit c = true := by
  rw [List.eq_of_mem_replicate h]
  rfl

@[simp] theorem natValue_ofNat (n : Nat) : Numeral.natValue (Text.ofNat n) = n :=
  Nat.ofDigitChars_ten_toDigits

/-- A number that is not zero starts with a digit that is not zero. -/
theorem head?_ofNat {n : Nat} (h : 0 < n) : (Text.ofNat n).head? ≠ some '0' := by
  induction n using Nat.strongRecOn with
  | _ n ih =>
    rw [Text.ofNat, Nat.toDigits_eq_if (by decide)]
    split
    · next hlt =>
      have hdigit : ∀ d < 10, 0 < d → some (Nat.digitChar d) ≠ some '0' := by decide
      exact hdigit n hlt h
    · next hge =>
      have htail := ih (n / 10) (by omega) (by omega)
      obtain ⟨c, cs, hcs⟩ :=
        List.exists_cons_of_ne_nil (Nat.toDigits_ne_nil (b := 10) (n := n / 10))
      rw [Text.ofNat, hcs] at htail
      rwa [hcs]

/-! ## Numerals -/

namespace Numeral

/-- The digits after the point, with the point. -/
def fractionText : Option Text → Text
  | none => []
  | some ds => '.' :: ds

/-- The exponent with its sign. -/
def exponentText : Option (Bool × Text) → Text
  | none => []
  | some (negative, ds) => 'e' :: (if negative then '-' else '+') :: ds

/-- A numeral without its sign. -/
def unsignedText (n : Numeral) : Text :=
  n.whole ++ (fractionText n.fraction ++ exponentText n.exponent)

/-- A numeral as text. -/
def text (n : Numeral) : Text := if n.negative then '-' :: n.unsignedText else n.unsignedText

/-- A numeral that can be read: each part has a digit, and no zero stands in front of the others. -/
structure WellFormed (n : Numeral) : Prop where
  whole : IsDigits n.whole
  front : n.whole = ['0'] ∨ n.whole.head? ≠ some '0'
  fraction : ∀ ds ∈ n.fraction, IsDigits ds
  exponent : ∀ e ∈ n.exponent, IsDigits e.2

end Numeral

section Reading

variable {n : Numeral} {rest : Text}

theorem EndsValue.not_digit (h : EndsValue rest) : ∀ c ∈ rest.head?, isDigit c = false := by
  intro c hc
  obtain rfl | rfl | rfl := h c hc <;> rfl

theorem exponent?_exponentText {e : Option (Bool × Text)} (he : ∀ e' ∈ e, IsDigits e'.2)
    (hrest : EndsValue rest) : exponent? (Numeral.exponentText e ++ rest) = some (e, rest) := by
  cases e with
  | none =>
    rw [Numeral.exponentText, List.nil_append, exponent?]
    · rintro s rfl
      simpa using hrest 'e' rfl
    · rintro s rfl
      simpa using hrest 'E' rfl
  | some e =>
    obtain ⟨negative, ds⟩ := e
    have hds := digits?_append (he _ rfl) hrest.not_digit
    cases negative <;> simp [Numeral.exponentText, exponent?, exponentDigits?, hds]

/-- What follows the digits before the point starts with none. -/
theorem not_digit_afterWhole (hrest : EndsValue rest) (f : Option Text) (e : Option (Bool × Text)) :
    ∀ c ∈ (Numeral.fractionText f ++ (Numeral.exponentText e ++ rest)).head?,
      isDigit c = false := by
  intro c hc
  cases f with
  | some ds =>
    obtain rfl : '.' = c := by simpa [Numeral.fractionText] using hc
    rfl
  | none =>
    cases e with
    | some e =>
      obtain rfl : 'e' = c := by simpa [Numeral.fractionText, Numeral.exponentText] using hc
      rfl
    | none => exact hrest.not_digit c hc

theorem fractionDigits?_fractionText {f : Option Text} (hf : ∀ ds ∈ f, IsDigits ds)
    (hrest : EndsValue rest) (e : Option (Bool × Text)) :
    fractionDigits? (Numeral.fractionText f ++ (Numeral.exponentText e ++ rest)) =
      some (f, Numeral.exponentText e ++ rest) := by
  cases f with
  | none =>
    rw [Numeral.fractionText, List.nil_append, fractionDigits?]
    intro s hs
    cases e with
    | none => simpa using hrest '.' (by rw [show rest = '.' :: s from hs]; rfl)
    | some e => simp [Numeral.exponentText] at hs
  | some ds =>
    have hds := digits?_append (hf ds rfl) (not_digit_afterWhole hrest none e)
    simpa [Numeral.fractionText, fractionDigits?] using hds

/-- A numeral is read as far as it is written. -/
theorem numeral?_text (h : n.WellFormed) (hrest : EndsValue rest) :
    numeral? n.negative (n.unsignedText ++ rest) = some (n, rest) := by
  have hwhole : wholeDigits? (n.unsignedText ++ rest) =
      some (n.whole, Numeral.fractionText n.fraction ++
        (Numeral.exponentText n.exponent ++ rest)) := by
    rw [Numeral.unsignedText, List.append_assoc, List.append_assoc, wholeDigits?,
      digits?_append h.whole (not_digit_afterWhole hrest n.fraction n.exponent)]
    split
    · next d ds s heq =>
      obtain ⟨hd, -⟩ := Prod.mk.inj (Option.some.inj heq)
      have hfront := h.front
      simp [hd] at hfront
    · rfl
  rw [numeral?, hwhole]
  simp only [fractionDigits?_fractionText h.fraction hrest n.exponent,
    exponent?_exponentText h.exponent hrest]

end Reading

/-! ## The numeral of a number -/

/-- The numeral that a decimal is written as. -/
def NumberFormat.numeral (format : NumberFormat) (negative : Bool) (d : Decimal) : Numeral :=
  let digits := Text.ofNat d.digits
  let top : Int := d.exponent + (digits.length - 1 : Nat)
  if format.leastPlain ≤ top ∧ top ≤ format.greatestPlain then
    if top < 0 then ⟨negative, ['0'], some (List.replicate (top.natAbs - 1) '0' ++ digits), none⟩
    else
      let point := top.natAbs + 1
      if point < digits.length then ⟨negative, digits.take point, some (digits.drop point), none⟩
      else ⟨negative, digits ++ List.replicate (point - digits.length) '0', some ['0'], none⟩
  else
    ⟨negative, digits.take 1, if digits.length = 1 then none else some (digits.drop 1),
      some (decide (top < 0), Text.ofNat top.natAbs)⟩

theorem NumberFormat.write_eq (format : NumberFormat) (negative : Bool) (d : Decimal) :
    format.write d = (format.numeral negative d).unsignedText := by
  obtain ⟨c, cs, hcs⟩ := List.exists_cons_of_ne_nil (isDigits_ofNat d.digits).ne_nil
  have hsign : ∀ top : Int, (if top < 0 then ['e', '-'] else ['e', '+']) =
      ['e', if top < 0 then '-' else '+'] := by
    intro top
    split <;> rfl
  simp only [write, numeral, Numeral.unsignedText, hcs]
  split
  · split
    · simp [Numeral.fractionText, Numeral.exponentText]
    · split <;> simp [Numeral.fractionText, Numeral.exponentText]
  · cases cs <;> simp [Numeral.fractionText, Numeral.exponentText, hsign]

theorem NumberFormat.negative_numeral (format : NumberFormat) (negative : Bool) (d : Decimal) :
    (format.numeral negative d).negative = negative := by
  simp only [numeral]
  repeat' split
  all_goals rfl

theorem NumberFormat.wellFormed_numeral (format : NumberFormat) (negative : Bool) {d : Decimal}
    (hd : 0 < d.digits) : (format.numeral negative d).WellFormed := by
  have hdigits := isDigits_ofNat d.digits
  have hfront := head?_ofNat hd
  simp only [numeral]
  split
  · split
    · refine ⟨⟨by simp, by simp [isDigit]⟩, .inl rfl, ?_, by simp⟩
      rintro ds ⟨⟩
      exact ⟨by simp [hdigits.ne_nil], fun c hc => (List.mem_append.1 hc).elim
        isDigit_of_mem_replicate (hdigits.all c)⟩
    · split
      · next hpoint =>
        refine ⟨hdigits.take _, .inr (by simpa [List.head?_take] using hfront), ?_, by simp⟩
        rintro ds ⟨⟩
        exact hdigits.drop hpoint
      · refine ⟨hdigits.append fun c => isDigit_of_mem_replicate, .inr ?_, ?_, by simp⟩
        · rwa [hdigits.head?_append]
        · rintro ds ⟨⟩
          exact ⟨by simp, by simp [isDigit]⟩
  · refine ⟨hdigits.take 0, .inr (by simpa [List.head?_take] using hfront), ?_, ?_⟩
    · intro ds hds
      split at hds
      · cases hds
      · next hlen =>
        obtain rfl := Option.some.inj hds
        have := List.length_pos_iff.2 hdigits.ne_nil
        exact hdigits.drop (by omega)
    · rintro e ⟨⟩
      exact isDigits_ofNat _

namespace Number

/-- The numeral that a number is written as. -/
def numeral : Number → Numeral
  | .int n => ⟨n < 0, Text.ofNat n.natAbs, none, none⟩
  | .double bits =>
    let d := Double.ofBits bits
    if d.significand = 0 then ⟨d.negative, ['0'], some ['0'], none⟩
    else numberFormat.numeral d.negative (Decimal.shortest d.significand d.exponent d.narrow)

/-- A double is written as its numeral, whichever decimal is chosen for it. -/
theorem signed_write_eq (d : Double) (e : Decimal) :
    (if d.significand = 0 then (if d.negative then "-" else "" : Text) ++ "0.0".toList
      else (if d.negative then "-" else "" : Text) ++ numberFormat.write e) =
    (if d.significand = 0 then (⟨d.negative, ['0'], some ['0'], none⟩ : Numeral)
      else numberFormat.numeral d.negative e).text := by
  split
  · cases d.negative <;>
      simp [Numeral.text, Numeral.unsignedText, Numeral.fractionText, Numeral.exponentText]
  · rw [Numeral.text, NumberFormat.negative_numeral, NumberFormat.write_eq _ d.negative]
    cases d.negative <;> simp

/-- A number is written as its numeral. -/
theorem write_eq (n : Number) : n.write = n.numeral.text := by
  match n with
  | .int (.ofNat n) | .int (.negSucc n) =>
    simp [write, numeral, Text.ofInt, Numeral.text, Numeral.unsignedText, Numeral.fractionText,
      Numeral.exponentText]
  | .double bits =>
    rw [write, numeral]
    exact signed_write_eq _ _

theorem wellFormed_numeral (n : Number) : n.numeral.WellFormed := by
  have hzero : IsDigits ['0'] := ⟨by simp, by simp [isDigit]⟩
  match n with
  | .int n =>
    refine ⟨isDigits_ofNat _, ?_, by simp [numeral], by simp [numeral]⟩
    by_cases h : n.natAbs = 0
    · exact .inl (by simp [numeral, h, Text.ofNat])
    · exact .inr (head?_ofNat (Nat.pos_of_ne_zero h))
  | .double bits =>
    have hexponent : -1074 ≤ (Double.ofBits bits).exponent := by
      simp only [Double.ofBits]
      split <;> omega
    rw [numeral]
    split
    · exact ⟨hzero, .inl rfl, by rintro ds ⟨⟩; exact hzero, by simp⟩
    · next h =>
      exact NumberFormat.wellFormed_numeral _ _
        (Decimal.shortest_digits_pos (Nat.pos_of_ne_zero h) hexponent _)

/-- The double that `-0` stands for. -/
def negativeZero : UInt64 := 0x8000000000000000

/-- A number that an integer may be read as: an integer of 64 bits, or the negative zero. -/
def IsWhole : Number → Prop
  | .int n => -(wordBound / 2 : Nat) ≤ n ∧ n < wordBound
  | .double bits => bits = negativeZero

/-- The numeral of a whole number stands for the number. -/
theorem ofNumeral_numeral {n : Number} (h : n.IsWhole) : ofNumeral n.numeral = .number n := by
  have hvalue : n.numeral.value? = some n := by
    match n with
    | .int n =>
      obtain ⟨hleast, hgreatest⟩ := h
      simp only [numeral, Numeral.value?, natValue_ofNat, Option.isSome_none, Bool.or_self,
        Bool.false_eq_true, if_false, Bool.and_eq_true, decide_eq_true_eq]
      by_cases hn : n < 0
      · have hsize : 0 < n.natAbs ∧ n.natAbs ≤ wordBound / 2 := by omega
        have hback : -(n.natAbs : Int) = n := by omega
        rw [if_pos hn, if_pos hsize, hback]
      · have hsize : n.natAbs < wordBound := by omega
        have hback : (n.natAbs : Int) = n := by omega
        rw [if_neg hn, if_pos hsize, hback]
    | .double bits =>
      obtain rfl : bits = negativeZero := h
      decide +kernel
  rw [ofNumeral, hvalue]

end Number

theorem isSpace_of_isDigit {c : Char} (hc : isDigit c = true) : isSpace c = false := by
  rw [Bool.eq_false_iff]
  intro hspace
  simp only [isSpace, Bool.or_eq_true, decide_eq_true_eq] at hspace
  obtain ((rfl | rfl) | rfl) | rfl := hspace <;> cases hc

theorem parseValue?_of_isDigit {c : Char} (hc : isDigit c = true) (fuel depth : Nat) (s : Text) :
    parseValue? (fuel + 1) depth (c :: s) =
      (numeral? false (c :: s)).map fun (n, rest) => (ofNumeral n, rest) := by
  have hspace : skipSpace (c :: s) = c :: s := by simp [skipSpace, isSpace_of_isDigit hc]
  rw [parseValue?, hspace]
  -- No other value starts with a digit.
  split <;> first | rfl | (next heq => obtain ⟨rfl, -⟩ := List.cons.inj heq; cases hc)

/-- A number is read as far as it is written. -/
theorem parseValue?_number (n : Number) {rest : Text} (hrest : EndsValue rest) (fuel depth : Nat) :
    parseValue? (fuel + 1) depth (n.write ++ rest) = some (ofNumeral n.numeral, rest) := by
  have hread := numeral?_text n.wellFormed_numeral hrest
  rw [Number.write_eq, Numeral.text]
  split
  · next hneg =>
    rw [hneg] at hread
    rw [List.cons_append, parseValue?]
    simp [skipSpace, isSpace, hread]
  · next hneg =>
    obtain ⟨c, cs, hcs⟩ := List.exists_cons_of_ne_nil n.wellFormed_numeral.whole.ne_nil
    have hc : isDigit c = true := n.wellFormed_numeral.whole.all c (by simp [hcs])
    rw [Bool.not_eq_true] at hneg
    rw [hneg, Numeral.unsignedText, hcs] at hread
    rw [Numeral.unsignedText, hcs]
    simp only [List.cons_append] at hread ⊢
    rw [parseValue?_of_isDigit hc, hread]
    rfl

end Blockbook.Json
