/-!
# Text

Text is a list of characters, so that a scanner takes it apart from the front and a proof follows
the list. `breakOn?` is the search every scanner is built from: it cuts a text at the first place
where a mark stands.
-/

namespace Blockbook

/-- Text is the list of its characters. -/
abbrev Text := List Char

/-- A string literal may stand wherever text is expected. -/
instance : Coe String Text := ⟨String.toList⟩

namespace Text

/-- What follows `mark` at the front of a text. -/
def after? : Text → Text → Option Text
  | [], s => some s
  | _ :: _, [] => none
  | m :: ms, c :: cs => if m = c then after? ms cs else none

/-- What stands before the first occurrence of `mark`, and what stands after it. -/
def breakOn? (mark s : Text) : Option (Text × Text) :=
  match after? mark s with
  | some rest => some ([], rest)
  | none =>
    match s with
    | [] => none
    | c :: cs => (breakOn? mark cs).map fun (before, rest) => (c :: before, rest)

/-- What stands before the last occurrence of `mark`, and what stands after it. -/
def breakOnLast? (mark s : Text) : Option (Text × Text) :=
  match s with
  | [] => (after? mark []).map fun rest => ([], rest)
  | c :: cs =>
    match breakOnLast? mark cs with
    | some (before, rest) => some (c :: before, rest)
    | none => (after? mark (c :: cs)).map fun rest => ([], rest)

/-- Whether `part` stands somewhere in `s`. -/
def contains (s part : Text) : Bool := (breakOn? part s).isSome

/-- The pieces of a text between the occurrences of a separating character. -/
def splitOn (separator : Char) : Text → List Text
  | [] => [[]]
  | c :: cs =>
    match splitOn separator cs with
    | [] => [[c]]
    | piece :: pieces => if c = separator then [] :: piece :: pieces else (c :: piece) :: pieces

/-- Writes `replacement` wherever the character `c` stands. -/
def substitute (c : Char) (replacement s : Text) : Text :=
  s.flatMap fun d => if d = c then replacement else [d]

/-- Lines joined by line feeds, with none after the last. -/
def unlines (lines : List Text) : Text := List.intercalate ['\n'] lines

/-- The digits of a number in base ten. -/
def ofNat (n : Nat) : Text := Nat.toDigits 10 n

/-- The digits of an integer in base ten, with a sign in front of a negative one. -/
def ofInt : Int → Text
  | .ofNat n => ofNat n
  | .negSucc n => '-' :: ofNat (n + 1)

/-- The digits of a number in base sixteen, in lower case and without leading zeros. -/
def hex (n : Nat) : Text := Nat.toDigits 16 n

theorem after?_eq_some_iff {mark s rest : Text} : after? mark s = some rest ↔ s = mark ++ rest := by
  fun_induction after? mark s with
  | case1 s => simp
  | case2 => simp
  | case3 c cs ms ih => simpa using ih
  | case4 m ms c cs h => simp [Ne.symm h]

/-- The two parts of a text cut at a mark, with the mark between them, are the text. -/
theorem eq_of_breakOn? {mark s before rest : Text} (h : breakOn? mark s = some (before, rest)) :
    s = before ++ mark ++ rest := by
  fun_induction breakOn? mark s generalizing before rest with
  | case1 s r hr =>
    obtain ⟨rfl, rfl⟩ : [] = before ∧ r = rest := by simpa using h
    simpa using after?_eq_some_iff.1 hr
  | case2 => simp at h
  | case3 c cs _ ih =>
    obtain ⟨⟨before', rest'⟩, hb, he⟩ := Option.map_eq_some_iff.1 h
    obtain ⟨rfl, rfl⟩ : c :: before' = before ∧ rest' = rest := by simpa using he
    simp [ih hb]

end Text

end Blockbook
