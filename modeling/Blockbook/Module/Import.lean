import Blockbook.Path
import Blockbook.Text.Blank
import Blockbook.Text.Word

/-!
# Imports of a module

An import stands at the start of a line and ends with its specifier between quotes. Between the two
there are blanks, or names and the word `from`. The template of a component is the last import whose
specifier contains the extension of templates.
-/

namespace Blockbook.Module

def isQuote (c : Char) : Bool := c = '\'' || c = '"'

/-- A character between the word `import` and the specifier. -/
def isClauseChar (c : Char) : Bool :=
  Text.isWord c || Text.isBlank c || c = '$' || c = '*' || c = '{' || c = '}' || c = ','

/-- Whether what stands between `import` and the specifier is blank, or names something to import:
blanks, at least one character, blanks, `from` and blanks. -/
def isClause (clause : Text) : Bool :=
  if clause.all Text.isBlank then !clause.isEmpty
  else
    let core := Text.trimEnd clause
    let names := core.take (core.length - 4)
    core.length < clause.length && core.drop (core.length - 4) = "from" && 3 ≤ names.length &&
      names.head?.any Text.isBlank && names.getLast?.any Text.isBlank

/-- A text between quotes at the front, which is not empty and ends at the next quote of either
kind, and what follows it. -/
def quoted? : Text → Option (Text × Text)
  | q :: s =>
    if isQuote q then
      match s.takeWhile (fun c => !isQuote c), s.dropWhile (fun c => !isQuote c) with
      | c :: cs, _ :: rest => some (c :: cs, rest)
      | _, _ => none
    else none
  | [] => none

/-- The specifier of the import at the start of a line, and what follows it. -/
def import? (line : Text) : Option (Text × Text) :=
  match Text.after? "import" (Text.trimStart line) with
  | none => none
  | some s =>
    if isClause (s.takeWhile isClauseChar) then quoted? (s.dropWhile isClauseChar) else none

theorem length_of_quoted? {s inner rest : Text} (h : quoted? s = some (inner, rest)) :
    rest.length < s.length := by
  unfold quoted? at h
  split at h
  · next q s =>
    split at h
    · split at h
      · next c cs d rest' hd =>
        simp only [Option.some.injEq, Prod.mk.injEq] at h
        obtain ⟨-, rfl⟩ := h
        have := (List.dropWhile_sublist (l := s) (fun c => !isQuote c)).length_le
        rw [hd] at this
        simp only [List.length_cons] at this ⊢
        omega
      · simp at h
    · simp at h
  · simp at h

theorem length_of_import? {line specifier rest : Text}
    (h : import? line = some (specifier, rest)) : rest.length < line.length := by
  unfold import? at h
  split at h
  · simp at h
  · next s hs =>
    split at h
    · have h₁ := length_of_quoted? h
      have h₂ := (List.dropWhile_sublist (l := s) isClauseChar).length_le
      have h₃ : s.length ≤ (Text.trimStart line).length := by
        rw [Text.after?_eq_some_iff.1 hs, List.length_append]
        omega
      have h₄ := (List.dropWhile_sublist (l := line) Text.isBlank).length_le
      unfold Text.trimStart at h₃
      omega
    · simp at h

/-- The specifiers imported by the rest of a module, which may be the start of a line. -/
def importsFrom (lineStart : Bool) (s : Text) : List Text :=
  match s with
  | [] => []
  | c :: cs =>
    match _h : if lineStart then import? (c :: cs) else none with
    | some (specifier, rest) => specifier :: importsFrom false rest
    | none => importsFrom (c = '\n') cs
termination_by s.length
decreasing_by
  · split at _h
    · exact length_of_import? ‹_›
    · simp at _h
  · simp

/-- The specifiers that a module imports, in order. -/
def imports (source : Text) : List Text := importsFrom true source

/-- The extension of templates. -/
def templateExtension : Text := ".html.twig"

/-- The path of the last import whose specifier contains an extension, seen from the directory of
the module. -/
def findImport? (extension source path : Text) : Option Text :=
  ((imports source).reverse.find? (Text.contains · extension)).map (Path.join (Path.parent path))

end Blockbook.Module
