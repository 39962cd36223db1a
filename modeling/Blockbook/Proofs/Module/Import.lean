import Blockbook.Module.Import
import Blockbook.Proofs.Blank
import Blockbook.Proofs.Search
import Blockbook.Proofs.Split

/-!
# Imports are found as they are written

A module starts with import statements, one a line, of which some name what they import and some do
not. What stands between `import` and the specifier runs up to the quote, so it does not matter that
names may themselves contain `from`, and no statement reaches into the next one: after a specifier
the rest of its line is passed over.

* `import?_source`: a statement is read as far as its specifier.
* `importsFrom_ending`: what ends a statement leads to the next line.
* `imports_source`: the specifiers of a module, and the last one with an extension.
-/

namespace Blockbook.Module

/-! ## Specifiers -/

/-- What stands between quotes is read up to the closing quote, which may be of either kind. -/
theorem quoted?_append {opening closing : Char} (hopening : isQuote opening = true)
    (hclosing : isQuote closing = true) {inner : Text} (hne : inner ≠ [])
    (hinner : ∀ c ∈ inner, isQuote c = false) (rest : Text) :
    quoted? (opening :: (inner ++ closing :: rest)) = some (inner, rest) := by
  have hall : ∀ c ∈ inner, (!isQuote c) = true := fun c hc => by rw [hinner c hc]; rfl
  have hstop : (!isQuote closing) = false := by rw [hclosing]; rfl
  rw [quoted?, if_pos hopening, Text.takeWhile_append_cons hall hstop,
    Text.dropWhile_append_cons hall hstop]
  obtain ⟨c, cs, rfl⟩ := List.exists_cons_of_ne_nil hne
  rfl

/-! ## Statements -/

/-- The word `from` is looked for at the end, so the names before it may be anything. -/
theorem isClause_names {names : Text} (hne : names ≠ []) :
    isClause (' ' :: (names ++ [' ', 'f', 'r', 'o', 'm', ' '])) = true := by
  have hsplit : ' ' :: (names ++ [' ', 'f', 'r', 'o', 'm', ' ']) =
      (' ' :: (names ++ [' '])) ++ ['f', 'r', 'o', 'm'] ++ [' '] := by simp
  have hlength : 3 ≤ (' ' :: (names ++ [' '])).length := by
    have := List.length_pos_iff.2 hne
    simp only [List.length_cons, List.length_append, List.length_nil]
    omega
  have hlast : (' ' :: (names ++ [' '])).getLast? = some ' ' := by
    rw [← List.cons_append, List.getLast?_concat]
  rw [hsplit]
  generalize hfront : ' ' :: (names ++ [' ']) = front at hlength hlast
  have hsolid : ¬((front ++ ['f', 'r', 'o', 'm'] ++ [' ']).all Text.isBlank = true) := by
    rw [List.all_append, List.all_append, Bool.and_eq_true, Bool.and_eq_true]
    exact fun h => absurd h.1.2 (by decide)
  have hcore : Text.trimEnd (front ++ ['f', 'r', 'o', 'm'] ++ [' ']) =
      front ++ ['f', 'r', 'o', 'm'] := by
    have hblank : Text.AllBlank [' '] := Text.allBlank_replicate 1
    have hm : front ++ ['f', 'r', 'o', 'm'] = (front ++ ['f', 'r', 'o']) ++ ['m'] := by simp
    rw [Text.trimEnd_append_of_allBlank hblank, hm]
    exact Text.trimEnd_of_last_not_blank (by decide) _
  have hcut : (front ++ ['f', 'r', 'o', 'm']).length - 4 = front.length := by simp
  have hhead : front.head?.any Text.isBlank = true := by rw [← hfront]; rfl
  rw [isClause, if_neg hsolid]
  simp only [hcore, hcut, List.take_left', List.drop_left', hhead, hlast]
  simp [hlength]
  decide

/-- An import statement. -/
structure ImportStatement where
  /-- The names that are imported, if the statement has any. -/
  names? : Option Text
  names_chars : ∀ names ∈ names?, ∀ c ∈ names,
    Text.isWord c = true ∨ c ∈ ['$', '*', '{', '}', ',', ' ']
  names_solid : ∀ names ∈ names?, ∃ c ∈ names, c ≠ ' '
  quote : Char
  isQuote_quote : quote = '\'' ∨ quote = '"'
  specifier : Text
  specifier_ne_nil : specifier ≠ []
  specifier_chars : ∀ c ∈ specifier, c ≠ '\'' ∧ c ≠ '"' ∧ c ≠ '\n'
  /-- Whether a semicolon ends the statement. -/
  ended : Bool

namespace ImportStatement

variable (s : ImportStatement)

/-- What stands between `import` and the specifier. -/
def clause : Text :=
  match s.names? with
  | some names => ' ' :: (names ++ [' ', 'f', 'r', 'o', 'm', ' '])
  | none => [' ']

/-- What stands after the specifier. -/
def ending : Text := if s.ended then [';'] else []

/-- A statement as it is written. -/
def source : Text :=
  'i' :: ("mport" ++ (s.clause ++ s.quote :: (s.specifier ++ s.quote :: s.ending)))

theorem isClauseChar_of_mem {c : Char} (h : c ∈ s.clause) : isClauseChar c = true := by
  have hfixed : [' ', 'f', 'r', 'o', 'm', ' '].all isClauseChar = true := by decide
  unfold clause at h
  split at h
  · next names hnames =>
    obtain rfl | h := List.mem_cons.1 h
    · decide
    · obtain h | h := List.mem_append.1 h
      · obtain hword | h := s.names_chars names hnames c h
        · simp [isClauseChar, hword]
        · have hsigns : ['$', '*', '{', '}', ',', ' '].all isClauseChar = true := by decide
          exact List.all_eq_true.1 hsigns c h
      · exact List.all_eq_true.1 hfixed c h
  · obtain rfl := List.mem_singleton.1 h
    decide

theorem isClause_clause : isClause s.clause = true := by
  unfold clause
  split
  · next names hnames =>
    obtain ⟨c, hc, -⟩ := s.names_solid names hnames
    exact isClause_names (List.ne_nil_of_mem hc)
  · rfl

theorem isQuote_eq : isQuote s.quote = true := by
  obtain h | h := s.isQuote_quote <;> rw [h] <;> rfl

theorem isClauseChar_quote : isClauseChar s.quote = false := by
  obtain h | h := s.isQuote_quote <;> rw [h] <;> decide

/-- A statement is read as far as its specifier. -/
theorem import?_source (rest : Text) : import? (s.source ++ rest) =
    some (s.specifier, s.ending ++ rest) := by
  have hsource : s.source ++ rest = "import" ++ (s.clause ++ s.quote ::
      (s.specifier ++ s.quote :: (s.ending ++ rest))) := by
    simp [source]
  have hstart : Text.trimStart (s.source ++ rest) = s.source ++ rest :=
    Text.trimStart_of_not_blank (by decide) _
  have hafter : Text.after? "import" (s.source ++ rest) = some (s.clause ++ s.quote ::
      (s.specifier ++ s.quote :: (s.ending ++ rest))) := Text.after?_eq_some_iff.2 hsource
  have hclause : ∀ c ∈ s.clause, isClauseChar c = true := fun _ => s.isClauseChar_of_mem
  have hspecifier : ∀ c ∈ s.specifier, isQuote c = false := by
    intro c hc
    obtain ⟨hsingle, hdouble, -⟩ := s.specifier_chars c hc
    simp [isQuote, hsingle, hdouble]
  unfold import?
  rw [hstart, hafter]
  simp only [Text.takeWhile_append_cons hclause s.isClauseChar_quote,
    Text.dropWhile_append_cons hclause s.isClauseChar_quote, s.isClause_clause, if_true]
  exact quoted?_append s.isQuote_eq s.isQuote_eq s.specifier_ne_nil hspecifier _

end ImportStatement

/-! ## Modules -/

/-- Import statements, one a line, and the code after the last of them. -/
def moduleSource (statements : List ImportStatement) (code : Text) : Text :=
  Text.unlines (statements.map ImportStatement.source) ++ code

theorem importsFrom_of_some {s specifier rest : Text} (h : import? s = some (specifier, rest)) :
    importsFrom true s = specifier :: importsFrom false rest := by
  cases s with
  | nil => cases h
  | cons c cs =>
    have hsome : (if true = true then import? (c :: cs) else none) = some (specifier, rest) := h
    rw [importsFrom]
    split
    · next h' =>
      rw [hsome] at h'
      obtain ⟨rfl, rfl⟩ := Prod.mk.inj (Option.some.inj h')
      rfl
    · next h' =>
      rw [hsome] at h'
      cases h'

theorem importsFrom_of_none {lineStart : Bool} {c : Char} {s : Text}
    (h : lineStart = true → import? (c :: s) = none) :
    importsFrom lineStart (c :: s) = importsFrom (c = '\n') s := by
  have hnone : (if lineStart then import? (c :: s) else none) = none := by
    split
    · next hstart => exact h hstart
    · rfl
  rw [importsFrom]
  split
  · next h' =>
    rw [hnone] at h'
    cases h'
  · rfl

/-- An import is found only where the word is. -/
theorem import?_eq_none {s : Text} (h : ¬("import" : Text) <:+: s) : import? s = none := by
  have hafter : Text.after? "import" (Text.trimStart s) = none := by
    rw [Text.after?_eq_none_iff]
    intro hp
    exact h (hp.isInfix.trans (List.dropWhile_suffix _).isInfix)
  rw [import?, hafter]

theorem importsFrom_eq_nil {s : Text} (h : ¬("import" : Text) <:+: s) (lineStart : Bool) :
    importsFrom lineStart s = [] := by
  induction s generalizing lineStart with
  | nil => rw [importsFrom]
  | cons c s ih =>
    rw [importsFrom_of_none fun _ => import?_eq_none h]
    rw [List.infix_cons_iff, not_or] at h
    exact ih h.2 _

/-- What ends a statement leads to the next line. -/
theorem importsFrom_ending (s : ImportStatement) (next : Text) :
    importsFrom false (s.ending ++ '\n' :: next) = importsFrom true next := by
  have hline : importsFrom false ('\n' :: next) = importsFrom true next :=
    importsFrom_of_none (by simp)
  unfold ImportStatement.ending
  split
  · rw [List.singleton_append, importsFrom_of_none (by simp)]
    exact hline
  · exact hline

theorem not_infix_ending_append (s : ImportStatement) {code : Text}
    (h : ¬("import" : Text) <:+: code) : ¬("import" : Text) <:+: s.ending ++ code := by
  unfold ImportStatement.ending
  split
  · rw [List.singleton_append, List.infix_cons_iff, not_or]
    exact ⟨fun hp => absurd (List.cons_prefix_cons.1 hp).1 (by decide), h⟩
  · exact h

theorem imports_moduleSource (statements : List ImportStatement) {code : Text}
    (h : ¬("import" : Text) <:+: code) :
    imports (moduleSource statements code) = statements.map ImportStatement.specifier := by
  unfold imports moduleSource
  induction statements with
  | nil => exact importsFrom_eq_nil h true
  | cons s statements ih =>
    cases statements with
    | nil =>
      have hone : Text.unlines [s.source] = s.source := by simp [Text.unlines, List.intercalate]
      rw [List.map_singleton, List.map_singleton, hone, importsFrom_of_some (s.import?_source code),
        importsFrom_eq_nil (not_infix_ending_append s h)]
    | cons s' statements =>
      rw [List.map_cons, List.map_cons, Text.unlines_cons_cons, List.append_assoc, List.cons_append,
        importsFrom_of_some (s.import?_source _), importsFrom_ending, ← List.map_cons, ih]
      rfl

/-- The last import with an extension is found. -/
theorem findImport?_eq (extension source path : Text) :
    findImport? extension source path =
      ((imports source).filter fun specifier => extension <:+: specifier).getLast?.map
        (Path.join (Path.parent path)) := by
  have hcontains : (fun specifier => decide (extension <:+: specifier)) =
      (Text.contains · extension) := by
    funext specifier
    rw [Bool.eq_iff_iff, decide_eq_true_eq, Text.contains_iff]
  rw [findImport?, hcontains, List.getLast?_eq_head?_reverse, ← List.filter_reverse,
    List.head?_filter]

/-- The imports of a module are the specifiers of its statements, in order. The template is found
under the last of them that contains the extension, seen from the directory of the module. -/
theorem imports_source (statements : List ImportStatement) (code : Text)
    (h : ¬("import" : Text) <:+: code) :
    imports (moduleSource statements code) = statements.map ImportStatement.specifier ∧
      ∀ extension path, findImport? extension (moduleSource statements code) path =
        ((statements.map ImportStatement.specifier).filter
          fun specifier => extension <:+: specifier).getLast?.map
            (Path.join (Path.parent path)) := by
  have himports := imports_moduleSource statements h
  refine ⟨himports, fun extension path => ?_⟩
  rw [findImport?_eq, himports]

/-- A statement that names what it imports with the words of the statement. -/
def namedImport : ImportStatement where
  names? := some "import from".toList
  names_chars := by simp; decide
  names_solid := by simp
  quote := '\''
  isQuote_quote := .inl rfl
  specifier := "./base.html.twig"
  specifier_ne_nil := by decide
  specifier_chars := by simp
  ended := true

/-- A statement that names nothing. -/
def bareImport : ImportStatement where
  names? := none
  names_chars := by simp
  names_solid := by simp
  quote := '"'
  isQuote_quote := .inr rfl
  specifier := "./card.scss"
  specifier_ne_nil := by decide
  specifier_chars := by simp
  ended := false

theorem imports_source_named :
    ¬("import" : Text) <:+: ("\nlet a;" : Text) ∧
      imports ("import import from from './base.html.twig';\nimport \"./card.scss\"\nlet a;") =
        ["./base.html.twig".toList, "./card.scss".toList] ∧
      findImport? templateExtension
          "import import from from './base.html.twig';\nimport \"./card.scss\"\nlet a;"
          "/src/card/index.js" = some "/src/card/./base.html.twig".toList := by
  have hcode : ¬("import" : Text) <:+: ("\nlet a;" : Text) := by decide
  have hsource : ("import import from from './base.html.twig';\nimport \"./card.scss\"\nlet a;" :
      Text) = moduleSource [namedImport, bareImport] "\nlet a;" := by decide
  obtain ⟨himports, hfound⟩ := imports_source [namedImport, bareImport] "\nlet a;" hcode
  rw [hsource]
  refine ⟨hcode, himports, (hfound _ _).trans ?_⟩
  decide +kernel

end Blockbook.Module
