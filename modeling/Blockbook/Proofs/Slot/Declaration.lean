import Blockbook.Proofs.Blank
import Blockbook.Proofs.Search
import Blockbook.Proofs.Split
import Blockbook.Slot.Scan

/-!
# Declared slots are found

A template declares slots by tags with words for names and values, and between the tags stands any
text that does not start such a tag. Scanning the template gives back the slots in order, each with
its name and the values it hands out: no text around a tag, however much it looks like a part of
one, is taken for an attribute.

* `tags_template`: the attribute parts are those of the declared tags.
* `attributes_attributeText`: the attributes are read as they were written.
* `scan_template`: the slots of a template are the declared ones.
-/

namespace Blockbook

/-! ## Words -/

/-- The tables of blanks and of word characters have no code point in common. -/
theorem Text.isBlank_of_isWord {c : Char} (h : isWord c = true) : isBlank c = false := by
  have hapart : wordRanges.areDisjoint blankRanges = true := by decide +kernel
  exact CodeRanges.not_contains_of_areDisjoint hapart h

namespace Slot

/-- A word: one or more word characters, dashes and bars. -/
structure Word where
  text : Text
  ne_nil : text ≠ []
  all : ∀ c ∈ text, Text.isWord c = true ∨ c = '-' ∨ c = '|'

namespace Word

theorem all_of_isAttributeChar {text : Text} (h : text.all Slot.isAttributeChar = true) :
    ∀ c ∈ text, Text.isWord c = true ∨ c = '-' ∨ c = '|' := by
  intro c hc
  have hchar : Text.isWord c = true ∨ c = '|' ∨ c = '-' := by
    simpa [Slot.isAttributeChar, or_assoc] using List.all_eq_true.1 h c hc
  exact hchar.imp_right Or.symm

variable (w : Word)

theorem isAttributeChar {c : Char} (h : c ∈ w.text) : isAttributeChar c = true := by
  obtain hc | rfl | rfl := w.all c h
  · simp [Slot.isAttributeChar, hc]
  · decide
  · decide

theorem isBlank {c : Char} (h : c ∈ w.text) : Text.isBlank c = false := by
  obtain hc | rfl | rfl := w.all c h
  · exact Text.isBlank_of_isWord hc
  · decide
  · decide

theorem not_mem {c : Char} (h : Slot.isAttributeChar c = false) : c ∉ w.text := by
  intro hmem
  rw [w.isAttributeChar hmem] at h
  cases h

/-- A word is read up to the next character that no word holds. -/
theorem takeWhile_append {c : Char} (h : Slot.isAttributeChar c = false) (rest : Text) :
    (w.text ++ c :: rest).takeWhile Slot.isAttributeChar = w.text :=
  Text.takeWhile_append_cons (fun _ => w.isAttributeChar) h rest

theorem dropWhile_append {c : Char} (h : Slot.isAttributeChar c = false) (rest : Text) :
    (w.text ++ c :: rest).dropWhile Slot.isAttributeChar = c :: rest :=
  Text.dropWhile_append_cons (fun _ => w.isAttributeChar) h rest

/-- Blanks around a word are trimmed and nothing else. -/
theorem trim_padded {before after : Text} (hbefore : Text.AllBlank before)
    (hafter : Text.AllBlank after) : Text.trim (before ++ (w.text ++ after)) = w.text := by
  have hend : Text.trimEnd w.text = w.text := by
    have hlast := w.isBlank (List.getLast_mem w.ne_nil)
    rw [← List.dropLast_append_getLast w.ne_nil]
    exact Text.trimEnd_of_last_not_blank hlast _
  have hstart : Text.trimStart w.text = w.text := by
    obtain ⟨c, cs, hc⟩ := List.exists_cons_of_ne_nil w.ne_nil
    have hblank : Text.isBlank c = false := w.isBlank (by simp [hc])
    rw [hc, Text.trimStart_of_not_blank hblank]
  rw [Text.trim_append_of_allBlank hbefore, Text.trim_eq_trimStart_trimEnd,
    Text.trimEnd_append_of_allBlank hafter, hend, hstart]

end Word

/-! ## Declarations -/

/-- A slot as a template declares it. -/
structure Declaration where
  name? : Option Word
  /-- The values that are handed out one by one: the name of each, and what it is. -/
  values : List (Word × Word)
  values_ne : ∀ value ∈ values, value.1.text ≠ "name".toList ∧ value.1.text ≠ "v-bind".toList
  /-- The entries of the object that is bound as a whole, if there are any. -/
  bound : List Word

/-- The attribute that names a slot. -/
def nameKey : Word := ⟨"name", by decide, Word.all_of_isAttributeChar (by decide)⟩

/-- The attribute that binds an object as a whole. -/
def bindKey : Word := ⟨"v-bind", by decide, Word.all_of_isAttributeChar (by decide)⟩

/-- An attribute as it is written, after a gap. -/
def attributeSource (gap : Text) (key : Word) (value : Text) : Text :=
  gap ++ (key.text ++ '=' :: '"' :: (value ++ ['"']))

/-- The entries of an object, with commas between them. -/
def entriesSource (entries : List Word) : Text :=
  List.intercalate [',', ' '] (entries.map Word.text)

/-- An object with entries. -/
def objectSource (entries : List Word) : Text :=
  '{' :: ((' ' :: (entriesSource entries ++ [' '])) ++ ['}'])

namespace Declaration

/-- The attribute part of a declaration. -/
def attributeText (d : Declaration) : Text :=
  (match d.name? with
    | some name => attributeSource [' '] nameKey name.text
    | none => []) ++
  (d.values.flatMap fun (name, value) => attributeSource [' ', ':'] name value.text) ++
  (if d.bound = [] then [] else attributeSource [' '] bindKey (objectSource d.bound))

/-- A declaration as it is written. -/
def source (d : Declaration) : Text := '<' :: ("slot" ++ (d.attributeText ++ ['>']))

/-- The slot that is declared. -/
def slot (d : Declaration) : Slot :=
  let name := (d.name?.map Word.text).getD "default"
  let scope := d.values.map (·.1.text) ++ d.bound.map Word.text
  { name, isDefault := name = "default", isScoped := scope ≠ [], scope }

/-- The attributes that are written in a declaration. -/
def attributes (d : Declaration) : List (Text × Text) :=
  (match d.name? with
    | some name => [(nameKey.text, name.text)]
    | none => []) ++
  (d.values.map fun (name, value) => (name.text, value.text)) ++
  (if d.bound = [] then [] else [(bindKey.text, objectSource d.bound)])

end Declaration

/-- A template: text, and declarations with the text that follows each of them. -/
def templateSource (lead : Text) (parts : List (Declaration × Text)) : Text :=
  lead ++ parts.flatMap fun (d, after) => d.source ++ after

/-! ## Tags -/

theorem tags_of_some {s attributes rest : Text} (h : tag? s = some (attributes, rest)) :
    tags s = attributes :: tags rest := by
  cases s with
  | nil => cases h
  | cons c cs =>
    rw [tags]
    split
    · next h' =>
      rw [h] at h'
      obtain ⟨rfl, rfl⟩ := Prod.mk.inj (Option.some.inj h')
      rfl
    · next h' =>
      rw [h] at h'
      cases h'

theorem tags_cons_of_not_opening {c : Char} {s : Text} (h : ¬('<' :: "slot" : Text) <+: c :: s) :
    tags (c :: s) = tags s := by
  have hnone : tag? (c :: s) = none := by
    have hafter : Text.after? "<slot" (c :: s) = none := Text.after?_eq_none_iff.2 h
    rw [tag?, hafter]
    rfl
  rw [tags]
  split
  · next h' =>
    rw [hnone] at h'
    cases h'
  · rfl

/-- Text that starts no tag is passed over, up to the next tag. -/
theorem tags_append {u : Text} (h : ¬('<' :: "slot" : Text) <:+: u) (s : Text) :
    tags (u ++ '<' :: s) = tags ('<' :: s) := by
  induction u with
  | nil => rfl
  | cons c u ih =>
    have hfront := Text.not_prefix_append (by decide) (List.cons_ne_nil c u) h s
    rw [List.cons_append] at hfront
    rw [List.infix_cons_iff, not_or] at h
    rw [List.cons_append, tags_cons_of_not_opening hfront, ih h.2]

theorem tags_eq_nil {u : Text} (h : ¬('<' :: "slot" : Text) <:+: u) : tags u = [] := by
  induction u with
  | nil => rw [tags]
  | cons c u ih =>
    rw [List.infix_cons_iff, not_or] at h
    rw [tags_cons_of_not_opening h.1, ih h.2]

/-- A tag ends at its first `>`. -/
theorem tagRest?_append {attributes : Text} (hend : '>' ∉ attributes)
    (hfirst : ∀ c ∈ attributes.head?, c = ' ') (rest : Text) :
    tagRest? (attributes ++ '>' :: rest) = some (attributes, rest) := by
  cases attributes with
  | nil => rfl
  | cons c cs =>
    obtain rfl : c = ' ' := hfirst c rfl
    have hbreak : Text.breakOn? ['>'] (cs ++ '>' :: rest) = some (cs, rest) :=
      Text.breakOn?_char (fun hmem => hend (List.mem_cons_of_mem _ hmem)) rest
    rw [List.cons_append, tagRest?, if_neg (by decide), if_pos (by decide), hbreak]
    rfl

/-! ## What a declaration is written with -/

theorem entriesSource_singleton (w : Word) : entriesSource [w] = w.text := by
  simp [entriesSource, List.intercalate]

theorem entriesSource_cons_cons (w w' : Word) (ws : List Word) :
    entriesSource (w :: w' :: ws) = w.text ++ ',' :: ' ' :: entriesSource (w' :: ws) := by
  simp [entriesSource, List.intercalate]

section NotMem

variable {c : Char} (hword : isAttributeChar c = false)

include hword

theorem not_mem_objectSource (hc : c ∉ ['{', '}', ' ', ',']) (entries : List Word) :
    c ∉ objectSource entries := by
  simp only [List.mem_cons, List.not_mem_nil, or_false, not_or] at hc
  have hentries : c ∉ entriesSource entries := by
    induction entries with
    | nil => exact List.not_mem_nil
    | cons w ws ih =>
      cases ws with
      | nil => rw [entriesSource_singleton]; exact w.not_mem hword
      | cons w' ws =>
        rw [entriesSource_cons_cons]
        simp [w.not_mem hword, hc, ih]
  simp [objectSource, hentries, hc]

theorem not_mem_attributeSource {gap value : Text} (hgap : c ∉ gap) (hvalue : c ∉ value)
    (hc : c ∉ ['=', '"']) (key : Word) : c ∉ attributeSource gap key value := by
  simp only [List.mem_cons, List.not_mem_nil, or_false, not_or] at hc
  simp [attributeSource, hgap, key.not_mem hword, hc, hvalue]

end NotMem

namespace Declaration

variable (d : Declaration)

theorem end_not_mem_attributeText : '>' ∉ d.attributeText := by
  have hend : isAttributeChar '>' = false := by decide
  have hwritten : ∀ (gap : Text) (key : Word) (value : Text), '>' ∉ gap → '>' ∉ value →
      '>' ∉ attributeSource gap key value :=
    fun _ key _ hgap hvalue => not_mem_attributeSource hend hgap hvalue (by decide) key
  unfold attributeText
  rw [List.mem_append, List.mem_append, not_or, not_or]
  refine ⟨⟨?_, ?_⟩, ?_⟩
  · cases d.name? with
    | none => exact List.not_mem_nil
    | some name => exact hwritten _ _ _ (by decide) (name.not_mem hend)
  · rw [List.mem_flatMap]
    rintro ⟨⟨name, value⟩, -, hmem⟩
    exact hwritten _ _ _ (by decide) (value.not_mem hend) hmem
  · split
    · exact List.not_mem_nil
    · exact hwritten _ _ _ (by decide) (not_mem_objectSource hend (by decide) _)

theorem head?_attributeText : ∀ c ∈ d.attributeText.head?, c = ' ' := by
  unfold attributeText attributeSource
  obtain ⟨_ | name, _ | ⟨value, values⟩, hvalues, bound⟩ := d <;> by_cases hbound : bound = [] <;>
    simp [hbound]

theorem tag?_source (rest : Text) : tag? (d.source ++ rest) = some (d.attributeText, rest) := by
  have hafter : Text.after? "<slot" (d.source ++ rest) =
      some (d.attributeText ++ '>' :: rest) := by
    rw [Text.after?_eq_some_iff, source]
    simp
  rw [tag?, hafter]
  exact tagRest?_append d.end_not_mem_attributeText d.head?_attributeText rest

end Declaration

/-- The attribute parts of a template are those of its declarations. -/
theorem tags_template {lead : Text} {parts : List (Declaration × Text)}
    (hlead : ¬('<' :: "slot" : Text) <:+: lead)
    (hparts : ∀ part ∈ parts, ¬('<' :: "slot" : Text) <:+: part.2) :
    tags (templateSource lead parts) = parts.map (·.1.attributeText) := by
  induction parts generalizing lead with
  | nil =>
    rw [templateSource, List.flatMap_nil, List.append_nil, tags_eq_nil hlead]
    rfl
  | cons part parts ih =>
    obtain ⟨d, after⟩ := part
    obtain ⟨hafter, hrest⟩ := List.forall_mem_cons.1 hparts
    have hsource : templateSource lead ((d, after) :: parts) =
        lead ++ (d.source ++ templateSource after parts) := by
      simp [templateSource]
    have hskip : tags (lead ++ (d.source ++ templateSource after parts)) =
        tags (d.source ++ templateSource after parts) := tags_append hlead _
    rw [hsource, hskip, tags_of_some (d.tag?_source _), ih hafter hrest, List.map_cons]

/-! ## Attributes -/

theorem attributes_nil (fuel : Nat) : attributes fuel [] = [] := by
  cases fuel <;> rfl

/-- The name and value of an attribute are read as they were written, if the value is. -/
theorem attributes_append {gap rest value after : Text}
    (hgap : gap.all (fun c => !isAttributeChar c) = true) (key : Word)
    (hvalue : value? ('=' :: '"' :: rest) = some (value, after)) (fuel : Nat) :
    attributes (fuel + 1) (gap ++ (key.text ++ '=' :: '"' :: rest)) =
      (key.text, value) :: attributes fuel after := by
  have hequals : isAttributeChar '=' = false := by decide
  have hskip : (gap ++ (key.text ++ '=' :: '"' :: rest)).dropWhile (fun c => !isAttributeChar c) =
      key.text ++ '=' :: '"' :: rest := by
    rw [List.dropWhile_append_of_pos (List.all_eq_true.1 hgap)]
    obtain ⟨c, cs, hc⟩ := List.exists_cons_of_ne_nil key.ne_nil
    have hfirst : isAttributeChar c = true := key.isAttributeChar (by simp [hc])
    rw [hc, List.cons_append, List.dropWhile_cons_of_neg (by simp [hfirst])]
  rw [attributes, hskip]
  split
  · next hnil => simp at hnil
  · simp only [key.takeWhile_append hequals, key.dropWhile_append hequals, hvalue]

theorem value?_word (w : Word) (rest : Text) :
    value? ('=' :: '"' :: (w.text ++ '"' :: rest)) = some (w.text, rest) := by
  have hquote : isAttributeChar '"' = false := by decide
  have hword : wordValue? (w.text ++ '"' :: rest) = some (w.text, rest) := by
    rw [wordValue?, w.takeWhile_append hquote, w.dropWhile_append hquote]
    obtain ⟨c, cs, hc⟩ := List.exists_cons_of_ne_nil w.ne_nil
    rw [hc]
    rfl
  rw [value?, hword]
  rfl

theorem breakOnLast?_end (inner : Text) :
    Text.breakOnLast? ['}', '"'] (inner ++ ['}', '"']) = some (inner, []) := by
  induction inner with
  | nil => rfl
  | cons c inner ih => rw [List.cons_append, Text.breakOnLast?, ih]

/-- An object at the end of the attributes is read to its last brace. -/
theorem value?_object (entries : List Word) :
    value? ('=' :: '"' :: (objectSource entries ++ ['"'])) = some (objectSource entries, []) := by
  have hinner : ∃ inner, objectSource entries = '{' :: (inner ++ ['}']) := ⟨_, rfl⟩
  have hline : '\n' ∉ objectSource entries := not_mem_objectSource (by decide) (by decide) entries
  obtain ⟨inner, hinner⟩ := hinner
  rw [hinner] at hline ⊢
  have hall : ∀ c ∈ inner ++ ['}', '"'], decide (c ≠ '\n') = true := by
    intro c hc
    have hne : c ≠ '\n' := by
      rintro rfl
      simp at hline hc
      exact hline hc
    simpa using hne
  have htake : (inner ++ ['}', '"']).takeWhile (· ≠ '\n') = inner ++ ['}', '"'] :=
    List.takeWhile_eq_self_iff.2 hall
  have hdrop : (inner ++ ['}', '"']).dropWhile (· ≠ '\n') = [] := List.dropWhile_eq_nil_iff.2 hall
  have hobject : objectValue? ('{' :: (inner ++ ['}', '"'])) =
      some ('{' :: (inner ++ ['}']), []) := by
    rw [objectValue?]
    simp only [htake, hdrop, breakOnLast?_end]
    rfl
  have hword : wordValue? ('{' :: (inner ++ ['}', '"'])) = none := rfl
  rw [List.cons_append, List.append_assoc, List.singleton_append, value?, hword, hobject]
  rfl

theorem attributes_plain {gap : Text} (hgap : gap.all (fun c => !isAttributeChar c) = true)
    (key value : Word) (rest : Text) (fuel : Nat) :
    attributes (fuel + 1) (attributeSource gap key value.text ++ rest) =
      (key.text, value.text) :: attributes fuel rest := by
  have hsource : attributeSource gap key value.text ++ rest =
      gap ++ (key.text ++ '=' :: '"' :: (value.text ++ '"' :: rest)) := by
    simp [attributeSource]
  rw [hsource, attributes_append hgap key (value?_word value rest)]

theorem attributes_values (values : List (Word × Word)) (rest : Text) (fuel : Nat) :
    attributes (fuel + values.length) ((values.flatMap fun (name, value) =>
        attributeSource [' ', ':'] name value.text) ++ rest) =
      (values.map fun (name, value) => (name.text, value.text)) ++ attributes fuel rest := by
  induction values with
  | nil => rfl
  | cons value values ih =>
    rw [List.flatMap_cons, List.append_assoc, List.length_cons, ← Nat.add_assoc,
      attributes_plain (by decide), ih, List.map_cons, List.cons_append]

theorem attributes_object (entries : List Word) (fuel : Nat) :
    attributes (fuel + 1) (attributeSource [' '] bindKey (objectSource entries)) =
      [(bindKey.text, objectSource entries)] := by
  rw [attributeSource, attributes_append (by decide) bindKey (value?_object entries),
    attributes_nil]

namespace Declaration

variable (d : Declaration)

/-- The attributes of a declaration are read as they were written, one step for each of them. -/
theorem attributes_attributeText (fuel : Nat) :
    Slot.attributes (fuel + d.attributes.length) d.attributeText = d.attributes := by
  have hbound : ∀ fuel, Slot.attributes (fuel + (if d.bound = [] then 0 else 1))
      (if d.bound = [] then [] else attributeSource [' '] bindKey (objectSource d.bound)) =
      if d.bound = [] then [] else [(bindKey.text, objectSource d.bound)] := by
    intro fuel
    split
    · exact attributes_nil _
    · exact attributes_object d.bound fuel
  have hlength : (if d.bound = [] then [] else [(bindKey.text, objectSource d.bound)]).length =
      if d.bound = [] then 0 else 1 := by
    split <;> rfl
  unfold attributeText attributes
  rw [List.append_assoc, List.append_assoc, List.length_append, List.length_append,
    List.length_map, hlength]
  cases d.name? with
  | none =>
    have hfuel : fuel + (0 + (d.values.length + if d.bound = [] then 0 else 1)) =
        fuel + (if d.bound = [] then 0 else 1) + d.values.length := by omega
    rw [List.length_nil, hfuel, List.nil_append, attributes_values, hbound, List.nil_append]
  | some name =>
    have hfuel : fuel + (1 + (d.values.length + if d.bound = [] then 0 else 1)) =
        fuel + (if d.bound = [] then 0 else 1) + d.values.length + 1 := by omega
    rw [List.length_singleton, hfuel, attributes_plain (by decide), attributes_values, hbound,
      List.singleton_append]

theorem length_attributes_le : d.attributes.length ≤ d.attributeText.length := by
  have hvalues : ∀ values : List (Word × Word), values.length ≤
      (values.flatMap fun (name, value) =>
        attributeSource [' ', ':'] name value.text).length := by
    intro values
    induction values with
    | nil => exact Nat.le_refl 0
    | cons value values ih =>
      simp only [List.flatMap_cons, List.length_append, List.length_cons, attributeSource] at ih ⊢
      omega
  have hone : ∀ gap key value, 1 ≤ (attributeSource gap key value).length := by
    intro gap key value
    simp only [attributeSource, List.length_append, List.length_cons]
    omega
  unfold attributes attributeText
  simp only [List.length_append, List.length_map]
  refine Nat.add_le_add (Nat.add_le_add ?_ (hvalues d.values)) ?_
  · cases d.name? with
    | none => exact Nat.le_refl 0
    | some name => exact hone _ _ _
  · split
    · exact Nat.le_refl 0
    · exact hone _ _ _

end Declaration

/-! ## Slots -/

/-- The entries of an object are what stands between its commas, without the blanks around it. -/
theorem map_trim_splitOn (w : Word) (ws : List Word) :
    (Text.splitOn ',' (' ' :: (entriesSource (w :: ws) ++ [' ']))).map Text.trim =
      (w :: ws).map Word.text := by
  have hblank : Text.AllBlank [' '] := Text.allBlank_replicate 1
  have hcomma : ∀ w : Word, ',' ∉ ' ' :: w.text := by
    intro w
    simp [w.not_mem (by decide : isAttributeChar ',' = false)]
  induction ws generalizing w with
  | nil =>
    have hpiece : ',' ∉ ' ' :: (w.text ++ [' ']) := by simpa using hcomma w
    rw [entriesSource_singleton, Text.splitOn_of_not_mem hpiece, List.map_singleton,
      List.map_singleton]
    exact congrArg ([·]) (w.trim_padded hblank hblank)
  | cons w' ws ih =>
    have hsplit : ' ' :: (entriesSource (w :: w' :: ws) ++ [' ']) =
        (' ' :: w.text) ++ ',' :: (' ' :: (entriesSource (w' :: ws) ++ [' '])) := by
      rw [entriesSource_cons_cons]
      simp
    have hfirst : Text.trim (' ' :: w.text) = w.text := by
      simpa using w.trim_padded hblank Text.allBlank_nil
    rw [hsplit, Text.splitOn_append (hcomma w), List.map_cons, hfirst, ih]
    rfl

theorem bindings_objectSource {entries : List Word} (h : entries ≠ []) :
    bindings (objectSource entries) = entries.map Word.text := by
  obtain ⟨w, ws, rfl⟩ := List.exists_cons_of_ne_nil h
  have hkept : ∀ t ∈ (w :: ws).map Word.text, (!t.isEmpty) = true := by
    rw [List.forall_mem_map]
    intro w _
    simpa using w.ne_nil
  simp only [bindings, objectSource, List.getLast?_concat, if_true, List.dropLast_concat,
    map_trim_splitOn]
  exact List.filter_eq_self.2 hkept

/-- The name of a slot after an attribute. -/
def renamed (name : Text) (a : Text × Text) : Text :=
  if a.1 = nameKey.text then a.2 else name

/-- The values that an attribute hands out. -/
def handedOut (a : Text × Text) : List Text :=
  if a.1 = nameKey.text then []
  else if a.1 = bindKey.text then bindings a.2
  else [a.1]

theorem ofAttributes_eq (attributes : List (Text × Text)) :
    ofAttributes attributes =
      of (attributes.foldl renamed defaultName) (attributes.flatMap handedOut) := rfl

theorem bindKey_ne : bindKey.text ≠ nameKey.text := by decide

namespace Declaration

variable (d : Declaration)

/-- Only the attribute for it names a slot. -/
theorem foldl_renamed :
    d.attributes.foldl renamed defaultName = (d.name?.map Word.text).getD "default" := by
  have hvalues : ∀ values : List (Word × Word), (∀ value ∈ values, value.1.text ≠ nameKey.text) →
      ∀ name, (values.map fun (name, value) => (name.text, value.text)).foldl renamed name =
        name := by
    intro values hne name
    induction values with
    | nil => rfl
    | cons value values ih =>
      obtain ⟨hvalue, hrest⟩ := List.forall_mem_cons.1 hne
      have hkept : renamed name (value.1.text, value.2.text) = name := if_neg hvalue
      rw [List.map_cons, List.foldl_cons, hkept, ih hrest]
  have hbound : ∀ name, (if d.bound = [] then []
      else [(bindKey.text, objectSource d.bound)]).foldl renamed name = name := by
    intro name
    split
    · rfl
    · show renamed name (bindKey.text, objectSource d.bound) = name
      rw [renamed, if_neg bindKey_ne]
  unfold attributes
  rw [List.foldl_append, List.foldl_append, hbound,
    hvalues d.values fun value hvalue => (d.values_ne value hvalue).1]
  cases d.name? with
  | none => rfl
  | some name =>
    show renamed defaultName (nameKey.text, name.text) = name.text
    rw [renamed, if_pos rfl]

/-- All other attributes hand out values, the object all of its entries. -/
theorem flatMap_handedOut :
    d.attributes.flatMap handedOut = d.values.map (·.1.text) ++ d.bound.map Word.text := by
  have hvalues : ∀ values : List (Word × Word),
      (∀ value ∈ values, value.1.text ≠ nameKey.text ∧ value.1.text ≠ bindKey.text) →
      (values.map fun (name, value) => (name.text, value.text)).flatMap handedOut =
        values.map (·.1.text) := by
    intro values hne
    induction values with
    | nil => rfl
    | cons value values ih =>
      obtain ⟨⟨hname, hbind⟩, hrest⟩ := List.forall_mem_cons.1 hne
      have hone : handedOut (value.1.text, value.2.text) = [value.1.text] := by
        rw [handedOut, if_neg hname, if_neg hbind]
      rw [List.map_cons, List.flatMap_cons, hone, ih hrest, List.map_cons, List.singleton_append]
  have hbound : (if d.bound = [] then []
      else [(bindKey.text, objectSource d.bound)]).flatMap handedOut = d.bound.map Word.text := by
    split
    · next hnil => rw [hnil]; rfl
    · next hne =>
      rw [List.flatMap_singleton, handedOut, if_neg bindKey_ne, if_pos rfl,
        bindings_objectSource hne]
  have hname : (match d.name? with
      | some name => [(nameKey.text, name.text)]
      | none => []).flatMap handedOut = [] := by
    cases d.name? with
    | none => rfl
    | some name => rw [List.flatMap_singleton, handedOut, if_pos rfl]
  unfold attributes
  rw [List.flatMap_append, List.flatMap_append, hvalues d.values d.values_ne, hbound, hname,
    List.nil_append]

theorem ofAttributes_attributes : ofAttributes d.attributes = d.slot := by
  have hof : ∀ name scope,
      of name scope = ⟨name, name = "default".toList, scope ≠ [], scope⟩ := by
    intro name scope
    cases scope <;> rfl
  rw [ofAttributes_eq, d.foldl_renamed, d.flatMap_handedOut, hof]
  rfl

/-- The slot of a declared tag is the declared one. -/
theorem ofTag_attributeText : ofTag d.attributeText = d.slot := by
  have hlength := d.length_attributes_le
  have hfuel : d.attributeText.length + 1 =
      d.attributeText.length + 1 - d.attributes.length + d.attributes.length := by omega
  rw [ofTag, hfuel, d.attributes_attributeText, d.ofAttributes_attributes]

end Declaration

/-- The slots of a template are the declared ones, in order, whatever stands between the
declarations, if it does not start a declaration. -/
theorem scan_template (lead : Text) (parts : List (Declaration × Text))
    (hlead : ¬("<slot" : Text) <:+: lead)
    (hparts : ∀ part ∈ parts, ¬("<slot" : Text) <:+: part.2) :
    scan (templateSource lead parts) = parts.map (·.1.slot) := by
  rw [scan, tags_template hlead hparts, List.map_map]
  exact List.map_congr_left fun part _ => part.1.ofTag_attributeText

/-- A slot with all that a declaration can have. -/
def footer : Declaration where
  name? := some ⟨"footer", by decide, Word.all_of_isAttributeChar (by decide)⟩
  values := [(⟨"row", by decide, Word.all_of_isAttributeChar (by decide)⟩,
    ⟨"it-em", by decide, Word.all_of_isAttributeChar (by decide)⟩)]
  values_ne := by simp
  bound := [⟨"a|b", by decide, Word.all_of_isAttributeChar (by decide)⟩,
    ⟨"c", by decide, Word.all_of_isAttributeChar (by decide)⟩]

/-- A slot without attributes. -/
def bare : Declaration := ⟨none, [], List.forall_mem_nil _, []⟩

theorem scan_template_footer :
    ¬("<slot" : Text) <:+: ("<slo name=\"" : Text) ∧
      (∀ part ∈ [(footer, " :x=\"y\"><".toList), (bare, [])],
        ¬("<slot" : Text) <:+: part.2) ∧
      scan ("<slo name=\"<slot name=\"footer\" :row=\"it-em\" v-bind=\"\x7b a|b, c \x7d\"> " ++
          ":x=\"y\"><<slot>") =
        [⟨"footer", false, true, ["row".toList, "a|b".toList, "c".toList]⟩,
          ⟨"default", true, false, []⟩] := by
  have hlead : ¬("<slot" : Text) <:+: ("<slo name=\"" : Text) := by decide
  have hparts : ∀ part ∈ [(footer, " :x=\"y\"><".toList), (bare, [])],
      ¬("<slot" : Text) <:+: part.2 := by
    rw [List.forall_mem_cons, List.forall_mem_singleton]
    decide
  have hsource :
      ("<slo name=\"<slot name=\"footer\" :row=\"it-em\" v-bind=\"\x7b a|b, c \x7d\"> " ++
        ":x=\"y\"><<slot>" : Text) =
      templateSource "<slo name=\"" [(footer, " :x=\"y\"><".toList), (bare, [])] := by decide
  refine ⟨hlead, hparts, ?_⟩
  rw [hsource, scan_template _ _ hlead hparts]
  decide

end Slot

end Blockbook
