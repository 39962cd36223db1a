import Blockbook.Panel.Table
import Blockbook.Proofs.Markup.Highlight

/-!
# The panel shows every list of blocks differently

Names are escaped and texts are highlighted, so nothing in a block looks like the tags of the table.
A row can then be taken off the front of a table in one way only, and the table starts a row exactly
once for each block, whatever the keys, names and texts are.

* `row_append_inj`: a row and what follows it determine the block and what follows it.
* `rowStarts_row`: a row starts once.
* `render_faithful`: the table of a list of blocks.
-/

namespace Blockbook.Panel

open Text Markup

theorem foreign_row : PagePart.Foreign '<' "tr data-key=\"" :=
  ⟨rfl, by decide, by decide⟩

theorem foreign_code : PagePart.Foreign '<' "/code" := ⟨rfl, by decide, by decide⟩

/-! ## Taking a row off -/

/-- Two texts without a tag end where the first tag starts. -/
theorem append_tag_inj {u v s t : Text} (hu : '<' ∉ u) (hv : '<' ∉ v)
    (h : u ++ '<' :: s = v ++ '<' :: t) : u = v ∧ s = t := by
  have hbreak := breakOn?_char hu s
  rw [h, breakOn?_char hv t] at hbreak
  obtain ⟨rfl, rfl⟩ := Prod.mk.inj (Option.some.inj hbreak)
  exact ⟨rfl, rfl⟩

/-- Highlighted markup ends where its element does. -/
theorem highlight_append_inj {c d s t : Text}
    (h : highlight c ++ ("</code" ++ s) = highlight d ++ ("</code" ++ t)) : c = d ∧ s = t := by
  have hfound : ∀ e x : Text,
      breakOn? "</code" (highlight e ++ ("</code" ++ x)) = some (highlight e, x) := by
    intro e x
    have habsent : ¬("</code" : Text) <:+: highlight e := by
      rw [← occurrences_eq_zero_iff]
      have hnone := occurrences_highlight foreign_code e []
      rw [List.append_nil] at hnone
      exact hnone
    exact breakOn?_mark (by decide) habsent [] x
  have hbreak := hfound c s
  rw [h, hfound d t] at hbreak
  obtain ⟨hcode, rfl⟩ := Prod.mk.inj (Option.some.inj hbreak)
  exact ⟨(highlight_injective hcode).symm, rfl⟩

theorem cell_of_ne_nil {f : Fragment} (h : f.code ≠ []) :
    cell f =
      "<pre><code class=\"language-html\">" ++ (highlight f.code ++ ("</code" ++ "></pre>")) := by
  have hempty : ¬f.isEmpty = true := by simpa [Fragment.isEmpty] using h
  rw [cell, if_neg hempty]
  simp

theorem cell_of_nil {f : Fragment} (h : f.code = []) :
    cell f = "<em style=\"color: #6f6f6f\">(empty block)</em>" := by
  have hempty : f.isEmpty = true := by simp [Fragment.isEmpty, h]
  rw [cell, if_pos hempty]

theorem cell_append_inj {f g : Fragment} {s t : Text} (h : cell f ++ s = cell g ++ t) :
    f.code = g.code ∧ s = t := by
  by_cases hf : f.code = [] <;> by_cases hg : g.code = []
  · rw [cell_of_nil hf, cell_of_nil hg] at h
    exact ⟨hf.trans hg.symm, List.append_cancel_left h⟩
  · rw [cell_of_nil hf, cell_of_ne_nil hg] at h
    simp at h
  · rw [cell_of_ne_nil hf, cell_of_nil hg] at h
    simp at h
  · rw [cell_of_ne_nil hf, cell_of_ne_nil hg] at h
    simp only [List.append_assoc] at h
    obtain ⟨hcode, hrest⟩ := highlight_append_inj (List.append_cancel_left h)
    exact ⟨hcode, List.append_cancel_left hrest⟩

theorem row_append_inj {key : Text} {f g : Fragment} {s t : Text}
    (h : row key f ++ s = row key g ++ t) : f = g ∧ s = t := by
  have hrow : ∀ (e : Fragment) (x : Text), row key e ++ x =
      line 3 ("<tr data-key=\"" ++ escape key ++ "\">") ++
        ("        <td><strong>" ++ (escape e.name ++ '<' ::
          ("/strong></td>\n        <td>" ++ (cell e ++ ("</td>\n      </tr>\n" ++ x))))) := by
    intro e x
    simp [row, line, Markup.indent]
  have hinert : ∀ e : Fragment, '<' ∉ escape e.name := fun e => inert_escape e.name '<' (by decide)
  rw [hrow, hrow] at h
  have hname := List.append_cancel_left (List.append_cancel_left h)
  obtain ⟨hname, hmiddle⟩ := append_tag_inj (hinert f) (hinert g) hname
  obtain ⟨hcode, hrest⟩ := cell_append_inj (List.append_cancel_left hmiddle)
  refine ⟨?_, List.append_cancel_left hrest⟩
  obtain ⟨name, code⟩ := f
  obtain rfl : name = g.name := escape_injective hname
  obtain rfl : code = g.code := hcode
  rfl

/-! ## Counting rows -/

/-- How many rows start in a page. -/
def rowStarts (page : Text) : Nat := occurrences ('<' :: "tr data-key=\"") page

/-- The lines of a page are counted one by one. -/
theorem rowStarts_line (depth : Nat) (content s : Text) :
    rowStarts (line depth content ++ s) = rowStarts content + rowStarts s := by
  have hindent : '<' ∉ Markup.indent depth := fun hmem =>
    absurd (List.eq_of_mem_replicate hmem) (by decide)
  have hline : line depth content ++ s = Markup.indent depth ++ (content ++ '\n' :: s) := by
    simp [line]
  rw [hline, rowStarts, occurrences_append_of_not_mem hindent]
  exact occurrences_append_cons (List.cons_ne_nil _ _) (by decide) content s

/-- A tag is counted apart from what follows it. -/
theorem rowStarts_tag (tag s : Text) :
    rowStarts (tag ++ '>' :: s) = rowStarts tag + rowStarts s :=
  occurrences_append_cons (List.cons_ne_nil _ _) (by decide) tag s

theorem rowStarts_append_of_not_mem {u : Text} (h : '<' ∉ u) (s : Text) :
    rowStarts (u ++ s) = rowStarts s :=
  occurrences_append_of_not_mem h s

theorem rowStarts_start (key : Text) :
    rowStarts ("<tr data-key=\"" ++ escape key ++ "\">") = 1 := by
  have hinert : '<' ∉ ("tr data-key=\"" : Text) ++ escape key ++ ['"'] := by
    simp [inert_escape key '<' (by decide)]
  have hrest := rowStarts_append_of_not_mem hinert ['>']
  have hsplit : ("<tr data-key=\"" : Text) ++ escape key ++ "\">" =
      '<' :: ("tr data-key=\"" ++ escape key ++ ['"'] ++ ['>']) := by simp
  have hfront : '<' :: ("tr data-key=\"" : Text) <+:
      '<' :: ("tr data-key=\"" ++ escape key ++ ['"'] ++ ['>']) :=
    ⟨escape key ++ ['"', '>'], by simp⟩
  rw [hsplit, rowStarts, occurrences_cons, if_pos hfront]
  exact congrArg (· + 1) hrest

theorem rowStarts_name (name : Text) :
    rowStarts ("<td><strong>" ++ escape name ++ "</strong></td>") = 0 := by
  have hsplit : ("<td><strong>" : Text) ++ escape name ++ "</strong></td>" =
      "<td><strong" ++ '>' :: (escape name ++ "</strong></td>") := by simp
  rw [hsplit, rowStarts_tag, rowStarts_append_of_not_mem (inert_escape name '<' (by decide))]
  decide

theorem rowStarts_cell (f : Fragment) : rowStarts ("<td>" ++ cell f ++ "</td>") = 0 := by
  by_cases hcode : f.code = []
  · rw [cell_of_nil hcode]
    decide
  · have hsplit : ("<td>" : Text) ++ cell f ++ "</td>" =
        "<td><pre><code class=\"language-html\"" ++ '>' ::
          (highlight f.code ++ "</code></pre></td>") := by
      rw [cell_of_ne_nil hcode]
      simp
    have hhighlight : rowStarts (highlight f.code ++ "</code></pre></td>") =
        rowStarts "</code></pre></td>" := occurrences_highlight foreign_row f.code _
    rw [hsplit, rowStarts_tag, hhighlight]
    decide

/-- A row starts once, where it starts. -/
theorem rowStarts_row (key : Text) (f : Fragment) (s : Text) :
    rowStarts (row key f ++ s) = rowStarts s + 1 := by
  have hend : rowStarts "</tr>" = 0 := by decide
  simp only [row, List.append_assoc, rowStarts_line]
  simp only [← List.append_assoc, rowStarts_start, rowStarts_name, rowStarts_cell, hend]
  omega

/-! ## The table -/

/-- The rows of blocks that are numbered from `i` on. -/
def rows (key : Nat → Text) (i : Nat) (fs : List Fragment) : Text :=
  (fs.zipIdx i).flatMap fun (f, i) => row (key i) f

theorem rows_cons (key : Nat → Text) (i : Nat) (f : Fragment) (fs : List Fragment) :
    rows key i (f :: fs) = row (key i) f ++ rows key (i + 1) fs := by
  rw [rows, List.zipIdx_cons, List.flatMap_cons]
  rfl

theorem render_eq (key : Nat → Text) (fs : List Fragment) :
    render key fs = opening ++ (rows key 0 fs ++ closing) := List.append_assoc ..

/-- What follows the rows does not start like a row. -/
theorem closing_ne_row (key : Text) (f : Fragment) (s : Text) : closing ≠ row key f ++ s := by
  simp [closing, row, line, Markup.indent]

theorem rows_injective {key : Nat → Text} {i : Nat} {fs gs : List Fragment}
    (h : rows key i fs ++ closing = rows key i gs ++ closing) : fs = gs := by
  induction fs generalizing i gs with
  | nil =>
    cases gs with
    | nil => rfl
    | cons g gs =>
      rw [rows_cons, List.append_assoc] at h
      exact absurd h (closing_ne_row _ _ _)
  | cons f fs ih =>
    cases gs with
    | nil =>
      rw [rows_cons, List.append_assoc] at h
      exact absurd h.symm (closing_ne_row _ _ _)
    | cons g gs =>
      rw [rows_cons, rows_cons, List.append_assoc, List.append_assoc] at h
      obtain ⟨rfl, hrest⟩ := row_append_inj h
      rw [ih hrest]

theorem rowStarts_rows (key : Nat → Text) (i : Nat) (fs : List Fragment) (s : Text) :
    rowStarts (rows key i fs ++ s) = rowStarts s + fs.length := by
  induction fs generalizing i with
  | nil => rfl
  | cons f fs ih =>
    rw [rows_cons, List.append_assoc, rowStarts_row, ih, List.length_cons]
    omega

/-- A literal is the list of its characters; decoding it would take long. -/
theorem not_mem_literal {c : Char} {s : String} {cs : Text} (hs : s = String.ofList cs)
    (h : c ∉ cs) : c ∉ s.toList := by
  rwa [hs, String.toList_ofList]

theorem tag_not_mem_style : '<' ∉ style := by
  delta style
  simp only [List.mem_append, not_or, and_assoc]
  refine ⟨?_, ?_, ?_, ?_, ?_, ?_, ?_, ?_, ?_, ?_, ?_, ?_, ?_⟩ <;>
    · refine not_mem_literal rfl ?_
      decide

theorem rowStarts_style {rules : Text} (h : '<' ∉ rules) :
    rowStarts ("<style>" ++ rules ++ "</style>") = 0 := by
  have hsplit : ("<style>" : Text) ++ rules ++ "</style>" =
      "<style" ++ '>' :: (rules ++ "</style>") := by simp
  rw [hsplit, rowStarts_tag, rowStarts_append_of_not_mem h]
  decide

/-- No row starts before the rows. -/
theorem rowStarts_opening (s : Text) : rowStarts (opening ++ s) = rowStarts s := by
  have hstyle := rowStarts_style tag_not_mem_style
  have htags : ∀ tag ∈ (["<div style=\"margin: 1rem\">", "<table class=\"sw-twig-args-table\">",
      "<thead>", "<tr>", "<th>Name</th>", "<th>Content</th>", "</tr>", "</thead>",
      "<tbody>"] : List Text), rowStarts tag = 0 := by decide
  simp only [List.forall_mem_cons] at htags
  obtain ⟨hdiv, htable, hthead, htr, hname, hcontent, htr', hthead', htbody, -⟩ := htags
  simp only [opening, List.append_assoc, rowStarts_line]
  simp only [← List.append_assoc, hstyle, hdiv, htable, hthead, htr, hname, hcontent, htr',
    hthead', htbody, Nat.zero_add]

/-- Under the same keys, two lists of blocks have the same table only if they are the same list, and
the table of a list starts as many rows as the list has blocks. -/
theorem render_faithful (key : Nat → Text) (fs gs : List Fragment) :
    (render key fs = render key gs ↔ fs = gs) ∧
      occurrences "<tr data-key=\"" (render key fs) = fs.length := by
  have hclosing : rowStarts closing = 0 := by decide +kernel
  constructor
  · refine ⟨fun h => ?_, fun h => by rw [h]⟩
    rw [render_eq, render_eq] at h
    exact rows_injective (List.append_cancel_left h)
  · show rowStarts (render key fs) = fs.length
    rw [render_eq, rowStarts_opening, rowStarts_rows, hclosing, Nat.zero_add]

end Blockbook.Panel
