import Blockbook.Span

/-!
# Slices of a text

A span gives the bytes at which a stretch of source text starts and stops. `slice?` takes such a
stretch out of the text, and there is none that starts or stops inside a character.

* `slice?_eq_some_iff`: a slice stands in the text after as many bytes as its start says.
* `Position.offset_advance`: a position moves on by the bytes of the text it is moved over.
-/

namespace Blockbook

namespace Text

/-- The front of a text that takes up `n` bytes, and what follows it. -/
def splitBytes? : Nat → Text → Option (Text × Text)
  | 0, s => some ([], s)
  | _ + 1, [] => none
  | n + 1, c :: cs =>
    if c.utf8Size ≤ n + 1 then
      (splitBytes? (n + 1 - c.utf8Size) cs).map fun (front, rest) => (c :: front, rest)
    else none

/-- The stretch of a text from byte `start` up to byte `stop`. -/
def slice? (s : Text) (start stop : Nat) : Option Text :=
  match splitBytes? start s with
  | some (_, rest) =>
    if start ≤ stop then (splitBytes? (stop - start) rest).map Prod.fst else none
  | none => none

/-! ## Bytes -/

@[simp]
theorem byteLength_nil : byteLength [] = 0 := rfl

theorem foldl_utf8Size (n : Nat) (s : Text) :
    s.foldl (fun n c => n + c.utf8Size) n = n + byteLength s := by
  induction s generalizing n with
  | nil => rfl
  | cons c cs ih =>
    rw [byteLength, List.foldl_cons, List.foldl_cons, ih, ih, Nat.zero_add, Nat.add_assoc]

@[simp]
theorem byteLength_cons (c : Char) (s : Text) :
    byteLength (c :: s) = c.utf8Size + byteLength s := by
  rw [byteLength, List.foldl_cons, foldl_utf8Size, Nat.zero_add]

@[simp]
theorem byteLength_append (s t : Text) : byteLength (s ++ t) = byteLength s + byteLength t := by
  induction s with
  | nil => rw [List.nil_append, byteLength_nil, Nat.zero_add]
  | cons c cs ih => rw [List.cons_append, byteLength_cons, byteLength_cons, ih, Nat.add_assoc]

theorem byteLength_pos {s : Text} (h : s ≠ []) : 0 < byteLength s := by
  cases s with
  | nil => exact absurd rfl h
  | cons c cs =>
    rw [byteLength_cons]
    have := c.utf8Size_pos
    omega

theorem splitBytes?_eq_some_iff {n : Nat} {s front rest : Text} :
    splitBytes? n s = some (front, rest) ↔ s = front ++ rest ∧ byteLength front = n := by
  induction s generalizing n front rest with
  | nil =>
    cases n with
    | zero => cases front <;> simp [splitBytes?, eq_comm]
    | succ n => cases front <;> simp [splitBytes?]
  | cons c cs ih =>
    have hpos := c.utf8Size_pos
    cases n with
    | zero =>
      cases front with
      | nil => simp [splitBytes?]
      | cons d front =>
        have hd := d.utf8Size_pos
        simp only [splitBytes?, byteLength_cons]
        simp
        omega
    | succ n =>
      rw [splitBytes?]
      cases front with
      | nil => split <;> simp
      | cons d front =>
        split
        · simp only [Option.map_eq_some_iff, Prod.exists, Prod.mk.injEq, List.cons.injEq, ih,
            List.cons_append, byteLength_cons]
          constructor
          · rintro ⟨u, v, ⟨rfl, hu⟩, ⟨rfl, rfl⟩, rfl⟩
            exact ⟨⟨rfl, rfl⟩, by omega⟩
          · rintro ⟨⟨rfl, rfl⟩, hn⟩
            exact ⟨front, rest, ⟨rfl, by omega⟩, ⟨rfl, rfl⟩, rfl⟩
        · simp only [reduceCtorEq, List.cons_append, List.cons.injEq, byteLength_cons, false_iff]
          rintro ⟨⟨rfl, -⟩, hn⟩
          omega

/-! ## Slices -/

/-- A slice stands in the text after as many bytes as its start says. -/
theorem slice?_eq_some_iff {s part : Text} {start stop : Nat} :
    s.slice? start stop = some part ↔
      ∃ front rest, s = front ++ (part ++ rest) ∧ byteLength front = start ∧
        start + byteLength part = stop := by
  rw [slice?]
  constructor
  · intro h
    split at h
    · next front rest hfront =>
      obtain ⟨rfl, rfl⟩ := splitBytes?_eq_some_iff.1 hfront
      split at h
      · next hle =>
        obtain ⟨⟨part', rest'⟩, hpart, rfl⟩ := Option.map_eq_some_iff.1 h
        obtain ⟨rfl, hlen⟩ := splitBytes?_eq_some_iff.1 hpart
        refine ⟨front, rest', rfl, rfl, ?_⟩
        rw [hlen]
        omega
      · cases h
    · cases h
  · rintro ⟨front, rest, rfl, rfl, rfl⟩
    rw [splitBytes?_eq_some_iff.2 ⟨rfl, rfl⟩]
    dsimp only
    rw [if_pos (Nat.le_add_right ..), Nat.add_sub_cancel_left,
      splitBytes?_eq_some_iff.2 ⟨rfl, rfl⟩]
    rfl

variable {s part : Text} {start stop : Nat}

theorem stop_of_slice? (h : s.slice? start stop = some part) :
    start + byteLength part = stop := by
  obtain ⟨-, -, -, -, hstop⟩ := slice?_eq_some_iff.1 h
  exact hstop

theorem stop_le_of_slice? (h : s.slice? start stop = some part) : stop ≤ byteLength s := by
  obtain ⟨front, rest, rfl, rfl, rfl⟩ := slice?_eq_some_iff.1 h
  simp only [byteLength_append]
  omega

/-- A slice of two parts is a slice for each of them. -/
theorem slice?_of_append {u v : Text} (h : s.slice? start stop = some (u ++ v)) :
    s.slice? start (start + byteLength u) = some u ∧
      s.slice? (start + byteLength u) stop = some v := by
  obtain ⟨front, rest, rfl, rfl, rfl⟩ := slice?_eq_some_iff.1 h
  constructor
  · exact slice?_eq_some_iff.2 ⟨front, v ++ rest, by simp, rfl, rfl⟩
  · exact slice?_eq_some_iff.2 ⟨front ++ u, rest, by simp, by simp, by simp [Nat.add_assoc]⟩

end Text

/-! ## Positions -/

namespace Position

theorem offset_step (p : Position) (c : Char) : (p.step c).offset = p.offset + c.utf8Size := by
  rw [step]
  split <;> rfl

/-- A position moves on by the bytes of the text it is moved over. -/
theorem offset_advance (p : Position) (s : Text) :
    (p.advance s).offset = p.offset + Text.byteLength s := by
  induction s generalizing p with
  | nil => rfl
  | cons c cs ih =>
    rw [advance, List.foldl_cons, ← advance, ih, offset_step, Text.byteLength_cons, Nat.add_assoc]

theorem advance_append (p : Position) (s t : Text) :
    p.advance (s ++ t) = (p.advance s).advance t := List.foldl_append

end Position

theorem Span.start_covering (p : Position) (s : Text) : (Span.covering p s).start = p.offset := rfl

theorem Span.stop_covering (p : Position) (s : Text) :
    (Span.covering p s).stop = p.offset + Text.byteLength s := p.offset_advance s

end Blockbook
