/-!
# Separated texts

Splitting a text at a separator and joining it again.  Splitting always gives at
least one segment, and joining the segments with the same separator gives the
text back.
-/

namespace ClassFormat.Text

/-- Put a character in front of the first segment. -/
def consFirst (c : Char) : List (List Char) → List (List Char)
  | [] => [[c]]
  | segment :: segments => (c :: segment) :: segments

/-- The segments between the occurrences of a separator. -/
def split (separator : Char) (text : List Char) : List (List Char) :=
  text.foldr
    (fun c segments =>
      if c = separator then [] :: segments else consFirst c segments)
    [[]]

@[simp]
theorem split_nil (separator : Char) : split separator [] = [[]] := rfl

theorem split_cons (separator c : Char) (text : List Char) :
    split separator (c :: text) =
      if c = separator then [] :: split separator text
      else consFirst c (split separator text) := rfl

theorem split_ne_nil (separator : Char) (text : List Char) :
    split separator text ≠ [] := by
  cases text with
  | nil => simp
  | cons c text =>
    rw [split_cons]
    split
    · simp
    · cases ClassFormat.Text.split separator text <;> simp [consFirst]

/-- The segments with a separator between neighbours. -/
def join (separator : Char) (segments : List (List Char)) : List Char :=
  List.intercalate [separator] segments

theorem join_cons_cons (separator : Char) (first second : List Char)
    (others : List (List Char)) :
    join separator (first :: second :: others) =
      first ++ separator :: join separator (second :: others) := by
  simp [join, List.intercalate]

theorem join_split (separator : Char) (text : List Char) :
    join separator (split separator text) = text := by
  induction text with
  | nil => simp [join, List.intercalate]
  | cons c text hypothesis =>
    have nonempty := split_ne_nil separator text
    rw [split_cons]
    match segments : ClassFormat.Text.split separator text with
    | [] => exact absurd segments nonempty
    | first :: others =>
      rw [segments] at hypothesis
      split
      · next equal =>
        rw [join_cons_cons, hypothesis, equal]
        rfl
      · cases others with
        | nil => simpa [consFirst, join, List.intercalate] using hypothesis
        | cons second others =>
          rw [join_cons_cons] at hypothesis
          rw [consFirst, join_cons_cons, List.cons_append, hypothesis]

/-- Exchange every occurrence of one character for another. -/
def replaceChar (old new : Char) (text : List Char) : List Char :=
  text.map fun c => if c = old then new else c

end ClassFormat.Text
