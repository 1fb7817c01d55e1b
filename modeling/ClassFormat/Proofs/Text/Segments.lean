import ClassFormat.Text.Segments

/-!
# Splitting what was joined

Segments without the separator are found again when what they were joined to is
split.  Exchanging the separator in a joined text joins the segments with the
other one.
-/

namespace ClassFormat.Text

theorem split_of_not_mem {separator : Char} {text : List Char}
    (unseparated : separator ∉ text) :
    split separator text = [text] := by
  induction text with
  | nil => rfl
  | cons c others hypothesis =>
      rw [split_cons, if_neg (Ne.symm (List.ne_of_not_mem_cons unseparated)),
        hypothesis (List.not_mem_of_not_mem_cons unseparated)]
      rfl

theorem split_append {separator : Char} {front : List Char}
    (unseparated : separator ∉ front) (others : List Char) :
    split separator (front ++ separator :: others) =
      front :: split separator others := by
  induction front with
  | nil => rw [List.nil_append, split_cons, if_pos rfl]
  | cons c front hypothesis =>
      rw [List.cons_append, split_cons,
        if_neg (Ne.symm (List.ne_of_not_mem_cons unseparated)),
        hypothesis (List.not_mem_of_not_mem_cons unseparated)]
      rfl

theorem join_singleton (separator : Char) (segment : List Char) :
    join separator [segment] = segment :=
  List.intercalate_singleton

/-- No segment of a text which was split holds the separator. -/
theorem not_mem_of_mem_split {separator : Char} {text segment : List Char}
    (member : segment ∈ split separator text) : separator ∉ segment := by
  induction text generalizing segment with
  | nil =>
      rw [List.mem_singleton.1 member]
      exact List.not_mem_nil
  | cons c others hypothesis =>
      rw [split_cons] at member
      split at member
      · rcases List.mem_cons.1 member with rfl | later
        · exact List.not_mem_nil
        · exact hypothesis later
      · next different =>
          cases segments : ClassFormat.Text.split separator others with
          | nil => exact absurd segments (split_ne_nil separator others)
          | cons first rest =>
              rw [segments] at member hypothesis
              rcases List.mem_cons.1 member with rfl | later
              · rw [List.mem_cons, not_or]
                exact ⟨Ne.symm different, hypothesis List.mem_cons_self⟩
              · exact hypothesis (List.mem_cons_of_mem first later)

theorem join_concat {separator : Char} {front : List (List Char)}
    (nonempty : front ≠ []) (last : List Char) :
    join separator (front ++ [last]) =
      join separator front ++ separator :: last := by
  induction front with
  | nil => exact absurd rfl nonempty
  | cons first others hypothesis =>
      cases others with
      | nil =>
          rw [List.singleton_append, join_cons_cons, join_singleton,
            join_singleton]
      | cons second others =>
          rw [List.cons_append, List.cons_append, join_cons_cons,
            ← List.cons_append, hypothesis (List.cons_ne_nil second others),
            join_cons_cons, List.append_assoc, List.cons_append]

/--
Splitting undoes joining, unless there is no segment or a segment holds the
separator.
-/
theorem split_join {separator : Char} {segments : List (List Char)}
    (nonempty : segments ≠ [])
    (unseparated : ∀ segment ∈ segments, separator ∉ segment) :
    split separator (join separator segments) = segments := by
  induction segments with
  | nil => exact absurd rfl nonempty
  | cons first others hypothesis =>
      rcases List.forall_mem_cons.1 unseparated with ⟨inFirst, inOthers⟩
      cases others with
      | nil => rw [join_singleton, split_of_not_mem inFirst]
      | cons second others =>
          rw [join_cons_cons, split_append inFirst,
            hypothesis (List.cons_ne_nil second others) inOthers]

/-- A joined text holds separators and what the segments hold. -/
theorem eq_or_mem_of_mem_join {separator c : Char} {segments : List (List Char)}
    (member : c ∈ join separator segments) :
    c = separator ∨ ∃ segment ∈ segments, c ∈ segment := by
  induction segments with
  | nil => exact absurd member (by simp [join, List.intercalate])
  | cons first others hypothesis =>
      cases others with
      | nil =>
          rw [join_singleton] at member
          exact .inr ⟨first, List.mem_cons_self, member⟩
      | cons second others =>
          rw [join_cons_cons, List.mem_append, List.mem_cons] at member
          rcases member with inFirst | separates | inOthers
          · exact .inr ⟨first, List.mem_cons_self, inFirst⟩
          · exact .inl separates
          · rcases hypothesis inOthers with separates | ⟨segment, among, inside⟩
            · exact .inl separates
            · exact .inr ⟨segment, List.mem_cons_of_mem first among, inside⟩

theorem join_ne_nil {separator : Char} {segments : List (List Char)}
    (nonempty : segments ≠ []) (named : [] ∉ segments) :
    join separator segments ≠ [] := by
  match segments with
  | [] => exact absurd rfl nonempty
  | [segment] =>
      rw [join_singleton]
      rintro rfl
      exact named List.mem_cons_self
  | first :: second :: others =>
      rw [join_cons_cons]
      simp

theorem replaceChar_of_not_mem {old : Char} {text : List Char} (new : Char)
    (missing : old ∉ text) :
    replaceChar old new text = text := by
  have kept : ∀ c ∈ text, (if c = old then new else c) = c := by
    intro c member
    rw [if_neg]
    rintro rfl
    exact missing member
  rw [replaceChar, List.map_congr_left kept, List.map_id']

/-- A character which was exchanged for another one is gone. -/
theorem not_mem_replaceChar {old new : Char} (different : old ≠ new)
    (text : List Char) :
    old ∉ replaceChar old new text := by
  intro member
  rcases List.mem_map.1 member with ⟨c, -, made⟩
  split at made
  · exact different made.symm
  · next other => exact other made

/--
The occurrences of a character after an exchange are those which were there and
the new ones.
-/
theorem count_replaceChar {old new : Char} (different : old ≠ new)
    (text : List Char) :
    (replaceChar old new text).count new = text.count new + text.count old := by
  induction text with
  | nil => rfl
  | cons c others hypothesis =>
      rw [replaceChar, List.map_cons, ← replaceChar, List.count_cons,
        List.count_cons, List.count_cons, hypothesis]
      by_cases exchanged : c = old
      · simp only [exchanged, if_true, beq_self_eq_true, beq_iff_eq, different,
          if_false]
        omega
      · simp only [exchanged, if_false, beq_iff_eq]
        omega

theorem replaceChar_append (old new : Char) (first second : List Char) :
    replaceChar old new (first ++ second) =
      replaceChar old new first ++ replaceChar old new second :=
  List.map_append

/-- Exchanging a character for one which was not there can be undone. -/
theorem replaceChar_replaceChar {old new : Char} {text : List Char}
    (fresh : new ∉ text) :
    replaceChar new old (replaceChar old new text) = text := by
  have kept : ∀ c ∈ text,
      ((fun c => if c = new then old else c) ∘ fun c =>
        if c = old then new else c) c = c := by
    intro c member
    have different : c ≠ new := by
      rintro rfl
      exact fresh member
    by_cases same : c = old
    · simp [same]
    · simp [same, different]
  rw [replaceChar, replaceChar, List.map_map, List.map_congr_left kept,
    List.map_id']

/-- A text after an exchange holds the new character and what it held before. -/
theorem eq_or_mem_of_mem_replaceChar {old new c : Char} {text : List Char}
    (member : c ∈ replaceChar old new text) : c = new ∨ c ∈ text := by
  rcases List.mem_map.1 member with ⟨d, inside, made⟩
  split at made
  · exact .inl made.symm
  · exact .inr (made ▸ inside)

/-- Other characters are not touched by an exchange. -/
theorem mem_replaceChar_iff {old new c : Char} (notOld : c ≠ old)
    (notNew : c ≠ new) {text : List Char} :
    c ∈ replaceChar old new text ↔ c ∈ text := by
  constructor
  · intro member
    rcases List.mem_map.1 member with ⟨d, inside, made⟩
    split at made
    · exact absurd made.symm notNew
    · rwa [← made]
  · intro member
    exact List.mem_map.2 ⟨c, member, if_neg notOld⟩

theorem replaceChar_self (c : Char) (text : List Char) :
    replaceChar c c text = text := by
  have kept (d : Char) : (if d = c then c else d) = d := by
    by_cases same : d = c
    · rw [if_pos same, same]
    · exact if_neg same
  simp only [replaceChar, kept, List.map_id']

/--
Exchanging a character for another one and back is to exchange the other one.
-/
theorem replaceChar_replaceChar_back {old new : Char} (text : List Char) :
    replaceChar new old (replaceChar old new text) =
      replaceChar new old text := by
  rw [replaceChar, replaceChar, List.map_map]
  apply List.map_congr_left
  intro c _
  by_cases same : c = old
  · simp [same]
  · simp [same]

theorem replaceChar_eq_self_iff {old new : Char} (different : old ≠ new)
    {text : List Char} :
    replaceChar old new text = text ↔ old ∉ text := by
  constructor
  · intro same
    rw [← same]
    exact not_mem_replaceChar different text
  · exact replaceChar_of_not_mem new

/-- Exchanging the separator of segments which do not hold it. -/
theorem replaceChar_join {old : Char} {segments : List (List Char)} (new : Char)
    (unseparated : ∀ segment ∈ segments, old ∉ segment) :
    replaceChar old new (join old segments) = join new segments := by
  induction segments with
  | nil => rfl
  | cons first others hypothesis =>
      rcases List.forall_mem_cons.1 unseparated with ⟨inFirst, inOthers⟩
      cases others with
      | nil =>
          rw [join_singleton, join_singleton,
            replaceChar_of_not_mem new inFirst]
      | cons second others =>
          have exchanged : replaceChar old new [old] = [new] := by
            simp [replaceChar]
          rw [join_cons_cons, join_cons_cons, replaceChar_append,
            replaceChar_of_not_mem new inFirst, ← List.singleton_append,
            replaceChar_append, exchanged, hypothesis inOthers,
            List.singleton_append]

end ClassFormat.Text
