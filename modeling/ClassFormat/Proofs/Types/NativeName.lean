import ClassFormat.Proofs.Types.Spellings

/-!
# Reserved native names

A native name never holds a `$`, and a reserved word never has a reserved native
name.  Another identifier may have one, though: whether an identifier is
reserved is decided before its `$` are replaced, and replacing them turns
`and$eq` into `and_eq`.  There are nine such identifiers, one for each reserved
word with an underscore, and a class called like one of them has a reserved word
for its simple name.
-/

namespace ClassFormat

open Text

/-- The identifiers which replacing each `$` turns into reserved words. -/
def disguisedWords : List String := [
  "and$eq", "const$cast", "dynamic$cast", "not$eq", "or$eq", "reinterpret$cast",
  "static$cast",
  "wchar$t", "xor$eq"]

/-- A word with a `$` for each underscore. -/
def withDollars (word : String) : String :=
  String.ofList (replaceChar '_' '$' word.toList)

/-! ## The reserved words -/

/-- The disguised words are made from the reserved words with an underscore. -/
theorem disguisedWords_eq :
    disguisedWords =
      (reservedWords.filter fun word => '_' ∈ word.toList).map withDollars := by
  decide +kernel

theorem not_mem_of_mem_reservedWords {word : String}
    (reserved : word ∈ reservedWords) :
    '$' ∉ word.toList := by
  have all : ∀ word ∈ reservedWords, '$' ∉ word.toList := by decide +kernel
  exact all word reserved

theorem count_le_one_of_mem_reservedWords {word : String}
    (reserved : word ∈ reservedWords) :
    word.toList.count '_' ≤ 1 := by
  have all : ∀ word ∈ reservedWords, word.toList.count '_' ≤ 1 := by
    decide +kernel
  exact all word reserved

/-- No reserved word ends like the native name of a reserved word. -/
theorem append_not_mem_reservedWords (front : String) :
    front ++ "_" ∉ reservedWords := by
  have ends : ∀ word ∈ reservedWords, word.toList.getLast? ≠
      some '_' := by decide +kernel
  intro reserved
  apply ends _ reserved
  rw [String.toList_append]
  exact List.getLast?_concat

/-! ## Native names -/

theorem not_mem_withoutDollars (identifier : String) :
    '$' ∉ (withoutDollars identifier).toList := by
  rw [withoutDollars, String.toList_ofList]
  exact not_mem_replaceChar (by decide) identifier.toList

theorem withoutDollars_of_not_mem {identifier : String}
    (plain : '$' ∉ identifier.toList) :
    withoutDollars identifier = identifier := by
  rw [withoutDollars, replaceChar_of_not_mem '_' plain, String.ofList_toList]

theorem withoutDollars_withDollars {word : String} (plain : '$' ∉ word.toList) :
    withoutDollars (withDollars word) = word := by
  rw [withoutDollars, withDollars, String.toList_ofList,
    replaceChar_replaceChar plain, String.ofList_toList]

/--
If there is one underscore in the end and one of them was a `$`, there was no
other.
-/
theorem withDollars_withoutDollars {identifier : String}
    (dollar : '$' ∈ identifier.toList)
    (single : (withoutDollars identifier).toList.count '_' ≤ 1) :
    withDollars (withoutDollars identifier) = identifier := by
  rw [withoutDollars, String.toList_ofList,
    count_replaceChar (by decide)] at single
  have some_ : 0 < identifier.toList.count '$' := List.count_pos_iff.2 dollar
  have none_ : '_' ∉ identifier.toList := List.count_eq_zero.1 (by omega)
  rw [withDollars, withoutDollars, String.toList_ofList,
    replaceChar_replaceChar none_, String.ofList_toList]

/--
The disguised words are what replacing some `$` turns into reserved words.
-/
theorem mem_disguisedWords_iff {identifier : String} :
    identifier ∈ disguisedWords ↔
      '$' ∈ identifier.toList ∧ withoutDollars identifier ∈ reservedWords := by
  rw [disguisedWords_eq, List.mem_map]
  constructor
  · rintro ⟨word, member, rfl⟩
    rcases List.mem_filter.1 member with ⟨reserved, underscore⟩
    refine ⟨?_, ?_⟩
    · rw [withDollars, String.toList_ofList]
      exact List.mem_map.2 ⟨'_', by simpa using underscore, rfl⟩
    · rwa [withoutDollars_withDollars (not_mem_of_mem_reservedWords reserved)]
  · rintro ⟨dollar, reserved⟩
    refine ⟨withoutDollars identifier, List.mem_filter.2 ⟨reserved, ?_⟩, ?_⟩
    · rw [withoutDollars, String.toList_ofList]
      exact decide_eq_true (List.mem_map.2 ⟨'$', dollar, rfl⟩)
    · exact withDollars_withoutDollars dollar
        (count_le_one_of_mem_reservedWords reserved)

theorem not_mem_nativeName (identifier : String) :
    '$' ∉ (nativeName identifier).toList := by
  rw [nativeName]
  split
  · rw [String.toList_append, List.mem_append, not_or]
    exact ⟨not_mem_withoutDollars identifier, by decide⟩
  · exact not_mem_withoutDollars identifier

/--
A native name is made of the characters of the identifier and of underscores.
-/
theorem eq_or_mem_of_mem_nativeName {identifier : String} {c : Char}
    (member : c ∈ (nativeName identifier).toList) :
    c = '_' ∨ c ∈ identifier.toList := by
  have plain (inside : c ∈ (withoutDollars identifier).toList) : c = '_' ∨
      c ∈ identifier.toList := by
    rw [withoutDollars, String.toList_ofList] at inside
    exact eq_or_mem_of_mem_replaceChar inside
  rw [nativeName] at member
  split at member
  · rw [String.toList_append, List.mem_append] at member
    rcases member with inside | mark
    · exact plain inside
    · exact .inl (List.mem_singleton.1 mark)
  · exact plain member

/-- Exactly the disguised words have reserved native names. -/
theorem nativeName_mem_reservedWords_iff (identifier : String) :
    nativeName identifier ∈ reservedWords ↔ identifier ∈ disguisedWords := by
  rw [mem_disguisedWords_iff, nativeName]
  split
  · next reserved =>
      have plain := not_mem_of_mem_reservedWords reserved
      exact ⟨fun suffixed => absurd suffixed (append_not_mem_reservedWords _),
        fun disguised => absurd disguised.1 plain⟩
  · next free =>
      refine ⟨fun reserved => ⟨?_, reserved⟩, And.right⟩
      apply Decidable.byContradiction
      intro plain
      rw [withoutDollars_of_not_mem plain] at reserved
      exact free reserved

/-- The type of a class with a name. -/
def ClassName.type (name : ClassName) : NamedType :=
  ⟨0, .object name, nofun⟩

/--
The native name of an identifier holds no `$`, and it is a reserved word exactly
if the identifier is a disguised word.  However the name of a class called like
the identifier is written, it resolves to the class, and the same is true of the
simple name of the class.
-/
theorem nativeName_reserved_iff_disguised (identifier : String) :
    '$' ∉ (nativeName identifier).toList ∧
      (nativeName identifier ∈ reservedWords ↔ identifier ∈ disguisedWords) ∧
      ∀ (name : ClassName) {written : WrittenType},
        name.segments.getLast name.nonempty = identifier →
          written ∈ name.type.spellings →
          ResolvedType.resolve written = .ok (.object name.class_) ∧
            '$' ∉ name.class_.simpleName.toList ∧
            (name.class_.simpleName ∈ reservedWords ↔
              identifier ∈ disguisedWords) := by
  refine ⟨not_mem_nativeName identifier,
    nativeName_mem_reservedWords_iff identifier, ?_⟩
  rintro name written rfl member
  refine ⟨(NamedType.spells_of_mem_spellings member).resolved,
    not_mem_nativeName _, ?_⟩
  exact nativeName_mem_reservedWords_iff _

/--
A member class resolves from its path to a class with a usable simple name.
-/
theorem nativeName_reserved_iff_disguised_sample :
    let name : ClassName :=
      ⟨["java", "util", "Map$Entry"], by decide, by decide, by simp, by simp⟩
    let path := WrittenType.path "java/util/Map$Entry"
    path ∈ name.type.spellings ∧
      ResolvedType.resolve path = .ok (.object name.class_) ∧
      name.class_.simpleName ∉ reservedWords := by
  intro name path
  have written : path ∈ name.type.spellings := .tail _ (.tail _ (.head _))
  have usable : "Map$Entry" ∉ disguisedWords := by decide
  rcases (nativeName_reserved_iff_disguised "Map$Entry").2.2
    name rfl written with ⟨resolves, -, reserved⟩
  exact ⟨written, resolves, fun member => usable (reserved.1 member)⟩

/--
The native name of `and$eq` is reserved, and so is the simple name of the class
called like this.
-/
theorem disguised_name_is_reserved :
    nativeName "and$eq" ∈ reservedWords ∧
      ∃ written, WrittenType.ofDescriptor "Land$eq;" = .ok written ∧
        ResolvedType.resolve written = .ok (.object ⟨"and$eq", ⟨[]⟩⟩) ∧
          QualifiedClass.simpleName ⟨"and$eq", ⟨[]⟩⟩ ∈ reservedWords := by
  refine ⟨by decide +kernel,
    .descriptor ⟨0, .object "and$eq", by decide, nofun⟩, ?_, ?_, ?_⟩
  · rfl
  · rfl
  · decide +kernel

end ClassFormat
