import Mathlib.Data.List.Forall2
import ClassFormat.Proofs.Types.NativeName
import ClassFormat.Proofs.Types.Layers

/-!
# Include guards

The guard of a header is the native name of its class in capitals, with an
underscore wherever the path of the header has a slash.  A reserved word has an
underscore more in the guard than in the path.  So a guard does not tell a slash
from an underscore, nor the case of a letter, nor a mark from an underscore
which was written.  Headers whose paths differ in nothing else share their
guards, and no other headers do.
-/

namespace ClassFormat

open Text

/-! ## Upper case of ASCII texts -/

namespace Text

theorem upper_of_ascii {text : String}
    (ascii : ∀ c ∈ text.toList, c.toNat < 0x80) :
    upper text = String.ofList (text.toList.map Char.toUpper) := by
  have each : text.toList.map upperChar = text.toList.map fun c =>
      [c.toUpper] :=
    List.map_congr_left fun c member => if_pos (ascii c member)
  rw [upper, List.flatMap_def, each, ← List.flatMap_def, ← List.map_eq_flatMap]

theorem upper_append (first second : String) :
    upper (first ++ second) = upper first ++ upper second := by
  rw [upper, upper, upper, String.toList_append, List.flatMap_append,
    String.ofList_append]

/-- Only capitals are upper case of another character. -/
theorem eq_of_toUpper_eq {c d : Char}
    (other : d.toNat < 'A'.toNat ∨ 'Z'.toNat < d.toNat) (same : c.toUpper = d) :
    c = d := by
  by_cases small : 'a'.val ≤ c.val ∧ c.val ≤ 'z'.val
  · have shifted : d.toNat = (c.toNat + (2 ^ 32 - 0x20)) % 2 ^ 32 := by
      have raised : c.toUpper = ⟨c.val + ('A'.val - 'a'.val), _⟩ :=
        dif_pos small
      rw [← same, raised]
      exact UInt32.toNat_add c.val _
    -- The upper case of a small letter is a capital, which `d` is not.
    have first : 0x61 ≤ c.toNat := small.1
    have last : c.toNat ≤ 0x7a := small.2
    have capitals : 'A'.toNat = 0x41 ∧ 'Z'.toNat = 0x5a := ⟨rfl, rfl⟩
    omega
  · exact (dif_neg small).symm.trans same

end Text

/-! ## Characters in guards -/

/-- The character of a guard for one of a path. -/
def guardChar (c : Char) : Char :=
  (if c = '/' then '_' else c).toUpper

/-- Two characters which a guard does not tell apart. -/
def AlikeInGuards (c d : Char) : Prop :=
  c.toUpper = d.toUpper ∨ (c = '/' ∨ c = '_') ∧ (d = '/' ∨ d = '_')

theorem guardChar_eq_underscore_iff {c : Char} :
    guardChar c = '_' ↔ c = '/' ∨ c = '_' := by
  rw [guardChar]
  split
  · next slash => exact iff_of_true rfl (.inl slash)
  · next other =>
      refine ⟨fun same => .inr (eq_of_toUpper_eq (by decide) same), ?_⟩
      rintro (slash | rfl)
      · exact absurd slash other
      · rfl

theorem guardChar_of_ne {c : Char} (other : c ≠ '/') :
    guardChar c = c.toUpper := by
  rw [guardChar, if_neg other]

theorem guardChar_eq_iff {c d : Char} :
    guardChar c = guardChar d ↔ AlikeInGuards c d := by
  constructor
  · intro same
    by_cases mark : guardChar c = '_'
    · exact .inr ⟨guardChar_eq_underscore_iff.1 mark,
        guardChar_eq_underscore_iff.1 (same ▸ mark)⟩
    · have first : c ≠ '/' :=
        fun slash => mark (guardChar_eq_underscore_iff.2 (.inl slash))
      have second : d ≠ '/' :=
        fun slash =>
          mark (same.trans (guardChar_eq_underscore_iff.2 (.inl slash)))
      rw [guardChar_of_ne first, guardChar_of_ne second] at same
      exact .inl same
  · rintro (same | ⟨first, second⟩)
    · by_cases slash : c = '/'
      · rw [slash] at same
        have slash' : d = '/' := eq_of_toUpper_eq (by decide) same.symm
        rw [slash, slash']
      · have other : d ≠ '/' := by
          rintro rfl
          exact slash (eq_of_toUpper_eq (by decide) same)
        rw [guardChar_of_ne slash, guardChar_of_ne other, same]
    · rw [guardChar_eq_underscore_iff.2 first,
        guardChar_eq_underscore_iff.2 second]

/-- Two texts look the same in guards if their characters do. -/
theorem map_guardChar_eq_iff {first second : List Char} :
    first.map guardChar = second.map guardChar ↔
      List.Forall₂ AlikeInGuards first second := by
  rw [← List.forall₂_eq_eq_eq, List.forall₂_map_left_iff,
    List.forall₂_map_right_iff]
  simp only [guardChar_eq_iff]

theorem guardChar_eq_iff_of_ne {c d : Char} (unmarked : c ≠ '_')
    (unmarked' : d ≠ '_') :
    guardChar c = guardChar d ↔ c.toUpper = d.toUpper := by
  rw [guardChar_eq_iff]
  refine ⟨?_, .inl⟩
  rintro (same | ⟨slash | mark, slash' | mark'⟩)
  · exact same
  · rw [slash, slash']
  · exact absurd mark' unmarked'
  · exact absurd mark unmarked
  · exact absurd mark unmarked

/--
Without underscores, texts which look the same in guards differ in the case of
letters only.
-/
theorem map_guardChar_eq_iff_of_not_mem {first second : List Char}
    (inFirst : '_' ∉ first) (inSecond : '_' ∉ second) :
    first.map guardChar = second.map guardChar ↔
      first.map Char.toUpper = second.map Char.toUpper := by
  induction first generalizing second with
  | nil =>
      cases second with
      | nil => exact iff_of_true rfl rfl
      | cons d second =>
          exact iff_of_false (List.cons_ne_nil _ _).symm
            (List.cons_ne_nil _ _).symm
  | cons c first hypothesis =>
      cases second with
      | nil => exact iff_of_false (List.cons_ne_nil _ _) (List.cons_ne_nil _ _)
      | cons d second =>
          rw [List.mem_cons, not_or] at inFirst inSecond
          rw [List.map_cons, List.map_cons, List.map_cons, List.map_cons,
            List.cons_eq_cons, List.cons_eq_cons,
            hypothesis inFirst.2 inSecond.2,
            guardChar_eq_iff_of_ne (Ne.symm inFirst.1) (Ne.symm inSecond.1)]

/-! ## Paths with underscores for slashes -/

namespace Package

/-- The name of a package has underscores for the slashes of its path. -/
theorem toList_qualifier_underscore {package : Package}
    (divided : ∀ component ∈ package.components, '/' ∉ component.toList) :
    (package.qualifier "_").toList =
      replaceChar '/' '_' (package.qualifier "/").toList := by
  have unseparated : ∀ segment ∈ package.components.map String.toList,
      '/' ∉ segment := by
    intro segment member
    rcases List.mem_map.1 member with ⟨component, among, rfl⟩
    exact divided component among
  have names : (package.name "_").toList =
      replaceChar '/' '_' (package.name "/").toList := by
    simp only [name, join, String.toList_ofList]
    exact (replaceChar_join '_' unseparated).symm
  rw [qualifier, qualifier]
  split
  · rfl
  · rw [String.toList_append, String.toList_append, replaceChar_append, names]
    rfl

end Package

namespace QualifiedClass

/-- A class which a descriptor names. -/
def DescribedBy (class_ : QualifiedClass) (text : String) : Prop :=
  ∃ written, WrittenType.ofDescriptor text = .ok written ∧
    ResolvedType.resolve written = .ok (.object class_)

/-- The names of a class and of its packages are ASCII. -/
def Ascii (class_ : QualifiedClass) : Prop :=
  ∀ c ∈ (class_.qualifiedTrueName "/").toList, c.toNat < 0x80

instance (class_ : QualifiedClass) : Decidable class_.Ascii :=
  List.decidableBAll (fun c : Char => c.toNat < 0x80) _

/-- The path of the header of a class, without its ending. -/
def headerStem (class_ : QualifiedClass) : String :=
  class_.package.qualifier "/" ++ withoutDollars class_.name

/-- The stem of a header, with a mark behind a reserved word. -/
def guardStem (class_ : QualifiedClass) : String :=
  if class_.name ∈ reservedWords then
    class_.headerStem ++ "_"
  else
    class_.headerStem

theorem headerPath_eq (class_ : QualifiedClass) :
    class_.headerPath = class_.headerStem ++ ".h" :=
  rfl

theorem guardStem_eq (class_ : QualifiedClass) :
    class_.guardStem = class_.qualifiedName "/" := by
  rw [guardStem, qualifiedName, simpleName, nativeName, headerStem]
  split
  · rw [String.append_assoc]
  · rfl

/-- The native name is ASCII if the written one is. -/
theorem Ascii.lt_of_mem_qualifiedName {class_ : QualifiedClass}
    (ascii : class_.Ascii) {c : Char}
    (member : c ∈ (class_.qualifiedName "/").toList) : c.toNat < 0x80 := by
  rw [Ascii, qualifiedTrueName, String.toList_append] at ascii
  rw [qualifiedName, String.toList_append, List.mem_append] at member
  rcases member with inPackage | inName
  · exact ascii c (List.mem_append_left _ inPackage)
  · rcases eq_or_mem_of_mem_nativeName inName with rfl | written
    · decide
    · exact ascii c (List.mem_append_right _ written)

/-! ## Names without slashes -/

theorem mem_of_ofComponents {components : List String} {descriptor : String}
    {class_ : QualifiedClass}
    (made : ofComponents components descriptor = .ok class_) :
    class_.name ≠ "" ∧ class_.name ∈ components ∧
      ∀ component ∈ class_.package.components, component ∈ components := by
  rw [ofComponents] at made
  split at made
  · next name last =>
      split at made
      · cases made
      · next named =>
          cases made
          refine ⟨named, List.mem_of_getLast? last, ?_⟩
          exact fun component among => List.dropLast_subset components among
  · cases made

/-- A class which a descriptor names is made of the segments of a path. -/
theorem DescribedBy.exists_path {class_ : QualifiedClass} {text : String}
    (described : class_.DescribedBy text) :
    ∃ path descriptor,
      ofComponents ((split '/' path).map String.ofList) descriptor =
        .ok class_ := by
  rcases described with ⟨written, read, resolves⟩
  rcases Decoder.exists_of_map_eq_ok read with ⟨descriptor, -, rfl⟩
  rw [ResolvedType.resolve_descriptor] at resolves
  rcases Decoder.exists_of_map_eq_ok resolves with ⟨element, found, layered⟩
  cases dimensions : descriptor.dimensions with
  | succ inner =>
      rw [dimensions] at layered
      cases layered
  | zero =>
      rw [dimensions] at layered
      cases layered
      cases spelled : descriptor.element with
      | primitive kind =>
          rw [spelled] at found
          cases found
      | object path =>
          rw [spelled] at found
          rcases Decoder.exists_of_map_eq_ok found with ⟨made, components, same⟩
          cases same
          exact ⟨_, _, components⟩

/--
A class which a descriptor names has a name, and no slashes in it or in the
names of its packages.
-/
theorem DescribedBy.divided {class_ : QualifiedClass} {text : String}
    (described : class_.DescribedBy text) :
    class_.name ≠ "" ∧ '/' ∉ class_.name.toList ∧
      ∀ component ∈ class_.package.components, '/' ∉ component.toList := by
  rcases described.exists_path with ⟨path, descriptor, made⟩
  rcases mem_of_ofComponents made with ⟨named, name, packages⟩
  have divided : ∀ component ∈ (split '/' path).map String.ofList,
      '/' ∉ component.toList := by
    intro component member
    rcases List.mem_map.1 member with ⟨segment, cut, rfl⟩
    rw [String.toList_ofList]
    exact not_mem_of_mem_split cut
  exact ⟨named, divided _ name, fun component among =>
    divided _ (packages component among)⟩

/-! ## Guards -/

section Guards

variable {class_ : QualifiedClass} {text : String}
  (described : class_.DescribedBy text)
include described

theorem toList_qualifiedName_underscore :
    (class_.qualifiedName "_").toList =
      replaceChar '/' '_' class_.guardStem.toList := by
  rcases described.divided with ⟨-, simple, divided⟩
  have native : '/' ∉ class_.simpleName.toList := by
    intro member
    rcases eq_or_mem_of_mem_nativeName member with mark | inside
    · exact absurd mark (by decide)
    · exact simple inside
  rw [guardStem_eq, qualifiedName, qualifiedName, String.toList_append,
    String.toList_append, replaceChar_append,
    Package.toList_qualifier_underscore divided,
    replaceChar_of_not_mem '_' native]

/-- The guard of a class, character by character. -/
theorem toList_guardName (ascii : class_.Ascii) :
    class_.guardName.toList =
      class_.guardStem.toList.map guardChar ++ ['_', 'H'] := by
  have native : ∀ c ∈ (class_.qualifiedName "_").toList, c.toNat < 0x80 := by
    intro c member
    rw [toList_qualifiedName_underscore described, guardStem_eq] at member
    rcases eq_or_mem_of_mem_replaceChar member with rfl | inside
    · decide
    · exact ascii.lt_of_mem_qualifiedName inside
  have whole : class_.guardName = upper (class_.qualifiedName "_") ++ "_H" := by
    rw [guardName, qualifiedName, upper_append]
  rw [whole, upper_of_ascii native, String.toList_append, String.toList_ofList,
    toList_qualifiedName_underscore described, replaceChar, List.map_map]
  rfl

/--
The path of a header does not end with a slash, since there is a name behind the
last one.
-/
theorem getLast?_headerStem_ne_slash :
    class_.headerStem.toList.getLast? ≠ some '/' := by
  rcases described.divided with ⟨named, simple, -⟩
  have some_ : (withoutDollars class_.name).toList ≠ [] := by
    rw [withoutDollars, String.toList_ofList, replaceChar, ne_eq,
      List.map_eq_nil_iff, String.toList_eq_nil_iff]
    exact named
  rw [headerStem, String.toList_append, List.getLast?_append_of_ne_nil _ some_]
  intro ends
  have member := List.mem_of_getLast? ends
  rw [withoutDollars, String.toList_ofList,
    mem_replaceChar_iff (by decide) (by decide)] at member
  exact simple member

/-- Only a mark makes a guard end with an underscore, if none was written. -/
theorem map_guardChar_headerStem_ne (unmarked : '_' ∉ class_.headerStem.toList)
    (front : List Char) :
    class_.headerStem.toList.map guardChar ≠ front ++ ['_'] := by
  intro marked
  have last : (class_.headerStem.toList.map guardChar).getLast? = some '_' := by
    rw [marked, List.getLast?_concat]
  rw [List.getLast?_map, Option.map_eq_some_iff] at last
  rcases last with ⟨c, ends, mark⟩
  rcases guardChar_eq_underscore_iff.1 mark with rfl | rfl
  · exact getLast?_headerStem_ne_slash described ends
  · exact unmarked (List.mem_of_getLast? ends)

end Guards

theorem toList_guardStem (class_ : QualifiedClass) :
    class_.guardStem.toList =
      class_.headerStem.toList ++
        if class_.name ∈ reservedWords then ['_'] else [] := by
  rw [guardStem]
  split
  · rw [String.toList_append]
    rfl
  · rw [List.append_nil]

section Pairs

variable {firstText secondText : String} {first second : QualifiedClass}
  (describedFirst : first.DescribedBy firstText)
  (describedSecond : second.DescribedBy secondText)
include describedFirst describedSecond

/-- Without underscores in the paths, guards show whether there is a mark. -/
theorem map_guardChar_guardStem_eq_iff (inFirst : '_' ∉ first.headerStem.toList)
    (inSecond : '_' ∉ second.headerStem.toList) :
    first.guardStem.toList.map guardChar =
        second.guardStem.toList.map guardChar ↔
      first.headerStem.toList.map guardChar =
          second.headerStem.toList.map guardChar ∧
        (first.name ∈ reservedWords ↔ second.name ∈ reservedWords) := by
  have bareFirst := map_guardChar_headerStem_ne describedFirst inFirst
  have bareSecond := map_guardChar_headerStem_ne describedSecond inSecond
  rw [toList_guardStem, toList_guardStem, List.map_append, List.map_append]
  by_cases reservedFirst : first.name ∈ reservedWords
  · rw [if_pos reservedFirst]
    by_cases reservedSecond : second.name ∈ reservedWords
    · rw [if_pos reservedSecond, List.append_cancel_right_eq]
      exact (and_iff_left (iff_of_true reservedFirst reservedSecond)).symm
    · rw [if_neg reservedSecond, List.map_nil, List.append_nil]
      exact iff_of_false (fun same => bareSecond _ same.symm)
        fun both => reservedSecond (both.2.1 reservedFirst)
  · rw [if_neg reservedFirst, List.map_nil, List.append_nil]
    by_cases reservedSecond : second.name ∈ reservedWords
    · rw [if_pos reservedSecond]
      exact iff_of_false (bareFirst _) fun both =>
        reservedFirst (both.2.2 reservedSecond)
    · rw [if_neg reservedSecond, List.map_nil, List.append_nil]
      exact (and_iff_left (iff_of_false reservedFirst reservedSecond)).symm

/--
Two classes with ASCII names have one guard exactly if the paths of their
headers, marked behind reserved words, agree up to the case of letters and up to
slashes in place of underscores.  If no underscore stands in the paths, this
means that they agree up to the case of letters and that both names are reserved
or neither.
-/
theorem guardName_eq_iff_alike (asciiFirst : first.Ascii)
    (asciiSecond : second.Ascii) :
    (first.guardName = second.guardName ↔
      List.Forall₂ AlikeInGuards first.guardStem.toList
        second.guardStem.toList) ∧
    ('_' ∉ first.headerPath.toList → '_' ∉ second.headerPath.toList →
      (first.guardName = second.guardName ↔
        first.headerPath.toList.map Char.toUpper =
          second.headerPath.toList.map Char.toUpper ∧
          (first.name ∈ reservedWords ↔ second.name ∈ reservedWords))) := by
  have guards : first.guardName = second.guardName ↔
      first.guardStem.toList.map guardChar =
        second.guardStem.toList.map guardChar := by
    rw [← String.toList_inj, toList_guardName describedFirst asciiFirst,
      toList_guardName describedSecond asciiSecond, List.append_cancel_right_eq]
  refine ⟨guards.trans map_guardChar_eq_iff, ?_⟩
  intro inFirst inSecond
  rw [headerPath_eq, String.toList_append, List.mem_append, not_or]
    at inFirst inSecond
  have stems := map_guardChar_guardStem_eq_iff describedFirst describedSecond
    inFirst.1 inSecond.1
  rw [guards, stems, map_guardChar_eq_iff_of_not_mem inFirst.1 inSecond.1,
    headerPath_eq, headerPath_eq, String.toList_append, String.toList_append,
    List.map_append, List.map_append, List.append_cancel_right_eq]

end Pairs

/--
A header and one whose path differs from it in the case of a letter, but whose
name is reserved.
-/
theorem guardName_eq_iff_alike_sample :
    let first : QualifiedClass := ⟨"Class", ⟨["java", "lang"]⟩⟩
    let second : QualifiedClass := ⟨"class", ⟨["java", "lang"]⟩⟩
    first.DescribedBy "Ljava/lang/Class;" ∧
      second.DescribedBy "Ljava/lang/class;" ∧
      first.Ascii ∧ second.Ascii ∧
      '_' ∉ first.headerPath.toList ∧ '_' ∉ second.headerPath.toList ∧
      first.guardName ≠ second.guardName ∧
      ¬ List.Forall₂ AlikeInGuards first.guardStem.toList
        second.guardStem.toList := by
  intro first second
  have describedFirst : first.DescribedBy "Ljava/lang/Class;" :=
    ⟨.descriptor ⟨0, .object "java/lang/Class", by decide, nofun⟩, rfl, rfl⟩
  have describedSecond : second.DescribedBy "Ljava/lang/class;" :=
    ⟨.descriptor ⟨0, .object "java/lang/class", by decide, nofun⟩, rfl, rfl⟩
  have asciiFirst : first.Ascii := by decide +kernel
  have asciiSecond : second.Ascii := by decide +kernel
  have inFirst : '_' ∉ first.headerPath.toList := by decide +kernel
  have inSecond : '_' ∉ second.headerPath.toList := by decide +kernel
  have free : first.name ∉ reservedWords := by decide
  have reserved : second.name ∈ reservedWords := by decide
  rcases guardName_eq_iff_alike describedFirst describedSecond
    asciiFirst asciiSecond with ⟨alike, unmarked⟩
  have different : first.guardName ≠ second.guardName :=
    fun same => free (((unmarked inFirst inSecond).1 same).2.2 reserved)
  exact ⟨describedFirst, describedSecond, asciiFirst, asciiSecond, inFirst,
    inSecond, different, mt alike.2 different⟩

/-- Two descriptors of classes with different headers and one guard. -/
def ShareGuard (firstText secondText : String) : Prop :=
  ∃ first second : QualifiedClass, first.DescribedBy firstText ∧
    second.DescribedBy secondText ∧
    first.Ascii ∧ second.Ascii ∧ first.headerPath ≠ second.headerPath ∧
      first.guardName = second.guardName

/--
A slash, the case of a letter and the mark of a reserved word get lost in
guards.
-/
theorem different_headers_share_guard :
    ShareGuard "La/b;" "La_b;" ∧ ShareGuard "Lab;" "LAb;" ∧
      ShareGuard "Lclass;" "Lclass_;" := by
  have separators : ShareGuard "La/b;" "La_b;" :=
    ⟨⟨"b", ⟨["a"]⟩⟩, ⟨"a_b", ⟨[]⟩⟩,
      ⟨.descriptor ⟨0, .object "a/b", by decide, nofun⟩, rfl, rfl⟩,
      ⟨.descriptor ⟨0, .object "a_b", by decide, nofun⟩, rfl, rfl⟩, by
    decide +kernel⟩
  have letters : ShareGuard "Lab;" "LAb;" :=
    ⟨⟨"ab", ⟨[]⟩⟩, ⟨"Ab", ⟨[]⟩⟩,
      ⟨.descriptor ⟨0, .object "ab", by decide, nofun⟩, rfl, rfl⟩,
      ⟨.descriptor ⟨0, .object "Ab", by decide, nofun⟩, rfl, rfl⟩, by
    decide +kernel⟩
  have marks : ShareGuard "Lclass;" "Lclass_;" :=
    ⟨⟨"class", ⟨[]⟩⟩, ⟨"class_", ⟨[]⟩⟩,
      ⟨.descriptor ⟨0, .object "class", by decide, nofun⟩, rfl, rfl⟩,
      ⟨.descriptor ⟨0, .object "class_", by decide, nofun⟩, rfl, rfl⟩, by
    decide +kernel⟩
  exact ⟨separators, letters, marks⟩

end QualifiedClass

end ClassFormat
