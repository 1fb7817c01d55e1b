import Mathlib.Data.List.Basic
import ClassFormat.Proofs.Text.Segments
import ClassFormat.Proofs.Types.Layers

/-!
# Where classes are found

The descriptor of a class holds the path of the class.  What is behind the last
slash of the path is the simple name, and the names before it are those of the
packages, of which some may be empty.  A class is found by its path again,
whatever the path is made of; so classes of different paths stay different, and
so do arrays of them.  Only a path which ends with a slash is refused, since
nothing would be left for a name.
-/

namespace ClassFormat

open Text

namespace QualifiedClass

/--
A class with its path: a name without slashes, alone or behind the names of the
packages, with slashes between all of them.
-/
inductive FoundAt : QualifiedClass → String → Prop where
  | alone {name : String} (simple : '/' ∉ name.toList) :
      FoundAt ⟨name, Package.empty⟩ name
  | inPackage {name : String} {package : Package}
      (nonempty : package.components ≠ [])
      (divided : ∀ component ∈ package.components, '/' ∉ component.toList)
      (simple : '/' ∉ name.toList) :
      FoundAt ⟨name, package⟩ (package.name "/" ++ "/" ++ name)

/-- The class file lies where the path says. -/
theorem FoundAt.classFilePath {class_ : QualifiedClass} {path : String}
    (found : class_.FoundAt path) :
    class_.classFilePath = path ++ ".class" := by
  cases found with
  | alone simple =>
      show "" ++ path ++ ".class" = path ++ ".class"
      rw [String.empty_append]
  | inPackage nonempty divided simple =>
      rw [QualifiedClass.classFilePath, Package.qualifier, if_neg nonempty]

/-- A class has one path. -/
theorem FoundAt.inj {class_ : QualifiedClass} {first second : String}
    (foundFirst : class_.FoundAt first) (foundSecond : class_.FoundAt second) :
    first = second := by
  have same := foundFirst.classFilePath.symm.trans foundSecond.classFilePath
  rw [← String.toList_inj, String.toList_append, String.toList_append] at same
  exact String.toList_inj.1 (List.append_cancel_right same)

/-- The name of a package of some segments is what they are joined to. -/
theorem name_ofList (segments : List (List Char)) :
    (Package.mk (segments.map String.ofList)).name "/" =
      String.ofList (join '/' segments) := by
  have characters : (segments.map String.ofList).map String.toList =
      segments := by
    rw [List.map_map]
    exact List.map_id'' (fun segment => String.toList_ofList) segments
  rw [Package.name, Package.join, characters]
  rfl

/--
The segments of a path make up a class which is found there, if the last one is
a name.
-/
theorem exists_foundAt {front : List (List Char)} {last : List Char}
    (named : last ≠ []) (divided : ∀ segment ∈ front ++ [last], '/' ∉ segment)
    (descriptor : String) :
    ∃ class_ : QualifiedClass,
      ofComponents ((front ++ [last]).map String.ofList) descriptor =
        .ok class_ ∧
        class_.FoundAt (String.ofList (join '/' (front ++ [last]))) := by
  rcases List.forall_mem_append.1 divided with ⟨inFront, inLast⟩
  have simple : '/' ∉ (String.ofList last).toList := by
    rw [String.toList_ofList]
    exact inLast last List.mem_cons_self
  have name : String.ofList last ≠ "" := by
    rwa [ne_eq, ← String.toList_inj, String.toList_ofList]
  refine ⟨⟨String.ofList last, ⟨front.map String.ofList⟩⟩, ?_, ?_⟩
  · rw [List.map_append, List.map_singleton, ofComponents, List.getLast?_concat,
      List.dropLast_concat]
    exact if_neg name
  · by_cases alone : front = []
    · rw [alone, List.nil_append, join_singleton]
      exact .alone simple
    · have path : String.ofList (join '/' (front ++ [last])) =
          (Package.mk (front.map String.ofList)).name "/" ++ "/" ++
            String.ofList last := by
        rw [join_concat alone, name_ofList, ← String.toList_inj]
        simp
      rw [path]
      refine .inPackage (by simpa using alone) ?_ simple
      intro component member
      rcases List.mem_map.1 member with ⟨segment, among, rfl⟩
      rw [String.toList_ofList]
      exact inFront segment among

end QualifiedClass

namespace ResolvedType

/-! ## Elements -/

/-- A path is cut at its last slash, if there is one. -/
theorem exists_split_eq_concat (path : List Char) :
    ∃ front last, split '/' path = front ++ [last] ∧
      path = join '/' (front ++ [last]) ∧
      ∀ segment ∈ front ++ [last], '/' ∉ segment := by
  have nonempty := split_ne_nil '/' path
  have whole := List.dropLast_concat_getLast nonempty
  refine ⟨(split '/' path).dropLast, (split '/' path).getLast nonempty,
    whole.symm, ?_, ?_⟩
  · rw [whole, join_split]
  · rw [whole]
    exact fun segment member => not_mem_of_mem_split member

/-- Nothing is left for a name if a path ends with a slash. -/
theorem getLast?_join_eq_slash_iff {front : List (List Char)} {last : List Char}
    (nonempty : join '/' (front ++ [last]) ≠ []) (simple : '/' ∉ last) :
    (join '/' (front ++ [last])).getLast? = some '/' ↔ last = [] := by
  have ends : last.getLast? ≠ some '/' :=
    fun same => simple (List.mem_of_getLast? same)
  by_cases alone : front = []
  · rw [alone, List.nil_append, join_singleton] at nonempty ⊢
    exact iff_of_false ends nonempty
  · rw [join_concat alone,
      List.getLast?_append_of_ne_nil _ (List.cons_ne_nil '/' last)]
    cases last with
    | nil => exact iff_of_true rfl rfl
    | cons c others => exact iff_of_false ends (List.cons_ne_nil c others)

/--
The element of a descriptor resolves to the class of its path, unless this ends
with a slash.
-/
theorem ofElement_object {path : String} (nonempty : path ≠ "") :
    (path.toList.getLast? = some '/' ∧
        ofElement (.object path) =
          .error (.malformedDescriptor ("L" ++ path ++ ";"))) ∨
      path.toList.getLast? ≠ some '/' ∧
        ∃ class_ : QualifiedClass,
          ofElement (.object path) = .ok (object class_) ∧
            class_.FoundAt path := by
  have spelled : String.ofList (Element.object path).chars =
      "L" ++ path ++ ";" := by
    rw [← String.toList_inj, Element.chars]
    simp
  rcases exists_split_eq_concat path.toList with
    ⟨front, last, cut, whole, divided⟩
  have some_ : join '/' (front ++ [last]) ≠ [] := by
    rwa [← whole, ne_eq, String.toList_eq_nil_iff]
  have simple := divided last (List.mem_append_right front List.mem_cons_self)
  have ends := getLast?_join_eq_slash_iff some_ simple
  rw [← whole] at ends
  rw [ofElement, cut, spelled]
  by_cases nameless : last = []
  · refine .inl ⟨ends.2 nameless, ?_⟩
    rw [nameless, List.map_append, List.map_singleton,
      QualifiedClass.ofComponents, List.getLast?_concat]
    rfl
  · refine .inr ⟨mt ends.1 nameless, ?_⟩
    rcases QualifiedClass.exists_foundAt nameless divided
      ("L" ++ path ++ ";") with ⟨class_, made, found⟩
    rw [← whole, String.ofList_toList] at found
    exact ⟨class_, by rw [made]; rfl, found⟩

theorem innermost_layers (depth : Nat) (type : ResolvedType) :
    (layers depth type).innermost = type.innermost := by
  induction depth with
  | zero => rfl
  | succ depth hypothesis => exact hypothesis

theorem classFilePath?_layers (depth : Nat) (type : ResolvedType) :
    (layers depth type).classFilePath? = type.classFilePath? := by
  induction depth with
  | zero => rfl
  | succ depth hypothesis => exact hypothesis

/-! ## Descriptors of classes -/

/-- The descriptor of a class with a path, or of arrays of it. -/
def objectDescriptor (dimensions : Nat) (path : String) : String :=
  String.ofList (List.replicate dimensions '[' ++ 'L' :: path.toList ++ [';'])

section Objects

variable {dimensions : Nat} {path : String} {written : WrittenType}
  (read : WrittenType.ofDescriptor (objectDescriptor dimensions path) =
    .ok written)
include read

theorem resolve_object :
    path ≠ "" ∧
      resolve written = (ofElement (.object path)).map (layers dimensions) := by
  have parts : WrittenType.ofDescriptor
      (String.ofList
        (dimensionMarks dimensions ++ (Element.object path).chars)) =
        .ok written := by
    rw [Element.chars, ← List.append_assoc]
    exact read
  rcases WrittenType.ofDescriptor_parts_iff.1 parts with
    ⟨found, rfl, rfl, element⟩
  have legal := found.legal
  rw [element] at legal
  rw [resolve_descriptor, ofDescriptor, element]
  exact ⟨legal.1, rfl⟩

theorem resolve_of_slash (ends : path.toList.getLast? = some '/') :
    resolve written = .error (.malformedDescriptor ("L" ++ path ++ ";")) := by
  rcases resolve_object read with ⟨nonempty, resolved⟩
  rw [resolved]
  rcases ofElement_object nonempty with ⟨-, refused⟩ | ⟨other, -⟩
  · rw [refused]
    rfl
  · exact absurd ends other

theorem exists_resolve_of_not_slash (ends : path.toList.getLast? ≠ some '/') :
    ∃ class_ : QualifiedClass, class_.FoundAt path ∧
      resolve written = .ok (layers dimensions (object class_)) := by
  rcases resolve_object read with ⟨nonempty, resolved⟩
  rw [resolved]
  rcases ofElement_object nonempty with ⟨other, -⟩ | ⟨-, class_, made, found⟩
  · exact absurd other ends
  · exact ⟨class_, found, by rw [made]; rfl⟩

/-- Whatever such a descriptor resolves to is found at the path. -/
theorem foundAt_of_resolve {type : ResolvedType}
    (resolves : resolve written = .ok type) :
    ∃ class_ : QualifiedClass, type.innermost = object class_ ∧
      class_.FoundAt path ∧
      type.classFilePath? = some (path ++ ".class") := by
  by_cases ends : path.toList.getLast? = some '/'
  · rw [resolve_of_slash read ends] at resolves
    cases resolves
  · rcases exists_resolve_of_not_slash read ends with ⟨class_, found, resolved⟩
    cases resolved.symm.trans resolves
    refine ⟨class_, innermost_layers dimensions _, found, ?_⟩
    rw [classFilePath?_layers, classFilePath?, found.classFilePath]

end Objects

/--
A type is resolved one bracket at a time, and gets a layer for each of them.
The descriptor of a class or of arrays of it resolves exactly if the path does
not end with a slash.  Then the class is the one which is found at the path, and
so is its file; hence no other descriptor of as many dimensions resolves to the
type.
-/
theorem resolution_keeps_path (written : WrittenType) :
    peel written = resolve written ∧
    (∀ type, resolve written = .ok type → type.depth = written.dimensions) ∧
    ∀ {dimensions : Nat} {path : String},
      WrittenType.ofDescriptor (objectDescriptor dimensions path) =
        .ok written →
        ((∃ type, resolve written = .ok type) ↔
          path.toList.getLast? ≠ some '/') ∧
        (path.toList.getLast? = some '/' →
          resolve written =
            .error (.malformedDescriptor ("L" ++ path ++ ";"))) ∧
        ∀ type, resolve written = .ok type →
          (∃ class_ : QualifiedClass, type.innermost = object class_ ∧
            class_.FoundAt path ∧
              type.classFilePath? = some (path ++ ".class")) ∧
          ∀ {otherPath : String} {other : WrittenType},
            WrittenType.ofDescriptor (objectDescriptor dimensions otherPath) =
              .ok other →
              resolve other = .ok type →
                objectDescriptor dimensions otherPath =
                  objectDescriptor dimensions path := by
  refine ⟨peel_eq_resolve written, fun type => depth_of_resolve, ?_⟩
  intro dimensions path read
  refine ⟨⟨?_, ?_⟩, resolve_of_slash read, ?_⟩
  · rintro ⟨type, resolves⟩ ends
    rw [resolve_of_slash read ends] at resolves
    cases resolves
  · intro ends
    rcases exists_resolve_of_not_slash read ends with ⟨class_, -, resolves⟩
    exact ⟨_, resolves⟩
  · intro type resolves
    rcases foundAt_of_resolve read resolves with
      ⟨class_, innermost, found, file⟩
    refine ⟨⟨class_, innermost, found, file⟩, ?_⟩
    intro otherPath other readOther resolvesOther
    rcases foundAt_of_resolve readOther resolvesOther with
      ⟨same, alike, foundOther, -⟩
    cases innermost.symm.trans alike
    rw [foundOther.inj found]

/--
Arrays of a class in a package without a name, and a path which ends with a
slash.
-/
theorem resolution_keeps_path_sample :
    let arrays : WrittenType :=
      .descriptor ⟨2, .object "/a.[b", by decide, nofun⟩
    let nameless : WrittenType :=
      .descriptor ⟨0, .object "a/", by decide, nofun⟩
    WrittenType.ofDescriptor (objectDescriptor 2 "/a.[b") = .ok arrays ∧
      WrittenType.ofDescriptor (objectDescriptor 0 "a/") = .ok nameless ∧
      (∃ type, resolve arrays = .ok type ∧ type.depth = 2 ∧
        type.classFilePath? = some "/a.[b.class") ∧
      resolve nameless = .error (.malformedDescriptor "La/;") := by
  intro arrays nameless
  have read : WrittenType.ofDescriptor (objectDescriptor 2 "/a.[b") =
      .ok arrays := by
    decide +kernel
  have readNameless : WrittenType.ofDescriptor (objectDescriptor 0 "a/") =
      .ok nameless := by
    decide +kernel
  have counted : arrays.dimensions = 2 := by decide +kernel
  rcases resolution_keeps_path arrays with ⟨-, layered, found⟩
  rcases found read with ⟨resolvable, -, kept⟩
  rcases resolvable.2 (by decide) with ⟨type, resolves⟩
  rcases (kept type resolves).1 with ⟨class_, -, -, file⟩
  refine ⟨read, readNameless,
    ⟨type, resolves, (layered type resolves).trans counted, file⟩, ?_⟩
  exact ((resolution_keeps_path nameless).2.2 readNameless).2.1 (by decide)

end ResolvedType

end ClassFormat
