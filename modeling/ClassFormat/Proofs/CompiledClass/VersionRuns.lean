import ClassFormat.Proofs.CompiledClass.Downgrade
import ClassFormat.Proofs.CompiledClass.EditRuns

/-!
# Runs of version changes

A class may be given one version after another, up and down across the line at
which Java 5 begins, and some of these calls may fail.  All that counts in the
end is whether the line was ever crossed downwards and which version was given
last: the class is what it was at first or what its downgrade makes of it, and
has that version.  Crossing the line again and again adds nothing.
-/

namespace ClassFormat

/-- The version of a class file. -/
structure Version where
  major : UInt16
  minor : UInt16
  deriving DecidableEq

namespace CompiledClass

/-- The version of a class. -/
def version (class_ : CompiledClass) : Version :=
  ⟨class_.major, class_.minor⟩

/-- A class with another version and nothing else changed. -/
def atVersion (class_ : CompiledClass) (version : Version) : CompiledClass :=
  { class_ with major := version.major, minor := version.minor }

/--
Whether a change of the version goes down across the line at which Java 5
begins.
-/
def CrossesDown (before asked : Version) : Prop :=
  java5 ≤ before.major ∧ asked.major < java5

instance (before asked : Version) : Decidable (CrossesDown before asked) :=
  inferInstanceAs (Decidable (_ ∧ _))

theorem setVersion_eq (class_ : CompiledClass) (asked : Version) :
    class_.setVersion asked.major asked.minor =
      if CrossesDown class_.version asked then
        class_.downgrade.map (·.atVersion asked)
      else
        .ok (class_.atVersion asked) := by
  rfl

/-- A downgrade does not look at the version. -/
theorem downgrade_atVersion (class_ : CompiledClass) (version : Version) :
    (class_.atVersion version).downgrade =
      class_.downgrade.map (·.atVersion version) := by
  have flagged : (class_.atVersion version).hasSyntheticFlags =
      class_.hasSyntheticFlags := rfl
  rw [downgrade, downgrade, flagged]
  split
  · show (class_.pool.syntheticMark >>= _) = _
    cases class_.pool.syntheticMark <;> rfl
  · rfl

/--
What a downgrade gives has nothing left to be lowered, whatever version it is
given.
-/
theorem downgrade_atVersion_of_downgrade
    {class_ lowered : CompiledClass}
    (downgraded : class_.downgrade = .ok lowered)
    (version : Version) :
    (lowered.atVersion version).downgrade =
      .ok (lowered.atVersion version) := by
  rcases isLowered_of_downgrade downgraded with ⟨name, isLowered⟩
  rw [downgrade_atVersion, isLowered.eq_lowered, downgrade_lowered]
  rfl

/-! ## Calls and runs -/

/--
A call which asks for a version: what the class had by then, what was asked for,
and the end.
-/
structure VersionCall where
  before : Version
  asked : Version
  result : Except FormatFault Unit

/-- A call which succeeded. -/
def VersionCall.granted (call : VersionCall) : Bool :=
  call.result.isOk

/-- Ask a class for a version; if that fails the class stays as it is. -/
def askVersion (class_ : CompiledClass) (asked : Version) : Edited :=
  (Edit.setVersion asked.major asked.minor).perform class_

/-- The calls which ask a class for some versions, one after another. -/
def versionCalls (class_ : CompiledClass) : List Version → List VersionCall
  | [] => []
  | asked :: others =>
    ⟨class_.version, asked, (class_.askVersion asked).result⟩ ::
      versionCalls (class_.askVersion asked).class_ others

/-- A class after it was asked for some versions, one after another. -/
def afterVersions (class_ : CompiledClass) : List Version → CompiledClass
  | [] => class_
  | asked :: others => afterVersions (class_.askVersion asked).class_ others

/--
The version of the last call which succeeded, or that of the class if there is
none.
-/
def lastVersion (class_ : CompiledClass) (versions : List Version) : Version :=
  (((class_.versionCalls versions).filter (·.granted)).map (·.asked)).getLastD
    class_.version

/--
Whether a call which succeeded went down across the line at which Java 5 begins.
-/
def EverCrossesDown (class_ : CompiledClass) (versions : List Version) : Prop :=
  ∃ call ∈ class_.versionCalls versions, call.granted ∧
    CrossesDown call.before call.asked

/-- The three ways in which a call can end. -/
theorem askVersion_cases (class_ : CompiledClass) (asked : Version) :
    (∃ fault, class_.askVersion asked = ⟨.error fault, class_⟩) ∨
      (¬CrossesDown class_.version asked ∧
        class_.askVersion asked = ⟨.ok (), class_.atVersion asked⟩) ∨
      (CrossesDown class_.version asked ∧
        ∃ lowered, class_.downgrade = .ok lowered ∧
          class_.askVersion asked = ⟨.ok (), lowered.atVersion asked⟩) := by
  rw [askVersion, Edit.perform, setVersion_eq]
  by_cases crosses : CrossesDown class_.version asked
  · rw [if_pos crosses]
    cases downgraded : class_.downgrade with
    | error fault => exact .inl ⟨fault, rfl⟩
    | ok lowered => exact .inr (.inr ⟨crosses, lowered, rfl, rfl⟩)
  · rw [if_neg crosses]
    exact .inr (.inl ⟨crosses, rfl⟩)

/--
Whatever a call asks for, the last version is the last one of the calls which
come after it.
-/
theorem lastVersion_cons (class_ : CompiledClass) (asked : Version)
    (others : List Version) :
    class_.lastVersion (asked :: others) =
      (class_.askVersion asked).class_.lastVersion others := by
  rw [lastVersion, versionCalls]
  rcases class_.askVersion_cases asked with
    ⟨fault, ends⟩ | ⟨-, ends⟩ | ⟨-, lowered, -, ends⟩
  · rw [ends, List.filter_cons_of_neg Bool.false_ne_true]
    rfl
  · rw [ends, List.filter_cons_of_pos rfl, List.map_cons, List.getLastD_cons]
    rfl
  · rw [ends, List.filter_cons_of_pos rfl, List.map_cons, List.getLastD_cons]
    rfl

theorem everCrossesDown_cons_iff
    {class_ : CompiledClass} {asked : Version} {others : List Version} :
    class_.EverCrossesDown (asked :: others) ↔
      ((class_.askVersion asked).result.isOk ∧
        CrossesDown class_.version asked) ∨
        (class_.askVersion asked).class_.EverCrossesDown others := by
  simp [EverCrossesDown, versionCalls, VersionCall.granted]

theorem not_everCrossesDown_nil (class_ : CompiledClass) :
    ¬class_.EverCrossesDown [] := by
  simp [EverCrossesDown, versionCalls]

/--
A run leaves a class as it is, or lowers it once, and gives it the last version.
-/
theorem afterVersions_eq (class_ : CompiledClass) (versions : List Version) :
    (¬class_.EverCrossesDown versions →
      class_.afterVersions versions =
        class_.atVersion (class_.lastVersion versions)) ∧
    (class_.EverCrossesDown versions →
      ∃ lowered, class_.downgrade = .ok lowered ∧
        class_.afterVersions versions =
          lowered.atVersion (class_.lastVersion versions)) := by
  induction versions generalizing class_ with
  | nil =>
      exact ⟨fun _ => rfl,
        fun crosses => absurd crosses class_.not_everCrossesDown_nil⟩
  | cons asked others hypothesis =>
      rw [everCrossesDown_cons_iff, lastVersion_cons, afterVersions]
      rcases class_.askVersion_cases asked with
        ⟨fault, ends⟩ | ⟨level, ends⟩ | ⟨crosses, lowered, downgraded, ends⟩
      · simpa [ends, Except.isOk, Except.toBool] using hypothesis class_
      · rw [ends]
        rcases hypothesis (class_.atVersion asked) with ⟨never, ever⟩
        simp only [level, and_false, false_or]
        refine ⟨never, ?_⟩
        intro later
        rcases ever later with ⟨loweredLater, downgraded, same⟩
        rw [downgrade_atVersion] at downgraded
        rcases Decoder.exists_of_map_eq_ok downgraded with ⟨lowered, found, rfl⟩
        exact ⟨lowered, found, same⟩
      · rw [ends]
        rcases hypothesis (lowered.atVersion asked) with ⟨never, ever⟩
        refine ⟨fun not => absurd (.inl ⟨rfl, crosses⟩) not,
          fun _ => ⟨lowered, downgraded, ?_⟩⟩
        by_cases later : (lowered.atVersion asked).EverCrossesDown others
        · rcases ever later with ⟨loweredAgain, again, same⟩
          rw [downgrade_atVersion_of_downgrade downgraded] at again
          cases again
          exact same
        · exact never later

/-! ## What is synthetic -/

/--
Two classes which are both synthetic or both not, and whose members agree in
this one by one.
-/
structure SameSynthetic (first second : CompiledClass) : Prop where
  class_ : first.marking.isSynthetic = second.marking.isSynthetic
  fields : first.fields.map (·.marking.isSynthetic) =
    second.fields.map (·.marking.isSynthetic)
  methods : first.methods.map (·.marking.isSynthetic) =
    second.methods.map (·.marking.isSynthetic)

theorem IsLowered.sameSynthetic
    {after before : CompiledClass} {name : UInt16}
    (isLowered : after.IsLowered before name) :
    after.SameSynthetic before := by
  rw [isLowered.eq_lowered]
  exact {
    class_ := Marking.isSynthetic_lowered name before.marking
    fields := by simp [lowered, Function.comp_def]
    methods := by simp [lowered, Function.comp_def] }

/--
Whatever versions a class is asked for, and whether or not it can be given them:
if it was never taken down across the line at which Java 5 begins, nothing but
the version has changed; otherwise it is what a single downgrade makes of the
class it was at first.  Either way it has the last version which it was given,
and whatever counted as synthetic still does.
-/
theorem afterVersions_migrates (class_ : CompiledClass)
    (versions : List Version) :
    (¬class_.EverCrossesDown versions →
      class_.afterVersions versions =
        class_.atVersion (class_.lastVersion versions)) ∧
    (class_.EverCrossesDown versions →
      ∃ lowered name, class_.downgrade = .ok lowered ∧
        lowered.IsLowered class_ name ∧
        class_.afterVersions versions =
          lowered.atVersion (class_.lastVersion versions)) ∧
    (class_.afterVersions versions).SameSynthetic class_ := by
  rcases class_.afterVersions_eq versions with ⟨never, ever⟩
  by_cases crosses : class_.EverCrossesDown versions
  · rcases ever crosses with ⟨lowered, downgraded, after⟩
    rcases isLowered_of_downgrade downgraded with ⟨name, isLowered⟩
    refine ⟨never, fun _ => ⟨lowered, name, downgraded, isLowered, after⟩, ?_⟩
    rw [after]
    have same := isLowered.sameSynthetic
    exact ⟨same.class_, same.fields, same.methods⟩
  · refine ⟨never, fun crossed => absurd crossed crosses, ?_⟩
    rw [never crosses]
    exact ⟨rfl, rfl, rfl⟩

/--
Down, up and down again: the class, which has the synthetic flag, and its method
are lowered once.
-/
theorem afterVersions_migrates_sample :
    let class_ := { sample with flags := ⟨0x9020⟩ }
    let versions : List Version := [⟨48, 0⟩, ⟨52, 1⟩, ⟨45, 3⟩]
    class_.EverCrossesDown versions ∧
      ∃ lowered name, class_.downgrade = .ok lowered ∧
        lowered.IsLowered class_ name ∧
        class_.afterVersions versions =
          lowered.atVersion (class_.lastVersion versions) := by
  intro class_ versions
  have crosses : class_.EverCrossesDown versions := by
    have granted : (class_.askVersion ⟨48, 0⟩).result = .ok () := by
      decide +kernel
    refine ⟨_, List.mem_cons_self, ?_, by decide⟩
    rw [VersionCall.granted, granted]
    rfl
  exact ⟨crosses, (afterVersions_migrates class_ versions).2.1 crosses⟩

end CompiledClass

end ClassFormat
