import ClassFormat.Types.ResolvedType

/-!
# Among the proxies and back

A type and its proxy differ only below all array layers: a primitive type is
marked, and a class lies in the package of the same names below the root of the
proxies.  A type which is no proxy has exactly one, and a proxy is the proxy of
exactly one type; so moving a type there and moving it back are inverse to each
other wherever both are allowed.  A type which already is where it is to be
moved is refused, and the fault names what stands below the array layers.

A class may lie below the root several times.  Moved back once it is a proxy
still, and is not moved there again.
-/

namespace ClassFormat

namespace Package

theorem isBelow_iff {package : Package} {root : List String} :
    package.isBelow root = true ↔
      ∃ rest : Package, package = rest.below root := by
  rw [isBelow, List.isPrefixOf_iff_prefix]
  constructor
  · rintro ⟨rest, whole⟩
    exact ⟨⟨rest⟩, congrArg Package.mk whole.symm⟩
  · rintro ⟨rest, rfl⟩
    exact List.prefix_append root rest.components

theorem isBelow_below (package : Package) (root : List String) :
    (package.below root).isBelow root = true :=
  isBelow_iff.2 ⟨package, rfl⟩

theorem above?_eq_some_iff {package rest : Package} {root : List String} :
    package.above? root = some rest ↔ package = rest.below root := by
  rw [above?]
  constructor
  · intro found
    split at found
    · next lies =>
        rcases isBelow_iff.1 lies with ⟨others, rfl⟩
        cases found
        simp [below]
    · cases found
  · rintro rfl
    rw [if_pos (isBelow_below rest root)]
    simp [below]

end Package

namespace QualifiedClass

variable {class_ : QualifiedClass}

theorem proxy_of_isProxy (proxied : class_.isProxy = true) :
    class_.proxy =
      .error (.illegalProjection
        (class_.qualifiedName "." ++ " is already a proxy")) := by
  rw [proxy, if_pos proxied]

theorem proxy_of_not_isProxy (unproxied : class_.isProxy = false) :
    class_.proxy =
      .ok { class_ with
        package := class_.package.below Package.proxyRoot } := by
  rw [proxy, unproxied]
  rfl

theorem unProxy_of_not_isProxy (unproxied : class_.isProxy = false) :
    class_.unProxy =
      .error (.illegalProjection
        (class_.qualifiedName "." ++ " is not a proxy")) := by
  have nothing : class_.package.above? Package.proxyRoot = none :=
    if_neg (Bool.eq_false_iff.1 unproxied)
  rw [unProxy, nothing]

theorem unProxy_of_below {name : String} {package : Package} :
    QualifiedClass.unProxy ⟨name, package.below Package.proxyRoot⟩ =
      .ok ⟨name, package⟩ := by
  rw [unProxy, Package.above?_eq_some_iff.2 rfl]

/-- A class is a proxy if it is that of some class. -/
theorem exists_of_isProxy (proxied : class_.isProxy = true) :
    ∃ package : Package,
      class_ = ⟨class_.name, package.below Package.proxyRoot⟩ := by
  rcases Package.isBelow_iff.1 proxied with ⟨package, whole⟩
  exact ⟨package, by rw [← whole]⟩

end QualifiedClass

namespace ResolvedType

/-! ## Proxies of types -/

/-- The first type is the proxy of the second one. -/
inductive ProxyOf : ResolvedType → ResolvedType → Prop
  | primitive (kind : Primitive) :
      ProxyOf (.primitive kind true) (.primitive kind false)
  | array {proxied original : ResolvedType}
      (element : ProxyOf proxied original) :
      ProxyOf (.array proxied) (.array original)
  | object (name : String) (package : Package) :
      ProxyOf (.object ⟨name, package.below Package.proxyRoot⟩)
        (.object ⟨name, package⟩)

theorem ProxyOf.isProxy {proxied original : ResolvedType}
    (proxyOf : ProxyOf proxied original) :
    proxied.isProxy = true := by
  induction proxyOf with
  | primitive kind => rfl
  | array element hypothesis => exact hypothesis
  | object name package => exact Package.isBelow_below package Package.proxyRoot

/-- The fault of moving a type which is a proxy already. -/
def alreadyProxy (type : ResolvedType) : TypeFault :=
  .illegalProjection (type.innermost.qualifiedName "." ++ " is already a proxy")

/-- The fault of moving a type back which is no proxy. -/
def notProxy (type : ResolvedType) : TypeFault :=
  .illegalProjection (type.innermost.qualifiedName "." ++ " is not a proxy")

theorem proxy_of_isProxy {type : ResolvedType} (proxied : type.isProxy = true) :
    type.proxy = .error type.alreadyProxy := by
  induction type with
  | primitive kind marked =>
      cases proxied
      rfl
  | array element hypothesis =>
      rw [proxy, hypothesis proxied]
      rfl
  | object class_ =>
      rw [proxy, QualifiedClass.proxy_of_isProxy proxied]
      rfl

theorem unProxy_of_not_isProxy {type : ResolvedType}
    (unproxied : type.isProxy = false) :
    type.unProxy = .error type.notProxy := by
  induction type with
  | primitive kind marked =>
      cases unproxied
      rfl
  | array element hypothesis =>
      rw [unProxy, hypothesis unproxied]
      rfl
  | object class_ =>
      rw [unProxy, QualifiedClass.unProxy_of_not_isProxy unproxied]
      rfl

/-- A type which is no proxy can be moved to its proxy. -/
theorem exists_proxy_of_not_isProxy {type : ResolvedType}
    (unproxied : type.isProxy = false) :
    ∃ proxied, ProxyOf proxied type := by
  induction type with
  | primitive kind marked =>
      cases unproxied
      exact ⟨_, .primitive kind⟩
  | array element hypothesis =>
      rcases hypothesis unproxied with ⟨proxied, proxyOf⟩
      exact ⟨_, .array proxyOf⟩
  | object class_ => exact ⟨_, .object class_.name class_.package⟩

/-- A type which is a proxy is that of some type. -/
theorem exists_original_of_isProxy {type : ResolvedType}
    (proxied : type.isProxy = true) :
    ∃ original, ProxyOf type original := by
  induction type with
  | primitive kind marked =>
      cases proxied
      exact ⟨_, .primitive kind⟩
  | array element hypothesis =>
      rcases hypothesis proxied with ⟨original, proxyOf⟩
      exact ⟨_, .array proxyOf⟩
  | object class_ =>
      rcases QualifiedClass.exists_of_isProxy proxied with ⟨package, whole⟩
      rw [whole]
      exact ⟨_, .object class_.name package⟩

/-- A type which is no proxy itself is moved to its proxy. -/
theorem ProxyOf.proxy {proxied original : ResolvedType}
    (proxyOf : ProxyOf proxied original)
    (unproxied : original.isProxy = false) : original.proxy = .ok proxied := by
  induction proxyOf with
  | primitive kind => rfl
  | array element hypothesis =>
      rw [ResolvedType.proxy, hypothesis unproxied]
      rfl
  | object name package =>
      rw [ResolvedType.proxy, QualifiedClass.proxy_of_not_isProxy unproxied]
      rfl

/--
A proxy is moved back to the type which it is the proxy of, whether this is a
proxy or not.
-/
theorem ProxyOf.unProxy {proxied original : ResolvedType}
    (proxyOf : ProxyOf proxied original) :
    proxied.unProxy = .ok original := by
  induction proxyOf with
  | primitive kind => rfl
  | array element hypothesis =>
      rw [ResolvedType.unProxy, hypothesis]
      rfl
  | object name package =>
      rw [ResolvedType.unProxy, QualifiedClass.unProxy_of_below]
      rfl

/-! ## What a projection keeps -/

/-- The kind of a primitive type. -/
def kind? : ResolvedType → Option Primitive
  | primitive kind _ => some kind
  | _ => none

/-- The class which a type is. -/
def class? : ResolvedType → Option QualifiedClass
  | object class_ => some class_
  | _ => none

/--
Two types which differ at most in whether a primitive type is marked and in the
package of a class, which for the first type is that of the second one below the
root of the proxies.
-/
structure Projects (proxied original : ResolvedType) : Prop where
  depth : proxied.depth = original.depth
  kind : proxied.innermost.kind? = original.innermost.kind?
  name : proxied.innermost.class?.map (·.name) =
    original.innermost.class?.map (·.name)
  package : proxied.innermost.class?.map (·.package.components) =
    original.innermost.class?.map
      (["org", "jace", "proxy"] ++ ·.package.components)

theorem ProxyOf.projects {proxied original : ResolvedType}
    (proxyOf : ProxyOf proxied original) :
    proxied.Projects original := by
  induction proxyOf with
  | primitive kind => exact ⟨rfl, rfl, rfl, rfl⟩
  | array element hypothesis =>
      exact {
        depth := congrArg (· + 1) hypothesis.depth
        kind := hypothesis.kind
        name := hypothesis.name
        package := hypothesis.package }
  | object name package => exact ⟨rfl, rfl, rfl, rfl⟩

/--
Moving a type among the proxies is refused exactly if it is one, and moving it
back exactly if it is none.  What was moved there is a proxy and is moved back
to what it was; what was moved back, unless it is a proxy still, is moved there
again.  Neither changes anything but whether a primitive type is marked and
whether the package of a class begins with one root more or less.
-/
theorem proxy_unProxy_inverse (type : ResolvedType) :
    (type.proxy = .error type.alreadyProxy ↔ type.isProxy = true) ∧
    (type.unProxy = .error type.notProxy ↔ type.isProxy = false) ∧
    (type.isProxy = false →
      ∃ proxied, type.proxy = .ok proxied ∧ proxied.isProxy = true ∧
        proxied.unProxy = .ok type ∧ proxied.Projects type) ∧
    (type.isProxy = true →
      ∃ original, type.unProxy = .ok original ∧ type.Projects original ∧
        (original.isProxy = false → original.proxy = .ok type)) := by
  have forth : type.isProxy = false →
      ∃ proxied, type.proxy = .ok proxied ∧ proxied.isProxy = true ∧
        proxied.unProxy = .ok type ∧ proxied.Projects type := by
    intro unproxied
    rcases exists_proxy_of_not_isProxy unproxied with ⟨proxied, proxyOf⟩
    exact ⟨proxied, proxyOf.proxy unproxied, proxyOf.isProxy, proxyOf.unProxy,
      proxyOf.projects⟩
  have back : type.isProxy = true →
      ∃ original, type.unProxy = .ok original ∧ type.Projects original ∧
        (original.isProxy = false → original.proxy = .ok type) := by
    intro proxied
    rcases exists_original_of_isProxy proxied with ⟨original, proxyOf⟩
    exact ⟨original, proxyOf.unProxy, proxyOf.projects, proxyOf.proxy⟩
  refine ⟨⟨fun refused => ?_, proxy_of_isProxy⟩,
    ⟨fun refused => ?_, unProxy_of_not_isProxy⟩, forth, back⟩
  · rw [← Bool.not_eq_false]
    intro unproxied
    rcases forth unproxied with ⟨proxied, moved, -⟩
    rw [refused] at moved
    cases moved
  · rw [← Bool.not_eq_true]
    intro proxied
    rcases back proxied with ⟨original, moved, -⟩
    rw [refused] at moved
    cases moved

/--
The package of this class begins with the root twice, so its arrays are proxies
of proxies; the package of the other one is shorter than the root.
-/
theorem proxy_unProxy_inverse_sample :
    let twice : ResolvedType :=
      .array
        (.object ⟨"A", ⟨["org", "jace", "proxy", "org", "jace", "proxy", "a"]⟩⟩)
    let short : ResolvedType := .array (.object ⟨"A", ⟨["org", "jace"]⟩⟩)
    twice.isProxy = true ∧ short.isProxy = false ∧
      (∃ original, twice.unProxy = .ok original ∧ twice.Projects original) ∧
        ∃ proxied, short.proxy = .ok proxied ∧ proxied.unProxy = .ok short := by
  intro twice short
  have isProxy : twice.isProxy = true := by decide
  have isNone : short.isProxy = false := by decide
  rcases (proxy_unProxy_inverse twice).2.2.2 isProxy with
    ⟨original, moved, projects, -⟩
  rcases (proxy_unProxy_inverse short).2.2.1 isNone with
    ⟨proxied, movedThere, -, movedBack, -⟩
  exact ⟨isProxy, isNone, ⟨original, moved, projects⟩, proxied, movedThere,
    movedBack⟩

end ResolvedType

end ClassFormat
