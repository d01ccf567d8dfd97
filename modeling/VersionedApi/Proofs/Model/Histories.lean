import VersionedApi.Proofs.Model.Lookup
import VersionedApi.Proofs.Model.Unfolding

/-!
# Histories of a version

A version is built by operations, one after the other.  They only append types,
but for replacements, and these leave lists and maps alone.  So the list or map
that an element was given once is the one it is given ever after, and no two
elements are given the same.
-/

namespace VersionedApi.Model

/-! ## Wrapping a type -/

theorem Wrapping.around_inj {wrapping other : Wrapping} {element inner : TypeId} :
    wrapping.around element = other.around inner ↔ wrapping = other ∧ element = inner := by
  cases wrapping <;> cases other <;> simp [Wrapping.around]

namespace Version

variable {version before after : Version} {id : TypeId}

def wrap (version : Version) : Wrapping → TypeId → Version × TypeId
  | .list => version.listOf
  | .map => version.mapOf

theorem exists_wrap_eq (version : Version) (wrapping : Wrapping) (element : TypeId) :
    ∃ suffix, version.wrap wrapping element =
      version.intern element (wrapping.around element) suffix := by
  cases wrapping
  · exact ⟨"list", rfl⟩
  · exact ⟨"map", rfl⟩

/-- What is there already is given again, and nothing changes. -/
theorem wrap_of_findKind? {wrapping : Wrapping} {element : TypeId}
    (found : version.findKind? (wrapping.around element) = some id) :
    version.wrap wrapping element = (version, id) := by
  obtain ⟨suffix, interns⟩ := version.exists_wrap_eq wrapping element
  rw [interns, intern, found]

/-- A type of a new kind that is appended is the first of its kind. -/
theorem findKind?_addType {type : ApiType} (missing : version.findKind? type.kind = none) :
    (version.addType type).1.findKind? type.kind = some (version.addType type).2 := by
  have absent := Option.map_eq_none_iff.1 missing
  simp [addType, findKind?, List.findIdx?_append, absent]

/-- What is given is the first type of its kind. -/
theorem findKind?_wrap (version : Version) (wrapping : Wrapping) (element : TypeId) :
    (version.wrap wrapping element).1.findKind? (wrapping.around element) =
      some (version.wrap wrapping element).2 := by
  obtain ⟨suffix, interns⟩ := version.exists_wrap_eq wrapping element
  cases search : version.findKind? (wrapping.around element) with
  | some id => rw [wrap_of_findKind? search, search]
  | none =>
      rw [interns, intern, search]
      exact findKind?_addType search

theorem exists_type?_wrap (version : Version) (wrapping : Wrapping) (element : TypeId) :
    ∃ type, (version.wrap wrapping element).1.type? (version.wrap wrapping element).2 = some type ∧
      type.kind = wrapping.around element :=
  (findKind?_eq_some_iff.1 (version.findKind?_wrap wrapping element)).1

theorem prefix_types_wrap (version : Version) (wrapping : Wrapping) (element : TypeId) :
    version.types <+: (version.wrap wrapping element).1.types := by
  obtain ⟨suffix, interns⟩ := version.exists_wrap_eq wrapping element
  rw [interns, intern]
  split
  · exact List.prefix_refl _
  · exact List.prefix_append _ _

/--
The first of the lists or maps of an element stays the first when a type gives way
to another one and neither is a list or map.
-/
theorem findKind?_setType {type : ApiType} {kind : TypeKind} (holds : kind.element?.isSome)
    (spared : ∀ old ∈ version.type? id,
      old.kind.element? = none ∧ type.kind.element? = none)
    {first : TypeId} (found : version.findKind? kind = some first) :
    (version.setType id type).findKind? kind = some first := by
  obtain ⟨⟨present, foundPresent, same⟩, least⟩ := findKind?_eq_some_iff.1 found
  have elsewhere (other : TypeId) (otherType : ApiType)
      (there : version.type? other = some otherType) (kindThere : otherType.kind = kind) :
      id.index ≠ other.index := by
    intro here
    rw [type?, ← here] at there
    rw [← kindThere, (spared otherType there).1] at holds
    cases holds
  refine findKind?_eq_some_iff.2 ⟨⟨present, ?_, same⟩, fun other otherType there kindThere => ?_⟩
  · rw [type?, setType, List.getElem?_set_ne (elsewhere first present foundPresent same)]
    exact foundPresent
  · by_cases here : id.index = other.index
    · rw [type?, setType, ← here] at there
      obtain ⟨bound, new⟩ := List.getElem?_eq_some_iff.1 there
      rw [List.length_set] at bound
      rw [List.getElem_set_self] at new
      have plain := (spared _ (List.getElem?_eq_getElem bound)).2
      rw [← kindThere, ← new, plain] at holds
      cases holds
    · rw [type?, setType, List.getElem?_set_ne here] at there
      exact least other otherType there kindThere

end Version

/-! ## Operations -/

inductive Operation where
  | addType (type : ApiType)
  | setType (id : TypeId) (type : ApiType)
  | wrap (wrapping : Wrapping) (element : TypeId)
  | addResource (resource : Resource)
  | addMethod (id : ResourceId) (method : Method)
  | addLocator (id : ResourceId) (locator : Locator)
  | setRoot (id : ResourceId)
  deriving Repr, DecidableEq

namespace Operation

def run : Operation → Version → Version
  | addType type, version => (version.addType type).1
  | setType id type, version => version.setType id type
  | wrap wrapping element, version => (version.wrap wrapping element).1
  | addResource resource, version => (version.addResource resource).1
  | addMethod id method, version => version.addMethod id method
  | addLocator id locator, version => version.addLocator id locator
  | setRoot id, version => version.setRoot id

/-- The operation replaces no list or map, and replaces nothing by one. -/
def SparesWrapped (operation : Operation) (version : Version) : Prop :=
  match operation with
  | setType id type => ∀ old ∈ version.type? id,
      old.kind.element? = none ∧ type.kind.element? = none
  | _ => True

instance (operation : Operation) (version : Version) :
    Decidable (operation.SparesWrapped version) :=
  match operation with
  | setType id type => inferInstanceAs (Decidable (∀ old ∈ version.type? id,
      old.kind.element? = none ∧ type.kind.element? = none))
  | addType _ | wrap _ _ | addResource _ | addMethod _ _ | addLocator _ _ | setRoot _ =>
    inferInstanceAs (Decidable True)

def runAll : List Operation → Version → Version
  | [], version => version
  | operation :: rest, version => runAll rest (operation.run version)

def AllSpareWrapped : List Operation → Version → Prop
  | [], _ => True
  | operation :: rest, version =>
    operation.SparesWrapped version ∧ AllSpareWrapped rest (operation.run version)

instance decidableAllSpareWrapped (operations : List Operation) (version : Version) :
    Decidable (AllSpareWrapped operations version) :=
  match operations with
  | [] => inferInstanceAs (Decidable True)
  | operation :: rest =>
    have := decidableAllSpareWrapped rest (operation.run version)
    inferInstanceAs (Decidable (_ ∧ _))

variable {version : Version}

/-- Only replacements change types that are there. -/
theorem prefix_types_run {operation : Operation}
    (unlike : ∀ id type, operation ≠ .setType id type) :
    version.types <+: (operation.run version).types := by
  cases operation with
  | addType type => exact List.prefix_append _ _
  | setType id type => exact absurd rfl (unlike id type)
  | wrap wrapping element => exact version.prefix_types_wrap wrapping element
  | addResource resource => exact List.prefix_refl _
  | addMethod id method => exact List.prefix_refl _
  | addLocator id locator => exact List.prefix_refl _
  | setRoot id => exact List.prefix_refl _

/-- The first of the lists or maps of an element stays the first. -/
theorem findKind?_run {operation : Operation} (spares : operation.SparesWrapped version)
    {kind : TypeKind} (holds : kind.element?.isSome) {id : TypeId}
    (found : version.findKind? kind = some id) :
    (operation.run version).findKind? kind = some id := by
  by_cases replaces : ∃ id type, operation = .setType id type
  · obtain ⟨id, type, rfl⟩ := replaces
    exact Version.findKind?_setType holds spares found
  · exact Version.findKind?_of_prefix
      (prefix_types_run fun id type same => replaces ⟨id, type, same⟩) found

theorem findKind?_runAll {operations : List Operation}
    (spare : AllSpareWrapped operations version) {kind : TypeKind}
    (holds : kind.element?.isSome) {id : TypeId} (found : version.findKind? kind = some id) :
    (runAll operations version).findKind? kind = some id := by
  induction operations generalizing version with
  | nil => exact found
  | cons operation rest ih =>
      obtain ⟨first, later⟩ := spare
      exact ih later (findKind?_run first holds found)

end Operation

/-! ## Lists and maps in a history -/

/-- Two wrappings are given the same number only if they are the same and so are their elements. -/
theorem Version.wrap_snd_eq_iff {late : Version} {wrapping other : Wrapping}
    {element inner id : TypeId} (found : late.findKind? (wrapping.around element) = some id) :
    (late.wrap other inner).2 = id ↔ other = wrapping ∧ inner = element := by
  constructor
  · intro same
    obtain ⟨type, there, kind⟩ := late.exists_type?_wrap other inner
    obtain ⟨⟨old, present, oldKind⟩, -⟩ := findKind?_eq_some_iff.1 found
    rw [same, type?_of_prefix (late.prefix_types_wrap other inner) present,
      Option.some.injEq] at there
    rw [← there, oldKind, Wrapping.around_inj] at kind
    exact ⟨kind.1.symm, kind.2.symm⟩
  · rintro ⟨rfl, rfl⟩
    rw [wrap_of_findKind? found]

/--
Lists and maps are canonical and stay so.  From whatever version one starts, what
is given as a list or map of an element is one, whether or not the element is in
use; after any operations that leave lists and maps alone it is given again, and
nothing changes then; and it is given for this wrapping of this element only.
Operations other than replacements leave the types alone that are there.
-/
theorem Version.wrap_canonical (early : Version) :
    (∀ wrapping element, ∃ type,
      (early.wrap wrapping element).1.type? (early.wrap wrapping element).2 = some type ∧
      type.kind = wrapping.around element) ∧
    (∀ wrapping element operations,
      Operation.AllSpareWrapped operations (early.wrap wrapping element).1 →
      let late := Operation.runAll operations (early.wrap wrapping element).1
      late.wrap wrapping element = (late, (early.wrap wrapping element).2) ∧
      ∀ other inner, (late.wrap other inner).2 = (early.wrap wrapping element).2 ↔
        other = wrapping ∧ inner = element) ∧
    ∀ operation : Operation, (∀ id type, operation ≠ .setType id type) →
      ∀ id type, early.type? id = some type → (operation.run early).type? id = some type := by
  refine ⟨early.exists_type?_wrap, fun wrapping element operations spare => ?_,
    fun operation unlike id type found =>
      type?_of_prefix (Operation.prefix_types_run unlike) found⟩
  have holds : (wrapping.around element).element?.isSome := by
    rw [wrapping.element?_around]
    rfl
  have found := Operation.findKind?_runAll spare holds (early.findKind?_wrap wrapping element)
  exact ⟨wrap_of_findKind? found, fun other inner => wrap_snd_eq_iff found⟩

/-- A version in which lists of one element were put twice by hand. -/
def stocked : Version :=
  Operation.runAll
    [.addType ⟨.ofText "Names", "", .list ⟨4⟩⟩, .addType ⟨.ofText "NamesAgain", "", .list ⟨4⟩⟩]
    (.empty (.ofText "clusters_mgmt") (.ofText "v1"))

/--
Operations that add one more such list, a map of a number that dangles and a type
of that number, replace a scalar, and replace nothing at a number that dangles.
-/
def bustle : List Operation :=
  [.addType ⟨.ofText "Tags", "", .list ⟨4⟩⟩, .wrap .map ⟨11⟩,
    .setType ⟨4⟩ ⟨.ofText "Text", "", .enum []⟩,
    .setType ⟨40⟩ ⟨.ofText "Lost", "", .list ⟨4⟩⟩, .wrap .list ⟨40⟩,
    .addType ⟨.ofText "Found", "", .struct [] true⟩, .addResource ⟨.ofText "root", "", [], []⟩,
    .addLocator ⟨0⟩ ⟨.ofText "again", "", false, ⟨0⟩⟩, .setRoot ⟨0⟩]

theorem Version.wrap_canonical_bustling :
    let early := (stocked.wrap .list ⟨4⟩).1
    let late := Operation.runAll bustle early
    Operation.AllSpareWrapped bustle early ∧
    late.wrap .list ⟨4⟩ = (late, ⟨7⟩) ∧ late.wrap .map ⟨11⟩ = (late, ⟨10⟩) ∧
    (late.wrap .map ⟨4⟩).2 ≠ ⟨7⟩ ∧ (late.wrap .list ⟨11⟩).2 ≠ ⟨7⟩ := by
  intro early late
  have spare : Operation.AllSpareWrapped bustle early := by decide +kernel
  obtain ⟨again, only⟩ := stocked.wrap_canonical.2.1 .list ⟨4⟩ bustle spare
  refine ⟨spare, again, by decide +kernel, fun same => ?_, fun same => ?_⟩
  · cases ((only .map ⟨4⟩).1 same).1
  · cases ((only .list ⟨11⟩).1 same).2

end VersionedApi.Model
