import VersionedApi.Model.Paths

/-!
# Chains of locators

A chain that a walk lists ends with a locator of some resource, so it leads to
a resource if all locators do.  An absolute path counts for the first chain
that spells it.
-/

namespace VersionedApi.Model.Version

/-- A walk lists a chain through a fresh locator, directly before its extensions. -/
theorem mem_walk_iff {version : Version} {visited : List ResourceId} {chain path : Path}
    {resource : Resource} :
    path ∈ version.walk visited chain resource ↔
      ∃ locator ∈ resource.locators, locator.target ∉ visited ∧
        (path = (locator :: chain).reverse ∨
          ∃ next, version.resource? locator.target = some next ∧
            path ∈ version.walk (locator.target :: visited) (locator :: chain) next) := by
  rw [walk, List.mem_flatMap]
  constructor
  · rintro ⟨⟨locator, offered⟩, -, listed⟩
    refine ⟨locator, offered, ?_⟩
    dsimp only at listed
    split at listed
    · cases listed
    · next fresh =>
        refine ⟨fresh, (List.mem_cons.1 listed).imp_right fun later => ?_⟩
        split at later
        · cases later
        · next next found => exact ⟨next, found, later⟩
  · rintro ⟨locator, offered, fresh, listed⟩
    refine ⟨⟨locator, offered⟩, List.mem_attach _ _, ?_⟩
    dsimp only
    rw [dif_neg fresh]
    refine List.mem_cons.2 (listed.imp_right ?_)
    rintro ⟨next, found, later⟩
    split
    · next missing =>
        rw [found] at missing
        cases missing
    · next other same =>
        rw [found] at same
        cases same
        exact later

/-- A chain that a walk lists ends with a locator of a resource. -/
theorem exists_target_of_mem_walk {version : Version} {visited : List ResourceId}
    {chain path : Path} {resource : Resource} (declared : resource ∈ version.resources)
    (listed : path ∈ version.walk visited chain resource) :
    ∃ other ∈ version.resources, ∃ locator ∈ other.locators,
      path.target? = some locator.target := by
  induction visited, chain, resource using walk.induct version with
  | case1 visited chain resource ih =>
      obtain ⟨locator, offered, fresh, either⟩ := mem_walk_iff.1 listed
      rcases either with rfl | ⟨next, found, later⟩
      · exact ⟨resource, declared, locator, offered, by simp [Path.target?]⟩
      · exact ih locator fresh next found (List.mem_of_getElem? found) later

theorem exists_target_of_mem_paths {version : Version} {path : Path}
    (listed : path ∈ version.paths) :
    ∃ resource ∈ version.resources, ∃ locator ∈ resource.locators,
      path.target? = some locator.target := by
  unfold paths at listed
  split at listed
  · cases listed
  · split at listed
    · cases listed
    · next found => exact exists_target_of_mem_walk (List.mem_of_getElem? found) listed

/-- A chain that a walk lists goes on from its own by locators of resources. -/
theorem declared_of_mem_walk {version : Version} {visited : List ResourceId}
    {chain path : Path} {resource : Resource} (declared : resource ∈ version.resources)
    (known : ∀ locator ∈ chain, ∃ other ∈ version.resources, locator ∈ other.locators)
    (listed : path ∈ version.walk visited chain resource) :
    ∀ locator ∈ path, ∃ other ∈ version.resources, locator ∈ other.locators := by
  induction visited, chain, resource using walk.induct version with
  | case1 visited chain resource ih =>
      obtain ⟨locator, offered, fresh, either⟩ := mem_walk_iff.1 listed
      have longer : ∀ other ∈ locator :: chain, ∃ resource ∈ version.resources,
          other ∈ resource.locators :=
        List.forall_mem_cons.2 ⟨⟨resource, declared, offered⟩, known⟩
      rcases either with rfl | ⟨next, found, later⟩
      · intro other member
        exact longer other (List.mem_reverse.1 member)
      · exact ih locator fresh next found (List.mem_of_getElem? found) longer later

/-- The chains of a version consist of locators of its resources. -/
theorem declared_of_mem_paths {version : Version} {path : Path} (listed : path ∈ version.paths) :
    ∀ locator ∈ path, ∃ resource ∈ version.resources, locator ∈ resource.locators := by
  unfold paths at listed
  split at listed
  · cases listed
  · split at listed
    · cases listed
    · next found =>
        exact declared_of_mem_walk (List.mem_of_getElem? found) (List.forall_mem_nil _) listed

/-! ## Where chains end -/

/-- No locator dangles. -/
def Closed (version : Version) : Prop :=
  ∀ resource ∈ version.resources, ∀ locator ∈ resource.locators,
    (version.resource? locator.target).isSome

/-- The resource at the end of a chain, unless the chain dangles. -/
def endOf? (version : Version) (path : Path) : Option Resource :=
  path.target?.bind version.resource?

/-- Where no locator dangles no chain does. -/
theorem Closed.exists_endOf? {version : Version} (closed : version.Closed) {path : Path}
    (listed : path ∈ version.paths) :
    ∃ resource ∈ version.resources, version.endOf? path = some resource := by
  obtain ⟨other, declared, locator, offered, target⟩ := exists_target_of_mem_paths listed
  obtain ⟨resource, found⟩ := Option.isSome_iff_exists.1 (closed other declared locator offered)
  refine ⟨resource, List.mem_of_getElem? found, ?_⟩
  rw [endOf?, target]
  exact found

/-! ## First chains -/

/-- The first chain of locators that spells an absolute path. -/
def firstChain? (version : Version) (key : String) : Option Path :=
  version.paths.find? fun path => version.absolutePath path = key

theorem mem_paths_of_firstChain? {version : Version} {key : String} {path : Path}
    (first : version.firstChain? key = some path) : path ∈ version.paths :=
  List.mem_of_find?_eq_some first

theorem absolutePath_of_firstChain? {version : Version} {key : String} {path : Path}
    (first : version.firstChain? key = some path) : version.absolutePath path = key := by
  simpa using List.find?_some first

end VersionedApi.Model.Version
