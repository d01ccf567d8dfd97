import VersionedApi.Model.Version

/-!
# Paths of a version

The paths of a version are the chains of locators that leave its root and
never come back to a resource they have been at.  They are listed as a reader
of the description would meet them: every path directly before its extensions.
-/

namespace VersionedApi.Model

namespace Version

/-- The numbers in use that a walk has not been at. -/
def unvisited (version : Version) (visited : List ResourceId) : List Nat :=
  (List.range version.resources.length).filter fun index => ResourceId.mk index ∉ visited

/-- A number in use is no longer among the unvisited ones once it is visited. -/
theorem length_unvisited_cons_lt {version : Version} {visited : List ResourceId}
    {id : ResourceId} {resource : Resource} (found : version.resource? id = some resource)
    (fresh : id ∉ visited) :
    (version.unvisited (id :: visited)).length < (version.unvisited visited).length := by
  have bound : id.index < version.resources.length :=
    (List.getElem?_eq_some_iff.1 found).1
  have sublist : version.unvisited (id :: visited) =
      (version.unvisited visited).filter fun index => index ≠ id.index := by
    simp only [unvisited, List.filter_filter]
    apply List.filter_congr
    intro index _
    by_cases same : index = id.index
    · subst same; simp
    · have other : ResourceId.mk index ≠ id := by
        intro equal; exact same (by rw [← equal])
      simp [same, other]
  have member : id.index ∈ version.unvisited visited := by
    simp only [unvisited, List.mem_filter, List.mem_range, decide_eq_true_eq]
    exact ⟨bound, fresh⟩
  rw [sublist]
  refine List.length_filter_lt_length_iff_exists.2 ⟨id.index, member, ?_⟩
  simp

/--
The walk from a resource.  `visited` holds the resources that the walk is at,
and `chain` the locators it took, last first.
-/
def walk (version : Version) (visited : List ResourceId) (chain : Path) (resource : Resource) :
    List Path :=
  resource.locators.attach.flatMap fun ⟨locator, _⟩ =>
    if _fresh : locator.target ∈ visited then []
    else
      let path := locator :: chain
      path.reverse ::
        match _found : version.resource? locator.target with
        | none => []
        | some next => version.walk (locator.target :: visited) path next
termination_by (version.unvisited visited).length
decreasing_by exact length_unvisited_cons_lt _found _fresh

/-- The paths of a version; without a root there are none. -/
def paths (version : Version) : List Path :=
  match version.root with
  | none => []
  | some root =>
    match version.resource? root with
    | none => []
    | some resource => version.walk [root] [] resource

/-! ## Absolute paths -/

/-- A locator as a segment of an absolute path; a variable stands for an identifier. -/
def segment (locator : Locator) : String :=
  if locator.isVariable then "\x7b" ++ locator.name.snake ++ "_id\x7d" else locator.name.snake

def absolutePath (version : Version) (path : Path) : String :=
  "/api/" ++ version.service.snake ++ "/" ++ version.name.snake ++ "/" ++
    "/".intercalate (path.map segment)

end Version

end VersionedApi.Model
