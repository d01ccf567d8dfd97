import Mathlib.Data.List.Sort
import VersionedApi.Proofs.OpenApi.PathTemplates

/-!
# Order of locators

The order in which the locators of a resource are declared decides the order of
the chains, and which of two chains with one absolute path comes first.  It
does not decide which chains there are, and so neither the keys of the items nor,
where chains with one absolute path lead to one resource, anything else in them.
-/

namespace VersionedApi.Model

/-- A resource whose locators stand in another order. -/
structure Resource.Reordered (first second : Resource) : Prop where
  rest : second = { first with locators := second.locators }
  locators : first.locators.Perm second.locators

namespace Version

/-- A version whose resources have their locators in another order. -/
structure Reordered (first second : Version) : Prop where
  name : first.name = second.name
  service : first.service = second.service
  types : first.types = second.types
  root : first.root = second.root
  resources : List.Forall₂ Resource.Reordered first.resources second.resources

namespace Reordered

variable {first second : Version}

theorem symm (reordered : Reordered first second) : Reordered second first where
  name := reordered.name.symm
  service := reordered.service.symm
  types := reordered.types.symm
  root := reordered.root.symm
  resources := by
    refine List.Forall₂.flip (reordered.resources.imp fun one other same => ⟨?_, ?_⟩)
    · rw [same.rest]
    · exact same.locators.symm

/-- A number leads to resources that differ in the order of their locators. -/
theorem exists_resource? (reordered : Reordered first second) {id : ResourceId}
    {one : Resource} (found : first.resource? id = some one) :
    ∃ other, second.resource? id = some other ∧ one.Reordered other := by
  obtain ⟨bound, rfl⟩ := List.getElem?_eq_some_iff.1 found
  have boundAfter : id.index < second.resources.length :=
    reordered.resources.length_eq ▸ bound
  exact ⟨_, List.getElem?_eq_getElem boundAfter, reordered.resources.get bound boundAfter⟩

theorem resource?_eq_none (reordered : Reordered first second) {id : ResourceId}
    (missing : first.resource? id = none) : second.resource? id = none := by
  cases search : second.resource? id with
  | none => rfl
  | some other =>
      obtain ⟨one, found, -⟩ := reordered.symm.exists_resource? search
      rw [missing] at found
      cases found

theorem closed (reordered : Reordered first second) (closed : first.Closed) :
    second.Closed := by
  intro other declared locator offered
  obtain ⟨place, bound, rfl⟩ := List.mem_iff_getElem.1 declared
  obtain ⟨one, found, same⟩ := reordered.symm.exists_resource?
    (show second.resource? ⟨place⟩ = some _ from List.getElem?_eq_getElem bound)
  have leads := closed one (List.mem_of_getElem? found) locator (same.locators.mem_iff.1 offered)
  obtain ⟨target, foundTarget⟩ := Option.isSome_iff_exists.1 leads
  obtain ⟨_, foundAfter, -⟩ := reordered.exists_resource? foundTarget
  exact Option.isSome_of_mem foundAfter

/-! ## Chains -/

/-- A walk lists the same chains in another order. -/
theorem mem_walk (reordered : Reordered first second) {visited : List ResourceId}
    {chain path : Path} {one other : Resource} (same : one.Reordered other)
    (listed : path ∈ first.walk visited chain one) : path ∈ second.walk visited chain other := by
  induction visited, chain, one using walk.induct first generalizing other with
  | case1 visited chain one ih =>
      obtain ⟨locator, offered, fresh, either⟩ := mem_walk_iff.1 listed
      refine mem_walk_iff.2 ⟨locator, same.locators.mem_iff.1 offered, fresh, ?_⟩
      rcases either with rfl | ⟨next, found, later⟩
      · exact .inl rfl
      · obtain ⟨nextAfter, foundAfter, sameNext⟩ := reordered.exists_resource? found
        exact .inr ⟨nextAfter, foundAfter, ih locator fresh next found sameNext later⟩

theorem mem_paths (reordered : Reordered first second) {path : Path}
    (listed : path ∈ first.paths) : path ∈ second.paths := by
  unfold paths at listed ⊢
  rw [← reordered.root]
  cases chosen : first.root with
  | none =>
      rw [chosen] at listed
      cases listed
  | some root =>
      rw [chosen] at listed
      dsimp only at listed ⊢
      cases found : first.resource? root with
      | none =>
          rw [found] at listed
          cases listed
      | some one =>
          obtain ⟨other, foundAfter, same⟩ := reordered.exists_resource? found
          rw [found] at listed
          rw [foundAfter]
          exact reordered.mem_walk same listed

theorem mem_paths_iff (reordered : Reordered first second) {path : Path} :
    path ∈ first.paths ↔ path ∈ second.paths :=
  ⟨reordered.mem_paths, reordered.symm.mem_paths⟩

theorem absolutePath_eq (reordered : Reordered first second) (path : Path) :
    first.absolutePath path = second.absolutePath path := by
  rw [absolutePath, absolutePath, reordered.service, reordered.name]

end Reordered

end Version

end VersionedApi.Model

namespace VersionedApi.OpenApi

open VersionedApi.Document VersionedApi.Model

variable {first second : Version}

/-! ## Keys -/

theorem keys_distinctPaths_of_reordered (reordered : Version.Reordered first second) :
    (distinctPaths first).map (·.1) = (distinctPaths second).map (·.1) := by
  refine (keys_distinctPaths_ascend first).eq_of_mem_iff (keys_distinctPaths_ascend second) ?_
  intro key
  rw [mem_keys_distinctPaths_iff, mem_keys_distinctPaths_iff]
  simp only [reordered.mem_paths_iff, reordered.absolutePath_eq]

/-- The items, each written by the first chain that spells its key. -/
theorem pathItems_eq_concat_keys (conventions : Conventions) (version : Version) :
    pathItems conventions version =
      Draft.concat (((distinctPaths version).map (·.1)).map fun key =>
        pathItem conventions version key ((version.firstChain? key).getD [])) := by
  rw [pathItems, List.map_map]
  refine congrArg Draft.concat (List.map_congr_left ?_)
  rintro ⟨key, path⟩ member
  dsimp only [Function.comp_apply]
  rw [mem_distinctPaths_iff.1 member, Option.getD_some]

/-! ## What depends on the types only -/

theorem referenceWithin_congr (naming : Naming) (types : first.types = second.types)
    (depth : Nat) (id : TypeId) :
    referenceWithin naming first depth id = referenceWithin naming second depth id := by
  have same (id : TypeId) : first.type? id = second.type? id := by
    rw [Version.type?, Version.type?, types]
  induction depth generalizing id with
  | zero => rfl
  | succ depth ih => simp only [referenceWithin, same, ih]

theorem reference_congr (naming : Naming) (types : first.types = second.types) :
    reference naming first = reference naming second := by
  funext id
  rw [reference, reference, types, referenceWithin_congr naming types]

theorem isScalar_congr (types : first.types = second.types) :
    Binding.isScalar first = Binding.isScalar second := by
  funext parameter
  rw [Binding.isScalar, Binding.isScalar, Version.type?, Version.type?, types]

/-! ## Operations -/

/-- The names of the parameters that stand for the variables of a path. -/
def variableNames (path : Path) : List String :=
  (path.filter (·.isVariable)).map variableName

/-- The parameter for a variable of a path shows nothing of it but its name. -/
theorem map_pathParameter_congr (naming : Naming) {left right : Path}
    (named : variableNames left = variableNames right) :
    (left.filter (·.isVariable)).map (pathParameter ⟨naming, .http⟩) =
      (right.filter (·.isVariable)).map (pathParameter ⟨naming, .http⟩) := by
  have shown : pathParameter ⟨naming, .http⟩ = (fun name => Draft.objectItem
      (Draft.text "name" name ++ Draft.text "in" "path" ++
        Draft.object "schema" (Draft.text "type" "string"))) ∘ variableName := rfl
  rw [shown, ← List.map_map, ← List.map_map]
  exact congrArg _ named

theorem operation_congr (naming : Naming) (types : first.types = second.types)
    {left right : Path} (named : variableNames left = variableNames right) (method : Method) :
    operation ⟨naming, .http⟩ first left method =
      operation ⟨naming, .http⟩ second right method := by
  have query : Binding.http.query first = Binding.http.query second := by
    funext method
    simp only [Binding.http, isScalar_congr types]
  have body : Binding.http.body first = Binding.http.body second := by
    funext method
    simp only [Binding.http, isScalar_congr types]
  have entry : queryParameter ⟨naming, .http⟩ first = queryParameter ⟨naming, .http⟩ second := by
    funext parameter
    rw [queryParameter, queryParameter, reference_congr naming types]
  have property :
      responseProperty ⟨naming, .http⟩ first = responseProperty ⟨naming, .http⟩ second := by
    funext parameter
    rw [responseProperty, responseProperty, reference_congr naming types]
  have sent : parameters ⟨naming, .http⟩ first left method =
      parameters ⟨naming, .http⟩ second right method := by
    rw [parameters, parameters, map_pathParameter_congr naming named, query, entry]
  have carried : requestBody ⟨naming, .http⟩ first method =
      requestBody ⟨naming, .http⟩ second method := by
    simp only [requestBody, body, reference_congr naming types]
  have returned : responses ⟨naming, .http⟩ first method =
      responses ⟨naming, .http⟩ second method := by
    have returnedBody (shown : List Parameter) : responseBody ⟨naming, .http⟩ first shown =
        responseBody ⟨naming, .http⟩ second shown := by
      unfold responseBody
      rw [reference_congr naming types, property]
    rw [responses, responses, returnedBody]
  rw [operation, operation, sent, carried, returned]

theorem pathOperations_congr (naming : Naming) (types : first.types = second.types) (key : String)
    {left right : Path} (named : variableNames left = variableNames right)
    (taken : List String) (methods : List Method) :
    pathOperations ⟨naming, .http⟩ first key left taken methods =
      pathOperations ⟨naming, .http⟩ second key right taken methods := by
  induction methods generalizing taken with
  | nil => rfl
  | cons method rest ih =>
      simp only [pathOperations, ih, operation_congr naming types named]

/-! ## Items -/

/-- Two chains that lead to one resource and have variables of the same names write one item. -/
theorem pathItem_of_reordered (reordered : Version.Reordered first second) (naming : Naming)
    (key : String) {left right : Path} (target : left.target? = right.target?)
    (named : variableNames left = variableNames right) :
    pathItem ⟨naming, .http⟩ first key left = pathItem ⟨naming, .http⟩ second key right := by
  unfold pathItem
  rw [target]
  cases right.target? with
  | none => rfl
  | some id =>
      dsimp only [Option.bind_some]
      cases found : first.resource? id with
      | none => rw [reordered.resource?_eq_none found]
      | some one =>
          obtain ⟨other, foundAfter, same⟩ := reordered.exists_resource? found
          rw [foundAfter, same.rest]
          exact congrArg (Draft.object key)
            (pathOperations_congr naming reordered.types key named [] one.methods)

/-- Chains that spell one absolute path lead to one resource. -/
def Consistent (version : Version) : Prop :=
  ∀ left ∈ version.paths, ∀ right ∈ version.paths,
    version.absolutePath left = version.absolutePath right → left.target? = right.target?

/-- Items of consistent chains do not depend on the order of the locators. -/
theorem pathItems_eq_of_reordered (reordered : Version.Reordered first second)
    (spelled : first.Spelled) (consistent : Consistent first) (naming : Naming) :
    pathItems ⟨naming, .http⟩ first = pathItems ⟨naming, .http⟩ second := by
  rw [pathItems_eq_concat_keys, pathItems_eq_concat_keys,
    ← keys_distinctPaths_of_reordered reordered]
  refine congrArg Draft.concat (List.map_congr_left fun key member => ?_)
  obtain ⟨⟨_, left⟩, among, rfl⟩ := List.mem_map.1 member
  obtain ⟨⟨_, right⟩, amongAfter, same⟩ :=
    List.mem_map.1 (keys_distinctPaths_of_reordered reordered ▸ member)
  dsimp only at same ⊢
  subst same
  have firstLeft := mem_distinctPaths_iff.1 among
  have firstRight := mem_distinctPaths_iff.1 amongAfter
  have listedLeft := Version.mem_paths_of_firstChain? firstLeft
  have listedRight := reordered.mem_paths_iff.2 (Version.mem_paths_of_firstChain? firstRight)
  have spelledAlike : first.absolutePath left = first.absolutePath right := by
    rw [Version.absolutePath_of_firstChain? firstLeft, reordered.absolutePath_eq,
      Version.absolutePath_of_firstChain? firstRight]
  rw [firstLeft, firstRight, Option.getD_some, Option.getD_some]
  refine pathItem_of_reordered reordered naming _
    (consistent left listedLeft right listedRight spelledAlike) ?_
  rw [variableNames, ← placeholders_absolutePath spelled listedLeft, spelledAlike,
    placeholders_absolutePath spelled listedRight, variableNames]

/--
The keys of the items do not depend on the order in which the locators of each
resource are declared.  Where chains that spell one absolute path lead to one
resource, the items do not depend on it either, and no message does.
-/
theorem pathItems_reordered {first second : Version} (reordered : Version.Reordered first second)
    (closed : first.Closed) :
    (∀ conventions, Fields.keys (build (pathItems conventions first).steps) =
      Fields.keys (build (pathItems conventions second).steps)) ∧
    (first.Spelled → Consistent first → ∀ naming,
      build (pathItems ⟨naming, .http⟩ first).steps =
        build (pathItems ⟨naming, .http⟩ second).steps ∧
      (pathItems ⟨naming, .http⟩ first).problems.map (·.message) =
        (pathItems ⟨naming, .http⟩ second).problems.map (·.message)) := by
  constructor
  · intro conventions
    rw [keys_pathItems_of_closed conventions closed,
      keys_pathItems_of_closed conventions (reordered.closed closed),
      keys_distinctPaths_of_reordered reordered]
  · intro spelled consistent naming
    rw [pathItems_eq_of_reordered reordered spelled consistent naming]
    exact ⟨rfl, rfl⟩

/-- A version with the locators of each resource the other way round. -/
def backwards (version : Version) : Version :=
  { version with
    resources := version.resources.map fun resource =>
      { resource with locators := resource.locators.reverse } }

theorem reordered_backwards (version : Version) :
    Version.Reordered version (backwards version) where
  name := rfl
  service := rfl
  types := rfl
  root := rfl
  resources := by
    refine List.forall₂_map_right_iff.2 (List.forall₂_same.2 fun resource _ => ⟨rfl, ?_⟩)
    exact (List.reverse_perm resource.locators).symm

/-- Two locators that read the same beside a third one, and a way back to the root. -/
def forked : Version where
  service := .ofText "clusters_mgmt"
  name := .ofText "v1"
  doc := ""
  types := ApiType.builtins
  resources := [
    { name := .ofText "root", doc := "", methods := []
      locators := [
        ⟨.ofText "node", "the first", true, ⟨1⟩⟩, ⟨.ofText "Node", "the second", true, ⟨1⟩⟩,
        ⟨.ofText "flavours", "", false, ⟨2⟩⟩] },
    { name := .ofText "node", doc := "", methods := [fetch, fetch]
      locators := [⟨.ofText "root", "", false, ⟨0⟩⟩, ⟨.ofText "flavours", "", false, ⟨2⟩⟩] },
    { name := .ofText "flavours", doc := "", methods := [fetch], locators := [] }]
  root := some ⟨0⟩

/-- The chain to the flavours that the second of the two takes. -/
def forkedChain : Path :=
  [⟨.ofText "Node", "the second", true, ⟨1⟩⟩, ⟨.ofText "flavours", "", false, ⟨2⟩⟩]

theorem pathItems_reordered_forked : forked.paths ≠ (backwards forked).paths ∧
    "/api/clusters_mgmt/v1/{node_id}/flavours" ∈
      Fields.keys (build (pathItems (.ofBinding .http) (backwards forked)).steps) ∧
    build (pathItems (.ofBinding .http) forked).steps =
      build (pathItems (.ofBinding .http) (backwards forked)).steps ∧
    (pathItems (.ofBinding .http) forked).problems.map (·.message) =
      (pathItems (.ofBinding .http) (backwards forked)).problems.map (·.message) := by
  have closed : forked.Closed := by
    unfold Version.Closed
    decide +kernel
  have spelled : forked.Spelled := by
    refine ⟨⟨_, rfl⟩, ⟨_, rfl⟩, ?_⟩
    simp only [forked, List.forall_mem_cons, List.not_mem_nil, IsEmpty.forall_iff,
      implies_true, and_true]
    exact ⟨⟨⟨_, rfl⟩, ⟨_, rfl⟩, ⟨_, rfl⟩⟩, ⟨_, rfl⟩, ⟨_, rfl⟩⟩
  have consistent : Consistent forked := by
    unfold Consistent
    decide +kernel
  obtain ⟨keys, items⟩ := pathItems_reordered (reordered_backwards forked) closed
  refine ⟨by decide +kernel, ?_, items spelled consistent .standard⟩
  rw [← keys, keys_pathItems_of_closed _ closed, mem_keys_distinctPaths_iff]
  exact ⟨forkedChain, by decide +kernel, by decide +kernel⟩

end VersionedApi.OpenApi
