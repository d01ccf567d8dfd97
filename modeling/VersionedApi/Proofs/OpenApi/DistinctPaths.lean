import VersionedApi.Proofs.Document.Fields
import VersionedApi.Proofs.Model.Chains
import VersionedApi.Proofs.OpenApi.Problems
import VersionedApi.Proofs.Text.ByteOrder

/-!
# Items of distinct paths

The items of a version stand under its distinct absolute paths in byte order.
Each is written by the first chain of locators that spells the path, and no
later chain adds to it.  Where the first chain dangles there is no item but one
message.
-/

namespace VersionedApi.OpenApi

open VersionedApi.Document VersionedApi.Model VersionedApi.Text

/-! ## First pairs -/

/-- The pairs that are kept are the first of their keys. -/
theorem mem_keepFirst_iff {pairs : List (String × Path)} {key : String} {path : Path} :
    (key, path) ∈ keepFirst pairs ↔ pairs.find? (·.1 = key) = some (key, path) := by
  induction pairs with
  | nil => simp [keepFirst]
  | cons pair rest ih =>
      obtain ⟨first, chain⟩ := pair
      by_cases same : first = key
      · subst same
        simp [keepFirst, eq_comm]
      · have other : key ≠ first := Ne.symm same
        simp [keepFirst, same, other, ih]

theorem nodup_keys_keepFirst (pairs : List (String × Path)) :
    ((keepFirst pairs).map (·.1)).Nodup := by
  induction pairs with
  | nil => exact List.nodup_nil
  | cons pair rest ih =>
      obtain ⟨key, path⟩ := pair
      rw [keepFirst, List.map_cons, List.nodup_cons]
      constructor
      · simp
      · exact ih.sublist ((List.filter_sublist).map _)

/-! ## Distinct paths -/

variable {version : Version}

/-- Each absolute path stands with its first chain. -/
theorem mem_distinctPaths_iff {key : String} {path : Path} :
    (key, path) ∈ distinctPaths version ↔ version.firstChain? key = some path := by
  rw [distinctPaths, List.mem_mergeSort, mem_keepFirst_iff, List.find?_map]
  constructor
  · intro found
    obtain ⟨chain, first, same⟩ := Option.map_eq_some_iff.1 found
    cases same
    exact first
  · intro first
    have spelled := Version.absolutePath_of_firstChain? first
    exact Option.map_eq_some_iff.2 ⟨path, first, by rw [spelled]⟩

/-- The distinct paths are all that the chains spell. -/
theorem mem_keys_distinctPaths_iff {key : String} :
    key ∈ (distinctPaths version).map (·.1) ↔
      ∃ path ∈ version.paths, version.absolutePath path = key := by
  rw [List.mem_map]
  constructor
  · rintro ⟨⟨key, path⟩, member, rfl⟩
    have first := mem_distinctPaths_iff.1 member
    exact ⟨path, Version.mem_paths_of_firstChain? first, Version.absolutePath_of_firstChain? first⟩
  · rintro ⟨path, listed, spelled⟩
    have some : (version.firstChain? key).isSome :=
      List.find?_isSome.2 ⟨path, listed, by simpa using spelled⟩
    obtain ⟨first, found⟩ := Option.isSome_iff_exists.1 some
    exact ⟨(key, first), mem_distinctPaths_iff.2 found, rfl⟩

theorem nodup_keys_distinctPaths (version : Version) :
    ((distinctPaths version).map (·.1)).Nodup :=
  ((List.mergeSort_perm _ _).map _).nodup_iff.2 (nodup_keys_keepFirst _)

/-- The distinct paths ascend strictly. -/
theorem keys_distinctPaths_ascend (version : Version) :
    ((distinctPaths version).map (·.1)).Pairwise (· < ·) := by
  have sorted : (distinctPaths version).Pairwise fun left right => left.1 ≤ right.1 :=
    pairwise_mergeSort_le Prod.fst _
  refine (List.pairwise_map.2 sorted).imp₂ ?_ (nodup_keys_distinctPaths version)
  intro left right le different
  exact String.not_le.1 fun ge => different (String.le_antisymm le ge)

/-- A distinct path stands between others. -/
theorem distinctPaths_split {key : String} {path : Path}
    (first : version.firstChain? key = some path) :
    ∃ before after, distinctPaths version = before ++ (key, path) :: after ∧
      (∀ pair ∈ before, pair.1 ≠ key) ∧ ∀ pair ∈ after, pair.1 ≠ key := by
  obtain ⟨before, after, split⟩ := List.append_of_mem (mem_distinctPaths_iff.2 first)
  have distinct := nodup_keys_distinctPaths version
  rw [split, List.map_append, List.map_cons, List.nodup_append, List.nodup_cons] at distinct
  refine ⟨before, after, split, ?_, ?_⟩
  · intro pair member
    exact distinct.2.2 _ (List.mem_map_of_mem member) _ List.mem_cons_self
  · intro pair member same
    exact distinct.2.1.1 (List.mem_map.2 ⟨pair, member, same⟩)

/-! ## Items -/

variable (conventions : Conventions)

/-- A chain that leads to a resource writes one object, a dangling one nothing. -/
theorem pathItem_cases (version : Version) (key : String) (path : Path) :
    (∃ resource, version.endOf? path = some resource ∧
      pathItem conventions version key path = Draft.object key
        (pathOperations conventions version key path [] resource.methods)) ∨
    (version.endOf? path = none ∧
      pathItem conventions version key path = Draft.problem (.danglingPath key)) := by
  unfold pathItem
  cases ends : path.target?.bind version.resource? with
  | none => exact .inr ⟨ends, rfl⟩
  | some resource => exact .inl ⟨resource, ends, rfl⟩

/-- The item of a path is written under its key or not at all. -/
theorem key?_of_mem_pathItem {key : String} {path : Path} {step : FieldStep}
    (member : step ∈ (pathItem conventions version key path).steps) : step.key? = some key := by
  rcases pathItem_cases conventions version key path with ⟨resource, -, item⟩ | ⟨-, item⟩
  · rw [item] at member
    obtain rfl := List.mem_singleton.1 member
    rfl
  · rw [item] at member
    cases member

theorem filterMap_key?_pathItem (key : String) (path : Path) :
    (pathItem conventions version key path).steps.filterMap FieldStep.key? =
      if (version.endOf? path).isSome then [key] else [] := by
  rcases pathItem_cases conventions version key path with ⟨resource, ends, item⟩ | ⟨ends, item⟩
  · rw [item, ends]
    rfl
  · rw [item, ends]
    rfl

theorem steps_pathItems (version : Version) :
    (pathItems conventions version).steps =
      (distinctPaths version).flatMap fun pair =>
        (pathItem conventions version pair.1 pair.2).steps := by
  rw [pathItems, Draft.steps_concat, List.flatMap_map]

theorem problems_pathItems (version : Version) :
    (pathItems conventions version).problems =
      (distinctPaths version).flatMap fun pair =>
        (pathItem conventions version pair.1 pair.2).problems := by
  rw [pathItems, Draft.problems_concat, List.flatMap_map]

/-- The keys are the distinct paths that lead to a resource, in their order. -/
theorem keys_pathItems (version : Version) :
    Fields.keys (build (pathItems conventions version).steps) =
      ((distinctPaths version).filter fun pair => (version.endOf? pair.2).isSome).map (·.1) := by
  have written : (pathItems conventions version).steps.filterMap FieldStep.key? =
      ((distinctPaths version).filter fun pair => (version.endOf? pair.2).isSome).map (·.1) := by
    rw [steps_pathItems]
    induction distinctPaths version with
    | nil => rfl
    | cons pair rest ih =>
        rw [List.flatMap_cons, List.filterMap_append, ih, filterMap_key?_pathItem,
          List.filter_cons]
        split <;> rfl
  have distinct : (((distinctPaths version).filter fun pair =>
      (version.endOf? pair.2).isSome).map (·.1)).Nodup :=
    (nodup_keys_distinctPaths version).sublist (List.filter_sublist.map _)
  rw [build, keys_runFields_of_nodup (by rw [written]; exact distinct), written]
  rfl

/-- Where no locator dangles every distinct path has an item. -/
theorem keys_pathItems_of_closed (closed : version.Closed) :
    Fields.keys (build (pathItems conventions version).steps) =
      (distinctPaths version).map (·.1) := by
  rw [keys_pathItems, List.filter_eq_self.2]
  rintro ⟨key, path⟩ member
  have listed := Version.mem_paths_of_firstChain? (mem_distinctPaths_iff.1 member)
  obtain ⟨resource, -, ends⟩ := closed.exists_endOf? listed
  exact Option.isSome_of_mem ends

/-- The item of a first chain that leads to a resource is what this chain writes by itself. -/
theorem get?_pathItems {key : String} {path : Path} {resource : Resource}
    (first : version.firstChain? key = some path) (ends : version.endOf? path = some resource) :
    ∃ value, build (pathItem conventions version key path).steps = [(key, value)] ∧
      Fields.get? (build (pathItems conventions version).steps) key = some value := by
  rcases pathItem_cases conventions version key path with ⟨resource, -, item⟩ | ⟨dangling, -⟩
  · obtain ⟨before, after, split, unlikeBefore, unlikeAfter⟩ := distinctPaths_split first
    refine ⟨_, by rw [item]; rfl, ?_⟩
    rw [steps_pathItems, split, List.flatMap_append, List.flatMap_cons, item]
    refine get?_build_object _ _ ?_ ?_
    · intro step member
      obtain ⟨pair, among, inside⟩ := List.mem_flatMap.1 member
      rw [key?_of_mem_pathItem conventions inside]
      exact fun same => unlikeBefore pair among (Option.some.inj same)
    · intro step member
      obtain ⟨pair, among, inside⟩ := List.mem_flatMap.1 member
      rw [key?_of_mem_pathItem conventions inside]
      exact fun same => unlikeAfter pair among (Option.some.inj same)
  · rw [ends] at dangling
    cases dangling

/-! ## Messages -/

/-- An item reports no path but its own. -/
theorem eq_of_danglingPath_mem_pathItem {key other : String} {path : Path}
    (member : .danglingPath key ∈ (pathItem conventions version other path).problems) :
    key = other := by
  rcases pathItem_cases conventions version other path with ⟨resource, -, item⟩ | ⟨-, item⟩
  · rw [item, Draft.problems_object, problems_pathOperations] at member
    obtain ⟨entry, -, inside⟩ := List.mem_flatMap.1 member
    unfold methodProblems at inside
    split at inside
    · cases List.mem_singleton.1 inside
    · obtain ⟨parameter, -, within⟩ := List.mem_flatMap.1 inside
      cases concernsType_of_mem_reference within
  · rw [item, Draft.problems_problem] at member
    cases List.mem_singleton.1 member
    rfl

theorem count_danglingPath_of_unlike {key : String} {pairs : List (String × Path)}
    (unlike : ∀ pair ∈ pairs, pair.1 ≠ key) :
    ((pairs.flatMap fun pair => (pathItem conventions version pair.1 pair.2).problems).map
      (·.message)).count (Problem.danglingPath key).message = 0 := by
  rw [List.count_eq_zero]
  intro member
  obtain ⟨problem, reported, same⟩ := List.mem_map.1 member
  obtain ⟨pair, among, inside⟩ := List.mem_flatMap.1 reported
  rw [message_eq_danglingPath same] at inside
  exact unlike pair among (eq_of_danglingPath_mem_pathItem conventions inside).symm

/-- A first chain that dangles is reported once. -/
theorem count_danglingPath {key : String} {path : Path}
    (first : version.firstChain? key = some path) (dangling : version.endOf? path = none) :
    ((pathItems conventions version).problems.map (·.message)).count
      (Problem.danglingPath key).message = 1 := by
  obtain ⟨before, after, split, unlikeBefore, unlikeAfter⟩ := distinctPaths_split first
  have item : (pathItem conventions version key path).problems = [.danglingPath key] := by
    rcases pathItem_cases conventions version key path with ⟨resource, ends, -⟩ | ⟨-, item⟩
    · rw [dangling] at ends
      cases ends
    · rw [item]
      rfl
  rw [problems_pathItems, split, List.flatMap_append, List.flatMap_cons, item, List.map_append,
    List.count_append, List.map_append, List.count_append,
    count_danglingPath_of_unlike conventions unlikeBefore,
    count_danglingPath_of_unlike conventions unlikeAfter]
  simp

/-! ## The items of a version -/

/--
The keys ascend in byte order.  They are the absolute paths whose first chain
leads to a resource, each holds what this chain writes by itself, and a first
chain that dangles leaves one message instead of a key.
-/
theorem pathItems_of_firstChains (version : Version) :
    let items := build (pathItems conventions version).steps
    let messages := (pathItems conventions version).problems.map (·.message)
    (Fields.keys items).Pairwise (fun left right => utf8Bytes left < utf8Bytes right) ∧
    (∀ key, key ∈ Fields.keys items ↔
      ∃ path, version.firstChain? key = some path ∧ (version.endOf? path).isSome) ∧
    (∀ key path, version.firstChain? key = some path → (version.endOf? path).isSome →
      ∃ value, build (pathItem conventions version key path).steps = [(key, value)] ∧
        Fields.get? items key = some value) ∧
    (∀ key path, version.firstChain? key = some path → version.endOf? path = none →
      key ∉ Fields.keys items ∧ messages.count (Problem.danglingPath key).message = 1) := by
  intro items messages
  have keys : ∀ key, key ∈ Fields.keys items ↔
      ∃ path, version.firstChain? key = some path ∧ (version.endOf? path).isSome := by
    intro key
    rw [keys_pathItems]
    simp [mem_distinctPaths_iff]
  refine ⟨?_, keys, ?_, ?_⟩
  · rw [keys_pathItems]
    exact ((keys_distinctPaths_ascend version).sublist (List.filter_sublist.map _)).imp utf8Bytes_lt
  · intro key path first found
    obtain ⟨resource, ends⟩ := Option.isSome_iff_exists.1 found
    exact get?_pathItems conventions first ends
  · intro key path first dangling
    refine ⟨?_, count_danglingPath conventions first dangling⟩
    intro present
    obtain ⟨other, same, found⟩ := (keys key).1 present
    obtain rfl := Option.some.inj (first.symm.trans same)
    rw [dangling] at found
    cases found

/-- Two chains that read the same, of which the first dangles, before a third one. -/
def crossed : Version where
  service := ⟨"clusters_mgmt"⟩
  name := ⟨"v1"⟩
  doc := ""
  types := ApiType.builtins
  resources := [
    { name := ⟨"root"⟩, doc := "", methods := []
      locators := [
        ⟨⟨"nodes"⟩, "", false, ⟨7⟩⟩, ⟨⟨"nodes"⟩, "", false, ⟨1⟩⟩, ⟨⟨"flavours"⟩, "", true, ⟨1⟩⟩] },
    { name := ⟨"nodes"⟩, doc := "", methods := [], locators := [] }]
  root := some ⟨0⟩

theorem pathItems_of_firstChains_crossed :
    let items := build (pathItems (.ofBinding .http) crossed).steps
    let messages := (pathItems (.ofBinding .http) crossed).problems.map (·.message)
    "/api/clusters_mgmt/v1/\x7bflavours_id\x7d" ∈ Fields.keys items ∧
      "/api/clusters_mgmt/v1/nodes" ∉ Fields.keys items ∧
      messages.count "Can't find the resource of path '/api/clusters_mgmt/v1/nodes'" = 1 := by
  have specified := pathItems_of_firstChains (.ofBinding .http) crossed
  constructor
  · refine (specified.2.1 _).2 ⟨[⟨⟨"flavours"⟩, "", true, ⟨1⟩⟩], ?_, ?_⟩
    · decide +kernel
    · decide +kernel
  · refine specified.2.2.2 _ [⟨⟨"nodes"⟩, "", false, ⟨7⟩⟩] ?_ ?_
    · decide +kernel
    · decide +kernel

end VersionedApi.OpenApi
