import VersionedApi.Proofs.Model.Spelling
import VersionedApi.Proofs.OpenApi.Operations

/-!
# Path templates

The key of an item is a template: what stands between braces in it is the name
of a parameter in the path.  Reading a key back gives the names that the
operations of the item declare, because no name that a text spells holds a brace.
-/

namespace VersionedApi.OpenApi

open VersionedApi.Document VersionedApi.Model

/-! ## Reading a template -/

/--
The texts between braces, from left to right.  `held` is what was read since an
opening brace, last first.
-/
def bracedTexts : Option (List Char) → List Char → List (List Char)
  | _, [] => []
  | none, c :: rest => bracedTexts (if c = '\x7b' then some [] else none) rest
  | some held, c :: rest =>
    if c = '\x7d' then held.reverse :: bracedTexts none rest
    else bracedTexts (some (c :: held)) rest

def placeholders (key : String) : List String :=
  (bracedTexts none key.toList).map String.ofList

/-- What holds no opening brace is passed over. -/
theorem bracedTexts_append {text : List Char} (plain : '\x7b' ∉ text) (rest : List Char) :
    bracedTexts none (text ++ rest) = bracedTexts none rest := by
  induction text with
  | nil => rfl
  | cons c text ih =>
      obtain ⟨different, later⟩ := not_or.1 (mt List.mem_cons.2 plain)
      rw [List.cons_append, bracedTexts, if_neg (Ne.symm different), ih later]

/-- What stands before a closing brace is held. -/
theorem bracedTexts_held {text : List Char} (plain : '\x7d' ∉ text) (held rest : List Char) :
    bracedTexts (some held) (text ++ '\x7d' :: rest) =
      (held.reverse ++ text) :: bracedTexts none rest := by
  induction text generalizing held with
  | nil => simp [bracedTexts]
  | cons c text ih =>
      obtain ⟨different, later⟩ := not_or.1 (mt List.mem_cons.2 plain)
      rw [List.cons_append, bracedTexts, if_neg (Ne.symm different), ih later]
      simp

theorem bracedTexts_braced {text : List Char} (plain : '\x7d' ∉ text) (rest : List Char) :
    bracedTexts none ('\x7b' :: text ++ '\x7d' :: rest) = text :: bracedTexts none rest := by
  rw [List.cons_append, bracedTexts, if_pos rfl, bracedTexts_held plain]
  rfl

/-! ## Reading an absolute path -/

def variableName (locator : Locator) : String :=
  locator.name.snake ++ "_id"

/-- A segment reads as its variable, if it has one, whatever follows. -/
theorem bracedTexts_segment {locator : Locator} (spelled : locator.name.Spelled)
    (rest : List Char) :
    bracedTexts none ((Version.segment locator).toList ++ rest) =
      ((if locator.isVariable then [variableName locator] else []).map String.toList) ++
        bracedTexts none rest := by
  unfold Version.segment
  split
  · have closed : '\x7d' ∉ (variableName locator).toList := by
      have suffix : '\x7d' ∉ "_id".toList := by decide
      have name := Name.not_mem_snake spelled (c := '\x7d') (by decide) (by decide)
      rw [variableName, String.toList_append, List.mem_append]
      exact not_or.2 ⟨name, suffix⟩
    have shape : ("\x7b" ++ locator.name.snake ++ "_id\x7d").toList ++ rest =
        '\x7b' :: (variableName locator).toList ++ '\x7d' :: rest := by
      simp [variableName]
    rw [shape, bracedTexts_braced closed]
    rfl
  · exact bracedTexts_append (Name.not_mem_snake spelled (by decide) (by decide)) rest

theorem bracedTexts_segments {path : Path} (spelled : ∀ locator ∈ path, locator.name.Spelled) :
    bracedTexts none (List.intercalate ['/'] (path.map fun locator =>
      (Version.segment locator).toList)) =
      ((path.filter (·.isVariable)).map variableName).map String.toList := by
  induction path with
  | nil => rfl
  | cons locator path ih =>
      obtain ⟨first, others⟩ := List.forall_mem_cons.1 spelled
      -- The slash before the segments that follow is no part of them.
      have later : bracedTexts none (List.intercalate ['/'] ((locator :: path).map fun locator =>
          (Version.segment locator).toList)) =
            ((if locator.isVariable then [variableName locator] else []).map String.toList) ++
              bracedTexts none (List.intercalate ['/'] (path.map fun locator =>
                (Version.segment locator).toList)) := by
        cases path with
        | nil =>
            have alone := bracedTexts_segment first []
            rw [List.append_nil] at alone
            simpa using alone
        | cons next path =>
            rw [List.map_cons, List.map_cons, List.intercalate_cons_cons, List.append_assoc,
              bracedTexts_segment first, bracedTexts_append (by decide)]
      rw [later, ih others, List.filter_cons]
      split <;> rfl

/-- An absolute path has a placeholder for each variable of its chain. -/
theorem placeholders_absolutePath {version : Version} (spelled : version.Spelled) {path : Path}
    (listed : path ∈ version.paths) :
    placeholders (version.absolutePath path) =
      (path.filter (·.isVariable)).map variableName := by
  have names : ∀ locator ∈ path, locator.name.Spelled := by
    intro locator member
    obtain ⟨resource, declared, offered⟩ := Version.declared_of_mem_paths listed locator member
    exact spelled.locators resource declared locator offered
  have service : '\x7b' ∉ version.service.snake.toList :=
    Name.not_mem_snake spelled.service (by decide) (by decide)
  have name : '\x7b' ∉ version.name.snake.toList :=
    Name.not_mem_snake spelled.name (by decide) (by decide)
  have front : '\x7b' ∉
      ("/api/" ++ version.service.snake ++ "/" ++ version.name.snake ++ "/").toList := by
    simp [service, name]
  rw [placeholders, Version.absolutePath, String.toList_append, bracedTexts_append front,
    String.toList_intercalate, List.map_map]
  exact (congrArg (List.map String.ofList) (bracedTexts_segments names)).trans (by simp)

/-! ## Entries -/

variable {conventions : Conventions} {version : Version}

theorem textAt?_in_of_mem_pathEntries {path : Path} :
    ∀ entry ∈ pathEntries conventions path, entry.textAt? "in" = some "path" := by
  intro entry member
  obtain ⟨locator, -, rfl⟩ := List.mem_map.1 member
  rfl

/-- The entries for the variables have their names, in order. -/
theorem map_name_pathEntries (path : Path) :
    (pathEntries conventions path).map (·.textAt? "name") =
      (path.filter (·.isVariable)).map fun locator =>
        some (pathParameterName conventions locator) := by
  rw [pathEntries, List.map_map]
  rfl

theorem textAt?_in_of_mem_queryEntries {method : Method} :
    ∀ entry ∈ queryEntries conventions version method, entry.textAt? "in" = some "query" := by
  intro entry member
  obtain ⟨parameter, -, rfl⟩ := List.mem_map.1 member
  have alone : Fields.get? (build (queryEntry conventions version parameter).steps) "in" =
      some (.text "query") := by
    rw [queryEntry, Draft.steps_append, Draft.steps_append, List.append_assoc]
    refine get?_build_alone _ _ ?_ ?_
    · intro step member
      rcases List.mem_append.1 member with name | description
      · obtain rfl := List.mem_singleton.1 name
        exact (show some "name" ≠ some "in" by decide)
      · rw [key?_of_mem_description description]
        decide
    · intro step member
      obtain rfl := List.mem_singleton.1 member
      exact (show some "schema" ≠ some "in" by decide)
  rw [Node.textAt?, Node.pointer?_object alone]
  rfl

/-! ## Templates and parameters -/

def namesSentIn (place : String) (entries : Items) : List (Option String) :=
  (entries.filter fun entry => entry.textAt? "in" = some place).map (·.textAt? "name")

theorem namesSentIn_append {place : String} {front back : Items}
    (here : ∀ entry ∈ front, entry.textAt? "in" = some place)
    (elsewhere : ∀ entry ∈ back, entry.textAt? "in" ≠ some place) :
    namesSentIn place (front ++ back) = front.map (·.textAt? "name") := by
  rw [namesSentIn, List.filter_append, List.filter_eq_self.2 (by simpa using here),
    List.filter_eq_nil_iff.2 (by simpa using elsewhere), List.append_nil]

/--
The key of an item and the operations in it agree on the parameters in the path.
Every chain that spells the key has as many variables as the key placeholders,
and every operation declares them in their order, before those in the query.
-/
theorem pathItems_templates {version : Version} (spelled : version.Spelled) (naming : Naming)
    {key : String} {item : Node}
    (written : (key, item) ∈ build (pathItems ⟨naming, .http⟩ version).steps) :
    (∃ path ∈ version.paths, version.absolutePath path = key) ∧
    (∀ path ∈ version.paths, version.absolutePath path = key →
      (placeholders key).length = (path.filter (·.isVariable)).length) ∧
    ∃ operations, item = .object operations ∧
      ∀ verb operation, (verb, operation) ∈ operations →
        ∃ front back, operation.pointer? ["parameters"] = some (.array (front ++ back)) ∧
          (∀ entry ∈ front, entry.textAt? "in" = some "path") ∧
          (∀ entry ∈ back, entry.textAt? "in" = some "query") ∧
          namesSentIn "path" (front ++ back) = (placeholders key).map some := by
  rw [build_pathItems] at written
  obtain ⟨⟨⟨_, path⟩, resource⟩, among, same⟩ := List.mem_map.1 written
  obtain ⟨rfl, rfl⟩ := Prod.mk.inj same
  obtain ⟨first, -⟩ := (mem_writingChains_iff version).1 among
  have listed := Version.mem_paths_of_firstChain? first
  have template := placeholders_absolutePath spelled listed
  rw [Version.absolutePath_of_firstChain? first] at template
  refine ⟨⟨path, listed, Version.absolutePath_of_firstChain? first⟩, ?_, _, rfl, ?_⟩
  · rintro other listedOther rfl
    rw [placeholders_absolutePath spelled listedOther, List.length_map]
  · intro verb operation member
    rw [build_pathOperations] at member
    obtain ⟨method, -, same⟩ := List.mem_map.1 member
    obtain ⟨-, rfl⟩ := Prod.mk.inj same
    have elsewhere : ∀ entry ∈ queryEntries ⟨naming, .http⟩ version method,
        entry.textAt? "in" ≠ some "path" := by
      intro entry among
      rw [textAt?_in_of_mem_queryEntries entry among]
      decide
    refine ⟨pathEntries ⟨naming, .http⟩ path, queryEntries ⟨naming, .http⟩ version method, ?_,
      textAt?_in_of_mem_pathEntries, textAt?_in_of_mem_queryEntries, ?_⟩
    · rw [Node.pointer?_object (get?_parameters ⟨naming, .http⟩ version path method)]
      rfl
    · rw [namesSentIn_append textAt?_in_of_mem_pathEntries elsewhere, map_name_pathEntries,
        template, List.map_map]
      rfl

/-- A method with a parameter in the query, whose name is made from braces as well. -/
def fetch : Method where
  name := .ofText "get"
  doc := ""
  parameters := [⟨.ofText "\x7bfields\x7d", "", .inbound, ⟨0⟩⟩]

/-- A version whose names are made from braces and slashes, or from nothing. -/
def braced : Version where
  service := .ofText "\x7bclusters\x7d/mgmt"
  name := .ofText ""
  doc := ""
  types := ApiType.builtins
  resources := [
    { name := .ofText "root", doc := "", methods := []
      locators := [⟨.ofText "/clusters\x7b\x7d", "", false, ⟨1⟩⟩] },
    { name := .ofText "clusters", doc := "", methods := []
      locators := [⟨.ofText "\x7bcluster\x7d/id", "", true, ⟨2⟩⟩] },
    { name := .ofText "cluster", doc := "", methods := []
      locators := [⟨.ofText "", "", true, ⟨3⟩⟩] },
    { name := .ofText "node", doc := "", methods := [fetch], locators := [] }]
  root := some ⟨0⟩

/-- The longest chain in it. -/
def bracedChain : Path :=
  [⟨.ofText "/clusters\x7b\x7d", "", false, ⟨1⟩⟩, ⟨.ofText "\x7bcluster\x7d/id", "", true, ⟨2⟩⟩,
    ⟨.ofText "", "", true, ⟨3⟩⟩]

theorem spelled_braced : braced.Spelled where
  service := ⟨_, rfl⟩
  name := ⟨_, rfl⟩
  locators := by
    simp only [braced, List.forall_mem_cons, List.not_mem_nil, IsEmpty.forall_iff,
      implies_true, and_true]
    exact ⟨⟨_, rfl⟩, ⟨_, rfl⟩, ⟨_, rfl⟩⟩

theorem pathItems_templates_braced : braced.Spelled ∧ ∃ operations,
    ("/api/clusters_mgmt//clusters/\x7bcluster_id_id\x7d/\x7b_id\x7d", .object operations) ∈
      build (pathItems ⟨.standard, .http⟩ braced).steps ∧
    ∃ operation, ("get", operation) ∈ operations ∧
      ∃ entries, operation.pointer? ["parameters"] = some (.array entries) ∧
        namesSentIn "path" entries = [some "cluster_id_id", some "_id"] := by
  have first : braced.firstChain?
      "/api/clusters_mgmt//clusters/\x7bcluster_id_id\x7d/\x7b_id\x7d" = some bracedChain := by
    decide +kernel
  have written := mem_pathItems ⟨.standard, .http⟩ first rfl
  have verb : operationKey ⟨.standard, .http⟩ fetch = "get" := by decide +kernel
  have member := mem_pathOperations braced
    "/api/clusters_mgmt//clusters/\x7bcluster_id_id\x7d/\x7b_id\x7d" bracedChain
    (show fetch ∈ leading ⟨.standard, .http⟩ [] [fetch] from List.mem_cons_self)
  rw [verb] at member
  obtain ⟨-, -, operations, same, agree⟩ :=
    pathItems_templates spelled_braced .standard written
  obtain rfl := Node.object.inj same
  obtain ⟨front, back, pointed, -, -, names⟩ := agree _ _ member
  refine ⟨spelled_braced, _, written, _, member, _, pointed, names.trans ?_⟩
  decide +kernel

end VersionedApi.OpenApi
