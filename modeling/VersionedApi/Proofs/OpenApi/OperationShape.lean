import VersionedApi.Proofs.OpenApi.Properties

/-!
# The shape of operations

An operation says what its method is for, which parameters it takes, what its
body holds and how it answers, in this order and with nothing else.  This holds
of every operation in every item, because no operation is opened twice: each is
what one method writes by itself.
-/

namespace VersionedApi.OpenApi

open VersionedApi.Document VersionedApi.Model

/-! ## Parts of an operation -/

def docFields (doc : String) : Fields :=
  if doc = "" then [] else [("description", .text doc)]

def contentField (schema : Fields) : String × Node :=
  ("content", .object [("application/json", .object [("schema", .object schema)])])

variable (conventions : Conventions) (version : Version)

def typeSchemaFields (type : TypeId) : Fields :=
  build (reference conventions.naming version type).steps

def variableNode (locator : Locator) : Node :=
  .object [("name", .text (conventions.binding.segment locator ++ "_id")), ("in", .text "path"),
    ("schema", .object [("type", .text "string")])]

def queryNode (parameter : Parameter) : Node :=
  .object (("name", .text (conventions.binding.parameterName parameter)) ::
    docFields parameter.doc ++
    [("in", .text "query"),
      ("schema", .object (typeSchemaFields conventions version parameter.type))])

/-- What an answer to a request that succeeded holds, given the parameters that it returns. -/
def successFields : List Parameter → Fields
  | [] => [("description", .text "Success.")]
  | [parameter] =>
    [("description", .text "Success."),
      contentField (typeSchemaFields conventions version parameter.type)]
  | several =>
    [("description", .text "Success."),
      contentField [("type", .text "object"),
        ("properties", .object
          (build (Draft.concat (several.map (responseProperty conventions version))).steps))]]

def failureFields : Fields :=
  [("description", .text "Error."),
    contentField [("$ref", .text "#/components/schemas/Error")]]

/-- The parameters of an operation: the variables of its path, then its query string. -/
def parameterNodes (path : Path) (method : Method) : Items :=
  (path.filter (·.isVariable)).map (variableNode conventions) ++
    (conventions.binding.query version method).map (queryNode conventions version)

/-- The body of a request, if it has one: the first of the parameters that are sent in one. -/
def requestFields (method : Method) : Fields :=
  (conventions.binding.body version method).head?.toList.map fun parameter =>
    ("requestBody", .object [contentField (typeSchemaFields conventions version parameter.type)])

def responseFields (method : Method) : Fields :=
  [(conventions.binding.status method,
      .object (successFields conventions version (conventions.binding.response method))),
    ("default", .object failureFields)]

def operationFields (path : Path) (method : Method) : Fields :=
  docFields method.doc ++
    [("parameters", .array (parameterNodes conventions version path method))] ++
    requestFields conventions version method ++
    [("responses", .object (responseFields conventions version method))]

/-- The keys of an operation, in their order. -/
theorem keys_operationFields (path : Path) (method : Method) :
    (operationFields conventions version path method).keys =
      (if method.doc = "" then [] else ["description"]) ++ ["parameters"] ++
        (if conventions.binding.body version method = [] then [] else ["requestBody"]) ++
        ["responses"] := by
  unfold operationFields docFields requestFields
  cases conventions.binding.body version method with
  | nil => split <;> rfl
  | cons parameter others => split <;> rfl

theorem nodup_keys_operationFields (path : Path) (method : Method) :
    (operationFields conventions version path method).keys.Nodup := by
  rw [keys_operationFields]
  split <;> split <;> decide

/-! ## What the parts write -/

theorem apart_description (doc : String) :
    apart (Draft.description doc).steps = docFields doc := by
  unfold Draft.description docFields
  by_cases empty : doc = ""
  · subst empty
    rfl
  · simp only [String.isEmpty_iff, empty, if_false]
    rfl

theorem build_queryEntry (parameter : Parameter) :
    .object (build (queryEntry conventions version parameter).steps) =
      queryNode conventions version parameter := by
  have side : apart (queryEntry conventions version parameter).steps =
      ("name", .text (conventions.binding.parameterName parameter)) ::
        docFields parameter.doc ++
        [("in", .text "query"),
          ("schema", .object (typeSchemaFields conventions version parameter.type))] := by
    rw [queryEntry, Draft.steps_append, Draft.steps_append, Draft.steps_append, apart_append,
      apart_append, apart_append, apart_description, List.append_assoc]
    rfl
  rw [queryNode, build_eq_apart, side]
  rw [side]
  unfold docFields
  split
  · exact (show ["name", "in", "schema"].Nodup by decide)
  · exact (show ["name", "description", "in", "schema"].Nodup by decide)

/-- The entries for variables and for the query are the parameters of an operation. -/
theorem entries_eq_parameterNodes (path : Path) (method : Method) :
    pathEntries conventions path ++ queryEntries conventions version method =
      parameterNodes conventions version path method := by
  have query : queryEntries conventions version method =
      (conventions.binding.query version method).map (queryNode conventions version) :=
    List.map_congr_left fun parameter _ => build_queryEntry conventions version parameter
  rw [query]
  rfl

theorem apart_parameters (path : Path) (method : Method) :
    apart (parameters conventions version path method).steps =
      [("parameters", .array (parameterNodes conventions version path method))] := by
  have items : runItems ((path.filter (·.isVariable)).map (fun locator =>
        .object (pathEntry conventions locator).steps) ++
      (conventions.binding.query version method).map fun parameter =>
        .object (queryEntry conventions version parameter).steps) [] =
      parameterNodes conventions version path method := by
    rw [runItems_append, runItems_objects, runItems_objects, ← entries_eq_parameterNodes]
    rfl
  rw [steps_parameters, ← items]
  rfl

theorem apart_requestBody (method : Method) :
    apart (requestBody conventions version method).steps =
      requestFields conventions version method := by
  unfold requestBody requestFields
  cases conventions.binding.body version method with
  | nil => rfl
  | cons parameter others => rfl

theorem build_success (returned : List Parameter) :
    build (Draft.description "Success." ++ responseBody conventions version returned).steps =
      successFields conventions version returned := by
  match returned with
  | [] => rfl
  | [parameter] => rfl
  | first :: second :: rest => rfl

theorem build_two_objects {key other : String} (different : key ≠ other)
    (first second : Draft FieldStep) :
    build (Draft.object key first ++ Draft.object other second).steps =
      [(key, .object (build first.steps)), (other, .object (build second.steps))] :=
  build_eq_apart (show [key, other].Nodup by simpa using different)

/-- The answers stand side by side unless the one to success is called like the other. -/
theorem apart_responses {method : Method} (status : conventions.binding.status method ≠ "default") :
    apart (responses conventions version method).steps =
      [("responses", .object (responseFields conventions version method))] := by
  rw [responseFields, ← build_success]
  exact congrArg (fun answers => [("responses", Node.object answers)])
    (build_two_objects status _ _)

/-- An operation holds its parts side by side. -/
theorem build_operationBody (path : Path) {method : Method}
    (status : conventions.binding.status method ≠ "default") :
    build (operationBody conventions version path method).steps =
      operationFields conventions version path method := by
  have side : apart (operationBody conventions version path method).steps =
      operationFields conventions version path method := by
    rw [operationBody, Draft.steps_append, Draft.steps_append, Draft.steps_append, apart_append,
      apart_append, apart_append, apart_description, apart_parameters, apart_requestBody,
      apart_responses conventions version status]
    rfl
  rw [build_eq_apart, side]
  rw [side]
  exact nodup_keys_operationFields conventions version path method

/-! ## Every operation -/

/-- An operation has the shape of a method that is reached through a path. -/
structure OperationShape (path : Path) (method : Method) (operation : Fields) : Prop where
  /-- The keys stand in this order, and those of a documentation and a body only if there is one. -/
  keys : operation.keys =
    (if method.doc = "" then [] else ["description"]) ++ ["parameters"] ++
      (if conventions.binding.body version method = [] then [] else ["requestBody"]) ++
      ["responses"]
  description : method.doc ≠ "" → operation.get? "description" = some (.text method.doc)
  /-- One entry per variable of the path, then one per parameter in the query, and no other. -/
  parameters : operation.get? "parameters" =
    some (.array ((path.filter (·.isVariable)).map (variableNode conventions) ++
      (conventions.binding.query version method).map (queryNode conventions version)))
  /-- The first parameter that is sent in the body describes it alone. -/
  requestBody : ∀ parameter others,
    conventions.binding.body version method = parameter :: others →
      operation.get? "requestBody" =
        some (.object [contentField (typeSchemaFields conventions version parameter.type)])
  /-- Two answers, of which the one to success depends on how many parameters it returns. -/
  responses : operation.get? "responses" =
    some (.object [
      (conventions.binding.status method,
        .object (successFields conventions version (conventions.binding.response method))),
      ("default", .object failureFields)])
  statuses : conventions.binding.status method ≠ "default"

theorem operationShape_operationFields (path : Path) {method : Method}
    (status : conventions.binding.status method ≠ "default") :
    OperationShape conventions version path method
      (operationFields conventions version path method) := by
  have distinct := nodup_keys_operationFields conventions version path method
  exact {
    keys := keys_operationFields conventions version path method
    description := fun documented =>
      Fields.get?_of_mem distinct (by simp [operationFields, docFields, documented])
    parameters := Fields.get?_of_mem distinct (by simp [operationFields, parameterNodes])
    requestBody := fun parameter others sent =>
      Fields.get?_of_mem distinct (by simp [operationFields, requestFields, sent])
    responses := Fields.get?_of_mem distinct (by simp [operationFields, responseFields])
    statuses := status }

/-- No status is called like the answer to failures. -/
theorem status_ne_default {binding : Binding}
    (offered : binding ∈ [Binding.http, Binding.dashed, Binding.bodyOnly]) (method : Method) :
    binding.status method ≠ "default" := by
  have http : Binding.httpStatus method.kind ≠ "default" := by
    cases method.kind <;> decide
  simp only [List.mem_cons, List.not_mem_nil, or_false] at offered
  rcases offered with rfl | rfl | rfl
  · exact http
  · exact http
  · exact (show "202" ≠ "default" by decide)

/--
Every operation in the items of a version has the shape of the first method with
its verb, at the end of the first chain that spells the key of its item.
-/
theorem pathItems_shaped (naming : Naming) (version : Version) {binding : Binding}
    (offered : binding ∈ [Binding.http, Binding.dashed, Binding.bodyOnly])
    {key : String} {item : Node}
    (written : (key, item) ∈ build (pathItems ⟨naming, binding⟩ version).steps) :
    ∃ path resource operations, version.firstChain? key = some path ∧
      version.endOf? path = some resource ∧ item = .object operations ∧
      Fields.keys operations =
        (resource.methods.map (operationKey ⟨naming, binding⟩)).eraseDups ∧
      ∀ verb operation, (verb, operation) ∈ operations →
        ∃ method fields,
          resource.methods.find? (operationKey ⟨naming, binding⟩ · = verb) = some method ∧
          operation = .object fields ∧
          OperationShape ⟨naming, binding⟩ version path method fields := by
  rw [build_pathItems] at written
  obtain ⟨⟨⟨key, path⟩, resource⟩, among, ⟨rfl⟩⟩ := List.mem_map.1 written
  obtain ⟨first, ends⟩ := (mem_writingChains_iff version).1 among
  refine ⟨path, resource, _, first, ends, rfl, ?_, ?_⟩
  · have verbs := map_operationKey_leading ⟨naming, binding⟩ [] resource.methods
    rw [build_pathOperations, Fields.keys, List.map_map]
    simpa [Function.comp_def] using verbs
  · intro verb operation member
    rw [build_pathOperations] at member
    obtain ⟨method, leads, ⟨rfl⟩⟩ := List.mem_map.1 member
    have status := status_ne_default offered method
    refine ⟨method, _, ((mem_leading_iff _).1 leads).2, rfl, ?_⟩
    rw [build_operationBody _ _ _ status]
    exact operationShape_operationFields _ _ _ status

/-- A method with parameters in each place, two of them for the body and two for the answer. -/
def enlarge : Method where
  name := ⟨"add"⟩
  doc := "Adds nodes."
  parameters := [
    ⟨⟨"dry_run"⟩, "", .inbound, ⟨0⟩⟩, ⟨⟨"pool"⟩, "", .both, ⟨7⟩⟩, ⟨⟨"hints"⟩, "", .inbound, ⟨8⟩⟩,
    ⟨⟨"total"⟩, "Size.", .outbound, ⟨1⟩⟩]

/-- A version in which a chain with a variable leads to it, and to a method with its verb. -/
def pooled : Version where
  service := ⟨"clusters_mgmt"⟩
  name := ⟨"v1"⟩
  doc := ""
  types := ApiType.builtins ++ [
    ⟨⟨"node_pool"⟩, "", .struct [] true⟩, ⟨⟨"node_pool_list"⟩, "", .list ⟨7⟩⟩]
  resources := [
    { name := ⟨"root"⟩, doc := "", methods := [], locators := [⟨⟨"node_pool"⟩, "", true, ⟨1⟩⟩] },
    { name := ⟨"pool"⟩, doc := "", methods := [enlarge, ⟨⟨"post"⟩, "", []⟩], locators := [] }]
  root := some ⟨0⟩

theorem pathItems_shaped_pooled :
    Binding.dashed ∈ [Binding.http, Binding.dashed, Binding.bodyOnly] ∧
    ∃ operations fields : Fields,
      ("/api/clusters_mgmt/v1/\x7bnode_pool_id\x7d", .object operations) ∈
        build (pathItems ⟨.standard, .dashed⟩ pooled).steps ∧
      Fields.keys operations = ["post"] ∧ ("post", .object fields) ∈ operations ∧
      fields.keys = ["description", "parameters", "requestBody", "responses"] ∧
      fields.get? "parameters" = some (.array [
        .object [("name", .text "node-pool_id"), ("in", .text "path"),
          ("schema", .object [("type", .text "string")])],
        .object [("name", .text "dry_run"), ("in", .text "query"),
          ("schema", .object [("type", .text "boolean")])]]) ∧
      fields.get? "requestBody" = some (.object [contentField
        [("$ref", .text "#/components/schemas/NodePool")]]) := by
  have offered : Binding.dashed ∈ [Binding.http, Binding.dashed, Binding.bodyOnly] := by simp
  have first : pooled.firstChain? "/api/clusters_mgmt/v1/\x7bnode_pool_id\x7d" =
      some [⟨⟨"node_pool"⟩, "", true, ⟨1⟩⟩] := by decide +kernel
  have written := mem_pathItems ⟨.standard, .dashed⟩ first rfl
  obtain ⟨path, resource, operations, again, ends, same, keys, shaped⟩ :=
    pathItems_shaped .standard pooled offered written
  obtain rfl := Option.some.inj (first.symm.trans again)
  obtain rfl := Option.some.inj ends
  obtain rfl := Node.object.inj same
  have verb : operationKey ⟨.standard, .dashed⟩ enlarge = "post" := by decide +kernel
  have member := mem_pathOperations pooled
    "/api/clusters_mgmt/v1/\x7bnode_pool_id\x7d" [⟨⟨"node_pool"⟩, "", true, ⟨1⟩⟩]
    (show enlarge ∈ leading ⟨.standard, .dashed⟩ [] [enlarge, ⟨⟨"post"⟩, "", []⟩] from
      List.mem_cons_self)
  rw [verb] at member
  obtain ⟨method, fields, leads, ⟨rfl⟩, shape⟩ := shaped _ _ member
  obtain rfl : enlarge = method := by
    refine Option.some.inj (Eq.trans ?_ leads)
    decide +kernel
  refine ⟨offered, _, _, written, keys.trans ?_, member, shape.keys.trans ?_,
    shape.parameters.trans ?_, (shape.requestBody _ _ rfl).trans ?_⟩
  · decide +kernel
  · rfl
  · rfl
  · rfl

end VersionedApi.OpenApi
