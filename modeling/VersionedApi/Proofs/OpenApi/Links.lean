import VersionedApi.Proofs.Description.WellFormed
import VersionedApi.Proofs.OpenApi.Rules
import VersionedApi.Proofs.Text.Casing

/-!
# Links to schemas

Every link in a document leads to a schema of the same document.  Links are
written in one place and schemas in another that leaves types out, so the proof
follows a rule through all parts of a document: a field called `$ref` holds a
link to a schema that is there.
-/

namespace VersionedApi.OpenApi

open VersionedApi.Document VersionedApi.Model

variable {conventions : Conventions} {version : Version}

/-! ## Standard conventions -/

theorem ne_ref_of_plain {key : String} (plain : ∀ c ∈ key.toList, c = '_' ∨ Text.IsPlain c) :
    key ≠ "$ref" := by
  rintro rfl
  have dollar : '$' = '_' ∨ Text.IsPlain '$' := plain '$' (by decide +kernel)
  revert dollar
  unfold Text.IsPlain
  decide

theorem ne_ref_of_head? {key : String} {c : Char} (head : key.toList.head? = some c)
    (unlike : c ≠ '$') : key ≠ "$ref" := by
  rintro rfl
  have dollar : "$ref".toList.head? = some '$' := by decide +kernel
  exact unlike (Option.some.inj (head.symm.trans dollar))

theorem snake_ne_ref {name : Name} (spelled : name.Spelled) : name.snake ≠ "$ref" := by
  obtain ⟨text, rfl⟩ := spelled
  refine ne_ref_of_plain fun c member => ?_
  rw [Name.toList_snake_ofText] at member
  exact Text.isPlain_of_mem_snakeCase member

theorem pascal_ne_ref (name : Name) : name.pascal ≠ "$ref" := by
  refine ne_ref_of_plain fun c member => ?_
  rw [Name.pascal, String.toList_ofList] at member
  exact .inr (Text.isPlain_of_mem_pascalCase member)

theorem absolutePath_ne_ref (version : Version) (path : Path) :
    version.absolutePath path ≠ "$ref" := by
  have root := head?_append (show "/api/".toList.head? = some '/' by decide +kernel)
  refine ne_ref_of_head? (c := '/') ?_ (by decide)
  exact head?_append (head?_append (head?_append (head?_append (root _) _) _) _) _

/-- Under the standard conventions nothing but a link is called `$ref`. -/
theorem ne_ref_of_chosen (wellFormed : version.WellFormed) {key : String}
    (choice : Chosen (.ofBinding .http) version key) : key ≠ "$ref" := by
  cases choice with
  | schema declared => exact pascal_ne_ref _
  | property declared member => exact snake_ne_ref (wellFormed.attributes _ declared _ member).1
  | path path => exact absolutePath_ne_ref version path
  | verb method =>
      have verbs : ∀ kind, Text.lowercaseText (Binding.httpVerb kind) ≠ "$ref" := by
        intro kind
        cases kind <;> decide +kernel
      exact verbs method.kind
  | status method =>
      have statuses : ∀ kind, Binding.httpStatus kind ≠ "$ref" := by
        intro kind
        cases kind <;> decide
      exact statuses method.kind
  | parameter declared offered returned =>
      exact snake_ne_ref
        (wellFormed.parameters _ declared _ offered _ (List.mem_filter.1 returned).1).1

/-! ## Documents -/

def document (conventions : Conventions) (version : Version) : Node :=
  .object (build (specification conventions version).steps)

def LinksInto (document value : Node) : Prop :=
  ∃ schemas name, document.pointer? ["components", "schemas"] = some (.object schemas) ∧
    name ∈ Fields.keys schemas ∧ value = .text ("#/components/schemas/" ++ name)

theorem pointer?_document (conventions : Conventions) (version : Version) :
    (document conventions version).pointer? ["components", "schemas"] =
      some (.object (build (schemas conventions version).steps)) := by
  have components : Fields.get? (build (specification conventions version).steps) "components" =
      some (.object (build [.object "schemas" (schemas conventions version).steps])) := by
    refine get?_build_object
      (Draft.text "openapi" formatVersion ++ info version ++ servers ++
        Draft.object "paths" (pathItems conventions version)).steps security.steps ?_ ?_
    · simp [FieldStep.key?, Draft.text, Draft.object, info, servers, Draft.array]
    · simp [FieldStep.key?, security, Draft.array]
  have schemas : Fields.get? (build [.object "schemas" (schemas conventions version).steps])
      "schemas" = some (.object (build (schemas conventions version).steps)) :=
    get?_build_object [] [] (List.forall_mem_nil _) (List.forall_mem_nil _)
  rw [document, Node.pointer?_object components, Node.pointer?_object schemas, Node.pointer?]

/-- The items of a document stand under its paths. -/
theorem pointer?_document_paths (conventions : Conventions) (version : Version) :
    (document conventions version).pointer? ["paths"] =
      some (.object (build (pathItems conventions version).steps)) := by
  have paths : Fields.get? (build (specification conventions version).steps) "paths" =
      some (.object (build (pathItems conventions version).steps)) := by
    have shape : (specification conventions version).steps =
        (Draft.text "openapi" formatVersion ++ info version ++ servers).steps ++
          .object "paths" (pathItems conventions version).steps ::
          (Draft.object "components" (Draft.object "schemas" (schemas conventions version)) ++
            security).steps := rfl
    rw [shape]
    refine get?_build_object _ _ ?_ ?_
    · simp [FieldStep.key?, Draft.text, Draft.object, info, servers, Draft.array]
    · simp [FieldStep.key?, security, Draft.object, Draft.array]
  rw [document, Node.pointer?_object paths, Node.pointer?]

theorem linksInto_document {name : String} (defined : name ∈ schemaNames conventions version) :
    LinksInto (document conventions version) (.text (schemaRoot ++ name)) :=
  ⟨_, name, pointer?_document conventions version, defined, rfl⟩

/--
Every field called `$ref` in the document of a loaded version links to a schema
of the document.  Under other conventions the same holds of every such field
that holds a text.
-/
theorem document_links_resolve {description : Description.ModelDescription} {model : ApiModel}
    (loaded : description.load = .ok model) {version : Version}
    (member : version ∈ model.versions) :
    (∀ value, Occurs "$ref" value (document (.ofBinding .http) version) →
      LinksInto (document (.ofBinding .http) version) value) ∧
    ∀ (conventions : Conventions) (text : String),
      Occurs "$ref" (.text text) (document conventions version) →
        LinksInto (document conventions version) (.text text) := by
  have wellFormed := Description.load_wellFormed loaded member
  constructor
  · have admits : Admits (fun key value => key = "$ref" →
        LinksInto (document (.ofBinding .http) version) value) (.ofBinding .http) version := {
      fixed := fun unlike same => absurd same unlike
      link := fun defined _ => linksInto_document defined
      chosen := fun choice _ same => absurd same (ne_ref_of_chosen wellFormed choice) }
    intro value occurs
    exact obeys_build (obeys_specification admits) _ _ occurs rfl
  · intro conventions text occurs
    have admits : Admits (fun key value => key = "$ref" → ∀ text, value = .text text →
        LinksInto (document conventions version) value) conventions version := {
      fixed := fun unlike same => absurd same unlike
      link := fun defined _ _ _ => linksInto_document defined
      chosen := fun _ _ _ _ same => nomatch same }
    exact obeys_build (obeys_specification admits) _ _ occurs rfl text rfl

/--
An enum that takes the name of the schema of errors, two structs whose schemas
have one name, and references to all of them.
-/
def clashing : Description.ModelDescription where
  services := [
    { name := "clusters_mgmt"
      versions := [
        { name := "v1"
          types := [
            { name := "Error", form := .enum, values := [{ name := "fatal" }] },
            { name := "Foo1", form := .struct
              attributes := [{ name := "cause", type := "map[string][]Error" }] },
            { name := "Foo_1", form := .identified
              attributes := [{ name := "twin", type := "Foo1" }] }]
          resources := [
            { name := "root", locators := [{ name := "foos", target := "Foos" }] },
            { name := "Foos"
              methods := [
                { name := "list"
                  parameters := [
                    { name := "items", type := "[]Foo_1", direction := .outbound },
                    { name := "errors", type := "[]Error", direction := .both }] }] }] }] }]

def belowSchemas? (document : Node) (keys : List String) : Option Node :=
  document.pointer? ("components" :: "schemas" :: keys)

theorem document_links_resolve_clashing : ∃ model version, clashing.load = .ok model ∧
    version ∈ model.versions ∧
    let document := document (.ofBinding .http) version
    (∀ value, Occurs "$ref" value document → LinksInto document value) ∧
    Occurs "$ref" (.text "#/components/schemas/Foo1") document ∧
    ((belowSchemas? document ["Foo1", "properties"]).bind Node.asObject?).map Fields.keys =
      some ["cause", "kind", "id", "href", "twin"] ∧
    Occurs "$ref" (.text "#/components/schemas/Error") document ∧
    (belowSchemas? document ["Error", "type"]).bind Node.asText? = some "object" := by
  obtain ⟨model, loaded, shape⟩ := Description.exists_eq_ok_of_any
    (show clashing.load.toOption.any (fun model =>
      model.versions.map (fun version =>
        let document := document (.ofBinding .http) version
        ((belowSchemas? document ["Foo1", "properties", "twin", "$ref"]).bind Node.asText?,
          ((belowSchemas? document ["Foo1", "properties"]).bind Node.asObject?).map Fields.keys,
          (belowSchemas? document ["Foo1", "properties", "cause", "additionalProperties", "items",
            "$ref"]).bind Node.asText?,
          (belowSchemas? document ["Error", "type"]).bind Node.asText?)) ==
        [(some "#/components/schemas/Foo1", some ["cause", "kind", "id", "href", "twin"],
          some "#/components/schemas/Error", some "object")]) by decide +kernel)
  rw [beq_iff_eq] at shape
  obtain ⟨version, versions⟩ := List.length_eq_one_iff.1
    (by simpa using congrArg List.length shape)
  rw [versions, List.map_singleton, List.singleton_inj] at shape
  obtain ⟨twin, properties, cause, type⟩ := by simpa only [Prod.mk.injEq] using shape
  have member : version ∈ model.versions := by simp [versions]
  refine ⟨model, version, loaded, member, (document_links_resolve loaded member).1, ?_, properties,
    ?_, type⟩
  · exact Node.occurs_of_pointer? ["components", "schemas", "Foo1", "properties", "twin"] "$ref"
      (Node.bind_asText?_eq_some_iff.1 twin)
  · exact Node.occurs_of_pointer? ["components", "schemas", "Foo1", "properties", "cause",
      "additionalProperties", "items"] "$ref" (Node.bind_asText?_eq_some_iff.1 cause)

end VersionedApi.OpenApi
