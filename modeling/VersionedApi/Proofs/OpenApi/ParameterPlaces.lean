import VersionedApi.Proofs.OpenApi.OperationShape

/-!
# Places of parameters

A parameter that is sent with a request travels in the query string or in the
body, never in both.  All parameters of a request without a body travel in the
query string; of any other those do that are primitives or enums.  A value of any
shape goes with them: it is built in like the primitives, and counts as a scalar.
-/

namespace VersionedApi.OpenApi

open VersionedApi.Document VersionedApi.Model

/-! ## Names and places of entries -/

def nameAndPlace (entry : Node) : Option String × Option String :=
  (entry.textAt? "name", entry.textAt? "in")

section Entries

variable (conventions : Conventions) (version : Version)

theorem nameAndPlace_variableNode (locator : Locator) :
    nameAndPlace (variableNode conventions locator) =
      (some (conventions.binding.segment locator ++ "_id"), some "path") := rfl

theorem nameAndPlace_queryNode (parameter : Parameter) :
    nameAndPlace (queryNode conventions version parameter) =
      (some (conventions.binding.parameterName parameter), some "query") := by
  unfold queryNode docFields
  split <;> rfl

/-- The entries in the query string are those of the parameters that the binding sends there. -/
theorem filter_query_parameterNodes (path : Path) (method : Method) :
    (parameterNodes conventions version path method).filter
        (fun entry => entry.textAt? "in" = some "query") =
      (conventions.binding.query version method).map (queryNode conventions version) := by
  have elsewhere : ∀ entry ∈ (path.filter (·.isVariable)).map (variableNode conventions),
      entry.textAt? "in" ≠ some "query" := by
    intro entry member
    obtain ⟨locator, -, rfl⟩ := List.mem_map.1 member
    exact ne_of_eq_of_ne (congrArg Prod.snd (nameAndPlace_variableNode conventions locator))
      (show some "path" ≠ some "query" by decide)
  have here : ∀ entry ∈ (conventions.binding.query version method).map
      (queryNode conventions version), entry.textAt? "in" = some "query" := by
    intro entry member
    obtain ⟨parameter, -, rfl⟩ := List.mem_map.1 member
    exact congrArg Prod.snd (nameAndPlace_queryNode conventions version parameter)
  rw [parameterNodes, List.filter_append, List.filter_eq_nil_iff.2 (by simpa using elsewhere),
    List.filter_eq_self.2 (by simpa using here), List.nil_append]

end Entries

/-! ## Kinds that fit into a query string -/

/-- A value of the kind is a word: that of a primitive or of an enum. -/
def isWord : TypeKind → Bool
  | .primitive _ | .enum _ => true
  | .interface | .struct _ _ | .list _ | .map _ => false

/-- A value of the kind is a word or of any shape. -/
def isWordOrShapeless (kind : TypeKind) : Bool :=
  isWord kind || kind == .interface

theorem isScalar_eq (kind : TypeKind) : kind.isScalar = isWordOrShapeless kind := by
  cases kind <;> rfl

def isBodiless (method : Method) : Bool :=
  method.kind ∈ [.get, .list, .delete]

/-- The parameter goes to the query string if the kinds that `fits` admits do. -/
def goesToQuery (fits : TypeKind → Bool) (version : Version) (method : Method)
    (parameter : Parameter) : Bool :=
  isBodiless method || (version.type? parameter.type).any fun type => fits type.kind

def sent (method : Method) : List Parameter :=
  method.parameters.filter (·.direction ∈ [.inbound, .both])

def returned (method : Method) : List Parameter :=
  method.parameters.filter (·.direction ∈ [.outbound, .both])

/-! ## Where parameters travel -/

/-- The parameters of a method travel over HTTP as the kinds that `fits` admits decide. -/
structure Travels (fits : TypeKind → Bool) (naming : Naming) (version : Version) (path : Path)
    (method : Method) : Prop where
  /-- The entries of an operation in the query string are those parameters, in their order. -/
  entries : ∃ verb fields entries,
    build (operation ⟨naming, .http⟩ version path method).steps = [(verb, .object fields)] ∧
      Fields.get? fields "parameters" = some (.array entries) ∧
      entries.filter (fun entry => entry.textAt? "in" = some "query") =
        ((sent method).filter (goesToQuery fits version method)).map
          (queryNode ⟨naming, .http⟩ version)
  query : Binding.http.query version method =
    (sent method).filter (goesToQuery fits version method)
  body : Binding.http.body version method =
    (sent method).filter fun parameter => !goesToQuery fits version method parameter
  /-- A parameter that is sent travels in one place. -/
  apart : ∀ parameter ∈ sent method,
    parameter ∈ Binding.http.query version method ↔
      parameter ∉ Binding.http.body version method
  response : Binding.http.response method = returned method

/-- Only the parameters that are sent matter to where they travel. -/
theorem Travels.congr {fits others : TypeKind → Bool} {naming : Naming} {version : Version}
    {path : Path} {method : Method} (travels : Travels fits naming version path method)
    (agree : ∀ parameter ∈ sent method,
      goesToQuery fits version method parameter = goesToQuery others version method parameter) :
    Travels others naming version path method where
  entries := by
    rw [← List.filter_congr agree]
    exact travels.entries
  query := by rw [travels.query, List.filter_congr agree]
  body := by
    rw [travels.body]
    exact List.filter_congr fun parameter member => congrArg (!·) (agree parameter member)
  apart := travels.apart
  response := travels.response

/-! ## The binding of a REST service -/

theorem isInbound_eq (direction : Direction) :
    direction.isInbound = decide (direction ∈ [Direction.inbound, .both]) := by
  cases direction <;> rfl

theorem isOutbound_eq (direction : Direction) :
    direction.isOutbound = decide (direction ∈ [Direction.outbound, .both]) := by
  cases direction <;> rfl

theorem not_hasBody_eq (method : Method) : (!Binding.hasBody method.kind) = isBodiless method := by
  unfold isBodiless
  cases method.kind <;> rfl

/-- The binding sends in the query string what `goesToQuery` tells. -/
theorem inQuery_eq (version : Version) (method : Method) (parameter : Parameter) :
    (!Binding.hasBody method.kind || Binding.isScalar version parameter) =
      goesToQuery isWordOrShapeless version method parameter := by
  simp only [not_hasBody_eq, Binding.isScalar, isScalar_eq, goesToQuery]

theorem http_query (version : Version) (method : Method) :
    Binding.http.query version method =
      (sent method).filter (goesToQuery isWordOrShapeless version method) := by
  rw [sent, List.filter_filter]
  refine List.filter_congr fun parameter _ => ?_
  rw [inQuery_eq, isInbound_eq, Bool.and_comm]

theorem http_body (version : Version) (method : Method) :
    Binding.http.body version method = (sent method).filter fun parameter =>
      !goesToQuery isWordOrShapeless version method parameter := by
  rw [sent, List.filter_filter]
  refine List.filter_congr fun parameter _ => ?_
  rw [← inQuery_eq, ← isInbound_eq]
  cases parameter.direction.isInbound <;> cases Binding.hasBody method.kind <;>
    cases Binding.isScalar version parameter <;> rfl

theorem travels_http (naming : Naming) (version : Version) (path : Path) (method : Method) :
    Travels isWordOrShapeless naming version path method where
  entries := by
    refine ⟨_, _, _, rfl, get?_parameters ⟨naming, .http⟩ version path method, ?_⟩
    rw [entries_eq_parameterNodes, filter_query_parameterNodes, ← http_query]
  query := http_query version method
  body := http_body version method
  apart := by
    intro parameter member
    rw [http_query, http_body]
    simp [List.mem_filter, member]
  response := List.filter_congr fun parameter _ => isOutbound_eq parameter.direction

/--
Over HTTP the parameters of a request without a body travel in the query string.
Those of any other request do if they are primitives, enums or values of any shape,
and the others make its body.  So the words alone decide about the place exactly
if no value of any shape is sent with a request that has a body.
-/
theorem parameters_travel (naming : Naming) (version : Version) (path : Path) (method : Method) :
    Travels isWordOrShapeless naming version path method ∧
      (Travels isWord naming version path method ↔
        method.kind ∈ [.get, .list, .delete] ∨ ∀ parameter ∈ sent method, ∀ type,
          version.type? parameter.type = some type → type.kind ≠ .interface) := by
  have travels := travels_http naming version path method
  refine ⟨travels, ?_, ?_⟩
  · intro words
    by_contra shapeless
    push Not at shapeless
    obtain ⟨bodied, parameter, member, type, found, kind⟩ := shapeless
    have inQuery : parameter ∈ Binding.http.query version method := by
      rw [travels.query, List.mem_filter]
      exact ⟨member, by simp [goesToQuery, found, kind, isWordOrShapeless]⟩
    rw [words.query, List.mem_filter] at inQuery
    have outside : isBodiless method = false := by simpa [isBodiless] using bodied
    simp [goesToQuery, outside, found, kind, isWord] at inQuery
  · intro shaped
    refine travels.congr fun parameter member => ?_
    rcases shaped with bodiless | shaped
    · have inside : isBodiless method := by simpa [isBodiless] using bodiless
      simp [goesToQuery, inside]
    · unfold goesToQuery
      cases found : version.type? parameter.type with
      | none => rfl
      | some type =>
          have unlike := beq_eq_false_iff_ne.2 (shaped parameter member type found)
          simp [isWordOrShapeless, unlike]

/-- A method that sends a value of any shape. -/
def search : Method where
  name := ⟨"add"⟩
  doc := ""
  parameters := [⟨⟨"filter"⟩, "", .inbound, Version.interface⟩]

/--
A value of any shape is neither a primitive nor an enum, and still it is not sent
in the body of a request that has one.
-/
theorem not_travels_shapeless :
    ¬ Travels isWord .standard (.empty ⟨"clusters_mgmt"⟩ ⟨"v1"⟩)
      [⟨⟨"clusters"⟩, "", false, ⟨0⟩⟩] search := by
  intro travels
  have query := congrArg List.length travels.query
  revert query
  decide +kernel

end VersionedApi.OpenApi
