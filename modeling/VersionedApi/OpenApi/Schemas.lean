import VersionedApi.OpenApi.Reference

/-!
# Schemas

Every enum and struct of a version has a schema, in the order of the types,
and after them comes the schema of errors.  A type whose schema would have the
name of the latter has none.
-/

namespace VersionedApi.OpenApi

open VersionedApi.Document VersionedApi.Model

def errorSchemaName : String :=
  "Error"

def property (key doc type : String) : Draft FieldStep :=
  Draft.object key (Draft.description doc ++ Draft.text "type" type)

/-! ## Enums -/

def enumSchema (conventions : Conventions) (type : ApiType) : Draft FieldStep :=
  Draft.object (conventions.naming.schemaName type)
    (Draft.description type.doc ++ Draft.text "type" "string" ++
      Draft.array "enum"
        (Draft.concat (type.kind.values.map fun value =>
          Draft.item (conventions.binding.valueName value))))

/-! ## Structs -/

/-- The properties that every class has before its own. -/
def identityProperties (schema : String) : Draft FieldStep :=
  property "kind"
      ("Indicates the type of this object. Will be '" ++ schema ++
        "' if this is a complete object or '" ++ schema ++ "Link' if it is just a link.")
      "string" ++
    property "id" "Unique identifier of the object." "string" ++
    property "href" "Self link." "string"

def attributeProperty (conventions : Conventions) (version : Version) (attr : Attribute) :
    Draft FieldStep :=
  Draft.object (conventions.naming.attributeName attr)
    (Draft.description attr.doc ++
      reference conventions.naming version attr.type)

def structSchema (conventions : Conventions) (version : Version) (type : ApiType) :
    Draft FieldStep :=
  let schema := conventions.naming.schemaName type
  Draft.object schema
    (Draft.description type.doc ++
      Draft.object "properties"
        ((if type.kind.isClass then identityProperties schema else Draft.none) ++
          Draft.concat (type.kind.attributes.map (attributeProperty conventions version))))

/-! ## Errors -/

def errorSchema : Draft FieldStep :=
  Draft.object errorSchemaName
    (Draft.text "type" "object" ++
      Draft.object "properties"
        (property "kind" "Indicates the type of this object. Will always be 'Error'" "string" ++
          Draft.object "id"
            (Draft.description "Numeric identifier of the error." ++
              Draft.text "type" "integer" ++ Draft.text "format" "int32") ++
          property "href" "Self link." "string" ++
          property "code"
            ("Globally unique code of the error, composed of the unique identifier of the API " ++
              "and the numeric identifier of the error. For example, for if the numeric " ++
              "identifier of the error is `93` and the identifier of the API is " ++
              "`clusters_mgmt` then the code will be `CLUSTERS-MGMT-93`.")
            "string" ++
          property "reason" "Human readable description of the error." "string" ++
          Draft.object "details"
            (Draft.description "Extra information about the error." ++
              Draft.text "type" "object" ++ Draft.flag "additionalProperties" true)))

/-! ## All of them -/

def typeSchema (conventions : Conventions) (version : Version) (type : ApiType) :
    Draft FieldStep :=
  if type.kind.hasSchema && conventions.naming.schemaName type == errorSchemaName then
    Draft.problem (.reservedSchema type.name errorSchemaName)
  else
    match type.kind with
    | .enum _ => enumSchema conventions type
    | .struct _ _ => structSchema conventions version type
    | _ => Draft.none

def schemas (conventions : Conventions) (version : Version) : Draft FieldStep :=
  Draft.concat (version.types.map (typeSchema conventions version)) ++ errorSchema

end VersionedApi.OpenApi
