import VersionedApi.Document.Edit
import VersionedApi.Model.Types

/-!
# Drafts and problems

Writing a part of a document yields a draft: the steps that write it, and the
problems met on the way.  A problem never stops the writing; the part it
concerns is left out.
-/

namespace VersionedApi.OpenApi

open VersionedApi.Document VersionedApi.Model

/-- What can go wrong in a document without stopping it. -/
inductive Problem where
  /-- A reference to a type that the version does not have. -/
  | danglingType (id : TypeId)
  /-- A reference to a type that no schema describes. -/
  | shapelessType (type : Name)
  /-- A path that ends at a resource that the version does not have. -/
  | danglingPath (path : String)
  /-- A method whose verb another method of the same resource has. -/
  | repeatedVerb (method : Name) (path verb : String)
  /-- A type whose schema would take the place of the built-in one. -/
  | reservedSchema (type : Name) (schema : String)
  deriving Repr, DecidableEq

def Problem.message : Problem → String
  | danglingType id =>
    "Don't know how to generate schema reference for type with index " ++ toString id.index
  | shapelessType type =>
    "Don't know how to generate schema reference for type '" ++ type.snake ++ "'"
  | danglingPath path => "Can't find the resource of path '" ++ path ++ "'"
  | repeatedVerb method path verb =>
    "Method '" ++ method.snake ++ "' of path '" ++ path ++ "' uses verb '" ++ verb ++
      "' already taken by another method, it will be ignored"
  | reservedSchema type schema =>
    "Schema name of type '" ++ type.snake ++ "' clashes with the built-in '" ++ schema ++
      "' schema, it will be ignored"

/-- Steps of one kind and the problems met while choosing them. -/
structure Draft (step : Type) where
  steps : List step
  problems : List Problem
  deriving Repr

namespace Draft

def none {step : Type} : Draft step :=
  ⟨[], []⟩

def andThen {step : Type} (first second : Draft step) : Draft step :=
  ⟨first.steps ++ second.steps, first.problems ++ second.problems⟩

instance {step : Type} : Append (Draft step) :=
  ⟨andThen⟩

def concat {step : Type} (drafts : List (Draft step)) : Draft step :=
  drafts.foldr andThen none

def problem {step : Type} (problem : Problem) : Draft step :=
  ⟨[], [problem]⟩

def text (key value : String) : Draft FieldStep :=
  ⟨[.field key (.text value)], []⟩

def flag (key : String) (value : Bool) : Draft FieldStep :=
  ⟨[.field key (.flag value)], []⟩

def object (key : String) (inner : Draft FieldStep) : Draft FieldStep :=
  ⟨[.object key inner.steps], inner.problems⟩

def array (key : String) (inner : Draft ItemStep) : Draft FieldStep :=
  ⟨[.array key inner.steps], inner.problems⟩

def item (value : String) : Draft ItemStep :=
  ⟨[.item (.text value)], []⟩

def objectItem (inner : Draft FieldStep) : Draft ItemStep :=
  ⟨[.object inner.steps], inner.problems⟩

def description (doc : String) : Draft FieldStep :=
  if doc.isEmpty then none else text "description" doc

@[simp] theorem steps_append {step : Type} (first second : Draft step) :
    (first ++ second).steps = first.steps ++ second.steps := rfl

@[simp] theorem problems_append {step : Type} (first second : Draft step) :
    (first ++ second).problems = first.problems ++ second.problems := rfl

theorem steps_concat {step : Type} (drafts : List (Draft step)) :
    (concat drafts).steps = drafts.flatMap (·.steps) := by
  induction drafts with
  | nil => rfl
  | cons draft rest ih => simp [concat, andThen, ← ih]

theorem problems_concat {step : Type} (drafts : List (Draft step)) :
    (concat drafts).problems = drafts.flatMap (·.problems) := by
  induction drafts with
  | nil => rfl
  | cons draft rest ih => simp [concat, andThen, ← ih]

end Draft

end VersionedApi.OpenApi
