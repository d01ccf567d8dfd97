import VersionedApi.OpenApi.PathItems

/-!
# Specifications

The whole document of a version: who offers it, what can be requested and how
the answers look.
-/

namespace VersionedApi.OpenApi

open VersionedApi.Document VersionedApi.Model

def formatVersion : String :=
  "3.0.0"

def info (version : Version) : Draft FieldStep :=
  Draft.object "info"
    (Draft.text "version" version.name.snake ++ Draft.text "title" version.service.snake ++
      Draft.object "license"
        (Draft.text "name" "Apache 2.0" ++
          Draft.text "url" "http://www.apache.org/licenses/LICENSE-2.0") ++
      Draft.object "contact"
        (Draft.text "name" "OCM Feedback" ++ Draft.text "email" "ocm-feedback@redhat.com"))

def servers : Draft FieldStep :=
  Draft.array "servers"
    (Draft.objectItem
      (Draft.text "description" "Production" ++ Draft.text "url" "https://api.openshift.com"))

def security : Draft FieldStep :=
  Draft.array "security" (Draft.objectItem (Draft.array "bearer" Draft.none))

def specification (conventions : Conventions) (version : Version) : Draft FieldStep :=
  Draft.text "openapi" formatVersion ++ info version ++ servers ++
    Draft.object "paths" (pathItems conventions version) ++
    Draft.object "components" (Draft.object "schemas" (schemas conventions version)) ++
    security

end VersionedApi.OpenApi
