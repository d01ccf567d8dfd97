import VersionedApi.Document.Json
import VersionedApi.Document.Yaml

/-!
# Formats

The two formats that a document can be written in.  Either way the text ends
in a line feed.
-/

namespace VersionedApi.Document

inductive Format where
  | json
  | yaml
  deriving Repr, DecidableEq, Inhabited

namespace Format

def extension : Format → String
  | json => "json"
  | yaml => "yaml"

/--
The text of a document.  YAML knows more line breaks than one, so a block may
end its line with another.
-/
def render (format : Format) (fields : Fields) : String :=
  match format with
  | json => Json.lines (.object fields) ++ "\n"
  | yaml =>
    let text := Yaml.lines fields
    if text.toList.getLast? = some '\n' then text else text ++ "\n"

end Format

end VersionedApi.Document
