import VersionedApi.Order.Distinct
import VersionedApi.Text.Words

/-!
# Names

A name is kept as its words in snake case, so the three spellings of a name
are the same name.  Which casing appears in a document is decided where the
document is written.
-/

namespace VersionedApi.Model

structure Name where
  snake : String
  deriving Repr, DecidableEq, Inhabited

namespace Name

def ofText (text : String) : Name :=
  ⟨String.ofList (Text.snakeCase text.toList)⟩

/-- The words of the name capitalized and put together. -/
def pascal (name : Name) : String :=
  String.ofList (Text.pascalCase name.snake.toList)

/-- As `pascal`, but for the first word. -/
def camel (name : Name) : String :=
  String.ofList (Text.camelCase name.snake.toList)

instance : ToString Name :=
  ⟨snake⟩

theorem toList_snake_ofText (text : String) :
    (ofText text).snake.toList = Text.snakeCase text.toList := by
  simp [ofText]

/-! ## Order -/

/-- Names are ordered by the code points of their snake case. -/
def le (left right : Name) : Bool :=
  decide (left.snake ≤ right.snake)

def sortDistinct (names : List Name) : List Name :=
  Order.sortDistinct le names

end Name

end VersionedApi.Model
