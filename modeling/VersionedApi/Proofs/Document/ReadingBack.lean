import VersionedApi.Document.Format
import VersionedApi.Json.Tree

/-!
# Documents read back

The reader that descriptions are read with finds in the JSON text of a document
the whole document and nothing else: strings are unescaped, and what separates
the parts can be mistaken for no part.  Main statement: documents with the same
text are the same, the order of their keys included.
-/

namespace VersionedApi.Document.Json

open VersionedApi.Json (Scalar Tree StringDraft scanString scanScalar parseValue parseItem
  parseItems parseEntry parseEntries isBlank isLeadingSurrogate isTrailingSurrogate)

/-! ## Strings -/

theorem digits?_hexDigit :
    ∀ point < 32, Text.digits? 16 ['0', '0', hexDigit (point / 16), hexDigit (point % 16)] =
      some point := by
  decide

/-- The code unit of a control character is the character. -/
theorem pushUnit_toNat {characters : List Char} {c : Char} (control : c.toNat < 32) :
    StringDraft.pushUnit ⟨.ok characters, none⟩ c.toNat = ⟨.ok (c :: characters), none⟩ := by
  have trailing : isTrailingSurrogate c.toNat = false := by
    simp [isTrailingSurrogate]
    omega
  have leading : isLeadingSurrogate c.toNat = false := by
    simp [isLeadingSurrogate]
    omega
  simp [StringDraft.pushUnit, trailing, leading, Except.map]

theorem scanString_control {characters rest : List Char} {c : Char} (control : c.toNat < 32) :
    scanString ⟨.ok characters, none⟩
        ('\\' :: 'u' :: '0' :: '0' :: hexDigit (c.toNat / 16) :: hexDigit (c.toNat % 16) :: rest) =
      scanString ⟨.ok (c :: characters), none⟩ rest := by
  rw [scanString, digits?_hexDigit c.toNat control]
  dsimp only
  rw [pushUnit_toNat control]

theorem scanString_plain {characters rest : List Char} {c : Char} (notQuote : c ≠ '"')
    (notBackslash : c ≠ '\\') (plain : ¬ c.toNat < 32) :
    scanString ⟨.ok characters, none⟩ (c :: rest) =
      scanString ⟨.ok (c :: characters), none⟩ rest := by
  rw [scanString]
  · rw [if_neg plain]
    rfl
  all_goals simp_all

/-- What was written for a character of a string is read as the character. -/
theorem scanString_escape (characters rest : List Char) (c : Char) :
    scanString ⟨.ok characters, none⟩ (escape c ++ rest) =
      scanString ⟨.ok (c :: characters), none⟩ rest := by
  unfold escape
  split
  · rfl
  · rfl
  · rfl
  · rfl
  · rfl
  · next notQuote notBackslash _ _ _ =>
      split
      · next backspace =>
          obtain rfl : c = Char.ofNat 8 := by rw [← backspace, Char.ofNat_toNat]
          rfl
      split
      · next formFeed =>
          obtain rfl : c = Char.ofNat 12 := by rw [← formFeed, Char.ofNat_toNat]
          rfl
      split
      · next control => exact scanString_control control
      · next plain => exact scanString_plain notQuote notBackslash plain

/-- A string ends at the first quote that is not escaped. -/
theorem scanString_flatMap_escape (characters text rest : List Char) :
    scanString ⟨.ok characters, none⟩ (text.flatMap escape ++ '"' :: rest) =
      ⟨.ok (.text (String.ofList (characters.reverse ++ text))), none, some rest⟩ := by
  induction text generalizing characters with
  | nil => simp [scanString, StringDraft.finish, StringDraft.settle, Except.map]
  | cons c text ih =>
      rw [List.flatMap_cons, List.append_assoc, scanString_escape, ih]
      simp

/-! ## Scalars -/

/-- A scalar in which nothing is wrong. -/
def scalarTree (scalar : Scalar) : Tree :=
  .leaf (.ok scalar) none

theorem parseValue_quote (fuel : Nat) (text : String) (rest : List Char) :
    parseValue (fuel + 1) (quote text ++ rest) = ⟨scalarTree (.text text), some rest⟩ := by
  have scanned : scanScalar (quote text ++ rest) = ⟨.ok (.text text), none, some rest⟩ := by
    have inside := scanString_flatMap_escape [] text.toList rest
    rw [List.reverse_nil, List.nil_append, String.ofList_toList] at inside
    rw [quote, List.append_assoc, List.cons_append, List.singleton_append]
    exact inside
  have begins : parseValue (fuel + 1) (quote text ++ rest) =
      ⟨.leaf (scanScalar (quote text ++ rest)).read (scanScalar (quote text ++ rest)).skipped,
        (scanScalar (quote text ++ rest)).rest⟩ := rfl
  rw [begins, scanned]
  rfl

theorem parseValue_flag (fuel : Nat) (value : Bool) (rest : List Char) :
    parseValue (fuel + 1) (flag value ++ rest) = ⟨scalarTree (.flag value), some rest⟩ := by
  cases value <;> rfl

/-! ## Parts of lists and objects -/

/-- A comma stands before every part but the first. -/
def separator (first : Bool) : List Char :=
  if first then [] else [',']

/-- What is written for the parts from some part on. -/
def listed {α : Type} (write : List α → List Char) (first : Bool) : List α → List Char
  | [] => []
  | part :: rest => separator first ++ write (part :: rest)

/-- The closing bracket stands on a line of its own if there are parts. -/
def closing {α : Type} (depth : Nat) (bracket : Char) : List α → List Char
  | [] => [bracket]
  | _ :: _ => newline depth ++ [bracket]

theorem indentedItems_cons (depth : Nat) (item : Node) (rest : List Node) :
    indentedItems depth (item :: rest) =
      newline depth ++ (indented depth item ++ listed (indentedItems depth) false rest) := by
  cases rest <;> simp [indentedItems, listed, separator]

theorem indentedFields_cons (depth : Nat) (key : String) (value : Node)
    (rest : List (String × Node)) :
    indentedFields depth ((key, value) :: rest) =
      newline depth ++ (quote key ++ ':' :: ' ' :: (indented depth value ++
        listed (indentedFields depth) false rest)) := by
  cases rest <;> simp [indentedFields, listed, separator]

theorem indented_array (depth : Nat) (items : List Node) :
    indented depth (.array items) =
      '[' :: (listed (indentedItems (depth + 1)) true items ++ closing depth ']' items) := by
  cases items <;> simp [indented, listed, separator, closing]

theorem indented_object (depth : Nat) (fields : List (String × Node)) :
    indented depth (.object fields) =
      '{' :: (listed (indentedFields (depth + 1)) true fields ++ closing depth '}' fields) := by
  cases fields <;> simp [indented, listed, separator, closing]

/-- A value begins with a character that is neither blank nor closes a list. -/
theorem exists_indented_eq_cons (depth : Nat) (node : Node) :
    ∃ c rest, indented depth node = c :: rest ∧ isBlank c = false ∧ c ≠ ']' := by
  cases node with
  | text value => exact ⟨'"', _, by rw [indented, quote]; rfl, rfl, by decide⟩
  | flag value =>
      cases value with
      | false => exact ⟨'f', _, rfl, rfl, by decide⟩
      | true => exact ⟨'t', _, rfl, rfl, by decide⟩
  | object fields => exact ⟨'{', _, indented_object depth fields, rfl, by decide⟩
  | array items => exact ⟨'[', _, indented_array depth items, rfl, by decide⟩

theorem length_indented_pos (depth : Nat) (node : Node) : 0 < (indented depth node).length := by
  obtain ⟨c, rest, begins, -⟩ := exists_indented_eq_cons depth node
  rw [begins]
  exact Nat.succ_pos _

theorem getLast?_closing {α : Type} (depth : Nat) (bracket : Char) (parts : List α) :
    (closing depth bracket parts).getLast? = some bracket := by
  cases parts <;> simp [closing]

/-! ## Blanks -/

theorem length_newline (depth : Nat) : (newline depth).length = 2 * depth + 1 := by
  simp [newline]

theorem dropWhile_newline (depth : Nat) (rest : List Char) :
    (newline depth ++ rest).dropWhile isBlank = rest.dropWhile isBlank := by
  apply List.dropWhile_append_of_pos
  intro c member
  rcases List.mem_cons.1 member with rfl | blank
  · rfl
  · obtain rfl := List.eq_of_mem_replicate blank
    rfl

theorem dropWhile_closing {α : Type} (depth : Nat) {bracket : Char}
    (solid : isBlank bracket = false) (parts : List α) (rest : List Char) :
    (closing depth bracket parts ++ rest).dropWhile isBlank = bracket :: rest := by
  have bare : (bracket :: rest).dropWhile isBlank = bracket :: rest :=
    List.dropWhile_cons_of_neg (by simp [solid])
  cases parts with
  | nil => exact bare
  | cons part others =>
      rw [closing, List.append_assoc, dropWhile_newline]
      exact bare

theorem parseValue_blank (fuel : Nat) (text : List Char) :
    parseValue fuel (' ' :: text) = parseValue fuel text := by
  cases fuel with
  | zero => rfl
  | succ fuel => rfl

/-! ## Reading a list -/

theorem parseValue_list {fuel : Nat} {text rest : List Char} {trees : List Tree}
    (items : parseItems fuel true text = ⟨(trees, none), some rest⟩) :
    parseValue (fuel + 1) ('[' :: text) = ⟨.list trees none, some rest⟩ := by
  have opened : parseValue (fuel + 1) ('[' :: text) =
      ⟨.list (parseItems fuel true text).value.1 (parseItems fuel true text).value.2,
        (parseItems fuel true text).rest⟩ := rfl
  rw [opened, items]

theorem parseItems_closing (fuel depth : Nat) (first : Bool) (items : List Node)
    (rest : List Char) :
    parseItems (fuel + 1) first (closing depth ']' items ++ rest) = ⟨([], none), some rest⟩ := by
  rw [parseItems, dropWhile_closing depth rfl]
  rfl

theorem parseItems_first {fuel : Nat} {text rest : List Char} {c : Char}
    (begins : text.dropWhile isBlank = c :: rest) (opens : c ≠ ']') :
    parseItems (fuel + 1) true text = parseItem fuel (c :: rest) := by
  rw [parseItems, begins]
  simp

theorem parseItems_next {fuel : Nat} {text rest : List Char} {c : Char}
    (begins : text.dropWhile isBlank = c :: rest) (opens : c ≠ ']') :
    parseItems (fuel + 1) false (',' :: text) = parseItem fuel (c :: rest) := by
  have comma : (',' :: text).dropWhile isBlank = ',' :: text := rfl
  rw [parseItems, comma]
  simp [begins, opens]

/-- The reader comes to an item behind its comma and the line break. -/
theorem parseItems_item (fuel depth : Nat) (first : Bool) (item : Node) (rest : List Char) :
    parseItems (fuel + 1) first
        (separator first ++ (newline depth ++ (indented depth item ++ rest))) =
      parseItem fuel (indented depth item ++ rest) := by
  obtain ⟨c, others, begins, solid, opens⟩ := exists_indented_eq_cons depth item
  have reached : (newline depth ++ (c :: others ++ rest)).dropWhile isBlank =
      c :: (others ++ rest) := by
    rw [dropWhile_newline]
    exact List.dropWhile_cons_of_neg (by simp [solid])
  rw [begins]
  cases first with
  | true => exact parseItems_first reached opens
  | false => exact parseItems_next reached opens

theorem parseItem_of_value {fuel : Nat} {text behind rest : List Char} {item : Tree}
    {others : List Tree} (inner : parseValue fuel text = ⟨item, some behind⟩)
    (later : parseItems fuel false behind = ⟨(others, none), some rest⟩) :
    parseItem (fuel + 1) text = ⟨(item :: others, none), some rest⟩ := by
  rw [parseItem, inner]
  dsimp only
  rw [later]

/-! ## Reading an object -/

theorem parseValue_object {fuel : Nat} {text rest : List Char} {trees : List (Tree × Tree)}
    (entries : parseEntries fuel true text = ⟨(trees, none), some rest⟩) :
    parseValue (fuel + 1) ('{' :: text) = ⟨.object trees none, some rest⟩ := by
  have opened : parseValue (fuel + 1) ('{' :: text) =
      ⟨.object (parseEntries fuel true text).value.1 (parseEntries fuel true text).value.2,
        (parseEntries fuel true text).rest⟩ := rfl
  rw [opened, entries]

theorem parseEntries_closing (fuel depth : Nat) (first : Bool) (fields : List (String × Node))
    (rest : List Char) :
    parseEntries (fuel + 1) first (closing depth '}' fields ++ rest) =
      ⟨([], none), some rest⟩ := by
  rw [parseEntries, dropWhile_closing depth rfl]
  rfl

theorem parseEntries_first {fuel : Nat} {text rest : List Char} {c : Char}
    (begins : text.dropWhile isBlank = c :: rest) (opens : c ≠ '}') :
    parseEntries (fuel + 1) true text = parseEntry fuel (c :: rest) := by
  rw [parseEntries, begins]
  simp

theorem parseEntries_next {fuel : Nat} {text rest : List Char} {c : Char}
    (begins : text.dropWhile isBlank = c :: rest) (opens : c ≠ '}') :
    parseEntries (fuel + 1) false (',' :: text) = parseEntry fuel (c :: rest) := by
  have comma : (',' :: text).dropWhile isBlank = ',' :: text := rfl
  rw [parseEntries, comma]
  simp [begins, opens]

/-- The reader comes to a key behind its comma and the line break. -/
theorem parseEntries_key (fuel depth : Nat) (first : Bool) (key : String) (rest : List Char) :
    parseEntries (fuel + 1) first (separator first ++ (newline depth ++ (quote key ++ rest))) =
      parseEntry fuel (quote key ++ rest) := by
  obtain ⟨others, begins⟩ : ∃ others, quote key = '"' :: others := ⟨_, rfl⟩
  have reached : (newline depth ++ ('"' :: others ++ rest)).dropWhile isBlank =
      '"' :: (others ++ rest) := by
    rw [dropWhile_newline]
    rfl
  rw [begins]
  cases first with
  | true => exact parseEntries_first reached (by decide)
  | false => exact parseEntries_next reached (by decide)

theorem parseEntry_of_value {fuel : Nat} {key : String} {text behind rest : List Char}
    {value : Tree} {others : List (Tree × Tree)}
    (inner : parseValue (fuel + 1) text = ⟨value, some behind⟩)
    (later : parseEntries (fuel + 1) false behind = ⟨(others, none), some rest⟩) :
    parseEntry (fuel + 2) (quote key ++ ':' :: ' ' :: text) =
      ⟨((scalarTree (.text key), value) :: others, none), some rest⟩ := by
  have colon : (':' :: ' ' :: text).dropWhile isBlank = ':' :: ' ' :: text := rfl
  rw [parseEntry, parseValue_quote]
  dsimp only [Option.map_some]
  rw [colon]
  dsimp only
  rw [if_pos rfl, parseValue_blank, inner]
  dsimp only
  rw [later]

/-! ## Reading a node -/

mutual

/-- What is read where a node was written. -/
def tree : Node → Tree
  | .text value => scalarTree (.text value)
  | .flag value => scalarTree (.flag value)
  | .object fields => .object (fieldTrees fields) none
  | .array items => .list (itemTrees items) none

def fieldTrees : List (String × Node) → List (Tree × Tree)
  | [] => []
  | (key, value) :: rest => (scalarTree (.text key), tree value) :: fieldTrees rest

def itemTrees : List Node → List Tree
  | [] => []
  | item :: rest => tree item :: itemTrees rest

end

-- A part takes the reader two calls deeper and is written with more than one character, so twice
-- the length of the text is fuel enough.
mutual

/-- A node that was written is read back, whatever follows it. -/
theorem parseValue_indented : (node : Node) → ∀ {depth fuel : Nat} (rest : List Char),
    2 * (indented depth node).length ≤ fuel →
      parseValue fuel (indented depth node ++ rest) = ⟨tree node, some rest⟩
  | .text value, depth, fuel, rest, enough => by
      have positive := length_indented_pos depth (.text value)
      obtain ⟨less, rfl⟩ : ∃ less, fuel = less + 1 := Nat.exists_eq_add_one.2 (by omega)
      rw [indented]
      exact parseValue_quote less value rest
  | .flag value, depth, fuel, rest, enough => by
      have positive := length_indented_pos depth (.flag value)
      obtain ⟨less, rfl⟩ : ∃ less, fuel = less + 1 := Nat.exists_eq_add_one.2 (by omega)
      rw [indented]
      exact parseValue_flag less value rest
  | .object fields, depth, fuel, rest, enough => by
      rw [indented_object] at enough ⊢
      simp only [List.length_cons, List.length_append] at enough
      obtain ⟨less, rfl⟩ : ∃ less, fuel = less + 1 := Nat.exists_eq_add_one.2 (by omega)
      rw [List.cons_append, List.append_assoc]
      exact parseValue_object (parseEntries_listed fields fields true rest (by omega))
  | .array items, depth, fuel, rest, enough => by
      rw [indented_array] at enough ⊢
      simp only [List.length_cons, List.length_append] at enough
      obtain ⟨less, rfl⟩ : ∃ less, fuel = less + 1 := Nat.exists_eq_add_one.2 (by omega)
      rw [List.cons_append, List.append_assoc]
      exact parseValue_list (parseItems_listed items items true rest (by omega))

/-- Fields that were written are read back up to the brace that closes them. -/
theorem parseEntries_listed : (fields all : List (String × Node)) →
    ∀ {depth outer fuel : Nat} (first : Bool) (rest : List Char),
      2 * (listed (indentedFields depth) first fields).length < fuel →
        parseEntries fuel first
          (listed (indentedFields depth) first fields ++ (closing outer '}' all ++ rest)) =
          ⟨(fieldTrees fields, none), some rest⟩
  | [], all, depth, outer, fuel, first, rest, enough => by
      obtain ⟨less, rfl⟩ : ∃ less, fuel = less + 1 := Nat.exists_eq_add_one.2 (by omega)
      exact parseEntries_closing less outer first all rest
  | (key, value) :: others, all, depth, outer, fuel, first, rest, enough => by
      rw [listed, indentedFields_cons] at enough ⊢
      simp only [List.length_append, List.length_cons] at enough
      obtain ⟨less, rfl⟩ : ∃ less, fuel = less + 3 := ⟨fuel - 3, by omega⟩
      simp only [List.append_assoc, List.cons_append]
      rw [parseEntries_key]
      apply parseEntry_of_value (parseValue_indented value _ (by omega))
      exact parseEntries_listed others all false rest (by omega)

/-- Items that were written are read back up to the bracket that closes them. -/
theorem parseItems_listed : (items all : List Node) →
    ∀ {depth outer fuel : Nat} (first : Bool) (rest : List Char),
      2 * (listed (indentedItems depth) first items).length < fuel →
        parseItems fuel first
          (listed (indentedItems depth) first items ++ (closing outer ']' all ++ rest)) =
          ⟨(itemTrees items, none), some rest⟩
  | [], all, depth, outer, fuel, first, rest, enough => by
      obtain ⟨less, rfl⟩ : ∃ less, fuel = less + 1 := Nat.exists_eq_add_one.2 (by omega)
      exact parseItems_closing less outer first all rest
  | item :: others, all, depth, outer, fuel, first, rest, enough => by
      rw [listed, indentedItems_cons] at enough ⊢
      simp only [List.length_append, length_newline] at enough
      obtain ⟨less, rfl⟩ : ∃ less, fuel = less + 2 := ⟨fuel - 2, by omega⟩
      simp only [List.append_assoc]
      rw [parseItems_item]
      apply parseItem_of_value (parseValue_indented item _ (by omega))
      exact parseItems_listed others all false rest (by omega)

end

/-- The reader finds a node that was written over several lines, and nothing behind it. -/
theorem ofText_lines (node : Node) : Tree.ofText (lines node ++ "\n") = ⟨tree node, none⟩ := by
  have characters : (lines node ++ "\n").toList = indented 0 node ++ ['\n'] := by
    simp [lines]
  unfold Tree.ofText
  rw [characters]
  dsimp only
  rw [parseValue_indented node _ (by rw [List.length_append]; omega)]
  rfl

/-! ## Telling nodes apart -/

theorem scalarTree_inj {scalar other : Scalar} (same : scalarTree scalar = scalarTree other) :
    scalar = other := by
  simpa [scalarTree] using same

mutual

/-- Nodes that are read alike are the same. -/
theorem tree_inj : (node : Node) → ∀ {other : Node}, tree node = tree other → node = other
  | .text value, other, same => by
      cases other with
      | text other => rw [Scalar.text.inj (scalarTree_inj same)]
      | flag | object | array => cases same
  | .flag value, other, same => by
      cases other with
      | flag other => rw [Scalar.flag.inj (scalarTree_inj same)]
      | text | object | array => cases same
  | .object fields, other, same => by
      cases other with
      | object others => rw [fieldTrees_inj fields (Tree.object.inj same).1]
      | text | flag | array => cases same
  | .array items, other, same => by
      cases other with
      | array others => rw [itemTrees_inj items (Tree.list.inj same).1]
      | text | flag | object => cases same

theorem fieldTrees_inj : (fields : List (String × Node)) →
    ∀ {others : List (String × Node)}, fieldTrees fields = fieldTrees others → fields = others
  | [], others, same => by
      cases others with
      | nil => rfl
      | cons other more => cases same
  | (key, value) :: rest, others, same => by
      cases others with
      | nil => cases same
      | cons other more =>
          obtain ⟨first, later⟩ := List.cons.inj same
          obtain ⟨keys, values⟩ := Prod.mk.inj first
          rw [Scalar.text.inj (scalarTree_inj keys), tree_inj value values,
            fieldTrees_inj rest later]

theorem itemTrees_inj : (items : List Node) →
    ∀ {others : List Node}, itemTrees items = itemTrees others → items = others
  | [], others, same => by
      cases others with
      | nil => rfl
      | cons other more => cases same
  | item :: rest, others, same => by
      cases others with
      | nil => cases same
      | cons other more =>
          obtain ⟨first, later⟩ := List.cons.inj same
          rw [tree_inj item first, itemTrees_inj rest later]

end

end VersionedApi.Document.Json

namespace VersionedApi.Document.Format

/--
The JSON text of a document tells it from every other: from one with its keys in
another order, with the spelling of a truth value in the place of the truth value,
or with an empty object in the place of an empty array.  It ends in one line feed,
behind the brace that closes the document.
-/
theorem render_json_eq_iff (first second : Fields) :
    (json.render first = json.render second ↔ first = second) ∧
    ∃ front, json.render first = front ++ "\n" ∧ front.toList.getLast? = some '}' := by
  refine ⟨⟨fun same => ?_, fun same => congrArg json.render same⟩, ?_⟩
  · have read := Json.ofText_lines (.object first)
    have other := Json.ofText_lines (.object second)
    rw [render, render] at same
    rw [same, other] at read
    have trees := congrArg VersionedApi.Json.Tree.Whole.root read
    exact (Node.object.inj (Json.tree_inj _ trees)).symm
  · refine ⟨Json.lines (.object first), rfl, ?_⟩
    rw [Json.lines, String.toList_ofList, Json.indented_object, ← List.cons_append,
      List.getLast?_append, Json.getLast?_closing]
    rfl

end VersionedApi.Document.Format
