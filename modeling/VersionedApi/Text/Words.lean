import VersionedApi.Text.Letter

/-!
# Words of a text

A text is cut into words at every character that is not alphanumeric and,
inside what remains, at changes of case: after a small letter that a capital
follows, and before the last capital of a run of capitals that a small letter
follows.  The words are then joined again in one of three casings.
-/

namespace VersionedApi.Text

/-! ## Cutting at separators -/

/-- The stretches between separators, empty ones included. -/
def segments : List Char → List (List Char)
  | [] => [[]]
  | c :: rest =>
    if isAlphanumeric c then
      match segments rest with
      | [] => [[c]]
      | segment :: others => (c :: segment) :: others
    else [] :: segments rest

theorem segments_ne_nil (text : List Char) : segments text ≠ [] := by
  cases text with
  | nil => simp [segments]
  | cons c rest =>
      by_cases alphanumeric : isAlphanumeric c
      · simp only [segments, alphanumeric, if_true]
        split <;> simp
      · simp [segments, alphanumeric]

/-! ## Cutting at changes of case -/

/-- The case of the letters met since the last cut. -/
inductive CaseRun where
  | fresh
  | small
  | capital
  deriving Repr, DecidableEq

/-- A letter sets the case, a digit or an uncased letter keeps it. -/
def CaseRun.after (run : CaseRun) (c : Char) : CaseRun :=
  if isLowercase c then .small
  else if isUppercase c then .capital
  else run

/--
Cut one segment at its changes of case.  `word` holds, last character first,
what was read since the last cut.
-/
def cutCases (run : CaseRun) (word : List Char) : List Char → List (List Char)
  | [] => []
  | [c] => [(c :: word).reverse]
  | c :: next :: rest =>
    if run.after c = .small ∧ isUppercase next then
      (c :: word).reverse :: cutCases .fresh [] (next :: rest)
    else if run = .capital ∧ isUppercase c ∧ isLowercase next then
      word.reverse :: cutCases .fresh [c] (next :: rest)
    else cutCases (run.after c) (c :: word) (next :: rest)

def words (text : List Char) : List (List Char) :=
  (segments text).flatMap (cutCases .fresh [])

/-! ## Casings -/

/-- A word in small letters; a capital sigma at its end takes its final form. -/
def lowercaseWord : List Char → List Char
  | [] => []
  | c :: rest => if c = 'Σ' ∧ rest = [] then ['ς'] else lowercase c ++ lowercaseWord rest

def capitalizeWord : List Char → List Char
  | [] => []
  | c :: rest => uppercase c ++ lowercaseWord rest

/-- Small words joined by underscores. -/
def snakeCase (text : List Char) : List Char :=
  List.intercalate ['_'] ((words text).map lowercaseWord)

def pascalCase (text : List Char) : List Char :=
  (words text).flatMap capitalizeWord

def camelCase (text : List Char) : List Char :=
  match words text with
  | [] => []
  | first :: others => lowercaseWord first ++ others.flatMap capitalizeWord

end VersionedApi.Text
