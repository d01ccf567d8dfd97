/-!
# Reporter

A reporter collects the messages of problems.  Reporting interrupts nothing:
whoever started the work looks at the count when it is over.
-/

namespace VersionedApi.Generation

/-- The messages reported so far, in order. -/
structure Reporter where
  messages : List String
  deriving Repr, DecidableEq, Inhabited

namespace Reporter

def empty : Reporter :=
  ⟨[]⟩

def error (reporter : Reporter) (message : String) : Reporter :=
  ⟨reporter.messages ++ [message]⟩

def errors (reporter : Reporter) (messages : List String) : Reporter :=
  ⟨reporter.messages ++ messages⟩

/-- A remark is no problem and leaves no trace. -/
def info (reporter : Reporter) (_message : String) : Reporter :=
  reporter

def count (reporter : Reporter) : Nat :=
  reporter.messages.length

theorem count_errors (reporter : Reporter) (messages : List String) :
    (reporter.errors messages).count = reporter.count + messages.length := by
  simp [errors, count]

end Reporter

end VersionedApi.Generation
