import DirectoryAuth.Search

/-!
# Sequences of entries

A search is handed out as a sequence that is read entry by entry. The sequence has ended once it
came to its end, failed or was stopped; it then has no more to give, and nothing is left to be given up.
-/

namespace DirectoryAuth

inductive Sequence where
  | live (cursor : Cursor)
  | ended
  deriving DecidableEq, Repr

namespace Sequence

variable {σ : Type}

/-- The next entry and the sequence behind it; no entry at the end. A sequence that fails has
ended. -/
def next : Sequence → Operation σ (Option Entry × Sequence)
  | ended => pure (none, ended)
  | live c => do
    match ← c.next with
    | some (entry, rest) => pure (some entry, live rest)
    | none => pure (none, ended)

/-- Gives up what is left of a sequence, which has then ended. -/
def stop : Sequence → Operation σ Unit
  | ended => pure ()
  | live c => c.stop

end Sequence

/-- The sequence of the entries that a request finds. -/
def SearchRequest.sequence {σ : Type} (r : SearchRequest) (session : Session) :
    Operation σ Sequence := do
  return .live (← r.start session)

end DirectoryAuth
