/-! # The history

The most recent calculations, oldest first. A history has a limit, at least one, and never holds
more entries than that: recording one more drops the oldest.
-/

namespace Calculator

/-- A calculation as it was entered, what was shown for it, and the name of the angle mode. -/
structure HistoryEntry where
  expression : String
  display : String
  mode : String
deriving DecidableEq, Repr

/-- An entry on one line. -/
def HistoryEntry.text (entry : HistoryEntry) : String :=
  entry.expression ++ " = " ++ entry.display

/-- A bounded list of entries. -/
structure History where
  limit : Nat
  entries : List HistoryEntry
  limit_pos : 0 < limit
  length_le : entries.length ≤ limit

namespace History

/-- Why there can be no history of some limit. -/
inductive LimitError where
  | tooSmall
  | tooLarge
deriving DecidableEq, Repr

/-- The wording of the fault. -/
def LimitError.message : LimitError → String
  | tooSmall => "History limit must be at least 1"
  | tooLarge => "History limit is too large"

/-- The limit of a history, unless another is set. -/
def defaultLimit : Int := 20

/-- The largest possible limit, that of a signed 64-bit length. -/
def maxLimit : Int := 9223372036854775807

/-- A history without entries. -/
def empty (limit : Int) : Except LimitError History :=
  if h : limit < 1 then .error .tooSmall
  else if maxLimit < limit then .error .tooLarge
  else .ok ⟨limit.toNat, [], by omega, by simp⟩

/-- The entry is added, and what exceeds the limit is dropped at the old end. -/
def record (history : History) (entry : HistoryEntry) : History where
  limit := history.limit
  entries := (history.entries ++ [entry]).drop (history.entries.length + 1 - history.limit)
  limit_pos := history.limit_pos
  length_le := by
    have := history.length_le
    simp only [List.length_drop, List.length_append, List.length_cons, List.length_nil]
    omega

/-- All entries are dropped. -/
def clear (history : History) : History where
  limit := history.limit
  entries := []
  limit_pos := history.limit_pos
  length_le := by simp

end History

end Calculator
