import XLStatus.Auth.TotpDefs

/-! Columns for instants: SQLite keeps the text that was written, PostgreSQL a `timestamptz`. -/

namespace XLStatus.Db

open Auth (DatabaseBackend DateTime)

abbrev Stamp : DatabaseBackend → Type
  | .sqlite => String
  | .postgres => DateTime

namespace Stamp

def le : {b : DatabaseBackend} → Stamp b → Stamp b → Bool
  | .sqlite, (s : String), (t : String) => decide (s ≤ t)
  | .postgres, (s : ℤ), (t : ℤ) => decide (s ≤ t)

def text (timestamptzText : DateTime → String) : {b : DatabaseBackend} → Stamp b → String
  | .sqlite, (s : String) => s
  | .postgres, (t : ℤ) => timestamptzText t

def instant (rfc3339 : String → Option DateTime) : {b : DatabaseBackend} → Stamp b →
    Option DateTime
  | .sqlite, (s : String) => rfc3339 s
  | .postgres, (t : ℤ) => some t

def ofBound : (b : DatabaseBackend) → String × DateTime → Stamp b
  | .sqlite, bound => bound.1
  | .postgres, bound => bound.2

variable {b : DatabaseBackend}

theorem le_total (s t : Stamp b) : (le s t || le t s) = true := by
  cases b with
  | sqlite => simpa [le] using String.le_total (s : String) t
  | postgres => simpa [le] using Int.le_total s t

theorem le_trans {s t u : Stamp b} (hst : le s t = true) (htu : le t u = true) :
    le s u = true := by
  cases b with
  | sqlite =>
    simp only [le, decide_eq_true_eq] at *
    exact String.le_trans hst htu
  | postgres =>
    simp only [le, decide_eq_true_eq] at *
    exact Int.le_trans hst htu

end Stamp

end XLStatus.Db
