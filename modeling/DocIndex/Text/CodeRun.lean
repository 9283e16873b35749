/-!
Character properties as ascending tables of code point runs.
-/
namespace DocIndex.Text

/-- The code points `first`, `first + step`, `first + 2 * step`, … up to `last`. -/
structure CodeRun where
  first : Nat
  last : Nat
  step : Nat

namespace CodeRun

def has (r : CodeRun) (n : Nat) : Bool :=
  r.first ≤ n && n ≤ r.last && (n - r.first) % r.step == 0

/-- Whether an ascending table of runs holds a code point. The first run that does not end below
the code point decides. -/
def tableHas : List CodeRun → Nat → Bool
  | [], _ => false
  | r :: table, n => if n ≤ r.last then r.has n else tableHas table n

theorem exists_has_of_tableHas {n : Nat} : ∀ {table : List CodeRun}, tableHas table n = true →
    ∃ r ∈ table, r.has n = true
  | [], h => by simp [tableHas] at h
  | r :: table, h => by
    by_cases hn : n ≤ r.last
    · exact ⟨r, by simp, by simpa [tableHas, hn] using h⟩
    · have h : tableHas table n = true := by simpa [tableHas, hn] using h
      obtain ⟨s, hs, hh⟩ := exists_has_of_tableHas h
      exact ⟨s, by simp [hs], hh⟩

end CodeRun

end DocIndex.Text
