import DocIndex.NameDistance
import DocIndex.Proofs.Text.LetterCase

/-!
The distance of a name from itself, and the scores that names can have.
-/
namespace DocIndex

/-- A text with a character that is neither blank nor a parenthesis can be compared. -/
theorem nameCore_ne_nil {c : Char} {t : Text} (hc : c ∈ t) (hblank : Text.isBlank c = false)
    (hopen : c ≠ '(') (hclose : c ≠ ')') : nameCore t ≠ [] := by
  have htrim : c ∈ Text.trim t :=
    Text.mem_dropEndWhile_of_not (Text.mem_dropWhile_of_not hc hblank) hblank
  have hstart := Text.mem_dropWhile_of_not (p := fun d => decide (d = '(')) htrim (by simp [hopen])
  have hend := Text.mem_dropEndWhile_of_not (p := fun d => decide (d = ')')) hstart
    (by simp [hclose])
  exact Text.lowercase_ne_nil (List.ne_nil_of_mem hend)

open Scale

section

variable {σ : Type} [Scale σ] (resembles : Text → Text → Bool)

def nameScores (σ : Type) [Scale σ] : List σ := [perfect, slight, low, unrelated]

theorem nameDistance_mem_nameScores (query name : Text) :
    (nameDistance resembles query name : σ) ∈ nameScores σ := by
  simp only [nameDistance]
  split
  · simp [nameScores]
  split
  · simp [nameScores]
  split
  · simp [nameScores]
  split <;> simp [nameScores]

theorem nameDistance_self {name : Text} (h : nameCore name ≠ []) :
    (nameDistance resembles name name : σ) = perfect := by
  have hempty : (nameCore name).isEmpty = false := by simpa using h
  simp [nameDistance, hempty]

end

end DocIndex
