/-!
# File formats

Plain instances are written as CNF, weighted ones as WCNF; solvers answer in the matching
convention.
-/

namespace Clausal

inductive Format where
  | cnf
  /-- Weighted maximum satisfiability. -/
  | wcnf
  deriving DecidableEq, Repr

namespace Format

/-- The file extension, which is also the format's name. -/
def extension : Format → String
  | cnf => "cnf"
  | wcnf => "wcnf"

def ofExtension? (extension : String) : Option Format :=
  if extension = "cnf" then some .cnf
  else if extension = "wcnf" then some .wcnf
  else none

@[simp] theorem ofExtension?_extension (format : Format) :
    ofExtension? format.extension = some format := by
  cases format <;> rfl

theorem extension_of_ofExtension? {text : String} {format : Format}
    (h : ofExtension? text = some format) : text = format.extension := by
  unfold ofExtension? at h
  split at h
  · cases h
    assumption
  · split at h
    · cases h
      assumption
    · cases h

end Format

end Clausal
