/-!
# Texts given in settings

A setting that is an empty text is taken as not given, and a text counts as a web address by its
beginning alone.
-/

namespace Courier.Text

/-- A text that says something. -/
def given (s : Option String) : Option String := s.filter fun s => !s.isEmpty

theorem given_eq_some_iff {s : Option String} {t : String} :
    given s = some t ↔ s = some t ∧ t.isEmpty = false := by
  cases s <;> simp [given, Option.filter_eq_some_iff]

/-- Whether a text is a web address. -/
def isWebAddress (s : String) : Bool := s.startsWith "http://" || s.startsWith "https://"

end Courier.Text
