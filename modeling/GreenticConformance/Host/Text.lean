import GreenticConformance.OAuthMock.Strings
import Mathlib.Data.List.DropRight

/-!
# More strings of the standard library

The methods of `str` that the suites and the command line call.
-/

namespace GreenticConformance.Host

open OAuthMock (isWhitespace)

/-- `str::trim`. -/
def trim (s : String) : String :=
  String.ofList ((s.toList.dropWhile isWhitespace).rdropWhile isWhitespace)

/-- `str::to_ascii_lowercase`. -/
def toAsciiLowercase (s : String) : String := String.ofList (s.toList.map Char.toLower)

/-- `str::starts_with`. -/
def startsWith (s p : String) : Bool := p.toList.isPrefixOf s.toList

/-- `{strings:?}`, up to the escapes of characters that do not print. -/
def debugStrings (strings : List String) : String :=
  "[" ++ ", ".intercalate (strings.map String.quote) ++ "]"

/-- `s.trim().is_empty()`. -/
def isBlank (s : String) : Bool := (trim s).isEmpty

/-- A string is blank when all its characters are white space. -/
theorem isBlank_iff {s : String} : isBlank s = true ↔ ∀ c ∈ s.toList, isWhitespace c = true := by
  simp only [isBlank, trim, String.isEmpty_iff, String.ofList_eq_empty_iff,
    List.rdropWhile_eq_nil_iff]
  constructor
  · intro h c hc
    have hsplit : c ∈ s.toList.takeWhile isWhitespace ++ s.toList.dropWhile isWhitespace := by
      rw [List.takeWhile_append_dropWhile]
      exact hc
    rcases List.mem_append.mp hsplit with hc | hc
    · exact List.mem_takeWhile_imp hc
    · exact h c hc
  · intro h c hc
    exact h c (List.dropWhile_subset _ hc)

/-- Trimming leaves something unless the string is blank. -/
theorem isBlank_trim {s : String} (h : trim s ≠ "") : isBlank (trim s) = false := by
  have hne : (s.toList.dropWhile isWhitespace).rdropWhile isWhitespace ≠ [] := by
    intro hnil
    exact h (by rw [trim, hnil])
  rw [Bool.eq_false_iff, ne_eq, isBlank_iff]
  intro hall
  apply List.rdropWhile_last_not isWhitespace _ hne
  apply hall
  rw [trim, String.toList_ofList]
  exact List.getLast_mem hne

end GreenticConformance.Host
