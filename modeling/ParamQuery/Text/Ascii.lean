/-
ASCII case and the characters of a name. All comparisons here leave every
character outside ASCII as it is.
-/
namespace ParamQuery.Text

/-- A text with its ASCII capitals made small. -/
def asciiLower (s : String) : String := .ofList (s.toList.map Char.toLower)

/-- A text with its ASCII small letters made capital. -/
def asciiUpper (s : String) : String := .ofList (s.toList.map Char.toUpper)

/-- Equal texts, up to ASCII case. -/
def sameIgnoringCase (a b : String) : Bool :=
  a.toList.map Char.toLower == b.toList.map Char.toLower

/-- The characters of a placeholder name: ASCII letters, digits and the underscore. -/
def isNameChar (c : Char) : Bool := c.isAlphanum || c == '_'

/-- `text` without `lead` at its front, if it starts with it. -/
def dropLead? : (lead text : List Char) → Option (List Char)
  | [], text => .some text
  | _ :: _, [] => .none
  | a :: lead, b :: text => if a == b then dropLead? lead text else .none

theorem dropLead?_append (lead text : List Char) : dropLead? lead (lead ++ text) = .some text := by
  induction lead with
  | nil => rfl
  | cons a lead ih => simp [dropLead?, ih]

theorem eq_append_of_dropLead? {lead text rest : List Char} (h : dropLead? lead text = .some rest) :
    text = lead ++ rest := by
  induction lead generalizing text with
  | nil => simpa [dropLead?] using h
  | cons a lead ih =>
    cases text with
    | nil => simp [dropLead?] at h
    | cons b text =>
      simp only [dropLead?] at h
      split at h
      · rename_i hab
        rw [ih h, eq_of_beq hab]; rfl
      · simp at h

end ParamQuery.Text
