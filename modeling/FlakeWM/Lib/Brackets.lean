import Mathlib.Data.List.Basic

/-! Streams of brackets.

A stream opens a bracket with a label, sends things within it and closes it. The
scan keeps the label of the bracket that is open; it refuses a mark that is out of
place, a second opening and a closing that does not fit the label. -/

set_option autoImplicit false

namespace Brackets

variable {α : Type}

inductive Mark (α : Type) where
  | opens (label : α)
  | within
  | closes (fits : α → Bool)

def scan : Option α → Mark α → Option (Option α)
  | none, .opens label => some (some label)
  | some label, .within => some (some label)
  | some label, .closes fits => if fits label then some none else none
  | _, _ => none

def scanAll (opened : Option α) (marks : List (Mark α)) : Option (Option α) := marks.foldlM scan opened

def Bracketed (marks : List (Mark α)) : Prop := (scanAll none marks).isSome = true

instance (marks : List (Mark α)) : Decidable (Bracketed marks) := inferInstanceAs (Decidable (_ = true))

variable {opened now later : Option α} {marks more : List (Mark α)}

theorem scanAll_append (before : scanAll opened marks = some now) :
    scanAll opened (marks ++ more) = scanAll now more := by
  unfold scanAll at before ⊢
  rw [List.foldlM_append, before]
  rfl

theorem scanAll_concat (before : scanAll opened marks = some now) (mark : Mark α) :
    scanAll opened (marks ++ [mark]) = scan now mark := by
  rw [scanAll_append before]
  simp [scanAll]

theorem bracketed_of_scanAll (before : scanAll none marks = some now) : Bracketed marks := by
  rw [Bracketed, before]
  rfl

end Brackets
