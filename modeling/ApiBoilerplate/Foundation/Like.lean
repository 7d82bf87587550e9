import Mathlib.Data.List.Infix

/-!
# Patterns with wildcards

The patterns of SQL's `LIKE`: `%` stands for any text, `_` for any character, a
backslash takes the next character as it is. Two characters are the same as far as
the collation says so.
-/

namespace Foundation

inductive LikePart where
  | many
  | one
  | char (c : Char)
  deriving DecidableEq, Repr

/-- The parts of a pattern; a backslash at its end stands for itself. -/
def likeParts : List Char → List LikePart
  | [] => []
  | '\\' :: c :: rest => .char c :: likeParts rest
  | '%' :: rest => .many :: likeParts rest
  | '_' :: rest => .one :: likeParts rest
  | c :: rest => .char c :: likeParts rest

def like (same : Char → Char → Bool) : List LikePart → List Char → Bool
  | [], text => text.isEmpty
  | .many :: parts, text => text.tails.any (like same parts)
  | .one :: _, [] => false
  | .one :: parts, _ :: text => like same parts text
  | .char _ :: _, [] => false
  | .char c :: parts, d :: text => same c d && like same parts text

/-- A text without a wildcard and without a backslash. -/
def Plain (text : List Char) : Prop := ∀ c ∈ text, c ≠ '%' ∧ c ≠ '_' ∧ c ≠ '\\'

/-- The texts agree character by character. -/
abbrev Alike (same : Char → Char → Bool) : List Char → List Char → Prop :=
  List.Forall₂ fun c d => same c d = true

variable {same : Char → Char → Bool}

theorem likeParts_plain_append {text : List Char} (plain : Plain text) (rest : List Char) :
    likeParts (text ++ rest) = text.map .char ++ likeParts rest := by
  induction text with
  | nil => rfl
  | cons c text ih =>
    obtain ⟨percent, underscore, backslash⟩ := plain c List.mem_cons_self
    have later : Plain text := fun d member => plain d (List.mem_cons_of_mem c member)
    rw [List.cons_append, likeParts, ih later]
    · rfl
    · exact fun _ _ same => absurd same backslash
    · exact fun same => absurd same percent
    · exact fun same => absurd same underscore

theorem like_many {parts : List LikePart} {text : List Char} :
    like same (.many :: parts) text = true ↔ ∃ front back, text = front ++ back ∧
      like same parts back = true := by
  rw [like, List.any_eq_true]
  constructor
  · rintro ⟨back, tail, matched⟩
    obtain ⟨front, rfl⟩ := (List.mem_tails ..).mp tail
    exact ⟨front, back, rfl, matched⟩
  · rintro ⟨front, back, rfl, matched⟩
    exact ⟨back, (List.mem_tails ..).mpr (List.suffix_append front back), matched⟩

theorem like_chars {literal : List Char} {parts : List LikePart} {text : List Char} :
    like same (literal.map .char ++ parts) text = true ↔ ∃ front back, text = front ++ back ∧
      Alike same literal front ∧ like same parts back = true := by
  induction literal generalizing text with
  | nil =>
    constructor
    · intro matched
      exact ⟨[], text, rfl, .nil, matched⟩
    · rintro ⟨front, back, rfl, alike, matched⟩
      cases alike
      exact matched
  | cons c literal ih =>
    rw [List.map_cons, List.cons_append]
    cases text with
    | nil =>
      constructor
      · nofun
      · rintro ⟨front, back, whole, alike, -⟩
        cases alike
        cases whole
    | cons d text =>
      rw [like, Bool.and_eq_true, ih]
      constructor
      · rintro ⟨first, front, back, rfl, alike, matched⟩
        exact ⟨d :: front, back, rfl, .cons first alike, matched⟩
      · rintro ⟨front, back, whole, alike, matched⟩
        cases alike with
        | cons first alike =>
          cases whole
          exact ⟨first, _, back, rfl, alike, matched⟩

/-- A plain text between two `%` is looked for anywhere. -/
theorem like_contains {literal text : List Char} (plain : Plain literal) :
    like same (likeParts ('%' :: (literal ++ ['%']))) text = true ↔
      ∃ part, part <:+: text ∧ Alike same literal part := by
  have parts : likeParts ('%' :: (literal ++ ['%'])) =
      .many :: (literal.map .char ++ [.many]) := by
    rw [likeParts, likeParts_plain_append plain]
    rfl
  rw [parts, like_many]
  constructor
  · rintro ⟨front, rest, rfl, matched⟩
    obtain ⟨part, back, rfl, alike, -⟩ := like_chars.mp matched
    exact ⟨part, ⟨front, back, by rw [List.append_assoc]⟩, alike⟩
  · rintro ⟨part, ⟨front, back, rfl⟩, alike⟩
    refine ⟨front, part ++ back, List.append_assoc .., like_chars.mpr ⟨part, back, rfl, alike, ?_⟩⟩
    exact like_many.mpr ⟨back, [], (List.append_nil back).symm, rfl⟩

example : like (fun c d => c.toLower == d.toLower) (likeParts "%/users/_%".toList)
    "/api/Users/7".toList = true := by decide

end Foundation
