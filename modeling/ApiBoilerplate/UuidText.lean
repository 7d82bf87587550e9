import ApiBoilerplate.Uuid

/-!
# The texts of a UUID

A UUID is written in four forms, with its digits in either letter case. A
reader accepts all of them, and `Display` prints one: hyphenated, in lower
case. The others are the aliases of the UUID.
-/

namespace ApiBoilerplate
namespace Uuid

inductive Form where
  | simple
  | hyphenated
  | braced
  | urn
  deriving DecidableEq, Repr

namespace Form

def urnPrefix : List Char := ['u', 'r', 'n', ':', 'u', 'u', 'i', 'd', ':']

def write : Form → List Char → List Char
  | .simple, digits => digits
  | .hyphenated, digits => hyphenate digits
  | .braced, digits => '{' :: (hyphenate digits ++ ['}'])
  | .urn, digits => urnPrefix ++ hyphenate digits

/-- How long a text of this form is. -/
def width : Form → Nat
  | .simple => 32
  | .hyphenated => 36
  | .braced => 38
  | .urn => 45

def ofWidth : Nat → Option Form
  | 32 => some .simple
  | 36 => some .hyphenated
  | 38 => some .braced
  | 45 => some .urn
  | _ => none

/-- What is left of a text of this form without its punctuation. -/
def digitsOf : Form → List Char → List Char
  | .simple, chars => chars
  | .hyphenated, chars => chars.filter (fun c => c ≠ '-')
  | .braced, chars => chars.tail.dropLast.filter (fun c => c ≠ '-')
  | .urn, chars => (chars.drop 9).filter (fun c => c ≠ '-')

theorem ofWidth_width (form : Form) : ofWidth form.width = some form := by
  cases form <;> rfl

theorem width_injective {form other : Form} (same : form.width = other.width) : form = other := by
  have read := ofWidth_width other
  rw [← same, ofWidth_width] at read
  exact Option.some.inj read

theorem length_write (form : Form) {digits : List Char} (full : digits.length = 32) :
    (form.write digits).length = form.width := by
  have hyphens : (hyphenate digits).length = 36 := by
    simp [hyphenate, full]
  cases form with
  | simple => exact full
  | hyphenated => exact hyphens
  | braced => simp [write, width, hyphens]
  | urn =>
    rw [write, List.length_append, hyphens]
    rfl

theorem digitsOf_write (form : Form) {digits : List Char} (plain : ∀ c ∈ digits, c ≠ '-') :
    form.digitsOf (form.write digits) = digits := by
  have body := filter_hyphenate digits plain
  cases form with
  | simple => rfl
  | hyphenated => exact body
  | braced =>
    rw [write, digitsOf, List.tail_cons, List.dropLast_concat]
    exact body
  | urn =>
    have skipped : (urnPrefix ++ hyphenate digits).drop 9 = hyphenate digits :=
      List.drop_left' rfl
    rw [write, digitsOf, skipped]
    exact body

/-- The text is `u` in this form, whatever the case of its digits. -/
def Spells (form : Form) (u : Uuid) (text : String) : Prop :=
  ∃ digits : List Char, digits.map Char.toLower = u.simple ∧ text.toList = form.write digits

end Form

theorem length_simple (u : Uuid) : u.simple.length = 32 := by
  rw [simple, List.length_map, List.length_range]

theorem toLower_hexDigit {n : Nat} (hn : n < 16) : (hexDigit n).toLower = hexDigit n := by
  interval_cases n <;> decide

theorem simple_lower (u : Uuid) : u.simple.map Char.toLower = u.simple := by
  rw [simple, List.map_map]
  apply List.map_congr_left
  intro i _
  exact toLower_hexDigit (Nat.mod_lt _ (by omega))

theorem length_of_lower {u : Uuid} {digits : List Char}
    (lowered : digits.map Char.toLower = u.simple) : digits.length = 32 := by
  rw [← length_simple u, ← lowered, List.length_map]

theorem plain_of_lower {u : Uuid} {digits : List Char}
    (lowered : digits.map Char.toLower = u.simple) : ∀ c ∈ digits, c ≠ '-' := by
  intro c hc hyphen
  have member : c.toLower ∈ u.simple := by
    rw [← lowered]
    exact List.mem_map_of_mem hc
  refine u.simple_plain _ member ?_
  rw [hyphen]
  decide

theorem Form.Spells.width {form : Form} {u : Uuid} {text : String} (spelled : form.Spells u text) :
    text.toList.length = form.width := by
  obtain ⟨digits, lowered, written⟩ := spelled
  rw [written, form.length_write (length_of_lower lowered)]

theorem spells_hyphenated (u : Uuid) : Form.hyphenated.Spells u u.hyphenated :=
  ⟨u.simple, u.simple_lower, by rw [hyphenated, String.toList_ofList, Form.write]⟩

/-- The UUID a text of the given form spells, if it has that form. -/
def readForm (form : Form) (chars : List Char) : Option Uuid :=
  let digits := form.digitsOf chars
  let lowered := digits.map Char.toLower
  let uuid : Uuid := BitVec.ofNat 128 (ofDigits (lowered.map hexValue))
  if uuid.simple = lowered ∧ form.write digits = chars then some uuid else none

/-- Reads every form; the length of the text says which. -/
def parseStr (text : String) : Option Uuid :=
  (Form.ofWidth text.toList.length).bind (fun form => readForm form text.toList)

/-- A reader of UUIDs accepts the four forms, in either letter case, and
nothing else. -/
def ReadsForms (parseStr : String → Option Uuid) : Prop :=
  ∀ text u, parseStr text = some u ↔ ∃ form : Form, form.Spells u text

theorem readForm_iff {form : Form} {text : String} {u : Uuid} :
    readForm form text.toList = some u ↔ form.Spells u text := by
  constructor
  · intro read
    rw [readForm] at read
    split at read
    · rename_i matched
      obtain rfl := Option.some.inj read
      exact ⟨_, matched.1.symm, matched.2.symm⟩
    · cases read
  · rintro ⟨digits, lowered, written⟩
    have stripped : form.digitsOf text.toList = digits := by
      rw [written]
      exact form.digitsOf_write (plain_of_lower lowered)
    have value : BitVec.ofNat 128 (ofDigits (u.simple.map hexValue)) = u := by
      rw [ofDigits_simple, BitVec.ofNat_toNat, BitVec.setWidth_eq]
    rw [readForm, stripped, lowered, value]
    exact if_pos ⟨rfl, written.symm⟩

theorem parseStr_reads : ReadsForms parseStr := by
  intro text u
  rw [parseStr, Option.bind_eq_some_iff]
  constructor
  · rintro ⟨form, _, read⟩
    exact ⟨form, readForm_iff.mp read⟩
  · rintro ⟨form, spelled⟩
    refine ⟨form, ?_, readForm_iff.mpr spelled⟩
    rw [spelled.width]
    exact form.ofWidth_width

/-- A text of `u` other than the one `Display` prints: the hyphenated form with
a digit in upper case, or one of the other forms. -/
inductive Alias (u : Uuid) (text : String) : Prop where
  | cased (digits : List Char) : digits.map Char.toLower = u.simple → digits ≠ u.simple →
      text.toList = hyphenate digits → Alias u text
  | formed {form : Form} : form ≠ .hyphenated → form.Spells u text → Alias u text

theorem Alias.ne_hyphenated {u : Uuid} {text : String} (known : u.Alias text) :
    text ≠ u.hyphenated := by
  rintro rfl
  cases known with
  | cased digits lowered upper written =>
    have same := congrArg (List.filter (fun c => c ≠ '-')) written
    rw [hyphenated, String.toList_ofList, filter_hyphenate _ u.simple_plain,
      filter_hyphenate _ (plain_of_lower lowered)] at same
    exact upper same.symm
  | formed other spelled =>
    exact other (Form.width_injective (spelled.width.symm.trans u.spells_hyphenated.width))

/-- A text is read as `u` when it is the printed one or an alias. -/
theorem spelled_iff {u : Uuid} {text : String} :
    (∃ form : Form, form.Spells u text) ↔ text = u.hyphenated ∨ u.Alias text := by
  constructor
  · rintro ⟨form, spelled⟩
    by_cases plain : form = .hyphenated
    · subst plain
      obtain ⟨digits, lowered, written⟩ := spelled
      by_cases canonical : digits = u.simple
      · rw [canonical] at written
        exact Or.inl (String.ext (written.trans String.toList_ofList.symm))
      · exact Or.inr (.cased digits lowered canonical written)
    · exact Or.inr (.formed plain spelled)
  · rintro (rfl | known)
    · exact ⟨.hyphenated, u.spells_hyphenated⟩
    · cases known with
      | cased digits lowered _ written => exact ⟨.hyphenated, digits, lowered, written⟩
      | formed _ spelled => exact ⟨_, spelled⟩

instance (u : Uuid) (text : String) : Decidable (u.Alias text) :=
  decidable_of_iff (parseStr text = some u ∧ text ≠ u.hyphenated) (by
    rw [parseStr_reads text u, spelled_iff]
    constructor
    · rintro ⟨rfl | known, other⟩
      · exact absurd rfl other
      · exact known
    · exact fun known => ⟨Or.inr known, known.ne_hyphenated⟩)

example : parseStr "{67E55044-10b1-426F-9247-bb680e5fe0c8}" =
    some 0x67e5504410b1426f9247bb680e5fe0c8#128 := by decide

end Uuid
end ApiBoilerplate
