import Mathlib.Data.List.Basic
import Mathlib.Data.List.Range
import Mathlib.Tactic.IntervalCases

/-!
# UUIDs and clock readings

A UUID is 128 bits. Its text is the hyphenated lower-case form that both
`Display` and `to_string` print, which names jobs in the database and users in
topics. Reading that text back gives the UUID, so distinct UUIDs have distinct
texts.
-/

namespace ApiBoilerplate

/-- Nanoseconds since the epoch. -/
abbrev DateTime := Int

namespace DateTime

/-- What a `DATETIME(3)` or `TIMESTAMP(3)` column keeps: the driver sends whole
microseconds, which the database rounds half up to milliseconds. -/
def stored (t : Int) : Int := (t / 1000 + 500) / 1000 * 1000000

/-- `NOW()`, a whole second. -/
def sqlNow (t : Int) : Int := t / 1000000000 * 1000000000

theorem stored_of_millis {t : Int} (whole : 1000000 ∣ t) : stored t = t := by
  obtain ⟨k, rfl⟩ := whole
  unfold stored
  omega

theorem sqlNow_le (t : Int) : sqlNow t ≤ t := by
  unfold sqlNow
  omega

/-- A time is kept as one that has come while less than half a millisecond is left. -/
theorem stored_le_sqlNow_iff {t now : Int} :
    stored t ≤ sqlNow now ↔ t < sqlNow now + 500000 := by
  unfold stored sqlNow
  omega

theorem stored_le_sqlNow {t now : Int} (due : t ≤ sqlNow now) : stored t ≤ sqlNow now :=
  stored_le_sqlNow_iff.mpr (by omega)

/-- A time that a second is not just over does not come just after `NOW()`. -/
theorem sqlNow_add_le {t now : Int} (clear : t % 1000000000 = 0 ∨ 500000 ≤ t % 1000000000)
    (early : sqlNow now < t) : sqlNow now + 500000 ≤ t := by
  unfold sqlNow at early ⊢
  omega

end DateTime

abbrev Uuid := BitVec 128

namespace Uuid

def hexDigit (n : Nat) : Char := if n < 10 then Char.ofNat (48 + n) else Char.ofNat (87 + n)

/-- The `i`-th hexadecimal digit from the right. -/
def nibble (u : Uuid) (i : Nat) : Nat := u.toNat / 16 ^ i % 16

/-- The 32 digits, most significant first. -/
def simple (u : Uuid) : List Char := (List.range 32).map (fun i => hexDigit (u.nibble (31 - i)))

def hyphenate (ds : List Char) : List Char :=
  ds.take 8 ++ '-' :: (ds.drop 8).take 4 ++ '-' :: (ds.drop 12).take 4 ++
    '-' :: (ds.drop 16).take 4 ++ '-' :: ds.drop 20

def hyphenated (u : Uuid) : String := String.ofList (hyphenate u.simple)

/-- The value of a lower-case hexadecimal digit. -/
def hexValue (c : Char) : Nat := if c.toNat < 58 then c.toNat - 48 else c.toNat - 87

def ofDigits (ds : List Nat) : Nat := ds.foldl (fun value d => 16 * value + d) 0

/-- Read the text of a UUID; only the text `hyphenated` prints is accepted. -/
def ofHyphenated (text : String) : Option Uuid :=
  let digits := (text.toList.filter (fun c => c ≠ '-')).map hexValue
  let uuid : Uuid := BitVec.ofNat 128 (ofDigits digits)
  if uuid.hyphenated = text then some uuid else none

theorem hexValue_hexDigit {n : Nat} (hn : n < 16) : hexValue (hexDigit n) = n := by
  interval_cases n <;> decide

theorem hexDigit_ne_hyphen {n : Nat} (hn : n < 16) : hexDigit n ≠ '-' := by
  interval_cases n <;> decide

/-- The last `k` digits of a number, most significant first. -/
theorem ofDigits_range (k : Nat) : ∀ a : Nat,
    ofDigits ((List.range k).map (fun i => a / 16 ^ (k - 1 - i) % 16)) = a % 16 ^ k := by
  induction k with
  | zero => intro a; simp [ofDigits, Nat.mod_one]
  | succ k ih =>
    intro a
    have high : (List.range k).map (fun i => a / 16 ^ (k + 1 - 1 - i) % 16) =
        (List.range k).map (fun i => a / 16 / 16 ^ (k - 1 - i) % 16) := by
      apply List.map_congr_left
      intro i hi
      have below := List.mem_range.mp hi
      rw [Nat.div_div_eq_div_mul, ← Nat.pow_succ']
      congr 3
      omega
    have shift : ∀ ds d, ofDigits (ds ++ [d]) = 16 * ofDigits ds + d := fun ds d => by
      simp [ofDigits]
    rw [List.range_succ, List.map_append, List.map_singleton, shift, high, ih (a / 16)]
    have last : a / 16 ^ (k + 1 - 1 - k) % 16 = a % 16 := by simp
    rw [last, Nat.pow_succ', Nat.mod_mul, Nat.add_comm]

theorem ofDigits_simple (u : Uuid) : ofDigits (u.simple.map hexValue) = u.toNat := by
  have values : u.simple.map hexValue =
      (List.range 32).map (fun i => u.toNat / 16 ^ (32 - 1 - i) % 16) := by
    rw [simple, List.map_map]
    apply List.map_congr_left
    intro i _
    exact hexValue_hexDigit (Nat.mod_lt _ (by omega))
  rw [values, ofDigits_range]
  exact Nat.mod_eq_of_lt u.isLt

theorem filter_hyphenate (ds : List Char) (plain : ∀ c ∈ ds, c ≠ '-') :
    (hyphenate ds).filter (fun c => c ≠ '-') = ds := by
  have kept : ∀ part : List Char, part ⊆ ds → part.filter (fun c => c ≠ '-') = part := by
    intro part sub
    apply List.filter_eq_self.mpr
    intro c hc
    simpa using plain c (sub hc)
  have takeDrop : ∀ n, (ds.drop n).take 4 ⊆ ds := fun n =>
    List.Subset.trans (List.take_subset 4 _) (List.drop_subset n ds)
  have joined : ∀ n, (ds.drop n).take 4 ++ ds.drop (n + 4) = ds.drop n := by
    intro n
    rw [← List.drop_drop]
    exact List.take_append_drop 4 _
  simp only [hyphenate, List.filter_append, List.filter_cons, kept _ (List.take_subset 8 ds),
    kept _ (takeDrop 8), kept _ (takeDrop 12), kept _ (takeDrop 16),
    kept _ (List.drop_subset 20 ds)]
  simp [joined]

theorem simple_plain (u : Uuid) : ∀ c ∈ u.simple, c ≠ '-' := by
  intro c hc
  obtain ⟨i, _, rfl⟩ := List.mem_map.mp hc
  exact hexDigit_ne_hyphen (Nat.mod_lt _ (by omega))

theorem ofHyphenated_hyphenated (u : Uuid) : ofHyphenated u.hyphenated = some u := by
  have digits : (u.hyphenated.toList.filter (fun c => c ≠ '-')) = u.simple := by
    rw [hyphenated, String.toList_ofList]
    exact filter_hyphenate _ u.simple_plain
  have back : BitVec.ofNat 128 (ofDigits (u.simple.map hexValue)) = u := by
    rw [ofDigits_simple, BitVec.ofNat_toNat, BitVec.setWidth_eq]
  simp only [ofHyphenated, digits, back, if_true]

theorem hyphenated_injective {u v : Uuid} (h : u.hyphenated = v.hyphenated) : u = v := by
  have same := ofHyphenated_hyphenated v
  rw [← h, ofHyphenated_hyphenated] at same
  exact Option.some.inj same

theorem mem_hyphenated {u : Uuid} {c : Char} (hc : c ∈ u.hyphenated.toList) :
    c = '-' ∨ ∃ n, n < 16 ∧ c = hexDigit n := by
  have digit : c ∈ u.simple → ∃ n, n < 16 ∧ c = hexDigit n := by
    intro member
    obtain ⟨i, _, rfl⟩ := List.mem_map.mp member
    exact ⟨_, Nat.mod_lt _ (by omega), rfl⟩
  rw [hyphenated, String.toList_ofList] at hc
  simp only [hyphenate, List.mem_append, List.mem_cons] at hc
  rcases hc with (((h | rfl | h) | rfl | h) | rfl | h) | rfl | h
  · exact Or.inr (digit (List.mem_of_mem_take h))
  · exact Or.inl rfl
  · exact Or.inr (digit (List.mem_of_mem_drop (List.mem_of_mem_take h)))
  · exact Or.inl rfl
  · exact Or.inr (digit (List.mem_of_mem_drop (List.mem_of_mem_take h)))
  · exact Or.inl rfl
  · exact Or.inr (digit (List.mem_of_mem_drop (List.mem_of_mem_take h)))
  · exact Or.inl rfl
  · exact Or.inr (digit (List.mem_of_mem_drop h))

example : hyphenated 0x67e5504410b1426f9247bb680e5fe0c8#128 =
    "67e55044-10b1-426f-9247-bb680e5fe0c8" := by decide

end Uuid
end ApiBoilerplate
