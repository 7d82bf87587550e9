import Mathlib.Data.List.Basic

/-!
# Unix paths and the directories they lead to

A path is kept by its components. Where it leads is up to the directories: each
component is one step from a directory, the parent's name `..` included, so that
links need no care here.
-/

namespace Foundation

/-- A path by its components; an empty one and `.` make no step. -/
structure UnixPath where
  absolute : Bool
  parts : List String
  deriving DecidableEq, Repr

namespace UnixPath

/-- What stands between the separators. -/
def segments (text : List Char) : List (List Char) := text.splitOnP (· = '/')

def steps (segment : List Char) : Bool := segment ≠ [] && segment ≠ ['.']

def partsOf (segments : List (List Char)) : List String :=
  (segments.filter steps).map String.ofList

def isAbsolute (text : List Char) : Bool := text.head? = some '/'

def ofText (text : List Char) : UnixPath := ⟨isAbsolute text, partsOf (segments text)⟩

/-- The components before the last separator. -/
def directoryParts (text : List Char) : List String := partsOf (segments text).dropLast

/-- The text after the last separator. -/
def baseName (text : List Char) : List Char := (segments text).getLast (List.splitOnP_ne_nil _ _)

theorem segments_cons (c : Char) (text : List Char) :
    segments (c :: text) =
      if c = '/' then [] :: segments text else (segments text).modifyHead (c :: ·) := by
  rw [segments, List.splitOnP_cons_eq_if_modifyHead]
  simp only [decide_eq_true_eq]
  rfl

theorem segments_ne_nil (text : List Char) : segments text ≠ [] := List.splitOnP_ne_nil _ _

theorem segments_of_plain {text : List Char} (plain : '/' ∉ text) : segments text = [text] := by
  apply List.splitOnP_eq_singleton
  intro c member
  have other : c ≠ '/' := fun slash => plain (slash ▸ member)
  simpa using other

/-- A suffix without a separator only changes what follows the last one. -/
theorem segments_append {suffix : List Char} (plain : '/' ∉ suffix) (text : List Char) :
    segments (text ++ suffix) = (segments text).dropLast ++ [baseName text ++ suffix] := by
  induction text with
  | nil =>
    rw [List.nil_append, segments_of_plain plain]
    rfl
  | cons c text ih =>
    have cut := segments_cons c text
    obtain ⟨first, rest, whole⟩ := List.exists_cons_of_ne_nil (segments_ne_nil text)
    simp only [baseName] at ih ⊢
    rw [List.cons_append, segments_cons, ih]
    by_cases slash : c = '/'
    · simp only [slash, if_true, whole] at cut ⊢
      simp [cut]
    · simp only [if_neg slash, whole, List.modifyHead_cons] at cut ⊢
      cases rest with
      | nil => simp [cut]
      | cons second rest => simp [cut]

theorem segments_append_slash (text more : List Char) :
    segments (text ++ '/' :: more) = segments text ++ segments more := by
  induction text with
  | nil =>
    rw [List.nil_append, segments_cons, if_pos rfl, segments_of_plain List.not_mem_nil]
    rfl
  | cons c text ih =>
    rw [List.cons_append, segments_cons, segments_cons, ih]
    by_cases slash : c = '/'
    · rw [if_pos slash, if_pos slash, List.cons_append]
    · obtain ⟨first, rest, whole⟩ := List.exists_cons_of_ne_nil (segments_ne_nil text)
      rw [if_neg slash, if_neg slash, whole, List.cons_append, List.modifyHead_cons,
        List.modifyHead_cons, List.cons_append]

theorem isAbsolute_append {suffix : List Char} (plain : '/' ∉ suffix) (text : List Char) :
    isAbsolute (text ++ suffix) = isAbsolute text := by
  cases text with
  | cons c text => rfl
  | nil =>
    cases suffix with
    | nil => rfl
    | cons c suffix =>
      have other : c ≠ '/' := fun slash => plain (slash ▸ List.mem_cons_self)
      simp [isAbsolute, other]

/-- A suffix that keeps the last segment a step is part of the last component. -/
theorem ofText_append {text suffix : List Char} (plain : '/' ∉ suffix)
    (kept : steps (baseName text ++ suffix) = true) :
    ofText (text ++ suffix) =
      ⟨isAbsolute text, directoryParts text ++ [String.ofList (baseName text ++ suffix)]⟩ := by
  rw [ofText, isAbsolute_append plain, segments_append plain, partsOf, List.filter_append,
    List.map_append, List.filter_cons_of_pos kept]
  rfl

theorem directoryParts_of_plain {text : List Char} (plain : '/' ∉ text) :
    directoryParts text = [] := by
  rw [directoryParts, segments_of_plain plain]
  rfl

theorem baseName_of_plain {text : List Char} (plain : '/' ∉ text) : baseName text = text := by
  simp only [baseName, segments_of_plain plain, List.getLast_singleton]

theorem isAbsolute_of_plain {text : List Char} (plain : '/' ∉ text) : isAbsolute text = false := by
  cases text with
  | nil => rfl
  | cons c text =>
    have other : c ≠ '/' := fun slash => plain (slash ▸ List.mem_cons_self)
    simp [isAbsolute, other]

/-- An absolute path takes the place of the one it is joined to. -/
def join (p : UnixPath) (text : List Char) : UnixPath :=
  let q := ofText text
  if q.absolute then q else ⟨p.absolute, p.parts ++ q.parts⟩

/-- `PathBuf::push`, on the texts. -/
def pushText (text more : List Char) : List Char :=
  if isAbsolute more then more
  else if text.getLast? = none ∨ text.getLast? = some '/' then text ++ more
  else text ++ '/' :: more

/-- The path without its last component. -/
def parent (p : UnixPath) : Option UnixPath :=
  if p.parts = [] then none else some { p with parts := p.parts.dropLast }

theorem partsOf_append (segments segments' : List (List Char)) :
    partsOf (segments ++ segments') = partsOf segments ++ partsOf segments' := by
  rw [partsOf, List.filter_append, List.map_append]
  rfl

/-- Texts are joined as the paths are that they stand for. -/
theorem ofText_pushText (text more : List Char) :
    ofText (pushText text more) = (ofText text).join more := by
  rw [pushText, join]
  by_cases absolute : isAbsolute more
  · rw [if_pos absolute]
    exact (if_pos absolute).symm
  · rw [if_neg absolute, show (ofText more).absolute = false from Bool.eq_false_iff.mpr absolute,
      if_neg Bool.false_ne_true]
    rcases List.eq_nil_or_concat' text with rfl | ⟨front, last, rfl⟩
    · exact congrArg (UnixPath.mk · _) (Bool.eq_false_iff.mpr absolute)
    · have joined (ending : List Char) : isAbsolute (front ++ '/' :: ending) =
          isAbsolute (front ++ ['/']) := by
        cases front <;> rfl
      by_cases slash : last = '/'
      · subst slash
        have whole : front ++ ['/'] ++ more = front ++ '/' :: more := by simp
        rw [if_pos (Or.inr List.getLast?_concat), whole, ofText, ofText, segments_append_slash,
          segments_append_slash, partsOf_append, partsOf_append, joined more]
        simp [partsOf, segments_of_plain, steps, ofText]
      · have unended : ¬((front ++ [last]).getLast? = none ∨
            (front ++ [last]).getLast? = some '/') := by simp [slash]
        have kept : isAbsolute ((front ++ [last]) ++ '/' :: more) =
            isAbsolute (front ++ [last]) := by
          cases front <;> rfl
        rw [if_neg unended, ofText, kept, segments_append_slash, partsOf_append]
        rfl

end UnixPath

universe u

structure Directories (δ : Type u) where
  root : δ
  working : δ
  /-- The directory one step away, under a name or under `..`. -/
  enter : δ → String → Option δ

namespace Directories
variable {δ : Type u} (dirs : Directories δ)

def walk (d : δ) (parts : List String) : Option δ := parts.foldlM dirs.enter d

def start (p : UnixPath) : δ := if p.absolute then dirs.root else dirs.working

/-- The directory a path stands for. -/
def resolve (p : UnixPath) : Option δ := dirs.walk (dirs.start p) p.parts

/-- The directory of an entry and the entry's name in it. -/
def locate (p : UnixPath) : Option (δ × String) :=
  match p.parts.getLast? with
  | none => none
  | some name =>
    if name = ".." then none
    else (dirs.walk (dirs.start p) p.parts.dropLast).map fun d => (d, name)

/-- Where the directory part of a text leads, joined to a directory. -/
def lead (d : δ) (text : List Char) : Option δ :=
  dirs.walk (if UnixPath.isAbsolute text then dirs.root else d) (UnixPath.directoryParts text)

theorem walk_append (d : δ) (parts parts' : List String) :
    dirs.walk d (parts ++ parts') = (dirs.walk d parts).bind fun e => dirs.walk e parts' := by
  rw [walk, List.foldlM_append]
  rfl

theorem walk_resolved {p : UnixPath} {d : δ} (resolved : dirs.resolve p = some d)
    (parts : List String) : dirs.walk (dirs.start p) (p.parts ++ parts) = dirs.walk d parts := by
  rw [resolve] at resolved
  rw [walk_append, resolved]
  rfl

theorem locate_append {absolute : Bool} {name : String} (named : name ≠ "..")
    (parts : List String) :
    dirs.locate ⟨absolute, parts ++ [name]⟩ =
      (dirs.walk (if absolute then dirs.root else dirs.working) parts).map fun d => (d, name) := by
  simp only [locate, List.getLast?_concat, List.dropLast_concat, if_neg named, start]

/-- A file name joined to a resolved directory lies where its own directory part
leads from there. -/
theorem locate_join {p : UnixPath} {d : δ} {text suffix : List Char}
    (resolved : dirs.resolve p = some d) (plain : '/' ∉ suffix)
    (kept : UnixPath.steps (UnixPath.baseName text ++ suffix) = true)
    (named : String.ofList (UnixPath.baseName text ++ suffix) ≠ "..") :
    dirs.locate (p.join (text ++ suffix)) =
      (dirs.lead d text).map fun e => (e, String.ofList (UnixPath.baseName text ++ suffix)) := by
  rw [UnixPath.join, UnixPath.ofText_append plain kept, lead]
  by_cases absolute : UnixPath.isAbsolute text
  · simp only [absolute, if_true]
    rw [locate_append dirs named, if_pos rfl]
  · simp only [absolute, Bool.false_eq_true, if_false]
    rw [← List.append_assoc, locate_append dirs named, ← walk_resolved dirs resolved, start]

theorem lead_of_plain {d : δ} {text : List Char} (plain : '/' ∉ text) :
    dirs.lead d text = some d := by
  rw [lead, UnixPath.isAbsolute_of_plain plain, UnixPath.directoryParts_of_plain plain]
  rfl

theorem locate_join_of_plain {p : UnixPath} {d : δ} {name : List Char}
    (resolved : dirs.resolve p = some d) (plain : '/' ∉ name) (kept : UnixPath.steps name = true)
    (named : String.ofList name ≠ "..") :
    dirs.locate (p.join name) = some (d, String.ofList name) := by
  have whole : UnixPath.baseName name ++ [] = name := by
    rw [UnixPath.baseName_of_plain plain, List.append_nil]
  have joined := locate_join dirs resolved (List.not_mem_nil (a := '/')) (by rwa [whole])
    (by rwa [whole])
  rwa [List.append_nil, whole, dirs.lead_of_plain plain] at joined

/-- The parent of a path that locates an entry resolves to the entry's directory. -/
theorem resolve_parent {p : UnixPath} {d : δ} {name : String}
    (located : dirs.locate p = some (d, name)) :
    ∃ q, p.parent = some q ∧ dirs.resolve q = some d := by
  rw [locate] at located
  cases last : p.parts.getLast? with
  | none =>
    rw [last] at located
    cases located
  | some final =>
    simp only [last] at located
    have some_parts : p.parts ≠ [] := fun none => by simp [none] at last
    by_cases up : final = ".."
    · simp [up] at located
    · simp only [if_neg up, Option.map_eq_some_iff, Prod.mk.injEq] at located
      obtain ⟨e, walked, rfl, _⟩ := located
      exact ⟨_, if_neg some_parts, walked⟩

end Directories
end Foundation
