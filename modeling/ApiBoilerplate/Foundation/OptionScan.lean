import ApiBoilerplate.Foundation.ArgumentScan

/-!
# Options and their values

An argument in the position of a flag is a switch, takes the argument after it as its
value, or stops the scan. A vector so splits into items. Flags can be required to be
followed by a proper value wherever they occur in the vector, and this comes down to
the items one by one.
-/

namespace Foundation

inductive OptionKind where
  | switch
  | valued
  deriving DecidableEq, Repr

/-- One flag as the scan meets it; a flag whose value is missing is the last argument. -/
inductive OptionItem (α : Type) where
  | switch (a : α)
  | valued (a v : α)
  | missing (a : α)
  deriving DecidableEq, Repr

namespace OptionItem
variable {α : Type}

/-- No flag in `F` stands as a value, and none is without a value outside of `K`. -/
def Clean (F K : α → Prop) : OptionItem α → Prop
  | .switch _ => True
  | .valued a v => ¬ F v ∧ (F a → ¬ K v)
  | .missing a => ¬ F a

instance (F K : α → Prop) [DecidablePred F] [DecidablePred K] (item : OptionItem α) :
    Decidable (item.Clean F K) :=
  match item with
  | .switch _ => inferInstanceAs (Decidable True)
  | .valued _ _ => inferInstanceAs (Decidable (_ ∧ _))
  | .missing _ => inferInstanceAs (Decidable (¬ _))

/-- The value the item has for a flag. -/
def valueOf [DecidableEq α] (f : α) : OptionItem α → Option α
  | .valued a v => if a = f then some v else none
  | .switch _ => none
  | .missing _ => none

end OptionItem

namespace OptionScan
variable {α : Type}

/-- How a vector splits into items; no items where the scan is stopped. -/
inductive Reads (kind : α → Option OptionKind) : List α → List (OptionItem α) → Prop where
  | nil : Reads kind [] []
  | switch {a : α} {args : List α} {items : List (OptionItem α)} :
      kind a = some .switch → Reads kind args items →
      Reads kind (a :: args) (.switch a :: items)
  | valued {a v : α} {args : List α} {items : List (OptionItem α)} :
      kind a = some .valued → Reads kind args items →
      Reads kind (a :: v :: args) (.valued a v :: items)
  | missing {a : α} : kind a = some .valued → Reads kind [a] [.missing a]

/-- Every flag in `F` has an argument after it that is not in `K`. -/
def Followed (F K : α → Prop) (args : List α) : Prop :=
  ∀ i a, args[i]? = some a → F a → ∃ v, args[i + 1]? = some v ∧ ¬ K v

section Values
variable [DecidableEq α]

/-- What the last occurrence of an argument is followed by, if it occurs. -/
def lastAfter (f : α) : List α → Option (Option α)
  | [] => none
  | a :: rest => (lastAfter f rest).or (if a = f then some rest.head? else none)

/-- The value of the last item that has one for a flag. -/
def lastValue (f : α) : List (OptionItem α) → Option α
  | [] => none
  | item :: items => (lastValue f items).or (item.valueOf f)

end Values

theorem followed_cons {F K : α → Prop} {a : α} {rest : List α} :
    Followed F K (a :: rest) ↔
      (F a → ∃ v, rest.head? = some v ∧ ¬ K v) ∧ Followed F K rest := by
  constructor
  · intro followed
    refine ⟨fun flag => ?_, fun i b found flag => ?_⟩
    · rw [List.head?_eq_getElem?]
      exact followed 0 a rfl flag
    · exact followed (i + 1) b found flag
  · rintro ⟨first, later⟩ i b found flag
    cases i with
    | zero =>
      obtain rfl := Option.some.inj found
      rw [List.head?_eq_getElem?] at first
      exact first flag
    | succ i => exact later i b found flag

section Items
variable {kind : α → Option OptionKind} {F K : α → Prop} {args : List α}
  {items : List (OptionItem α)}

/-- What stands in the position of a flag is a flag. -/
theorem Reads.head {a : α} (reads : Reads kind args items) (first : args.head? = some a) :
    ∃ k, kind a = some k := by
  cases reads with
  | nil => cases first
  | switch known _ | valued known _ | missing known =>
    cases first
    exact ⟨_, known⟩

/-- Wherever the flags occur in the vector they are followed properly, exactly if every
item is clean: a flag that was taken for a value has another flag after it, or
nothing. -/
theorem Reads.followed_iff (reads : Reads kind args items)
    (valued : ∀ a, F a → kind a = some .valued) (known : ∀ a k, kind a = some k → K a) :
    Followed F K args ↔ ∀ item ∈ items, item.Clean F K := by
  induction reads with
  | nil => simp [Followed]
  | @switch a args items switched reads ih =>
    have other : ¬ F a := by
      intro flag
      rw [valued a flag] at switched
      cases switched
    rw [followed_cons, ih, List.forall_mem_cons]
    exact ⟨fun both => ⟨trivial, both.2⟩, fun both => ⟨fun flag => absurd flag other, both.2⟩⟩
  | @valued a v args items takes reads ih =>
    rw [followed_cons, followed_cons, ih, List.forall_mem_cons]
    constructor
    · rintro ⟨first, second, later⟩
      refine ⟨⟨fun flag => ?_, fun flag => ?_⟩, later⟩
      · obtain ⟨w, next, proper⟩ := second flag
        obtain ⟨k, flagged⟩ := reads.head next
        exact proper (known w k flagged)
      · obtain ⟨w, next, proper⟩ := first flag
        obtain rfl := Option.some.inj next
        exact proper
    · rintro ⟨⟨plain, proper⟩, later⟩
      exact ⟨fun flag => ⟨v, rfl, proper flag⟩, fun flag => absurd flag plain, later⟩
  | @missing a takes =>
    rw [followed_cons, List.forall_mem_singleton]
    constructor
    · rintro ⟨first, _⟩ flag
      obtain ⟨v, next, _⟩ := first flag
      cases next
    · intro other
      exact ⟨fun flag => absurd flag other, nofun⟩

/-- Of a clean reading, the last value of a flag is the argument after its last
occurrence. -/
theorem Reads.lastAfter_eq [DecidableEq α] (reads : Reads kind args items)
    (valued : ∀ a, F a → kind a = some .valued) (clean : ∀ item ∈ items, item.Clean F K) {f : α}
    (flag : F f) : lastAfter f args = (lastValue f items).map some := by
  induction reads with
  | nil => rfl
  | @switch a args items switched reads ih =>
    have other : a ≠ f := by
      rintro rfl
      rw [valued a flag] at switched
      cases switched
    rw [List.forall_mem_cons] at clean
    have valueless : OptionItem.valueOf f (.switch a) = none := rfl
    rw [lastAfter, ih clean.2, if_neg other, lastValue, valueless, Option.or_none, Option.or_none]
  | @valued a v args items takes reads ih =>
    rw [List.forall_mem_cons] at clean
    obtain ⟨⟨plain, _⟩, rest⟩ := clean
    have other : v ≠ f := by
      rintro rfl
      exact plain flag
    rw [lastAfter, lastAfter, ih rest, if_neg other, Option.or_none, lastValue,
      OptionItem.valueOf]
    by_cases same : a = f
    · rw [if_pos same, if_pos same]
      cases lastValue f items <;> rfl
    · rw [if_neg same, if_neg same, Option.or_none, Option.or_none]
  | @missing a takes =>
    have other : a ≠ f := by
      rintro rfl
      exact clean _ List.mem_cons_self flag
    simp [lastAfter, lastValue, OptionItem.valueOf, other]

end Items

section Scan
variable {ε σ : Type}

/-- A step that treats an argument by its kind: it fails on what is no flag, and only
there. -/
structure Regular (kind : α → Option OptionKind) (step : ArgumentStep ε σ α) : Prop where
  stops : ∀ s a next, kind a = none → ∃ e, step s a next = .error e
  switch : ∀ s a, kind a = some .switch → ∃ t, ∀ next, step s a next = .ok (t, false)
  valued : ∀ s a next, kind a = some .valued → ∃ t, step s a next = .ok (t, true)

/-- What an item does to the variables of the scan. -/
def applyItem (step : ArgumentStep ε σ α) (s : σ) : OptionItem α → σ
  | .switch a => ((step s a none).map Prod.fst).toOption.getD s
  | .valued a v => ((step s a (some v)).map Prod.fst).toOption.getD s
  | .missing a => ((step s a none).map Prod.fst).toOption.getD s

variable {kind : α → Option OptionKind} {step : ArgumentStep ε σ α}

theorem Regular.of_switch (regular : Regular kind step) {s : σ} {a : α}
    (known : kind a = some .switch) (next : Option α) :
    step s a next = .ok (applyItem step s (.switch a), false) := by
  obtain ⟨t, done⟩ := regular.switch s a known
  rw [done, applyItem, done]
  rfl

theorem Regular.of_valued (regular : Regular kind step) {s : σ} {a v : α}
    (known : kind a = some .valued) :
    step s a (some v) = .ok (applyItem step s (.valued a v), true) := by
  obtain ⟨t, done⟩ := regular.valued s a (some v) known
  rw [applyItem, done]
  rfl

theorem Regular.of_missing (regular : Regular kind step) {s : σ} {a : α}
    (known : kind a = some .valued) :
    step s a none = .ok (applyItem step s (.missing a), true) := by
  obtain ⟨t, done⟩ := regular.valued s a none known
  rw [applyItem, done]
  rfl

/-- The scan succeeds on the vectors that split into items, and applies these in turn. -/
theorem Regular.scan_ok_iff (regular : Regular kind step) (args : List α) (s t : σ) :
    step.scan args s = .ok t ↔
      ∃ items, Reads kind args items ∧ t = items.foldl (applyItem step) s := by
  constructor
  · intro accepted
    induction args, s using ArgumentStep.scan.induct step with
    | case1 s => exact ⟨[], .nil, (Except.ok.inj accepted).symm⟩
    | case2 a s =>
      rw [ArgumentStep.scan] at accepted
      rcases known : kind a with _ | _ | _
      · obtain ⟨e, stopped⟩ := regular.stops s a none known
        simp [stopped, Except.map] at accepted
      · rw [regular.of_switch known] at accepted
        exact ⟨[.switch a], .switch known .nil, (Except.ok.inj accepted).symm⟩
      · rw [regular.of_missing known] at accepted
        exact ⟨[.missing a], .missing known, (Except.ok.inj accepted).symm⟩
    | case3 a b rest s e failed =>
      rw [ArgumentStep.scan, failed] at accepted
      cases accepted
    | case4 a b rest s u taken ih =>
      rw [ArgumentStep.scan, taken] at accepted
      rcases known : kind a with _ | _ | _
      · obtain ⟨e, stopped⟩ := regular.stops s a (some b) known
        rw [stopped] at taken
        cases taken
      · rw [regular.of_switch known] at taken
        cases taken
      · rw [regular.of_valued known] at taken
        cases taken
        obtain ⟨items, reads, same⟩ := ih accepted
        exact ⟨.valued a b :: items, .valued known reads, same⟩
    | case5 a b rest s u alone ih =>
      rw [ArgumentStep.scan, alone] at accepted
      rcases known : kind a with _ | _ | _
      · obtain ⟨e, stopped⟩ := regular.stops s a (some b) known
        rw [stopped] at alone
        cases alone
      · rw [regular.of_switch known] at alone
        cases alone
        obtain ⟨items, reads, same⟩ := ih accepted
        exact ⟨.switch a :: items, .switch known reads, same⟩
      · rw [regular.of_valued known] at alone
        cases alone
  · rintro ⟨items, reads, rfl⟩
    induction reads generalizing s with
    | nil => rfl
    | switch switched reads ih =>
      rw [ArgumentStep.scan_cons, regular.of_switch switched]
      exact ih _
    | valued takes reads ih =>
      rw [ArgumentStep.scan_cons, List.head?_cons, regular.of_valued takes]
      exact ih _
    | missing takes =>
      rw [ArgumentStep.scan_cons, List.head?_nil, regular.of_missing takes]
      rfl

/-- A variable that holds the value of a flag, after some items. -/
theorem foldl_value [DecidableEq α] {f : α} {field : σ → Option α}
    (each : ∀ s item, field (applyItem step s item) = (item.valueOf f).or (field s))
    (items : List (OptionItem α)) (s : σ) :
    field (items.foldl (applyItem step) s) = (lastValue f items).or (field s) := by
  induction items generalizing s with
  | nil => rfl
  | cons item items ih => rw [List.foldl_cons, ih, each, lastValue, Option.or_assoc]

theorem foldl_lastValue [DecidableEq α] {f : α} {field : σ → Option α}
    (each : ∀ s item, field (applyItem step s item) = (item.valueOf f).or (field s))
    (items : List (OptionItem α)) {s : σ} (unset : field s = none) :
    field (items.foldl (applyItem step) s) = lastValue f items := by
  rw [foldl_value each, unset, Option.or_none]

end Scan
end OptionScan
end Foundation
