/-!
Outcomes of computations that may fail. A computation in parts succeeds iff each of its parts does.
-/

namespace Variants.Outcome

variable {ε α β : Type}

theorem bind_eq_ok_iff {first : Except ε α} {next : α → Except ε β} {b : β} :
    first >>= next = .ok b ↔ ∃ a, first = .ok a ∧ next a = .ok b := by
  cases first with
  | error cause => simp [bind, Except.bind]
  | ok a => simp [bind, Except.bind]

theorem bind_eq_error_iff {first : Except ε α} {next : α → Except ε β} {cause : ε} :
    first.bind next = .error cause ↔
      first = .error cause ∨ ∃ a, first = .ok a ∧ next a = .error cause := by
  cases first with
  | error other => simp [Except.bind]
  | ok a => simp [Except.bind]

theorem map_eq_ok_iff {outcome : Except ε α} {f : α → β} {b : β} :
    outcome.map f = .ok b ↔ ∃ a, outcome = .ok a ∧ f a = b := by
  cases outcome with
  | error cause => simp [Except.map]
  | ok a => simp [Except.map]

theorem map_eq_error_iff {outcome : Except ε α} {f : α → β} {cause : ε} :
    outcome.map f = .error cause ↔ outcome = .error cause := by
  cases outcome with
  | error other => simp [Except.map]
  | ok a => simp [Except.map]

theorem toOption_eq_some_iff {outcome : Except ε α} {a : α} :
    outcome.toOption = some a ↔ outcome = .ok a := by
  cases outcome with
  | error cause => simp [Except.toOption]
  | ok b => simp [Except.toOption]

theorem toOption_bind (first : Except ε α) (next : α → Except ε β) :
    (first >>= next).toOption = first.toOption.bind fun a => (next a).toOption := by
  cases first with
  | error cause => rfl
  | ok a => rfl

theorem toOption_map (outcome : Except ε α) (f : α → β) :
    (outcome.map f).toOption = outcome.toOption.map f := by
  cases outcome with
  | error cause => rfl
  | ok a => rfl

theorem mapError_eq_ok_iff {ε' : Type} {outcome : Except ε α} {f : ε → ε'} {a : α} :
    outcome.mapError f = .ok a ↔ outcome = .ok a := by
  cases outcome with
  | error cause => exact ⟨nofun, nofun⟩
  | ok other =>
      constructor
      · intro same
        cases same
        rfl
      · intro same
        cases same
        rfl

theorem mapError_eq_error_iff {ε' : Type} {outcome : Except ε α} {f : ε → ε'} {cause : ε'} :
    outcome.mapError f = .error cause ↔ ∃ inner, outcome = .error inner ∧ f inner = cause := by
  cases outcome with
  | error other =>
      constructor
      · intro same
        exact ⟨other, rfl, Except.error.inj same⟩
      · rintro ⟨inner, same, mapped⟩
        rw [Except.error.inj same]
        exact congrArg Except.error mapped
  | ok a =>
      constructor
      · intro absurd
        contradiction
      · rintro ⟨inner, absurd, _⟩
        contradiction

theorem exists_of_foldlM_eq_error {f : β → α → Except ε β} {start : β} {items : List α} {cause : ε}
    (fails : items.foldlM f start = .error cause) :
    ∃ before item after state, items = before ++ item :: after ∧
      before.foldlM f start = .ok state ∧ f state item = .error cause := by
  induction items generalizing start with
  | nil => contradiction
  | cons first rest ih =>
      rw [List.foldlM_cons] at fails
      rcases bind_eq_error_iff.mp fails with here | ⟨next, succeeds, later⟩
      · exact ⟨[], first, rest, start, rfl, rfl, here⟩
      · rcases ih later with ⟨before, item, after, state, rfl, reached, stops⟩
        refine ⟨first :: before, item, after, state, rfl, ?_, stops⟩
        rw [List.foldlM_cons, succeeds]
        exact reached

theorem mapM_eq_ok_map {f : α → Except ε β} {g : α → β} {items : List α}
    (each : ∀ item ∈ items, f item = .ok (g item)) : items.mapM f = .ok (items.map g) := by
  induction items with
  | nil => rfl
  | cons first rest ih =>
      obtain ⟨succeeds, others⟩ := List.forall_mem_cons.mp each
      rw [List.mapM_cons, succeeds, ih others]
      rfl

theorem foldlM_eq_ok_foldl {f : β → α → Except ε β} {g : β → α → β} {items : List α}
    (each : ∀ item ∈ items, ∀ state, f state item = .ok (g state item)) (start : β) :
    items.foldlM f start = .ok (items.foldl g start) := by
  induction items generalizing start with
  | nil => rfl
  | cons first rest ih =>
      obtain ⟨succeeds, others⟩ := List.forall_mem_cons.mp each
      rw [List.foldlM_cons, succeeds start]
      exact ih others (g start first)

theorem findSomeM?_eq_ok_findSome? {f : α → Except ε (Option β)} {g : α → Option β} {items : List α}
    (each : ∀ item ∈ items, f item = .ok (g item)) : items.findSomeM? f = .ok (items.findSome? g) := by
  induction items with
  | nil => rfl
  | cons first rest ih =>
      obtain ⟨succeeds, others⟩ := List.forall_mem_cons.mp each
      rw [List.findSomeM?, succeeds, List.findSome?_cons]
      cases g first with
      | none => exact ih others
      | some b => rfl

theorem mapM_eq_ok_of_each {γ : Type} {f : α → Except ε β} {g : α → Except ε γ} {h : β → γ}
    {items : List α} {found : List β} (each : ∀ item ∈ items, ∀ b, f item = .ok b → g item = .ok (h b))
    (succeeds : items.mapM f = .ok found) : items.mapM g = .ok (found.map h) := by
  induction items generalizing found with
  | nil =>
      cases succeeds
      rfl
  | cons first rest ih =>
      obtain ⟨eachFirst, eachLater⟩ := List.forall_mem_cons.mp each
      rw [List.mapM_cons] at succeeds ⊢
      obtain ⟨b, here, later⟩ := bind_eq_ok_iff.mp succeeds
      obtain ⟨others, remaining, all⟩ := bind_eq_ok_iff.mp later
      cases all
      rw [eachFirst b here, ih eachLater remaining]
      rfl

theorem forall_mem_mapM_iff {f : α → Except ε β} {p : α → Prop} {q : β → Prop} {items : List α}
    {found : List β} (each : ∀ item b, f item = .ok b → (q b ↔ p item))
    (succeeds : items.mapM f = .ok found) : (∀ b ∈ found, q b) ↔ ∀ item ∈ items, p item := by
  induction items generalizing found with
  | nil =>
      cases succeeds
      simp
  | cons first rest ih =>
      rw [List.mapM_cons] at succeeds
      obtain ⟨b, here, later⟩ := bind_eq_ok_iff.mp succeeds
      obtain ⟨others, remaining, all⟩ := bind_eq_ok_iff.mp later
      cases all
      rw [List.forall_mem_cons, List.forall_mem_cons, each first b here, ih remaining]

theorem exists_of_mapM_eq_ok {f : α → Except ε β} {items : List α} {found : List β}
    (succeeds : items.mapM f = .ok found) : ∀ item ∈ items, ∃ b, f item = .ok b :=
  (forall_mem_mapM_iff (q := fun _ => True) (fun _ b here => iff_of_true trivial ⟨b, here⟩) succeeds).mp
    fun _ _ => trivial

/-- Going through a list stops at the first item that fails. -/
theorem mapM_eq_error_iff {f : α → Except ε β} {items : List α} {cause : ε} :
    items.mapM f = .error cause ↔ ∃ before item after, items = before ++ item :: after ∧
      (∀ other ∈ before, ∃ b, f other = .ok b) ∧ f item = .error cause := by
  induction items with
  | nil => simp [pure, Except.pure]
  | cons first rest ih =>
      rw [List.mapM_cons]
      cases result : f first with
      | error other =>
          simp only [bind, Except.bind, Except.error.injEq]
          constructor
          · intro same
            exact ⟨[], first, rest, rfl, by simp, by rw [result, same]⟩
          · intro given
            rcases given with ⟨before, item, after, split, succeeds, fails⟩
            rcases List.cons_eq_append_iff.mp split with ⟨rfl, same⟩ | ⟨earlier, rfl, _⟩
            · rw [(List.cons.inj same).1, result] at fails
              exact Except.error.inj fails
            · obtain ⟨b, found⟩ := succeeds first List.mem_cons_self
              rw [result] at found
              contradiction
      | ok b =>
          have later : (do let others ← rest.mapM f; pure (b :: others) : Except ε (List β)) =
              .error cause ↔ rest.mapM f = .error cause := by
            cases rest.mapM f <;> simp [bind, Except.bind, pure, Except.pure]
          simp only [bind, Except.bind] at later ⊢
          rw [later, ih]
          constructor
          · intro given
            rcases given with ⟨before, item, after, rfl, succeeds, fails⟩
            refine ⟨first :: before, item, after, rfl, ?_, fails⟩
            exact List.forall_mem_cons.mpr ⟨⟨b, result⟩, succeeds⟩
          · intro given
            rcases given with ⟨before, item, after, split, succeeds, fails⟩
            rcases List.cons_eq_append_iff.mp split with ⟨rfl, same⟩ | ⟨earlier, rfl, rfl⟩
            · rw [(List.cons.inj same).1, result] at fails
              contradiction
            · exact ⟨earlier, item, after, rfl, (List.forall_mem_cons.mp succeeds).2, fails⟩

theorem mapM_cases {f : α → Except ε β} {g : α → β} {flaw : α → Prop} {known : ε → Prop} {items : List α}
    (each : ∀ item ∈ items,
      f item = .ok (g item) ∨ flaw item ∧ ∃ cause, known cause ∧ f item = .error cause) :
    items.mapM f = .ok (items.map g) ∨
      (∃ item ∈ items, flaw item) ∧ ∃ cause, known cause ∧ items.mapM f = .error cause := by
  induction items with
  | nil => exact .inl rfl
  | cons first rest ih =>
      obtain ⟨here, later⟩ := List.forall_mem_cons.mp each
      rw [List.mapM_cons]
      rcases here with succeeds | ⟨flawed, cause, allowed, fails⟩
      · rw [succeeds]
        rcases ih later with all | ⟨⟨item, member, flawed⟩, cause, allowed, stops⟩
        · rw [all]
          exact .inl rfl
        · rw [stops]
          exact .inr ⟨⟨item, List.mem_cons_of_mem first member, flawed⟩, cause, allowed, rfl⟩
      · rw [fails]
        exact .inr ⟨⟨first, List.mem_cons_self, flawed⟩, cause, allowed, rfl⟩

end Variants.Outcome
