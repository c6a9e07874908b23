import Mathlib.Data.List.Forall2

namespace Enunciado

variable {ε ε' α α' β : Type} {as : List α} {bs : List β}

theorem bind_eq_ok_iff {r : Except ε α} {f : α → Except ε β} :
    r >>= f = .ok b ↔ ∃ a, r = .ok a ∧ f a = .ok b := by
  cases r
  case error => exact ⟨nofun, nofun⟩
  case ok a => exact ⟨fun h => ⟨a, rfl, h⟩, fun ⟨_, ha, h⟩ => by cases ha; exact h⟩

-- A computation that fails under a condition goes on without it.
theorem throw_if_eq_ok_iff {c : Prop} [Decidable c] {r : Except ε α} {a : α} :
    (if c then (throw e : Except ε PUnit) >>= fun _ => r else r) = .ok a ↔ ¬c ∧ r = .ok a := by
  split
  case isTrue h => exact ⟨nofun, fun hr => absurd h hr.1⟩
  case isFalse h => exact (and_iff_right h).symm

theorem map_eq_ok_iff {r : Except ε α} {f : α → β} :
    r.map f = .ok b ↔ ∃ a, r = .ok a ∧ f a = b := by
  cases r <;> simp [Except.map]

theorem mapError_eq_ok_iff {r : Except ε α} {f : ε → ε'} :
    r.mapError f = .ok a ↔ r = .ok a := by
  cases r <;> simp [Except.mapError]

theorem mapError_eq_error_iff {r : Except ε α} {f : ε → ε'} :
    r.mapError f = .error e' ↔ ∃ e, r = .error e ∧ f e = e' := by
  cases r <;> simp [Except.mapError]

theorem mapM_eq_ok_iff {f : α → Except ε β} :
    as.mapM f = .ok bs ↔ List.Forall₂ (f · = .ok ·) as bs := by
  induction as generalizing bs
  case nil => simp [pure, Except.pure, eq_comm]
  case cons a as hi =>
    simp only [List.mapM_cons, bind_eq_ok_iff, hi, List.forall₂_cons_left_iff]
    constructor
    case mp =>
      rintro ⟨b, hb, bs', hbs, ⟨rfl⟩⟩
      exact ⟨b, bs', hb, hbs, rfl⟩
    case mpr =>
      rintro ⟨b, bs', hb, hbs, rfl⟩
      exact ⟨b, hb, bs', hbs, rfl⟩

theorem mapM_cons_eq_ok_iff {f : α → Except ε β} :
    (a :: as).mapM f = .ok bs ↔
      ∃ b bs', f a = .ok b ∧ as.mapM f = .ok bs' ∧ b :: bs' = bs := by
  simp only [mapM_eq_ok_iff, List.forall₂_cons_left_iff, exists_and_left, @eq_comm _ bs]

theorem exists_of_forall₂ {R : α → β → Prop} (h : List.Forall₂ R as bs) :
    ∀ a ∈ as, ∃ b ∈ bs, R a b := by
  induction h
  case nil => exact nofun
  case cons b _ _ hb _ hi =>
    refine List.forall_mem_cons.mpr ⟨⟨b, by simp, hb⟩, fun a ha => ?_⟩
    have ⟨b', hb', h⟩ := hi a ha
    exact ⟨b', by simp [hb'], h⟩

-- Each item has a result.
theorem exists_of_mapM {f : α → Except ε β} (h : as.mapM f = .ok bs) :
    ∀ a ∈ as, ∃ b ∈ bs, f a = .ok b :=
  exists_of_forall₂ (mapM_eq_ok_iff.mp h)

-- Each result comes from some item.
theorem exists_of_mem_mapM {f : α → Except ε β} (h : as.mapM f = .ok bs) :
    ∀ b ∈ bs, ∃ a ∈ as, f a = .ok b :=
  exists_of_forall₂ (mapM_eq_ok_iff.mp h).flip

theorem mapM_eq_ok {f : α → Except ε β} {g : α → β} (h : ∀ a ∈ as, f a = .ok (g a)) :
    as.mapM f = .ok (as.map g) := by
  rw [mapM_eq_ok_iff, List.forall₂_map_right_iff, List.forall₂_same]
  exact h

theorem mapM_map_eq_ok {f : α → α'} {k : α' → Except ε β} {g : α → β}
    (h : ∀ a ∈ as, k (f a) = .ok (g a)) : (as.map f).mapM k = .ok (as.map g) := by
  rw [mapM_eq_ok_iff, List.forall₂_map_left_iff, List.forall₂_map_right_iff, List.forall₂_same]
  exact h

-- Items that have been written one by one are read one by one.
theorem mapM_map_eq_self {f : α → Except ε β} {g : β → α} (h : ∀ b, f (g b) = .ok b)
    (bs : List β) : (bs.map g).mapM f = .ok bs := by
  have hm := mapM_map_eq_ok (g := id) fun b (_ : b ∈ bs) => h b
  rwa [List.map_id] at hm

-- A list has results if each of its items has one.
theorem exists_mapM {f : α → Except ε β} (h : ∀ a ∈ as, ∃ b, f a = .ok b) :
    ∃ bs, as.mapM f = .ok bs := by
  induction as
  case nil => exact ⟨[], rfl⟩
  case cons a as hi =>
    have ⟨⟨b, hb⟩, has⟩ := List.forall_mem_cons.mp h
    have ⟨bs, hbs⟩ := hi has
    exact ⟨b :: bs, mapM_eq_ok_iff.mpr (.cons hb (mapM_eq_ok_iff.mp hbs))⟩

theorem ne_nil_of_mapM {f : α → Except ε β} (h : as.mapM f = .ok bs) (ha : as ≠ []) : bs ≠ [] := by
  rintro rfl
  exact ha (List.forall₂_nil_right_iff.mp (mapM_eq_ok_iff.mp h))

section Failure

-- The error of a computation that fails.
def failure? : Except ε α → Option ε
  | .error e => some e
  | .ok _ => none

theorem failure?_eq_some_iff {r : Except ε α} : failure? r = some e ↔ r = .error e := by
  cases r <;> simp [failure?]

theorem failure?_eq_none_iff {r : Except ε α} : failure? r = none ↔ ∃ a, r = .ok a := by
  cases r <;> simp [failure?]

theorem failure?_map {r : Except ε α} {f : α → β} : failure? (r.map f) = failure? r := by
  cases r <;> rfl

theorem failure?_mapError {r : Except ε α} {f : ε → ε'} :
    failure? (r.mapError f) = (failure? r).map f := by
  cases r <;> rfl

-- The first item that fails decides about the error.
theorem failure?_mapM (f : α → Except ε β) (as : List α) :
    failure? (as.mapM f) = as.findSome? fun a => failure? (f a) := by
  induction as
  case nil => rfl
  case cons a as hi =>
    rw [List.mapM_cons, List.findSome?_cons, ← hi]
    cases f a
    case error => rfl
    case ok => cases as.mapM f <;> rfl

-- A list fails because of the first of its items that does.
theorem mapM_eq_error_iff {f : α → Except ε β} :
    as.mapM f = .error e ↔
      ∃ before a after, as = before ++ a :: after ∧ f a = .error e ∧
        ∀ b ∈ before, ∃ c, f b = .ok c := by
  simp only [← failure?_eq_some_iff, failure?_mapM, List.findSome?_eq_some_iff,
    failure?_eq_none_iff]

theorem exists_of_mapM_error {f : α → Except ε β} (h : as.mapM f = .error e) :
    ∃ a ∈ as, f a = .error e := by
  obtain ⟨before, a, after, rfl, ha, -⟩ := mapM_eq_error_iff.mp h
  exact ⟨a, by simp, ha⟩

end Failure

section Translation

-- The same outcome in other terms.
def translate (e : ε → ε') (f : α → β) : Except ε α → Except ε' β
  | .error x => .error (e x)
  | .ok a => .ok (f a)

variable {e : ε → ε'} {f : α → β}

@[simp]
theorem translate_error : translate e f (.error x) = .error (e x) :=
  rfl

@[simp]
theorem translate_ok : translate e f (.ok a) = .ok (f a) :=
  rfl

theorem translate_bind {r : Except ε α} {k : α → Except ε α'} {k' : β → Except ε' β'}
    {f' : α' → β'} (h : ∀ a, r = .ok a → k' (f a) = translate e f' (k a)) :
    translate e f r >>= k' = translate e f' (r >>= k) := by
  cases r
  case error => rfl
  case ok a => exact h a rfl

theorem mapM_translate {k : α' → Except ε α} (as : List α') :
    as.mapM (fun a => translate e f (k a)) = translate e (List.map f) (as.mapM k) := by
  induction as
  case nil => rfl
  case cons a as hi =>
    simp only [List.mapM_cons, hi]
    exact translate_bind fun b _ => translate_bind fun bs _ => rfl

end Translation

end Enunciado
