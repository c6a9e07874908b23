import Mathlib.Algebra.Group.Nat.Defs
import Mathlib.Data.List.Nodup
import Enunciado.Proofs.TruthTable.Rows

namespace Enunciado

open Assignment

variable {symbols symbols₁ symbols₂ : List String} {x : Formula String} {v w : String → Bool}

section Assignments

namespace Assignment

theorem ofValues_inj : ofValues symbols v = ofValues symbols w ↔ ∀ s ∈ symbols, v s = w s := by
  simp [ofValues]

theorem lookup_ofValues (symbols : List String) (v : String → Bool) (name : String) :
    lookup name (ofValues symbols v) = if name ∈ symbols then some (v name) else none :=
  lookup_map name symbols v

theorem value_ofValues (symbols : List String) (v : String → Bool) :
    (ofValues symbols v).value = restrict symbols v := by
  funext name
  rw [value, lookup_ofValues, restrict]
  by_cases h : name ∈ symbols <;> simp [h]

end Assignment

theorem nodup_valuations (n : Nat) : (valuations n).Nodup := by
  induction n
  case zero => exact List.nodup_singleton []
  case succ n hi =>
    have hm (b : Bool) : ((valuations n).map (b :: ·)).Nodup := hi.map List.cons_injective
    refine (hm false).append (hm true) fun vs hf ht => ?_
    obtain ⟨_, -, rfl⟩ := List.mem_map.mp hf
    obtain ⟨_, -, ht⟩ := List.mem_map.mp ht
    cases ht

theorem nodup_assignments (hs : symbols.Nodup) : (assignments symbols).Nodup := by
  refine (nodup_valuations symbols.length).map_on fun vs hv ws hw h => ?_
  obtain ⟨v, rfl⟩ := exists_map_eq hs (mem_valuations.mp hv)
  obtain ⟨w, rfl⟩ := exists_map_eq hs (mem_valuations.mp hw)
  rw [ofPairs_zip_map hs, ofPairs_zip_map hs, ofValues_inj] at h
  exact List.map_congr_left h

end Assignments

section Order

-- A row whatever the order of its symbols: the values of the names, and the result.
def Row.entry (r : Row) : (String → Option Bool) × Bool :=
  (fun name => lookup name r.assignment, r.result)

theorem entry_row (x : Formula String) (symbols : List String) (v : String → Bool) :
    (x.row (ofValues symbols v)).entry =
      (fun name => if name ∈ symbols then some (v name) else none,
        x.truth (restrict symbols v)) := by
  simp only [Row.entry, Formula.row, lookup_ofValues, value_ofValues]

theorem mem_entries (hs : symbols.Nodup) :
    e ∈ ((assignments symbols).map x.row).map Row.entry ↔
      ∃ v, (x.row (ofValues symbols v)).entry = e := by
  simp [mem_assignments hs]

-- No two rows are the same.
theorem nodup_entries (hs : symbols.Nodup) (x : Formula String) :
    (((assignments symbols).map x.row).map Row.entry).Nodup := by
  rw [List.map_map]
  refine (nodup_assignments hs).map_on fun a ha b hb h => ?_
  obtain ⟨v, rfl⟩ := (mem_assignments hs).mp ha
  obtain ⟨w, rfl⟩ := (mem_assignments hs).mp hb
  rw [Function.comp_apply, Function.comp_apply, entry_row, entry_row, Prod.mk.injEq] at h
  exact ofValues_inj.mpr fun s hm => by simpa [hm] using congrFun h.1 s

theorem perm_entries (hs : symbols₁.Nodup) (hp : symbols₁.Perm symbols₂) (x : Formula String) :
    (((assignments symbols₁).map x.row).map Row.entry).Perm
      (((assignments symbols₂).map x.row).map Row.entry) := by
  have ht := hp.nodup_iff.mp hs
  refine (List.perm_ext_iff_of_nodup (nodup_entries hs x) (nodup_entries ht x)).mpr fun e => ?_
  have hr : restrict symbols₁ = restrict symbols₂ := by
    funext v name
    simp [restrict, hp.mem_iff]
  simp only [mem_entries hs, mem_entries ht, entry_row, hp.mem_iff, hr]

end Order

section Added

-- A row that has all values of another, and maybe more.
def Row.Extends (s r : Row) : Prop :=
  ∀ p ∈ r.assignment, lookup p.1 s.assignment = some p.2

instance (s r : Row) : Decidable (s.Extends r) :=
  inferInstanceAs (Decidable (∀ p ∈ r.assignment, lookup p.1 s.assignment = some p.2))

-- The values `v` for the symbols and `w` for all other names.
def Assignment.completed (symbols : List String) (v w : String → Bool) (name : String) : Bool :=
  if name ∈ symbols then v name else w name

section Completions

theorem completed_of_mem (h : name ∈ symbols) (v w : String → Bool) :
    completed symbols v w name = v name :=
  if_pos h

theorem completed_of_not_mem (h : name ∉ symbols) (v w : String → Bool) :
    completed symbols v w name = w name :=
  if_neg h

theorem mem_added : name ∈ symbols₂.filter (· ∉ symbols₁) ↔ name ∈ symbols₂ ∧ name ∉ symbols₁ := by
  simp

theorem completed_added (hn : name ∈ symbols₂) (h : name ∉ symbols₁) (v w : String → Bool) :
    completed symbols₁ v (ofValues (symbols₂.filter (· ∉ symbols₁)) w).value name = w name := by
  rw [completed_of_not_mem h, value_ofValues, restrict_of_mem (mem_added.mpr ⟨hn, h⟩)]

-- Values that agree with `v` are those of `v`, completed by their own for the symbols added.
theorem ofValues_completed (hw : ∀ name ∈ symbols₁, w name = v name) :
    ofValues symbols₂
        (completed symbols₁ v (ofValues (symbols₂.filter (· ∉ symbols₁)) w).value) =
      ofValues symbols₂ w := by
  refine ofValues_inj.mpr fun name hn => ?_
  by_cases h : name ∈ symbols₁
  case pos => rw [completed_of_mem h, hw name h]
  case neg => exact completed_added hn h v w

theorem nodup_completions (h₂ : symbols₂.Nodup) (x : Formula String) (v : String → Bool) :
    ((assignments (symbols₂.filter (· ∉ symbols₁))).map fun a =>
      x.row (ofValues symbols₂ (completed symbols₁ v a.value))).Nodup := by
  have hc : (symbols₂.filter (· ∉ symbols₁)).Nodup := h₂.filter _
  refine (nodup_assignments hc).map_on fun a ha b hb h => ?_
  obtain ⟨w, rfl⟩ := (mem_assignments hc).mp ha
  obtain ⟨w', rfl⟩ := (mem_assignments hc).mp hb
  refine ofValues_inj.mpr fun name hn => ?_
  obtain ⟨hn, hm⟩ := mem_added.mp hn
  have hv := ofValues_inj.mp (congrArg Row.assignment h) name hn
  rwa [completed_added hn hm, completed_added hn hm] at hv

end Completions

variable (hs : symbols₁ ⊆ symbols₂)

include hs

theorem extends_row_iff :
    (x.row (ofValues symbols₂ w)).Extends (x.row (ofValues symbols₁ v)) ↔
      ∀ name ∈ symbols₁, w name = v name := by
  have hr : (x.row (ofValues symbols₂ w)).Extends (x.row (ofValues symbols₁ v)) ↔
      ∀ name ∈ symbols₁, lookup name (ofValues symbols₂ w) = some (v name) :=
    List.forall_mem_map
  rw [hr]
  refine forall₂_congr fun name hm => ?_
  rw [lookup_ofValues, if_pos (hs hm), Option.some_inj]

theorem result_of_extends (hx : ∀ name ∈ x.names, name ∈ symbols₁)
    (h : (x.row (ofValues symbols₂ w)).Extends (x.row (ofValues symbols₁ v))) :
    (x.row (ofValues symbols₂ w)).result = (x.row (ofValues symbols₁ v)).result := by
  have hv := (extends_row_iff hs).mp h
  refine Formula.truth_congr fun name hn => ?_
  have hm := hx name hn
  rw [value_ofValues, value_ofValues, restrict_of_mem hm, restrict_of_mem (hs hm), hv name hm]

variable (h₂ : symbols₂.Nodup)

include h₂

-- The rows that extend a row have its values, and any values for the symbols that are added.
theorem extensions_perm (x : Formula String) (v : String → Bool) :
    (((assignments symbols₂).map x.row).filter (·.Extends (x.row (ofValues symbols₁ v)))).Perm
      ((assignments (symbols₂.filter (· ∉ symbols₁))).map fun a =>
        x.row (ofValues symbols₂ (completed symbols₁ v a.value))) := by
  have hl : (((assignments symbols₂).map x.row).filter
      (·.Extends (x.row (ofValues symbols₁ v)))).Nodup :=
    ((nodup_assignments h₂).map fun a b h => congrArg Row.assignment h).filter _
  refine (List.perm_ext_iff_of_nodup hl (nodup_completions h₂ x v)).mpr fun r => ?_
  simp only [List.mem_filter, List.mem_map, mem_assignments h₂, mem_assignments (h₂.filter _),
    decide_eq_true_eq]
  constructor
  case mp =>
    rintro ⟨⟨_, ⟨w, rfl⟩, rfl⟩, he⟩
    exact ⟨_, ⟨w, rfl⟩, congrArg x.row (ofValues_completed ((extends_row_iff hs).mp he))⟩
  case mpr =>
    rintro ⟨_, ⟨w, rfl⟩, rfl⟩
    exact ⟨⟨_, ⟨_, rfl⟩, rfl⟩, (extends_row_iff hs).mpr fun name h => completed_of_mem h _ _⟩

theorem length_added (h₁ : symbols₁.Nodup) (hk : symbols₂.length = symbols₁.length + k) :
    (symbols₂.filter (· ∉ symbols₁)).length = k := by
  have hp : (symbols₂.filter (· ∈ symbols₁)).Perm symbols₁ :=
    (List.perm_ext_iff_of_nodup (h₂.filter _) h₁).mpr fun name => by
      simpa using fun h => hs h
  have hl := List.length_eq_length_filter_add (l := symbols₂) (· ∈ symbols₁)
  have hn := hp.length_eq
  simp only [decide_not] at hl ⊢
  omega

theorem length_extensions (h₁ : symbols₁.Nodup) (hk : symbols₂.length = symbols₁.length + k)
    (x : Formula String) (v : String → Bool) :
    (((assignments symbols₂).map x.row).filter
      (·.Extends (x.row (ofValues symbols₁ v)))).length = 2 ^ k := by
  rw [(extensions_perm hs h₂ x v).length_eq, List.length_map, length_assignments,
    length_added hs h₂ h₁ hk]
  rfl

end Added

end Enunciado
