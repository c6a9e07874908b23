import Mathlib.Data.List.Basic
import Mathlib.Data.List.Nodup
import Enunciado.Json.Basic

namespace Enunciado

variable {α β : Type} [DecidableEq α] {fields pairs : List (α × β)}

theorem put_of_not_mem (h : key ∉ fields.map Prod.fst) (value : β) :
    put key value fields = fields ++ [(key, value)] := by
  induction fields
  case nil => rfl
  case cons f fields hi =>
    have ⟨hf, h⟩ := List.ne_and_not_mem_of_not_mem_cons h
    rw [put, if_neg hf.symm, hi h, List.cons_append]

-- A field is put after those with other keys.
theorem put_eq_append (h : ((fields ++ (key, value) :: after).map Prod.fst).Nodup) :
    put key value fields = fields ++ [(key, value)] := by
  refine put_of_not_mem (fun hm => ?_) value
  rw [List.map_append, List.map_cons] at h
  exact (List.nodup_append.mp h).2.2 _ hm _ List.mem_cons_self rfl

theorem mem_keys_put_iff :
    k ∈ (put key value fields).map Prod.fst ↔ k = key ∨ k ∈ fields.map Prod.fst := by
  induction fields
  case nil => simp [put]
  case cons f fields hi =>
    rw [put]
    split
    case isTrue h => simp [h]
    case isFalse => rw [List.map_cons, List.map_cons, List.mem_cons, List.mem_cons, hi, or_left_comm]

-- What is put again replaces what was put.
theorem put_put (key : α) (value value' : β) (fields : List (α × β)) :
    put key value (put key value' fields) = put key value fields := by
  induction fields
  case nil => simp [put]
  case cons f fields hi => by_cases h : f.1 = key <;> simp [put, h, hi]

theorem mem_put (h : f ∈ put key value fields) : f = (key, value) ∨ f ∈ fields := by
  induction fields
  case nil => simpa [put] using h
  case cons g fields hi =>
    rw [put] at h
    split at h
    case isTrue hg =>
      rcases List.mem_cons.mp h with h | h
      · exact .inl (h.trans (by rw [hg]))
      · exact .inr (List.mem_cons_of_mem g h)
    case isFalse =>
      rcases List.mem_cons.mp h with h | h
      · exact .inr (h ▸ List.mem_cons_self)
      · exact (hi h).imp id (List.mem_cons_of_mem g)

-- No key is repeated by what is put.
theorem nodup_keys_put (h : (fields.map Prod.fst).Nodup) (key : α) (value : β) :
    ((put key value fields).map Prod.fst).Nodup := by
  induction fields
  case nil => simp [put]
  case cons f fields hi =>
    rw [List.map_cons, List.nodup_cons] at h
    rw [put]
    split
    case isTrue => simpa using h
    case isFalse hf =>
      rw [List.map_cons, List.nodup_cons, mem_keys_put_iff, not_or]
      exact ⟨⟨hf, h.1⟩, hi h.2⟩

theorem nodup_keys_ofPairs (pairs : List (α × β)) : ((ofPairs pairs).map Prod.fst).Nodup := by
  have go (fields : List (α × β)) (h : (fields.map Prod.fst).Nodup) :
      ((pairs.foldl (fun fields p => put p.1 p.2 fields) fields).map Prod.fst).Nodup := by
    induction pairs generalizing fields
    case nil => exact h
    case cons p pairs hi => exact hi _ (nodup_keys_put h _ _)
  exact go [] List.nodup_nil

-- No key is lost or added.
theorem mem_keys_ofPairs_iff : k ∈ (ofPairs pairs).map Prod.fst ↔ k ∈ pairs.map Prod.fst := by
  have go (fields : List (α × β)) :
      k ∈ (pairs.foldl (fun fields p => put p.1 p.2 fields) fields).map Prod.fst ↔
        k ∈ fields.map Prod.fst ∨ k ∈ pairs.map Prod.fst := by
    induction pairs generalizing fields
    case nil => simp
    case cons p pairs hi =>
      rw [List.foldl_cons, hi, mem_keys_put_iff, List.map_cons, List.mem_cons, or_right_comm,
        or_comm]
  exact (go []).trans (or_iff_right List.not_mem_nil)

-- Without a repeated key, nothing is lost or moved.
theorem ofPairs_of_nodup (h : (pairs.map Prod.fst).Nodup) : ofPairs pairs = pairs := by
  have go (pairs fields : List (α × β)) (h : ((fields ++ pairs).map Prod.fst).Nodup) :
      pairs.foldl (fun fields p => put p.1 p.2 fields) fields = fields ++ pairs := by
    induction pairs generalizing fields
    case nil => simp
    case cons p pairs hi =>
      rw [List.foldl_cons, put_eq_append h, hi _ (by simpa using h)]
      simp
  exact go pairs [] h

theorem mem_of_lookup (h : lookup key fields = some value) : (key, value) ∈ fields := by
  induction fields
  case nil => cases h
  case cons f fields hi =>
    rw [lookup] at h
    split at h
    case isTrue hk =>
      cases hk
      cases h
      exact List.mem_cons_self
    case isFalse => exact List.mem_cons_of_mem f (hi h)

theorem lookup_eq_none_iff : lookup key fields = none ↔ key ∉ fields.map Prod.fst := by
  induction fields
  case nil => simp [lookup]
  case cons f fields hi =>
    rw [lookup]
    split
    case isTrue hk => simp [hk]
    case isFalse hk => simp [hi, Ne.symm hk]

theorem lookup_eq_some_iff (h : (fields.map Prod.fst).Nodup) :
    lookup key fields = some value ↔ (key, value) ∈ fields := by
  refine ⟨mem_of_lookup, fun hm => ?_⟩
  induction fields
  case nil => cases hm
  case cons f fields hi =>
    have ⟨hf, h⟩ := List.nodup_cons.mp h
    rw [lookup]
    obtain rfl | hm := List.mem_cons.mp hm
    case inl => rw [if_pos rfl]
    case inr =>
      have hk : f.1 ≠ key := fun hk => hf (hk ▸ List.mem_map_of_mem hm)
      rw [if_neg hk, hi h hm]

-- Fields are the same up to order exactly if the same is found in them.
theorem perm_iff_lookup {fields' : List (α × β)} (h : (fields.map Prod.fst).Nodup)
    (h' : (fields'.map Prod.fst).Nodup) :
    fields.Perm fields' ↔ ∀ key, lookup key fields = lookup key fields' := by
  rw [List.perm_ext_iff_of_nodup h.of_map h'.of_map]
  constructor
  case mp =>
    intro hm key
    ext value
    rw [lookup_eq_some_iff h, lookup_eq_some_iff h', hm]
  case mpr =>
    rintro hl ⟨key, value⟩
    rw [← lookup_eq_some_iff h, ← lookup_eq_some_iff h', hl]

theorem lookup_filter_ne (k key : α) (fields : List (α × β)) :
    lookup k (fields.filter (·.1 ≠ key)) = if k = key then none else lookup k fields := by
  induction fields
  case nil => simp [lookup]
  case cons f fields hi =>
    by_cases hf : f.1 = key
    case pos =>
      rw [List.filter_cons_of_neg (by simpa using hf), hi, lookup]
      split
      case isTrue => rfl
      case isFalse hk => rw [if_neg fun h => hk (h.symm.trans hf)]
    case neg =>
      rw [List.filter_cons_of_pos (by simpa using hf), lookup, lookup, hi]
      split
      case isTrue h => rw [if_neg fun hk => hf (h.trans hk)]
      case isFalse => rfl

theorem lookup_map (key : α) (keys : List α) (v : α → β) :
    lookup key (keys.map fun k => (k, v k)) = if key ∈ keys then some (v key) else none := by
  induction keys
  case nil => rfl
  case cons k keys hi =>
    by_cases hk : k = key
    case pos => simp [lookup, hk]
    case neg => simp [lookup, hk, Ne.symm hk, hi]

end Enunciado
