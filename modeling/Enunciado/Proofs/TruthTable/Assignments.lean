import Mathlib.Logic.Function.Basic
import Enunciado.Proofs.Formula.Semantics
import Enunciado.Proofs.Json.Fields
import Enunciado.TruthTable.Basic

namespace Enunciado

namespace Assignment

variable {symbols : List String} {v : String → Bool}

-- The assignment of the values `v` to the symbols.
def ofValues (symbols : List String) (v : String → Bool) : Assignment :=
  symbols.map fun s => (s, v s)

-- The values that an assignment to the symbols stands for: what it does not assign is false.
def restrict (symbols : List String) (v : String → Bool) (name : String) : Bool :=
  decide (name ∈ symbols) && v name

theorem environment_ofValues (symbols : List String) (v : String → Bool) (name : String) :
    (ofValues symbols v).environment false name = .ok (restrict symbols v name) := by
  rw [environment, ofValues, lookup_map]
  by_cases h : name ∈ symbols <;> simp [restrict, h]

theorem restrict_of_mem (h : name ∈ symbols) : restrict symbols v name = v name := by
  simp [restrict, h]

theorem restrict_of_not_mem (h : name ∉ symbols) : restrict symbols v name = false := by
  simp [restrict, h]

end Assignment

theorem exists_map_eq {symbols : List String} {vs : List Bool} (hs : symbols.Nodup)
    (h : vs.length = symbols.length) : ∃ v, symbols.map v = vs := by
  induction symbols generalizing vs
  case nil => exact ⟨fun _ => false, by simpa [eq_comm] using h⟩
  case cons s symbols hi =>
    obtain ⟨b, vs, rfl⟩ := List.exists_cons_of_length_eq_add_one h
    have ⟨hn, hs⟩ := List.nodup_cons.mp hs
    obtain ⟨v, rfl⟩ := hi hs (by simpa using h)
    refine ⟨Function.update v s b, ?_⟩
    have hu : symbols.map (Function.update v s b) = symbols.map v :=
      List.map_congr_left fun t ht => Function.update_of_ne (by rintro rfl; exact hn ht) ..
    simp [hu]

theorem ofPairs_zip_map {symbols : List String} (hs : symbols.Nodup) (v : String → Bool) :
    ofPairs (symbols.zip (symbols.map v)) = Assignment.ofValues symbols v := by
  rw [← List.map_prod_left_eq_zip, ofPairs_of_nodup]
  · rfl
  · simpa [Function.comp_def] using hs

theorem mem_assignments {symbols : List String} (hs : symbols.Nodup) :
    a ∈ assignments symbols ↔ ∃ v, a = Assignment.ofValues symbols v := by
  simp only [assignments, List.mem_map, mem_valuations]
  constructor
  case mp =>
    rintro ⟨vs, hl, rfl⟩
    obtain ⟨v, rfl⟩ := exists_map_eq hs hl
    exact ⟨v, ofPairs_zip_map hs v⟩
  case mpr =>
    rintro ⟨v, rfl⟩
    exact ⟨symbols.map v, by simp, ofPairs_zip_map hs v⟩

end Enunciado
