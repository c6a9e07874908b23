import Enunciado.Proofs.Traversal
import Enunciado.Proofs.TruthTable.Assignments
import Enunciado.TruthTable.Layout

namespace Enunciado

open Assignment

variable {symbols : List String} {x : Formula String} {rows : List Row}

namespace Assignment

-- The value of a name; a name without one is false.
def value (a : Assignment) (name : String) : Bool :=
  (lookup name a).getD false

theorem environment_eq (a : Assignment) (name : String) :
    a.environment false name = .ok (a.value name) := by
  rw [environment, value]
  cases lookup name a <;> rfl

end Assignment

-- The row of an assignment.
def Formula.row (x : Formula String) (a : Assignment) : Row :=
  ⟨a, x.truth a.value⟩

theorem truthTable_eq (h : x.Proper) (symbols : List String) :
    truthTable (environment false) x symbols = .ok ((assignments symbols).map x.row) := by
  refine mapM_eq_ok fun a _ => ?_
  rw [h.evaluate fun name _ => a.environment_eq name]
  rfl

theorem assignments_ne_nil (symbols : List String) : assignments symbols ≠ [] := by
  have hl := length_assignments symbols
  have hp : 0 < Nat.pow 2 symbols.length := Nat.two_pow_pos _
  exact List.ne_nil_of_length_pos (by omega)

theorem exists_classify? (h : rows ≠ []) : ∃ verdict, classify? rows = some verdict := by
  have hr : (rows.map (·.result)).isEmpty = false := by simpa using h
  simp only [classify?, Verdict.ofResults?, hr]
  split
  · contradiction
  · split
    · exact ⟨_, rfl⟩
    · split <;> exact ⟨_, rfl⟩

-- A row over the symbols has a value for each of them.
theorem exists_lookup (hs : symbols.Nodup) (ha : a ∈ assignments symbols) (h : s ∈ symbols) :
    ∃ b, lookup s a = some b := by
  obtain ⟨v, rfl⟩ := (mem_assignments hs).mp ha
  exact ⟨v s, by rw [ofValues, lookup_map, if_pos h]⟩

theorem exists_layout (hs : symbols.Nodup) (hr : ∀ r ∈ rows, r.assignment ∈ assignments symbols)
    (header : String) : ∃ text, layout rows symbols header = .ok text := by
  have hl (r) (h : r ∈ rows) : ∃ line, rowLine symbols (header.toList.length / 2) r = .ok line := by
    refine (exists_mapM fun s hm => ?_).elim fun cells hc =>
      ⟨_, bind_eq_ok_iff.mpr ⟨cells, hc, rfl⟩⟩
    obtain ⟨b, hb⟩ := exists_lookup hs (hr r h) hm
    exact ⟨_, by rw [hb]⟩
  obtain ⟨lines, h⟩ := exists_mapM hl
  exact ⟨_, bind_eq_ok_iff.mpr ⟨lines, h, rfl⟩⟩

end Enunciado
