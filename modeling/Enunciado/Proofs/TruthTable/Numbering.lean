import Enunciado.Proofs.TruthTable.Strictness
import Enunciado.Proofs.TruthTable.Symbols

namespace Enunciado

open Assignment

variable {symbols : List String} {x : Formula String} {a : Assignment} {v : String → Bool}

section Digits

-- The last `n` binary digits of a number, the most significant one first.
def binaryDigits (n i : Nat) : List Bool :=
  (List.range n).map fun j => i.testBit (n - 1 - j)

theorem length_binaryDigits (n i : Nat) : (binaryDigits n i).length = n := by
  simp [binaryDigits]

theorem getElem?_binaryDigits (h : j < n) (i : Nat) :
    (binaryDigits n i)[j]? = some (i.testBit (n - 1 - j)) := by
  simp [binaryDigits, h]

theorem binaryDigits_succ (n i : Nat) :
    binaryDigits (n + 1) i = i.testBit n :: binaryDigits n i := by
  have hj (j : Nat) : n + 1 - 1 - (j + 1) = n - 1 - j := by omega
  simp only [binaryDigits, List.range_succ_eq_map, List.map_cons, List.map_map,
    Function.comp_def, Nat.succ_eq_add_one, hj]
  rfl

-- A number below `2 ^ n` has no digit in front of the last `n`.
theorem binaryDigits_below (h : i < 2 ^ n) :
    binaryDigits (n + 1) i = false :: binaryDigits n i := by
  rw [binaryDigits_succ, Nat.testBit_lt_two_pow h]

-- The numbers from `2 ^ n` on have one more digit, and then those of the numbers from zero on.
theorem binaryDigits_above (h : i < 2 ^ n) :
    binaryDigits (n + 1) (2 ^ n + i) = true :: binaryDigits n i := by
  have hl : binaryDigits n (2 ^ n + i) = binaryDigits n i := by
    refine List.map_congr_left fun j hj => Nat.testBit_two_pow_add_gt ?_ i
    have hj := List.mem_range.mp hj
    omega
  rw [binaryDigits_succ, hl, Nat.testBit_two_pow_add_eq, Nat.testBit_lt_two_pow h]
  rfl

theorem valuations_eq (n : Nat) :
    valuations n = (List.range (2 ^ n)).map (binaryDigits n) := by
  induction n
  case zero => rfl
  case succ n hi =>
    have hf : (List.range (2 ^ n)).map (binaryDigits (n + 1)) =
        (valuations n).map (false :: ·) := by
      rw [hi, List.map_map]
      exact List.map_congr_left fun i h => binaryDigits_below (List.mem_range.mp h)
    have ht : (List.range (2 ^ n)).map (fun i => binaryDigits (n + 1) (2 ^ n + i)) =
        (valuations n).map (true :: ·) := by
      rw [hi, List.map_map]
      exact List.map_congr_left fun i h => binaryDigits_above (List.mem_range.mp h)
    rw [valuations, ← hf, ← ht, Nat.pow_succ, Nat.mul_two, List.range_add, List.map_append,
      List.map_map]
    rfl

end Digits

section Rows

-- The value of a symbol stands where the symbol does.
theorem lookup_zip (hs : symbols.Nodup) (vs : List Bool) (j : Nat) (h : j < symbols.length) :
    lookup symbols[j] (symbols.zip vs) = vs[j]? := by
  induction symbols generalizing vs j
  case nil => contradiction
  case cons s symbols hi =>
    have ⟨hn, hs⟩ := List.nodup_cons.mp hs
    cases vs
    case nil => simp [lookup]
    case cons b vs =>
      cases j
      case zero => simp [lookup]
      case succ j =>
        have hj : j < symbols.length := by simpa using h
        have hne : s ≠ symbols[j] := fun he => hn (he ▸ List.getElem_mem hj)
        simp [lookup, hne, hi hs vs j hj]

-- A row that gives the symbols, in their order, the binary digits of `i`.
structure Row.Numbered (symbols : List String) (i : Nat) (r : Row) : Prop where
  keys   : r.assignment.map (·.1) = symbols
  digits : ∀ (j : Nat) (h : j < symbols.length),
    lookup symbols[j] r.assignment = some (i.testBit (symbols.length - 1 - j))

theorem assignments_eq (hs : symbols.Nodup) :
    assignments symbols =
      (List.range (2 ^ symbols.length)).map fun i =>
        symbols.zip (binaryDigits symbols.length i) := by
  rw [assignments, valuations_eq, List.map_map]
  refine List.map_congr_left fun i _ => ofPairs_of_nodup ?_
  rwa [List.map_fst_zip (Nat.le_of_eq (length_binaryDigits _ i).symm)]

theorem numbered_row (hs : symbols.Nodup) (x : Formula String) (i : Nat) :
    (x.row (symbols.zip (binaryDigits symbols.length i))).Numbered symbols i where
  keys   := List.map_fst_zip (Nat.le_of_eq (length_binaryDigits _ i).symm)
  digits := fun j h => by rw [Formula.row, lookup_zip hs, getElem?_binaryDigits h]

-- An assignment of the table is known by its values.
theorem eq_ofValues_of_lookup (hs : symbols.Nodup) (ha : a ∈ assignments symbols)
    (h : ∀ s ∈ symbols, lookup s a = some (v s)) : a = ofValues symbols v := by
  obtain ⟨w, rfl⟩ := (mem_assignments hs).mp ha
  refine ofValues_inj.mpr fun s hm => ?_
  simpa [lookup_ofValues, hm] using h s hm

theorem eq_of_agrees (h : (x.row (ofValues symbols v)).agrees (x.row (ofValues symbols w))) :
    ofValues symbols v = ofValues symbols w := by
  simp only [Row.agrees, Formula.row, Bool.and_eq_true, List.all_eq_true] at h
  refine ofValues_inj.mpr fun s hm => ?_
  have hl := h.2 (s, v s) (List.mem_map.mpr ⟨s, hm, rfl⟩)
  simpa [lookup_ofValues, hm, eq_comm] using hl

end Rows

section Tables

-- The table of a formula over symbols: its rows count from zero to the last number with as many
-- digits as there are symbols, and have the values of the formula. Each choice of values for the
-- symbols has one row, and no row agrees with another.
structure Formula.CountsThrough (x : Formula String) (symbols : List String) (rows : List Row) :
    Prop where
  length   : rows.length = 2 ^ symbols.length
  numbered : ∀ (i : Nat) (h : i < rows.length), rows[i].Numbered symbols i
  results  : ∀ r ∈ rows, x.evaluate (r.assignment.environment false) = .ok r.result
  once     : ∀ v : {s // s ∈ symbols} → Bool,
    ∃! i : Fin rows.length, ∀ s, lookup s.1 rows[i].assignment = some (v s)
  distinct : rows.Pairwise fun r s => ¬r.agrees s

theorem exists_values_on (v : {s // s ∈ symbols} → Bool) :
    ∃ w : String → Bool, ∀ s, w s.1 = v s :=
  ⟨fun s => if h : s ∈ symbols then v ⟨s, h⟩ else false, fun s => dif_pos s.2⟩

theorem exists_unique_row (hs : symbols.Nodup) (x : Formula String)
    (v : {s // s ∈ symbols} → Bool) :
    ∃! i : Fin ((assignments symbols).map x.row).length,
      ∀ s, lookup s.1 ((assignments symbols).map x.row)[i].assignment = some (v s) := by
  obtain ⟨w, hw⟩ := exists_values_on v
  have hl (s : {s // s ∈ symbols}) : lookup s.1 (ofValues symbols w) = some (v s) := by
    rw [lookup_ofValues, if_pos s.2, hw s]
  obtain ⟨i, hi, hr⟩ := List.getElem_of_mem ((mem_assignments hs).mpr ⟨w, rfl⟩)
  refine ⟨⟨i, by simpa using hi⟩, fun s => ?_, fun j hj => Fin.ext ?_⟩
  case refine_1 => simpa [Formula.row, hr] using hl s
  case refine_2 =>
    have hj' : j.1 < (assignments symbols).length := by simpa using j.2
    have ha : (assignments symbols)[j.1] = ofValues symbols w := by
      refine eq_ofValues_of_lookup hs (List.getElem_mem hj') fun s hm => ?_
      simpa [Formula.row, hw ⟨s, hm⟩] using hj ⟨s, hm⟩
    exact (nodup_assignments hs).getElem_inj_iff.mp (ha.trans hr.symm)

theorem countsThrough (hs : symbols.Nodup) (hx : x.Proper) :
    x.CountsThrough symbols ((assignments symbols).map x.row) where
  length   := by rw [List.length_map, length_assignments]; rfl
  numbered := fun i h => by
    simpa [assignments_eq hs] using numbered_row hs x i
  results  := fun r hr => by
    obtain ⟨a, -, rfl⟩ := List.mem_map.mp hr
    exact hx.evaluate_permissive a
  once     := exists_unique_row hs x
  distinct := by
    refine List.pairwise_map.mpr ((nodup_assignments hs).pairwise_of_forall_ne ?_)
    intro a ha b hb hne hab
    obtain ⟨v, rfl⟩ := (mem_assignments hs).mp ha
    obtain ⟨w, rfl⟩ := (mem_assignments hs).mp hb
    exact hne (eq_of_agrees hab)

-- An operator in the wrong place is found under every assignment, with the same error.
theorem evaluate_of_not_proper (hx : ¬x.Proper) :
    ∃ e, ∀ a : Assignment, x.evaluate (a.environment false) = .error e := by
  induction x
  case var => exact absurd trivial hx
  case const => exact absurd trivial hx
  case unary op x hi =>
    by_cases ho : op = .not
    case pos =>
      obtain ⟨e, he⟩ := hi fun h => hx ⟨ho, h⟩
      exact ⟨e, fun a => by rw [Formula.evaluate, if_pos ho, he]; rfl⟩
    case neg => exact ⟨_, fun a => by rw [Formula.evaluate, if_neg ho]⟩
  case binary op x y hxi hyi =>
    by_cases hx' : x.Proper
    case neg =>
      obtain ⟨e, he⟩ := hxi hx'
      exact ⟨e, fun a => by rw [Formula.evaluate, he]⟩
    case pos =>
      by_cases hy' : y.Proper
      case neg =>
        obtain ⟨e, he⟩ := hyi hy'
        exact ⟨e, fun a => by simp only [Formula.evaluate, hx'.evaluate_permissive, he]⟩
      case pos =>
        have ho : op = .not := not_ne_iff.mp fun ho => hx ⟨ho, hx', hy'⟩
        refine ⟨.unknownBinary op, fun a => ?_⟩
        simp only [Formula.evaluate, hx'.evaluate_permissive, hy'.evaluate_permissive, ho,
          Operator.truth?]

theorem truthTable_of_not_proper (hx : ¬x.Proper) (symbols : List String) :
    ∃ e, (∀ a : Assignment, x.evaluate (a.environment false) = .error e) ∧
      truthTable (environment false) x symbols = .error e := by
  obtain ⟨e, he⟩ := evaluate_of_not_proper hx
  obtain ⟨a, as, ha⟩ := List.exists_cons_of_ne_nil (assignments_ne_nil symbols)
  refine ⟨e, he, ?_⟩
  rw [truthTable, ha, List.mapM_cons, he]
  rfl

-- A formula that has no table has no value either, whatever its names are assigned.
theorem truthTable_counts_through (hs : symbols.Nodup) (x : Formula String) :
    (x.Proper → ∃ rows, truthTable (environment false) x symbols = .ok rows ∧
      x.CountsThrough symbols rows) ∧
    (¬x.Proper → ∃ e, (∀ a : Assignment, x.evaluate (a.environment false) = .error e) ∧
      truthTable (environment false) x symbols = .error e) :=
  ⟨fun hx => ⟨_, truthTable_eq hx symbols, countsThrough hs hx⟩,
    fun hx => truthTable_of_not_proper hx symbols⟩

-- Of the symbols q and p, it is q that counts more.
theorem truthTable_of_implication :
    let x : Formula String := .binary .implies (.var "p") (.var "q")
    ["q", "p"].Nodup ∧ ∃ rows, truthTable (environment false) x ["q", "p"] = .ok rows ∧
      rows.map (·.result) = [true, false, true, true] ∧ x.CountsThrough ["q", "p"] rows := by
  intro x
  have hs : ["q", "p"].Nodup := by decide
  have hx : x.Proper := ⟨nofun, trivial, trivial⟩
  obtain ⟨rows, hr, hc⟩ := (truthTable_counts_through hs x).1 hx
  have he : truthTable (environment false) x ["q", "p"] = .ok
      [⟨[("q", false), ("p", false)], true⟩, ⟨[("q", false), ("p", true)], false⟩,
        ⟨[("q", true), ("p", false)], true⟩, ⟨[("q", true), ("p", true)], true⟩] := by rfl
  cases he.symm.trans hr
  exact ⟨hs, _, hr, rfl, hc⟩

end Tables

end Enunciado
