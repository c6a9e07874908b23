import Mathlib.Data.Set.Basic
import Enunciado.Proofs.Formula.Grammar
import Enunciado.Proofs.Traversal
import Enunciado.Proofs.TruthTable.Assignments

namespace Enunciado

open Assignment

variable {x : Formula String} {symbols : List String} {rows : List Row} {v : String → Bool}

namespace Verdict

-- The verdict on a formula that has these values.
def Holds (values : Set Bool) : Verdict → Prop
  | tautology => false ∉ values
  | contradiction => true ∉ values
  | contingency => true ∈ values ∧ false ∈ values

theorem ofResults?_eq_some_iff {w : Verdict} {results : List Bool} :
    ofResults? results = some w ↔ results ≠ [] ∧ w.Holds {b | b ∈ results} := by
  have hall : results.all id ↔ false ∉ results := by
    simp only [List.all_eq_true, id, Bool.forall_bool]
    simp
  have hany : results.any id ↔ true ∈ results := by simp
  have hnil (hf : false ∉ results) (ht : true ∉ results) : results = [] :=
    List.eq_nil_iff_forall_not_mem.mpr fun b => by cases b <;> assumption
  simp only [ofResults?, hall, hany, List.isEmpty_iff]
  by_cases hf : false ∈ results <;> by_cases ht : true ∈ results <;> cases w <;>
    simp_all [Holds]

end Verdict

-- The results in a table are the values under all choices for its symbols.
theorem mem_results_iff (hs : symbols.Nodup) (hp : x.Proper)
    (h : truthTable (environment false) x symbols = .ok rows) :
    b ∈ rows.map (·.result) ↔ ∃ v, x.truth (restrict symbols v) = b := by
  have hv (v : String → Bool) : x.evaluate (environment false (ofValues symbols v)) =
      .ok (x.truth (restrict symbols v)) :=
    hp.evaluate fun name _ => environment_ofValues symbols v name
  constructor
  case mp =>
    intro hb
    obtain ⟨r, hr, rfl⟩ := List.mem_map.mp hb
    have ⟨a, ha, hr⟩ := exists_of_mem_mapM h r hr
    obtain ⟨v, rfl⟩ := (mem_assignments hs).mp ha
    rw [hv, Except.map] at hr
    cases hr
    exact ⟨v, rfl⟩
  case mpr =>
    rintro ⟨v, rfl⟩
    have ⟨r, hr, ha⟩ := exists_of_mapM h _ ((mem_assignments hs).mpr ⟨v, rfl⟩)
    rw [hv, Except.map] at ha
    cases ha
    exact List.mem_map.mpr ⟨_, hr, rfl⟩

theorem classify?_eq_some_iff (hs : symbols.Nodup) (hp : x.Proper)
    (h : truthTable (environment false) x symbols = .ok rows) :
    classify? rows = some w ↔ w.Holds {b | ∃ v, x.truth (restrict symbols v) = b} := by
  have hr : {b | b ∈ rows.map (·.result)} = {b | ∃ v, x.truth (restrict symbols v) = b} :=
    Set.ext fun b => mem_results_iff hs hp h
  have hn : rows.map (·.result) ≠ [] :=
    List.ne_nil_of_mem <| (mem_results_iff hs hp h).mpr ⟨fun _ => false, rfl⟩
  rw [classify?, Verdict.ofResults?_eq_some_iff, hr]
  exact and_iff_right hn

section Letters

def alphabet : List Char :=
  ['a', 'b', 'c', 'd', 'e', 'f', 'g', 'h', 'i', 'j', 'k', 'l', 'm', 'n', 'o', 'p', 'q', 'r', 's',
    't', 'u', 'v', 'w', 'x', 'y', 'z']

def letters : List String :=
  alphabet.map String.singleton

theorem mem_letters_iff {name : String} : name ∈ letters ↔ Formula.isLetterName name.toList := by
  constructor
  case mp =>
    intro h
    obtain ⟨c, hc, rfl⟩ := List.mem_map.mp h
    have hl : alphabet.all fun c => Formula.isLetterName [c] := by decide
    simpa using List.all_eq_true.mp hl c hc
  case mpr =>
    intro h
    match hn : name.toList with
    | [c] =>
      have h : 'a' ≤ c ∧ c ≤ 'z' := by simpa [hn, Formula.isLetterName] using h
      have ha : 97 ≤ c.toNat := UInt32.le_iff_toNat_le.mp h.1
      have hz : c.toNat ≤ 122 := UInt32.le_iff_toNat_le.mp h.2
      have hl : ∀ n < alphabet.length, Char.ofNat (97 + n) ∈ alphabet := by decide
      have hc := hl (c.toNat - 97) (Nat.sub_lt_left_of_lt_add ha (Nat.lt_succ_of_le hz))
      rw [Nat.add_sub_cancel' ha, Char.ofNat_toNat] at hc
      refine List.mem_map.mpr ⟨c, hc, ?_⟩
      rw [← String.toList_inj, hn, String.toList_singleton]
    | [] => simp [hn, Formula.isLetterName] at h
    | _ :: _ :: _ => simp [hn, Formula.isLetterName] at h

-- What the verdict says of a formula when all letters are assigned by the `among` values.
def Verdict.Truth (x : Formula String) (among : (String → Bool) → Prop) : Verdict → Prop
  | tautology =>
    ∀ v, among v → x.evaluate (environment false (ofValues letters v)) = .ok true
  | contradiction =>
    ∀ v, among v → x.evaluate (environment false (ofValues letters v)) = .ok false
  | contingency =>
    (∃ v, among v ∧ x.evaluate (environment false (ofValues letters v)) = .ok true) ∧
    ∃ v, among v ∧ x.evaluate (environment false (ofValues letters v)) = .ok false

theorem evaluate_letters (hp : x.Proper) (hl : x.Lettered) (v : String → Bool) :
    x.evaluate (environment false (ofValues letters v)) = .ok (x.truth v) :=
  hp.evaluate fun name hm => by
    rw [environment_ofValues, restrict_of_mem (mem_letters_iff.mpr (hl name hm))]

theorem Verdict.truth_iff (hp : x.Proper) (hl : x.Lettered) {among : (String → Bool) → Prop}
    {w : Verdict} : w.Truth x among ↔ w.Holds {b | ∃ v, among v ∧ x.truth v = b} := by
  cases w <;> simp [Truth, Holds, evaluate_letters hp hl]

end Letters

-- Letters outside the table count as false in it.
theorem values_eq_of_false_elsewhere (hl : x.Lettered) :
    {b | ∃ v, x.truth (restrict symbols v) = b} =
      {b | ∃ v, (∀ l ∈ letters, l ∉ symbols → v l = false) ∧ x.truth v = b} := by
  ext b
  constructor
  case mp =>
    rintro ⟨v, rfl⟩
    exact ⟨restrict symbols v, fun l _ hs => restrict_of_not_mem hs, rfl⟩
  case mpr =>
    rintro ⟨v, hv, rfl⟩
    refine ⟨v, Formula.truth_congr fun name hm => ?_⟩
    by_cases hs : name ∈ symbols
    case pos => exact restrict_of_mem hs
    case neg => rw [restrict_of_not_mem hs, hv name (mem_letters_iff.mpr (hl name hm)) hs]

theorem values_eq_of_declared (h : ∀ name ∈ x.names, name ∈ symbols) :
    {b | ∃ v, x.truth (restrict symbols v) = b} = {b | ∃ v, True ∧ x.truth v = b} := by
  have hv (v : String → Bool) : x.truth (restrict symbols v) = x.truth v :=
    Formula.truth_congr fun name hm => restrict_of_mem (h name hm)
  simp only [hv, true_and]

end Enunciado
