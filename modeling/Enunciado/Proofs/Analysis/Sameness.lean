import Mathlib.Data.Set.Card
import Enunciado.Proofs.Analysis.Document
import Enunciado.Proofs.TruthTable.Symbols

namespace Enunciado

namespace Row

variable {r s : Row} {rows : List Row}

-- The symbols of the row, in their order.
def symbols (r : Row) : List String :=
  r.assignment.map Prod.fst

section Agreement

theorem agrees_iff_perm (hr : r.IsMapping) (hs : s.IsMapping) :
    r.agrees s ↔ r.assignment.Perm s.assignment ∧ r.result = s.result := by
  simp only [agrees, Bool.and_eq_true, decide_eq_true_eq, List.all_eq_true]
  constructor
  case mp =>
    rintro ⟨⟨hb, hl⟩, hm⟩
    have hsub : r.assignment ⊆ s.assignment := fun p hp => mem_of_lookup (hm p hp)
    exact ⟨(hr.of_map.subperm hsub).perm_of_length_le hl.ge, hb⟩
  case mpr =>
    rintro ⟨hp, hb⟩
    exact ⟨⟨hb, hp.length_eq⟩, fun p hm => (lookup_eq_some_iff hs).mpr (hp.mem_iff.mp hm)⟩

-- Rows agree exactly if the same can be looked up in them.
theorem agrees_iff_entry (hr : r.IsMapping) (hs : s.IsMapping) :
    r.agrees s ↔ r.entry = s.entry := by
  rw [agrees_iff_perm hr hs, perm_iff_lookup hr hs, entry, entry, Prod.mk.injEq, funext_iff]

-- Rows that agree differ in nothing but the order of their symbols.
theorem eq_iff_symbols (hr : r.IsMapping) (hs : s.IsMapping) (h : r.agrees s) :
    r = s ↔ r.symbols = s.symbols := by
  refine ⟨congrArg symbols, fun ho => ?_⟩
  obtain ⟨hp, hb⟩ := (agrees_iff_perm hr hs).mp h
  have ha : r.assignment = s.assignment := by
    refine List.ext_getElem hp.length_eq fun i hi hj => ?_
    have hm : r.assignment[i] ∈ s.assignment := hp.mem_iff.mp (List.getElem_mem hi)
    refine List.inj_on_of_nodup_map hs hm (List.getElem_mem hj) ?_
    simpa [symbols, hi, hj] using congrArg (·[i]?) ho
  cases r
  cases s
  exact congrArg₂ mk ha hb

end Agreement

section Sets

-- The number of classes of rows that agree.
noncomputable def classes (rows : List Row) : Nat :=
  (entry '' {r | r ∈ rows}).ncard

theorem distinct_eq (rows : List Row) : distinct rows = {r | r ∈ rows}.ncard := by
  have hd : (Std.HashSet.ofList rows).toList.Nodup :=
    Std.HashSet.distinct_toList.imp fun h => by simpa using h
  have hm : (Std.HashSet.ofList rows).toList.toFinset = rows.toFinset := by
    ext r
    simp [Std.HashSet.mem_ofList]
  rw [distinct, ← Std.HashSet.length_toList, ← List.toFinset_card_of_nodup hd, hm,
    ← List.coe_toFinset, Set.ncard_coe_finset]

theorem classes_le_distinct (rows : List Row) : classes rows ≤ distinct rows :=
  distinct_eq rows ▸ Set.ncard_image_le rows.finite_toSet

theorem classes_eq_distinct_iff (h : ∀ r ∈ rows, r.IsMapping) :
    classes rows = distinct rows ↔
      ∀ r ∈ rows, ∀ s ∈ rows, r.agrees s → r.symbols = s.symbols := by
  rw [distinct_eq, classes, Set.ncard_image_iff rows.finite_toSet]
  constructor
  case mp =>
    intro hi r hr s hs ha
    exact congrArg symbols (hi hr hs ((agrees_iff_entry (h r hr) (h s hs)).mp ha))
  case mpr =>
    intro ho r hr s hs he
    have ha := (agrees_iff_entry (h r hr) (h s hs)).mpr he
    exact (eq_iff_symbols (h r hr) (h s hs) ha).mpr (ho r hr s hs ha)

end Sets

section Reordering

-- The keys of the assignment are written in another order.
inductive Reorders : Json → Json → Prop
  | intro {fields fields' : List (String × Json)} (result : Json) : fields.Perm fields' →
    Reorders (.obj [("assignment", .obj fields), ("result", result)])
      (.obj [("assignment", .obj fields'), ("result", result)])

theorem exists_of_reorders (hr : r.IsMapping) (h : Reorders r.toJson v) :
    ∃ s : Row, s.toJson = v ∧ r.agrees s := by
  let write : String × Bool → String × Json := fun p => (p.1, .bool p.2)
  have hw : write.Injective := fun p q h => by simpa [write, Prod.ext_iff] using h
  rw [toJson] at h
  cases h
  case intro fields hp =>
    have hm : fields ∈ Set.range (List.map write) := by
      rw [Set.range_list_map]
      intro f hf
      obtain ⟨p, -, h⟩ := List.mem_map.mp (hp.mem_iff.mpr hf)
      exact ⟨p, h⟩
    obtain ⟨a, rfl⟩ := hm
    have hp : r.assignment.Perm a := (List.map_perm_map_iff hw).mp hp
    have hs : IsMapping ⟨a, r.result⟩ := (hp.map Prod.fst).nodup_iff.mp hr
    exact ⟨⟨a, r.result⟩, rfl, (agrees_iff_perm hr hs).mpr ⟨hp, rfl⟩⟩

theorem exists_of_reorders_rows {vs : List Json} (hr : ∀ r ∈ rows, r.IsMapping)
    (h : List.Forall₂ Reorders (rows.map toJson) vs) :
    ∃ rows' : List Row, rows'.map toJson = vs ∧
      List.Forall₂ (fun r s => r.agrees s) rows rows' := by
  induction rows generalizing vs
  case nil =>
    cases h
    exact ⟨[], rfl, .nil⟩
  case cons r rows hi =>
    cases h
    case cons hv hvs =>
      have ⟨hr, hrs⟩ := List.forall_mem_cons.mp hr
      obtain ⟨s, rfl, hs⟩ := exists_of_reorders hr hv
      obtain ⟨rows', rfl, hrows⟩ := hi hrs hvs
      exact ⟨s :: rows', rfl, .cons hs hrows⟩

end Reordering

end Row

namespace Report

-- The keys are written in another order within each assignment.
inductive Reorders : Json → Json → Prop
  | intro {fields : List (String × Json)} {vs vs' : List Json} :
    lookup "truthTable" fields = some (.arr vs) → List.Forall₂ Row.Reorders vs vs' →
    Reorders (.obj fields) (.obj (put "truthTable" (.arr vs') fields))

-- The reports have rows that agree, and else they are the same.
structure Agrees (r s : Report Json) : Prop where
  rows : List.Forall₂ (fun a b => a.agrees b) r.rows s.rows
  rest : s = { r with rows := s.rows }

theorem exists_of_reorders {r : Report Json} (hr : ∀ row ∈ r.rows, row.IsMapping)
    (h : Reorders r.toJson v) : ∃ s : Report Json, s.toJson = v ∧ r.Agrees s := by
  rw [toJson] at h
  cases h
  case intro vs vs' hrows hl =>
    obtain rfl : r.rows.map Row.toJson = vs := by simpa [lookup] using hl
    obtain ⟨rows, rfl, ha⟩ := Row.exists_of_reorders_rows hr hrows
    exact ⟨{ r with rows }, by simp [toJson, put], ha, rfl⟩

-- What comes back from a document with its keys in another order is the same report only up to
-- that order.
theorem exists_of_reordered_document {r : Report Json} (hr : ∀ row ∈ r.rows, row.IsMapping)
    (h : Reorders r.toJson v) :
    ∃ s, ofJson v = .ok s ∧ r.Agrees s ∧ (s = r ↔ v = r.toJson) := by
  obtain ⟨s, rfl, ha⟩ := exists_of_reorders hr h
  refine ⟨s, ofJson_toJson s, ha, congrArg toJson, fun he => ?_⟩
  have hs : Except.ok s = (.ok r : Except DocumentError _) := by
    rw [← ofJson_toJson s, he, ofJson_toJson]
  exact Except.ok.inj hs

end Report

-- Rows that agree are hashed alike if they list their symbols in the same order. A set has one row
-- for each of its classes of agreeing rows exactly if all rows of a class do so, and a report with
-- its keys in another order is the same up to that order only.
theorem hash_goes_by_order {rows : List Row} (hrows : ∀ r ∈ rows, r.IsMapping) {a : Report Json}
    (ha : ∀ r ∈ a.rows, r.IsMapping) (hv : Report.Reorders a.toJson v) :
    (∀ r ∈ rows, ∀ s ∈ rows, r.agrees s →
      (r = s ↔ r.symbols = s.symbols) ∧ (r.symbols = s.symbols → hash r = hash s)) ∧
    Row.classes rows ≤ Row.distinct rows ∧
    (Row.classes rows = Row.distinct rows ↔
      ∀ r ∈ rows, ∀ s ∈ rows, r.agrees s → r.symbols = s.symbols) ∧
    ∃ b, Report.ofJson v = .ok b ∧ a.Agrees b ∧ (b = a ↔ v = a.toJson) := by
  refine ⟨fun r hr s hs h => ?_, Row.classes_le_distinct rows, Row.classes_eq_distinct_iff hrows,
    Report.exists_of_reordered_document ha hv⟩
  have he := Row.eq_iff_symbols (hrows r hr) (hrows s hs) h
  exact ⟨he, fun ho => congrArg hash (he.mpr ho)⟩

theorem hash_goes_by_order_of_symbols :
    let r : Row := ⟨[("p", true), ("q", false)], true⟩
    let s : Row := ⟨[("p", true), ("q", true)], true⟩
    let t : Row := ⟨[("q", false), ("p", true)], true⟩
    let a : Report Json := ⟨.str "", [], .str "p", .tautology, [r, s], .var (.str "p"), .null⟩
    let v := ({ a with rows := [t, s] } : Report Json).toJson
    (∀ row ∈ [r, s, t], row.IsMapping) ∧ (∀ row ∈ a.rows, row.IsMapping) ∧
    Report.Reorders a.toJson v ∧ r.agrees t ∧ r ≠ t ∧
    Row.classes [r, s, t] < Row.distinct [r, s, t] ∧
    ∃ b, Report.ofJson v = .ok b ∧ a.Agrees b ∧ b ≠ a := by
  intro r s t a v
  have hrt : r.agrees t := by decide
  have hrows : ∀ row ∈ [r, s, t], row.IsMapping := by decide
  have ha : ∀ row ∈ a.rows, row.IsMapping := by decide
  have hv : Report.Reorders a.toJson v :=
    .intro rfl (.cons (.intro _ (.swap _ _ _)) (.cons (.intro _ (.refl _)) .nil))
  obtain ⟨hpair, hle, hsame, b, hb, hab, he⟩ := hash_goes_by_order hrows ha hv
  have ho : r.symbols ≠ t.symbols := by decide
  have hn : Row.classes [r, s, t] ≠ Row.distinct [r, s, t] :=
    fun h => ho (hsame.mp h r (by simp) t (by simp) hrt)
  exact ⟨hrows, ha, hv, hrt, mt (hpair r (by simp) t (by simp) hrt).1.mp ho, hle.lt_of_ne hn,
    b, hb, hab, mt he.mp (by decide)⟩

-- Two rows with the same values in another order are one row to the eye and two in a set.
theorem set_of_agreeing_rows :
    let r : Row := ⟨[("p", true), ("q", false)], true⟩
    let s : Row := ⟨[("q", false), ("p", true)], true⟩
    r.agrees s ∧ Row.classes [r, s] = 1 ∧ Row.distinct [r, s] = 2 := by
  intro r s
  have he : r.entry = s.entry := (Row.agrees_iff_entry (by decide) (by decide)).mp (by decide)
  have hs : {x | x ∈ [r, s]} = {r, s} := by ext; simp
  refine ⟨by decide, ?_, ?_⟩
  case refine_1 =>
    rw [Row.classes, hs, Set.image_pair, he, Set.pair_eq_singleton, Set.ncard_singleton]
  case refine_2 => rw [Row.distinct_eq, hs, Set.ncard_pair (by decide)]

end Enunciado
