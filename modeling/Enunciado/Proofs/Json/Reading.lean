import Enunciado.Proofs.Json.RoundTrip

namespace Enunciado.Json

variable {s t : List Char} {n : Numeral} {v : Json}

section Numbers

theorem wholeDigits?_digits {ds : List Char} {r : Rest s} (h : wholeDigits? s = some (ds, r)) :
    ∀ c ∈ ds, isDigit c := by
  unfold wholeDigits? at h
  split at h
  case h_1 => cases h
  case h_2 c s =>
    split at h
    case isTrue =>
      cases h
      exact List.forall_mem_singleton.mpr rfl
    split at h
    case isTrue hc =>
      cases h
      exact List.forall_mem_cons.mpr ⟨hc, fun _ => List.mem_takeWhile_imp⟩
    case isFalse => cases h

theorem unsigned?_digits {negative : Bool} {r : Rest s} (h : unsigned? negative s = some (n, r)) :
    ∀ c ∈ n.whole, isDigit c := by
  unfold unsigned? at h
  split at h
  case h_1 => cases h
  case h_2 hw =>
    cases h
    exact wholeDigits?_digits hw

theorem numeral?_digits {r : Rest s} (h : numeral? s = some (n, r)) :
    ∀ c ∈ n.whole, isDigit c := by
  unfold numeral? at h
  split at h
  case h_1 =>
    obtain ⟨⟨n', r'⟩, hn, h⟩ := Option.map_eq_some_iff.mp h
    cases h
    exact unsigned?_digits hn
  case h_2 => exact unsigned?_digits h

theorem digitsValue_lt {ds : List Char} (h : ∀ c ∈ ds, isDigit c) :
    digitsValue ds < 10 ^ ds.length := by
  have hd : ∀ d ∈ ds.map fun c => c.toNat - '0'.toNat, d < 10 := by
    simp only [List.forall_mem_map]
    intro c hc
    have hc := h c hc
    have h9 : c ≤ '9' := by
      simp only [isDigit, decide_eq_true_eq] at hc
      exact hc.2
    have h9 : c.toNat ≤ '9'.toNat := UInt32.le_iff_toNat_le.mp h9
    have h0 : '0'.toNat = 48 := rfl
    have h9' : '9'.toNat = 57 := rfl
    omega
  have hl := ofDecimalDigits_lt hd
  rwa [List.length_map] at hl

theorem ofDecimal_le (n : Nat) (e : Int) : Magnitude.ofDecimal n e ≤ .infinity := by
  have hr (n d : Nat) : Magnitude.ofRatio n d ≤ .infinity := Nat.min_le_right _ _
  unfold Magnitude.ofDecimal
  dsimp only
  split
  · split
    · exact Nat.zero_le _
    · split
      · exact Nat.le_refl _
      · exact hr _ _
  · split
    · exact Nat.zero_le _
    · exact hr _ _

theorem readable_of_value (hn : ∀ c ∈ n.whole, isDigit c) (h : n.value = .ok v) : v.Readable := by
  unfold Numeral.value at h
  split at h
  case isTrue =>
    split at h
    case isTrue => cases h
    case isFalse hl =>
      cases h
      have hm : digitsValue n.whole < 10 ^ maxDigits :=
        Nat.lt_of_lt_of_le (digitsValue_lt hn)
          (Nat.pow_le_pow_right (by decide) (Nat.not_lt.mp hl))
      refine .int ?_
      split <;> simpa using hm
  case isFalse =>
    cases h
    exact .float (.inl (ofDecimal_le _ _))

theorem readable_of_word {r : Rest s} (h : word? s = some (v, r)) : v.Readable := by
  unfold word? at h
  split at h <;> cases h
  · exact .null
  · exact .bool true
  · exact .bool false
  · exact .float (.inr rfl)
  · exact .float (.inl (Nat.le_refl _))
  · exact .float (.inl (Nat.le_refl _))

theorem readable_of_readScalar {r : Rest s} (h : readScalar s = .ok (v, r)) : v.Readable := by
  unfold readScalar at h
  split at h
  case h_1 =>
    split at h
    case h_1 => cases h
    case h_2 =>
      cases h
      exact .str _
  case h_2 =>
    split at h
    case h_1 hw =>
      cases h
      exact readable_of_word hw
    case h_2 =>
      split at h
      case h_1 => cases h
      case h_2 hn =>
        split at h
        case h_1 => cases h
        case h_2 hv =>
          cases h
          exact readable_of_value (numeral?_digits hn) hv

end Numbers

section Values

-- Fields that can be those of an object.
def ReadableFields (fields : List (String × Json)) : Prop :=
  (fields.map Prod.fst).Nodup ∧ ∀ f ∈ fields, f.2.Readable

theorem ReadableFields.put {fields : List (String × Json)} (h : ReadableFields fields)
    (hv : v.Readable) (key : String) : ReadableFields (put key v fields) := by
  refine ⟨nodup_keys_put h.1 key v, fun f hf => ?_⟩
  rcases mem_put hf with rfl | hf
  · exact hv
  · exact h.2 f hf

-- What has been read of the arrays and objects that are open.
def Frame.Readable : Frame → Prop
  | items done => ∀ v ∈ done, v.Readable
  | fields done _ => ReadableFields done

def Mode.Readable : Mode → Prop
  | value | firstItem | firstField => True
  | key done | colon done _ => ReadableFields done
  | after v => v.Readable

theorem readable_of_read {mode : Mode} {stack : List Frame}
    (h : read mode stack s = .ok (v, t)) (hm : mode.Readable) (hs : ∀ f ∈ stack, f.Readable) :
    v.Readable := by
  fun_induction read mode stack s
  case case1 | case17 =>
    cases h
    exact hm
  case case3 hi => exact hi h hm hs
  case case4 hi | case5 hi => exact hi h trivial hs
  case case7 hv _ hi => exact hi h (readable_of_readScalar hv) hs
  case case8 hi => exact hi h (.arr nofun) hs
  case case9 hi => exact hi h trivial (List.forall_mem_cons.mpr ⟨nofun, hs⟩)
  case case10 hi => exact hi h (.obj List.nodup_nil nofun) hs
  case case11 hi => exact hi h ⟨List.nodup_nil, nofun⟩ hs
  case case13 hi => exact hi h hm hs
  case case15 hi => exact hi h trivial (List.forall_mem_cons.mpr ⟨hm, hs⟩)
  case case18 v done _ _ _ hi =>
    have ⟨hd, hs⟩ := List.forall_mem_cons.mp hs
    have hd : ∀ w ∈ v :: done, w.Readable := List.forall_mem_cons.mpr ⟨hm, hd⟩
    exact hi h (.arr fun w hw => hd w (List.mem_reverse.mp hw)) hs
  case case19 v done _ _ _ _ hi =>
    have ⟨hd, hs⟩ := List.forall_mem_cons.mp hs
    have hd : ∀ w ∈ v :: done, w.Readable := List.forall_mem_cons.mpr ⟨hm, hd⟩
    exact hi h trivial (List.forall_mem_cons.mpr ⟨hd, hs⟩)
  case case21 key _ _ _ hi =>
    have ⟨hd, hs⟩ := List.forall_mem_cons.mp hs
    have hf := ReadableFields.put hd hm key
    exact hi h (.obj hf.1 hf.2) hs
  case case22 key _ _ _ _ hi =>
    have ⟨hd, hs⟩ := List.forall_mem_cons.mp hs
    exact hi h (ReadableFields.put hd hm key) hs
  all_goals cases h

theorem readable_of_parse {text : String} (h : parse text = .ok v) : v.Readable := by
  unfold parse at h
  dsimp only at h
  split at h
  case h_2 => cases h
  case h_1 w ha =>
    cases h
    unfold readAll at ha
    split at ha
    case isTrue => cases ha
    split at ha
    case h_1 => cases ha
    case h_2 hr =>
      split at ha
      case h_2 => cases ha
      case h_1 =>
        cases ha
        exact readable_of_read hr trivial (List.forall_mem_nil _)

end Values

end Enunciado.Json
