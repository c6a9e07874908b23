import Enunciado.Json.Writer
import Enunciado.Proofs.Json.Digits

namespace Enunciado.Json

open Magnitude

variable {v : Json} {items : List Json} {fields : List (String × Json)}
variable {s rest rest' : List Char} {stack : List Frame} {depth : Nat}

section Full

theorem anyLong_iff : anyLong items ↔ ∃ v ∈ items, v.hasLong := by
  induction items
  case nil => simp [anyLong]
  case cons v items hi => simp [anyLong, hi]

theorem anyLongField_iff : anyLongField fields ↔ ∃ f ∈ fields, f.2.hasLong := by
  induction fields
  case nil => simp [anyLongField]
  case cons f fields hi => simp [anyLongField, hi]

theorem isLong_int {n : Int} : (int n).isLong ↔ 10 ^ maxDigits ≤ n.natAbs := by
  rw [isLong, decide_eq_true_iff, Nat.pow_eq]

theorem isLong_eq_false (h : v.hasLong = false) : v.isLong = false := by
  cases v
  case arr | obj => rfl
  all_goals exact h

theorem Readable.hasLong_eq_false (h : v.Readable) : v.hasLong = false := by
  induction h
  case int h => simp [hasLong, isLong, h]
  case arr hi => simpa [hasLong, ← Bool.not_eq_true, anyLong_iff] using hi
  case obj hi => simpa [hasLong, ← Bool.not_eq_true, anyLongField_iff] using hi
  all_goals rfl

mutual

-- A value is rendered to its end if no whole number in it has too many digits.
theorem renderUpTo_eq (depth : Nat) : ∀ (v : Json) (rest : List Char),
    v.hasLong = false → renderUpTo depth v rest = render depth v rest
  | arr (v :: vs), rest => by
    rw [hasLong, anyLong, Bool.or_eq_false_iff]
    rintro ⟨hv, hvs⟩
    rw [renderUpTo, render, if_neg (by simp [isLong_eq_false hv]), itemsUpTo_eq _ _ _ hvs,
      renderUpTo_eq _ _ _ hv]
  | obj ((k, v) :: fields), rest => by
    rw [hasLong, anyLongField, Bool.or_eq_false_iff]
    rintro ⟨hv, hfields⟩
    rw [renderUpTo, render, fieldsUpTo_eq _ _ _ hfields, renderUpTo_eq _ _ _ hv]
  | int n, _ => fun h => by simp [renderUpTo, isLong_eq_false h]
  | null, _ | bool _, _ | float _, _ | str _, _ | arr [], _ | obj [], _ => by
    simp [renderUpTo, isLong]

theorem itemsUpTo_eq (depth : Nat) : ∀ (vs : List Json) (rest : List Char),
    anyLong vs = false → itemsUpTo depth vs rest = renderItems depth vs rest
  | [], _ => fun _ => rfl
  | v :: vs, rest => by
    rw [anyLong, Bool.or_eq_false_iff]
    rintro ⟨hv, hvs⟩
    rw [itemsUpTo, renderItems, if_neg (by simp [isLong_eq_false hv]), itemsUpTo_eq _ _ _ hvs,
      renderUpTo_eq _ _ _ hv]

theorem fieldsUpTo_eq (depth : Nat) : ∀ (fields : List (String × Json)) (rest : List Char),
    anyLongField fields = false → fieldsUpTo depth fields rest = renderFields depth fields rest
  | [], _ => fun _ => rfl
  | (k, v) :: fields, rest => by
    rw [anyLongField, Bool.or_eq_false_iff]
    rintro ⟨hv, hfields⟩
    rw [fieldsUpTo, renderFields, fieldsUpTo_eq _ _ _ hfields, renderUpTo_eq _ _ _ hv]

end

theorem prettyUpTo_eq (h : v.hasLong = false) : v.prettyUpTo = v.pretty := by
  rw [prettyUpTo, renderUpTo_eq 0 v [] h, pretty]

end Full

section Cut

theorem prefix_closed (h : rest <+: rest') (depth : Nat) (c : Char) :
    newline depth ++ c :: rest <+: newline depth ++ c :: rest' := by
  simpa using h

mutual

-- What is written is a beginning of what would be written in full.
theorem renderUpTo_initial (depth : Nat) : ∀ (v : Json) {rest rest' : List Char},
    rest <+: rest' → renderUpTo depth v rest <+: render depth v rest'
  | arr (v :: vs), _, _, h => by
    rw [renderUpTo, render]
    split
    case isTrue => exact List.nil_prefix
    case isFalse =>
      have hr := itemsUpTo_initial (depth + 1) vs (prefix_closed h depth ']')
      exact (List.prefix_append_right_inj _).mpr (renderUpTo_initial (depth + 1) v hr)
  | obj ((k, v) :: fields), _, _, h => by
    rw [renderUpTo, render]
    have hr := fieldsUpTo_initial (depth + 1) fields (prefix_closed h depth '\x7d')
    simpa using renderUpTo_initial (depth + 1) v hr
  | int n, _, _, h => by
    simp only [renderUpTo, render]
    split
    case isTrue => exact List.nil_prefix
    case isFalse => exact (List.prefix_append_right_inj _).mpr h
  | null, _, _, h | bool true, _, _, h | bool false, _, _, h | float _, _, _, h | str _, _, _, h
  | arr [], _, _, h | obj [], _, _, h => by
    simpa [renderUpTo, isLong, render] using h

theorem itemsUpTo_initial (depth : Nat) : ∀ (vs : List Json) {rest rest' : List Char},
    rest <+: rest' → itemsUpTo depth vs rest <+: renderItems depth vs rest'
  | [], _, _, h => h
  | v :: vs, _, _, h => by
    rw [itemsUpTo, renderItems]
    split
    case isTrue => exact List.nil_prefix
    case isFalse =>
      have hr := itemsUpTo_initial depth vs h
      exact (List.prefix_append_right_inj _).mpr (renderUpTo_initial depth v hr)

theorem fieldsUpTo_initial (depth : Nat) :
    ∀ (fields : List (String × Json)) {rest rest' : List Char},
      rest <+: rest' → fieldsUpTo depth fields rest <+: renderFields depth fields rest'
  | [], _, _, h => h
  | (k, v) :: fields, _, _, h => by
    rw [fieldsUpTo, renderFields]
    simpa using renderUpTo_initial depth v (fieldsUpTo_initial depth fields h)

end

theorem prettyUpTo_initial (v : Json) : v.prettyUpTo.toList <+: v.pretty.toList := by
  rw [prettyUpTo, pretty, String.toList_ofList, String.toList_ofList]
  exact renderUpTo_initial 0 v (List.prefix_refl [])

end Cut

section Refused

theorem readScalar_of_long {n : Int} (h : (int n).isLong) (hr : EndsNumeral rest) :
    ∃ k, readScalar (render depth (int n) rest) =
      .error (.tooManyDigits k, render depth (int n) rest) := by
  obtain ⟨ds, hd, hl, hv⟩ := exists_toDigits n.natAbs
  let x : Numeral := ⟨n < 0, digitChars ds, [], none⟩
  have hx : x.Written [] := ⟨hl.whole, List.forall_mem_nil _, .absent⟩
  have hc : x.chars [] = (toString n).toList := by
    rw [toList_toString_int, hd]
    simp [Numeral.chars, fractionChars, x]
  have hlen : maxDigits < (digitChars ds).length := by
    rw [← hd, ← Nat.not_le, Nat.length_toDigits_le_iff (by decide) (by decide), Nat.not_lt]
    exact isLong_int.mp h
  have hw : x.value = .error (.tooManyDigits (digitChars ds).length) := by
    simp [Numeral.value, x, hlen]
  obtain ⟨_, hs⟩ := readScalar_chars hx hr
  rw [hw] at hs
  dsimp only at hs
  rw [hc] at hs
  exact ⟨_, hs⟩

theorem read_of_long {n : Int} (h : (int n).isLong) (hr : EndsNumeral rest) :
    ∃ k s, read .value stack (render depth (int n) rest) = .error (.tooManyDigits k, s) := by
  obtain ⟨k, hs⟩ : ∃ k, readScalar (render depth (int n) rest) = _ := readScalar_of_long h hr
  refine ⟨k, render depth (int n) rest, ?_⟩
  generalize render depth (int n) rest = s at hs ⊢
  cases s
  case nil => cases hs
  case cons c s =>
    have hc : c ∉ [' ', '\t', '\n', '\r', '[', '\x7b'] := by
      intro hc
      simp only [List.mem_cons, List.not_mem_nil, or_false] at hc
      rcases hc with rfl | rfl | rfl | rfl | rfl | rfl <;> cases hs
    simp only [List.mem_cons, List.not_mem_nil, or_false, not_or] at hc
    rw [read.eq_def]
    simp [isSpace, hc, hs]

-- The fields between one that has been read and another: `done` are those before it.
theorem read_fieldsBefore {before after : List (String × Json)}
    (h : ∀ f ∈ before, ReadsBack f.2) (depth depth' : Nat) (key : String) (v : Json)
    (done : List (String × Json)) (k : String) (w : Json) (rest : List Char)
    (hk : ((done ++ (key, v) :: before).map Prod.fst).Nodup) :
    read (.after v) (.fields done key :: stack)
      (renderFields depth (before ++ (k, w) :: after) (newline depth' ++ '\x7d' :: rest)) =
    read .value (.fields (done ++ (key, v) :: before) k :: stack)
      (render depth w (renderFields depth after (newline depth' ++ '\x7d' :: rest))) := by
  induction before generalizing key v done
  case nil =>
    rw [List.nil_append, renderFields, List.cons_append, read_nextField, read_newline, read_key,
      put_eq_append hk]
    exact .inr nofun
  case cons f before hi =>
    have ⟨hf, hv⟩ := List.forall_mem_cons.mp h
    have hnew := put_eq_append hk
    rw [List.append_cons done] at hk ⊢
    rw [List.cons_append, renderFields, List.cons_append, read_nextField, hnew, read_newline,
      read_key, hf.reads _ _ _ (endsNumeral_renderFields _ _ _ _), hi hv _ _ _ hk]
    exact .inr nofun

-- The fields before a whole number with too many digits are read, and then its text is refused.
theorem parse_of_long {before : List (String × Json)} (key : String) {n : Int}
    (after : List (String × Json)) (hk : (before.map Prod.fst).Nodup)
    (h : ∀ f ∈ before, f.2.Readable) (hn : (int n).isLong) :
    ∃ k p, parse (pretty (.obj (before ++ (key, int n) :: after))) =
      .error ⟨.tooManyDigits k, p⟩ := by
  obtain ⟨k, s, hs⟩ : ∃ k s, read .value [] (render 0 (.obj (before ++ (key, int n) :: after)) []) =
      .error (.tooManyDigits k, s) := by
    have hr := endsNumeral_renderFields 1 0 after ['\x7d']
    cases before
    case nil =>
      rw [List.nil_append, render, List.cons_append, read_object, read_newline, read_firstKey]
      · exact read_of_long hn hr
      · exact .inr nofun
    case cons f before =>
      obtain ⟨hf, hv⟩ := List.forall_mem_cons.mp fun f hf => (h f hf).readsBack
      rw [List.cons_append, render, List.cons_append, read_object, read_newline, read_firstKey,
        hf.reads _ _ _ (endsNumeral_renderFields _ _ _ _),
        read_fieldsBefore hv _ _ _ _ [] _ _ _ hk]
      · exact read_of_long hn hr
      · exact .inr nofun
  have hb : (render 0 (.obj (before ++ (key, int n) :: after)) []).head? ≠ some '\ufeff' := by
    cases before <;> simp [render]
  have ha : readAll (render 0 (.obj (before ++ (key, int n) :: after)) []) =
      .error (.tooManyDigits k, s) := by
    rw [readAll, if_neg hb, hs]
  rw [parse, pretty, String.toList_ofList, ha]
  exact ⟨_, _, rfl⟩

end Refused

end Enunciado.Json
