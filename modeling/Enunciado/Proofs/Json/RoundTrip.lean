import Enunciado.Proofs.Json.Fields
import Enunciado.Proofs.Json.Number
import Enunciado.Proofs.Json.Text

namespace Enunciado.Json

variable {v : Json} {s t rest : List Char} {stack : List Frame} {c : Char} {depth : Nat}

section Scalars

-- The string, word or number `v` is read from `s`, and `t` is left.
def ReadsScalar (s : List Char) (v : Json) (t : List Char) : Prop :=
  ∃ h, readScalar s = .ok (v, ⟨t, h⟩)

theorem readsScalar_str (s : String) (rest : List Char) :
    ReadsScalar (renderString s ++ rest) (.str s) rest := by
  have ⟨hl, hs⟩ := readsString_flatMap ('"' :: (s.toList.flatMap escapeChar ++ '"' :: rest))
    s.toList rest
  have ht : renderString s ++ rest = '"' :: (s.toList.flatMap escapeChar ++ '"' :: rest) := by
    simp [renderString]
  rw [ht]
  refine ⟨Nat.lt_succ_of_lt hl, ?_⟩
  rw [readScalar, hs]
  simp

theorem word?_eq_none (hc : c ∉ ['n', 't', 'f', 'N', 'I']) (hm : c = '-' → ∀ r, s ≠ 'I' :: r) :
    word? (c :: s) = none := by
  simp only [List.mem_cons, List.not_mem_nil, or_false, not_or] at hc
  rw [word?]
  all_goals
    rintro r h
    cases h
    simp_all

theorem not_mem_of_isDigit (hc : isDigit c) : c ∉ ['n', 't', 'f', 'N', 'I', '"', '-'] := by
  intro hm
  simp only [List.mem_cons, List.not_mem_nil, or_false] at hm
  rcases hm with rfl | rfl | rfl | rfl | rfl | rfl | rfl <;> cases hc

-- A numeral is no word, and no string: its value is what is read, or what is wrong with it.
theorem readScalar_chars {x : Numeral} {e : List Char} (h : x.Written e) (hr : EndsNumeral rest) :
    ∃ hl, readScalar (x.chars e ++ rest) = match x.value with
      | .error fault => .error (fault, x.chars e ++ rest)
      | .ok v => .ok (v, ⟨rest, hl⟩) := by
  have hn := x.numeral?_chars h hr
  obtain ⟨c, s, hs, hc⟩ := x.chars_head h
  rw [hs] at hn ⊢
  obtain ⟨hl, hn⟩ := hn
  have hw : word? (c :: s ++ rest) = none := by
    rcases hc with hc | ⟨rfl, c', s, rfl, hc⟩
    case inl => exact word?_eq_none (by have := not_mem_of_isDigit hc; simp_all) (by rintro rfl; cases hc)
    case inr =>
      refine word?_eq_none (by decide) ?_
      rintro - r ⟨rfl, rfl⟩
      cases hc
  have hq : c ≠ '"' := by
    rcases hc with hc | ⟨rfl, -⟩
    · rintro rfl
      cases hc
    · decide
  have hne : ∀ r, c :: s ++ rest = '"' :: r → False := fun r h ↦ hq (List.cons.inj h).1
  refine ⟨hl, ?_⟩
  cases hv : x.value with
  | error fault => simp only [readScalar.eq_2 _ hne, hw, hn, hv]
  | ok v => simp only [readScalar.eq_2 _ hne, hw, hn, hv]

theorem readsScalar_number (hw : Writes s v) (hr : EndsNumeral rest) :
    ReadsScalar (s ++ rest) v rest := by
  obtain ⟨n, e, h, rfl, hv⟩ := hw
  obtain ⟨hl, hs⟩ := readScalar_chars h hr
  exact ⟨hl, by rw [hs, hv]⟩

theorem decimal_notANumber : Binary64.notANumber.decimal jsonWords = ['N', 'a', 'N'] :=
  if_pos (decide_eq_true (Nat.lt_add_of_pos_right (Magnitude.twoTo_pos 51)))

theorem decimal_infinity (negative : Bool) :
    Binary64.decimal jsonWords ⟨negative, .infinity⟩ =
      signChars negative ++ ['I', 'n', 'f', 'i', 'n', 'i', 't', 'y'] := by
  have hn : Binary64.isNotANumber ⟨negative, .infinity⟩ = false :=
    decide_eq_false (Nat.lt_irrefl _)
  have hi : Binary64.isInfinite ⟨negative, .infinity⟩ = true := decide_eq_true rfl
  rw [Binary64.decimal, hn, hi]
  rfl

theorem float_cases {x : Binary64} (hx : x.magnitude ≤ .infinity ∨ x = .notANumber) :
    x = .notANumber ∨ (∃ negative, x = ⟨negative, .infinity⟩) ∨ x.magnitude < .infinity := by
  rcases hx with hx | hx
  case inr => exact .inl hx
  rcases Nat.lt_or_eq_of_le hx with hx | hx
  case inl => exact .inr (.inr hx)
  case inr => exact .inr (.inl ⟨x.negative, congrArg (Binary64.mk _ ⟨·⟩) hx⟩)

theorem readsScalar_float {x : Binary64} (hx : x.magnitude ≤ .infinity ∨ x = .notANumber)
    (hr : EndsNumeral rest) : ReadsScalar (x.decimal jsonWords ++ rest) (.float x) rest := by
  rcases float_cases hx with rfl | ⟨negative, rfl⟩ | hx
  · rw [decimal_notANumber]
    exact ⟨by simp; omega, rfl⟩
  · rw [decimal_infinity]
    cases negative
    · exact ⟨by simp [signChars]; omega, rfl⟩
    · exact ⟨by simp [signChars]; omega, rfl⟩
  · exact readsScalar_number (writes_float hx) hr

end Scalars

section Steps

-- A character with which a value can begin.
def Starts (c : Char) : Prop :=
  isSpace c = false ∧ c ≠ ']' ∧ c ≠ '\ufeff'

instance : Decidable (Starts c) := inferInstanceAs (Decidable (_ ∧ _))

theorem ReadsScalar.head (h : ReadsScalar s v t) :
    ∃ c s', s = c :: s' ∧ Starts c ∧ c ≠ '[' ∧ c ≠ '\x7b' := by
  obtain ⟨hl, h⟩ := h
  cases s
  case nil => cases h
  case cons c s =>
    have hc : c ∉ [' ', '\t', '\n', '\r', ']', '\ufeff', '[', '\x7b'] := by
      intro hc
      simp only [List.mem_cons, List.not_mem_nil, or_false] at hc
      rcases hc with rfl | rfl | rfl | rfl | rfl | rfl | rfl | rfl <;> cases h
    simp only [List.mem_cons, List.not_mem_nil, or_false, not_or] at hc
    exact ⟨c, s, rfl, by simp [Starts, isSpace, hc], by simp [hc], by simp [hc]⟩

theorem read_done : read (.after v) [] s = .ok (v, s) := by
  rw [read]

theorem read_space {mode : Mode} (hc : isSpace c) (hm : stack ≠ [] ∨ ∀ v, mode ≠ .after v) :
    read mode stack (c :: s) = read mode stack s := by
  rw [read.eq_def]
  split
  · simp at hm
  · contradiction
  · rename_i h
    cases h
    rw [if_pos hc]

theorem read_newline {mode : Mode} (depth : Nat) (s : List Char)
    (hm : stack ≠ [] ∨ ∀ v, mode ≠ .after v) :
    read mode stack (newline depth ++ s) = read mode stack s := by
  have hs (n : Nat) : read mode stack (List.replicate n ' ' ++ s) = read mode stack s := by
    induction n
    case zero => rfl
    case succ n hi => exact (read_space rfl hm).trans hi
  exact (read_space rfl hm).trans (hs _)

theorem read_array : read .value stack ('[' :: s) = read .firstItem stack s := by
  rw [read.eq_def]
  simp [isSpace]

theorem read_object : read .value stack ('\x7b' :: s) = read .firstField stack s := by
  rw [read.eq_def]
  simp [isSpace]

theorem read_scalar (h : ReadsScalar s v t) : read .value stack s = read (.after v) stack t := by
  obtain ⟨c, s, rfl, hc, ha, ho⟩ := h.head
  obtain ⟨_, hs⟩ := h
  rw [read.eq_def]
  simp [hc.1, ha, ho, hs]

theorem read_noItems : read .firstItem stack (']' :: s) = read (.after (.arr [])) stack s := by
  rw [read.eq_def]
  simp [isSpace]

theorem read_firstItem (hc : Starts c) :
    read .firstItem stack (c :: s) = read .value (.items [] :: stack) (c :: s) := by
  rw [read.eq_def]
  simp [hc.1, hc.2]

theorem read_nextItem {done : List Json} :
    read (.after v) (.items done :: stack) (',' :: s) =
      read .value (.items (v :: done) :: stack) s := by
  rw [read.eq_def]
  simp [isSpace]

theorem read_lastItem {done : List Json} :
    read (.after v) (.items done :: stack) (']' :: s) =
      read (.after (.arr (v :: done).reverse)) stack s := by
  rw [read.eq_def]
  simp [isSpace]

theorem read_noFields : read .firstField stack ('\x7d' :: s) = read (.after (.obj [])) stack s := by
  rw [read.eq_def]
  simp [isSpace]

variable {done : List (String × Json)} {key : String}

theorem read_key (key : String) :
    read (.key done) stack (renderString key ++ ':' :: ' ' :: s) =
      read .value (.fields done key :: stack) s := by
  have ⟨_, hs⟩ := readsString_flatMap
    ('"' :: (key.toList.flatMap escapeChar ++ '"' :: ':' :: ' ' :: s)) key.toList (':' :: ' ' :: s)
  have hk : renderString key ++ ':' :: ' ' :: s =
      '"' :: (key.toList.flatMap escapeChar ++ '"' :: ':' :: ' ' :: s) := by
    simp [renderString]
  have hc : read (.colon done key) stack (':' :: ' ' :: s) =
      read .value (.fields done key :: stack) (' ' :: s) := by
    rw [read.eq_def]
    simp [isSpace]
  rw [hk, read.eq_def]
  simp [isSpace, hs, hc, read_space]

theorem read_firstKey (key : String) :
    read .firstField stack (renderString key ++ ':' :: ' ' :: s) =
      read .value (.fields [] key :: stack) s := by
  rw [← read_key, renderString, List.cons_append, List.cons_append, read.eq_def]
  simp [isSpace]

theorem read_nextField :
    read (.after v) (.fields done key :: stack) (',' :: s) =
      read (.key (put key v done)) stack s := by
  rw [read.eq_def]
  simp [isSpace]

theorem read_lastField :
    read (.after v) (.fields done key :: stack) ('\x7d' :: s) =
      read (.after (.obj (put key v done))) stack s := by
  rw [read.eq_def]
  simp [isSpace]

end Steps

section Values

-- Values that can be printed and read back: whole numbers have no more digits than are read, what
-- is no number is written in one way, and no key of an object is repeated.
inductive Readable : Json → Prop
  | null : Readable .null
  | bool (b : Bool) : Readable (.bool b)
  | int {n : Int} (h : n.natAbs < 10 ^ maxDigits) : Readable (.int n)
  | float {x : Binary64} (h : x.magnitude ≤ .infinity ∨ x = .notANumber) : Readable (.float x)
  | str (s : String) : Readable (.str s)
  | arr {items : List Json} (h : ∀ v ∈ items, Readable v) : Readable (.arr items)
  | obj {fields : List (String × Json)} (hk : (fields.map Prod.fst).Nodup)
      (h : ∀ f ∈ fields, Readable f.2) : Readable (.obj fields)

-- The value is read where it was printed, whatever is open around it and comes after it.
structure ReadsBack (v : Json) : Prop where
  starts : ∀ depth rest, EndsNumeral rest → ∃ c s, render depth v rest = c :: s ∧ Starts c
  reads  : ∀ depth stack rest, EndsNumeral rest →
    read .value stack (render depth v rest) = read (.after v) stack rest

theorem readsBack_scalar
    (h : ∀ depth rest, EndsNumeral rest → ReadsScalar (render depth v rest) v rest) :
    ReadsBack v where
  starts depth rest hr :=
    have ⟨c, s, hs, hc, _⟩ := (h depth rest hr).head
    ⟨c, s, hs, hc⟩
  reads depth _ rest hr := read_scalar (h depth rest hr)

variable {items : List Json} {fields : List (String × Json)}

theorem endsNumeral_newline (depth : Nat) (s : List Char) : EndsNumeral (newline depth ++ s) := by
  rintro _ ⟨rfl⟩
  decide

theorem endsNumeral_comma (s : List Char) : EndsNumeral (',' :: s) := by
  rintro _ ⟨rfl⟩
  decide

theorem endsNumeral_renderItems (depth depth' : Nat) (items : List Json) (s : List Char) :
    EndsNumeral (renderItems depth items (newline depth' ++ s)) := by
  cases items
  case nil => exact endsNumeral_newline depth' s
  case cons => exact endsNumeral_comma _

theorem endsNumeral_renderFields (depth depth' : Nat) (fields : List (String × Json))
    (s : List Char) : EndsNumeral (renderFields depth fields (newline depth' ++ s)) := by
  cases fields
  case nil => exact endsNumeral_newline depth' s
  case cons => exact endsNumeral_comma _

-- The items that come after one: `done` are those before it, backwards.
theorem read_renderItems (h : ∀ w ∈ items, ReadsBack w) (depth depth' : Nat) (v : Json)
    (done : List Json) (rest : List Char) :
    read (.after v) (.items done :: stack)
      (renderItems depth items (newline depth' ++ ']' :: rest)) =
    read (.after (.arr ((v :: done).reverse ++ items))) stack rest := by
  induction items generalizing v done
  case nil =>
    rw [renderItems, read_newline _ _ (.inl (List.cons_ne_nil _ _)), read_lastItem, List.append_nil]
  case cons w items hi =>
    have ⟨hw, hv⟩ := List.forall_mem_cons.mp h
    rw [renderItems, List.cons_append, read_nextItem, read_newline _ _ (.inl (List.cons_ne_nil _ _)),
      hw.reads _ _ _ (endsNumeral_renderItems _ _ _ _), hi hv]
    simp

-- The fields that come after one: `done` are those before it.
theorem read_renderFields (h : ∀ f ∈ fields, ReadsBack f.2) (depth depth' : Nat) (key : String)
    (v : Json) (done : List (String × Json)) (rest : List Char)
    (hk : ((done ++ (key, v) :: fields).map Prod.fst).Nodup) :
    read (.after v) (.fields done key :: stack)
      (renderFields depth fields (newline depth' ++ '\x7d' :: rest)) =
    read (.after (.obj (done ++ (key, v) :: fields))) stack rest := by
  induction fields generalizing key v done
  case nil =>
    rw [renderFields, read_newline _ _ (.inl (List.cons_ne_nil _ _)), read_lastField,
      put_eq_append hk]
  case cons f fields hi =>
    have ⟨hf, hv⟩ := List.forall_mem_cons.mp h
    have hnew := put_eq_append hk
    rw [List.append_cons done] at hk ⊢
    rw [renderFields, List.cons_append, read_nextField, hnew, read_newline, read_key,
      hf.reads _ _ _ (endsNumeral_renderFields _ _ _ _), hi hv _ _ _ hk]
    exact .inr nofun

theorem readsBack_array (h : ∀ v ∈ items, ReadsBack v) : ReadsBack (.arr items) := by
  refine ⟨fun _ _ _ => ?_, fun depth stack rest hr => ?_⟩
  · cases items <;> exact ⟨_, _, rfl, by decide⟩
  cases items
  case nil => rw [render, read_array, read_noItems]
  case cons v items =>
    obtain ⟨hv, hi⟩ := List.forall_mem_cons.mp h
    have hr' := endsNumeral_renderItems (depth + 1) depth items (']' :: rest)
    obtain ⟨c, s, hs, hc⟩ := hv.starts (depth + 1) _ hr'
    rw [render, List.cons_append, read_array, read_newline, hs, read_firstItem hc, ← hs,
      hv.reads _ _ _ hr', read_renderItems hi]
    · simp
    · exact .inr fun _ hm => Mode.noConfusion hm

theorem readsBack_object (hk : (fields.map Prod.fst).Nodup) (h : ∀ f ∈ fields, ReadsBack f.2) :
    ReadsBack (.obj fields) := by
  refine ⟨fun _ _ _ => ?_, fun depth stack rest hr => ?_⟩
  · cases fields <;> exact ⟨_, _, rfl, by decide⟩
  cases fields
  case nil => rw [render, read_object, read_noFields]
  case cons f fields =>
    obtain ⟨k, v⟩ := f
    obtain ⟨hv, hi⟩ := List.forall_mem_cons.mp h
    rw [render, List.cons_append, read_object, read_newline, read_firstKey,
      hv.reads _ _ _ (endsNumeral_renderFields _ _ _ _), read_renderFields hi _ _ _ _ _ _ hk]
    · simp
    · exact .inr fun _ hm => Mode.noConfusion hm

theorem Readable.readsBack (h : Readable v) : ReadsBack v := by
  induction h
  case null => exact readsBack_scalar fun _ _ _ => ⟨by simp [render]; omega, rfl⟩
  case bool b =>
    cases b
    · exact readsBack_scalar fun _ _ _ => ⟨by simp [render]; omega, rfl⟩
    · exact readsBack_scalar fun _ _ _ => ⟨by simp [render]; omega, rfl⟩
  case int h => exact readsBack_scalar fun _ _ hr => readsScalar_number (writes_int h) hr
  case float h => exact readsBack_scalar fun _ _ hr => readsScalar_float h hr
  case str s => exact readsBack_scalar fun _ rest _ => readsScalar_str s rest
  case arr hi => exact readsBack_array hi
  case obj hk _ hi => exact readsBack_object hk hi

theorem parse_pretty (h : Readable v) : parse v.pretty = .ok v := by
  have hr : EndsNumeral [] := nofun
  obtain ⟨c, s, hs, hc⟩ := h.readsBack.starts 0 [] hr
  have hv := h.readsBack.reads 0 [] [] hr
  rw [read_done] at hv
  have hb : (render 0 v []).head? ≠ some '\ufeff' := by
    rw [hs]
    exact fun h => hc.2.2 (Option.some.inj h)
  have ha : readAll (render 0 v []) = .ok v := by
    rw [readAll, if_neg hb, hv]
    rfl
  rw [parse, pretty, String.toList_ofList, ha]

end Values

end Enunciado.Json
