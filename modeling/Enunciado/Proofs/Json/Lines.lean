import Enunciado.Proofs.Json.RoundTrip

namespace Enunciado.Json

variable {v : Json} {s rest : List Char} {depth : Nat}

theorem not_mem_of_digits {ds : List Char} (h : ∀ c ∈ ds, isDigit c) : '\r' ∉ ds := by
  intro hm
  cases h _ hm

theorem not_mem_of_writes (h : Writes s v) : '\r' ∉ s := by
  obtain ⟨n, e, h, rfl, -⟩ := h
  have hs : '\r' ∉ signChars n.negative := by cases n.negative <;> decide
  have hf : '\r' ∉ fractionChars n.fraction := by
    unfold fractionChars
    split
    · exact List.not_mem_nil
    · simp [not_mem_of_digits h.fraction]
  have he : '\r' ∉ e := by
    have he := h.exponent
    generalize n.exponent = exponent at he
    cases he
    case absent => exact List.not_mem_nil
    case present negative hd _ =>
      have hs : '\r' ≠ (if negative then '-' else '+') := by cases negative <;> decide
      simp [hs, not_mem_of_digits hd]
  simp [Numeral.chars, hs, not_mem_of_digits h.whole.digits, hf, he]

theorem not_mem_decimal {x : Binary64} (hx : x.magnitude ≤ .infinity ∨ x = .notANumber) :
    '\r' ∉ x.decimal jsonWords := by
  rcases float_cases hx with rfl | ⟨negative, rfl⟩ | hx
  · rw [decimal_notANumber]
    decide
  · rw [decimal_infinity]
    cases negative <;> decide
  · exact not_mem_of_writes (writes_float hx)

theorem not_mem_escapeChar (c : Char) : '\r' ∉ escapeChar c := by
  have hd (n : Nat) : '\r' ≠ Nat.digitChar (n % 16) := by
    have hd : ∀ m < 16, '\r' ≠ Nat.digitChar m := by decide
    exact hd _ (Nat.mod_lt n (by decide))
  rcases escapeChar_cases c with ⟨e, _, he, hw⟩ | ⟨_, hw⟩ | ⟨hc, _, _, hw⟩
  · have hne : '\r' ≠ e := by
      rintro rfl
      cases he
    simp [hw, hne]
  · simp [hw, Text.hexDigits, hd]
  · have hne : '\r' ≠ c := by
      rintro rfl
      exact hc (by decide)
    simp [hw, hne]

theorem not_mem_renderString (s : String) : '\r' ∉ renderString s := by
  simp [renderString, not_mem_escapeChar]

theorem not_mem_newline (depth : Nat) : '\r' ∉ newline depth := by
  simp [newline]

-- Nothing that is printed is a carriage return, unless what comes after it is.
def NoReturn (v : Json) : Prop :=
  ∀ depth rest, '\r' ∉ rest → '\r' ∉ render depth v rest

theorem noReturn_renderItems {items : List Json} (h : ∀ v ∈ items, NoReturn v) (depth : Nat)
    (hr : '\r' ∉ rest) : '\r' ∉ renderItems depth items rest := by
  induction items
  case nil => exact hr
  case cons v items hi =>
    have ⟨hv, h⟩ := List.forall_mem_cons.mp h
    simp [renderItems, not_mem_newline, hv depth _ (hi h)]

theorem noReturn_renderFields {fields : List (String × Json)} (h : ∀ f ∈ fields, NoReturn f.2)
    (depth : Nat) (hr : '\r' ∉ rest) : '\r' ∉ renderFields depth fields rest := by
  induction fields
  case nil => exact hr
  case cons f fields hi =>
    have ⟨hf, h⟩ := List.forall_mem_cons.mp h
    simp [renderFields, not_mem_newline, not_mem_renderString, hf depth _ (hi h)]

theorem Readable.noReturn (h : v.Readable) : NoReturn v := by
  induction h
  case null => exact fun _ _ hr => by simp [render, hr]
  case bool b => exact fun _ _ hr => by cases b <;> simp [render, hr]
  case int h =>
    intro _ _ hr
    rw [render, List.mem_append, not_or]
    exact ⟨not_mem_of_writes (writes_int h), hr⟩
  case float h => exact fun _ _ hr => by simp [render, hr, not_mem_decimal h]
  case str s => exact fun _ _ hr => by simp [render, hr, not_mem_renderString]
  case arr items h hi =>
    intro depth rest hr
    cases items
    case nil => simp [render, hr]
    case cons v items =>
      obtain ⟨hv, hi⟩ := List.forall_mem_cons.mp hi
      have hs : '\r' ∉ newline depth ++ ']' :: rest := by simp [not_mem_newline, hr]
      simp [render, not_mem_newline, hv _ _ (noReturn_renderItems hi _ hs)]
  case obj fields hk h hi =>
    intro depth rest hr
    cases fields
    case nil => simp [render, hr]
    case cons f fields =>
      obtain ⟨hf, hi⟩ := List.forall_mem_cons.mp hi
      have hs : '\r' ∉ newline depth ++ '\x7d' :: rest := by simp [not_mem_newline, hr]
      simp [render, not_mem_newline, not_mem_renderString, hf _ _ (noReturn_renderFields hi _ hs)]

theorem not_mem_pretty (h : v.Readable) : '\r' ∉ v.pretty.toList := by
  rw [pretty, String.toList_ofList]
  exact h.noReturn 0 [] List.not_mem_nil

end Enunciado.Json
