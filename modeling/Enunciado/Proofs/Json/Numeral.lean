import Mathlib.Data.List.TakeWhile
import Enunciado.Json.Reader

namespace Enunciado.Json

variable {ds s rest : List Char} {n : Numeral}

-- No digit comes first.
def NoDigit (s : List Char) : Prop :=
  ∀ c ∈ s.head?, isDigit c = false

-- What comes first is no character with which a numeral could go on.
def EndsNumeral (s : List Char) : Prop :=
  ∀ c ∈ s.head?, isDigit c = false ∧ c ≠ '.' ∧ c ≠ 'e' ∧ c ≠ 'E'

theorem EndsNumeral.noDigit (h : EndsNumeral rest) : NoDigit rest :=
  fun c hc => (h c hc).1

section Parts

theorem leadingDigits_append (hd : ∀ c ∈ ds, isDigit c) (hr : NoDigit rest) :
    leadingDigits (ds ++ rest) = (ds, ⟨rest, (List.sublist_append_right ds rest).length_le⟩) := by
  have ht : rest.takeWhile isDigit = [] := by
    cases rest
    case nil => rfl
    case cons c rest => rw [List.takeWhile_cons_of_neg (by simpa using hr c rfl)]
  have hw : rest.dropWhile isDigit = rest := by
    cases rest
    case nil => rfl
    case cons c rest => rw [List.dropWhile_cons_of_neg (by simpa using hr c rfl)]
  refine Prod.ext ?_ (Subtype.ext ?_)
  · exact (List.takeWhile_append_of_pos hd).trans (by rw [ht, List.append_nil])
  · exact (List.dropWhile_append_of_pos hd).trans hw

-- The digits before the point: a zero alone, or digits that do not begin with one.
structure Whole (ds : List Char) : Prop where
  digits  : ∀ c ∈ ds, isDigit c
  leading : ∃ c ds', ds = c :: ds' ∧ (c = '0' → ds' = [])

theorem wholeDigits?_append (hw : Whole ds) (hr : NoDigit rest) :
    ∃ h, wholeDigits? (ds ++ rest) = some (ds, ⟨rest, h⟩) := by
  obtain ⟨c, ds, rfl, hz⟩ := hw.leading
  have hl : rest.length < (c :: ds ++ rest).length := by
    rw [List.length_append, List.length_cons]
    omega
  refine ⟨hl, ?_⟩
  have ⟨hc, hd⟩ := List.forall_mem_cons.mp hw.digits
  simp only [List.cons_append, wholeDigits?, hc, if_true]
  split
  case isTrue h0 =>
    cases h0
    cases hz rfl
    rfl
  case isFalse => rw [leadingDigits_append hd hr]

def signChars (negative : Bool) : List Char :=
  if negative then ['-'] else []

-- A fraction as it is written: with a point before it, if there is one.
def fractionChars : List Char → List Char
  | [] => []
  | ds => '.' :: ds

theorem fractionDigits_append (hd : ∀ c ∈ ds, isDigit c) (hr : NoDigit rest)
    (hp : ∀ c ∈ rest.head?, c ≠ '.') :
    ∃ h, fractionDigits (fractionChars ds ++ rest) = (ds, ⟨rest, h⟩) := by
  cases ds
  case nil =>
    refine ⟨by simp [fractionChars], ?_⟩
    simp only [fractionChars, List.nil_append]
    unfold fractionDigits
    split
    case h_1 => exact absurd rfl (hp _ rfl)
    case h_2 => rfl
  case cons d ds =>
    refine ⟨by simp [fractionChars]; omega, ?_⟩
    have ⟨hd, hds⟩ := List.forall_mem_cons.mp hd
    simp only [fractionChars, List.cons_append, fractionDigits, hd, if_true]
    rw [leadingDigits_append hds hr]

-- An exponent as it is written: with a sign, if there is one.
inductive WritesExponent : Option Int → List Char → Prop
  | absent : WritesExponent none []
  | present {digits : List Char} (negative : Bool) (hd : ∀ c ∈ digits, isDigit c)
      (hne : digits ≠ []) :
    WritesExponent
      (some (if negative then .negOfNat (digitsValue digits) else .ofNat (digitsValue digits)))
      ('e' :: (if negative then '-' else '+') :: digits)

variable {exponent : Option Int} {e : List Char}

theorem exponentSign_cons (negative : Bool) (s : List Char) :
    exponentSign ((if negative then '-' else '+') :: s) = (negative, ⟨s, Nat.le_succ _⟩) := by
  cases negative <;> rfl

theorem exponentPart_append (he : WritesExponent exponent e) (hr : EndsNumeral rest) :
    ∃ h, exponentPart (e ++ rest) = (exponent, ⟨rest, h⟩) := by
  cases he
  case absent =>
    refine ⟨by simp, ?_⟩
    cases rest
    case nil => rfl
    case cons c rest =>
      have ⟨_, _, he, hE⟩ := hr c rfl
      simp [exponentPart, he, hE]
  case present digits negative hd hne =>
    refine ⟨by simp; omega, ?_⟩
    have hs := exponentSign_cons negative (digits ++ rest)
    have hl := leadingDigits_append hd hr.noDigit
    have he : ('e' = 'e' || 'e' = 'E') = true := rfl
    simp only [List.cons_append]
    rw [exponentPart, if_pos he]
    -- What each of them returns is put in as a whole: the rests are bound to their inputs.
    generalize exponentSign (_ :: (digits ++ rest)) = q at hs ⊢
    subst hs
    dsimp only
    generalize leadingDigits (digits ++ rest) = q at hl ⊢
    subst hl
    simp [hne]

theorem WritesExponent.noDigit (he : WritesExponent exponent e) (hr : EndsNumeral rest) :
    NoDigit (e ++ rest) := by
  cases he
  case absent => exact hr.noDigit
  case present =>
    rintro _ ⟨rfl⟩
    rfl

theorem WritesExponent.noPoint (he : WritesExponent exponent e) (hr : EndsNumeral rest) :
    ∀ c ∈ (e ++ rest).head?, c ≠ '.' := by
  cases he
  case absent => exact fun c hc => (hr c hc).2.1
  case present =>
    rintro _ ⟨rfl⟩
    decide

end Parts

namespace Numeral

-- A numeral whose digits are digits, and whose exponent is written as `e`.
structure Written (n : Numeral) (e : List Char) : Prop where
  whole    : Whole n.whole
  fraction : ∀ c ∈ n.fraction, isDigit c
  exponent : WritesExponent n.exponent e

def chars (n : Numeral) (e : List Char) : List Char :=
  signChars n.negative ++ n.whole ++ fractionChars n.fraction ++ e

variable {e : List Char}

theorem unsigned?_chars (h : n.Written e) (hr : EndsNumeral rest) :
    ∃ hl, unsigned? n.negative (n.whole ++ (fractionChars n.fraction ++ (e ++ rest))) =
      some (n, ⟨rest, hl⟩) := by
  have hn := h.exponent.noDigit hr
  have hf : NoDigit (fractionChars n.fraction ++ (e ++ rest)) := by
    cases n.fraction
    case nil => exact hn
    case cons =>
      rintro _ ⟨rfl⟩
      rfl
  have ⟨_, h₁⟩ := wholeDigits?_append h.whole hf
  have ⟨_, h₂⟩ := fractionDigits_append h.fraction hn (h.exponent.noPoint hr)
  have ⟨_, h₃⟩ := exponentPart_append h.exponent hr
  refine ⟨?_, ?_⟩
  · obtain ⟨c, ds, hw, _⟩ := h.whole.leading
    simp [hw]
    omega
  · rw [unsigned?]
    generalize wholeDigits? _ = q at h₁ ⊢
    subst h₁
    dsimp only
    generalize fractionDigits (fractionChars n.fraction ++ (e ++ rest)) = q at h₂ ⊢
    subst h₂
    dsimp only
    generalize exponentPart (e ++ rest) = q at h₃ ⊢
    subst h₃
    rfl

theorem numeral?_chars (h : n.Written e) (hr : EndsNumeral rest) :
    ∃ hl, numeral? (n.chars e ++ rest) = some (n, ⟨rest, hl⟩) := by
  have ⟨hl, hu⟩ := unsigned?_chars h hr
  have hs : n.chars e ++ rest = signChars n.negative ++
      (n.whole ++ (fractionChars n.fraction ++ (e ++ rest))) := by
    simp [chars]
  obtain ⟨c, ds, hw, _⟩ := h.whole.leading
  have hc : isDigit c := h.whole.digits c (by simp [hw])
  generalize n.chars e ++ rest = s at hs ⊢
  subst hs
  generalize hu' : n.whole ++ (fractionChars n.fraction ++ (e ++ rest)) = u at hl hu ⊢
  cases hneg : n.negative
  case true =>
    rw [hneg] at hu
    refine ⟨Nat.lt_succ_of_lt hl, ?_⟩
    change (unsigned? true u).map _ = _
    rw [hu]
    rfl
  case false =>
    rw [hneg] at hu
    refine ⟨hl, ?_⟩
    change numeral? u = _
    unfold numeral?
    split
    case h_1 heq =>
      rw [hw, List.cons_append] at hu'
      cases hu'
      contradiction
    case h_2 => exact hu

-- What a numeral begins with.
theorem chars_head (h : n.Written e) :
    ∃ c s, n.chars e = c :: s ∧ (isDigit c ∨ c = '-' ∧ ∃ c' s', s = c' :: s' ∧ isDigit c') := by
  obtain ⟨c, ds, hw, _⟩ := h.whole.leading
  have hc : isDigit c := h.whole.digits c (by simp [hw])
  have hch : n.chars e = signChars n.negative ++
      c :: (ds ++ (fractionChars n.fraction ++ e)) := by
    simp [chars, hw]
  cases hneg : n.negative
  case true => exact ⟨'-', _, by rw [hch, hneg]; rfl, .inr ⟨rfl, c, _, rfl, hc⟩⟩
  case false => exact ⟨c, _, by rw [hch, hneg]; rfl, .inl hc⟩

end Numeral

end Enunciado.Json
