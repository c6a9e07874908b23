import Mathlib.Data.List.Flatten
import Mathlib.Data.List.Sort
import Enunciado.Proofs.Formula.Lexemes

namespace Enunciado.Token

open Text

variable {c : Char} {l : Lexeme} {ls : List Lexeme} {t : Token} {ts ts' : List Token}
variable {before pending rest s : List Char}

-- Names are parted by blanks and by reserved characters.
def Parts (c : Char) : Prop :=
  isBlank c ∨ ∃ l, Lexeme.reserved? c = some l

theorem parts_of_parting (h : parting? c = some ls) : Parts c := by
  unfold parting? at h
  split at h
  case h_1 l hl => exact .inr ⟨l, hl⟩
  case h_2 =>
    split at h
    case isTrue hb => exact .inl hb
    case isFalse => contradiction

theorem not_parts_of_parting (h : parting? c = none) : ¬Parts c := by
  rintro (hb | ⟨l, hl⟩)
  case inl => simp [not_isBlank_of_parting h] at hb
  case inr => simp [parting?_reserved hl] at h

theorem parting?_eq_none_iff : parting? c = none ↔ ¬Parts c := by
  refine ⟨not_parts_of_parting, fun h => ?_⟩
  cases hc : parting? c
  case none => rfl
  case some => exact absurd (parts_of_parting hc) h

theorem exists_parting? (h : Parts c) : ∃ ls, parting? c = some ls :=
  Option.ne_none_iff_exists'.mp (mt parting?_eq_none_iff.mp (not_not_intro h))

section Places

-- What the tokens of an expression are: its reserved characters, the names that go from one parting
-- to the next, and the ending.
inductive StandsIn (s : List Char) : Token → Prop
  | reserved {before after c l} :
    s = before ++ c :: after → Lexeme.reserved? c = some l → StandsIn s ⟨l, before.length⟩
  | name {before chars after} :
    s = before ++ chars ++ after → chars ≠ [] → (∀ c ∈ chars, ¬Parts c) →
    (∀ c ∈ before.getLast?, Parts c) → (∀ c ∈ after.head?, Parts c) →
    StandsIn s ⟨.name chars, before.length⟩
  | ending : StandsIn s ⟨.ending, s.length⟩

theorem ofPending_of_ne_nil (h : pending ≠ []) (i : Nat) :
    ofPending i pending = [⟨.name pending.reverse, i - pending.length⟩] := by
  cases pending
  case nil => contradiction
  case cons => rfl

theorem standsIn_of_mem_ofPending (hs : s = before ++ pending.reverse ++ rest)
    (hp : ∀ c ∈ pending, ¬Parts c) (hb : ∀ c ∈ before.getLast?, Parts c)
    (hr : ∀ c ∈ rest.head?, Parts c)
    (ht : t ∈ ofPending (before.length + pending.length) pending) : StandsIn s t := by
  cases pending
  case nil => cases ht
  case cons c pending =>
    have ht : t = ⟨.name (c :: pending).reverse, before.length⟩ := by simpa [ofPending] using ht
    exact ht ▸ .name hs (by simp) (fun d hd => hp d (List.mem_reverse.mp hd)) hb hr

-- Of the expression, `before` has been scanned and a name has begun with `pending`.
theorem standsIn_of_mem_scan (hs : s = before ++ pending.reverse ++ rest)
    (hp : ∀ c ∈ pending, ¬Parts c) (hb : ∀ c ∈ before.getLast?, Parts c)
    (ht : t ∈ scan (before.length + pending.length) pending rest) : StandsIn s t := by
  induction rest generalizing before pending
  case nil =>
    rw [scan, List.mem_append, List.mem_singleton] at ht
    cases ht
    case inl ht => exact standsIn_of_mem_ofPending hs hp hb (by simp) ht
    case inr ht =>
      have hl : before.length + pending.length = s.length := by simp [hs]
      exact ht ▸ hl ▸ .ending
  case cons c rest hi =>
    cases hc : parting? c
    case some ls =>
      have hp' : ∀ d ∈ (c :: rest).head?, Parts d := by simpa using parts_of_parting hc
      have hs' : s = (before ++ pending.reverse ++ [c]) ++ [].reverse ++ rest := by simp [hs]
      have hl : before.length + pending.length + 1 =
          (before ++ pending.reverse ++ [c]).length + ([] : List Char).length := by simp; omega
      simp only [scan_parting hc, List.mem_append, List.mem_map] at ht
      obtain (ht | ⟨l, hm, rfl⟩) | ht := ht
      · exact standsIn_of_mem_ofPending hs hp hb hp' ht
      · have hl : before.length + pending.length = (before ++ pending.reverse).length := by simp
        exact hl ▸ .reserved hs (reserved?_of_mem_parting hc hm)
      · exact hi hs' (by simp) (by simpa using parts_of_parting hc) (hl ▸ ht)
    case none =>
      have hs' : s = before ++ (c :: pending).reverse ++ rest := by simp [hs]
      rw [scan_other hc] at ht
      exact hi hs' (List.forall_mem_cons.mpr ⟨not_parts_of_parting hc, hp⟩) hb ht

-- Where a name ends, the scan starts anew.
theorem scan_append_parting (h : parting? c = some ls) (i : Nat) (pending before rest : List Char) :
    ∃ ts, scan i pending (before ++ c :: rest) =
      ts ++ ls.map (⟨·, i + before.length⟩) ++ scan (i + before.length + 1) [] rest := by
  induction before generalizing i pending
  case nil => exact ⟨ofPending i pending, scan_parting h i pending rest⟩
  case cons d before hi =>
    have hl : i + (d :: before).length = i + 1 + before.length := by simp; omega
    rw [List.cons_append, hl]
    cases hd : parting? d
    case some ks =>
      obtain ⟨ts, hts⟩ := hi (i + 1) []
      exact ⟨ofPending i pending ++ ks.map (⟨·, i⟩) ++ ts, by simp [scan_parting hd, hts]⟩
    case none =>
      rw [scan_other hd]
      exact hi (i + 1) (d :: pending)

-- Whatever has been scanned up to a parting, the rest is scanned by itself.
theorem exists_scan_append (hb : ∀ c ∈ before.getLast?, Parts c) (rest : List Char) :
    ∃ ts, tokenize (before ++ rest) = ts ++ scan before.length [] rest := by
  obtain rfl | ⟨before, c, rfl⟩ := List.eq_nil_or_concat before
  case inl => exact ⟨[], rfl⟩
  case inr =>
    obtain ⟨ls, hls⟩ := exists_parting? (hb c (by simp))
    obtain ⟨ts, hts⟩ := scan_append_parting hls 0 [] before rest
    exact ⟨ts ++ ls.map (⟨·, before.length⟩), by simp [tokenize, hts]⟩

theorem scan_name {chars : List Char} (hc : ∀ c ∈ chars, ¬Parts c) (i : Nat)
    (pending rest : List Char) :
    scan i pending (chars ++ rest) = scan (i + chars.length) (chars.reverse ++ pending) rest := by
  induction chars generalizing i pending
  case nil => rfl
  case cons c chars hi =>
    have ⟨hp, hc⟩ := List.forall_mem_cons.mp hc
    rw [List.cons_append, scan_other (parting?_eq_none_iff.mpr hp), hi hc]
    simp [Nat.add_assoc, Nat.add_comm 1]

theorem exists_scan_parting (hr : ∀ c ∈ rest.head?, Parts c) (i : Nat) (pending : List Char) :
    ∃ ts, scan i pending rest = ofPending i pending ++ ts := by
  cases rest
  case nil => exact ⟨_, rfl⟩
  case cons c rest =>
    obtain ⟨ls, hls⟩ := exists_parting? (hr c rfl)
    exact ⟨_, (scan_parting hls i pending rest).trans (List.append_assoc ..)⟩

theorem standsIn_of_mem_tokenize (ht : t ∈ tokenize s) : StandsIn s t := by
  have hs : s = [] ++ [].reverse ++ s := rfl
  exact standsIn_of_mem_scan hs (by simp) (by simp) ht

-- The ending stands last, and no other token is one.
theorem exists_tokenize_eq (s : List Char) :
    ∃ ts, tokenize s = ts ++ [⟨.ending, s.length⟩] ∧ ts.map (·.lexeme) = lexemes s := by
  obtain ⟨ts, last, hts, hl, he⟩ := List.map_eq_append_iff.mp (map_lexeme_tokenize s)
  obtain ⟨t, rfl, ht⟩ := List.map_eq_singleton_iff.mp he
  have hm : t ∈ tokenize s := by simp [hts]
  obtain ⟨-, hr⟩ | _ | _ := standsIn_of_mem_tokenize hm
  case reserved => exact absurd ht (Lexeme.reserved?_ne_ending hr)
  case name => cases ht
  case ending => exact ⟨ts, hts, hl⟩

theorem mem_tokenize_iff : t ∈ tokenize s ↔ StandsIn s t := by
  refine ⟨standsIn_of_mem_tokenize, ?_⟩
  rintro (⟨rfl, hl⟩ | ⟨rfl, hn, hc, hb, ha⟩ | _)
  case reserved before after c l =>
    obtain ⟨ts, hts⟩ := scan_append_parting (parting?_reserved hl) 0 [] before after
    simp [tokenize, hts]
  case name before chars after =>
    obtain ⟨ts, hts⟩ := exists_scan_append hb (chars ++ after)
    obtain ⟨ts', hts'⟩ :=
      exists_scan_parting ha (before.length + chars.length) (chars.reverse ++ [])
    have hp : ofPending (before.length + chars.length) (chars.reverse ++ []) =
        [⟨.name chars, before.length⟩] := by
      rw [List.append_nil, ofPending_of_ne_nil (mt List.reverse_eq_nil_iff.mp hn),
        List.reverse_reverse, List.length_reverse, Nat.add_sub_cancel]
    rw [List.append_assoc, hts, scan_name hc, hts', hp]
    simp
  case ending =>
    obtain ⟨ts, hts, -⟩ := exists_tokenize_eq s
    simp [hts]

end Places

section Order

-- The tokens stand one behind the other, none of them before `i`.
def IncreasesFrom (i : Nat) (ts : List Token) : Prop :=
  ts.Pairwise (·.position < ·.position) ∧ ∀ t ∈ ts, i ≤ t.position

theorem IncreasesFrom.ofPending (h : IncreasesFrom i ts) (hp : pending.length ≤ i) :
    IncreasesFrom (i - pending.length) (ofPending i pending ++ ts) := by
  have ⟨hi, hm⟩ := h
  cases pending
  case nil => exact h
  case cons c pending =>
    have hp : pending.length + 1 ≤ i := hp
    refine ⟨List.pairwise_cons.mpr ⟨fun t ht => ?_, hi⟩, List.forall_mem_cons.mpr ⟨?_, ?_⟩⟩
    case refine_1 =>
      have ht := hm t ht
      simp only [List.length_cons]
      omega
    case refine_2 => exact Nat.le_refl _
    case refine_3 => exact fun t ht => Nat.le_trans (Nat.sub_le _ _) (hm t ht)

theorem increasesFrom_scan (hp : pending.length ≤ i) :
    IncreasesFrom (i - pending.length) (scan i pending s) := by
  induction s generalizing i pending
  case nil =>
    have hl : IncreasesFrom i [⟨.ending, i⟩] := ⟨List.pairwise_singleton _ _, by simp⟩
    exact hl.ofPending hp
  case cons c s hi =>
    have ⟨hs, hm⟩ : IncreasesFrom (i + 1) (scan (i + 1) [] s) := hi (Nat.zero_le _)
    rw [scan]
    split
    case h_1 l _ =>
      have hl : IncreasesFrom i (⟨l, i⟩ :: scan (i + 1) [] s) :=
        ⟨List.pairwise_cons.mpr ⟨hm, hs⟩,
          List.forall_mem_cons.mpr ⟨Nat.le_refl _, fun t ht => Nat.le_of_lt (hm t ht)⟩⟩
      exact hl.ofPending hp
    case h_2 =>
      split
      case isTrue =>
        have hl : IncreasesFrom i (scan (i + 1) [] s) := ⟨hs, fun t ht => Nat.le_of_lt (hm t ht)⟩
        exact hl.ofPending hp
      case isFalse =>
        have hp' : (c :: pending).length ≤ i + 1 := Nat.succ_le_succ hp
        have hl := hi hp'
        rwa [List.length_cons, Nat.add_sub_add_right] at hl

theorem increasing_tokenize (s : List Char) : (tokenize s).Pairwise (·.position < ·.position) :=
  (increasesFrom_scan (Nat.zero_le _)).1

end Order

section Uniqueness

-- The list of tokens that an expression is made of. Their texts hold all of its characters but for
-- the blanks, and each text stands where its token says.
structure Tokenizes (s : List Char) (ts : List Token) : Prop where
  ending     : ∃ ts', ts = ts' ++ [⟨.ending, s.length⟩] ∧ ∀ t ∈ ts', t.lexeme ≠ .ending
  increasing : ts.Pairwise (·.position < ·.position)
  slices     : ∀ t ∈ ts, t.lexeme ≠ .ending →
    t.lexeme.text ≠ [] ∧ t.lexeme.text <+: s.drop t.position
  lossless   : ts.flatMap (·.lexeme.text) = s.filter (!isBlank ·)
  reserved   : ∀ (i : Nat) (c : Char) (l : Lexeme),
    s[i]? = some c → Lexeme.reserved? c = some l → ⟨l, i⟩ ∈ ts
  names      : ∀ (chars : List Char) (i : Nat), ⟨.name chars, i⟩ ∈ ts → (∀ c ∈ chars, ¬Parts c) ∧
    (∀ c ∈ (s.take i).getLast?, Parts c) ∧ ∀ c ∈ (s.drop (i + chars.length)).head?, Parts c

theorem reserved?_ne_name {chars : List Char} (h : Lexeme.reserved? c = some l) :
    l ≠ .name chars := by
  unfold Lexeme.reserved? at h
  split at h <;> cases h <;> exact nofun

-- A token that is no name is known by its only character.
theorem exists_reserved? (hn : ∀ chars, l ≠ .name chars) (he : l ≠ .ending) :
    ∃ c, l.text = [c] ∧ Lexeme.reserved? c = some l := by
  cases l
  case name chars => exact absurd rfl (hn chars)
  case constant b => cases b <;> exact ⟨_, rfl, rfl⟩
  case operator op => exact ⟨_, rfl, Lexeme.reserved?_glyph op⟩
  case opening => exact ⟨_, rfl, rfl⟩
  case closing => exact ⟨_, rfl, rfl⟩
  case ending => exact absurd rfl he

theorem StandsIn.slice (h : StandsIn s t) (ht : t.lexeme ≠ .ending) :
    t.lexeme.text ≠ [] ∧ t.lexeme.text <+: s.drop t.position := by
  cases h
  case reserved hs hr => simp [hs, Lexeme.text_of_reserved? hr]
  case name hs hn _ _ _ => simp [hs, hn, Lexeme.text]
  case ending => contradiction

theorem StandsIn.name_parted {chars : List Char} (h : StandsIn s ⟨.name chars, i⟩) :
    (∀ c ∈ chars, ¬Parts c) ∧ (∀ c ∈ (s.take i).getLast?, Parts c) ∧
      ∀ c ∈ (s.drop (i + chars.length)).head?, Parts c := by
  match h with
  | .reserved _ hr => exact absurd rfl (reserved?_ne_name hr)
  | .name hs _ hc hb ha =>
    subst hs
    refine ⟨hc, ?_, ?_⟩
    case refine_1 => simpa using hb
    case refine_2 => rwa [← List.length_append, List.drop_left]

theorem tokenizes_tokenize (s : List Char) : Tokenizes s (tokenize s) where
  ending := by
    obtain ⟨ts, hts, hl⟩ := exists_tokenize_eq s
    refine ⟨ts, hts, fun t ht he => ending_not_mem_lexemes (s := s) ?_⟩
    exact hl ▸ List.mem_map.mpr ⟨t, ht, he⟩
  increasing := increasing_tokenize s
  slices := fun t ht he => (standsIn_of_mem_tokenize ht).slice he
  lossless := by
    rw [← List.flatMap_map, map_lexeme_tokenize, List.flatMap_append, flatMap_text_lexemes]
    simp [Lexeme.text]
  reserved := fun i c l hc hl => by
    obtain ⟨hi, hc⟩ := List.getElem?_eq_some_iff.mp hc
    have hs : s = s.take i ++ c :: s.drop (i + 1) := by
      rw [← hc, List.getElem_cons_drop, List.take_append_drop]
    have ht := StandsIn.reserved hs hl
    rw [List.length_take_of_le (Nat.le_of_lt hi)] at ht
    exact mem_tokenize_iff.mpr ht
  names := fun chars i ht => (standsIn_of_mem_tokenize ht).name_parted

namespace Tokenizes

theorem standsIn (h : Tokenizes s ts) (ht : t ∈ ts) : StandsIn s t := by
  obtain ⟨l, i⟩ := t
  by_cases he : l = .ending
  case pos =>
    obtain ⟨ts', rfl, hn⟩ := h.ending
    obtain ht | ht := List.mem_append.mp ht
    · exact absurd he (hn _ ht)
    · exact List.mem_singleton.mp ht ▸ .ending
  case neg =>
    obtain ⟨hne, after, hs⟩ := h.slices _ ht he
    have hi : i ≤ s.length := by
      by_contra hi
      rw [List.drop_of_length_le (Nat.le_of_not_le hi)] at hs
      exact hne (List.append_eq_nil_iff.mp hs).1
    have hl : (s.take i).length = i := List.length_take_of_le hi
    have hs' : s = s.take i ++ l.text ++ after := by
      rw [List.append_assoc, hs, List.take_append_drop]
    by_cases hn : ∃ chars, l = .name chars
    case pos =>
      obtain ⟨chars, rfl⟩ := hn
      obtain ⟨hc, hb, ha⟩ := h.names chars i ht
      have had : s.drop (i + chars.length) = after := by
        rw [← List.drop_drop, ← hs]
        exact List.drop_left
      exact hl ▸ .name hs' hne hc hb (had ▸ ha)
    case neg =>
      obtain ⟨c, hc, hr⟩ := exists_reserved? (fun chars hl => hn ⟨chars, hl⟩) he
      have hs' : s = s.take i ++ c :: after := by simpa [hc] using hs'
      exact hl ▸ .reserved hs' hr

end Tokenizes

theorem sublist_of_increasing (hs : ts ⊆ ts') (hi : ts.Pairwise (·.position < ·.position))
    (hi' : ts'.Pairwise (·.position < ·.position)) : ts.Sublist ts' := by
  have : Std.Antisymm fun t u : Token => t.position < u.position :=
    ⟨fun t u htu hut => absurd htu (Nat.lt_asymm hut)⟩
  have hn : ts.Nodup := hi.imp fun ht he => absurd (he ▸ ht) (Nat.lt_irrefl _)
  exact List.sublist_of_subperm_of_pairwise (List.subperm_of_subset hn hs) hi hi'

-- Items cannot be left out without losing what they are mapped to.
theorem eq_of_sublist {α β : Type} {f : α → List β} {as bs : List α} (h : as.Sublist bs)
    (hn : ∀ b ∈ bs, f b ≠ []) (hf : as.flatMap f = bs.flatMap f) : as = bs := by
  induction h
  case slnil => rfl
  case cons as bs b h _ =>
    have hl := (h.flatMap f).length_le
    have hb := List.length_pos_of_ne_nil (hn b List.mem_cons_self)
    have hs := congrArg List.length hf
    rw [List.flatMap_cons, List.length_append] at hs
    omega
  case cons_cons as bs b h hi =>
    rw [List.flatMap_cons, List.flatMap_cons, List.append_cancel_left_eq] at hf
    rw [hi (fun c hc => hn c (List.mem_cons_of_mem b hc)) hf]

-- All tokens of the list are found in the scan, and none of those that the scan finds can be left
-- out, as each of them has a text.
theorem Tokenizes.eq_tokenize (h : Tokenizes s ts) : ts = tokenize s := by
  have h' := tokenizes_tokenize s
  obtain ⟨us, hus, hn⟩ := h.ending
  obtain ⟨vs, hvs, hn'⟩ := h'.ending
  have hm : us ⊆ vs := fun t ht => by
    have hv : t ∈ vs ++ [⟨.ending, s.length⟩] :=
      hvs ▸ mem_tokenize_iff.mpr (h.standsIn (hus ▸ List.mem_append_left _ ht))
    refine (List.mem_append.mp hv).resolve_right fun he => hn t ht ?_
    rw [List.mem_singleton.mp he]
  have hi := (List.pairwise_append.mp (hus ▸ h.increasing)).1
  have hi' := (List.pairwise_append.mp (hvs ▸ h'.increasing)).1
  have ht (t) (ht : t ∈ vs) : t.lexeme.text ≠ [] :=
    (h'.slices t (hvs ▸ List.mem_append_left _ ht) (hn' t ht)).1
  have hf : us.flatMap (·.lexeme.text) = vs.flatMap (·.lexeme.text) := by
    have hl := h.lossless.trans h'.lossless.symm
    rwa [hus, hvs, List.flatMap_append, List.flatMap_append, List.append_cancel_right_eq] at hl
  rw [hus, hvs, eq_of_sublist (sublist_of_increasing hm hi hi') ht hf]

theorem tokenizes_iff_eq_tokenize (s : List Char) (ts : List Token) :
    Tokenizes s ts ↔ ts = tokenize s :=
  ⟨Tokenizes.eq_tokenize, fun h => h ▸ tokenizes_tokenize s⟩

end Uniqueness

end Enunciado.Token
