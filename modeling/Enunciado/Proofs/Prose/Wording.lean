import Enunciado.Proofs.Prose.Splitting
import Enunciado.Proofs.Prose.Terms
import Enunciado.Proofs.Prose.Unchecked

namespace Enunciado.Prose

open Text

-- What a literal says without its sign, in words with single spaces between them.
structure Term where
  words          : List (List Char)
  words_ne_nil   : words ≠ []
  solid          : ∀ u ∈ words, Solid u
  not_connective : ∀ u ∈ words, u ≠ ['y'] ∧ u ≠ ['o']
  head_ne_no     : ∀ u ∈ words.head?, u ≠ ['n', 'o']

def Term.text (t : Term) : List Char :=
  joinWith [' '] t.words

def Literal.written (l : Literal Term) : List Char :=
  if l.negated then denied l.symbol.text else l.symbol.text

def writtenDisjunction (d : List (Literal Term)) : List Char :=
  joinWith [' ', 'o', ' '] (d.map (·.written))

def written (css : List (List (Literal Term))) : List Char :=
  joinWith [' ', 'y', ' '] (css.map writtenDisjunction)

variable {σ : Type} {ps : List (Proposition σ String)} {w : Char} {r : List Char}
  {l : Literal Term} {d : List (Literal Term)} {css : List (List (Literal Term))}

section Words

theorem solid_singleton (h : isBlank w = false) : Solid [w] :=
  ⟨by simp, by simpa using h⟩

theorem head_append_eq_space (hs : ∀ c ∈ s.head?, c = ' ') (hr : ∀ c ∈ r.head?, c = ' ') :
    ∀ c ∈ (s ++ r).head?, c = ' ' := by
  cases s
  case nil => exact hr
  case cons => exact hs

-- If a text that begins with a word has "no " before it, then this is the word "no".
theorem Solid.eq_no {u : List Char} (hu : Solid u) (hr : ∀ c ∈ r.head?, c = ' ')
    (h : u ++ r = denied s) : u = ['n', 'o'] := by
  match u with
  | [] => exact absurd rfl hu.ne_nil
  | [c] => simp_all [denied]
  | [c, d] => simp_all [denied]
  | c :: d :: e :: u =>
    have he : e = ' ' := by simp_all [denied]
    have hb := hu.not_blank e (by simp)
    subst he
    contradiction

namespace Term

-- Nothing but spaces is between the words of a term, and no connective is among them.
theorem worded (t : Term) (hw : w = 'y' ∨ w = 'o' ∨ isBlank w) : Worded w t.text := by
  refine .joinWith t.words_ne_nil (fun hs ht => by simpa using hs.append ht) fun u hu => ?_
  refine .word (t.solid u hu) ?_
  have ⟨hy, ho⟩ := t.not_connective u hu
  obtain rfl | rfl | hb := hw
  · exact hy
  · exact ho
  · rintro rfl
    simp [(t.solid _ hu).not_blank w (by simp)] at hb

theorem ne_denied (t : Term) (hr : ∀ c ∈ r.head?, c = ' ') (s : List Char) :
    t.text ++ r ≠ denied s := by
  obtain ⟨_ | ⟨u, us⟩, hw, hs, _, hn⟩ := t
  case nil => contradiction
  case cons =>
    have ⟨r', hr', hj⟩ := exists_joinWith_cons [] us
    rw [text, hj, List.append_assoc]
    exact fun h => hn u rfl ((hs u (by simp)).eq_no (head_append_eq_space hr' hr) h)

end Term

theorem Literal.worded (l : Literal Term) (hw : w = 'y' ∨ w = 'o' ∨ isBlank w) :
    Worded w l.written := by
  have ht := l.symbol.worded hw
  unfold written
  split
  case isTrue => exact .cons solid_no (by simp) ht
  case isFalse => exact ht

theorem worded_writtenDisjunction (hd : d ≠ []) (hw : w = 'y' ∨ isBlank w) :
    Worded w (writtenDisjunction d) := by
  refine .joinWith_word (solid_singleton (by decide)) ?_ (by simpa) ?_
  · rintro ⟨rfl⟩
    revert hw
    decide
  · exact List.forall_mem_map.mpr fun l _ => l.worded (hw.imp_right .inr)

-- A space is in no word, so that this only tells of the spaces between words.
theorem worded_written (hc : css ≠ []) (hd : ∀ d ∈ css, d ≠ []) : Worded ' ' (written css) := by
  refine .joinWith_word (solid_singleton (by decide)) (by simp) (by simpa) ?_
  exact List.forall_mem_map.mpr fun d hm => worded_writtenDisjunction (hd d hm) (.inr rfl)

end Words

section Reading

theorem Literal.stripNegation_written (l : Literal Term) :
    stripNegation l.written = (l.negated, l.symbol.text) := by
  have hw : Worded ' ' l.symbol.text := l.symbol.worded (.inr (.inr rfl))
  unfold written
  split
  case isTrue hn =>
    rw [stripNegation_denied (by rw [hw.trim_eq]; exact hw.ne_nil), hw.trim_eq, hn]
  case isFalse hn =>
    have hd (t : List Char) : trim l.symbol.text ≠ denied t := by
      have h := l.symbol.ne_denied (r := []) nofun t
      rwa [List.append_nil, ← hw.trim_eq] at h
    rw [stripNegation_of_ne_denied hd, hw.trim_eq]
    exact congrArg (·, _) (Bool.eq_false_iff.mpr hn).symm

theorem readLiteral_written {x : σ}
    (h : (bestMatch ps l.symbol.text).map (·.symbol) = some x) :
    readLiteral ps l.written = .ok ⟨l.negated, x⟩ := by
  obtain ⟨p, hp, rfl⟩ := Option.map_eq_some_iff.mp h
  unfold readLiteral
  rw [l.stripNegation_written]
  simp only [hp]

-- The disjunctions and the literals are found where they were put.
theorem splitAtWord_written (hc : css ≠ []) (hd : ∀ d ∈ css, d ≠ []) :
    splitAtWord 'y' (written css) = css.map writtenDisjunction :=
  splitAtWord_joinWith (by decide) (by simpa) <|
    List.forall_mem_map.mpr fun d hm => worded_writtenDisjunction (hd d hm) (.inl rfl)

theorem splitAtWord_writtenDisjunction (hd : d ≠ []) :
    splitAtWord 'o' (writtenDisjunction d) = d.map (·.written) :=
  splitAtWord_joinWith (by decide) (by simpa) <|
    List.forall_mem_map.mpr fun l _ => l.worded (.inr (.inl rfl))

theorem readConjuncts_written {symbolOf : Term → σ} (hc : css ≠ []) (hd : ∀ d ∈ css, d ≠ [])
    (hs : ∀ d ∈ css, ∀ l ∈ d,
      (bestMatch ps l.symbol.text).map (·.symbol) = some (symbolOf l.symbol)) :
    readConjuncts ps (written css) =
      .ok (css.map fun d => d.map fun l => ⟨l.negated, symbolOf l.symbol⟩) := by
  rw [readConjuncts, splitAtWord_written hc hd]
  refine mapM_map_eq_ok fun d hm => ?_
  rw [splitAtWord_writtenDisjunction (hd d hm)]
  exact mapM_map_eq_ok fun l hl => readLiteral_written (hs d hm l hl)

theorem terms_written (hc : css ≠ []) (hd : ∀ d ∈ css, d ≠ []) :
    terms (written css) = css.flatten.map fun l => l.symbol.text := by
  have h : (css.map writtenDisjunction).flatMap (splitAtWord 'o') =
      css.flatMap fun d => d.map (·.written) := by
    rw [List.flatMap_map]
    exact List.flatMap_congr fun d hm => splitAtWord_writtenDisjunction (hd d hm)
  rw [terms, splitAtWord_written hc hd, h]
  simp [List.flatMap, Function.comp_def, Literal.stripNegation_written]

-- The text goes on after its first literal with a space, if at all.
theorem exists_written_cons (d : List (Literal Term)) (css : List (List (Literal Term))) :
    ∃ r, (∀ c ∈ r.head?, c = ' ') ∧
      ∀ l : Literal Term, written ((l :: d) :: css) = l.written ++ r := by
  have ⟨r, hr, hd⟩ := exists_joinWith_cons ['o', ' '] (d.map (·.written))
  have ⟨r', hr', hc⟩ := exists_joinWith_cons ['y', ' '] (css.map writtenDisjunction)
  refine ⟨r ++ r', head_append_eq_space hr hr', fun l => ?_⟩
  rw [written, List.map_cons, hc, writtenDisjunction, List.map_cons, hd, List.append_assoc]

theorem exists_cons_cons {α : Type} {css : List (List α)} (hc : css ≠ [])
    (hd : ∀ d ∈ css, d ≠ []) : ∃ l d ds, css = (l :: d) :: ds := by
  match css with
  | [] => contradiction
  | [] :: _ => exact absurd rfl (hd [] (by simp))
  | (l :: d) :: ds => exact ⟨l, d, ds, rfl⟩

-- A text is denied as a whole if its first literal is denied.
theorem stripNegation_written (hc : css ≠ []) (hd : ∀ d ∈ css, d ≠ [])
    (hf : ∀ l ∈ css.flatten.head?, l.negated = false) :
    stripNegation (written css) = (false, written css) := by
  have ht := (worded_written hc hd).trim_eq
  refine (stripNegation_of_ne_denied fun t => ?_).trans (by rw [ht])
  obtain ⟨l, d, ds, rfl⟩ := exists_cons_cons hc hd
  have ⟨r, hr, hw⟩ := exists_written_cons d ds
  have hl : l.negated = false := hf l rfl
  rw [ht, hw, Literal.written, hl]
  exact l.symbol.ne_denied hr t

theorem stripNegation_denied_written (hc : css ≠ []) (hd : ∀ d ∈ css, d ≠ []) :
    stripNegation (denied (written css)) = (true, written css) := by
  have hw := worded_written hc hd
  rw [stripNegation_denied (by rw [hw.trim_eq]; exact hw.ne_nil), hw.trim_eq]

-- The terms that are looked up are those that were written, whatever their signs.
theorem unmatched?_written (hc : css ≠ []) (hd : ∀ d ∈ css, d ≠ []) :
    unmatched? ps (written css) =
      (css.flatten.map fun l => l.symbol.text).find? (isUnmatched ps) := by
  by_cases hf : ∀ l ∈ css.flatten.head?, l.negated = false
  case pos => rw [unmatched?, stripNegation_written hc hd hf, terms_written hc hd]
  case neg =>
    obtain ⟨l, d, ds, rfl⟩ := exists_cons_cons hc hd
    obtain ⟨r, hr, hw⟩ := exists_written_cons d ds
    have hl : l.negated = true := by simpa using hf
    let affirmed : Literal Term := ⟨false, l.symbol⟩
    have ha : written ((l :: d) :: ds) = denied (written ((affirmed :: d) :: ds)) := by
      rw [hw, hw, Literal.written, hl]
      rfl
    have hd' : ∀ d' ∈ (affirmed :: d) :: ds, d' ≠ [] := by simpa using hd
    rw [ha, unmatched?, stripNegation_denied_written (by simp) hd', terms_written (by simp) hd']
    rfl

theorem unmatched?_denied_written (hc : css ≠ []) (hd : ∀ d ∈ css, d ≠ []) :
    unmatched? ps (denied (written css)) =
      (css.flatten.map fun l => l.symbol.text).find? (isUnmatched ps) := by
  rw [unmatched?, stripNegation_denied_written hc hd, terms_written hc hd]

end Reading

section Clauses

theorem render_written (negated : Bool) (symbolOf : Term → String)
    (css : List (List (Literal Term))) :
    Clause.render String.toList
        ⟨negated, css.map fun d => d.map fun l => ⟨l.negated, symbolOf l.symbol⟩⟩ =
      denyIf negated (chain .and (css.map fun d =>
        chain .or (d.map fun l => denyIf l.negated (symbolOf l.symbol).toList))) := by
  simp [Clause.render, Literal.render, Function.comp_def]

-- A clause is read as what it was written from, or else its first term that speaks of no
-- proposition is told.
theorem uncheckedClause_written (ns : List Named) (hc : css ≠ []) (hd : ∀ d ∈ css, d ≠ []) :
    let ask (s : List Char) := uncheckedClause (ns.map Proposition.declared) (String.ofList s)
    (∀ symbolOf : Term → String,
      (∀ d ∈ css, ∀ l ∈ d,
        (bestMatch ns l.symbol.text).map (·.symbol) = some (symbolOf l.symbol)) →
      let flat := chain .and (css.map fun d =>
        chain .or (d.map fun l => denyIf l.negated (symbolOf l.symbol).toList))
      ((∀ l ∈ css.flatten.head?, l.negated = false) →
        ask (written css) = .ok (.str (String.ofList flat))) ∧
      ask (denied (written css)) = .ok (.str (String.ofList ('¬' :: flat)))) ∧
    ∀ term, (css.flatten.map fun l => l.symbol.text).find? (fun t => (bestMatch ns t).isNone) =
        some term →
      ask (written css) = .error (.unmatched term) ∧
      ask (denied (written css)) = .error (.unmatched term) := by
  intro ask
  have ha (s : List Char) : ask s = _ := uncheckedClause_declared ns (String.ofList s)
  simp only [String.toList_ofList] at ha
  refine ⟨fun symbolOf hs => ⟨fun hf => ?_, ?_⟩, fun term ht => ⟨?_, ?_⟩⟩
  · rw [ha, readClause_eq, stripNegation_written hc hd hf, readConjuncts_written hc hd hs]
    simp only [Except.map, translate_ok, render_written]
    rfl
  · rw [ha, readClause_eq, stripNegation_denied_written hc hd, readConjuncts_written hc hd hs]
    simp only [Except.map, translate_ok, render_written]
    rfl
  · rw [ha, readClause_eq_error (unmatched?_written hc hd ▸ ht)]
    rfl
  · rw [ha, readClause_eq_error (unmatched?_denied_written hc hd ▸ ht)]
    rfl

theorem uncheckedClause_written_rain :
    let ns : List Named := [⟨"p", "llueve"⟩, ⟨"q", "hace frio"⟩, ⟨"r", "nieva"⟩]
    let ask (clause : String) := uncheckedClause (ns.map Proposition.declared) clause
    ask "llueve y no hace frio o nieva" = .ok (.str "(p ∧ (¬q ∨ r))") ∧
    ask "no llueve y no hace frio o nieva" = .ok (.str "¬(p ∧ (¬q ∨ r))") ∧
    ask "no llueve o truena" = .error (.unmatched "truena".toList) := by
  intro ns ask
  let rain : Term := ⟨["llueve".toList], by decide, by decide +kernel, by decide, by decide⟩
  let cold : Term :=
    ⟨["hace".toList, "frio".toList], by decide, by decide +kernel, by decide, by decide⟩
  let snow : Term := ⟨["nieva".toList], by decide, by decide +kernel, by decide, by decide⟩
  let thunder : Term := ⟨["truena".toList], by decide, by decide +kernel, by decide, by decide⟩
  let symbolOf (t : Term) : String :=
    if t.text = rain.text then "p" else if t.text = cold.text then "q" else "r"
  let css : List (List (Literal Term)) := [[⟨false, rain⟩], [⟨true, cold⟩, ⟨false, snow⟩]]
  let css' : List (List (Literal Term)) := [[⟨true, rain⟩, ⟨false, thunder⟩]]
  have hc : css ≠ [] := by simp [css]
  have hc' : css' ≠ [] := by simp [css']
  have ⟨hs, _⟩ := uncheckedClause_written ns hc (by simp [css])
  have ⟨_, hu⟩ := uncheckedClause_written ns hc' (by simp [css'])
  have ⟨hp, hn⟩ := hs symbolOf (by decide +kernel)
  have ⟨hu, _⟩ := hu "truena".toList (by decide +kernel)
  have h : "llueve y no hace frio o nieva" = String.ofList (written css) := by decide +kernel
  have h' : "no llueve o truena" = String.ofList (written css') := by decide +kernel
  have hd : "no llueve y no hace frio o nieva" = String.ofList (denied (written css)) := by
    decide +kernel
  refine ⟨(congrArg ask h).trans ?_, (congrArg ask hd).trans ?_, (congrArg ask h').trans hu⟩
  · exact (hp (by simp [css])).trans (by decide +kernel)
  · exact hn.trans (by decide +kernel)

end Clauses

end Enunciado.Prose
