import Mathlib.Data.List.ReduceOption
import Enunciado.Proofs.Prose.Relationship
import Enunciado.Proofs.Prose.Terms

namespace Enunciado.Prose

variable {σ : Type} {ps : List (Proposition σ String)} {ss : List (List Char)}

-- A part of the sentences that is read at once.
inductive Block
  -- A sentence that is no conditional.
  | plain (s : List Char)
  | conditional (s : List Char)
  -- A conditional and the sentence after it, which begins with "pero".
  | pair (s t : List Char)
deriving DecidableEq

namespace Block

def sentences : Block → List (List Char)
  | plain s | conditional s => [s]
  | pair s t => [s, t]

-- `Divides ss bs` says that the sentences `ss` are divided into the blocks `bs`.
inductive Divides : List (List Char) → List Block → Prop
  | nil :
    Divides [] []
  | plain {s ss bs} :
    conditional? s = none → Divides ss bs → Divides (s :: ss) (plain s :: bs)
  | conditional {s parts ss bs} :
    conditional? s = some parts → (∀ t ∈ ss.head?, ¬startsWithPero t) →
    Divides ss bs → Divides (s :: ss) (conditional s :: bs)
  | pair {s t parts ss bs} :
    conditional? s = some parts → startsWithPero t →
    Divides ss bs → Divides (s :: t :: ss) (pair s t :: bs)

theorem exists_divides : ∀ ss, ∃ bs, Divides ss bs
  | [] => ⟨[], .nil⟩
  | s :: ss => by
    cases hs : conditional? s
    case none =>
      have ⟨bs, h⟩ := exists_divides ss
      exact ⟨_, .plain hs h⟩
    case some parts =>
      match ss with
      | [] => exact ⟨_, .conditional hs nofun .nil⟩
      | t :: ss =>
        by_cases hp : startsWithPero t
        case pos =>
          have ⟨bs, h⟩ := exists_divides ss
          exact ⟨_, .pair hs hp h⟩
        case neg =>
          have ⟨bs, h⟩ := exists_divides (t :: ss)
          exact ⟨_, .conditional hs (by simpa using hp) h⟩

namespace Divides

theorem unique (h : Divides ss bs) (h' : Divides ss bs') : bs = bs' := by
  induction h generalizing bs'
  case nil => cases h'; rfl
  case plain hs _ hi =>
    cases h'
    case plain h' => rw [hi h']
    all_goals simp_all
  case conditional hs hp _ hi =>
    cases h'
    case conditional h' => rw [hi h']
    all_goals simp_all
  case pair hs hp _ hi =>
    cases h'
    case pair h' => rw [hi h']
    all_goals simp_all

theorem flatMap_sentences (h : Divides ss bs) : bs.flatMap (·.sentences) = ss := by
  induction h <;> simp_all [sentences]

end Divides

-- What a block contributes to the relationships of a text, if anything.
inductive Gives (ps : List (Proposition σ String)) : Block → Option (Relationship (Clause σ)) → Prop
  | ignored {s e} :
    readClause ps s = .error e → Gives ps (plain s) none
  | plain {s c} :
    readClause ps s = .ok c → Gives ps (plain s) (some ⟨.plain c, s⟩)
  | conditional {s parts a c} :
    conditional? s = some parts → readClause ps parts.1 = .ok a → readClause ps parts.2 = .ok c →
    Gives ps (conditional s) (some ⟨.conditional a c, s⟩)
  | pair {s t parts parts' a c a' c'} :
    conditional? s = some parts → readClause ps parts.1 = .ok a → readClause ps parts.2 = .ok c →
    conditional? t = some parts' →
    readClause ps parts'.1 = .ok a' → readClause ps parts'.2 = .ok c' →
    Gives ps (pair s t) (some ⟨.chained a c a' c', s ++ ['.', ' '] ++ t⟩)

theorem Divides.relates (h : Divides ss bs) (hg : List.Forall₂ (Gives ps) bs gs) :
    Relates (readClause ps) (readConditional (readClause ps)) (fun _ => true) ss
      gs.reduceOption := by
  induction h generalizing gs
  case nil =>
    cases hg
    exact .nil
  case plain hs _ hi =>
    obtain _ | ⟨hb, hg⟩ := hg
    obtain hr | hr := hb
    · rw [List.reduceOption_cons_of_none]
      exact .ignored hs hr rfl (hi hg)
    · exact .plain hs hr (hi hg)
  case conditional hp _ hi =>
    obtain _ | ⟨hb, hg⟩ := hg
    obtain _ | _ | ⟨hs, ha, hc⟩ := hb
    exact .conditional hs (readConditional_eq_ok_iff.mpr ⟨ha, hc⟩) hp (hi hg)
  case pair hp _ hi =>
    obtain _ | ⟨hb, hg⟩ := hg
    obtain _ | _ | _ | ⟨hs, ha, hc, ht, ha', hc'⟩ := hb
    exact .chained hs (readConditional_eq_ok_iff.mpr ⟨ha, hc⟩) hp ht
      (readConditional_eq_ok_iff.mpr ⟨ha', hc'⟩) (hi hg)

theorem exists_of_relates
    (h : Relates (readClause ps) (readConditional (readClause ps)) (fun _ => true) ss rs) :
    ∃ bs gs, Divides ss bs ∧ List.Forall₂ (Gives ps) bs gs ∧ gs.reduceOption = rs := by
  induction h
  case nil => exact ⟨[], [], .nil, .nil, rfl⟩
  case ignored hs hr _ _ hi =>
    obtain ⟨bs, gs, hd, hg, rfl⟩ := hi
    exact ⟨_, _, .plain hs hd, .cons (.ignored hr) hg, rfl⟩
  case plain hs hr _ hi =>
    obtain ⟨bs, gs, hd, hg, rfl⟩ := hi
    exact ⟨_, _, .plain hs hd, .cons (.plain hr) hg, rfl⟩
  case conditional hs hr hp _ hi =>
    obtain ⟨bs, gs, hd, hg, rfl⟩ := hi
    have ⟨ha, hc⟩ := readConditional_eq_ok_iff.mp hr
    exact ⟨_, _, .conditional hs hp hd, .cons (.conditional hs ha hc) hg, rfl⟩
  case chained hs hr hp ht hr' _ hi =>
    obtain ⟨bs, gs, hd, hg, rfl⟩ := hi
    have ⟨ha, hc⟩ := readConditional_eq_ok_iff.mp hr
    have ⟨ha', hc'⟩ := readConditional_eq_ok_iff.mp hr'
    exact ⟨_, _, .pair hs hp hd, .cons (.pair hs ha hc ht ha' hc') hg, rfl⟩

theorem Divides.relate_eq_ok_iff (h : Divides ss bs) :
    relate (readClause ps) (readConditional (readClause ps)) (fun _ => true) ss = .ok rs ↔
      ∃ gs, List.Forall₂ (Gives ps) bs gs ∧ gs.reduceOption = rs := by
  rw [Prose.relate_eq_ok_iff]
  constructor
  case mp =>
    intro hr
    obtain ⟨bs', gs, hd, hg, hrs⟩ := exists_of_relates hr
    cases h.unique hd
    exact ⟨gs, hg, hrs⟩
  case mpr =>
    rintro ⟨gs, hg, rfl⟩
    exact h.relates hg

-- Why a conditional cannot be read: the first term of the antecedent, or else of the consequent,
-- that speaks of no proposition.
def conditionalFault? (ps : List (Proposition σ String)) (s : List Char) : Option ExtractionError :=
  (conditional? s).bind fun (a, c) => ((unmatched? ps a).or (unmatched? ps c)).map .unmatched

def fault? (ps : List (Proposition σ String)) : Block → Option ExtractionError
  | plain _ => none
  | conditional s => conditionalFault? ps s
  | pair s t =>
    (conditionalFault? ps s).or
      (if conditional? t = none then some (.continuation t) else conditionalFault? ps t)

theorem failure?_readConditional {read : List Char → Except ε γ} (parts : List Char × List Char) :
    failure? (readConditional read parts) =
      ((failure? (read parts.1)).or (failure? (read parts.2))).map .clause := by
  unfold readConditional
  cases read parts.1
  case error => rfl
  case ok => cases read parts.2 <;> rfl

theorem conditionalFault?_eq (hs : conditional? s = some parts) :
    conditionalFault? ps s =
      (failure? (readConditional (readClause ps) parts)).map ExtractionError.ofRelation := by
  have ⟨a, c⟩ := parts
  rw [failure?_readConditional, failure?_readClause, failure?_readClause, conditionalFault?, hs]
  cases ha : unmatched? ps a <;> cases hc : unmatched? ps c <;>
    simp [ha, hc, ExtractionError.ofRelation]

theorem Divides.failure?_relate (h : Divides ss bs) :
    (failure? (relate (readClause ps) (readConditional (readClause ps)) (fun _ => true) ss)).map
      ExtractionError.ofRelation = bs.findSome? (fault? ps) := by
  induction h
  case nil => rfl
  case plain s _ _ hs _ hi =>
    rw [relate, hs, List.findSome?_cons, fault?, ← hi]
    cases readClause ps s
    case error => rfl
    case ok => simp only [failure?_map]
  case conditional s parts ss _ hs hp _ hi =>
    rw [List.findSome?_cons, fault?, conditionalFault?_eq hs, ← hi, relate, hs]
    dsimp only
    cases readConditional (readClause ps) parts
    case error => rfl
    case ok ac =>
      cases ss
      case nil => rfl
      case cons =>
        simp only [List.head?_cons, Option.mem_some_iff, forall_eq', Bool.not_eq_true] at hp
        simp only [hp, Bool.false_eq_true, if_false, failure?_map]
        rfl
  case pair s t parts ss _ hs hp _ hi =>
    rw [List.findSome?_cons, fault?, conditionalFault?_eq hs, ← hi, relate, hs]
    dsimp only
    cases readConditional (readClause ps) parts
    case error => rfl
    case ok ac =>
      simp only [hp, if_true]
      cases ht : conditional? t
      case none => rfl
      case some parts' =>
        rw [conditionalFault?_eq ht]
        dsimp only
        cases readConditional (readClause ps) parts'
        case error => rfl
        case ok => simp [failure?_map]; rfl

end Block

-- Each sentence of a text is in one block. The relationships are those that the blocks give, in
-- order, and the text can not be read if there is a block that can not, of which the first counts.
theorem relationships_by_blocks (ps : List (Proposition σ String)) (text : String) :
    let ss := sentences (normalize text.toList)
    ∃ bs, Block.Divides ss bs ∧ (∀ bs', Block.Divides ss bs' → bs' = bs) ∧
      bs.flatMap (·.sentences) = ss ∧
      (∀ rs, relationships ps text = .ok rs ↔
        ∃ gs, List.Forall₂ (Block.Gives ps) bs gs ∧ gs.reduceOption = rs) ∧
      (∀ e, relationships ps text = .error e ↔
        ∃ before b after, bs = before ++ b :: after ∧ b.fault? ps = some e ∧
          ∀ b' ∈ before, b'.fault? ps = none) := by
  intro ss
  have ⟨bs, hd⟩ := Block.exists_divides ss
  refine ⟨bs, hd, fun _ h => h.unique hd, hd.flatMap_sentences, fun rs => ?_, fun e => ?_⟩
  · rw [relationships, mapError_eq_ok_iff, hd.relate_eq_ok_iff]
  · have hf : failure? (relationships ps text) = bs.findSome? (Block.fault? ps) := by
      rw [relationships, failure?_mapError, hd.failure?_relate]
    rw [← failure?_eq_some_iff, hf, List.findSome?_eq_some_iff]

end Enunciado.Prose
