import Enunciado.Proofs.History.Entries

namespace Enunciado.History

section Queue

-- What is done with a history. Reports are saved without repeated symbols in their rows, and the
-- limit is changed when the history is opened anew.
inductive Action
  | save (r : Report String) (h : ∀ row ∈ r.rows, row.IsMapping)
  | clear
  | reopen (limit : Int) (h : 1 ≤ limit)
  | entries
  | size
  | get (i : Int)

inductive Answer
  | done
  | entries (rs : List (Report Json))
  | size (n : Nat)
  | entry (r? : Option (Report Json))

structure Queue where
  limit : Nat
  reports : List (Report Json)

namespace Queue

def step (q : Queue) : Action → Queue × Answer
  | .save r _ => (⟨q.limit, (r.document :: q.reports).take q.limit⟩, .done)
  | .clear => (⟨q.limit, []⟩, .done)
  | .reopen limit _ => (⟨limit.toNat, q.reports⟩, .done)
  | .entries => (q, .entries q.reports)
  | .size => (q, .size q.reports.length)
  | .get i => (q, .entry (if 0 ≤ i ∧ i < q.reports.length then q.reports[i.toNat]? else none))

def run (q : Queue) : List Action → Queue × List Answer
  | [] => (q, [])
  | a :: as =>
    let (q, answer) := q.step a
    let (q, answers) := q.run as
    (q, answer :: answers)

end Queue

-- A history that is open, the path with which it was opened, and the directory that it is in.
structure Session where
  path : String
  history : History
  directory : Directory

namespace Session

def changed (s : Session) (c : Change HistoryError) : Except HistoryError (Session × Answer) :=
  match c.failure? with
  | some e => .error e
  | none => .ok ({ s with directory := c.directory }, .done)

def step (s : Session) : Action → Except HistoryError (Session × Answer)
  | .save r _ => s.changed (s.history.save s.directory r.document)
  | .clear => s.changed (s.history.clear s.directory)
  | .reopen limit _ =>
    (History.open s.path (.int limit)).map fun h => ({ s with history := h }, .done)
  | .entries => (s.history.entries s.directory).map fun rs => (s, .entries rs)
  | .size => (s.history.size s.directory).map fun n => (s, .size n)
  | .get i => (s.history.get? s.directory i).map fun r? => (s, .entry r?)

def run (s : Session) : List Action → Except HistoryError (Session × List Answer)
  | [] => .ok (s, [])
  | a :: as => do
    let (s, answer) ← s.step a
    let (s, answers) ← s.run as
    return (s, answer :: answers)

end Session

end Queue

section Refinement

variable {s s' : Session} {q q' : Queue} {h h' : History} {d d' : Directory} {raw : List Json}
  {e : HistoryError} {f : FileError} {α : Type}

def Session.Writable (s : Session) : Prop :=
  s.history.Writable s.directory

-- The session stands for the queue: its history holds the reports of the queue.
structure Represents (s : Session) (q : Queue) : Prop where
  opened  : s.history.path = .ofString s.path
  limit   : s.history.limit = .ok q.limit
  single  : s.directory.Single s.history.path
  entries : s.history.entries s.directory = .ok q.reports

-- A value as `P` says; else the file system has refused something, which it does only where a file
-- of the history cannot be written.
def Unrefused (h : History) (d : Directory) (x : Except HistoryError α) (P : α → Prop) : Prop :=
  match x with
  | .ok a => P a
  | .error e => (∃ f, e = .file f) ∧ ¬h.Writable d

namespace Unrefused

variable {x : Except HistoryError α} {g : α → Except HistoryError β} {P : α → Prop} {Q : β → Prop}

theorem imp {P' : α → Prop} (hx : h.Unrefused d x P) (hp : ∀ a, P a → P' a) :
    h.Unrefused d x P' := by
  cases x
  case error => exact hx
  case ok a => exact hp a hx

theorem weaken (hx : h'.Unrefused d' x P) (hw : h.Writable d → h'.Writable d') :
    h.Unrefused d x P := by
  cases x
  case error => exact ⟨hx.1, mt hw hx.2⟩
  case ok => exact hx

theorem bind (hx : h.Unrefused d x P) (hg : ∀ a, P a → h.Unrefused d (g a) Q) :
    h.Unrefused d (x >>= g) Q := by
  cases x
  case error => exact hx
  case ok a => exact hg a hx

theorem entries (hn : ∀ n, h.entries d ≠ .error (.tooManyDigits n)) :
    h.Unrefused d (h.entries d) fun rs => h.entries d = .ok rs := by
  cases hs : h.entries d
  case ok => rfl
  case error e =>
    rcases entries_failure hs with hf | ⟨n, rfl⟩
    case inr => exact absurd hs (hn n)
    refine ⟨hf, fun hw => ?_⟩
    obtain ⟨rs, hs'⟩ := hw.exists_entries hn
    cases hs'.symm.trans hs

end Unrefused

-- What comes of a step, or of a run: the answer of the queue, and a session that stands for what
-- has become of the queue. Files that can be written stay so.
structure Follows (s : Session) (q' : Queue) (answer answer' : β) (s' : Session) : Prop where
  answer     : answer' = answer
  represents : Represents s' q'
  writable   : s.Writable → s'.Writable

theorem open_int (path : String) {limit : Int} (hl : 1 ≤ limit) :
    History.open path (.int limit) = .ok ⟨.ofString path, .int limit⟩ := by
  have hu : (0 : Int) ≤ Magnitude.unitsPerOne := Int.natCast_nonneg _
  have hn : (Number.int limit).lt (.int 1) = false :=
    decide_eq_false (Int.not_lt.mpr (Int.mul_le_mul_of_nonneg_right hl hu))
  simp [History.open, Number.ofJson?, hn]

-- Only the path decides what is stored and whether it can be written.
theorem stored_congr (hp : h.path = h'.path) (d : Directory) : h.stored d = h'.stored d := by
  rw [stored, stored, hp]

theorem entries_congr (hp : h.path = h'.path) (d : Directory) : h.entries d = h'.entries d := by
  rw [History.entries, History.entries, stored_congr hp]

theorem Writable.congr (hw : h.Writable d) (hp : h.path = h'.path) : h'.Writable d := by
  obtain ⟨path, limit⟩ := h
  cases hp
  exact ⟨hw.path, hw.draft⟩

-- After a report is saved, what is in the file is what is stored.
theorem Represents.save (hr : Represents s q) {r : Report String}
    (hm : ∀ row ∈ r.rows, row.IsMapping)
    (hd : s.history.save s.directory r.document = .done d) :
    ∃ raw, s.history.stored s.directory = .ok raw ∧
      s.history.stored d = .ok (keep q.limit r.document raw) ∧
      d.read s.history.path s.history.path.toString =
        .ok (encode (keep q.limit r.document raw)) ∧
      Represents { s with directory := d } ⟨q.limit, (r.document :: q.reports).take q.limit⟩ := by
  obtain ⟨raw, hs, -⟩ := map_eq_ok_iff.mp hr.entries
  obtain ⟨place, hp, hf⟩ := save_of_done hs hr.limit hd
  refine ⟨raw, hs, stored_of_save hs hr.limit hm hd, read_of_reaches hp hf, hr.opened, hr.limit,
    hp.single, entries_of_save hr.entries hr.limit hm hd⟩

theorem Represents.clear (hr : Represents s q) (hd : s.history.clear s.directory = .done d) :
    Represents { s with directory := d } ⟨q.limit, []⟩ := by
  have ⟨hsingle, hs⟩ := clear_of_done hr.single hd
  refine ⟨hr.opened, hr.limit, hsingle, ?_⟩
  rw [History.entries, hs]
  rfl

-- A change of the directory does what it has to, if the file system lets it.
theorem follows_changed {c : Change HistoryError}
    (hf : ∀ e, c.failure? = some e → ∃ f, e = .file f)
    (hw : s.Writable → ∃ d', c = .done d' ∧ s.history.Writable d')
    (hd : ∀ d', c = .done d' → Represents { s with directory := d' } q') :
    Unrefused s.history s.directory (s.changed c) fun (s', answer) =>
      Follows s q' .done answer s' := by
  obtain ⟨d', failure?⟩ := c
  cases failure?
  case some e =>
    refine ⟨hf e rfl, fun hs => ?_⟩
    obtain ⟨_, hc, -⟩ := hw hs
    cases hc
  case none =>
    refine ⟨rfl, hd d' rfl, fun hs => ?_⟩
    obtain ⟨_, hc, hw⟩ := hw hs
    cases hc
    exact hw

-- Each step answers as the queue does, and leaves a session that stands for the queue.
theorem Represents.step (hr : Represents s q) (a : Action) :
    Unrefused s.history s.directory (s.step a) fun (s', answer) =>
      Follows s (q.step a).1 (q.step a).2 answer s' := by
  cases a
  case save r hm =>
    obtain ⟨raw, hs, -⟩ := map_eq_ok_iff.mp hr.entries
    refine follows_changed (fun e => save_failure hs hr.limit hm)
      (fun hw => Writable.save hw hs hr.limit hm) fun d' hd => ?_
    obtain ⟨_, -, -, -, hr⟩ := hr.save hm hd
    exact hr
  case clear => exact follows_changed (fun e => clear_failure) Writable.clear fun d' => hr.clear
  case reopen limit hl =>
    rw [Session.step, open_int s.path hl]
    refine ⟨rfl, ⟨rfl, rfl, ?_, (entries_congr hr.opened.symm _).trans hr.entries⟩, ?_⟩
    · exact hr.opened ▸ hr.single
    · exact fun hw => Writable.congr hw hr.opened
  case entries =>
    rw [Session.step, hr.entries]
    exact ⟨rfl, hr, id⟩
  case size =>
    rw [Session.step, History.size, hr.entries]
    exact ⟨rfl, hr, id⟩
  case get i =>
    have hi : (if i < 0 then none else q.reports[i.toNat]?) =
        if 0 ≤ i ∧ i < q.reports.length then q.reports[i.toNat]? else none := by
      by_cases h₀ : i < 0
      case pos => rw [if_pos h₀, if_neg (by omega)]
      by_cases hl : i < q.reports.length
      case pos => rw [if_neg h₀, if_pos ⟨by omega, hl⟩]
      case neg => rw [if_neg h₀, if_neg (by omega), List.getElem?_eq_none (by omega)]
    rw [Session.step, History.get?, hr.entries, Queue.step, ← hi]
    exact ⟨rfl, hr, id⟩

theorem Represents.run (hr : Represents s q) (as : List Action) :
    Unrefused s.history s.directory (s.run as) fun (s', answers) =>
      Follows s (q.run as).1 (q.run as).2 answers s' := by
  induction as generalizing s q
  case nil => exact ⟨rfl, hr, id⟩
  case cons a as hi =>
    refine (hr.step a).bind fun (s₁, answer) ⟨ha, hr₁, hw₁⟩ => ?_
    refine ((hi hr₁).weaken hw₁).bind fun (s₂, answers) ⟨has, hr₂, hw₂⟩ => ?_
    exact ⟨congrArg₂ List.cons ha has, hr₂, hw₂ ∘ hw₁⟩

theorem eq_of_open {path : String} {limit : Int} (ho : History.open path (.int limit) = .ok h) :
    h = ⟨.ofString path, .int limit⟩ := by
  unfold History.open at ho
  simp only [Number.ofJson?] at ho
  split at ho <;> cases ho
  rfl

-- In any directory, whatever the history's file holds, the history answers every run of actions as
-- the queue of its reports does. What a further report is saved with is the same entries as before,
-- as far as they hold reports and there is room.
theorem answers_as_queue {path : String} {limit : Int}
    (ho : History.open path (.int limit) = .ok h) (hd : d.Single h.path)
    (hn : ∀ n, h.entries d ≠ .error (.tooManyDigits n)) :
    h.Unrefused d (h.entries d) fun rs => ∀ as : List Action,
      h.Unrefused d (Session.run ⟨path, h, d⟩ as) fun (s, answers) =>
        answers = (Queue.run ⟨limit.toNat, rs⟩ as).2 ∧
        s.history.entries s.directory = .ok (Queue.run ⟨limit.toNat, rs⟩ as).1.reports ∧
        ∀ (r : Report String) (d' : Directory), (∀ row ∈ r.rows, row.IsMapping) →
          s.history.save s.directory r.document = .done d' → ∃ raw kept,
            s.history.stored s.directory = .ok raw ∧
            kept = (r.document.toJson :: raw.filter fun v => (report? v).isSome).take
              (Queue.run ⟨limit.toNat, rs⟩ as).1.limit ∧
            s.history.stored d' = .ok kept ∧
            d'.read s.history.path s.history.path.toString = .ok (encode kept) := by
  obtain rfl := eq_of_open ho
  refine (Unrefused.entries hn).imp fun rs hs as => ?_
  have hr : Represents ⟨path, ⟨.ofString path, .int limit⟩, d⟩ ⟨limit.toNat, rs⟩ :=
    ⟨rfl, rfl, hd, hs⟩
  refine (hr.run as).imp fun (s, answers) ⟨ha, hr, _⟩ => ⟨ha, hr.entries, fun r d' hm hd => ?_⟩
  obtain ⟨raw, hraw, hstored, hread, -⟩ := hr.save hm hd
  exact ⟨raw, _, hraw, rfl, hstored, hread⟩

def rainReport : Report String :=
  ⟨"Llueve.", [⟨"p", "llueve"⟩], "p", .contingency,
    [⟨[("p", false)], false⟩, ⟨[("p", true)], true⟩], .var "p", "2026-01-01T12:00:00+00:00"⟩

-- The file holds an entry that is no report, which does not use up a place.
theorem answers_over_bad_entry :
    let bad : Json := .obj [("expression", .str "p")]
    let d : Directory := ⟨[(⟨["h.json"]⟩, encode [bad])], []⟩
    let h : History := ⟨.ofString "h.json", .int 2⟩
    let as : List Action :=
      [.save rainReport (by decide), .reopen 1 (by decide), .get 0, .get 1, .size]
    d.Accepts h.path ∧ d.Accepts h.draft ∧ h.entries d = .ok [] ∧
    ∃ s, Session.run ⟨"h.json", h, d⟩ as =
      .ok (s, [.done, .done, .entry (some rainReport.document), .entry none, .size 1]) := by
  intro bad d h as
  have hpath : h.path = ⟨["h.json"]⟩ :=
    have hn : '/' ∉ "h.json".toList ∧ "h.json".toList ∉ [[], ['.']] := by decide
    Path.ofString_name hn.1 hn.2
  have hdraft : h.draft = ⟨["h.json.tmp"]⟩ := by
    rw [draft, hpath]
    rfl
  have hr : h.Ready d ⟨["h.json"]⟩ ⟨["h.json.tmp"]⟩ := {
    named := ⟨"h.json", hpath ▸ ⟨rfl, by decide⟩⟩
    path  := hpath ▸ Directory.ready_of_name (by decide) (by decide) (by decide) (by decide)
      (by decide)
    draft := hdraft ▸ Directory.ready_of_name (by decide) (by decide) (by decide) (by decide)
      (by decide)
  }
  have hb : Storable bad := ⟨.obj (by simp) (by simpa using .str "p"), _, rfl⟩
  have he : h.entries d = .ok [] := by
    have hs : h.stored d = .ok [bad] :=
      (stored_of_reaches hr.path.toReaches).trans (entriesOfBytes_encode (by simpa using hb))
    rw [entries, hs]
    rfl
  have hq := answers_as_queue (open_int "h.json" (by decide)) hr.path.single fun n hn => by
    cases he.symm.trans hn
  rw [show h.entries d = .ok [] from he] at hq
  have hrun := hq as
  cases hs : Session.run ⟨"h.json", h, d⟩ as
  case error =>
    rw [hs] at hrun
    exact absurd hr.writable hrun.2
  case ok last =>
    rw [hs] at hrun
    obtain ⟨s, answers⟩ := last
    obtain ⟨rfl, -⟩ := hrun
    exact ⟨hr.writable.path, hr.writable.draft, he, s, rfl⟩

-- Under a name that leaves no room for that of the draft, nothing can be saved.
theorem save_under_long_name {name : String} {limit : Int} (hn : Path.hasNul name = false)
    (hs : '/' ∉ name.toList) (hp : name ∉ ["..", "/", "//"]) (hw : name.toList ∉ [[], ['.']])
    (hl : name.utf8ByteSize < Directory.nameLimit)
    (hd : Directory.nameLimit ≤ (name ++ ".tmp").utf8ByteSize) (r : Report Json) :
    History.entries ⟨.ofString name, .int limit⟩ .empty = .ok [] ∧
    History.save ⟨.ofString name, .int limit⟩ .empty r =
      .failed .empty (.file (.fault .nameTooLong (name ++ ".tmp"))) := by
  rw [Path.ofString_name hs hw]
  have hv : Directory.empty.isFolder ⟨[name]⟩ = false := by
    simp only [List.mem_cons, List.not_mem_nil, or_false, not_or] at hp
    simp [Directory.isFolder, Directory.empty, Path.root, hp]
  have hr : Directory.empty.Ready ⟨[name]⟩ ⟨[name]⟩ := Directory.ready_of_name hn hp hl rfl hv
  have hstored : History.stored ⟨⟨[name]⟩, .int limit⟩ .empty = .ok [] := by
    have hf : Directory.empty.file? ⟨[name]⟩ = none := rfl
    simp [stored, Directory.has, hr.noNul, hr.located, hf, hv]
  refine ⟨by rw [entries, hstored]; rfl, ?_⟩
  have hn' : Path.hasNul (name ++ ".tmp") = false := by
    simp only [Path.hasNul, List.contains_eq_mem, decide_eq_false_iff_not] at hn ⊢
    simp [hn]
  have hends : (⟨[name]⟩ : Path).EndsIn name := ⟨rfl, hp⟩
  have hdep (bytes : ByteArray) : Directory.empty.deposit (draft ⟨⟨[name]⟩, .int limit⟩) bytes =
      .failed .empty (.fault .nameTooLong (name ++ ".tmp")) :=
    Directory.deposit_of_long_name hn' hends.draft.2 hd rfl bytes
  simp only [History.save, hstored, hdep]
  rfl

def repeatedName (n : Nat) : String :=
  String.ofList (List.replicate n 'x')

theorem utf8ByteSize_repeatedName (n : Nat) : (repeatedName n).utf8ByteSize = n := by
  induction n
  case zero => rfl
  case succ n hi =>
    rw [repeatedName, List.replicate_succ, String.ofList_cons, String.utf8ByteSize_append,
      ← repeatedName, hi]
    exact Nat.add_comm ..

theorem mem_repeatedName {c : Char} {n : Nat} : c ∈ (repeatedName n).toList ↔ n ≠ 0 ∧ c = 'x' := by
  rw [repeatedName, String.toList_ofList, List.mem_replicate]

theorem not_saved_under_long_name :
    let name := repeatedName 252
    let h : History := ⟨.ofString name, .int 10⟩
    let as : List Action := [.save rainReport (by decide), .size]
    History.open name (.int 10) = .ok h ∧ h.entries .empty = .ok [] ∧
    Session.run ⟨name, h, .empty⟩ as = .error (.file (.fault .nameTooLong (name ++ ".tmp"))) ∧
    (Queue.run ⟨10, []⟩ as).2 = [.done, .size 1] := by
  intro name h as
  have hsize : name.utf8ByteSize = 252 := utf8ByteSize_repeatedName 252
  have hx : 'x' ∈ name.toList := mem_repeatedName.mpr ⟨by decide, rfl⟩
  have hn : Path.hasNul name = false := by
    rw [Path.hasNul, List.contains_eq_mem, decide_eq_false_iff_not, mem_repeatedName]
    decide
  have hs : '/' ∉ name.toList := by
    rw [mem_repeatedName]
    decide
  have hp : name ∉ ["..", "/", "//"] := fun hm =>
    have hno : ∀ s ∈ ["..", "/", "//"], 'x' ∉ s.toList := by decide
    hno name hm hx
  have hw : name.toList ∉ [[], ['.']] := fun hm =>
    have hno : ∀ s ∈ [[], ['.']], 'x' ∉ s := by decide
    hno _ hm hx
  have hdraft : (name ++ ".tmp").utf8ByteSize = 256 := by
    rw [String.utf8ByteSize_append, hsize]
    rfl
  obtain ⟨he, hsave⟩ : h.entries .empty = .ok [] ∧ _ :=
    save_under_long_name hn hs hp hw (hsize ▸ by decide) (hdraft ▸ by decide) rainReport.document
  refine ⟨open_int name (by decide), he, ?_, rfl⟩
  rw [Session.run, Session.step, hsave]
  rfl

end Refinement

end Enunciado.History
