import Lending.Proofs.Result
import Lending.Proofs.Text.Splitting
import Lending.Rules.Text

/-! # The grammar of a line

The parts of a line of a rules text as relations between the text and what it says: assignments of
policies, groups of criteria, and words of a priority line. Reading a part succeeds exactly where
its relation holds, and gives what the relation names.
-/

namespace Lending

theorem Attribute.mem_all (a : Attribute) : a ∈ all := by cases a <;> decide

theorem Attribute.ofLetter?_eq_some_iff {w : List CodePoint} {a : Attribute} :
    ofLetter? (.ofList w) = some a ↔ w = [.char a.letter] := by
  constructor
  · intro h
    have ha := List.find?_some h
    simpa [Text.ofChars] using ha
  · rintro rfl
    cases a <;> decide

theorem PolicyKind.ofLetter?_eq_some_iff {w : List CodePoint} {kind : PolicyKind} :
    ofLetter? (.ofList w) = some kind ↔ w = [.char kind.letter] := by
  constructor
  · intro h
    have hk := List.find?_some h
    simpa [Text.ofChars] using hk
  · rintro rfl
    cases kind <;> decide

theorem PolicyKind.isSome_ofLetter?_iff {w : List CodePoint} :
    (ofLetter? (.ofList w)).isSome ↔ ∃ kind : PolicyKind, w = [.char kind.letter] := by
  simp only [Option.isSome_iff_exists, ofLetter?_eq_some_iff]

namespace RulesText

open Text

noncomputable def tokens (p : CodePoint → Bool) (text : List CodePoint) : List (List CodePoint) :=
  (text.splitOnP p).filter (!·.isEmpty)

theorem words_eq_tokens (p : CodePoint → Bool) (text : List CodePoint) :
    words p text = tokens p text := words_eq_filter p text

section Assignments

variable {seen : List PolicyKind} {ws : List (List CodePoint)} {a : Assignments}

/-- A letter and an id for every policy, one after the other; no id is the letter of a kind. -/
inductive Pairs : List (List CodePoint) → Assignments → Prop where
  | nil : Pairs [] []
  | cons {kind : PolicyKind} {id : List CodePoint} {ws : List (List CodePoint)} {a : Assignments} :
      (∀ k : PolicyKind, id ≠ [.char k.letter]) → Pairs ws a →
      Pairs ([.char kind.letter] :: id :: ws) ((kind, .str (.ofList id)) :: a)

/-- The text assigns a policy to some kinds, to each of them once. -/
def Assigns (text : List CodePoint) (a : Assignments) : Prop :=
  Pairs (tokens isGap text) a ∧ (a.map Prod.fst).Nodup

theorem assignmentTokens_of_pairs (h : Pairs ws a) (hn : (a.map Prod.fst).Nodup)
    (hs : ∀ kind ∈ a.map Prod.fst, kind ∉ seen) : assignmentTokens seen ws = .ok a := by
  induction h generalizing seen with
  | nil => rfl
  | @cons kind id ws a hid _ ih =>
    obtain ⟨hk, hs⟩ := List.forall_mem_cons.mp hs
    obtain ⟨hka, hn⟩ := List.nodup_cons.mp hn
    have hrest : assignmentTokens (kind :: seen) ws = .ok a := by
      refine ih hn fun k hk' hks => ?_
      rcases List.mem_cons.mp hks with rfl | hks
      · exact hka hk'
      · exact hs k hk' hks
    have hl : PolicyKind.ofLetter? (.ofList [.char kind.letter]) = some kind :=
      PolicyKind.ofLetter?_eq_some_iff.mpr rfl
    have hid' : ¬ (PolicyKind.ofLetter? (.ofList id)).isSome := by
      rw [PolicyKind.isSome_ofLetter?_iff]
      rintro ⟨k, rfl⟩
      exact hid k rfl
    simp [assignmentTokens, hl, hk, hid', hrest, bind, Except.bind, pure, Except.pure]

theorem pairs_of_assignmentTokens (h : assignmentTokens seen ws = .ok a) :
    Pairs ws a ∧ (a.map Prod.fst).Nodup ∧ ∀ kind ∈ a.map Prod.fst, kind ∉ seen := by
  fun_induction assignmentTokens seen ws generalizing a with
  | case1 =>
    obtain rfl := Except.ok.inj h
    exact ⟨.nil, by simp, by simp⟩
  | case2 | case3 | case4 | case5 => cases h
  | case6 seen w _ kind hl hs id ws _ hid =>
    rename_i ih
    obtain ⟨b, hb, hr⟩ := bind_eq_ok_iff.mp h
    obtain rfl := pure_eq_ok_iff.mp hr
    obtain ⟨hp, hn, hks⟩ := ih hb
    obtain rfl := PolicyKind.ofLetter?_eq_some_iff.mp hl
    rw [PolicyKind.isSome_ofLetter?_iff, not_exists] at hid
    refine ⟨.cons hid hp, List.nodup_cons.mpr ⟨fun hk => ?_, hn⟩,
      List.forall_mem_cons.mpr ⟨by simpa using hs, fun k hk => ?_⟩⟩
    · exact hks kind hk List.mem_cons_self
    · exact fun hks' => hks k hk (List.mem_cons_of_mem _ hks')

theorem counts_of_pairs (h : Pairs ws a) (hw : ∀ w ∈ ws, w ≠ []) : ∀ p ∈ a, p.2.counts = true := by
  induction h with
  | nil => simp
  | cons _ _ ih =>
    simp only [List.forall_mem_cons] at hw ⊢
    exact ⟨by simp [Json.counts, hw.2.1], ih hw.2.2⟩

theorem Assigns.counts {text : List CodePoint} (h : Assigns text a) :
    ∀ p ∈ a, p.2.counts = true := by
  refine counts_of_pairs h.1 fun w hw => ?_
  rw [← words_eq_tokens] at hw
  exact ne_nil_of_mem_words hw

theorem assignments_eq_ok_iff {text : List CodePoint} :
    assignments text = .ok a ↔ Assigns text a := by
  rw [assignments, words_eq_tokens]
  constructor
  · intro h
    obtain ⟨hp, hn, -⟩ := pairs_of_assignmentTokens h
    exact ⟨hp, hn⟩
  · rintro ⟨hp, hn⟩
    exact assignmentTokens_of_pairs hp hn (by simp)

end Assignments

section Criteria

/-- A letter of a criterion and at least one value after it. -/
def Demands (group : List CodePoint) (c : Criterion) : Prop :=
  ∃ v vs, tokens isSeparator group = [.char c.subject.letter] :: v :: vs ∧
    c.values = (v :: vs).map fun w => .str (.ofList w)

/-- Groups of criteria with plus signs between them, a colon, and at least one policy. -/
def States (text : List CodePoint) (cs : List Criterion) (a : Assignments) : Prop :=
  ∃ before after, text = before ++ .char ':' :: after ∧ .char ':' ∉ before ∧
    List.Forall₂ Demands (before.splitOn (.char '+')) cs ∧ Assigns after a ∧ a ≠ []

theorem attributeOf_eq_ok_iff {w : List CodePoint} {a : Attribute} :
    attributeOf w = .ok a ↔ w = [.char a.letter] := by
  rw [← Attribute.ofLetter?_eq_some_iff, attributeOf]
  split <;> simp_all

theorem criterion_eq_ok_iff {group : List CodePoint} {c : Criterion} :
    criterion group = .ok c ↔ Demands group c := by
  rw [criterion, Demands, words_eq_tokens]
  split
  next h => simp [h]
  next w h => simp [h]
  next w vs hne h =>
    obtain ⟨v, vs, rfl⟩ := List.exists_cons_of_ne_nil hne
    simp only [bind_eq_ok_iff, pure_eq_ok_iff, attributeOf_eq_ok_iff, h]
    constructor
    · rintro ⟨a, rfl, rfl⟩
      exact ⟨v, vs, rfl, rfl⟩
    · rintro ⟨v', vs', he, hv⟩
      obtain ⟨rfl, rfl, rfl⟩ : w = [.char c.subject.letter] ∧ v = v' ∧ vs = vs' := by
        simpa using he
      exact ⟨c.subject, rfl, by rw [← hv]⟩

theorem criteria_eq_ok_iff {part : List CodePoint} {cs : List Criterion} :
    criteria part = .ok cs ↔ List.Forall₂ Demands (part.splitOn (.char '+')) cs := by
  simp only [criteria, mapM_eq_ok_iff, criterion_eq_ok_iff, pieces_eq_splitOnP,
    List.splitOn_eq_splitOnP]

theorem ruleParts_eq_ok_iff {text : List CodePoint} {cs : List Criterion} {a : Assignments} :
    ruleParts text = .ok (cs, a) ↔ States text cs a := by
  rw [ruleParts]
  split
  next before h =>
    have hn : ∀ c ∈ text, (c == .char ':') = false := cutAt_eq_none_iff.mp (by rw [h])
    refine iff_of_false (by simp) ?_
    rintro ⟨before, after, rfl, -⟩
    simpa using hn (.char ':') (by simp)
  next before after h =>
    obtain ⟨c, hc, rfl, hb⟩ := cutAt_eq_some_iff.mp h
    obtain rfl : c = .char ':' := by simpa using hc
    have hb' : .char ':' ∉ before := fun hm => by simpa using hb _ hm
    simp only [bind_eq_ok_iff, criteria_eq_ok_iff, assignments_eq_ok_iff]
    constructor
    · rintro ⟨cs', hcs, a', ha, hr⟩
      split at hr
      · cases hr
      next hne =>
        obtain ⟨rfl, rfl⟩ := Prod.mk.inj (pure_eq_ok_iff.mp hr)
        exact ⟨before, after, rfl, hb', hcs, ha, by simpa using hne⟩
    · rintro ⟨before', after', he, hn, hcs, ha, hne⟩
      have hb : ∀ x ∈ before', (x == .char ':') = false := fun x hx => by
        simpa using ne_of_mem_of_not_mem hx hn
      have hcut := cutAt_append_cons hb (beq_self_eq_true _) after'
      rw [← he, h] at hcut
      obtain ⟨rfl, rfl⟩ : before = before' ∧ after = after' := by simpa using hcut
      exact ⟨cs, hcs, a, ha, by simp [hne, pure_eq_ok_iff]⟩

end Criteria

section Priority

theorem Keyword.ofText?_eq_some_iff {w : List CodePoint} {k : Keyword} :
    ofText? (.ofList w) = some k ↔ w = (k.text : Text).toList := by
  constructor
  · intro h
    have hk := List.find?_some h
    exact congrArg Text.toList (of_decide_eq_true hk)
  · rintro rfl
    cases k <;> decide

theorem Keyword.ofLetter?_text (k : Keyword) : Attribute.ofLetter? k.text = none := by
  cases k <;> decide

def IsPriorityWord (w : List CodePoint) : Prop :=
  (∃ a : Attribute, w = [.char a.letter]) ∨ ∃ k : Keyword, w = (k.text : Text).toList

def lettersOf (ws : List (List CodePoint)) : List Attribute :=
  ws.filterMap fun w => Attribute.ofLetter? (.ofList w)

def saysLastLine (ws : List (List CodePoint)) : Bool :=
  ws.contains (Keyword.lastLine.text : Text).toList

theorem lettersOf_keyword_cons (k : Keyword) (ws : List (List CodePoint)) :
    lettersOf ((k.text : Text).toList :: ws) = lettersOf ws :=
  List.filterMap_cons_none (Keyword.ofLetter?_text k)

theorem lettersOf_letter_cons (a : Attribute) (ws : List (List CodePoint)) :
    lettersOf ([.char a.letter] :: ws) = a :: lettersOf ws :=
  List.filterMap_cons_some (Attribute.ofLetter?_eq_some_iff.mpr rfl)

theorem saysLastLine_keyword_cons (k : Keyword) (ws : List (List CodePoint)) :
    saysLastLine ((k.text : Text).toList :: ws) = (k == .lastLine || saysLastLine ws) := by
  rw [saysLastLine, List.contains_cons]
  congr 1
  cases k <;> decide

theorem saysLastLine_letter_cons (a : Attribute) (ws : List (List CodePoint)) :
    saysLastLine ([.char a.letter] :: ws) = saysLastLine ws := by
  rw [saysLastLine, List.contains_cons]
  cases a <;> rfl

theorem priorityTokens_eq_ok_iff {ws : List (List CodePoint)} {r : List Attribute × Bool} :
    priorityTokens ws = .ok r ↔
      (∀ w ∈ ws, IsPriorityWord w) ∧ r = (lettersOf ws, saysLastLine ws) := by
  induction ws generalizing r with
  | nil => simp [priorityTokens, lettersOf, saysLastLine, eq_comm]
  | cons w ws ih =>
    rw [priorityTokens, List.forall_mem_cons]
    cases hk : Keyword.ofText? (.ofList w) with
    | some k =>
      obtain rfl := Keyword.ofText?_eq_some_iff.mp hk
      have hw : IsPriorityWord (k.text : Text).toList := .inr ⟨k, rfl⟩
      simp only [bind_eq_ok_iff, ih, pure_eq_ok_iff, hw, true_and, lettersOf_keyword_cons,
        saysLastLine_keyword_cons]
      constructor
      · rintro ⟨_, ⟨h, rfl⟩, rfl⟩
        exact ⟨h, rfl⟩
      · rintro ⟨h, rfl⟩
        exact ⟨_, ⟨h, rfl⟩, rfl⟩
    | none =>
      have hw : IsPriorityWord w ↔ ∃ a : Attribute, w = [.char a.letter] := by
        refine or_iff_left ?_
        rintro ⟨k, rfl⟩
        rw [Keyword.ofText?_eq_some_iff.mpr rfl] at hk
        cases hk
      simp only [bind_eq_ok_iff, ih, pure_eq_ok_iff, hw, attributeOf_eq_ok_iff]
      constructor
      · rintro ⟨a, rfl, _, ⟨h, rfl⟩, rfl⟩
        exact ⟨⟨⟨a, rfl⟩, h⟩, by rw [lettersOf_letter_cons, saysLastLine_letter_cons]⟩
      · rintro ⟨⟨⟨a, rfl⟩, h⟩, rfl⟩
        exact ⟨a, rfl, _, ⟨h, rfl⟩, by rw [lettersOf_letter_cons, saysLastLine_letter_cons]⟩

theorem priority_eq_ok_iff {body : List CodePoint} {p : Priority} :
    priority body = .ok p ↔ (∀ w ∈ tokens isSeparator body, IsPriorityWord w) ∧
      p = { order := completed (lettersOf (tokens isSeparator body))
            lastLineWins := saysLastLine (tokens isSeparator body) } := by
  simp only [priority, bind_eq_ok_iff, priorityTokens_eq_ok_iff, pure_eq_ok_iff, words_eq_tokens]
  constructor
  · rintro ⟨_, ⟨h, rfl⟩, rfl⟩
    exact ⟨h, rfl⟩
  · rintro ⟨h, rfl⟩
    exact ⟨_, ⟨h, rfl⟩, rfl⟩

end Priority

end RulesText

end Lending
