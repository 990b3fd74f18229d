import Lending.Proofs.Rules.Declaration
import Lending.Proofs.Rules.Grammar
import Mathlib.Data.List.Basic

/-! # Acceptance of rules texts

A rules text can be read exactly where its lines follow the grammar. What has been read so far
depends only on the contents of the lines: each rule line adds its rule, with its number, and the
one fallback line gives the fallback.
-/

namespace Lending.RulesText

open Text

/-- What a line says: the part before a comment, without the gaps around it. -/
def content (line : List CodePoint) : List CodePoint :=
  ((line.takeWhile (· ≠ .char '#')).dropWhile isGap).rdropWhile isGap

theorem uncommented_eq_content (line : List CodePoint) : uncommented line = content line := by
  rw [uncommented, stripBy_eq_rdropWhile, fst_cutAt, content]
  congr
  funext c
  by_cases h : c = .char '#' <;> simp [h]

def priorityStart : List CodePoint := ("priority:" : Text).toList

def fallbackStart : List CodePoint := ("fallback-policy:" : Text).toList

def IsRuleContent (c : List CodePoint) : Prop :=
  c ≠ [] ∧ ¬ priorityStart <+: c ∧ ¬ fallbackStart <+: c

instance : DecidablePred IsRuleContent := fun c =>
  inferInstanceAs (Decidable (c ≠ [] ∧ ¬ priorityStart <+: c ∧ ¬ fallbackStart <+: c))

theorem fallback_is_no_priority (body : List CodePoint) :
    ¬ priorityStart <+: fallbackStart ++ body := by
  simp [priorityStart, fallbackStart, Text.ofString, Text.ofChars]

section Content

variable {line body c : List CodePoint}

theorem contentOf_of_nil (h : content line = []) : contentOf line = .nothing := by
  simp [contentOf, uncommented_eq_content, h]

theorem contentOf_of_priority (h : content line = priorityStart ++ body) :
    contentOf line = .priority body := by
  have ha : afterStart ("priority:" : Text).toList (priorityStart ++ body) = some body :=
    afterStart_eq_some_iff.mpr rfl
  have hn : priorityStart ++ body ≠ [] := by simp [priorityStart, Text.ofString, Text.ofChars]
  simp [contentOf, uncommented_eq_content, h, ha, hn]

theorem contentOf_of_fallback (h : content line = fallbackStart ++ body) :
    contentOf line = .fallback body := by
  have hp : afterStart ("priority:" : Text).toList (fallbackStart ++ body) = none :=
    afterStart_eq_none_iff.mpr (fallback_is_no_priority body)
  have ha : afterStart ("fallback-policy:" : Text).toList (fallbackStart ++ body) = some body :=
    afterStart_eq_some_iff.mpr rfl
  have hn : fallbackStart ++ body ≠ [] := by simp [fallbackStart, Text.ofString, Text.ofChars]
  simp [contentOf, uncommented_eq_content, h, hp, ha, hn]

theorem contentOf_of_rule (h : IsRuleContent (content line)) :
    contentOf line = .rule (content line) := by
  obtain ⟨hn, hp, hf⟩ := h
  have hp' := afterStart_eq_none_iff.mpr hp
  have hf' := afterStart_eq_none_iff.mpr hf
  simp only [priorityStart] at hp'
  simp only [fallbackStart] at hf'
  simp [contentOf, uncommented_eq_content, hn, hp', hf']

theorem content_cases (c : List CodePoint) :
    c = [] ∨ (∃ body, c = priorityStart ++ body) ∨ (∃ body, c = fallbackStart ++ body) ∨
      IsRuleContent c := by
  by_cases hn : c = []
  · exact .inl hn
  by_cases hp : priorityStart <+: c
  · obtain ⟨body, rfl⟩ := hp
    exact .inr (.inl ⟨body, rfl⟩)
  by_cases hf : fallbackStart <+: c
  · obtain ⟨body, rfl⟩ := hf
    exact .inr (.inr (.inl ⟨body, rfl⟩))
  exact .inr (.inr (.inr ⟨hn, hp, hf⟩))

end Content

theorem checkTabs_eq_ok_iff {line : List CodePoint} {u : Unit} :
    checkTabs line = .ok u ↔ .char '\t' ∉ line := by
  rw [checkTabs, ← List.idxOf?_eq_none_iff]
  split <;> simp_all

section Add

variable {d d' : Draft} {n : ℤ} {line body : List CodePoint}

theorem add_of_nil (hc : content line = []) :
    d.add n line = .ok d' ↔ .char '\t' ∉ line ∧ d = d' := by
  rw [Draft.add, contentOf_of_nil hc]
  simp only [bind_eq_ok_iff, checkTabs_eq_ok_iff, pure_eq_ok_iff, exists_const]

theorem add_of_priority (hc : content line = priorityStart ++ body) :
    d.add n line = .ok d' ↔ .char '\t' ∉ line ∧ ∃ p, priority body = .ok p ∧
      { d with priority := p } = d' := by
  rw [Draft.add, contentOf_of_priority hc]
  simp only [bind_eq_ok_iff, checkTabs_eq_ok_iff, pure_eq_ok_iff, exists_const]

theorem add_of_fallback (hc : content line = fallbackStart ++ body) :
    d.add n line = .ok d' ↔ .char '\t' ∉ line ∧ d.fallback = none ∧ ∃ a, Assigns body a ∧
      { d with fallback := some { criteria := [], policies := a, line := n } } = d' := by
  rw [Draft.add, contentOf_of_fallback hc]
  cases hf : d.fallback with
  | none =>
    simp only [bind_eq_ok_iff, checkTabs_eq_ok_iff, assignments_eq_ok_iff, pure_eq_ok_iff,
      exists_const, Option.isSome_none, Bool.false_eq_true, if_false, true_and]
  | some f => simp [bind_eq_ok_iff]

theorem add_of_rule (hc : IsRuleContent (content line)) :
    d.add n line = .ok d' ↔ .char '\t' ∉ line ∧ ∃ cs a, States (content line) cs a ∧
      { d with rules := d.rules ++ [{ criteria := cs, policies := a, line := n }] } = d' := by
  rw [Draft.add, contentOf_of_rule hc]
  simp only [bind_eq_ok_iff, checkTabs_eq_ok_iff, ruleParts_eq_ok_iff, pure_eq_ok_iff, exists_const,
    Prod.exists]

end Add

section Lines

def numbered (k : ℕ) (ls : List (List CodePoint)) : List (List CodePoint × ℕ) :=
  (ls.map content).zipIdx k

def priorityLines (k : ℕ) (ls : List (List CodePoint)) : List (List CodePoint × ℕ) :=
  (numbered k ls).filter fun l => priorityStart <+: l.1

def fallbackLines (k : ℕ) (ls : List (List CodePoint)) : List (List CodePoint × ℕ) :=
  (numbered k ls).filter fun l => fallbackStart <+: l.1

def ruleLines (k : ℕ) (ls : List (List CodePoint)) : List (List CodePoint × ℕ) :=
  (numbered k ls).filter fun l => IsRuleContent l.1

def SaysPriority (l : List CodePoint × ℕ) (p : Priority) : Prop :=
  ∃ body, l.1 = priorityStart ++ body ∧ priority body = .ok p

def SaysFallback (l : List CodePoint × ℕ) (r : Rule) : Prop :=
  ∃ body a, l.1 = fallbackStart ++ body ∧ Assigns body a ∧
    { criteria := [], policies := a, line := l.2 } = r

def SaysRule (l : List CodePoint × ℕ) (r : Rule) : Prop :=
  ∃ cs a, States l.1 cs a ∧ { criteria := cs, policies := a, line := l.2 } = r

/-- What a draft becomes by the lines from number `k` onwards. -/
@[mk_iff] structure Gives (d : Draft) (k : ℕ) (ls : List (List CodePoint)) (d' : Draft) : Prop where
  noTab : ∀ l ∈ ls, .char '\t' ∉ l
  priority : ∃ ps, List.Forall₂ SaysPriority (priorityLines k ls) ps ∧
    ps.getLastD d.priority = d'.priority
  fallback : ∃ fs, List.Forall₂ SaysFallback (fallbackLines k ls) fs ∧
    d.fallback.toList ++ fs = d'.fallback.toList
  rules : ∃ rs, List.Forall₂ SaysRule (ruleLines k ls) rs ∧ d.rules ++ rs = d'.rules

variable {k : ℕ} {l body : List CodePoint} {ls : List (List CodePoint)}

theorem saysPriority_iff {p : Priority} :
    SaysPriority (priorityStart ++ body, k) p ↔ priority body = .ok p := by
  simp [SaysPriority]

theorem saysFallback_iff {r : Rule} : SaysFallback (fallbackStart ++ body, k) r ↔
    ∃ a, Assigns body a ∧ { criteria := [], policies := a, line := k } = r := by
  simp [SaysFallback]

variable (k ls)

theorem numbered_cons (l : List CodePoint) :
    numbered k (l :: ls) = (content l, k) :: numbered (k + 1) ls := rfl

theorem lines_of_nil (hc : content l = []) :
    priorityLines k (l :: ls) = priorityLines (k + 1) ls ∧
      fallbackLines k (l :: ls) = fallbackLines (k + 1) ls ∧
      ruleLines k (l :: ls) = ruleLines (k + 1) ls := by
  have hp : ¬ priorityStart <+: ([] : List CodePoint) := by decide
  have hf : ¬ fallbackStart <+: ([] : List CodePoint) := by decide
  have hr : ¬ IsRuleContent [] := by decide
  simp [priorityLines, fallbackLines, ruleLines, numbered_cons, hc, hp, hf, hr]

theorem lines_of_priority (hc : content l = priorityStart ++ body) :
    priorityLines k (l :: ls) = (priorityStart ++ body, k) :: priorityLines (k + 1) ls ∧
      fallbackLines k (l :: ls) = fallbackLines (k + 1) ls ∧
      ruleLines k (l :: ls) = ruleLines (k + 1) ls := by
  have hp : priorityStart <+: priorityStart ++ body := ⟨body, rfl⟩
  have hf : ¬ fallbackStart <+: priorityStart ++ body := by
    simp [priorityStart, fallbackStart, Text.ofString, Text.ofChars]
  have hr : ¬ IsRuleContent (priorityStart ++ body) := fun h => h.2.1 hp
  simp [priorityLines, fallbackLines, ruleLines, numbered_cons, hc, hf, hr]

theorem lines_of_fallback (hc : content l = fallbackStart ++ body) :
    priorityLines k (l :: ls) = priorityLines (k + 1) ls ∧
      fallbackLines k (l :: ls) = (fallbackStart ++ body, k) :: fallbackLines (k + 1) ls ∧
      ruleLines k (l :: ls) = ruleLines (k + 1) ls := by
  have hp := fallback_is_no_priority body
  have hf : fallbackStart <+: fallbackStart ++ body := ⟨body, rfl⟩
  have hr : ¬ IsRuleContent (fallbackStart ++ body) := fun h => h.2.2 hf
  simp [priorityLines, fallbackLines, ruleLines, numbered_cons, hc, hp, hr]

theorem lines_of_rule (hc : IsRuleContent (content l)) :
    priorityLines k (l :: ls) = priorityLines (k + 1) ls ∧
      fallbackLines k (l :: ls) = fallbackLines (k + 1) ls ∧
      ruleLines k (l :: ls) = (content l, k) :: ruleLines (k + 1) ls := by
  simp [priorityLines, fallbackLines, ruleLines, numbered_cons, hc, hc.2.1, hc.2.2]

variable {k ls} {d d' : Draft}

theorem gives_nil_iff : Gives d k [] d' ↔ d = d' := by
  constructor
  · rintro ⟨-, ⟨_, ⟨⟩, hp⟩, ⟨_, ⟨⟩, hf⟩, ⟨_, ⟨⟩, hr⟩⟩
    have hf' : d.fallback = d'.fallback := by
      cases hd : d.fallback <;> cases hd' : d'.fallback <;> simp_all
    cases d
    cases d'
    simp_all
  · rintro rfl
    exact ⟨by simp, ⟨[], .nil, rfl⟩, ⟨[], .nil, by simp⟩, ⟨[], .nil, by simp⟩⟩

theorem gives_of_nil (hc : content l = []) :
    Gives d k (l :: ls) d' ↔ .char '\t' ∉ l ∧ Gives d (k + 1) ls d' := by
  obtain ⟨hp, hf, hr⟩ := lines_of_nil k ls hc
  simp only [gives_iff, List.forall_mem_cons, hp, hf, hr, and_assoc]

theorem gives_of_priority (hc : content l = priorityStart ++ body) :
    Gives d k (l :: ls) d' ↔ .char '\t' ∉ l ∧ ∃ p, priority body = .ok p ∧
      Gives { d with priority := p } (k + 1) ls d' := by
  obtain ⟨hp, hf, hr⟩ := lines_of_priority k ls hc
  simp only [gives_iff, List.forall_mem_cons, hp, hf, hr, exists_forall₂_cons_iff,
    saysPriority_iff, List.getLastD_cons]
  constructor
  · rintro ⟨⟨ht, hts⟩, ⟨p, hp, hps⟩, hf, hr⟩
    exact ⟨ht, p, hp, hts, hps, hf, hr⟩
  · rintro ⟨ht, p, hp, hts, hps, hf, hr⟩
    exact ⟨⟨ht, hts⟩, ⟨p, hp, hps⟩, hf, hr⟩

theorem gives_of_fallback (hc : content l = fallbackStart ++ body) :
    Gives d k (l :: ls) d' ↔ .char '\t' ∉ l ∧ d.fallback = none ∧ ∃ a, Assigns body a ∧
      Gives { d with fallback := some { criteria := [], policies := a, line := k } } (k + 1) ls
        d' := by
  obtain ⟨hp, hf, hr⟩ := lines_of_fallback k ls hc
  simp only [gives_iff, List.forall_mem_cons, hp, hf, hr, exists_forall₂_cons_iff,
    saysFallback_iff]
  constructor
  · rintro ⟨⟨ht, hts⟩, hp, ⟨f, ⟨a, ha, rfl⟩, fs, hfs, he⟩, hr⟩
    have hn : d.fallback = none := by
      have hl := congrArg List.length he
      cases hd : d.fallback <;> cases hd' : d'.fallback <;> simp_all
    exact ⟨ht, hn, a, ha, hts, hp, ⟨fs, hfs, by simpa [hn] using he⟩, hr⟩
  · rintro ⟨ht, hn, a, ha, hts, hp, ⟨fs, hfs, he⟩, hr⟩
    exact ⟨⟨ht, hts⟩, hp, ⟨_, ⟨a, ha, rfl⟩, fs, hfs, by simpa [hn] using he⟩, hr⟩

theorem gives_of_rule (hc : IsRuleContent (content l)) :
    Gives d k (l :: ls) d' ↔ .char '\t' ∉ l ∧ ∃ cs a, States (content l) cs a ∧
      Gives { d with rules := d.rules ++ [{ criteria := cs, policies := a, line := k }] } (k + 1)
        ls d' := by
  obtain ⟨hp, hf, hr⟩ := lines_of_rule k ls hc
  simp only [gives_iff, List.forall_mem_cons, hp, hf, hr, exists_forall₂_cons_iff, SaysRule,
    List.append_assoc, List.singleton_append]
  constructor
  · rintro ⟨⟨ht, hts⟩, hp, hf, r, ⟨cs, a, hs, rfl⟩, hrs⟩
    exact ⟨ht, cs, a, hs, hts, hp, hf, hrs⟩
  · rintro ⟨ht, cs, a, hs, hts, hp, hf, hrs⟩
    exact ⟨⟨ht, hts⟩, hp, hf, _, ⟨cs, a, hs, rfl⟩, hrs⟩

theorem addLines_eq_ok_iff : d.addLines k ls = .ok d' ↔ Gives d k ls d' := by
  induction ls generalizing d k with
  | nil => simp [Draft.addLines, gives_nil_iff]
  | cons l ls ih =>
    have hcons : d.addLines k (l :: ls) = .ok d' ↔
        ∃ d₁, d.add k l = .ok d₁ ∧ Gives d₁ (k + 1) ls d' := by
      rw [Draft.addLines]
      cases d.add k l with
      | ok d₁ => simpa using ih (d := d₁) (k := k + 1)
      | error fault => simp
    rw [hcons]
    -- A content changes one part of the draft, and stands in the list of that part alone.
    rcases content_cases (content l) with hc | ⟨body, hc⟩ | ⟨body, hc⟩ | hc
    · simp only [add_of_nil hc, gives_of_nil hc, and_assoc, exists_and_left, exists_eq_left']
    · rw [gives_of_priority hc]
      simp only [add_of_priority hc]
      constructor
      · rintro ⟨_, ⟨ht, p, hp, rfl⟩, h⟩
        exact ⟨ht, p, hp, h⟩
      · rintro ⟨ht, p, hp, h⟩
        exact ⟨_, ⟨ht, p, hp, rfl⟩, h⟩
    · rw [gives_of_fallback hc]
      simp only [add_of_fallback hc]
      constructor
      · rintro ⟨_, ⟨ht, hf, a, ha, rfl⟩, h⟩
        exact ⟨ht, hf, a, ha, h⟩
      · rintro ⟨ht, hf, a, ha, h⟩
        exact ⟨_, ⟨ht, hf, a, ha, rfl⟩, h⟩
    · rw [gives_of_rule hc]
      simp only [add_of_rule hc]
      constructor
      · rintro ⟨_, ⟨ht, cs, a, hs, rfl⟩, h⟩
        exact ⟨ht, cs, a, hs, h⟩
      · rintro ⟨ht, cs, a, hs, h⟩
        exact ⟨_, ⟨ht, cs, a, hs, rfl⟩, h⟩

theorem mem_contents_iff {c : List CodePoint} :
    c ∈ ls.map content ↔ ∃ n, (c, n) ∈ numbered k ls := by
  rw [numbered]
  generalize ls.map content = cs
  conv_lhs => rw [← List.zipIdx_map_fst k cs, List.mem_map]
  simp

theorem map_fst_fallbackLines :
    (fallbackLines k ls).map Prod.fst = (ls.map content).filter (fallbackStart <+: ·) := by
  rw [fallbackLines, numbered]
  generalize ls.map content = cs
  conv_rhs => rw [← List.zipIdx_map_fst k cs, List.filter_map]
  rfl

theorem exists_priorities_iff : (∃ ps, List.Forall₂ SaysPriority (priorityLines k ls) ps) ↔
    ∀ body, priorityStart ++ body ∈ ls.map content →
      ∀ w ∈ tokens isSeparator body, IsPriorityWord w := by
  rw [exists_forall₂_iff]
  constructor
  · intro h body hb
    obtain ⟨n, hn⟩ := mem_contents_iff.mp hb
    obtain ⟨p, body', he, hp⟩ := h _ (List.mem_filter.mpr ⟨hn, by simp⟩)
    obtain rfl := List.append_cancel_left he
    exact (priority_eq_ok_iff.mp hp).1
  · rintro h ⟨c, n⟩ hl
    obtain ⟨hc, hp⟩ := List.mem_filter.mp hl
    obtain ⟨body, rfl⟩ := of_decide_eq_true hp
    exact ⟨_, body, rfl, priority_eq_ok_iff.mpr ⟨h body (mem_contents_iff.mpr ⟨n, hc⟩), rfl⟩⟩

theorem exists_fallback_iff :
    (∃ f, List.Forall₂ SaysFallback (fallbackLines k ls) [f] ∧ f.NamesAll) ↔
      ∃ body a, (ls.map content).filter (fallbackStart <+: ·) = [fallbackStart ++ body] ∧
        Assigns body a ∧ ∀ kind, kind ∈ a.map Prod.fst := by
  rw [← map_fst_fallbackLines (k := k)]
  constructor
  · rintro ⟨_, hf, hn⟩
    obtain ⟨⟨c, n⟩, _, ⟨body, a, rfl, ha, rfl⟩, ⟨⟩, he⟩ := List.forall₂_cons_right_iff.mp hf
    exact ⟨body, a, by simp [he], ha, (Rule.namesAll_iff ha.counts).mp hn⟩
  · rintro ⟨body, a, he, ha, hk⟩
    obtain ⟨⟨c, n⟩, hl, rfl⟩ := List.map_eq_singleton_iff.mp he
    rw [hl]
    exact ⟨_, .cons ⟨body, a, rfl, ha, rfl⟩ .nil, (Rule.namesAll_iff ha.counts).mpr hk⟩

theorem exists_rules_iff : (∃ rs, List.Forall₂ SaysRule (ruleLines k ls) rs) ↔
    ∀ c ∈ ls.map content, IsRuleContent c → ∃ cs a, States c cs a := by
  rw [exists_forall₂_iff]
  constructor
  · intro h c hc hr
    obtain ⟨n, hn⟩ := mem_contents_iff.mp hc
    obtain ⟨_, cs, a, hs, -⟩ := h _ (List.mem_filter.mpr ⟨hn, decide_eq_true hr⟩)
    exact ⟨cs, a, hs⟩
  · rintro h ⟨c, n⟩ hl
    obtain ⟨hc, hr⟩ := List.mem_filter.mp hl
    obtain ⟨cs, a, hs⟩ := h c (mem_contents_iff.mpr ⟨n, hc⟩) (of_decide_eq_true hr)
    exact ⟨_, cs, a, hs, rfl⟩

end Lines

section Read

def draftOf (d : Declaration) : Draft :=
  { priority := { order := d.priority, lastLineWins := d.lastLineWins }
    fallback := some d.fallback
    rules := d.rules }

variable {text : Text} {t : RuleTable}

theorem read_eq_ok_iff : read text = .ok t ↔
    ∃ d, Gives {} 1 (lines text.toList) (draftOf d) ∧ d.table = .ok t := by
  have hg (d : Draft) : Draft.addLines {} 1 (lines text.toList) = .ok d ↔
      Gives {} 1 (lines text.toList) d := addLines_eq_ok_iff (k := 1)
  simp only [read, ofLines, bind_eq_ok_iff, hg]
  constructor
  · rintro ⟨⟨⟨order, lastLineWins⟩, _ | fallback, rules⟩, hd, ht⟩
    · cases ht
    · exact ⟨⟨rules, fallback, order, lastLineWins⟩, hd, ht⟩
  · rintro ⟨d, hd, ht⟩
    exact ⟨draftOf d, hd, ht⟩

/-- Lines without tabs that have the forms of their contents, one fallback line among them. -/
structure Grammatical (ls : List (List CodePoint)) : Prop where
  noTab : ∀ l ∈ ls, .char '\t' ∉ l
  priority : ∀ body, priorityStart ++ body ∈ ls.map content →
    ∀ w ∈ tokens isSeparator body, IsPriorityWord w
  fallback : ∃ body a, (ls.map content).filter (fallbackStart <+: ·) = [fallbackStart ++ body] ∧
    Assigns body a ∧ ∀ kind, kind ∈ a.map Prod.fst
  rule : ∀ c ∈ ls.map content, IsRuleContent c → ∃ cs a, States c cs a

/-- A rules text can be read exactly where its lines follow the grammar. The table then has one rule
for every rule line, with the number of that line. -/
theorem read_accepts_grammatical (text : Text) : HasLines text.toList (lines text.toList) ∧
    ((∃ t, read text = .ok t) ↔ Grammatical (lines text.toList)) ∧
    ∀ t, read text = .ok t → ∃ declared,
      List.Forall₂ SaysRule (ruleLines 1 (lines text.toList)) declared ∧
        t.rules.Perm declared := by
  refine ⟨hasLines_lines _, ⟨?_, fun h => ?_⟩, fun t ht => ?_⟩
  · rintro ⟨t, ht⟩
    obtain ⟨d, hg, ht⟩ := read_eq_ok_iff.mp ht
    obtain ⟨ps, hps, -⟩ := hg.priority
    obtain ⟨fs, hfs, hf⟩ := hg.fallback
    obtain ⟨rs, hrs, -⟩ := hg.rules
    obtain rfl : fs = [d.fallback] := by simpa [draftOf] using hf
    exact ⟨hg.noTab, exists_priorities_iff.mp ⟨ps, hps⟩,
      exists_fallback_iff.mp ⟨d.fallback, hfs, (Declaration.table_eq_ok_iff.mp ht).1⟩,
      exists_rules_iff.mp ⟨rs, hrs⟩⟩
  · obtain ⟨ps, hps⟩ := exists_priorities_iff (k := 1).mpr h.priority
    obtain ⟨f, hf, hn⟩ := exists_fallback_iff (k := 1).mpr h.fallback
    obtain ⟨rs, hrs⟩ := exists_rules_iff (k := 1).mpr h.rule
    let p := ps.getLastD .default
    refine ⟨_, read_eq_ok_iff.mpr ⟨⟨rs, f, p.order, p.lastLineWins⟩, ?_,
      Declaration.table_eq_ok_iff.mpr ⟨hn, rfl⟩⟩⟩
    exact ⟨h.noTab, ⟨ps, hps, rfl⟩, ⟨[f], hf, rfl⟩, ⟨rs, hrs, rfl⟩⟩
  · obtain ⟨d, hg, ht⟩ := read_eq_ok_iff.mp ht
    obtain ⟨rs, hrs, hr⟩ := hg.rules
    obtain rfl : rs = d.rules := by simpa [draftOf] using hr
    exact ⟨d.rules, hrs, Declaration.rules_perm ht⟩

end Read

end Lending.RulesText
